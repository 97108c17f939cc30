import Guidebook.Json.Printer
import Guidebook.Proofs.Numerals
import Mathlib.Data.List.TakeDrop
import Mathlib.Data.Option.Basic

/-!
# Reading JSON that was written

`Written` says which texts write a value: what stands between two tokens is up to
the writer, everything else is not.  The reader gives back the value of every such
text that keeps to its limit of levels, and both printers write such texts.  So a
value without floating-point numbers is read back from either of its written
forms.
-/

namespace Guidebook.Json

/-! ## Texts that write a value -/

/-- Only characters that may stand between two tokens. -/
def IsGap (text : List Char) : Prop :=
  ∀ c ∈ text, isSpace c = true

instance (text : List Char) : Decidable (IsGap text) :=
  List.decidableBAll _ text

/-- The gaps that a writer leaves in an array or an object. -/
structure Layout where
  before : List Char
  between : List Char
  after : List Char
  afterColon : List Char
  before_gap : IsGap before
  between_gap : IsGap between
  after_gap : IsGap after
  afterColon_gap : IsGap afterColon

namespace Layout

/-- The parts of an array or an object, with commas between them. -/
def joined (layout : Layout) (parts : List (List Char)) : List Char :=
  List.intercalate (',' :: layout.between) parts

/-- An array or an object of parts. -/
def enclosed (layout : Layout) (opening closing : Char) (parts : List (List Char)) : List Char :=
  opening :: (layout.before ++ (layout.joined parts ++ (layout.after ++ [closing])))

/-- A field of an object. -/
def field (layout : Layout) (key : String) (value : List Char) : List Char :=
  (quote key).toList ++ ':' :: (layout.afterColon ++ value)

/-- No gaps at all. -/
def tight : Layout := ⟨[], [], [], [], by decide, by decide, by decide, by decide⟩

end Layout

/-- A text that writes a value of at most so many levels; an object is written with its
fields in any order. -/
inductive Written : (levels : Nat) → Json → (text : List Char) → Prop where
  | null {levels : Nat} : Written levels .null "null".toList
  | bool {levels : Nat} {value : Bool} :
      Written levels (.bool value) (if value then "true" else "false").toList
  | int {levels : Nat} {value : Int} (holds : Word.holdsEither 64 value = true) :
      Written levels (.int value) (toString value).toList
  | str {levels : Nat} {value : String} : Written levels (.str value) (quote value).toList
  | arr {levels : Nat} {parts : List (Json × List Char)} (layout : Layout)
      (each : ∀ part ∈ parts, Written levels part.1 part.2) :
      Written (levels + 1) (.arr (parts.map (·.1))) (layout.enclosed '[' ']' (parts.map (·.2)))
  | obj {levels : Nat} {parts : List (String × Json × List Char)} (layout : Layout)
      (each : ∀ part ∈ parts, Written levels part.2.1 part.2.2) :
      Written (levels + 1) (.obj (Keyed.ofList (parts.map fun part => (part.1, part.2.1))))
        (layout.enclosed '\x7b' '\x7d' (parts.map fun part => layout.field part.1 part.2.2))

/-! ## Strings -/

theorem hexDigit?_digitChar {digit : Nat} (bound : digit < 16) :
    hexDigit? (Nat.digitChar digit) = some digit := by
  have all : ∀ digit < 16, hexDigit? (Nat.digitChar digit) = some digit := by decide
  exact all digit bound

/-- A control character is read back from its number. -/
theorem numberedEscape?_hexByte {c : Char} (control : c.toNat < 32) (rest : List Char) :
    numberedEscape? ('0' :: '0' :: (hexByte c.toNat ++ rest)) = some (c, rest) := by
  have zero : hexDigit? '0' = some 0 := by decide
  have high := hexDigit?_digitChar (show c.toNat / 16 < 16 by omega)
  have low := hexDigit?_digitChar (show c.toNat % 16 < 16 by omega)
  have code : ((0 * 16 + 0) * 16 + c.toNat / 16) * 16 + c.toNat % 16 = c.toNat := by omega
  have quad : hexQuad? ('0' :: '0' :: (hexByte c.toNat ++ rest)) = some (c.toNat, rest) := by
    simp only [hexByte, List.cons_append, List.nil_append, hexQuad?, zero, high, low, code,
      Option.bind_eq_bind, Option.bind_some, Option.pure_def]
  rw [numberedEscape?, quad]
  simp only [Option.bind_eq_bind, Option.bind_some, Option.pure_def]
  rw [if_neg (by omega), if_neg (by omega), Char.ofNat_toNat]

/-- One character of a string is read back from its written form. -/
theorem readString_escapeChar (read : List Char) (fuel : Nat) (c : Char) (rest : List Char) :
    readString read (fuel + 1) (escapeChar c ++ rest) = readString (c :: read) fuel rest := by
  unfold escapeChar
  split
  · rfl
  · rfl
  · rfl
  · rfl
  · rfl
  · rfl
  · rfl
  -- The control characters that have no letter, and the characters that stand for themselves.
  next quoteless slashless _ _ _ _ _ =>
    split
    · next control =>
        have code : c.toNat < 32 := UInt32.lt_iff_toNat_lt.mp control
        rw [List.append_assoc]
        change (numberedEscape? ('0' :: '0' :: (hexByte c.toNat ++ rest)) >>= _) = _
        rw [numberedEscape?_hexByte code]
        rfl
    · next solid =>
        rw [List.singleton_append, readString.eq_def]
        dsimp only
        split
        · next nothing => cases nothing
        · next same => exact absurd (List.cons.inj same).1 quoteless
        · next same => exact absurd (List.cons.inj same).1 slashless
        · next same => exact absurd (List.cons.inj same).1 slashless
        · next same =>
            cases same
            rw [if_neg solid]

theorem readString_escaped (read chars : List Char) {fuel : Nat} (enough : chars.length < fuel)
    (rest : List Char) :
    readString read fuel (chars.flatMap escapeChar ++ '"' :: rest) =
      some (String.ofList (read.reverse ++ chars), rest) := by
  induction chars generalizing read fuel with
  | nil =>
      obtain ⟨fuel, rfl⟩ := Nat.exists_eq_add_one_of_ne_zero (Nat.ne_zero_of_lt enough)
      simp [readString]
  | cons c chars ih =>
      obtain ⟨fuel, rfl⟩ := Nat.exists_eq_add_one_of_ne_zero (Nat.ne_zero_of_lt enough)
      rw [List.flatMap_cons, List.append_assoc, readString_escapeChar,
        ih (c :: read) (by simpa using enough)]
      simp

/-! ## Numbers -/

/-- A text that can stand after a value. -/
def EndsValue (text : List Char) : Prop :=
  ∀ c ∈ text.head?, c = ',' ∨ c = ']' ∨ c = '\x7d' ∨ isSpace c = true

theorem EndsValue.endsDigits {text : List Char} (ends : EndsValue text) : EndsDigits text := by
  intro c first
  rcases ends c first with rfl | rfl | rfl | space
  · decide
  · decide
  · decide
  · simp only [isSpace, Bool.or_eq_true, beq_iff_eq] at space
    rcases space with ((rfl | rfl) | rfl) | rfl <;> decide

theorem EndsValue.ne {text : List Char} (ends : EndsValue text) {c : Char} {rest : List Char}
    (shape : text = c :: rest) {other : Char}
    (letter : other ≠ ',' ∧ other ≠ ']' ∧ other ≠ '\x7d' ∧ isSpace other = false) : c ≠ other := by
  rintro rfl
  rcases ends c (by rw [shape]; rfl) with same | same | same | space
  · exact letter.1 same
  · exact letter.2.1 same
  · exact letter.2.2.1 same
  · rw [letter.2.2.2] at space
    cases space

theorem ofDigits_toDigits (number : Nat) : ofDigits (Nat.toDigits 10 number) = number := by
  rw [ofDigits, foldl_digits, Nat.ofDigitChars_ten_toDigits]

theorem isDigit_of_mem_toDigits {number : Nat} {c : Char} (member : c ∈ Nat.toDigits 10 number) :
    c.isDigit = true :=
  Nat.isDigit_of_mem_toDigits (by decide) (by decide) member

/-- Only zero is written with a zero at the start. -/
theorem head?_toDigits {number : Nat} (positive : 0 < number) :
    (Nat.toDigits 10 number).head? ≠ some '0' := by
  induction number using Nat.strongRecOn with
  | ind number ih =>
      rcases Nat.lt_or_ge number 10 with small | large
      · have all : ∀ digit < 10, 0 < digit → [Nat.digitChar digit].head? ≠ some '0' := by decide
        rw [Nat.toDigits_of_lt_base small]
        exact all number small positive
      · have shorter := ih (number / 10) (by omega) (by omega)
        obtain ⟨first, others, shape⟩ :=
          List.exists_cons_of_ne_nil (Nat.toDigits_ne_nil (n := number / 10) (b := 10))
        rw [shape] at shorter
        rw [Nat.toDigits_of_base_le (by decide) large, shape]
        exact shorter

/-- A whole number is read back up to what stands after it. -/
theorem readNumber?_toDigits (negative : Bool) (number : Nat) {rest : List Char}
    (ends : EndsValue rest) :
    readNumber? negative (Nat.toDigits 10 number ++ rest) =
      some (ofInteger negative number, rest) := by
  have span : spanDigits (Nat.toDigits 10 number ++ rest) = (Nat.toDigits 10 number, rest) := by
    rw [spanDigits, List.span_eq_takeWhile_dropWhile,
      takeWhile_digits (fun c => isDigit_of_mem_toDigits) ends.endsDigits,
      dropWhile_digits (fun c => isDigit_of_mem_toDigits) ends.endsDigits]
  have nonempty : (Nat.toDigits 10 number).isEmpty = false := by
    simp [Nat.toDigits_ne_nil]
  have leading : ((Nat.toDigits 10 number).length == 1 ||
      (Nat.toDigits 10 number).head? != some '0') = true := by
    rcases Nat.eq_zero_or_pos number with rfl | positive
    · decide
    · simp [head?_toDigits positive]
  simp only [readNumber?, span, nonempty, leading, guard, Bool.not_false, if_true,
    Option.bind_eq_bind, Option.bind_some, Option.pure_def]
  split
  · exact absurd rfl (ends.ne rfl (by decide))
  · split
    · exact absurd rfl (ends.ne rfl (by decide))
    · exact absurd rfl (ends.ne rfl (by decide))
    · rw [ofDigits_toDigits]

/-! ## Gaps -/

theorem skipSpace_gap {gap : List Char} (spaces : IsGap gap) (text : List Char) :
    skipSpace (gap ++ text) = skipSpace text :=
  List.dropWhile_append_of_pos spaces

theorem skipSpace_cons {c : Char} (solid : isSpace c = false) (rest : List Char) :
    skipSpace (c :: rest) = c :: rest := by
  simp [skipSpace, solid]

theorem readValue_gap {gap : List Char} (spaces : IsGap gap) (levels fuel : Nat)
    (text : List Char) : readValue levels fuel (gap ++ text) = readValue levels fuel text := by
  cases fuel with
  | zero => rfl
  | succ fuel => simp only [readValue, skipSpace_gap spaces]

theorem endsValue_cons {c : Char} (mark : c = ',' ∨ c = ']' ∨ c = '\x7d') (rest : List Char) :
    EndsValue (c :: rest) := by
  intro other first
  cases first
  rcases mark with same | same | same
  · exact .inl same
  · exact .inr (.inl same)
  · exact .inr (.inr (.inl same))

theorem endsValue_gap {gap : List Char} (spaces : IsGap gap) {rest : List Char}
    (ends : EndsValue rest) : EndsValue (gap ++ rest) := by
  cases gap with
  | nil => exact ends
  | cons c gap =>
      intro other first
      cases first
      exact .inr (.inr (.inr (spaces c List.mem_cons_self)))

/-! ## Values -/

/-- The reader gives back a value from a text, whatever stands after the text. -/
def Reads (levels : Nat) (value : Json) (text : List Char) : Prop :=
  ∀ fuel rest, text.length ≤ fuel → EndsValue rest →
    readValue levels fuel (text ++ rest) = some (value, rest)

theorem toList_quote (text : String) :
    (quote text).toList = '"' :: (text.toList.flatMap escapeChar ++ ['"']) := by
  simp [quote]

theorem length_le_flatMap_escapeChar (chars : List Char) :
    chars.length ≤ (chars.flatMap escapeChar).length := by
  induction chars with
  | nil => simp
  | cons c chars ih =>
      have one : 1 ≤ (escapeChar c).length := by
        unfold escapeChar
        split <;> try decide
        split <;> simp
      rw [List.flatMap_cons, List.length_append, List.length_cons]
      omega

/-- A string is read back after its opening quote. -/
theorem readString_quote (text : String) (rest : List Char) :
    let body := text.toList.flatMap escapeChar ++ '"' :: rest
    readString [] (body.length + 1) body = some (text, rest) := by
  intro body
  have enough : text.toList.length < body.length + 1 := by
    have := length_le_flatMap_escapeChar text.toList
    rw [List.length_append]
    omega
  rw [readString_escaped [] text.toList enough rest]
  simp

theorem reads_str (levels : Nat) (text : String) :
    Reads levels (.str text) (quote text).toList := by
  intro fuel rest enough ends
  rw [toList_quote] at enough ⊢
  obtain ⟨fuel, rfl⟩ : ∃ more, fuel = more + 1 := ⟨fuel - 1, by simp at enough; omega⟩
  rw [List.cons_append, List.append_assoc]
  simp only [readValue, skipSpace_cons (show isSpace '"' = false by decide), List.cons_append,
    List.nil_append, readString_quote, Option.bind_eq_bind, Option.bind_some, Option.pure_def]

theorem isSpace_eq_false_of_isDigit {c : Char} (digit : c.isDigit = true) :
    isSpace c = false := by
  rw [Bool.eq_false_iff]
  intro space
  simp only [isSpace, Bool.or_eq_true, beq_iff_eq] at space
  rcases space with ((rfl | rfl) | rfl) | rfl <;> cases digit

theorem readValue_digit {c : Char} (digit : c.isDigit = true) (levels fuel : Nat)
    (rest : List Char) :
    readValue levels (fuel + 1) (c :: rest) = readNumber? false (c :: rest) := by
  simp only [readValue, skipSpace_cons (isSpace_eq_false_of_isDigit digit)]
  split <;> first | rfl | (next same => cases same; cases digit)

theorem toList_toString (value : Int) :
    (toString value).toList =
      (if value < 0 then ['-'] else []) ++ Nat.toDigits 10 value.natAbs := by
  rw [Int.toString_eq_repr]
  cases value with
  | ofNat number =>
      rw [if_neg (by simp), Int.repr, Nat.repr_eq_ofList_toDigits, String.toList_ofList]
      rfl
  | negSucc number =>
      rw [if_pos (Int.negSucc_lt_zero number), Int.repr, String.toList_append,
        Nat.repr_eq_ofList_toDigits, String.toList_ofList, String.toList_ofList]
      rfl

theorem ofInteger_natAbs {value : Int} (holds : Word.holdsEither 64 value = true) :
    ofInteger (decide (value < 0)) value.natAbs = .int value := by
  have same : (if decide (value < 0) = true then -Int.ofNat value.natAbs
      else Int.ofNat value.natAbs) = value := by
    by_cases negative : value < 0
    · rw [if_pos (decide_eq_true negative), Int.ofNat_eq_natCast]
      omega
    · rw [if_neg (by simpa using negative), Int.ofNat_eq_natCast]
      omega
  have nonzero : (decide (value < 0) && value.natAbs == 0) = false := by
    rw [Bool.and_eq_false_iff, decide_eq_false_iff_not, beq_eq_false_iff_ne]
    omega
  rw [ofInteger, same, nonzero, holds]
  rfl

theorem reads_int (levels : Nat) {value : Int} (holds : Word.holdsEither 64 value = true) :
    Reads levels (.int value) (toString value).toList := by
  intro fuel rest enough ends
  have number := readNumber?_toDigits (decide (value < 0)) value.natAbs ends
  rw [ofInteger_natAbs holds] at number
  have nonempty : Nat.toDigits 10 value.natAbs ≠ [] := Nat.toDigits_ne_nil
  obtain ⟨first, others, shape⟩ := List.exists_cons_of_ne_nil nonempty
  rw [toList_toString] at enough ⊢
  obtain ⟨fuel, rfl⟩ : ∃ more, fuel = more + 1 := ⟨fuel - 1, by simp [shape] at enough; omega⟩
  by_cases negative : value < 0
  · rw [if_pos negative, List.append_assoc, List.singleton_append]
    rw [decide_eq_true negative] at number
    simp only [readValue, skipSpace_cons (show isSpace '-' = false by decide), number]
  · have digit : first.isDigit = true :=
      isDigit_of_mem_toDigits (shape ▸ List.mem_cons_self)
    rw [decide_eq_false negative] at number
    rw [if_neg negative, List.nil_append]
    rw [shape, List.cons_append] at number ⊢
    rw [readValue_digit digit, number]

/-! ## Arrays and objects -/

theorem Layout.field_append (layout : Layout) (key : String) (value rest : List Char) :
    layout.field key value ++ rest = layout.field key (value ++ rest) := by
  simp [field]

theorem Layout.joined_cons (layout : Layout) (part : List Char) {others : List (List Char)}
    (several : others ≠ []) :
    layout.joined (part :: others) = part ++ ',' :: (layout.between ++ layout.joined others) := by
  obtain ⟨next, rest, rfl⟩ := List.exists_cons_of_ne_nil several
  simp [joined, List.intercalate_cons_cons]

theorem Layout.exists_joined (layout : Layout) (c : Char) (part : List Char)
    (others : List (List Char)) : ∃ rest, layout.joined ((c :: part) :: others) = c :: rest := by
  cases others with
  | nil => exact ⟨part, List.intercalate_singleton⟩
  | cons next others => exact ⟨_, layout.joined_cons (c :: part) (List.cons_ne_nil next others)⟩

theorem skipSpace_after {gap : List Char} (spaces : IsGap gap) {closing : Char}
    (solid : isSpace closing = false) (rest : List Char) :
    skipSpace (gap ++ closing :: rest) = closing :: rest := by
  rw [skipSpace_gap spaces, skipSpace_cons solid]

section

variable {levels fuel : Nat} {gap text after following rest : List Char} {value : Json}

theorem readItems_last (spaces : IsGap gap)
    (read : readValue levels fuel text = some (value, after))
    (closes : skipSpace after = ']' :: rest) :
    readItems levels (fuel + 1) (gap ++ text) = some ([value], rest) := by
  rw [readItems, readValue_gap spaces]
  simp only [read, closes, Option.bind_eq_bind, Option.bind_some, Option.pure_def]

theorem readItems_next (spaces : IsGap gap)
    (read : readValue levels fuel text = some (value, after))
    (comma : skipSpace after = ',' :: following) {items : List Json}
    (later : readItems levels fuel following = some (items, rest)) :
    readItems levels (fuel + 1) (gap ++ text) = some (value :: items, rest) := by
  rw [readItems, readValue_gap spaces]
  simp only [read, comma, later, Option.bind_eq_bind, Option.bind_some, Option.pure_def]

variable (layout : Layout) (key : String)

theorem readFields_last (spaces : IsGap gap)
    (read : readValue levels fuel text = some (value, after))
    (closes : skipSpace after = '\x7d' :: rest) :
    readFields levels (fuel + 1) (gap ++ layout.field key text) = some ([(key, value)], rest) := by
  rw [Layout.field, toList_quote, List.cons_append, List.append_assoc, List.singleton_append,
    readFields, skipSpace_gap spaces, skipSpace_cons (by decide)]
  simp only [readString_quote, skipSpace_cons (show isSpace ':' = false by decide),
    readValue_gap layout.afterColon_gap, read, closes, Option.bind_eq_bind, Option.bind_some,
    Option.pure_def]

theorem readFields_next (spaces : IsGap gap)
    (read : readValue levels fuel text = some (value, after))
    (comma : skipSpace after = ',' :: following) {fields : List (String × Json)}
    (later : readFields levels fuel following = some (fields, rest)) :
    readFields levels (fuel + 1) (gap ++ layout.field key text) =
      some ((key, value) :: fields, rest) := by
  rw [Layout.field, toList_quote, List.cons_append, List.append_assoc, List.singleton_append,
    readFields, skipSpace_gap spaces, skipSpace_cons (by decide)]
  simp only [readString_quote, skipSpace_cons (show isSpace ':' = false by decide),
    readValue_gap layout.afterColon_gap, read, comma, later, Option.bind_eq_bind,
    Option.bind_some, Option.pure_def]

end

/-- The items of an array are read back one after the other. -/
theorem readItems_joined {levels : Nat} (layout : Layout) {parts : List (Json × List Char)}
    (nonempty : parts ≠ []) (reads : ∀ part ∈ parts, Reads levels part.1 part.2) {fuel : Nat}
    (enough : (layout.joined (parts.map (·.2))).length < fuel) {gap : List Char}
    (spaces : IsGap gap) (rest : List Char) :
    readItems levels fuel
        (gap ++ (layout.joined (parts.map (·.2)) ++ (layout.after ++ ']' :: rest))) =
      some (parts.map (·.1), rest) := by
  induction parts generalizing fuel gap with
  | nil => contradiction
  | cons part others ih =>
      obtain ⟨fuel, rfl⟩ : ∃ more, fuel = more + 1 := ⟨fuel - 1, by omega⟩
      obtain ⟨own, later⟩ := List.forall_mem_cons.mp reads
      cases others with
      | nil =>
          have closes : EndsValue (layout.after ++ ']' :: rest) :=
            endsValue_gap layout.after_gap (endsValue_cons (by decide) rest)
          simp only [List.map_cons, List.map_nil, Layout.joined, List.intercalate_singleton]
            at enough ⊢
          exact readItems_last spaces (own fuel _ (by omega) closes)
            (skipSpace_after layout.after_gap (by decide) rest)
      | cons next others =>
          rw [List.map_cons, layout.joined_cons _ (by simp)] at enough ⊢
          rw [List.length_append, List.length_cons, List.length_append] at enough
          rw [List.append_assoc, List.cons_append, List.append_assoc]
          exact readItems_next spaces (own fuel _ (by omega) (endsValue_cons (by decide) _))
            (skipSpace_cons (by decide) _)
            (ih (by simp) later (by omega) layout.between_gap)

/-- The fields of an object are read back one after the other. -/
theorem readFields_joined {levels : Nat} (layout : Layout)
    {parts : List (String × Json × List Char)} (nonempty : parts ≠ [])
    (reads : ∀ part ∈ parts, Reads levels part.2.1 part.2.2) {fuel : Nat}
    (enough : (layout.joined (parts.map fun part => layout.field part.1 part.2.2)).length < fuel)
    {gap : List Char} (spaces : IsGap gap) (rest : List Char) :
    readFields levels fuel
        (gap ++ (layout.joined (parts.map fun part => layout.field part.1 part.2.2) ++
          (layout.after ++ '\x7d' :: rest))) =
      some (parts.map fun part => (part.1, part.2.1), rest) := by
  induction parts generalizing fuel gap with
  | nil => contradiction
  | cons part others ih =>
      obtain ⟨fuel, rfl⟩ : ∃ more, fuel = more + 1 := ⟨fuel - 1, by omega⟩
      obtain ⟨own, later⟩ := List.forall_mem_cons.mp reads
      have value : part.2.2.length ≤ (layout.field part.1 part.2.2).length := by
        simp only [Layout.field, List.length_append, List.length_cons]
        omega
      cases others with
      | nil =>
          have closes : EndsValue (layout.after ++ '\x7d' :: rest) :=
            endsValue_gap layout.after_gap (endsValue_cons (by decide) rest)
          simp only [List.map_cons, List.map_nil, Layout.joined, List.intercalate_singleton]
            at enough ⊢
          rw [layout.field_append]
          exact readFields_last layout part.1 spaces (own fuel _ (by omega) closes)
            (skipSpace_after layout.after_gap (by decide) rest)
      | cons next others =>
          rw [List.map_cons, layout.joined_cons _ (by simp)] at enough ⊢
          rw [List.length_append, List.length_cons, List.length_append] at enough
          rw [List.append_assoc, List.cons_append, List.append_assoc, layout.field_append]
          exact readFields_next layout part.1 spaces
            (own fuel _ (by omega) (endsValue_cons (by decide) _)) (skipSpace_cons (by decide) _)
            (ih (by simp) later (by omega) layout.between_gap)

/-! ## The reader -/

/-- A written value starts with no space and no closing bracket. -/
theorem Written.exists_cons {levels : Nat} {value : Json} {text : List Char}
    (written : Written levels value text) :
    ∃ c rest, text = c :: rest ∧ isSpace c = false ∧ c ≠ ']' := by
  cases written with
  | null => exact ⟨'n', _, rfl, by decide, by decide⟩
  | @bool _ value =>
      cases value with
      | false => exact ⟨'f', _, rfl, by decide, by decide⟩
      | true => exact ⟨'t', _, rfl, by decide, by decide⟩
  | @int _ value holds =>
      rw [toList_toString]
      by_cases negative : value < 0
      · rw [if_pos negative]
        exact ⟨'-', _, rfl, by decide, by decide⟩
      · obtain ⟨first, others, shape⟩ :=
          List.exists_cons_of_ne_nil (Nat.toDigits_ne_nil (n := value.natAbs) (b := 10))
        have digit : first.isDigit = true := isDigit_of_mem_toDigits (shape ▸ List.mem_cons_self)
        rw [if_neg negative]
        refine ⟨first, others, shape, isSpace_eq_false_of_isDigit digit, ?_⟩
        rintro rfl
        cases digit
  | str => exact ⟨'"', _, toList_quote _, by decide, by decide⟩
  | arr layout each => exact ⟨'[', _, rfl, by decide, by decide⟩
  | obj layout each => exact ⟨'\x7b', _, rfl, by decide, by decide⟩

theorem reads_arr {levels : Nat} {parts : List (Json × List Char)} (layout : Layout)
    (written : ∀ part ∈ parts, Written levels part.1 part.2)
    (reads : ∀ part ∈ parts, Reads levels part.1 part.2) :
    Reads (levels + 1) (.arr (parts.map (·.1)))
      (layout.enclosed '[' ']' (parts.map (·.2))) := by
  intro fuel rest enough ends
  simp only [Layout.enclosed, List.length_cons, List.length_append] at enough
  obtain ⟨fuel, rfl⟩ : ∃ more, fuel = more + 1 := ⟨fuel - 1, by omega⟩
  have bracket : isSpace ']' = false := by decide
  cases parts with
  | nil =>
      simp only [Layout.enclosed, Layout.joined, List.map_nil, List.intercalate_nil,
        List.nil_append, List.cons_append, List.append_assoc, readValue,
        skipSpace_cons (show isSpace '[' = false by decide), skipSpace_gap layout.before_gap,
        skipSpace_after layout.after_gap bracket]
  | cons part others =>
      obtain ⟨c, first, shape, solid, other⟩ := (written part List.mem_cons_self).exists_cons
      obtain ⟨tail, starts⟩ := layout.exists_joined c first (others.map (·.2))
      rw [← shape, ← List.map_cons] at starts
      have items := readItems_joined layout (List.cons_ne_nil part others) reads
        (show _ < fuel by omega) (show IsGap [] by decide) rest
      rw [List.nil_append, starts, List.cons_append] at items
      simp only [Layout.enclosed, starts, List.cons_append, List.nil_append, List.append_assoc,
        readValue, skipSpace_cons (show isSpace '[' = false by decide),
        skipSpace_gap layout.before_gap, skipSpace_cons solid]
      split
      · next nothing => cases nothing
      · next same _ => exact absurd (List.cons.inj same).1 other
      · next same _ =>
          cases same
          rw [items]
          rfl

theorem reads_obj {levels : Nat} {parts : List (String × Json × List Char)} (layout : Layout)
    (reads : ∀ part ∈ parts, Reads levels part.2.1 part.2.2) :
    Reads (levels + 1) (.obj (Keyed.ofList (parts.map fun part => (part.1, part.2.1))))
      (layout.enclosed '\x7b' '\x7d' (parts.map fun part => layout.field part.1 part.2.2)) := by
  intro fuel rest enough ends
  simp only [Layout.enclosed, List.length_cons, List.length_append] at enough
  obtain ⟨fuel, rfl⟩ : ∃ more, fuel = more + 1 := ⟨fuel - 1, by omega⟩
  have opening : isSpace '\x7b' = false := by decide
  have closing : isSpace '\x7d' = false := by decide
  cases parts with
  | nil =>
      simp only [Layout.enclosed, Layout.joined, List.map_nil, List.intercalate_nil,
        List.nil_append, List.cons_append, List.append_assoc, readValue,
        skipSpace_cons opening, skipSpace_gap layout.before_gap,
        skipSpace_after layout.after_gap closing]
      rfl
  | cons part others =>
      obtain ⟨tail, starts⟩ : ∃ tail, layout.joined ((part :: others).map fun part =>
          layout.field part.1 part.2.2) = '"' :: tail := by
        rw [List.map_cons, Layout.field, toList_quote, List.cons_append]
        exact layout.exists_joined '"' _ _
      have fields := readFields_joined layout (List.cons_ne_nil part others) reads
        (show _ < fuel by omega) (show IsGap [] by decide) rest
      rw [List.nil_append, starts, List.cons_append] at fields
      simp only [Layout.enclosed, starts, List.cons_append, List.nil_append, List.append_assoc,
        readValue, skipSpace_cons opening, skipSpace_gap layout.before_gap,
        skipSpace_cons (show isSpace '"' = false by decide)]
      change (readFields levels fuel _ >>= _) = _
      rw [fields]
      rfl

/-- A written value is read back. -/
theorem Written.reads {levels : Nat} {value : Json} {text : List Char}
    (written : Written levels value text) : Reads levels value text := by
  -- On how the text is written, for every fuel and every text after it.
  induction written with
  | @null levels =>
      intro fuel rest enough ends
      obtain ⟨fuel, rfl⟩ : ∃ more, fuel = more + 1 := ⟨fuel - 1, by simp at enough; omega⟩
      rfl
  | @bool levels value =>
      intro fuel rest enough ends
      obtain ⟨fuel, rfl⟩ : ∃ more, fuel = more + 1 := ⟨fuel - 1, by
        cases value <;> simp at enough <;> omega⟩
      cases value <;> rfl
  | int holds => exact reads_int _ holds
  | str => exact reads_str _ _
  | arr layout each ih => exact reads_arr layout each ih
  | obj layout each ih => exact reads_obj layout ih

/-- A written value is the value that its text writes. -/
theorem Written.parseWithin? {levels : Nat} {value : Json} {text : String}
    (written : Written levels value text.toList) : parseWithin? levels text = some value := by
  have enough : text.toList.length ≤ 2 * text.toList.length + 2 := by omega
  have read := written.reads _ [] enough (by intro c first; cases first)
  rw [List.append_nil] at read
  rw [Json.parseWithin?]
  simp only [read, Option.bind_eq_bind, Option.bind_some, Option.pure_def]
  rfl

/-! ## The printers -/

mutual

/-- How many arrays and objects stand one inside the other in a value. -/
def depth : Json → Nat
  | .arr items => depthOfItems items + 1
  | .obj fields => depthOfFields fields + 1
  | .null | .bool _ | .int _ | .float _ | .str _ => 0

/-- The depth of the deepest of some items. -/
def depthOfItems : List Json → Nat
  | [] => 0
  | item :: rest => max (depth item) (depthOfItems rest)

/-- The depth of the deepest of the values of some fields. -/
def depthOfFields : List (String × Json) → Nat
  | [] => 0
  | (_, value) :: rest => max (depth value) (depthOfFields rest)

end

theorem depthOfItems_le_iff {items : List Json} {levels : Nat} :
    depthOfItems items ≤ levels ↔ ∀ item ∈ items, item.depth ≤ levels := by
  induction items with
  | nil => simp [depthOfItems]
  | cons item rest ih => rw [depthOfItems, Nat.max_le, ih, List.forall_mem_cons]

theorem depthOfFields_le_iff {fields : List (String × Json)} {levels : Nat} :
    depthOfFields fields ≤ levels ↔ ∀ field ∈ fields, field.2.depth ≤ levels := by
  induction fields with
  | nil => simp [depthOfFields]
  | cons field rest ih => rw [depthOfFields, Nat.max_le, ih, List.forall_mem_cons]

mutual

/-- A value with the fields of every object in order, and each name once. -/
def inOrder : Json → Json
  | .arr items => .arr (inOrderItems items)
  | .obj fields => .obj (Keyed.ofList (inOrderFields fields))
  | .null => .null
  | .bool value => .bool value
  | .int value => .int value
  | .float value => .float value
  | .str value => .str value

/-- Some items with their fields in order. -/
def inOrderItems : List Json → List Json
  | [] => []
  | item :: rest => inOrder item :: inOrderItems rest

/-- Some fields with the fields of their values in order. -/
def inOrderFields : List (String × Json) → List (String × Json)
  | [] => []
  | (name, value) :: rest => (name, inOrder value) :: inOrderFields rest

end

/-- A value that is written without loss but for the order of its fields: it has no
floating-point number, and its integers have 64 bits. -/
inductive Exact : Json → Prop where
  | null : Exact .null
  | bool {value : Bool} : Exact (.bool value)
  | int {value : Int} (holds : Word.holdsEither 64 value = true) : Exact (.int value)
  | str {value : String} : Exact (.str value)
  | arr {items : List Json} (each : ∀ item ∈ items, Exact item) : Exact (.arr items)
  | obj {fields : List (String × Json)} (each : ∀ field ∈ fields, Exact field.2) :
      Exact (.obj fields)

/-- A value that is written without loss: it has no floating-point number, its integers
have 64 bits, and its objects have their fields in order. -/
inductive Plain : Json → Prop where
  | null : Plain .null
  | bool {value : Bool} : Plain (.bool value)
  | int {value : Int} (holds : Word.holdsEither 64 value = true) : Plain (.int value)
  | str {value : String} : Plain (.str value)
  | arr {items : List Json} (each : ∀ item ∈ items, Plain item) : Plain (.arr items)
  | obj {fields : List (String × Json)} (sorted : (fields.map (·.1)).Pairwise (· < ·))
      (each : ∀ field ∈ fields, Plain field.2) : Plain (.obj fields)

theorem compactItems_eq_map (items : List Json) : compactItems items = items.map compact := by
  induction items with
  | nil => rfl
  | cons item rest ih => rw [compactItems, ih, List.map_cons]

theorem compactFields_eq_map (fields : List (String × Json)) :
    compactFields fields = fields.map fun field => quote field.1 ++ ":" ++ compact field.2 := by
  induction fields with
  | nil => rfl
  | cons field rest ih => rw [compactFields, ih, List.map_cons]

theorem indentedItems_eq_map (level : Nat) (items : List Json) :
    indentedItems level items = items.map (indented level) := by
  induction items with
  | nil => rfl
  | cons item rest ih => rw [indentedItems, ih, List.map_cons]

theorem indentedFields_eq_map (level : Nat) (fields : List (String × Json)) :
    indentedFields level fields =
      fields.map fun field => quote field.1 ++ ": " ++ indented level field.2 := by
  induction fields with
  | nil => rfl
  | cons field rest ih => rw [indentedFields, ih, List.map_cons]

theorem inOrderItems_eq_map (items : List Json) : inOrderItems items = items.map inOrder := by
  induction items with
  | nil => rfl
  | cons item rest ih => rw [inOrderItems, ih, List.map_cons]

theorem inOrderFields_eq_map (fields : List (String × Json)) :
    inOrderFields fields = fields.map fun field => (field.1, inOrder field.2) := by
  induction fields with
  | nil => rfl
  | cons field rest ih => rw [inOrderFields, ih, List.map_cons]

/-- An array whose items are written is written. -/
theorem Written.arr_map {levels : Nat} {items : List Json} (layout : Layout)
    (text : Json → List Char) (each : ∀ item ∈ items, Written levels item.inOrder (text item)) :
    Written (levels + 1) (inOrder (.arr items)) (layout.enclosed '[' ']' (items.map text)) := by
  have parts : ∀ part ∈ items.map fun item => (item.inOrder, text item),
      Written levels part.1 part.2 := by
    intro part member
    obtain ⟨item, among, rfl⟩ := List.mem_map.mp member
    exact each item among
  have written := Written.arr layout parts
  rw [List.map_map, List.map_map] at written
  rw [inOrder, inOrderItems_eq_map]
  simpa [Function.comp_def] using written

/-- An object whose values are written is written, and read with its fields in order. -/
theorem Written.obj_map {levels : Nat} {fields : List (String × Json)} (layout : Layout)
    (text : Json → List Char)
    (each : ∀ field ∈ fields, Written levels field.2.inOrder (text field.2)) :
    Written (levels + 1) (inOrder (.obj fields))
      (layout.enclosed '\x7b' '\x7d'
        (fields.map fun field => layout.field field.1 (text field.2))) := by
  have parts : ∀ part ∈ fields.map fun field => (field.1, field.2.inOrder, text field.2),
      Written levels part.2.1 part.2.2 := by
    intro part member
    obtain ⟨field, among, rfl⟩ := List.mem_map.mp member
    exact each field among
  have written := Written.obj layout parts
  rw [List.map_map, List.map_map] at written
  rw [inOrder, inOrderFields_eq_map]
  simpa [Function.comp_def] using written

theorem toList_compact_arr (items : List Json) : (compact (.arr items)).toList =
    Layout.tight.enclosed '[' ']' (items.map fun item => (compact item).toList) := by
  rw [compact, compactItems_eq_map]
  simp [Layout.enclosed, Layout.joined, Layout.tight, String.toList_intercalate, Function.comp_def]

theorem toList_compact_obj (fields : List (String × Json)) : (compact (.obj fields)).toList =
    Layout.tight.enclosed '\x7b' '\x7d'
      (fields.map fun field => Layout.tight.field field.1 (compact field.2).toList) := by
  rw [compact, compactFields_eq_map]
  simp [Layout.enclosed, Layout.joined, Layout.tight, Layout.field, String.toList_intercalate,
    Function.comp_def]

theorem isGap_newLine (level : Nat) : IsGap ('\n' :: List.replicate (2 * level) ' ') := by
  refine List.forall_mem_cons.mpr ⟨by decide, ?_⟩
  intro c member
  rw [List.eq_of_mem_replicate member]
  decide

/-- The gaps of the indented form of some parts at a level; no parts leave no line. -/
def Layout.indented {α : Type} (level : Nat) : (parts : List α) → Layout
  | [] => .tight
  | _ :: _ =>
      { before := '\n' :: List.replicate (2 * (level + 1)) ' '
        between := '\n' :: List.replicate (2 * (level + 1)) ' '
        after := '\n' :: List.replicate (2 * level) ' '
        afterColon := [' ']
        before_gap := isGap_newLine (level + 1)
        between_gap := isGap_newLine (level + 1)
        after_gap := isGap_newLine level
        afterColon_gap := by decide }

theorem toList_enclose {α : Type} (opening closing : Char) (level : Nat) (parts : List α)
    (text : α → String) :
    (enclose (String.ofList [opening]) (String.ofList [closing]) level (parts.map text)).toList =
      (Layout.indented level parts).enclosed opening closing
        (parts.map fun part => (text part).toList) := by
  cases parts with
  | nil => simp [enclose, Layout.enclosed, Layout.joined, Layout.indented, Layout.tight]
  | cons part others =>
      simp [enclose, newLine, Layout.enclosed, Layout.joined, Layout.indented,
        String.toList_intercalate, Function.comp_def]

theorem toList_indented_arr (level : Nat) (items : List Json) :
    (indented level (.arr items)).toList =
      (Layout.indented level items).enclosed '[' ']'
        (items.map fun item => (indented (level + 1) item).toList) := by
  rw [indented, indentedItems_eq_map]
  exact toList_enclose '[' ']' level items (indented (level + 1))

theorem toList_indented_obj (level : Nat) (fields : List (String × Json)) :
    (indented level (.obj fields)).toList =
      (Layout.indented level fields).enclosed '\x7b' '\x7d'
        (fields.map fun field =>
          (Layout.indented level fields).field field.1 (indented (level + 1) field.2).toList) := by
  rw [indented, indentedFields_eq_map]
  refine (toList_enclose '\x7b' '\x7d' level fields _).trans ?_
  cases fields with
  | nil => simp only [List.map_nil]
  | cons field others => simp [Layout.field, Layout.indented]

theorem Exact.written_compact {value : Json} (kept : Exact value) {levels : Nat}
    (within : value.depth ≤ levels) : Written levels value.inOrder (compact value).toList := by
  induction kept generalizing levels with
  | null => exact .null
  | bool => exact .bool
  | int holds => exact .int holds
  | str => exact .str
  | arr each ih =>
      obtain ⟨levels, rfl⟩ := Nat.exists_eq_add_one_of_ne_zero (Nat.ne_zero_of_lt within)
      have inner := depthOfItems_le_iff.mp (Nat.le_of_succ_le_succ within)
      rw [toList_compact_arr]
      exact .arr_map .tight _ fun item member => ih item member (inner item member)
  | obj each ih =>
      obtain ⟨levels, rfl⟩ := Nat.exists_eq_add_one_of_ne_zero (Nat.ne_zero_of_lt within)
      have inner := depthOfFields_le_iff.mp (Nat.le_of_succ_le_succ within)
      rw [toList_compact_obj]
      exact .obj_map .tight (fun value => (compact value).toList)
        fun field member => ih field member (inner field member)

theorem Exact.written_indented {value : Json} (kept : Exact value) {levels : Nat}
    (within : value.depth ≤ levels) (level : Nat) :
    Written levels value.inOrder (indented level value).toList := by
  induction kept generalizing levels level with
  | null => exact .null
  | bool => exact .bool
  | int holds => exact .int holds
  | str => exact .str
  | arr each ih =>
      obtain ⟨levels, rfl⟩ := Nat.exists_eq_add_one_of_ne_zero (Nat.ne_zero_of_lt within)
      have inner := depthOfItems_le_iff.mp (Nat.le_of_succ_le_succ within)
      rw [toList_indented_arr]
      exact .arr_map _ _ fun item member => ih item member (inner item member) (level + 1)
  | @obj fields each ih =>
      obtain ⟨levels, rfl⟩ := Nat.exists_eq_add_one_of_ne_zero (Nat.ne_zero_of_lt within)
      have inner := depthOfFields_le_iff.mp (Nat.le_of_succ_le_succ within)
      rw [toList_indented_obj]
      exact .obj_map (.indented level fields) (fun value => (indented (level + 1) value).toList)
        fun field member => ih field member (inner field member) (level + 1)

/-- A value without floating-point numbers is read back from either of its written forms, with
the fields of its objects in order. -/
theorem Exact.parseWithin? {value : Json} (kept : Exact value) {levels : Nat}
    (within : value.depth ≤ levels) {text : String} (form : text ∈ [value.compact, value.pretty]) :
    parseWithin? levels text = some value.inOrder := by
  simp only [List.mem_cons, List.not_mem_nil, or_false] at form
  apply Written.parseWithin?
  rcases form with rfl | rfl
  · exact kept.written_compact within
  · exact kept.written_indented within 0

theorem Plain.exact {value : Json} (plain : Plain value) : Exact value := by
  induction plain with
  | null => exact .null
  | bool => exact .bool
  | int holds => exact .int holds
  | str => exact .str
  | arr each ih => exact .arr ih
  | obj sorted each ih => exact .obj ih

theorem inOrder_obj {fields : List (String × Json)}
    (each : ∀ field ∈ fields, field.2.inOrder = field.2) :
    inOrder (.obj fields) = .obj (Keyed.ofList fields) := by
  have same : (fields.map fun field => (field.1, inOrder field.2)) = fields.map id :=
    List.map_congr_left fun field member => by rw [each field member, id_eq]
  rw [inOrder, inOrderFields_eq_map, same, List.map_id]

theorem Plain.inOrder_eq {value : Json} (plain : Plain value) : value.inOrder = value := by
  induction plain with
  | null | bool | int | str => rfl
  | @arr items each ih =>
      have same : items.map inOrder = items.map id := List.map_congr_left ih
      rw [inOrder, inOrderItems_eq_map, same, List.map_id]
  | obj sorted each ih => rw [inOrder_obj ih, Keyed.ofList_of_sorted sorted]

theorem plain_strings (values : List String) : Plain (strings values) := by
  refine .arr ?_
  rw [List.forall_mem_map]
  exact fun _ _ => .str

theorem depth_strings_le (values : List String) : (strings values).depth ≤ 1 := by
  refine Nat.succ_le_succ (depthOfItems_le_iff.mpr ?_)
  rw [List.forall_mem_map]
  exact fun _ _ => Nat.le_refl 0

/-- An object of values that are written without loss is read back from either of its
written forms, with its fields in order. -/
theorem parseWithin?_obj {fields : List (String × Json)}
    (each : ∀ field ∈ fields, Plain field.2) {levels : Nat}
    (within : ∀ field ∈ fields, field.2.depth ≤ levels) {text : String}
    (form : text ∈ [(obj fields).compact, (obj fields).pretty]) :
    parseWithin? (levels + 1) text = some (.obj (Keyed.ofList fields)) := by
  have kept : Exact (.obj fields) := .obj fun field member => (each field member).exact
  have shallow : (obj fields).depth ≤ levels + 1 :=
    Nat.succ_le_succ (depthOfFields_le_iff.mpr within)
  rw [kept.parseWithin? shallow form,
    inOrder_obj fun field member => (each field member).inOrder_eq]

end Guidebook.Json
