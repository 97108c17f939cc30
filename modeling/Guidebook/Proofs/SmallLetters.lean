import Guidebook.Proofs.CaseTables

/-!
# Small letters

The lower-case map leaves the letters that it makes as they are, so a text in lower
case stays as it is, whatever stands around its sigmas.  Simple case folding does not
see the lower-case map, but for the letter `İ`, which becomes two characters.
-/

namespace Guidebook.Text

/-! ## Single letters -/

/-- What holds of the 128 ASCII characters one by one. -/
theorem forall_ascii (property : Char → Prop)
    (checked : ∀ code < 128, property (Char.ofNat code)) {c : Char} (ascii : c.val < 0x80) :
    property c := by
  have below : c.toNat < 128 := UInt32.lt_iff_toNat_lt.mp ascii
  simpa using checked c.toNat below

theorem isBlank_iff {c : Char} :
    isBlank c = true ↔ (9 ≤ c.toNat ∧ c.toNat ≤ 13) ∨
      c.toNat ∈ [0x20, 0x85, 0xA0, 0x1680, 0x2028, 0x2029, 0x202F, 0x205F, 0x3000] ∨
      (0x2000 ≤ c.toNat ∧ c.toNat ≤ 0x200A) := by
  change _ ↔ (9 ≤ c.val.toNat ∧ c.val.toNat ≤ 13) ∨ c.val.toNat ∈ _ ∨
    (0x2000 ≤ c.val.toNat ∧ c.val.toNat ≤ 0x200A)
  simp only [isBlank, Bool.or_eq_true, Bool.and_eq_true, decide_eq_true_eq,
    UInt32.le_iff_toNat_le, beq_iff_eq, ← UInt32.toNat_inj]
  simp
  omega

theorem toNat_ofNat_of_letterStretches {code : Nat}
    (inside : ∃ stretch ∈ letterStretches, stretch.1 ≤ code ∧ code ≤ stretch.2) :
    (Char.ofNat code).toNat = code := by
  have valid : code.isValidChar := by
    simp [letterStretches] at inside
    unfold Nat.isValidChar
    omega
  rw [Char.ofNat, dif_pos valid]
  rfl

theorem of_letterStretches {c : Char}
    (inside : ∃ stretch ∈ letterStretches, stretch.1 ≤ c.toNat ∧ c.toNat ≤ stretch.2) :
    'a' ≤ c ∧ isBlank c = false ∧ c ≠ 'Σ' ∧ c ≠ 'İ' := by
  simp [letterStretches] at inside
  refine ⟨?_, ?_, ?_, ?_⟩
  · apply UInt32.le_iff_toNat_le.mpr
    change 97 ≤ c.toNat
    omega
  · rw [Bool.eq_false_iff]
    intro blank
    have codes := isBlank_iff.mp blank
    simp at codes
    omega
  · intro same
    subst same
    simp at inside
  · intro same
    subst same
    simp at inside

/-- An ASCII capital letter. -/
abbrev IsCapital (c : Char) : Prop := 'A' ≤ c ∧ c ≤ 'Z'

theorem not_isCapital_of_le {c : Char} (above : 'a' ≤ c) : ¬IsCapital c := by
  intro capital
  have low := UInt32.le_iff_toNat_le.mp above
  have high := UInt32.le_iff_toNat_le.mp capital.2
  exact absurd (Nat.le_trans low high) (by decide)

theorem ascii_of_isCapital {c : Char} (capital : IsCapital c) : c.val < 0x80 := by
  apply UInt32.lt_iff_toNat_lt.mpr
  exact Nat.lt_of_le_of_lt (UInt32.le_iff_toNat_le.mp capital.2) (by decide)

@[simp] theorem asciiLower_of_not_isCapital {c : Char} (plain : ¬IsCapital c) :
    asciiLower c = c :=
  if_neg plain

/-- Simple case folding goes by its table, but for the ASCII capital letters. -/
theorem foldChar_eq_lookup {c : Char} (plain : ¬IsCapital c) :
    foldChar c = Char.ofNat (CaseRange.lookup foldRanges c.toNat) := by
  unfold foldChar
  split
  · next ascii =>
      have below : c.toNat < 0x80 := UInt32.lt_iff_toNat_lt.mp ascii
      rcases CaseRange.lookup_cases foldRanges c.toNat with ⟨range, member, held, -⟩ | same
      · have above := foldRanges_above_ascii range member
        have inside := CaseRange.holds_iff.mp held
        omega
      · rw [same, Char.ofNat_toNat]
  · rw [CaseRange.image_eq_lookup]
    rfl

/-- A letter that the lower-case map makes from another one. -/
structure IsSmallOf (letter small : Char) : Prop where
  above : 'a' ≤ small
  solid : isBlank small = false
  ne_sigma : small ≠ 'Σ'
  lowerChar_eq : lowerChar small = [small]
  foldChar_eq : foldChar small = foldChar letter

/-- The lower-case map of one character that stands alone, as one character. -/
def smallLetter (c : Char) : Char :=
  if c.val < 0x80 then asciiLower c else Char.ofNat (CaseRange.image lowerRanges c.val)

theorem lowerChar_eq_smallLetter {c : Char} (plain : c ≠ 'İ') :
    lowerChar c = [smallLetter c] := by
  unfold lowerChar smallLetter
  split
  · rfl
  · simp [plain]

theorem isSmallOf_asciiLower {c : Char} (capital : IsCapital c) :
    IsSmallOf c (asciiLower c) := by
  have letter := forall_ascii
    (fun c => IsCapital c → 'a' ≤ asciiLower c ∧ isBlank (asciiLower c) = false ∧
      asciiLower c ≠ 'Σ' ∧ lowerChar (asciiLower c) = [asciiLower c] ∧
      foldChar (asciiLower c) = foldChar c)
    (by decide) (ascii_of_isCapital capital)
  obtain ⟨above, solid, ne_sigma, lowerChar_eq, foldChar_eq⟩ := letter capital
  exact ⟨above, solid, ne_sigma, lowerChar_eq, foldChar_eq⟩

theorem smallLetter_eq_self {c : Char} (plain : ¬IsCapital c)
    (settled : CaseRange.lookup lowerRanges c.toNat = c.toNat) : smallLetter c = c := by
  unfold smallLetter
  split
  · exact if_neg plain
  · rw [CaseRange.image_eq_lookup]
    change Char.ofNat (CaseRange.lookup lowerRanges c.toNat) = c
    rw [settled, Char.ofNat_toNat]

/-- The lower-case map leaves a letter as it is, or makes a small letter from it. -/
theorem smallLetter_cases (c : Char) : smallLetter c = c ∨ IsSmallOf c (smallLetter c) := by
  by_cases capital : IsCapital c
  · have ascii := ascii_of_isCapital capital
    right
    simpa [smallLetter, ascii] using isSmallOf_asciiLower capital
  · rcases CaseRange.lookup_cases lowerRanges c.toNat with ⟨range, member, held, sent⟩ | same
    · by_cases ascii : c.val < 0x80
      · left
        simp [smallLetter, ascii, asciiLower, capital]
      · obtain ⟨inside, settled, folds⟩ := CaseRange.of_holds member held
        have small : smallLetter c = Char.ofNat (range.shifted c.toNat) := by
          rw [← sent]
          simp only [smallLetter, ascii, if_false, CaseRange.image_eq_lookup]
          rfl
        have code := toNat_ofNat_of_letterStretches inside
        rw [← small] at code
        rw [← code] at inside settled folds
        obtain ⟨above, solid, ne_sigma, plain⟩ := of_letterStretches inside
        have low := not_isCapital_of_le above
        right
        refine ⟨above, solid, ne_sigma, ?_, ?_⟩
        · rw [lowerChar_eq_smallLetter plain, smallLetter_eq_self low settled]
        · rw [foldChar_eq_lookup low, foldChar_eq_lookup capital, folds]
    · exact .inl (smallLetter_eq_self capital same)

@[simp] theorem foldChar_smallLetter (c : Char) : foldChar (smallLetter c) = foldChar c := by
  cases smallLetter_cases c with
  | inl same => rw [same]
  | inr small => exact small.foldChar_eq

/-! ## Texts -/

/-- A character that stays as it is in lower case, wherever it stands. -/
structure IsSettled (c : Char) : Prop where
  ne_sigma : c ≠ 'Σ'
  lowerChar_eq : lowerChar c = [c]

theorem lowerAfter_of_isSettled {text : List Char} (settled : ∀ c ∈ text, IsSettled c)
    (before : List Char) : lowerAfter before text = text := by
  induction text generalizing before with
  | nil => rfl
  | cons c rest ih =>
      obtain ⟨first, later⟩ := List.forall_mem_cons.mp settled
      simp [lowerAfter, first.ne_sigma, first.lowerChar_eq, ih later]

/-- What the lower-case map makes from one character of a text. -/
def lowerLetters (before : List Char) (c : Char) (rest : List Char) : List Char :=
  if c == 'Σ' then [lowerSigma before rest] else lowerChar c

theorem lowerAfter_cons (before : List Char) (c : Char) (rest : List Char) :
    lowerAfter before (c :: rest) = lowerLetters before c rest ++ lowerAfter (c :: before) rest :=
  rfl

/-- The small letters that are not made letter by letter: the two small sigmas, and what `İ`
becomes. -/
theorem of_mem_specialLetters {small : Char} (member : small ∈ ['ς', 'σ', 'i', '\u0307']) :
    IsSettled small ∧ 'a' ≤ small ∧ isBlank small = false := by
  simp only [List.mem_cons, List.not_mem_nil, or_false] at member
  rcases member with rfl | rfl | rfl | rfl <;>
    exact ⟨⟨by decide, by decide⟩, by decide, by decide⟩

/-- A character of a text in lower case stays as it is, and it is the character that it is made
from or a letter. -/
theorem of_mem_lowerLetters {before rest : List Char} {c small : Char}
    (member : small ∈ lowerLetters before c rest) :
    IsSettled small ∧ (small = c ∨ 'a' ≤ small ∧ isBlank small = false) := by
  unfold lowerLetters at member
  split at member
  · have special : small ∈ ['ς', 'σ', 'i', '\u0307'] := by
      rw [List.mem_singleton, lowerSigma] at member
      split at member
      · simp [member]
      · simp [member]
    obtain ⟨settled, letter⟩ := of_mem_specialLetters special
    exact ⟨settled, .inr letter⟩
  · next noSigma =>
      rw [beq_iff_eq] at noSigma
      by_cases dotted : c = 'İ'
      · subst dotted
        have special : small ∈ ['i', '\u0307'] := member
        obtain ⟨settled, letter⟩ :=
          of_mem_specialLetters (List.mem_cons_of_mem _ (List.mem_cons_of_mem _ special))
        exact ⟨settled, .inr letter⟩
      · rw [lowerChar_eq_smallLetter dotted, List.mem_singleton] at member
        subst member
        cases smallLetter_cases c with
        | inl same =>
            have stays := lowerChar_eq_smallLetter dotted
            rw [same] at stays ⊢
            exact ⟨⟨noSigma, stays⟩, .inl rfl⟩
        | inr small =>
            exact ⟨⟨small.ne_sigma, small.lowerChar_eq⟩, .inr ⟨small.above, small.solid⟩⟩

theorem lowerLetters_ne_nil (before : List Char) (c : Char) (rest : List Char) :
    lowerLetters before c rest ≠ [] := by
  unfold lowerLetters
  split
  · simp
  · by_cases dotted : c = 'İ'
    · subst dotted
      decide
    · simp [lowerChar_eq_smallLetter dotted]

theorem of_mem_lowerAfter {before text : List Char} {small : Char}
    (member : small ∈ lowerAfter before text) :
    IsSettled small ∧ (small ∈ text ∨ 'a' ≤ small ∧ isBlank small = false) := by
  induction text generalizing before with
  | nil => cases member
  | cons c rest ih =>
      rw [lowerAfter_cons, List.mem_append] at member
      cases member with
      | inl first =>
          obtain ⟨settled, origin⟩ := of_mem_lowerLetters first
          exact ⟨settled, origin.imp_left fun same => by simp [same]⟩
      | inr later =>
          obtain ⟨settled, origin⟩ := ih later
          exact ⟨settled, origin.imp_left (List.mem_cons_of_mem c)⟩

/-- A text in lower case stays as it is. -/
@[simp] theorem lower_lower (text : List Char) : lower (lower text) = lower text :=
  lowerAfter_of_isSettled (fun _ member => (of_mem_lowerAfter member).1) []

/-- Only letters are new in a text in lower case. -/
theorem mem_of_mem_lower {text : List Char} {c : Char} (member : c ∈ lower text)
    (other : 'a' ≤ c → isBlank c = true) : c ∈ text := by
  cases (of_mem_lowerAfter member).2 with
  | inl own => exact own
  | inr letter => rw [other letter.1] at letter; cases letter.2

theorem lower_ne_nil {text : List Char} (nonempty : text ≠ []) : lower text ≠ [] := by
  cases text with
  | nil => exact absurd rfl nonempty
  | cons c rest =>
      intro nothing
      exact lowerLetters_ne_nil [] c rest (List.append_eq_nil_iff.mp nothing).1

theorem head?_of_head?_lower {text : List Char} {c : Char} (first : (lower text).head? = some c)
    (other : 'a' ≤ c → isBlank c = true) : text.head? = some c := by
  cases text with
  | nil => cases first
  | cons own rest =>
      have among : c ∈ lowerLetters [] own rest := by
        obtain ⟨small, others, shape⟩ :=
          List.exists_cons_of_ne_nil (lowerLetters_ne_nil [] own rest)
        rw [lower, lowerAfter_cons, shape] at first
        cases first
        simp [shape]
      cases (of_mem_lowerLetters among).2 with
      | inl same => simp [same]
      | inr letter => rw [other letter.1] at letter; cases letter.2

end Guidebook.Text
