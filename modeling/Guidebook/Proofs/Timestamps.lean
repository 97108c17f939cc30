import Guidebook.Proofs.Numerals
import Mathlib.Algebra.Group.Nat.Defs
import Mathlib.Data.Option.Basic

/-!
# Reading a moment that was written

A moment is written with as few digits as its year and its nanoseconds allow, and
the reader takes a field by the number of its digits.  Each field of the written
form is read back here, with the text that follows it left over; together they
give the moment, leap seconds and years of any sign and length included.
-/

namespace Guidebook.Moment

/-! ## Padded numbers -/

theorem isDigit_of_mem_padded {width number : Nat} {c : Char} (member : c ∈ padded width number) :
    c.isDigit = true := by
  rcases List.mem_append.mp member with zero | digit
  · rw [List.eq_of_mem_replicate zero]
    rfl
  · exact Nat.isDigit_of_mem_toDigits (by decide) (by decide) digit

theorem padded_ne_nil (width number : Nat) : padded width number ≠ [] := by
  simp [padded, Nat.toDigits_ne_nil]

/-- A text that starts with a number starts with a digit. -/
theorem isDigit_of_padded_append {width number : Nat} {c : Char} {rest tail : List Char}
    (starts : padded width number ++ rest = c :: tail) : c.isDigit = true := by
  obtain ⟨first, others, shape⟩ := List.exists_cons_of_ne_nil (padded_ne_nil width number)
  have member : first ∈ padded width number := by simp [shape]
  rw [shape] at starts
  cases starts
  exact isDigit_of_mem_padded member

theorem length_padded {width number : Nat} (positive : 0 < width) (bound : number < 10 ^ width) :
    (padded width number).length = width := by
  have fits := (Nat.length_toDigits_le_iff (by decide) positive).mpr bound
  rw [padded, List.length_append, List.length_replicate]
  omega

theorem ofDigits_eq (digits : List Char) : ofDigits digits = Nat.ofDigitChars 10 digits 0 :=
  foldl_digits digits

theorem ofDigits_padded (width number : Nat) : ofDigits (padded width number) = number := by
  rw [ofDigits_eq, padded, Nat.ofDigitChars_append, Nat.ofDigitChars_replicate_zero, Nat.mul_zero,
    Nat.ofDigitChars_ten_toDigits]

theorem trimStart_digits {digits : List Char} (nonempty : digits ≠ [])
    (digit : ∀ c ∈ digits, c.isDigit = true) (rest : List Char) :
    Text.trimStart (digits ++ rest) = digits ++ rest := by
  cases digits with
  | nil => contradiction
  | cons c digits =>
      have solid := isBlank_of_isDigit (digit c List.mem_cons_self)
      simp [Text.trimStart, solid]

/-- A number that is written with as many digits as the reader takes is read back. -/
theorem readNumber?_padded {width number : Nat} (positive : 0 < width)
    (bound : number < 10 ^ width) (rest : List Char) :
    readNumber? width (padded width number ++ rest) = some (number, rest) := by
  have digit : ∀ c ∈ padded width number, c.isDigit = true := fun c => isDigit_of_mem_padded
  have length := length_padded positive bound
  have run := takeWhile_digits digit endsDigits_nil
  rw [List.append_nil] at run
  have nonempty : (padded width number).isEmpty = false := by
    simp [padded_ne_nil]
  simp only [readNumber?, trimStart_digits (padded_ne_nil width number) digit,
    List.take_left' length, run, nonempty, ofDigits_padded, List.drop_left, Bool.false_eq_true,
    if_false]

/-- A year is read back up to the hyphen after it. -/
theorem readYear?_yearText (year : Int) (rest : List Char) :
    readYear? (yearText year ++ '-' :: rest) = some (year, '-' :: rest) := by
  have digit : ∀ c ∈ padded 4 year.natAbs, c.isDigit = true := fun c => isDigit_of_mem_padded
  have run : (padded 4 year.natAbs ++ '-' :: rest).takeWhile Char.isDigit = padded 4 year.natAbs :=
    takeWhile_digits digit (endsDigits_cons rfl rest)
  have nonempty : (padded 4 year.natAbs).isEmpty = false := by
    simp [padded_ne_nil]
  by_cases before : year < 0
  · have sign : Text.trimStart ('-' :: (padded 4 year.natAbs ++ '-' :: rest)) =
        '-' :: (padded 4 year.natAbs ++ '-' :: rest) := rfl
    have same : -Int.ofNat year.natAbs = year := by
      rw [Int.ofNat_eq_natCast]
      omega
    rw [yearText, if_pos before, List.cons_append, readYear?, sign]
    simp only [run, nonempty, ofDigits_padded, List.drop_left, Bool.false_eq_true, if_false,
      Option.map_some, same]
  · have same : Int.ofNat year.natAbs = year := by
      rw [Int.ofNat_eq_natCast]
      omega
    by_cases after : 9999 < year
    · have sign : Text.trimStart ('+' :: (padded 4 year.natAbs ++ '-' :: rest)) =
          '+' :: (padded 4 year.natAbs ++ '-' :: rest) := rfl
      rw [yearText, if_neg before, if_pos after, List.cons_append, readYear?, sign]
      simp only [run, nonempty, ofDigits_padded, List.drop_left, Bool.false_eq_true, if_false,
        Option.map_some, same]
    · have read := readNumber?_padded (show 0 < 4 by decide)
        (show year.natAbs < 10 ^ 4 by omega) ('-' :: rest)
      rw [yearText, if_neg before, if_neg after, readYear?,
        trimStart_digits (padded_ne_nil 4 year.natAbs) digit]
      split
      · next signed => exact absurd (isDigit_of_padded_append signed) (by decide)
      · next signed => exact absurd (isDigit_of_padded_append signed) (by decide)
      · rw [read, Option.map_some]
        exact congrArg (fun year => some (year, '-' :: rest)) same

/-! ## Marks, the fraction and the offset -/

theorem readMark?_cons {mark : Char} (solid : Text.isBlank mark = false) (rest : List Char) :
    readMark? mark (mark :: rest) = some rest := by
  simp [readMark?, Text.trimStart, solid]

/-- The digits of a fraction are read as nanoseconds, whatever their number up to nine. -/
theorem readFraction?_padded {width number : Nat} (positive : 0 < width) (most : width ≤ 9)
    (bound : number < 10 ^ width) {rest : List Char} (ends : EndsDigits rest) :
    readFraction? ('.' :: (padded width number ++ rest)) =
      some (number * 10 ^ (9 - width), rest) := by
  have digit : ∀ c ∈ padded width number, c.isDigit = true := fun c => isDigit_of_mem_padded
  have length := length_padded positive bound
  have nonempty : (padded width number).isEmpty = false := by
    simp [padded_ne_nil]
  have kept : (padded width number).take 9 = padded width number :=
    List.take_of_length_le (by omega)
  simp only [readFraction?, takeWhile_digits digit ends, nonempty, kept, ofDigits_padded, length,
    List.drop_left' length, Bool.false_eq_true, if_false]
  rfl

theorem readFraction?_fractionText {nanosecond : Nat} (bound : nanosecond < 1000000000)
    (rest : List Char) :
    readFraction? (fractionText nanosecond ++ 'Z' :: rest) = some (nanosecond, 'Z' :: rest) := by
  have ends : EndsDigits ('Z' :: rest) := endsDigits_cons rfl rest
  unfold fractionText
  split
  · next none =>
      rw [none]
      rfl
  · split
    · next milli =>
        rw [List.cons_append, readFraction?_padded (by decide) (by decide) (by omega) ends]
        congr 2
        omega
    · split
      · next micro =>
          rw [List.cons_append, readFraction?_padded (by decide) (by decide) (by omega) ends]
          congr 2
          omega
      · rw [List.cons_append, readFraction?_padded (by decide) (by decide) (by omega) ends]
        congr 2
        omega

/-! ## The parts of a moment -/

theorem daysIn_le (year : Int) (month : Nat) : Calendar.daysIn year month ≤ 31 := by
  unfold Calendar.daysIn
  split
  · split <;> decide
  all_goals decide

theorem hour_lt (moment : Moment) : moment.hour < 24 := by
  have second := moment.second_lt
  unfold hour
  omega

theorem minute_lt (moment : Moment) : moment.minute < 60 := by
  unfold minute
  omega

theorem subsecond_lt (moment : Moment) : moment.subsecond < 1000000000 := by
  unfold subsecond
  omega

/-- The second of the minute is 60 exactly in a leap second. -/
theorem second_cases (moment : Moment) :
    moment.second = 60 ∧ moment.secondOfDay % 60 = 59 ∧
        moment.nanosecond = moment.subsecond + 1000000000 ∨
      moment.second = moment.secondOfDay % 60 ∧ moment.nanosecond = moment.subsecond := by
  have leap := moment.leap_second
  have bound := moment.nanosecond_lt
  unfold second subsecond
  omega

/-- A time without an offset is the moment itself. -/
theorem ofLocal?_parts (moment : Moment) :
    ofLocal? moment.year moment.month moment.day moment.secondOfDay moment.nanosecond 0 =
      some moment := by
  have second := moment.second_lt
  rw [ofLocal?, ofParts?_parts]
  simp only [Option.bind_eq_bind, Option.bind_some, Int.sub_zero]
  rw [if_neg (by simp), if_neg (by simp; omega)]
  exact ofParts?_parts moment

/-- A moment is read back from its written form. -/
theorem parse?_rfc3339 (moment : Moment) : parse? moment.rfc3339 = some moment := by
  have month : moment.month < 10 ^ 2 := by
    have := moment.month_mem
    omega
  have day : moment.day < 10 ^ 2 := by
    have := moment.day_mem
    have := daysIn_le moment.year moment.month
    omega
  have hour : moment.hour < 10 ^ 2 := by
    have := moment.hour_lt
    omega
  have minute : moment.minute < 10 ^ 2 := by
    have := moment.minute_lt
    omega
  have second : moment.second < 10 ^ 2 := by
    have := moment.second_cases
    omega
  have positive : 0 < 2 := by decide
  have hyphen : Text.isBlank '-' = false := by decide
  have colon : Text.isBlank ':' = false := by decide
  have written : moment.rfc3339.toList =
      yearText moment.year ++ '-' :: (padded 2 moment.month ++ '-' :: (padded 2 moment.day ++
        'T' :: (padded 2 moment.hour ++ ':' :: (padded 2 moment.minute ++
          ':' :: (padded 2 moment.second ++ (fractionText moment.subsecond ++ ['Z'])))))) := by
    simp [rfc3339, dateText, timeText]
  -- One part after the other: to simplify the whole reader would go through what is left of
  -- it once more for every part.
  unfold parse?
  rw [written]
  refine Option.bind_eq_some_iff.mpr ⟨_, readYear?_yearText moment.year _, ?_⟩
  refine Option.bind_eq_some_iff.mpr ⟨_, readMark?_cons hyphen _, ?_⟩
  refine Option.bind_eq_some_iff.mpr ⟨_, readNumber?_padded positive month _, ?_⟩
  refine Option.bind_eq_some_iff.mpr ⟨_, readMark?_cons hyphen _, ?_⟩
  refine Option.bind_eq_some_iff.mpr ⟨_, readNumber?_padded positive day _, ?_⟩
  refine Option.bind_eq_some_iff.mpr ⟨_, rfl, ?_⟩
  refine Option.bind_eq_some_iff.mpr ⟨_, readNumber?_padded positive hour _, ?_⟩
  refine Option.bind_eq_some_iff.mpr ⟨_, readMark?_cons colon _, ?_⟩
  refine Option.bind_eq_some_iff.mpr ⟨_, readNumber?_padded positive minute _, ?_⟩
  refine Option.bind_eq_some_iff.mpr ⟨_, readMark?_cons colon _, ?_⟩
  refine Option.bind_eq_some_iff.mpr ⟨_, readNumber?_padded positive second _, ?_⟩
  refine Option.bind_eq_some_iff.mpr ⟨_, readFraction?_fractionText moment.subsecond_lt [], ?_⟩
  refine Option.bind_eq_some_iff.mpr ⟨(0, []), rfl, ?_⟩
  have inRange : (Text.allBlank [] && decide (moment.hour < 24) && decide (moment.minute < 60) &&
      decide (moment.second ≤ 60) && decide ((0 : Int).natAbs < 86400)) = true := by
    have := moment.second_cases
    simp [moment.hour_lt, moment.minute_lt]
    omega
  have start : moment.hour * 3600 + moment.minute * 60 + moment.secondOfDay % 60 =
      moment.secondOfDay := by
    unfold Moment.hour Moment.minute
    omega
  refine Option.bind_eq_some_iff.mpr ⟨(), if_pos inRange, ?_⟩
  dsimp only
  rcases moment.second_cases with ⟨leap, last, nanoseconds⟩ | ⟨regular, nanoseconds⟩
  · rw [last] at start
    rw [if_pos leap, start, ← nanoseconds]
    exact moment.ofLocal?_parts
  · have other : moment.second ≠ 60 := by omega
    rw [if_neg other, regular, start, ← nanoseconds]
    exact moment.ofLocal?_parts

end Guidebook.Moment
