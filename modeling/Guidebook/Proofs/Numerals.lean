import Guidebook.Json.Reader
import Guidebook.Time.Rfc3339

/-!
# Numerals

A number is written by its digits in base ten, perhaps with zeros before them, and
read back from the longest run of digits.  This module relates the two for the
numbers of moments and of JSON.
-/

namespace Guidebook

/-! ## Runs of digits -/

/-- A text that does not go on with a digit. -/
def EndsDigits (text : List Char) : Prop :=
  ∀ c ∈ text.head?, c.isDigit = false

theorem endsDigits_nil : EndsDigits [] := nofun

theorem endsDigits_cons {c : Char} (other : c.isDigit = false) (rest : List Char) :
    EndsDigits (c :: rest) := by
  simpa [EndsDigits] using other

theorem takeWhile_digits {digits rest : List Char} (digit : ∀ c ∈ digits, c.isDigit = true)
    (ends : EndsDigits rest) : (digits ++ rest).takeWhile Char.isDigit = digits := by
  rw [List.takeWhile_append_of_pos digit]
  cases rest with
  | nil => simp
  | cons c rest => simp [ends c rfl]

theorem dropWhile_digits {digits rest : List Char} (digit : ∀ c ∈ digits, c.isDigit = true)
    (ends : EndsDigits rest) : (digits ++ rest).dropWhile Char.isDigit = rest := by
  rw [List.dropWhile_append_of_pos digit]
  cases rest with
  | nil => rfl
  | cons c rest => simp [ends c rfl]

/-- Digits are no blanks. -/
theorem isBlank_of_isDigit {c : Char} (digit : c.isDigit = true) : Text.isBlank c = false := by
  simp only [Char.isDigit, Bool.and_eq_true, decide_eq_true_eq, ge_iff_le,
    UInt32.le_iff_toNat_le] at digit
  have lower : 48 ≤ c.val.toNat := digit.1
  have upper : c.val.toNat ≤ 57 := digit.2
  simp only [Text.isBlank, Bool.or_eq_false_iff, Bool.and_eq_false_iff, decide_eq_false_iff_not,
    beq_eq_false_iff_ne, ne_eq, ← UInt32.toNat_inj, UInt32.le_iff_toNat_le, UInt32.toNat_ofNat]
  omega

/-! ## Numbers -/

theorem foldl_digits (digits : List Char) :
    digits.foldl (fun value digit => value * 10 + (digit.toNat - 48)) 0 =
      Nat.ofDigitChars 10 digits 0 := by
  rw [Nat.ofDigitChars_eq_foldl]
  congr 1
  funext value digit
  rw [Nat.mul_comm]
  rfl

end Guidebook
