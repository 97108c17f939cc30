import Guidebook.Text.CaseFold.Table

/-!
# Simple case folding

Simple case folding sends every letter to one letter, so that two letters are
the same up to case exactly when their foldings are equal.  It is coarser than
the lower-case map: `ſ` folds to `s`, `ς` folds to `σ` and the Kelvin sign folds
to `k`.
-/

namespace Guidebook.Text

/-- The simple case folding of a character. -/
def foldChar (c : Char) : Char :=
  if c.val < 0x80 then
    if 'A' ≤ c ∧ c ≤ 'Z' then Char.ofNat (c.toNat + 32) else c
  else Char.ofNat (CaseRange.image foldRanges c.val)

/-- Equality of characters up to simple case folding. -/
def sameFold (left right : Char) : Bool :=
  foldChar left == foldChar right

@[simp] theorem sameFold_refl (c : Char) : sameFold c c = true := by
  simp [sameFold]

theorem sameFold_comm (left right : Char) :
    sameFold left right = sameFold right left := by
  simp [sameFold, Bool.beq_comm]

end Guidebook.Text
