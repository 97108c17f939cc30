/-!
# Runs of case pairs

The Unicode case maps send long runs of letters to letters at a fixed distance:
every letter of a run, or every second one where capital and small letters
alternate.  A run is stored as one entry, and a map as the list of its runs.
-/

namespace Guidebook.Text

/-- The letters `first`, `first + step`, …, `last`, each sent `shift` places on. -/
structure CaseRange where
  first : UInt32
  last : UInt32
  step : UInt32
  shift : Int
  deriving Repr

/-- The code at the distance that the run gives, when the run holds the code. -/
def CaseRange.image? (range : CaseRange) (code : UInt32) : Option Nat :=
  if range.first ≤ code ∧ code ≤ range.last ∧ (code - range.first) % range.step = 0 then
    some (Int.toNat (code.toNat + range.shift))
  else none

/-- The image of a code under a map; a code in no run stays as it is. -/
def CaseRange.image (ranges : List CaseRange) (code : UInt32) : Nat :=
  (ranges.findSome? (·.image? code)).getD code.toNat

/-- Whether one of the inclusive ranges holds the code. -/
def inRanges (ranges : List (UInt32 × UInt32)) (code : UInt32) : Bool :=
  ranges.any fun (first, last) => first ≤ code && code ≤ last

end Guidebook.Text
