/-!
# Words

Which integers a word of some number of bits holds, with and without a sign.
-/

namespace Guidebook.Word

/-- The number of different words of some bits. -/
def count (bits : Nat) : Nat := Nat.pow 2 bits

/-- A word without a sign holds the number. -/
def holds (bits value : Nat) : Bool := decide (value < count bits)

/-- A word with a sign holds the integer. -/
def holdsSigned (bits : Nat) (value : Int) : Bool :=
  decide (-Int.ofNat (count (bits - 1)) ≤ value) && decide (value < Int.ofNat (count (bits - 1)))

/-- A word with or without a sign holds the integer. -/
def holdsEither (bits : Nat) (value : Int) : Bool :=
  decide (-Int.ofNat (count (bits - 1)) ≤ value) && decide (value < Int.ofNat (count bits))

end Guidebook.Word
