/-!
# Binary floating-point numbers of 64 bits

A number is its 64 bits: a sign, eleven bits of exponent and 52 bits of
significand.  A finite number stands for `significand · 2 ^ exponent`, with the
sign in front.  Reading a decimal rounds to the nearest number, and a decimal
halfway between two numbers goes to the one with the even significand.
-/

namespace Guidebook

/-- A binary floating-point number, given by its bits. -/
structure Binary64 where
  bits : UInt64
  deriving DecidableEq, Repr, Inhabited

namespace Binary64

/-- The count of significand patterns, `2 ^ 52`. -/
def significands : Nat := 4503599627370496

/-- The sign bit alone. -/
def signBit : Nat := 9223372036854775808

/-- The bits without the sign. -/
def magnitude (x : Binary64) : Nat := x.bits.toNat % signBit

/-- The sign bit is set; so it is for a negative zero. -/
def isNegative (x : Binary64) : Bool := decide (signBit ≤ x.bits.toNat)

/-- Neither infinite nor the outcome of no computation. -/
def isFinite (x : Binary64) : Bool :=
  decide (x.magnitude < 2047 * significands)

/-- The number with the given bits without sign. -/
def ofMagnitude (negative : Bool) (magnitude : Nat) : Binary64 :=
  ⟨UInt64.ofNat ((if negative then signBit else 0) + magnitude)⟩

/-- The infinity of a sign. -/
def infinity (negative : Bool) : Binary64 :=
  ofMagnitude negative (2047 * significands)

/-- A number that is the outcome of no computation. -/
def nan : Binary64 := ofMagnitude false (2047 * significands + significands / 2)

/-- Equality of the numbers rather than of the bits, but for `nan`, which equals
itself: the two zeros are equal. -/
def sameNumber (left right : Binary64) : Bool :=
  left == right || (left.magnitude == 0 && right.magnitude == 0) ||
    (decide (2047 * significands < left.magnitude) &&
      decide (2047 * significands < right.magnitude))

/-- The significand and the exponent of a finite number. -/
def decode (x : Binary64) : Nat × Int :=
  let field := x.magnitude / significands
  let fraction := x.magnitude % significands
  if field = 0 then (fraction, -1074)
  else (significands + fraction, Int.ofNat field - 1075)

/-- The quotient rounded to the nearest natural number, a half to the even one. -/
def divideToEven (numerator denominator : Nat) : Nat :=
  let quotient := numerator / denominator
  let twice := 2 * (numerator % denominator)
  if twice < denominator then quotient
  else if denominator < twice then quotient + 1
  else quotient + quotient % 2

/-- The number nearest to a positive quotient.  The exponent is the least one
that leaves a significand of at most 53 bits, and the carry of a significand that
rounds up to `2 ^ 53` raises the exponent field by itself. -/
def ofQuotient (negative : Bool) (numerator denominator : Nat) : Binary64 :=
  let guess : Int := Int.ofNat numerator.log2 - Int.ofNat denominator.log2 - 52
  let scale (exponent : Int) : Nat × Nat :=
    if 0 ≤ exponent then (numerator, denominator * Nat.pow 2 exponent.toNat)
    else (numerator * Nat.pow 2 (-exponent).toNat, denominator)
  let exponent :=
    let (above, below) := scale guess
    if above < below * significands then guess - 1 else guess
  let exponent := max exponent (-1074)
  let (above, below) := scale exponent
  let magnitude := (exponent + 1074).toNat * significands + divideToEven above below
  if 2047 * significands ≤ magnitude then infinity negative
  else ofMagnitude negative magnitude

/-- The number nearest to `mantissa · 10 ^ exponent`.  The two bounds on the
place of the first digit keep the powers of ten small: beyond them the answer is
an infinity or a zero in any case. -/
def ofDecimal (negative : Bool) (mantissa : Nat) (exponent : Int) : Binary64 :=
  if mantissa = 0 then ofMagnitude negative 0
  else
    let place := exponent + Int.ofNat (Nat.toDigits 10 mantissa).length
    if 400 < place then infinity negative
    else if place < -400 then ofMagnitude negative 0
    else if 0 ≤ exponent then ofQuotient negative (mantissa * Nat.pow 10 exponent.toNat) 1
    else ofQuotient negative mantissa (Nat.pow 10 (-exponent).toNat)

end Binary64

end Guidebook
