import Guidebook.Number.Binary64

/-!
# The shortest decimal that reads back

A finite binary number is the nearest one to every decimal in an interval around
it.  Among the decimals of that interval with the fewest digits, the one nearest
to the number is chosen.  The search goes up through the digit counts: on the
grid of a count, the interval holds a point exactly when it holds one of the two
neighbours of the number.
-/

namespace Guidebook.Binary64

/-- A decimal `digits · 10 ^ exponent`. -/
structure Decimal where
  digits : Nat
  exponent : Int
  deriving DecidableEq, Repr

/-- The interval of decimals that read back, scaled by `4 · 2 ^ -exponent`: its
two ends around four times the significand, and whether the ends belong to it. -/
structure Interval where
  low : Nat
  value : Nat
  high : Nat
  closed : Bool

/-- The interval of a positive finite number.  Below a power of two the next
smaller number is half as far away as the next greater one. -/
def interval (x : Binary64) : Interval :=
  let (significand, _) := x.decode
  let narrow := x.magnitude % significands == 0 && significands < x.magnitude
  { low := 4 * significand - (if narrow then 1 else 2)
    value := 4 * significand
    high := 4 * significand + 2
    closed := significand % 2 == 0 }

/-- The numbers of the interval, and the units of a decimal grid, brought to a
common integer scale: one grid step of `10 ^ power` is `step` and one quarter of
a unit of the significand is `unit`. -/
def scales (exponent power : Int) : Nat × Nat :=
  let binary := exponent - 2
  (Nat.pow 10 power.toNat * Nat.pow 2 (-binary).toNat,
    Nat.pow 10 (-power).toNat * Nat.pow 2 binary.toNat)

/-- The decimal on the grid of `10 ^ power` that the interval holds, nearest to
the number; of two equally near the even one. -/
def onGrid? (range : Interval) (exponent power : Int) : Option Nat :=
  let (step, unit) := scales exponent power
  let value := range.value * unit
  let below := value / step
  let inside (digits : Nat) : Bool :=
    let point := digits * step
    if range.closed then range.low * unit ≤ point && point ≤ range.high * unit
    else range.low * unit < point && point < range.high * unit
  let distance := value - below * step
  match inside below, inside (below + 1) with
  | true, false => some below
  | false, true => some (below + 1)
  | false, false => none
  | true, true =>
      if 2 * distance < step then some below
      else if step < 2 * distance then some (below + 1)
      else some (below + below % 2)

/-- Search the grids from coarse to fine. -/
def searchGrid (range : Interval) (exponent : Int) : (fuel : Nat) → Int → Decimal
  | 0, power => ⟨0, power⟩
  | fuel + 1, power =>
      match onGrid? range exponent power with
      | some digits => ⟨digits, power⟩
      | none => searchGrid range exponent fuel (power - 1)

/-- The decimal without trailing zeros in its digits. -/
def Decimal.strip : (fuel : Nat) → Decimal → Decimal
  | 0, decimal => decimal
  | fuel + 1, decimal =>
      if decimal.digits ≠ 0 ∧ decimal.digits % 10 = 0 then
        Decimal.strip fuel ⟨decimal.digits / 10, decimal.exponent + 1⟩
      else decimal

/-- The shortest decimal that reads back as a positive finite number.  The first
grid is coarser than the number itself; seventeen digits always suffice. -/
def shortest (x : Binary64) : Decimal :=
  let (significand, exponent) := x.decode
  let binaryPlace : Int := exponent + Int.ofNat significand.log2 + 1
  let decimalPlace : Int := binaryPlace * 30103 / 100000 + 1
  (searchGrid x.interval exponent 22 decimalPlace).strip 22

end Guidebook.Binary64
