import ApiForge.Text.Basic
import ApiForge.Decimal.Binary64

/-!
# Shortest decimals

The decimal of a double is the one with the fewest digits among those that
read back as the double, and the nearest of them. A grid of decimals with a
fixed number of digits holds one inside the interval of reals that round to the
double exactly if one of the double's two neighbours on the grid lies inside.
-/

namespace ApiForge

/-- The value `digits * 10 ^ power`. -/
structure Decimal where
  digits : Nat
  power : Int
  deriving DecidableEq, Repr

namespace Decimal

/-- The same value without trailing zeros, dropping at most `fuel` of them. -/
def trimmed : Nat → Decimal → Decimal
  | 0, decimal => decimal
  | fuel + 1, decimal =>
      if decimal.digits ≠ 0 ∧ decimal.digits % 10 = 0 then
        trimmed fuel ⟨decimal.digits / 10, decimal.power + 1⟩
      else decimal

end Decimal

namespace Binary64

/-- The reals that round to a double, in quarters of its unit: `value` is the double, and the
ends belong to the interval if `closed`. -/
structure Interval where
  low : Nat
  value : Nat
  high : Nat
  closed : Bool
  exponent : Int

def interval (mantissa : Nat) (exponent : Int) : Interval :=
  let narrow := mantissa = twoTo 52 ∧ leastExponent < exponent
  { low := if narrow then 4 * mantissa - 1 else 4 * mantissa - 2
    value := 4 * mantissa
    high := 4 * mantissa + 2
    closed := mantissa % 2 = 0
    exponent := exponent - 2 }

/-- `first * 2 ^ exponent` and `second * 10 ^ power` over a common denominator. -/
def common (first : Nat) (exponent : Int) (second : Nat) (power : Int) : Nat × Nat :=
  (first * twoTo exponent.toNat * tenTo (-power).toNat,
    second * tenTo power.toNat * twoTo (-exponent).toNat)

namespace Interval

/-- The greatest multiple of `10 ^ power` that is not above the double. -/
def below (range : Interval) (power : Int) : Nat :=
  let (number, unit) := common range.value range.exponent 1 power
  number / unit

def contains (range : Interval) (candidate : Decimal) : Bool :=
  let (low, here) := common range.low range.exponent candidate.digits candidate.power
  let (high, there) := common range.high range.exponent candidate.digits candidate.power
  if range.closed then low ≤ here && there ≤ high else low < here && there < high

/-- Twice the double lies beyond the sum of the neighbours, or at it with an odd lower one. -/
def prefersUpper (range : Interval) (lower : Decimal) : Bool :=
  let (twice, sum) := common (2 * range.value) range.exponent (2 * lower.digits + 1) lower.power
  sum < twice || (sum == twice && lower.digits % 2 == 1)

/-- The decimal of the grid `10 ^ power` that reads back as the double, the nearer if two do. -/
def onGrid? (range : Interval) (power : Int) : Option Decimal :=
  let lower : Decimal := ⟨range.below power, power⟩
  let upper : Decimal := ⟨lower.digits + 1, power⟩
  match range.contains lower, range.contains upper with
  | true, true => some (if range.prefersUpper lower then upper else lower)
  | true, false => some lower
  | false, true => some upper
  | false, false => none

/-- A decimal that reads back on the coarsest of `count` grids, each ten times finer than the one
before. -/
def firstGrid (range : Interval) : Nat → Int → Decimal
  | 0, power => ⟨range.below power, power⟩
  | count + 1, power =>
      match range.onGrid? power with
      | some decimal => decimal
      | none => firstGrid range count (power - 1)

end Interval

/-- The power of ten of the leading digit: an estimate from the bit length, corrected by one. -/
def leadingPower (range : Interval) : Int :=
  let bits : Int := (range.value.log2 : Int) + range.exponent
  let guess := (bits * 30103).fdiv 100000 - 1
  if 10 ≤ range.below guess then
    if 100 ≤ range.below guess then guess + 2 else guess + 1
  else guess

/-- The shortest decimal of a positive finite double. -/
def shortest (mantissa : Nat) (exponent : Int) : Decimal :=
  let range := interval mantissa exponent
  (range.firstGrid 17 (leadingPower range)).trimmed 20

end Binary64

end ApiForge
