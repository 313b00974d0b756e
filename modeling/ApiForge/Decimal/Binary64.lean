/-!
# Double precision numbers

A finite double is a sign, a mantissa below `2 ^ 53` and an exponent of two of
at least `-1074`; the mantissa is at least `2 ^ 52` unless the exponent is the
least one. Every operation computes the exact rational result and rounds it
once, to the nearest double and to the even mantissa on a tie.
-/

namespace ApiForge

inductive Binary64 where
  | nan
  | infinite (negative : Bool)
  | finite (negative : Bool) (mantissa : Nat) (exponent : Int)
  deriving DecidableEq, Repr

namespace Binary64

def leastExponent : Int := -1074

def greatestExponent : Int := 971

def zero (negative : Bool) : Binary64 :=
  .finite negative 0 leastExponent

/-- The power of two. -/
def twoTo (power : Nat) : Nat :=
  Nat.pow 2 power

/-- The power of ten. -/
def tenTo (power : Nat) : Nat :=
  Nat.pow 10 power

/-- The quotient rounded to the nearest integer, a tie to the even one. -/
def roundDiv (number divisor : Nat) : Nat :=
  let quotient := number / divisor
  let twice := 2 * (number % divisor)
  if twice < divisor then quotient
  else if divisor < twice then quotient + 1
  else quotient + quotient % 2

/-- The quotient `number / (divisor * 2 ^ exponent)` rounded. -/
def roundScaled (number divisor : Nat) (exponent : Int) : Nat :=
  match exponent with
  | .ofNat shift => roundDiv number (divisor * twoTo shift)
  | .negSucc shift => roundDiv (number * twoTo (shift + 1)) divisor

/-- The quotient is at least `2 ^ exponent`. -/
def reaches (number divisor : Nat) : Int → Bool
  | .ofNat shift => divisor * twoTo shift ≤ number
  | .negSucc shift => divisor ≤ number * twoTo (shift + 1)

/-- The exponent that gives the quotient a mantissa of 53 bits, if it is not too small. -/
def exponentOf (number divisor : Nat) : Int :=
  let guess : Int := (number.log2 : Int) - divisor.log2 - 53
  let exponent := if reaches number divisor (guess + 53) then guess + 1 else guess
  max leastExponent exponent

/-- The double nearest to a quotient of natural numbers. -/
def ofRatio (negative : Bool) (number divisor : Nat) : Binary64 :=
  if number = 0 then zero negative
  else
    let exponent := exponentOf number divisor
    let mantissa := roundScaled number divisor exponent
    let (mantissa, exponent) :=
      if mantissa = twoTo 53 then (twoTo 52, exponent + 1) else (mantissa, exponent)
    if greatestExponent < exponent then .infinite negative
    else .finite negative mantissa exponent

def ofInt (number : Int) : Binary64 :=
  ofRatio (number < 0) number.natAbs 1

/-- The double nearest to `digits * 10 ^ power`. Powers far outside the range of doubles are
answered without computing them. -/
def ofDecimal (negative : Bool) (digits : Nat) (power : Int) : Binary64 :=
  let size : Int := power + (digits.log2 * 30103 / 100000 : Nat)
  if digits = 0 ∨ size < -340 then zero negative
  else if 320 < size then .infinite negative
  else
    match power with
    | .ofNat shift => ofRatio negative (digits * tenTo shift) 1
    | .negSucc shift => ofRatio negative digits (tenTo (shift + 1))

def neg : Binary64 → Binary64
  | .nan => .nan
  | .infinite negative => .infinite !negative
  | .finite negative mantissa exponent => .finite (!negative) mantissa exponent

def isZero : Binary64 → Bool
  | .finite _ mantissa _ => mantissa == 0
  | _ => false

/-- The value is above zero; not a number is not. -/
def isPositive : Binary64 → Bool
  | .nan => false
  | .infinite negative => !negative
  | .finite negative mantissa _ => !negative && mantissa != 0

/-- The signed value in units of `2 ^ -1074`. -/
def units? : Binary64 → Option Int
  | .finite negative mantissa exponent =>
      let magnitude : Int := (mantissa * twoTo (exponent - leastExponent).toNat : Nat)
      some (if negative then -magnitude else magnitude)
  | _ => none

/-- The integer that the double equals, if it is one. -/
def toInt? (number : Binary64) : Option Int := do
  let units ← number.units?
  let unit : Int := twoTo leastExponent.natAbs
  if units % unit = 0 then some (units / unit) else none

def ofUnits (negative : Bool) (units : Nat) : Binary64 :=
  ofRatio negative units (twoTo leastExponent.natAbs)

/-- The sum, rounded once. -/
def add : Binary64 → Binary64 → Binary64
  | .nan, _ => .nan
  | _, .nan => .nan
  | .infinite first, .infinite second => if first = second then .infinite first else .nan
  | .infinite first, _ => .infinite first
  | _, .infinite second => .infinite second
  | first@(.finite left _ _), second@(.finite right _ _) =>
      match first.units?, second.units? with
      | some one, some other =>
          let sum := one + other
          if sum = 0 then zero (left && right) else ofUnits (sum < 0) sum.natAbs
      | _, _ => .nan

/-- The product with a positive integer, rounded once. -/
def scale (factor : Nat) : Binary64 → Binary64
  | .nan => .nan
  | .infinite negative => .infinite negative
  | number@(.finite negative _ _) =>
      match number.units? with
      | some units => ofUnits negative (units.natAbs * factor)
      | none => .nan

end Binary64

end ApiForge
