/-!
# Binary floating point

Doubles as exact values: a significand times a power of two, rounded to the nearest with ties to
the even significand.  All arithmetic is on natural numbers; no runtime float is involved, so a
statement about a reading is a statement about integers.
-/

namespace QueryNotebook

/-- A double.  A finite one is `significand · 2 ^ exponent` under its sign; a significand below
`2 ^ 52` has the least exponent. -/
inductive Binary64 where
  | finite (negative : Bool) (significand : Nat) (exponent : Int)
  | infinite (negative : Bool)
  | notANumber
deriving DecidableEq, Repr

namespace Binary64

/-- The least exponent of a double. -/
def leastExponent : Int := -1074

/-- The greatest exponent of a finite double. -/
def greatestExponent : Int := 971

/-- The quotient of two natural numbers rounded to the nearest, a tie to the even one. -/
def roundDiv (numerator denominator : Nat) : Nat :=
  let quotient := numerator / denominator
  let remainder := numerator % denominator
  if 2 * remainder < denominator ∨ (2 * remainder = denominator ∧ quotient % 2 = 0) then quotient
  else quotient + 1

/-- `2 ^ power` when the power is not negative, otherwise one. -/
def twoTo (power : Int) : Nat :=
  Nat.pow 2 power.toNat

/-- `10 ^ power` when the power is not negative, otherwise one. -/
def tenTo (power : Int) : Nat :=
  Nat.pow 10 power.toNat

/-- The position of the leading binary digit of a positive ratio. -/
def leadingBit (numerator denominator : Nat) : Int :=
  let guess : Int := (Nat.log2 numerator : Int) - (Nat.log2 denominator : Int)
  if denominator * twoTo guess ≤ numerator * twoTo (-guess) then guess else guess - 1

/-- The double nearest to a ratio. -/
def ofRatio (negative : Bool) (numerator denominator : Nat) : Binary64 :=
  if numerator = 0 then .finite negative 0 0
  else
    let exponent := max leastExponent (leadingBit numerator denominator - 52)
    let significand := roundDiv (numerator * twoTo (-exponent)) (denominator * twoTo exponent)
    if significand = twoTo 53 then
      if greatestExponent < exponent + 1 then .infinite negative
      else .finite negative (twoTo 52) (exponent + 1)
    else if greatestExponent < exponent then .infinite negative
    else .finite negative significand exponent

/-- The double nearest to `digits · 10 ^ exponent`.  Values far outside the range of doubles are
recognised by their number of digits. -/
def ofDecimal (negative : Bool) (digits : Nat) (exponent : Int) : Binary64 :=
  let point : Int := (Nat.toDigits 10 digits).length + exponent
  if digits = 0 ∨ point < -400 then .finite negative 0 0
  else if 400 < point then .infinite negative
  else ofRatio negative (digits * tenTo exponent) (tenTo (-exponent))

/-- The product of two doubles with the sign of the first, rounded; an operand that is not finite
gives itself. -/
def scaleUp : Binary64 → Binary64 → Binary64
  | .finite negative left leftExponent, .finite _ right rightExponent =>
      let exponent := leftExponent + rightExponent
      ofRatio negative (left * right * twoTo exponent) (twoTo (-exponent))
  | .finite _ _ _, other => other
  | other, _ => other

/-- The quotient of two doubles with the sign of the first, rounded; an operand that is not finite
gives itself. -/
def scaleDown : Binary64 → Binary64 → Binary64
  | .finite negative left leftExponent, .finite _ right rightExponent =>
      let exponent := leftExponent - rightExponent
      ofRatio negative (left * twoTo exponent) (right * twoTo (-exponent))
  | .finite _ _ _, other => other
  | other, _ => other

/-- A zero of either sign. -/
def isZero : Binary64 → Bool
  | .finite _ significand _ => significand == 0
  | _ => false

end Binary64

end QueryNotebook
