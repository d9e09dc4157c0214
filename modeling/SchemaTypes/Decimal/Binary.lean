/-!
The double-precision number nearest to a decimal.

A finite double other than zero has the magnitude `mantissa * 2 ^ exponent`. `nearest` rounds an
exact quotient to 53 bits, a tie to the even neighbour, in natural number arithmetic alone.
-/

namespace SchemaTypes.Decimal

/-- A non-negative finite double-precision number. The mantissa is below `2 ^ 53`. -/
structure Binary where
  mantissa : Nat
  exponent : Int
  deriving DecidableEq, Repr

/-- The smallest exponent of a double. -/
def minExponent : Int := -1074

/-- The largest exponent of a double. -/
def maxExponent : Int := 971

/-- The whole number nearest to `num / den`; a tie goes to the even one. -/
def roundHalfEven (num den : Nat) : Nat :=
  let quotient := num / den
  let twice := 2 * (num % den)
  if twice < den then quotient
  else if den < twice then quotient + 1
  else quotient + quotient % 2

/-- The quotient `num / (den * 2 ^ exponent)`, as a numerator and a denominator. -/
def scaleBy (exponent : Int) (num den : Nat) : Nat × Nat :=
  if 0 ≤ exponent then (num, den * Nat.pow 2 exponent.toNat)
  else (num * Nat.pow 2 (-exponent).toNat, den)

/-- The largest `k` with `2 ^ k ≤ num / den`. -/
def floorLog2 (num den : Nat) : Int :=
  let guess : Int := (num.log2 : Int) - (den.log2 : Int)
  let (n, d) := scaleBy guess num den
  if d ≤ n then guess else guess - 1

/-- The double nearest to a positive quotient; nothing if that would be infinite. -/
def nearest (num den : Nat) : Option Binary :=
  let exponent := max (floorLog2 num den - 52) minExponent
  let (n, d) := scaleBy exponent num den
  let mantissa := roundHalfEven n d
  let rounded : Binary :=
    if mantissa = Nat.pow 2 53 then ⟨Nat.pow 2 52, exponent + 1⟩ else ⟨mantissa, exponent⟩
  if rounded.exponent ≤ maxExponent then some rounded else none

/-- The number of decimal digits of a natural number. -/
def digitCount (n : Nat) : Nat :=
  (Nat.toDigits 10 n).length

/-- The double nearest to `coefficient * 10 ^ power`; nothing if that would be infinite. Powers far
out of range are settled by the number of digits alone. -/
def ofScientific (coefficient : Nat) (power : Int) : Option Binary :=
  let size : Int := digitCount coefficient + power
  if coefficient = 0 ∨ size < -330 then some ⟨0, minExponent⟩
  else if 310 < size then none
  else if 0 ≤ power then nearest (coefficient * Nat.pow 10 power.toNat) 1
  else nearest coefficient (Nat.pow 10 (-power).toNat)

end SchemaTypes.Decimal
