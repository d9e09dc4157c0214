import SchemaTypes.Decimal.Binary

/-!
The shortest decimal that reads back as a given double.

The reals that round to the double `m * 2 ^ q` form an interval, closed at both ends exactly when
`m` is even. For one digit, two digits and so on the two decimals beside the double are tried; the
first grid that has a decimal in the interval gives the answer, of two such decimals the nearer.
-/

namespace SchemaTypes.Decimal

/-- A positive quotient of natural numbers. -/
structure Quotient where
  num : Nat
  den : Nat

/-- Compare two quotients. -/
def Quotient.le (a b : Quotient) : Bool :=
  a.num * b.den ≤ b.num * a.den

/-- The quotient `n * 2 ^ e`. -/
def Quotient.ofBinary (n : Nat) (e : Int) : Quotient :=
  if 0 ≤ e then ⟨n * Nat.pow 2 e.toNat, 1⟩ else ⟨n, Nat.pow 2 (-e).toNat⟩

/-- The quotient `n * 10 ^ e`. -/
def Quotient.ofDecimal (n : Nat) (e : Int) : Quotient :=
  if 0 ≤ e then ⟨n * Nat.pow 10 e.toNat, 1⟩ else ⟨n, Nat.pow 10 (-e).toNat⟩

/-- The largest `k` with `10 ^ k ≤ a`. -/
def Quotient.floorLog10 (a : Quotient) : Int :=
  if a.den ≤ a.num then (digitCount (a.num / a.den) : Int) - 1
  else
    let digits := digitCount (a.den / a.num)
    if a.den ≤ a.num * Nat.pow 10 (digits - 1) then 1 - (digits : Int) else -(digits : Int)

/-- A decimal rounds to the double `x`. -/
def readsBack (x : Binary) (a : Quotient) : Bool :=
  let below := if x.mantissa = Nat.pow 2 52 ∧ minExponent < x.exponent then 1 else 2
  let low := Quotient.ofBinary (4 * x.mantissa - below) (x.exponent - 2)
  let high := Quotient.ofBinary (4 * x.mantissa + 2) (x.exponent - 2)
  if x.mantissa % 2 = 0 then low.le a && a.le high
  else !a.le low && !high.le a

/-- The decimal beside `x` on the grid of multiples of `10 ^ power` that reads back as `x`, as its
number of grid steps. -/
def onGrid (x : Binary) (power : Int) : Option Nat :=
  let value := Quotient.ofBinary x.mantissa x.exponent
  let unit := Quotient.ofDecimal 1 power
  let steps := value.num * unit.den / (value.den * unit.num)
  let lower := readsBack x (.ofDecimal steps power)
  let upper := readsBack x (.ofDecimal (steps + 1) power)
  let remainder := value.num * unit.den % (value.den * unit.num)
  if lower && upper then
    some (if 2 * remainder < value.den * unit.num then steps else steps + 1)
  else if lower then some steps
  else if upper then some (steps + 1)
  else none

/-- Try the grids of `digits` digits and more, `tries` of them. A whole multiple of ten steps is a
step of the grid before, which is tried first; only a first grid can give one. -/
def shortestFrom (x : Binary) (top : Int) (digits : Nat) : Nat → Nat × Int
  | 0 => (x.mantissa, 0)
  | tries + 1 =>
    let power := top + 1 - digits
    match onGrid x power with
    | some steps => if steps % 10 = 0 then (steps / 10, power + 1) else (steps, power)
    | none => shortestFrom x top (digits + 1) tries

/-- The shortest decimal of a double, as a coefficient and a power of ten. Seventeen digits always
suffice. -/
def shortest (x : Binary) : Nat × Int :=
  if x.mantissa = 0 then (0, 0)
  else shortestFrom x (Quotient.ofBinary x.mantissa x.exponent).floorLog10 1 17

/-- A decimal written out, never with an exponent and always with a decimal point. -/
def positional (coefficient : Nat) (power : Int) : String :=
  let digits := Nat.toDigits 10 coefficient
  if 0 ≤ power then String.ofList (digits ++ List.replicate power.toNat '0' ++ ['.', '0'])
  else
    let places := (-power).toNat
    let padded := List.replicate (places + 1 - digits.length) '0' ++ digits
    let whole := padded.length - places
    String.ofList (padded.take whole ++ '.' :: padded.drop whole)

/-- The shortest text of a double. -/
def Binary.text (x : Binary) : String :=
  let (coefficient, power) := shortest x
  positional coefficient power

end SchemaTypes.Decimal
