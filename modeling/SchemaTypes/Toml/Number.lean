import SchemaTypes.Toml.Scan
import SchemaTypes.Toml.Value

/-!
Integers and floating point numbers, read from a whole token.

A token may have the form of an integer and write no number, since not every character in it is a
digit of its base (`Unsigned.isGarbled`, `inBase`). It is a value even so, and a fault only where
its number is asked for.
-/

namespace SchemaTypes.Toml

/-- The digits of a token that has nothing but digits and single underscores between two of them. -/
def digitGroups (isDigit : Char → Bool) : List Char → Option (List Char)
  | [] => none
  | [c] => if isDigit c then some [c] else none
  | c :: '_' :: rest =>
    if isDigit c then (digitGroups isDigit rest).map (c :: ·) else none
  | c :: rest => if isDigit c then (digitGroups isDigit rest).map (c :: ·) else none

/-- The number that the digits write in the given base. -/
def ofDigits (base : Nat) (digits : List Char) : Nat :=
  digits.foldl (fun n c => base * n + (hexValue? c).getD 0) 0

/-- A token without its sign; the flag says whether the sign was a minus. -/
def splitSign : List Char → Bool × List Char
  | '+' :: rest => (false, rest)
  | '-' :: rest => (true, rest)
  | s => (false, s)

/-- The digits of a number, which has lost its sign. -/
structure Unsigned where
  negative : Bool
  /-- An underscore stood between the sign and the digits. These may then begin with zeros. -/
  padded : Bool
  digits : List Char
  deriving DecidableEq, Repr

/-- Take the sign from a token, and an underscore after it. -/
def Unsigned.ofToken : List Char → Unsigned
  | '+' :: '_' :: rest => ⟨false, true, rest⟩
  | '-' :: '_' :: rest => ⟨true, true, rest⟩
  | token =>
    let (negative, rest) := splitSign token
    ⟨negative, false, rest⟩

/-- A whole number without a sign. Unless it is `padded`, it begins with a zero only if it is
zero. -/
def decimalDigits (padded : Bool) (s : List Char) : Option (List Char) :=
  match digitGroups Char.isDigit s with
  | some ('0' :: d :: digits) => if padded then some ('0' :: d :: digits) else none
  | digits => digits

/-! ### Integers -/

/-- The integer in base two, eight or sixteen, after its mark. Without any digits it is an integer
that has no number. -/
def inBase (base : Nat) : List Char → Option Value
  | [] => some (.integer none)
  | s => (digitGroups (fun c => (hexValue? c).any (· < base)) s).map fun digits =>
    .integer (some (ofDigits base digits))

/-- Every underscore stands between two hexadecimal digits. -/
def underscoresInside : List Char → Bool
  | [] => true
  | '_' :: _ => false
  | c :: '_' :: d :: rest =>
    (hexValue? c).isSome && (hexValue? d).isSome && underscoresInside (d :: rest)
  | _ :: rest => underscoresInside rest

/-- A character that no integer has, whatever else stands in it. -/
def isForeign (c : Char) : Bool :=
  c = ' ' || c = '.' || c = 'e' || c = 'E'

/-- An integer in which other characters follow an underscore. It is an integer all the same, but
one that has no number. -/
def Unsigned.isGarbled (u : Unsigned) : Bool :=
  let begins :=
    if u.padded then (u.digits.head?.bind hexValue?).isSome
    else u.digits.head? ≠ some '0' && (u.digits.dropWhile Char.isDigit).head? = some '_'
  begins && !u.digits.any isForeign && underscoresInside u.digits

/-- The number with this sign. -/
def signed (negative : Bool) (n : Nat) : Int :=
  if negative then -n else n

/-- A token that is an integer. -/
def integer? : List Char → Option Value
  | '0' :: 'x' :: rest => inBase 16 rest
  | '0' :: 'o' :: rest => inBase 8 rest
  | '0' :: 'b' :: rest => inBase 2 rest
  | token =>
    let u := Unsigned.ofToken token
    match decimalDigits u.padded u.digits with
    | some digits => some (.integer (some (signed u.negative (ofDigits 10 digits))))
    | none => if u.isGarbled then some (.integer none) else none

/-! ### Floating point numbers -/

/-- The power of ten after the mark `e`. -/
def exponent? (s : List Char) : Option Int :=
  let (negative, rest) := splitSign s
  (digitGroups Char.isDigit rest).map fun digits => signed negative (ofDigits 10 digits)

/-- The mark of an exponent. -/
def isExponentMark (c : Char) : Bool :=
  c = 'e' || c = 'E'

/-- A finite number: whole digits, then a fraction, an exponent or both. -/
def Unsigned.finite? (u : Unsigned) : Option Real := do
  let mantissa := u.digits.takeWhile (!isExponentMark ·)
  let power ←
    match u.digits.dropWhile (!isExponentMark ·) with
    | [] => some 0
    | _ :: rest => exponent? rest
  let whole ← decimalDigits u.padded (mantissa.takeWhile (· ≠ '.'))
  match mantissa.dropWhile (· ≠ '.') with
  | [] =>
    if mantissa.length = u.digits.length then none
    else pure (.finite u.negative (ofDigits 10 whole) power)
  | _ :: rest =>
    let fraction ← digitGroups Char.isDigit rest
    pure (.finite u.negative (ofDigits 10 (whole ++ fraction)) (power - fraction.length))

/-- A token that is a floating point number. -/
def float? (token : List Char) : Option Value :=
  let (negative, rest) := splitSign token
  if rest = ['i', 'n', 'f'] then some (.float (.infinite negative))
  else if rest = ['n', 'a', 'n'] then some (.float .notANumber)
  else (Unsigned.ofToken token).finite?.map .float

end SchemaTypes.Toml
