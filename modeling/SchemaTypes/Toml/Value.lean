import SchemaTypes.Decimal.Shortest

/-!
The values of a TOML document.

A document is a table; a table lists its keys in byte order, each once, in whatever order the
document gives them. Numbers are kept as they are written, so that one that fits no machine type is
still a value, and so is an integer without a number: whether it fits is asked only of those that
are read.
-/

namespace SchemaTypes.Toml

/-- A floating point literal. -/
inductive Real where
  | finite (negative : Bool) (coefficient : Nat) (power : Int)
  | infinite (negative : Bool)
  | notANumber
  deriving DecidableEq, Repr

/-- A calendar date. -/
structure Date where
  year : Nat
  month : Nat
  day : Nat
  deriving DecidableEq, Repr

/-- A time of day. -/
structure Time where
  hour : Nat
  minute : Nat
  second : Option Nat
  deriving DecidableEq, Repr

/-- The distance of a local time from universal time, in minutes. -/
structure Offset where
  negative : Bool
  minutes : Nat
  deriving DecidableEq, Repr

/-- A date, a time or both; an offset only with both. -/
structure Moment where
  date : Option Date
  time : Option Time
  offset : Option Offset
  deriving DecidableEq, Repr

/-- A value of a document. -/
inductive Value where
  | string (text : String)
  /-- An integer; nothing in place of its number if the literal writes none. -/
  | integer (n : Option Int)
  | float (x : Real)
  | boolean (b : Bool)
  | datetime (m : Moment)
  | array (items : List Value)
  | table (entries : List (String × Value))

/-- The entries of a table, its keys in byte order. -/
abbrev Entries := List (String × Value)

/-! ### Numbers that fit -/

/-- The integer fits 64 bits, with or without a sign. -/
def fits64 (n : Int) : Bool :=
  -Int.pow 2 63 ≤ n && n < Int.pow 2 64

/-- The integer fits 128 bits with a sign. -/
def fitsSigned128 (n : Int) : Bool :=
  -Int.pow 2 127 ≤ n && n < Int.pow 2 127

/-- The integer fits 128 bits without a sign. -/
def fitsUnsigned128 (n : Int) : Bool :=
  0 ≤ n && n < Int.pow 2 128

/-- The integer fits some machine type. -/
def fitsInteger (n : Int) : Bool :=
  fits64 n || fitsSigned128 n || fitsUnsigned128 n

/-- The literal does not round to an infinite number, unless it says so. -/
def Real.fits : Real → Bool
  | .finite _ coefficient power => (Decimal.ofScientific coefficient power).isSome
  | .infinite _ => true
  | .notANumber => true

/-- The sign of a negative number. -/
def signText (negative : Bool) : String :=
  if negative then "-" else ""

/-- The text of a number, as messages show it. -/
def Real.text : Real → String
  | .finite negative coefficient power =>
    match Decimal.ofScientific coefficient power with
    | some x => signText negative ++ x.text
    | none => signText negative ++ "inf"
  | .infinite negative => signText negative ++ "inf"
  | .notANumber => "NaN"

end SchemaTypes.Toml
