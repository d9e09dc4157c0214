import SchemaTypes.Text.Quoted
import SchemaTypes.Toml.Value

/-!
What can be wrong with a well-formed value, and how it is reported.

A fault keeps its cause; `Fault.message` words it. `Failure` adds the case of a text that is no
document at all.
-/

namespace SchemaTypes.Toml

/-- What a fault tells of the value at which it arose. -/
inductive Found where
  | string (text : String)
  | integer (n : Option Int)
  | float (x : Real)
  | boolean (b : Bool)
  | datetime
  | array
  | table
  deriving DecidableEq, Repr

/-- What a value counts as in a fault. -/
def Value.found : Value → Found
  | .string text => .string text
  | .integer n => .integer n
  | .float x => .float x
  | .boolean b => .boolean b
  | .datetime _ => .datetime
  | .array _ => .array
  | .table _ => .table

/-- A reason why a value does not give what is wanted of it. -/
inductive Fault where
  /-- The value is of another kind. -/
  | mismatch (found : Found) (wanted : String)
  /-- The integer fits no machine type, or has no number at all. -/
  | integerOverflow
  /-- The number is too large for a double. -/
  | floatOverflow
  /-- A required key is absent. -/
  | missing (key : String)
  /-- A record written as an array ends before its required keys do. -/
  | tooShort (present : Nat) (title : String) (size : Nat)
  /-- No choice has this name. -/
  | unknownChoice (name : String) (known : List String)
  /-- A choice is written as a string or a table. -/
  | notChoice
  /-- A table that names no choice. -/
  | noChoice
  /-- A table that names several choices. -/
  | manyChoices
  /-- A choice with contents, given as a table. -/
  | filledTable
  /-- A choice with contents, given as an array. -/
  | filledArray
  /-- A choice with a content that is neither. -/
  | notTable (found : Found)
  deriving DecidableEq, Repr

/-- A reason why a text does not give what is wanted of it. -/
inductive Failure where
  /-- The text is not a document. -/
  | malformed
  /-- The document does not fit. -/
  | unfit (fault : Fault)
  deriving DecidableEq, Repr

/-! ### Wording -/

/-- A name between backticks. -/
def ticked (name : String) : String :=
  "`" ++ name ++ "`"

/-- The value as a mismatch describes it. Integers beyond 64 bits say which type holds them. -/
def Found.text : Found → String
  | .string text => "string " ++ Text.quoted text
  | .integer none => "integer"
  | .integer (some n) =>
    let size := if fits64 n then "" else if fitsSigned128 n then " as i128" else " as u128"
    "integer " ++ ticked (toString n) ++ size
  | .float x => "floating point " ++ ticked x.text
  | .boolean b => "boolean " ++ ticked (if b then "true" else "false")
  | .datetime => "map"
  | .array => "sequence"
  | .table => "map"

/-- The kind of a value. -/
def Found.kind : Found → String
  | .string _ => "string"
  | .integer _ => "integer"
  | .float _ => "float"
  | .boolean _ => "boolean"
  | .datetime => "datetime"
  | .array => "array"
  | .table => "table"

/-- The choices that there are. -/
def expectedChoices : List String → String
  | [] => "there are no variants"
  | [a] => "expected " ++ ticked a
  | [a, b] => "expected " ++ ticked a ++ " or " ++ ticked b
  | known => "expected one of " ++ String.intercalate ", " (known.map ticked)

/-- The text of a fault. -/
def Fault.message : Fault → String
  | .mismatch found wanted => "invalid type: " ++ found.text ++ ", expected " ++ wanted
  | .integerOverflow => "integer number overflowed"
  | .floatOverflow => "floating-point number overflowed"
  | .missing key => "missing field " ++ ticked key
  | .tooShort present title size =>
    "invalid length " ++ toString present ++ ", expected struct " ++ title ++ " with " ++
      toString size ++ (if size = 1 then " element" else " elements")
  | .unknownChoice name known =>
    "unknown variant " ++ ticked name ++ ", " ++ expectedChoices known
  | .notChoice => "wanted string or table"
  | .noChoice => "wanted exactly 1 element, found 0 elements"
  | .manyChoices => "wanted exactly 1 element, more than 1 element"
  | .filledTable => "expected empty table"
  | .filledArray => "expected empty array"
  | .notTable found => "expected table, found " ++ found.kind

end SchemaTypes.Toml
