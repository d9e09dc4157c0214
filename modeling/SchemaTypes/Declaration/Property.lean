/-!
Property names: a name that is an identifier stands for itself, and any other is written between
single quotes.
-/

namespace SchemaTypes.Property

/-- A character that may begin an identifier. -/
def isInitial (c : Char) : Bool :=
  c.isAlpha || c = '_' || c = '$'

/-- A character that may continue an identifier. -/
def isMedial (c : Char) : Bool :=
  c.isAlphanum || c = '_' || c = '$'

/-- A name that needs no quotes. -/
def isIdentifier : List Char → Bool
  | [] => false
  | c :: rest => isInitial c && rest.all isMedial

/-- One character between single quotes. -/
def escaped (c : Char) : List Char :=
  if c = '\\' ∨ c = '\'' then ['\\', c] else [c]

/-- A name between single quotes. -/
def literal (name : List Char) : List Char :=
  '\'' :: name.flatMap escaped ++ ['\'']

/-- A name as it is written before a colon. -/
def key (name : String) : String :=
  if isIdentifier name.toList then name else String.ofList (literal name.toList)

end SchemaTypes.Property
