import SchemaTypes.Identifier.Words

/-!
Spellings of an identifier: its words joined in one of two styles.
-/

namespace SchemaTypes.Identifier

/-- A word with its first letter in upper case and the others in lower case. -/
def capitalize : List Char → List Char
  | [] => []
  | c :: rest => Text.upperChar c ++ Text.lower rest

/-- The words capitalized and run together. -/
def pascal (name : String) : String :=
  String.ofList ((words name.toList).flatMap capitalize)

/-- The words in lower case, with a hyphen between two of them. -/
def kebab (name : String) : String :=
  String.ofList (['-'].intercalate ((words name.toList).map Text.lower))

end SchemaTypes.Identifier
