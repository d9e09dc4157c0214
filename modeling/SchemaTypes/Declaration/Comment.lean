import SchemaTypes.Text.Lines

/-!
Documentation comments. Their text is free, so whatever would end the comment early is broken up.
-/

namespace SchemaTypes.Comment

/-- A text in which no comment ends. -/
def escape : List Char → List Char
  | '*' :: '/' :: rest => '*' :: '\\' :: '/' :: escape rest
  | c :: rest => c :: escape rest
  | [] => []

/-- One line of a comment of several lines. -/
def line (indent : String) (text : List Char) : String :=
  indent ++ " * " ++ String.ofList (escape text) ++ "\n"

/-- A comment of several lines. -/
def block (indent text : String) : String :=
  indent ++ "/**\n" ++ String.join ((Text.lines text.toList).map (line indent)) ++ indent ++
    " */\n"

/-- A comment of one line. -/
def single (indent text : String) : String :=
  indent ++ "/** " ++ String.ofList (escape text.toList) ++ " */\n"

/-- A comment of one line if the text has one. -/
def compact (indent text : String) : String :=
  if text.toList.contains '\n' then block indent text else single indent text

end SchemaTypes.Comment
