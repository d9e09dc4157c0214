/-!
The lines of a text. A line ends with a line feed, and with a carriage return before it; a last
line without an end is a line too, and an end at the very end begins no further line.

A text may be one of characters or of bytes, so the two that end lines are parameters.
-/

namespace SchemaTypes.Text

/-- The two marks of a line end. -/
structure LineEnd (α : Type) where
  feed : α
  carriageReturn : α

/-- Drop the carriage return at the end of a line that is read backwards. -/
def dropReturn {α : Type} [DecidableEq α] (marks : LineEnd α) : List α → List α
  | [] => []
  | c :: rest => if c = marks.carriageReturn then rest else c :: rest

/-- The lines of the rest of a text whose current line is `current`, read backwards. -/
def linesAfter {α : Type} [DecidableEq α] (marks : LineEnd α) (current : List α) :
    List α → List (List α)
  | [] => if current.isEmpty then [] else [current.reverse]
  | c :: rest =>
    if c = marks.feed then (dropReturn marks current).reverse :: linesAfter marks [] rest
    else linesAfter marks (c :: current) rest

/-- The lines of a text of characters, without their ends. -/
def lines (s : List Char) : List (List Char) :=
  linesAfter ⟨'\n', '\r'⟩ [] s

/-- The lines of a text of bytes, without their ends. -/
def byteLines (s : List UInt8) : List (List UInt8) :=
  linesAfter ⟨0x0A, 0x0D⟩ [] s

end SchemaTypes.Text
