/-!
Reading from the front of a text.

A reader takes the characters ahead and gives a value with the characters that remain, or nothing
if the text is malformed. Blanks, line ends and comments are the same everywhere in TOML; they are
here, with the character classes.
-/

namespace SchemaTypes.Toml

/-- A value read from the front of a text, and the rest of the text. -/
abbrev Reader (α : Type) := List Char → Option (α × List Char)

/-! ### Character classes -/

/-- A blank inside a line. -/
def isBlank (c : Char) : Bool :=
  c = ' ' || c = '\t'

/-- A character that may stand in a comment or a text of one line. -/
def isInline (c : Char) : Bool :=
  c = '\t' || (0x20 ≤ c.toNat && c.toNat ≠ 0x7F)

/-- A character of an unquoted key. -/
def isBare (c : Char) : Bool :=
  c.isAlphanum || c = '_' || c = '-'

/-- The value of a hexadecimal digit. -/
def hexValue? (c : Char) : Option Nat :=
  if '0' ≤ c ∧ c ≤ '9' then some (c.toNat - '0'.toNat)
  else if 'a' ≤ c ∧ c ≤ 'f' then some (c.toNat - 'a'.toNat + 10)
  else if 'A' ≤ c ∧ c ≤ 'F' then some (c.toNat - 'A'.toNat + 10)
  else none

/-! ### Between the tokens -/

/-- The text after the blanks. -/
def skipBlanks (s : List Char) : List Char :=
  s.dropWhile isBlank

theorem length_dropWhile_le {α : Type} (p : α → Bool) (s : List α) :
    (s.dropWhile p).length ≤ s.length :=
  (List.dropWhile_sublist p).length_le

theorem length_skipBlanks_le (s : List Char) : (skipBlanks s).length ≤ s.length :=
  length_dropWhile_le _ s

/-- The text after one line end, if the text begins with one. -/
def lineEnd? : List Char → Option (List Char)
  | '\n' :: rest => some rest
  | '\r' :: '\n' :: rest => some rest
  | _ => none

theorem length_lt_of_lineEnd? {s rest : List Char} (h : lineEnd? s = some rest) :
    rest.length < s.length := by
  unfold lineEnd? at h
  split at h
  · cases h
    exact Nat.lt_succ_self _
  · cases h
    exact Nat.lt_succ_of_lt (Nat.lt_succ_self _)
  · cases h

/-- The text after a comment, if the text begins with one, up to the end of the line. -/
def skipComment : List Char → List Char
  | '#' :: rest => rest.dropWhile isInline
  | s => s

theorem length_skipComment_le (s : List Char) : (skipComment s).length ≤ s.length := by
  unfold skipComment
  split
  · exact Nat.le_succ_of_le (length_dropWhile_le _ _)
  · exact Nat.le_refl _

/-- The text after blanks and a comment. -/
def skipPadding (s : List Char) : List Char :=
  skipComment (skipBlanks s)

theorem length_skipPadding_le (s : List Char) : (skipPadding s).length ≤ s.length :=
  Nat.le_trans (length_skipComment_le _) (length_skipBlanks_le s)

/-- The text after any blanks, comments and line ends. -/
def skipLines (s : List Char) : List Char :=
  match _h : lineEnd? (skipPadding s) with
  | some rest => skipLines rest
  | none => skipPadding s
termination_by s.length
decreasing_by exact Nat.lt_of_lt_of_le (length_lt_of_lineEnd? ‹_›) (length_skipPadding_le s)

/-- The line is over: the text after its end, if nothing but blanks and a comment remains of it. -/
def endLine? (s : List Char) : Option (List Char) :=
  match skipPadding s with
  | [] => some []
  | rest => lineEnd? rest

end SchemaTypes.Toml
