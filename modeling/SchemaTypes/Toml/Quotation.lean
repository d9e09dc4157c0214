import SchemaTypes.Toml.Scan

/-!
The four kinds of quoted text: with escapes or without, of one line or of several.
-/

namespace SchemaTypes.Toml

/-! ### Escapes -/

/-- The character with a given code point, if it has one. -/
def charOfCode? (n : Nat) : Option Char :=
  if n.isValidChar then some (Char.ofNat n) else none

/-- A code point written with exactly `count` hexadecimal digits. -/
def hexCode (count : Nat) : Reader Char := fun s => do
  if s.length < count then none
  let digits ← (s.take count).mapM hexValue?
  let c ← charOfCode? (digits.foldl (fun n d => 16 * n + d) 0)
  pure (c, s.drop count)

/-- The character that an escape stands for, read after the backslash. -/
def escape : Reader Char
  | 'b' :: rest => some ('\x08', rest)
  | 't' :: rest => some ('\t', rest)
  | 'n' :: rest => some ('\n', rest)
  | 'f' :: rest => some ('\x0c', rest)
  | 'r' :: rest => some ('\r', rest)
  | 'e' :: rest => some ('\x1b', rest)
  | '"' :: rest => some ('"', rest)
  | '\\' :: rest => some ('\\', rest)
  | 'x' :: rest => hexCode 2 rest
  | 'u' :: rest => hexCode 4 rest
  | 'U' :: rest => hexCode 8 rest
  | _ => none

/-! ### Text of one line -/

/-- The rest of a text with escapes, after its opening quote. -/
def basic : List Char → Option (List Char × List Char)
  | [] => none
  | '"' :: rest => some ([], rest)
  | '\\' :: ahead =>
    match escape ahead with
    | none => none
    | some (c, rest) =>
      if _h : rest.length ≤ ahead.length then
        (basic rest).map fun (text, after) => (c :: text, after)
      else none
  | c :: rest =>
    if isInline c then (basic rest).map fun (text, after) => (c :: text, after) else none
termination_by s => s.length
decreasing_by all_goals simp only [List.length_cons]; omega

/-- The rest of a text without escapes, after its opening quote. -/
def literal : List Char → Option (List Char × List Char)
  | [] => none
  | '\'' :: rest => some ([], rest)
  | c :: rest =>
    if isInline c then (literal rest).map fun (text, after) => (c :: text, after) else none

/-! ### Text of several lines -/

/-- A line end directly after the opening quotes is not part of the text. -/
def dropFirstLineEnd (s : List Char) : List Char :=
  (lineEnd? s).getD s

/-- The text after a backslash at the end of a line: the line end goes, and all blanks and line
ends that follow. -/
def skipFold (s : List Char) : List Char :=
  match _h : lineEnd? (skipBlanks s) with
  | some rest => skipFold rest
  | none => skipBlanks s
termination_by s.length
decreasing_by exact Nat.lt_of_lt_of_le (length_lt_of_lineEnd? ‹_›) (length_skipBlanks_le s)

/-- The closing quotes: three, with up to two more before them that belong to the text. -/
def closing? (quote : Char) : List Char → Option (List Char × List Char)
  | a :: b :: c :: d :: e :: rest =>
    if [a, b, c, d, e].all (· = quote) then some ([quote, quote], rest)
    else if [a, b, c, d].all (· = quote) then some ([quote], e :: rest)
    else if [a, b, c].all (· = quote) then some ([], d :: e :: rest)
    else none
  | [a, b, c, d] =>
    if [a, b, c, d].all (· = quote) then some ([quote], [])
    else if [a, b, c].all (· = quote) then some ([], [d])
    else none
  | [a, b, c] => if [a, b, c].all (· = quote) then some ([], []) else none
  | _ => none

/-- One character of a text of several lines, which may be a line end. -/
def multilineChar? : List Char → Option (List Char × List Char)
  | '\r' :: '\n' :: rest => some (['\r', '\n'], rest)
  | '\n' :: rest => some (['\n'], rest)
  | c :: rest => if isInline c then some ([c], rest) else none
  | [] => none

/-- One piece of a text of several lines with escapes: a folded line end, an escape or a
character. -/
def multilinePiece? : List Char → Option (List Char × List Char)
  | '\\' :: ahead =>
    match lineEnd? (skipBlanks ahead) with
    | some rest => some ([], skipFold rest)
    | none => (escape ahead).map fun (c, rest) => ([c], rest)
  | s => multilineChar? s

/-- The rest of a text of several lines, after its opening quotes; `piece?` reads its pieces. -/
def multiline (quote : Char) (piece? : List Char → Option (List Char × List Char))
    (s : List Char) : Option (List Char × List Char) :=
  match closing? quote s with
  | some (text, rest) => some (text, rest)
  | none =>
    match piece? s with
    | none => none
    | some (text, rest) =>
      if _h : rest.length < s.length then
        (multiline quote piece? rest).map fun (more, after) => (text ++ more, after)
      else none
termination_by s.length

/-! ### Any quoted text -/

/-- A quoted text of one line. -/
def quotation : Reader String
  | '"' :: rest => (basic rest).map fun (text, after) => (String.ofList text, after)
  | '\'' :: rest => (literal rest).map fun (text, after) => (String.ofList text, after)
  | _ => none

/-- A quoted text of any kind. -/
def anyQuotation : Reader String
  | '"' :: '"' :: '"' :: rest =>
    (multiline '"' multilinePiece? (dropFirstLineEnd rest)).map fun (text, after) =>
      (String.ofList text, after)
  | '\'' :: '\'' :: '\'' :: rest =>
    (multiline '\'' multilineChar? (dropFirstLineEnd rest)).map fun (text, after) =>
      (String.ofList text, after)
  | s => quotation s

end SchemaTypes.Toml
