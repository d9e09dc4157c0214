import SchemaTypes.Toml.Quotation
import SchemaTypes.Toml.Number
import SchemaTypes.Toml.Calendar
import SchemaTypes.Toml.Table

/-!
From the text of a document to its table.

`Document.statements` reads a text into headers and assignments; `Document.assemble` carries them
out on an empty table; `parse` does both. A text that is not well formed, or defines a key twice,
has no table.
-/

namespace SchemaTypes.Toml

/-! ### Keys -/

/-- One step of a key: unquoted or quoted. -/
def keyStep : Reader String
  | '"' :: rest => quotation ('"' :: rest)
  | '\'' :: rest => quotation ('\'' :: rest)
  | s =>
    let name := s.takeWhile isBare
    if name.isEmpty then none else some (String.ofList name, s.dropWhile isBare)

/-- A key of one step or several, with dots between them. -/
def dottedKey (s : List Char) : Option ((List String × String) × List Char) :=
  match keyStep s with
  | none => none
  | some (step, rest) =>
    match skipBlanks rest with
    | '.' :: more =>
      if _h : (skipBlanks more).length < s.length then
        (dottedKey (skipBlanks more)).map fun ((path, key), after) => ((step :: path, key), after)
      else none
    | after => some (([], step), after)
termination_by s.length

/-! ### Values -/

/-- A character that ends a value without quotes or brackets. -/
def isSeparator (c : Char) : Bool :=
  ['\n', '\r', '#', ',', '=', '[', ']', '\x7b', '\x7d'].contains c

/-- The token ahead: what stands before the next separator, without the blanks at its end. -/
def token (s : List Char) : List Char × List Char :=
  let run := s.takeWhile (!isSeparator ·)
  ((run.reverse.dropWhile isBlank).reverse, s.dropWhile (!isSeparator ·))

/-- The value that a token writes. -/
def scalar? (token : List Char) : Option Value :=
  if token = ['t', 'r', 'u', 'e'] then some (.boolean true)
  else if token = ['f', 'a', 'l', 's', 'e'] then some (.boolean false)
  else (integer? token <|> float? token) <|> (moment? token).map .datetime

/-- The elements of an array, after its opening bracket or a comma. -/
def elements (value : Reader Value) (s : List Char) : Option (List Value × List Char) :=
  match skipLines s with
  | ']' :: rest => some ([], rest)
  | ahead =>
    match value ahead with
    | none => none
    | some (v, rest) =>
      match skipLines rest with
      | ']' :: after => some ([v], after)
      | ',' :: more =>
        if _h : more.length < s.length then
          (elements value more).map fun (vs, after) => (v :: vs, after)
        else none
      | _ => none
termination_by s.length

/-- A key, an equals sign and a value. On both sides of the sign stands what `skip` passes over. -/
def assignment (skip : List Char → List Char) (value : Reader Value) :
    Reader (List String × String × Value) := fun s => do
  let ((path, key), rest) ← dottedKey s
  match skip rest with
  | '=' :: more =>
    let (v, after) ← value (skip more)
    pure ((path, key, v), after)
  | _ => none

/-- The assignments of an inline table, after its opening brace or a comma. They may run over
several lines. -/
def members (value : Reader Value) (s : List Char) :
    Option (List (List String × String × Value) × List Char) :=
  match skipLines s with
  | '}' :: rest => some ([], rest)
  | ahead =>
    match assignment skipLines value ahead with
    | none => none
    | some (a, rest) =>
      match skipLines rest with
      | '}' :: after => some ([a], after)
      | ',' :: more =>
        if _h : more.length < s.length then
          (members value more).map fun (as, after) => (a :: as, after)
        else none
      | _ => none
termination_by s.length

/-- A value that holds arrays and inline tables at most `depth` deep. -/
def value : (depth : Nat) → Reader Value
  | depth, s =>
    match s with
    | '"' :: _ | '\'' :: _ => (anyQuotation s).map fun (text, rest) => (.string text, rest)
    | '[' :: rest =>
      match depth with
      | 0 => none
      | depth + 1 => (elements (value depth) rest).map fun (vs, after) => (.array vs, after)
    | '{' :: rest =>
      match depth with
      | 0 => none
      | depth + 1 => do
        let (assignments, after) ← members (value depth) rest
        let items ← Items.ofAssignments assignments
        pure (.table (itemsToEntries items), after)
    | _ =>
      let (text, rest) := token s
      (scalar? text).map fun v => (v, rest)

/-- How deep arrays and inline tables may lie inside one another. -/
def maxDepth : Nat := 80

/-! ### Statements -/

/-- A statement of a document. -/
inductive Statement where
  /-- The assignments that follow belong to this table. -/
  | openTable (path : List String) (key : String)
  /-- The assignments that follow belong to a further table of this array. -/
  | openElement (path : List String) (key : String)
  /-- A key gets a value. -/
  | assign (path : List String) (key : String) (v : Value)

/-- A header, after its first bracket. -/
def header : Reader Statement
  | '[' :: rest => do
    let ((path, key), after) ← dottedKey (skipBlanks rest)
    match skipBlanks after with
    | ']' :: ']' :: after => pure (.openElement path key, after)
    | _ => none
  | rest => do
    let ((path, key), after) ← dottedKey (skipBlanks rest)
    match skipBlanks after with
    | ']' :: after => pure (.openTable path key, after)
    | _ => none

/-- A statement and the end of its line. -/
def statement (s : List Char) : Option (Statement × List Char) := do
  let (st, rest) ←
    match s with
    | '[' :: rest => header rest
    | _ => (assignment skipBlanks (value maxDepth) s).map fun ((path, key, v), rest) =>
        (.assign path key v, rest)
  let after ← endLine? rest
  pure (st, after)

/-- The statements of a text. -/
def statements (s : List Char) : Option (List Statement) :=
  match skipLines s with
  | [] => some []
  | ahead =>
    match statement ahead with
    | none => none
    | some (st, rest) =>
      if _h : rest.length < s.length then (statements rest).map (st :: ·) else none
termination_by s.length

/-- A document under construction: its tables, and the header that is in force. -/
structure Progress where
  current : List String
  items : Items

/-- Carry out one statement. -/
def Progress.next (p : Progress) : Statement → Option Progress
  | .openTable path key =>
    (p.items.within path (·.openTable key)).map fun items => ⟨path ++ [key], items⟩
  | .openElement path key =>
    (p.items.within path (·.openElement key)).map fun items => ⟨path ++ [key], items⟩
  | .assign path key v =>
    (p.items.within p.current (·.assign path key v)).map fun items => { p with items }

/-- The table that the statements define. -/
def assemble (sts : List Statement) : Option Entries :=
  (sts.foldlM Progress.next ⟨[], []⟩).map fun p => itemsToEntries p.items

/-- A text without the mark of its byte order. -/
def dropByteOrderMark : List Char → List Char
  | '\ufeff' :: rest => rest
  | s => s

/-- The table of a document; nothing if the text is malformed. -/
def parse (text : String) : Option Entries := do
  assemble (← statements (dropByteOrderMark text.toList))

end SchemaTypes.Toml
