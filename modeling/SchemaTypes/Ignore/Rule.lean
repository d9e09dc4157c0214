import SchemaTypes.Text.Lines
import SchemaTypes.Text.Whitespace
import SchemaTypes.Ignore.Matching

/-!
Ignore files: lines of globs, each of which ignores files or, after an exclamation mark, keeps
them. The last line that matches decides.
-/

namespace SchemaTypes.Ignore

/-- What is to be done with a file. -/
inductive Verdict where
  | ignore
  | keep
  deriving DecidableEq, Repr

/-- A line of an ignore file. -/
structure Rule where
  verdict : Verdict
  foldersOnly : Bool
  glob : Glob

/-! ### Lines -/

/-- The text ends in the given one. -/
def endsIn (ending s : List Char) : Bool :=
  ending.reverse.isPrefixOf s.reverse

/-- A line without the blanks at its end. If the last one follows a backslash, all stay. -/
def trimLine (line : List Char) : List Char :=
  if endsIn ['\\', ' '] line then line else Text.trimEnd line

/-- A line in the course of being read: the pattern, the verdict, and whether the pattern is meant
from the folder of the ignore file. -/
structure Reading where
  pattern : List Char
  verdict : Verdict
  anchored : Bool

/-- A pattern without the slash at its front, which ties it to the folder of the file. -/
def dropAnchor (verdict : Verdict) : List Char → Reading
  | '/' :: rest => ⟨rest, verdict, true⟩
  | pattern => ⟨pattern, verdict, false⟩

/-- The marks at the front of a line. A mark after a backslash is part of the pattern. -/
def readFront : List Char → Reading
  | '\\' :: '!' :: rest => ⟨'!' :: rest, .ignore, false⟩
  | '\\' :: '#' :: rest => ⟨'#' :: rest, .ignore, false⟩
  | '!' :: rest => dropAnchor .keep rest
  | line => dropAnchor .ignore line

/-- A pattern without the slash at its end, which restricts it to folders. A backslash before that
slash goes with it. -/
def dropSlash (pattern : List Char) : List Char × Bool :=
  match pattern.reverse with
  | '/' :: '\\' :: front => (front.reverse, true)
  | '/' :: front => (front.reverse, true)
  | _ => (pattern, false)

/-- The pattern begins with two stars for folders. -/
def startsAnywhere (pattern : List Char) : Bool :=
  ['*', '*', '/'].isPrefixOf pattern || pattern = ['*', '*']

/-- The pattern of a whole path. One without a slash means a name in any folder; one that ends in
two stars means what is in a folder and not the folder. -/
def wholePath (anchored : Bool) (pattern : List Char) : List Char :=
  let located :=
    if anchored || pattern.contains '/' || startsAnywhere pattern then pattern
    else ['*', '*', '/'] ++ pattern
  if endsIn ['/', '*', '*'] located then located ++ ['/', '*'] else located

/-- The rule of a line. Comments, empty lines and malformed patterns have none. -/
def Rule.ofLine (line : List Char) : Option Rule :=
  if line.head? = some '#' then none
  else
    let line := trimLine line
    if line.isEmpty then none
    else
      let reading := readFront line
      let (pattern, foldersOnly) := dropSlash reading.pattern
      (Glob.parse (wholePath reading.anchored pattern)).map fun glob =>
        ⟨reading.verdict, foldersOnly, glob⟩

/-! ### Files -/

/-- The lines up to the first that is not text. -/
def textLines : List (List UInt8) → List (List Char)
  | [] => []
  | line :: rest =>
    match String.fromUTF8? ⟨line.toArray⟩ with
    | some text => text.toList :: textLines rest
    | none => []

/-- The first line without the mark of its byte order. -/
def dropMark : List (List Char) → List (List Char)
  | [] => []
  | line :: rest => line.dropWhile (· = '\ufeff') :: rest

/-- The rules of an ignore file. -/
def rulesOf (content : ByteArray) : List Rule :=
  (dropMark (textLines (Text.byteLines content.toList))).filterMap Rule.ofLine

/-! ### Verdicts -/

/-- A rule applies to a file or folder. -/
def Rule.applies (rule : Rule) (path : List UInt8) (isFolder : Bool) : Bool :=
  (!rule.foldersOnly || isFolder) && rule.glob.matchesPath path

/-- The verdict of the last rule that applies. -/
def verdict? (rules : List Rule) (path : List UInt8) (isFolder : Bool) : Option Verdict :=
  (rules.reverse.find? (·.applies path isFolder)).map (·.verdict)

end SchemaTypes.Ignore
