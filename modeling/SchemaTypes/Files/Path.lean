/-!
Paths, as they are written.

A path is kept letter by letter, since messages and results show it so; what it leads to is a
question to a tree of files.
-/

namespace SchemaTypes

/-- A path. -/
structure Path where
  text : String
  deriving DecidableEq, Repr

/-- The pieces of a text between the occurrences of a character. -/
def splitAtChar (c : Char) : List Char → List (List Char)
  | [] => [[]]
  | d :: rest =>
    if d = c then [] :: splitAtChar c rest
    else
      match splitAtChar c rest with
      | piece :: pieces => (d :: piece) :: pieces
      | [] => [[d]]

namespace Path

/-- A path that begins at the root. -/
def isAbsolute (p : Path) : Bool :=
  p.text.toList.head? = some '/'

/-- What stands between the slashes. A slash at either end has an empty name beside it. -/
def segments (p : Path) : List String :=
  (splitAtChar '/' p.text.toList).map String.ofList

/-- A name that leads nowhere else. -/
def isIdle (name : String) : Bool :=
  name = "" || name = "."

/-- A name that a file or folder can have. -/
def isName (name : String) : Bool :=
  !isIdle name && name ≠ ".." && !name.toList.contains '/'

/-- The names on a path that lead somewhere else. -/
def parts (p : Path) : List String :=
  p.segments.filter (!isIdle ·)

/-- The last name on a path, unless it leads upwards. -/
def fileName? (p : Path) : Option String :=
  match p.parts.getLast? with
  | some name => if name = ".." then none else some name
  | none => none

/-- The path `q` seen from `p`. -/
def join (p q : Path) : Path :=
  if q.isAbsolute || p.text = "" then q
  else if p.text.toList.getLast? = some '/' then ⟨p.text ++ q.text⟩
  else ⟨p.text ++ "/" ++ q.text⟩

/-- A file in the folder `p`. -/
def child (p : Path) (name : String) : Path :=
  p.join ⟨name⟩

/-! ### Parents -/

/-- The path of given parts. -/
def ofParts (absolute : Bool) (parts : List String) : Path :=
  ⟨(if absolute then "/" else "") ++ "/".intercalate parts⟩

/-- The folders on the way to `p`, the nearest first. -/
def parents (p : Path) : List Path :=
  (List.range' 1 (p.parts.length - 1)).reverse.map fun n =>
    ofParts p.isAbsolute (p.parts.take n)

/-- A path split before its last name: the segments up to it, the name itself, and whether slashes
follow it. -/
structure Ending where
  folder : List String
  name : String
  slashed : Bool
  deriving DecidableEq, Repr

/-- The ending of a path; nothing if it has no name. -/
def ending? (p : Path) : Option Ending :=
  match p.segments.reverse.dropWhile (· = "") with
  | [] => none
  | name :: before => some ⟨before.reverse, name, p.text.toList.getLast? = some '/'⟩

end Path

end SchemaTypes
