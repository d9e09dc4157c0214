import SchemaTypes.Files.Tree
import SchemaTypes.Ignore.Rule

/-!
The ignore files of a folder, and how they see the entries of that folder.

Rules come from `.gitignore` and from the file `info/exclude` of the repository; where the first has
a verdict, the second is not asked. The repository is the folder `.git`, or the one to which a file
`.git` leads. Folders above and ignore files elsewhere do not count.
-/

namespace SchemaTypes.Ignore

/-! ### Where the rules are -/

/-- The first line of a file, if there is one and it is text. -/
def firstLine? (t : FileTree) (p : Path) : Option (List Char) :=
  match t.read p with
  | .ok content =>
    (Text.byteLines content.toList).head?.bind fun line =>
      (String.fromUTF8? ⟨line.toArray⟩).map (·.toList)
  | .error _ => none

/-- What a file `.git` has before the path to which it leads. -/
def linkMark : List Char :=
  ['g', 'i', 't', 'd', 'i', 'r', ':', ' ']

/-- The folder to which a file `.git` leads: that of a work tree that is not the first. -/
def linkedFolder? (t : FileTree) (folder : Path) : Option Path :=
  (firstLine? t (folder.child ".git")).bind fun line =>
    if linkMark.isPrefixOf line then some ⟨String.ofList (line.drop linkMark.length)⟩ else none

/-- The file in which a work tree says what repository it belongs to. -/
def linkFile (linked : Path) : Path :=
  linked.child "commondir"

/-- The repository of a work tree. It is seen from the folder of the work tree if it begins with a
dot. -/
def sharedFolder? (t : FileTree) (linked : Path) : Option Path :=
  (firstLine? t (linkFile linked)).map fun line =>
    let shared : Path := ⟨String.ofList line⟩
    if line.head? = some '.' then linked.join shared else shared

/-- The repository that a folder belongs to. -/
def repository? (t : FileTree) (folder : Path) : Option Path :=
  if t.isFile (folder.child ".git") then (linkedFolder? t folder).bind (sharedFolder? t)
  else some (folder.child ".git")

/-- The ignore files of a folder, those that decide first in front. -/
def ignoreFiles (t : FileTree) (folder : Path) : List Path :=
  folder.child ".gitignore" :: ((repository? t folder).map (·.child "info/exclude")).toList

/-! ### What the rules see -/

/-- The rules of a file. A file that cannot be read has none. -/
def rulesAt (t : FileTree) (p : Path) : List Rule :=
  match t.read p with
  | .ok content => rulesOf content
  | .error _ => []

/-- A text without another at its front, if it is there. -/
def dropFront (front s : List Char) : List Char :=
  if front.isPrefixOf s then s.drop front.length else s

/-- The path is the mark of the current folder, alone or with marks that lead nowhere after it. -/
def isHere (p : Path) : Bool :=
  p.text.toList.head? = some '.' && p.segments.all Path.isIdle

/-- How rules see the path of an entry of a folder: from that folder, and without the marks of the
current folder at its front. -/
def seenFrom (folder entry : Path) : List UInt8 :=
  let here := dropFront ['.', '/'] folder.text.toList
  let path := dropFront ['.', '/'] (dropFront ['.', '/'] entry.text.toList)
  let seen :=
    if isHere ⟨String.ofList here⟩ || !path.contains '/' || !here.isPrefixOf path then path
    else dropFront ['/'] (path.drop here.length)
  (String.ofList seen).toUTF8.toList

/-- The ignore files of a folder tell to ignore an entry of it. -/
def ignores (t : FileTree) (folder entry : Path) : Bool :=
  let path := seenFrom folder entry
  let verdict := (ignoreFiles t folder).findSome? fun file =>
    verdict? (rulesAt t file) path (t.isFolder entry)
  verdict = some .ignore

end SchemaTypes.Ignore
