import SchemaTypes.Files.Path
import SchemaTypes.Order.Keyed

/-!
Trees of files, as they are seen from a current folder.

A tree maps locations to files and folders. Paths are followed name by name (`FileTree.walk`), so
that a path through a file, or through a folder that does not exist, fails as it does on disk, even
where a later `..` would lead out again. An operation that fails leaves the tree as it was;
`FileTree.makeFolders`, which may have made some folders by then, gives the tree along with the
error.

All names are Unicode text. There are no names of other bytes, no links and no permissions, so an
operation fails because of what lies at the locations on its way and for no other reason.
-/

namespace SchemaTypes

/-- What lies at a location. -/
inductive Node where
  | file (content : ByteArray)
  | folder

/-- Files are told apart by their bytes. -/
instance : DecidableEq Node
  | .file a, .file b =>
    match ByteArray.decEq a b with
    | isTrue same => isTrue (congrArg Node.file same)
    | isFalse differ => isFalse fun h => differ (Node.file.inj h)
  | .folder, .folder => isTrue rfl
  | .file _, .folder => isFalse nofun
  | .folder, .file _ => isFalse nofun

/-- The names that lead from the root to a file or folder. -/
abbrev Location := List String

/-- A tree of files. -/
structure FileTree where
  entries : List (Location × Node)
  current : Location

/-- A reason why an operation on files fails. -/
inductive FileError where
  | notFound
  | alreadyExists
  | notFolder
  | isFolder
  | notText
  deriving DecidableEq, Repr

/-- The text of an error. -/
def FileError.message : FileError → String
  | .notFound => "No such file or directory (os error 2)"
  | .alreadyExists => "File exists (os error 17)"
  | .notFolder => "Not a directory (os error 20)"
  | .isFolder => "Is a directory (os error 21)"
  | .notText => "stream did not contain valid UTF-8"

/-- Set the value of a key. -/
def setEntry (l : Location) (node : Node) : List (Location × Node) → List (Location × Node)
  | [] => [(l, node)]
  | (k, old) :: rest => if k = l then (k, node) :: rest else (k, old) :: setEntry l node rest

namespace FileTree

/-! ### Locations -/

/-- What lies at a location. The root is always there. -/
def node? (t : FileTree) (l : Location) : Option Node :=
  if l = [] then some .folder else t.entries.lookup l

/-- Let a file or folder lie at a location. -/
def put (t : FileTree) (l : Location) (node : Node) : FileTree :=
  { t with entries := setEntry l node t.entries }

theorem lookup_setEntry (l k : Location) (node : Node) (entries : List (Location × Node)) :
    (setEntry l node entries).lookup k = if k = l then some node else entries.lookup k := by
  induction entries with
  | nil => exact lookup_cons_eq ..
  | cons entry rest ih =>
    obtain ⟨m, old⟩ := entry
    unfold setEntry
    by_cases hm : m = l
    · by_cases h : k = l <;> simp [lookup_cons_eq, hm, h]
    · by_cases h : k = m
      · simp [h, hm]
      · simp [lookup_cons_eq, h, hm, ih]

/-- Changing one location changes no other. The root cannot be changed. -/
theorem node?_put (t : FileTree) (l k : Location) (node : Node) :
    (t.put l node).node? k = if k = l ∧ l ≠ [] then some node else t.node? k := by
  unfold node? put
  by_cases hk : k = []
  · by_cases h : k = l <;> simp_all
  · by_cases h : k = l
    · simp [hk, lookup_setEntry, ← h]
    · simp [hk, lookup_setEntry, h]

/-- The name of an entry that lies directly in a folder. What no path can name is not found. -/
def childName? (folder : Location) (l : Location) : Option String :=
  if l.dropLast = folder then l.getLast?.filter Path.isName else none

/-- The names in a folder, in order. -/
def children (t : FileTree) (folder : Location) : List String :=
  sortKeyed id (t.entries.filterMap fun (l, _) => childName? folder l)

/-- The entries below a folder, each after the folders that it lies in. -/
def below (t : FileTree) (folder : Location) : List (Location × Node) :=
  let inside := t.entries.filter fun (l, _) => folder.isPrefixOf l && l ≠ folder
  (inside.map fun (l, node) => (l.drop folder.length, node)).mergeSort fun a b => !List.lex b.1 a.1

/-! ### Paths -/

/-- Follow one name from a location, which has to be a folder. -/
def step (t : FileTree) (here : Location) (name : String) : Except FileError Location :=
  match t.node? here with
  | some .folder =>
    if Path.isIdle name then .ok here
    else if name = ".." then .ok here.dropLast
    else if (t.node? (here ++ [name])).isSome then .ok (here ++ [name])
    else .error .notFound
  | some (.file _) => .error .notFolder
  | none => .error .notFound

/-- Follow several names. -/
def walk (t : FileTree) (here : Location) (names : List String) : Except FileError Location :=
  names.foldlM t.step here

/-- Where a path begins. -/
def start (t : FileTree) (p : Path) : Location :=
  if p.isAbsolute then [] else t.current

/-- Where a path leads. The empty path leads nowhere. -/
def locate (t : FileTree) (p : Path) : Except FileError Location :=
  if p.text = "" then .error .notFound else t.walk (t.start p) p.segments

/-- What a path leads to. -/
def lookup (t : FileTree) (p : Path) : Except FileError Node := do
  match t.node? (← t.locate p) with
  | some node => pure node
  | none => .error .notFound

/-- A path leads to something. -/
def isPresent (t : FileTree) (p : Path) : Bool :=
  match t.lookup p with
  | .ok _ => true
  | .error _ => false

/-- A path leads to a folder. -/
def isFolder (t : FileTree) (p : Path) : Bool :=
  match t.lookup p with
  | .ok .folder => true
  | _ => false

/-- A path leads to a file. -/
def isFile (t : FileTree) (p : Path) : Bool :=
  match t.lookup p with
  | .ok (.file _) => true
  | _ => false

/-! ### Reading -/

/-- The content of a file. -/
def read (t : FileTree) (p : Path) : Except FileError ByteArray := do
  match ← t.lookup p with
  | .file content => pure content
  | .folder => .error .isFolder

/-- The content of a file that is text. -/
def readText (t : FileTree) (p : Path) : Except FileError String := do
  match String.fromUTF8? (← t.read p) with
  | some text => pure text
  | none => .error .notText

/-! ### Writing -/

/-- The folder of the last name on a path. The empty name after its segments fails on a file. -/
def folderOf (t : FileTree) (p : Path) (ending : Path.Ending) : Except FileError Location :=
  t.walk (t.start p) (ending.folder ++ [""])

/-- A name that stands for a folder wherever it occurs. -/
def namesFolder (name : String) : Bool :=
  name = "." || name = ".."

/-- Give a file a new content. The file may be new, its folder may not. -/
def write (t : FileTree) (p : Path) (content : ByteArray) : Except FileError FileTree :=
  if p.text = "" then .error .notFound
  else
    match p.ending? with
    | none => .error .isFolder
    | some ending => do
      let folder ← t.folderOf p ending
      let target := folder ++ [ending.name]
      if namesFolder ending.name || ending.slashed || t.node? target = some .folder then
        .error .isFolder
      else pure (t.put target (.file content))

/-- Make a new folder in an existing one. -/
def makeFolder (t : FileTree) (p : Path) : Except FileError FileTree :=
  if p.text = "" then .error .notFound
  else
    match p.ending? with
    | none => .error .alreadyExists
    | some ending => do
      let folder ← t.folderOf p ending
      let target := folder ++ [ending.name]
      if namesFolder ending.name || (t.node? target).isSome then .error .alreadyExists
      else pure (t.put target .folder)

/-- Make a folder that may exist already. -/
def ensureFolder (t : FileTree) (p : Path) : Except FileError FileTree :=
  match t.makeFolder p with
  | .ok next => .ok next
  | .error e => if t.isFolder p then .ok t else .error e

/-- Make the first of several folders, each of which lies in the next one. Only as many as are
missing are made. -/
def makeChain (t : FileTree) : List Path → FileTree × Option FileError
  | [] => (t, none)
  | p :: outer =>
    match t.ensureFolder p with
    | .ok next => (next, none)
    | .error .notFound =>
      match t.makeChain outer with
      | (next, some e) => (next, some e)
      | (next, none) =>
        match next.ensureFolder p with
        | .ok last => (last, none)
        | .error e => (next, some e)
    | .error e => (t, some e)

/-- Make a folder and the folders on the way to it. The empty path needs none. -/
def makeFolders (t : FileTree) (p : Path) : FileTree × Option FileError :=
  if p.text = "" then (t, none) else t.makeChain (p :: p.parents)

/-- Remove a file, or a folder with all that is in it. -/
def remove (t : FileTree) (p : Path) : Except FileError FileTree := do
  let l ← t.locate p
  pure { t with entries := t.entries.filter fun (k, _) => !l.isPrefixOf k }

end FileTree

end SchemaTypes
