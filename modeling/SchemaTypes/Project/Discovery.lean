import SchemaTypes.Ignore.Folder
import SchemaTypes.Project.Fault
import SchemaTypes.Project.Settings

/-!
Discovery: the entries of the module folder, whatever they are.
-/

namespace SchemaTypes

/-- An entry of the module folder. -/
structure Entry where
  path : Path
  fileName : String
  /-- What messages call the entry. -/
  displayName : String
  isFolder : Bool
  deriving DecidableEq, Repr

/-- What messages call the module folder. -/
def folderName (folder : Path) : String :=
  folder.fileName?.getD folder.text

/-- The entry of a given name. -/
def Entry.ofName (t : FileTree) (folder : Path) (name : String) : Entry where
  path := folder.child name
  fileName := name
  displayName := folderName folder ++ "/" ++ name
  isFolder := t.isFolder (folder.child name)

/-- The entries of a folder, in the order of their names. -/
def FileTree.entriesOf (t : FileTree) (folder : Path) : List Entry :=
  match t.locate folder with
  | .ok here => (t.children here).map (Entry.ofName t folder)
  | .error _ => []

/-- The entries of the module folder, less those that ignore files exclude. -/
def discover (t : FileTree) (s : ModuleSettings) : Except ProjectFault (List Entry) :=
  if t.isFolder s.folder then
    let entries := t.entriesOf s.folder
    .ok (if s.obeysIgnoreFiles then
      entries.filter fun e => !Ignore.ignores t s.folder e.path
    else entries)
  else .error (.noFolder s.folder)

end SchemaTypes
