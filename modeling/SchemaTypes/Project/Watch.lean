import SchemaTypes.Project.Fault
import SchemaTypes.Project.Naming

/-!
Watching the module folder for changes of manifests.

A change is told by a path, and all names on it are Unicode text, as they are in a tree of files.
Names of other bytes are left out: discovery would list such a file under a name that can be read,
and the watcher would take no change to it for one of a manifest.
-/

namespace SchemaTypes

/-- What happens to a watched folder. -/
inductive WatchEvent where
  /-- A manifest is new or has changed. -/
  | modified (path : Path)
  /-- A manifest is gone. -/
  | deleted (path : Path)
  /-- Something could not be watched. -/
  | failed (message : String)
  deriving DecidableEq, Repr

namespace WatchEvent

/-- The manifest that an event is about. -/
def path? : WatchEvent → Option Path
  | .modified path => some path
  | .deleted path => some path
  | .failed _ => none

/-- The message of a failure. -/
def message? : WatchEvent → Option String
  | .failed message => some message
  | _ => none

/-- The event is a failure. -/
def isFailure (e : WatchEvent) : Bool :=
  e.message?.isSome

/-- The event of a change to a path. Changes to other files than manifests are none. -/
def ofChange (t : FileTree) (suffix : String) (p : Path) : Option WatchEvent :=
  if isManifest p suffix then some (if t.isPresent p then .modified p else .deleted p) else none

end WatchEvent

/-- The reason why a folder cannot be watched, if there is one. The empty path is the current
folder. -/
def watchFault? (t : FileTree) (folder : Path) : Option WatchFault :=
  if folder.text = "" then none
  else
    match t.lookup folder with
    | .ok _ => none
    | .error .notFound => some .noPath
    | .error e => some (.failed e)

end SchemaTypes
