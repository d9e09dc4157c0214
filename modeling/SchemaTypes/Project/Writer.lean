import SchemaTypes.Project.Output

/-!
Writing files of declarations to their folder, or saying what would be written.
-/

namespace SchemaTypes

/-- Where files of declarations go. A rehearsal changes nothing. -/
structure Writer where
  folder : Path
  rehearses : Bool
  deriving DecidableEq, Repr

/-- What has become of a file. -/
inductive Written where
  | written (path : Path) (bytes : Nat)
  | rehearsed (path : Path) (content : String)
  deriving DecidableEq, Repr

/-- The path of the file. -/
def Written.path : Written → Path
  | .written path _ => path
  | .rehearsed path _ => path

/-- The number of bytes that were written. -/
def Written.bytes : Written → Nat
  | .written _ bytes => bytes
  | .rehearsed _ _ => 0

namespace Writer

/-- Where a file goes. -/
def pathOf (w : Writer) (fileName : String) : Path :=
  w.folder.child fileName

/-- Make the folder if it is missing, and tell whether it was. -/
def ensure (w : Writer) (t : FileTree) : FileTree × Except WriteFault Bool :=
  if w.rehearses || t.isFolder w.folder then (t, .ok false)
  else
    match t.makeFolders w.folder with
    | (next, none) => (next, .ok true)
    | (next, some e) => (next, .error (.folder w.folder e))

/-- Write one file. -/
def write (w : Writer) (t : FileTree) (fileName content : String) :
    FileTree × Except WriteFault Written :=
  let path := w.pathOf fileName
  if w.rehearses then (t, .ok (.rehearsed path content))
  else
    match t.write path content.toUTF8 with
    | .ok next => (next, .ok (.written path content.utf8ByteSize))
    | .error e => (t, .error (.file path e))

/-- Write files until one cannot be written. -/
def writeAll (w : Writer) (t : FileTree) : List Output → FileTree × Except WriteFault (List Written)
  | [] => (t, .ok [])
  | o :: rest =>
    match w.write t o.fileName o.content with
    | (next, .error fault) => (next, .error fault)
    | (next, .ok first) =>
      match w.writeAll next rest with
      | (last, .error fault) => (last, .error fault)
      | (last, .ok others) => (last, .ok (first :: others))

end Writer

end SchemaTypes
