import SchemaTypes.CommandLine.Session
import SchemaTypes.Files.Survey

/-!
The program: it reads the files that a command needs into a tree, lets the session do its work on
the tree, and carries the changes out on disk.
-/

namespace SchemaTypes

/-- Read what lies at a location, and below it. -/
partial def readNodes (l : Location) (deep : Bool) : IO (List (Location × Node)) := do
  try
    let here ← IO.FS.realPath l.path.text
    if ← here.isDir then
      let inside ←
        if deep then
          (← here.readDir).toList.mapM fun e => readNodes (l ++ [e.fileName]) true
        else pure []
      pure ((l, .folder) :: inside.flatten)
    else pure [(l, .file (← IO.FS.readBinFile here))]
  catch _ => pure []

/-- A tree that knows more. -/
def FileTree.learn (t : FileTree) (nodes : List (Location × Node)) : FileTree :=
  nodes.foldl (fun t (l, node) => t.put l node) t

/-- Read what a path needs: all that it passes through, and what lies below. -/
def readPath (t : FileTree) (p : Path) : IO FileTree := do
  let passed ← (p.passes t.current).mapM fun l => readNodes l false
  let below ← ((p.passes t.current).getLast?.toList).mapM fun l => readNodes l true
  pure (t.learn (passed ++ below).flatten)

/-- Read the ignore files of a folder, wherever they lie. -/
def readIgnoreFiles (t : FileTree) (folder : Path) : IO FileTree := do
  let links := ((Ignore.linkedFolder? t folder).map Ignore.linkFile).toList
  let t ← links.foldlM readPath t
  (Ignore.ignoreFiles t folder).foldlM readPath t

/-- Read the module folder, and the files that tell what to ignore in it. -/
def readModules (t : FileTree) (s : ModuleSettings) : IO FileTree := do
  let t ← readPath t s.folder
  if s.obeysIgnoreFiles then readIgnoreFiles t s.folder else pure t

/-- Read the files that a command needs. -/
def readFor (t : FileTree) (i : Invocation) : IO FileTree := do
  match i.command with
  | .init path _ => readPath t path
  | .work source overrides _ =>
    let t ← readPath t (source.getD settingsPath)
    match taskSettings t source overrides with
    | .error _ => pure t
    | .ok s => do readPath (← readModules t s.modules) s.output.folder

/-- Carry out on disk what is new in a tree. -/
def writeChanges (old new : FileTree) : IO Unit := do
  for (l, node) in new.entries do
    if old.node? l ≠ some node then
      match node with
      | .folder => IO.FS.createDir l.path.text
      | .file content => IO.FS.writeBinFile l.path.text content

/-- The changes between two trees, as paths that begin with a folder. -/
def changes (folder : Path) (here : Location) (old new : FileTree) : List Path :=
  let changed := (new.entries.filter fun (l, node) => old.node? l ≠ some node).map Prod.fst
  let gone := (old.entries.filter fun (l, _) => (new.node? l).isNone).map Prod.fst
  (changed ++ gone).filterMap fun l =>
    if here.isPrefixOf l && l ≠ here then
      some (folder.child ("/".intercalate (l.drop here.length)))
    else none

/-- Show a text at once. -/
def display (text : String) : IO Unit := do
  let out ← IO.getStdout
  out.putStr text
  out.flush

/-- Wait for changes of manifests, and make the declarations anew after each. -/
partial def keepWatching (w : Watch) (empty t : FileTree) : IO Unit := do
  IO.sleep 500
  let folder := w.settings.modules.folder
  let next ← readPath (← readModules empty w.settings.modules) w.settings.output.folder
  let here := ((folder.passes empty.current).getLast?).getD []
  let events := (changes folder here t next).filterMap
    (WatchEvent.ofChange next w.settings.modules.suffix)
  let mut latest := next
  for event in events do
    let (after, out) := w.onEvent latest event
    writeChanges latest after
    display out
    latest := after
  keepWatching w empty latest

/-- Do what the arguments ask for. -/
def runProgram (args : List String) : IO UInt32 := do
  let current := (Path.mk (← IO.currentDir).toString).parts
  let empty : FileTree := ⟨[(current, .folder)], current⟩
  let t ←
    match Invocation.ofArguments settingsPath args with
    | .ok i => readFor empty i
    | .error _ => pure empty
  let session := Session.ofArguments t args
  writeChanges t session.tree
  display session.out
  (← IO.getStderr).putStr session.err
  match session.watch with
  | none => pure ()
  | some w => keepWatching w empty session.tree
  pure session.exitCode.toUInt32

end SchemaTypes

/-- Run the program with the arguments of the command line. -/
def main (args : List String) : IO UInt32 :=
  SchemaTypes.runProgram args
