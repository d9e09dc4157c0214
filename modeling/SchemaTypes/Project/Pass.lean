import SchemaTypes.Project.Writer

/-!
A pass over a project: from its modules to its files of declarations.

All modules are read and checked before the first file is written. `check` compares instead of
writing.
-/

namespace SchemaTypes

/-- What a pass has done. -/
structure Summary where
  written : List Written
  skipped : List Skipped
  createdFolder : Bool
  deriving DecidableEq, Repr

/-- The files that are not as they should be, and how many were looked at. -/
structure Report where
  stale : List Path
  checked : Nat
  deriving DecidableEq, Repr

/-- All files are as they should be. -/
def Report.isCurrent (r : Report) : Bool :=
  r.stale.isEmpty

/-- What the modules of a project become, and the entries that are no modules. -/
structure Rendering where
  outputs : List Output
  skipped : List Skipped
  deriving DecidableEq, Repr

namespace Settings

/-- The modules of a project. -/
def resolve (s : Settings) (t : FileTree) : Except ProjectFault Resolution := do
  Resolution.ofEntries t s.modules (← discover t s.modules)

/-- The file of one module. -/
def outputOf (s : Settings) (r : Resolution) (catalog : Catalog) (m : Module) :
    Except ProjectFault Output :=
  match r.source? m.name with
  | some source => (m.output s catalog source).mapError .schema
  | none => .error (.noSource m.name)

/-- The files of resolved modules. -/
def outputs (s : Settings) (r : Resolution) : Except ProjectFault (List Output) := do
  let storage ← (Storage.ofModules s.backend r.modules).mapError .schema
  storage.modules.mapM (s.outputOf r storage.catalog)

/-- The files of a project. -/
def render (s : Settings) (t : FileTree) : Except ProjectFault Rendering := do
  let r ← s.resolve t
  let outputs ← s.outputs r
  pure ⟨outputs, r.skipped⟩

/-! ### Writing -/

/-- Write the files that were rendered. -/
def emit (s : Settings) (rehearses : Bool) (rendering : Rendering) (t : FileTree) :
    FileTree × Except ProjectFault Summary :=
  let w : Writer := ⟨s.output.folder, rehearses⟩
  match w.ensure t with
  | (next, .error fault) => (next, .error (.write fault))
  | (next, .ok created) =>
    match w.writeAll next rendering.outputs with
    | (last, .error fault) => (last, .error (.write fault))
    | (last, .ok written) => (last, .ok ⟨written, rendering.skipped, created⟩)

/-- Make the files of a project. -/
def run (s : Settings) (rehearses : Bool) (t : FileTree) :
    FileTree × Except ProjectFault Summary :=
  match s.render t with
  | .error fault => (t, .error fault)
  | .ok rendering => s.emit rehearses rendering t

/-! ### Checking -/

/-- The file of an output is missing or has another content. Any other obstacle is a fault. -/
def isStale (s : Settings) (t : FileTree) (o : Output) : Except ProjectFault Bool :=
  match t.read (s.output.folder.child o.fileName) with
  | .ok content => .ok (Node.file content ≠ .file o.content.toUTF8)
  | .error .notFound => .ok true
  | .error e => .error (.files e)

/-- The paths of the files that are stale. -/
def stalePaths (s : Settings) (t : FileTree) : List Output → Except ProjectFault (List Path)
  | [] => .ok []
  | o :: rest => do
    let stale ← s.isStale t o
    let others ← s.stalePaths t rest
    pure (if stale then s.output.folder.child o.fileName :: others else others)

/-- Compare the files of a project with what they should be. -/
def check (s : Settings) (t : FileTree) : Except ProjectFault Report := do
  let rendering ← s.render t
  let stale ← s.stalePaths t rendering.outputs
  pure ⟨stale, rendering.outputs.length⟩

end Settings

end SchemaTypes
