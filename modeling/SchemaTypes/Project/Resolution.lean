import SchemaTypes.Project.Discovery
import SchemaTypes.Project.Naming
import SchemaTypes.Schema.Manifest

/-!
Resolution: which entries are modules, and under which names.

An entry that is no module is skipped, with the reason. Modules have to differ in their names and in
the base names of their declarations.
-/

namespace SchemaTypes

/-- Where a module comes from, and the base name of its declarations. -/
structure Source where
  path : Path
  base : String
  isSingleFile : Bool
  deriving DecidableEq, Repr

/-- An entry that is no module. -/
structure Skipped where
  displayName : String
  reason : SkipReason
  deriving DecidableEq, Repr

/-- The modules of a project in the order of their discovery, their sources in the order of their
names, and the entries that are no modules. -/
structure Resolution where
  sources : List (String × Source)
  modules : List Module
  skipped : List Skipped
  deriving DecidableEq, Repr

/-! ### Single entries -/

/-- The module of a manifest. -/
def Module.read (t : FileTree) (manifest : Path) : Except SkipReason Module :=
  match t.readText manifest with
  | .error e => .error (.unreadable manifest e)
  | .ok source => (Module.ofManifest source).mapError (.invalid manifest)

/-- A manifest that an entry may have, and where a module comes from that it declares. -/
structure Candidate where
  manifest : Path
  source : Source
  deriving DecidableEq, Repr

/-- The manifest of a file. -/
def Entry.fileCandidate (s : ModuleSettings) (e : Entry) :
    Except IdentityFault (Except SkipReason Candidate) :=
  if hasSuffix e.fileName s.suffix then
    match stem? e.fileName s.suffix with
    | some stem => .ok (.ok ⟨e.path, e.path, stem, true⟩)
    | none => .error (.malformedName e.fileName s.suffix)
  else .ok (.error .notAManifest)

/-- The manifest of a folder. -/
def Entry.folderCandidate (t : FileTree) (s : ModuleSettings) (e : Entry) :
    Except SkipReason Candidate :=
  let index := e.path.child s.indexFile
  if t.isFile index then .ok ⟨index, e.path, e.fileName, false⟩
  else .error (.noIndex s.indexFile)

/-- The manifest of an entry. The outer fault stops the work, the inner one skips the entry. -/
def Entry.candidate (t : FileTree) (s : ModuleSettings) (e : Entry) :
    Except IdentityFault (Except SkipReason Candidate) :=
  if e.isFolder then .ok (e.folderCandidate t s) else e.fileCandidate s

/-- The module of an entry, with its source. The outer fault stops the work, the inner one skips the
entry. -/
def Entry.load (t : FileTree) (s : ModuleSettings) (e : Entry) :
    Except IdentityFault (Except SkipReason (Module × Source)) := do
  let candidate ← e.candidate t s
  pure (candidate.bind fun c => (Module.read t c.manifest).map fun m => (m, c.source))

/-! ### All entries -/

namespace Resolution

/-- Nothing is resolved yet. -/
def empty : Resolution :=
  ⟨[], [], []⟩

/-- The source of the module of a given name. -/
def source? (r : Resolution) (name : String) : Option Source :=
  r.sources.lookup name

/-- The source with a given base name. -/
def withBase? (r : Resolution) (base : String) : Option Source :=
  (r.sources.find? (·.2.base = base)).map (·.2)

/-- Skip an entry. -/
def skip (r : Resolution) (e : Entry) (reason : SkipReason) : Resolution :=
  { r with skipped := r.skipped ++ [⟨e.displayName, reason⟩] }

/-- Add a module. -/
def accept (r : Resolution) (m : Module) (source : Source) : Except IdentityFault Resolution :=
  match r.source? m.name with
  | some first => .error (.duplicateName m.name first.path source.path)
  | none =>
    match r.withBase? source.base with
    | some first => .error (.duplicateOutput source.base first.path source.path)
    | none =>
      .ok { r with
        sources := insertKeyed Prod.fst (m.name, source) r.sources
        modules := r.modules ++ [m] }

/-- Resolve one more entry. -/
def next (t : FileTree) (s : ModuleSettings) (r : Resolution) (e : Entry) :
    Except IdentityFault Resolution := do
  match ← e.load t s with
  | .ok (m, source) => r.accept m source
  | .error reason => pure (r.skip e reason)

/-- Resolve entries as they are discovered. A fault in their discovery counts when it is
reached. -/
def ofDiscovery (t : FileTree) (s : ModuleSettings) (entries : List (Except ProjectFault Entry)) :
    Except ProjectFault Resolution :=
  entries.foldlM (fun r e => do (r.next t s (← e)).mapError .identity) empty

/-- Resolve entries. -/
def ofEntries (t : FileTree) (s : ModuleSettings) (entries : List Entry) :
    Except ProjectFault Resolution :=
  ofDiscovery t s (entries.map .ok)

end Resolution

end SchemaTypes
