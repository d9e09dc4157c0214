import SchemaTypes.Proofs.Files.Walk
import SchemaTypes.Proofs.Project.Naming
import SchemaTypes.Proofs.Project.Resolution

/-!
What becomes of each entry.

`Entry.Loads` says which entries are modules, without any state. Resolution succeeds exactly if no
file is called as a manifest without a stem and the modules differ in their names and base names;
every entry is then among the modules or among those that are skipped, and the sources are those of
the modules (`Resolution.ofEntries_spec`). Entries that are skipped make no other difference: what
resolution comes to, its fault included, is decided by the others alone
(`Resolution.foldlM_next_filter`).
-/

namespace SchemaTypes

/-! ### Single entries -/

/-- An entry loads as a module if it is a folder with a manifest for its index file, or a file whose
name has a stem and that is a manifest. -/
inductive Entry.Loads (t : FileTree) (s : ModuleSettings) (e : Entry) : Module → Source → Prop where
  | folder {text : String} {m : Module} :
      e.isFolder = true → t.readText (e.path.child s.indexFile) = .ok text →
      Module.ofManifest text = .ok m → Loads t s e m ⟨e.path, e.fileName, false⟩
  | file {stem text : String} {m : Module} :
      e.isFolder = false → e.fileName = stem ++ "." ++ s.suffix → stem ≠ "" →
      t.readText e.path = .ok text → Module.ofManifest text = .ok m →
      Loads t s e m ⟨e.path, stem, true⟩

/-- A file that is called as a manifest, but has no stem. -/
def Entry.IsBare (s : ModuleSettings) (e : Entry) : Prop :=
  e.isFolder = false ∧ e.fileName = "." ++ s.suffix

/-- An entry that neither is a module nor stops the work. -/
def Entry.IsSkipped (t : FileTree) (s : ModuleSettings) (e : Entry) : Prop :=
  ¬ e.IsBare s ∧ ∀ m source, ¬ e.Loads t s m source

theorem Module.read_eq_ok_iff {t : FileTree} {manifest : Path} {m : Module} :
    Module.read t manifest = .ok m ↔
      ∃ text, t.readText manifest = .ok text ∧ Module.ofManifest text = .ok m := by
  unfold Module.read
  cases t.readText manifest <;> simp [mapError_eq_ok_iff]

namespace Entry

variable {t : FileTree} {s : ModuleSettings} {e : Entry} {m : Module} {source : Source}

/-- The entries that load are those in which a module is found. -/
theorem found?_eq_some_iff_loads : e.found? t s = some (m, source) ↔ e.Loads t s m source := by
  rw [found?_eq_some_iff, load_eq_ok_iff]
  simp only [candidate_eq_ok_iff, Module.read_eq_ok_iff, stem?_eq_some_iff]
  constructor
  · rintro ⟨c, ⟨isFolder, -, rfl⟩ | ⟨isFile, stem, ⟨nonempty, name⟩, rfl⟩,
      ⟨text, isText, isModule⟩, rfl⟩
    · exact .folder isFolder isText isModule
    · exact .file isFile name nonempty isText isModule
  · intro loads
    cases loads with
    | folder isFolder isText isModule =>
      have isFile := FileTree.isFile_of_readText isText
      exact ⟨_, .inl ⟨isFolder, isFile, rfl⟩, ⟨_, isText, isModule⟩, rfl⟩
    | file isFile name nonempty isText isModule =>
      exact ⟨_, .inr ⟨isFile, _, ⟨nonempty, name⟩, rfl⟩, ⟨_, isText, isModule⟩, rfl⟩

theorem candidate_eq_error_iff {fault : IdentityFault} :
    e.candidate t s = .error fault ↔
      e.IsBare s ∧ fault = .malformedName e.fileName s.suffix := by
  unfold candidate fileCandidate IsBare
  cases e.isFolder with
  | true => simp
  | false =>
    by_cases follows : hasSuffix e.fileName s.suffix = true
    · rw [← stem?_eq_none_iff follows]
      cases stem? e.fileName s.suffix <;> simp [follows, @eq_comm _ fault]
    · have other : e.fileName ≠ "." ++ s.suffix := fun bare =>
        follows (by rw [bare, hasSuffix_bare])
      simp [follows, other]

/-- Only a bare suffix stops the work at an entry. -/
theorem load_eq_error_iff {fault : IdentityFault} :
    e.load t s = .error fault ↔ e.IsBare s ∧ fault = .malformedName e.fileName s.suffix := by
  rw [load, bind_eq_error_iff, candidate_eq_error_iff]
  apply or_iff_left
  rintro ⟨c, -, impossible⟩
  cases impossible

/-- An entry can be told to be a module or none unless it is a bare suffix. -/
theorem exists_load_iff : (∃ outcome, e.load t s = .ok outcome) ↔ ¬ e.IsBare s := by
  cases h : e.load t s with
  | ok outcome =>
    have notBare : ¬ e.IsBare s := fun bare => by
      rw [load_eq_error_iff.mpr ⟨bare, rfl⟩] at h
      cases h
    simp [notBare]
  | error fault => simp [(load_eq_error_iff.mp h).1]

/-- An entry is skipped if there is a reason that it does not load. -/
theorem isSkipped_iff : e.IsSkipped t s ↔ ∃ reason, e.load t s = .ok (.error reason) := by
  rw [IsSkipped, ← exists_load_iff (t := t)]
  simp only [← found?_eq_some_iff_loads, found?_eq_some_iff]
  rcases e.load t s with fault | reason | ⟨m, source⟩ <;> simp

instance (t : FileTree) (s : ModuleSettings) (e : Entry) : Decidable (e.IsSkipped t s) :=
  decidable_of_iff ((e.leftOver? t s).isSome = true) <| by
    rw [isSkipped_iff, leftOver?]
    rcases e.load t s with fault | reason | x <;> simp

end Entry

namespace Resolution

variable {t : FileTree} {s : ModuleSettings} {entries : List Entry} {r : Resolution}

/-! ### Entries that make no difference -/

/-- The sources and modules of a resolution, without the entries that were skipped. -/
def findings (r : Resolution) : List (String × Source) × List Module :=
  (r.sources, r.modules)

/-- What is accepted does not depend on the entries that were skipped. -/
theorem accept_congr {other : Resolution} (same : r.findings = other.findings) (m : Module)
    (source : Source) :
    (r.accept m source).map findings = (other.accept m source).map findings := by
  obtain ⟨sources, modules, skipped⟩ := r
  obtain ⟨otherSources, otherModules, otherSkipped⟩ := other
  obtain ⟨rfl, rfl⟩ := Prod.mk.inj same
  simp only [accept, source?, withBase?]
  cases sources.lookup m.name with
  | some first => rfl
  | none =>
    dsimp only
    split <;> rfl

/-- Skipping an entry finds nothing. -/
theorem next_of_skip {e : Entry} {reason : SkipReason} (skips : e.load t s = .ok (.error reason)) :
    r.next t s e = .ok (r.skip e reason) := by
  rw [next, skips]
  rfl

theorem next_of_found {e : Entry} {m : Module} {source : Source}
    (loads : e.load t s = .ok (.ok (m, source))) : r.next t s e = r.accept m source := by
  rw [next, loads]
  rfl

/-- What is found, or the fault, does not depend on entries that are skipped. -/
theorem foldlM_next_filter {other : Resolution} (same : r.findings = other.findings) :
    (entries.foldlM (next t s) r).map findings =
      ((entries.filter (¬ ·.IsSkipped t s)).foldlM (next t s) other).map findings := by
  induction entries generalizing r other with
  | nil => exact congrArg Except.ok same
  | cons e rest ih =>
    by_cases skips : e.IsSkipped t s
    · obtain ⟨reason, loaded⟩ := Entry.isSkipped_iff.mp skips
      rw [List.foldlM_cons, next_of_skip loaded, List.filter_cons_of_neg (by simpa using skips)]
      exact ih same
    · rw [List.filter_cons_of_pos (by simpa using skips), List.foldlM_cons, List.foldlM_cons]
      cases loaded : e.load t s with
      | error fault => simp [next, loaded, bind, Except.bind, Except.map]
      | ok outcome =>
        cases outcome with
        | error reason => exact absurd (Entry.isSkipped_iff.mpr ⟨reason, loaded⟩) skips
        | ok x =>
          obtain ⟨m, source⟩ := x
          rw [next_of_found loaded, next_of_found loaded]
          have accepted := accept_congr same m source
          cases left : r.accept m source <;> cases right : other.accept m source <;>
            rw [left, right] at accepted
          · exact accepted
          · cases accepted
          · cases accepted
          · exact ih (Except.ok.inj accepted)

/-- Entries that differ in skipped ones only come to the same, but for those that are skipped. -/
theorem ofEntries_congr_skipped {others : List Entry}
    (same : entries.filter (¬ ·.IsSkipped t s) = others.filter (¬ ·.IsSkipped t s)) :
    (ofEntries t s entries).map findings = (ofEntries t s others).map findings := by
  have comes : (entries.foldlM (next t s) empty).map findings =
      (others.foldlM (next t s) empty).map findings := by
    rw [foldlM_next_filter rfl, same, ← foldlM_next_filter rfl]
  rw [ofEntries_eq, ofEntries_eq]
  revert comes
  cases entries.foldlM (next t s) empty <;> cases others.foldlM (next t s) empty <;>
    simp [Except.map, Except.mapError]

/-! ### Entries that differ -/

/-- Modules differ in names and base names if no two entries load as modules that share one. -/
theorem distinct_found_iff :
    Distinct (entries.filterMap (·.found? t s)) ↔
      entries.Pairwise fun e q => ∀ m source, e.Loads t s m source →
        ∀ n other, q.Loads t s n other → m.name ≠ n.name ∧ source.base ≠ other.base := by
  have split : Distinct (entries.filterMap (·.found? t s)) ↔
      ((entries.filterMap (·.found? t s)).map (·.1.name)).Nodup ∧
        ((entries.filterMap (·.found? t s)).map (·.2.base)).Nodup :=
    ⟨fun h => ⟨h.names, h.bases⟩, fun h => ⟨h.1, h.2⟩⟩
  rw [split, List.nodup_iff_pairwise_ne, List.nodup_iff_pairwise_ne, List.pairwise_map,
    List.pairwise_map, ← List.pairwise_and_iff, List.pairwise_filterMap]
  refine List.Pairwise.iff fun e q => ?_
  simp only [Prod.forall, Entry.found?_eq_some_iff_loads]

/-! ### Every entry once -/

/-- Entries are gone through in their order: one that loads is found, and any other is skipped, for
the reason that it does not load. -/
inductive Accounts (t : FileTree) (s : ModuleSettings) :
    List Entry → List (Module × Source) → List Skipped → Prop where
  | nil : Accounts t s [] [] []
  | found {e : Entry} {rest : List Entry} {m : Module} {source : Source}
      {found : List (Module × Source)} {skipped : List Skipped} :
      e.Loads t s m source → Accounts t s rest found skipped →
      Accounts t s (e :: rest) ((m, source) :: found) skipped
  | skipped {e : Entry} {rest : List Entry} {reason : SkipReason}
      {found : List (Module × Source)} {skipped : List Skipped} :
      e.IsSkipped t s → e.load t s = .ok (.error reason) →
      Accounts t s rest found skipped →
      Accounts t s (e :: rest) found (⟨e.displayName, reason⟩ :: skipped)

theorem accounts_of_told (told : ∀ e ∈ entries, ¬ e.IsBare s) :
    Accounts t s entries (entries.filterMap (·.found? t s))
      (entries.filterMap (·.leftOver? t s)) := by
  induction entries with
  | nil => exact .nil
  | cons e rest ih =>
    obtain ⟨first, others⟩ := List.forall_mem_cons.mp told
    obtain ⟨outcome, loaded⟩ := (Entry.exists_load_iff (t := t)).mpr first
    cases outcome with
    | error reason =>
      have nothing : e.found? t s = none := by simp [Entry.found?, loaded]
      have skips : e.leftOver? t s = some ⟨e.displayName, reason⟩ := by
        simp [Entry.leftOver?, loaded]
      rw [List.filterMap_cons_none nothing, List.filterMap_cons_some skips]
      exact .skipped (Entry.isSkipped_iff.mpr ⟨reason, loaded⟩) loaded (ih others)
    | ok x =>
      obtain ⟨m, source⟩ := x
      have something : e.found? t s = some (m, source) := by simp [Entry.found?, loaded]
      have stays : e.leftOver? t s = none := by simp [Entry.leftOver?, loaded]
      rw [List.filterMap_cons_some something, List.filterMap_cons_none stays]
      exact .found (Entry.found?_eq_some_iff_loads.mp something) (ih others)

/-! ### The law of resolution -/

/-- Resolution succeeds exactly if no file is a bare suffix and no two entries load as modules that
share their name or base name. Its modules are then the entries that load, in their order, its
sources are those of its modules, and all other entries are skipped, in their order. Entries that
are skipped make no other difference, and none at all to a fault. -/
theorem ofEntries_spec (t : FileTree) (s : ModuleSettings) (entries : List Entry) :
    ((∃ r, ofEntries t s entries = .ok r) ↔
      (∀ e ∈ entries, ¬ e.IsBare s) ∧
        entries.Pairwise fun e q => ∀ m source, e.Loads t s m source →
          ∀ n other, q.Loads t s n other → m.name ≠ n.name ∧ source.base ≠ other.base) ∧
    (∀ r, ofEntries t s entries = .ok r →
      ∃ found, Accounts t s entries found r.skipped ∧ r.modules = found.map (·.1) ∧
        r.sources.Perm (found.map fun x => (x.1.name, x.2)) ∧
        ∀ name source, r.source? name = some source ↔
          ∃ e ∈ entries, ∃ m, e.Loads t s m source ∧ m.name = name) ∧
    ∀ others : List Entry,
      entries.filter (¬ ·.IsSkipped t s) = others.filter (¬ ·.IsSkipped t s) →
      (ofEntries t s entries).map findings = (ofEntries t s others).map findings := by
  have told : (∀ e ∈ entries, ∃ outcome, e.load t s = .ok outcome) ↔
      ∀ e ∈ entries, ¬ e.IsBare s :=
    forall₂_congr fun _ _ => Entry.exists_load_iff
  refine ⟨?success, ?outcome, fun others same => ofEntries_congr_skipped same⟩
  case success =>
    simp only [ofEntries_eq_ok_iff, told, distinct_found_iff]
    constructor
    · rintro ⟨r, none_bare, distinct, -⟩
      exact ⟨none_bare, distinct⟩
    · rintro ⟨none_bare, distinct⟩
      exact ⟨_, none_bare, distinct, rfl⟩
  case outcome =>
    intro r succeeds
    obtain ⟨outcomes, distinct, rfl⟩ := ofEntries_eq_ok_iff.mp succeeds
    refine ⟨_, accounts_of_told (told.mp outcomes), rfl, sources_perm distinct.names, ?_⟩
    intro name source
    rw [source?_eq_some_iff distinct.names]
    simp only [List.mem_filterMap, Entry.found?_eq_some_iff_loads]
    constructor
    · rintro ⟨m, ⟨e, mem, loads⟩, named⟩
      exact ⟨e, mem, m, loads, named⟩
    · rintro ⟨e, mem, m, loads, named⟩
      exact ⟨m, ⟨e, mem, loads⟩, named⟩

/-- A file and a folder of one base name, with an entry between them that is no module. -/
def rivalSources : FileTree where
  entries := [
    (["modules"], .folder),
    (["modules", "user"], .folder),
    (["modules", "user", "index.toml"], .file "name = \"Users\"\n".toUTF8),
    (["modules", "user.md"], .file "Users\n".toUTF8),
    (["modules", "user.toml"], .file "name = \"People\"\n".toUTF8)]
  current := []

/-- The folder is found first, and the file would have its declarations in the same place. -/
example :
    ofEntries rivalSources ⟨⟨"modules"⟩, "toml", "index.toml", false⟩
        (rivalSources.entriesOf ⟨"modules"⟩) =
      .error (.identity (.duplicateOutput "user" ⟨"modules/user"⟩ ⟨"modules/user.toml"⟩)) := by
  decide +kernel

end Resolution

end SchemaTypes
