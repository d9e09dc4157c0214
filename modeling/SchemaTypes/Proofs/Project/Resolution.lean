import SchemaTypes.Project.Resolution
import SchemaTypes.Proofs.Project.Naming
import SchemaTypes.Proofs.Order.Keyed
import SchemaTypes.Proofs.Outcome

/-!
What resolution accepts.

Entries are resolved one after the other, with the modules so far as state. `Entry.found?` and
`Entry.leftOver?` say what entries hold without any state: a module is read from the manifest that
the kind of its entry provides for (`Entry.candidate_eq_ok_iff`). `ofEntries_eq_ok_iff` says that
resolution succeeds exactly when every entry can be told to be a module or none, and the modules
differ in their names and in the base names of their declarations. The resolution is then known
(`Resolution.of`).
-/

namespace SchemaTypes

/-! ### What entries hold -/

/-- The module of an entry, with its source, if it has one. -/
def Entry.found? (t : FileTree) (s : ModuleSettings) (e : Entry) : Option (Module × Source) :=
  match e.load t s with
  | .ok (.ok m) => some m
  | _ => none

/-- An entry that is skipped. -/
def Entry.leftOver? (t : FileTree) (s : ModuleSettings) (e : Entry) : Option Skipped :=
  match e.load t s with
  | .ok (.error reason) => some ⟨e.displayName, reason⟩
  | _ => none

namespace Entry

variable {t : FileTree} {s : ModuleSettings} {e : Entry} {m : Module} {source : Source}

theorem found?_eq_some_iff :
    e.found? t s = some (m, source) ↔ e.load t s = .ok (.ok (m, source)) := by
  unfold found?
  rcases e.load t s with fault | reason | x <;> simp

/-- A module is read from the manifest of its entry. -/
theorem load_eq_ok_iff :
    e.load t s = .ok (.ok (m, source)) ↔
      ∃ c, e.candidate t s = .ok (.ok c) ∧ Module.read t c.manifest = .ok m ∧
        c.source = source := by
  rw [load, bind_eq_ok_iff]
  constructor
  · rintro ⟨candidate, isCandidate, loaded⟩
    obtain ⟨c, rfl, isRead⟩ := bind_eq_ok_iff.mp (pure_eq_ok_iff.mp loaded)
    obtain ⟨m, isModule, eq⟩ := map_eq_ok_iff.mp isRead
    cases eq
    exact ⟨c, isCandidate, isModule, rfl⟩
  · rintro ⟨c, isCandidate, isModule, rfl⟩
    refine ⟨.ok c, isCandidate, pure_eq_ok_iff.mpr ?_⟩
    exact bind_eq_ok_iff.mpr ⟨c, rfl, map_eq_ok_iff.mpr ⟨m, isModule, rfl⟩⟩

/-- A folder with an index file has this for a manifest, and a file with a stem has itself. -/
theorem candidate_eq_ok_iff {c : Candidate} :
    e.candidate t s = .ok (.ok c) ↔
      (e.isFolder = true ∧ t.isFile (e.path.child s.indexFile) = true ∧
          c = ⟨e.path.child s.indexFile, e.path, e.fileName, false⟩) ∨
        (e.isFolder = false ∧ ∃ stem, stem? e.fileName s.suffix = some stem ∧
          c = ⟨e.path, e.path, stem, true⟩) := by
  unfold candidate
  cases e.isFolder with
  | true =>
    by_cases isFile : t.isFile (e.path.child s.indexFile) = true <;>
      simp [folderCandidate, isFile, @eq_comm _ c]
  | false =>
    unfold fileCandidate
    cases isStem : stem? e.fileName s.suffix with
    | none => cases hasSuffix e.fileName s.suffix <;> simp
    | some stem => simp [hasSuffix_of_stem? isStem, @eq_comm _ c]

end Entry

namespace Resolution

/-- The resolution that has found some modules and skipped some entries. -/
def of (found : List (Module × Source)) (skipped : List Skipped) : Resolution :=
  ⟨sortKeyed Prod.fst (found.map fun x => (x.1.name, x.2)), found.map (·.1), skipped⟩

section State

variable {found : List (Module × Source)} {skipped : List Skipped}

theorem map_fst_named :
    (found.map fun x => (x.1.name, x.2)).map Prod.fst = found.map (·.1.name) := by
  simp [Function.comp_def]

/-- The sources are those of the modules. -/
theorem sources_perm (names : (found.map (·.1.name)).Nodup) :
    (of found skipped).sources.Perm (found.map fun x => (x.1.name, x.2)) :=
  sortKeyed_perm (map_fst_named ▸ names)

theorem source?_eq_some_iff (names : (found.map (·.1.name)).Nodup) {name : String}
    {source : Source} :
    (of found skipped).source? name = some source ↔ ∃ m, (m, source) ∈ found ∧ m.name = name := by
  have perm : (of found skipped).sources.Perm _ := sources_perm names
  have nodup : ((of found skipped).sources.map Prod.fst).Nodup :=
    (perm.map _).nodup_iff.mpr (map_fst_named ▸ names)
  rw [source?, lookup_eq_some_iff nodup, perm.mem_iff]
  simp

theorem source?_eq_none_iff (names : (found.map (·.1.name)).Nodup) {name : String} :
    (of found skipped).source? name = none ↔ name ∉ found.map (·.1.name) := by
  rw [Option.eq_none_iff_forall_ne_some]
  simp only [ne_eq, source?_eq_some_iff names, List.mem_map, Prod.exists, not_exists, not_and]
  exact forall_comm

theorem withBase?_eq_none_iff (names : (found.map (·.1.name)).Nodup) {base : String} :
    (of found skipped).withBase? base = none ↔ base ∉ found.map (·.2.base) := by
  have bases : (of found skipped).sources.map (·.2.base) |>.Perm (found.map (·.2.base)) := by
    simpa [Function.comp_def] using (sources_perm names).map (·.2.base)
  rw [withBase?, Option.map_eq_none_iff,
    find?_key_eq_none_iff (fun x : String × Source => x.2.base), bases.mem_iff]

theorem of_concat (m : Module) (source : Source) :
    of (found ++ [(m, source)]) skipped =
      { of found skipped with
        sources := insertKeyed Prod.fst (m.name, source) (of found skipped).sources
        modules := (of found skipped).modules ++ [m] } := by
  simp [of, sortKeyed_concat]

theorem of_skip (e : Entry) (reason : SkipReason) :
    (of found skipped).skip e reason = of found (skipped ++ [⟨e.displayName, reason⟩]) := rfl

/-- One more module is accepted if its name and its base name are new. -/
theorem accept_eq_ok_iff (names : (found.map (·.1.name)).Nodup) {m : Module} {source : Source}
    {r : Resolution} :
    (of found skipped).accept m source = .ok r ↔
      m.name ∉ found.map (·.1.name) ∧ source.base ∉ found.map (·.2.base) ∧
        r = of (found ++ [(m, source)]) skipped := by
  have name : (of found skipped).source? m.name = none ↔ _ := source?_eq_none_iff names
  have base : (of found skipped).withBase? source.base = none ↔ _ := withBase?_eq_none_iff names
  rw [← name, ← base, of_concat]
  unfold accept
  cases (of found skipped).source? m.name with
  | some first => simp
  | none =>
    cases (of found skipped).withBase? source.base with
    | some first => simp
    | none => simp [@eq_comm _ r]

end State

/-! ### All entries -/

section Entries

variable {t : FileTree} {s : ModuleSettings}

/-- Names and base names of modules differ. -/
structure Distinct (found : List (Module × Source)) : Prop where
  names : (found.map (·.1.name)).Nodup
  bases : (found.map (·.2.base)).Nodup

theorem Distinct.of_append_left {found others : List (Module × Source)}
    (h : Distinct (found ++ others)) : Distinct found :=
  ⟨(List.map_append ▸ h.names).of_append_left, (List.map_append ▸ h.bases).of_append_left⟩

theorem distinct_concat_iff {found : List (Module × Source)} {m : Module} {source : Source} :
    Distinct (found ++ [(m, source)]) ↔
      Distinct found ∧ m.name ∉ found.map (·.1.name) ∧ source.base ∉ found.map (·.2.base) := by
  constructor
  · intro h
    exact ⟨h.of_append_left, (nodup_map_concat_iff.mp h.names).2,
      (nodup_map_concat_iff.mp h.bases).2⟩
  · rintro ⟨h, name, base⟩
    exact ⟨nodup_map_concat_iff.mpr ⟨h.names, name⟩, nodup_map_concat_iff.mpr ⟨h.bases, base⟩⟩

/-- One more entry either is skipped or has a module that is accepted. -/
theorem next_eq_ok_iff {found : List (Module × Source)} {skipped : List Skipped} {e : Entry}
    {r : Resolution} (distinct : Distinct found) :
    (of found skipped).next t s e = .ok r ↔
      (∃ outcome, e.load t s = .ok outcome) ∧ Distinct (found ++ (e.found? t s).toList) ∧
        r = of (found ++ (e.found? t s).toList) (skipped ++ (e.leftOver? t s).toList) := by
  rw [next, bind_eq_ok_iff]
  unfold Entry.found? Entry.leftOver?
  cases h : e.load t s with
  | error fault => simp
  | ok outcome =>
    cases outcome with
    | error reason =>
      simp [distinct, of_skip, pure_eq_ok_iff, @eq_comm _ r]
    | ok x =>
      obtain ⟨m, source⟩ := x
      simp [accept_eq_ok_iff distinct.names, distinct_concat_iff, distinct, and_assoc]

/-- Resolution succeeds if every entry can be told to be a module or none, and the modules among
them differ in their names and base names. -/
theorem foldlM_next_eq_ok_iff {found : List (Module × Source)} {skipped : List Skipped}
    {entries : List Entry} {r : Resolution} (distinct : Distinct found) :
    entries.foldlM (next t s) (of found skipped) = .ok r ↔
      (∀ e ∈ entries, ∃ outcome, e.load t s = .ok outcome) ∧
        Distinct (found ++ entries.filterMap (·.found? t s)) ∧
        r = of (found ++ entries.filterMap (·.found? t s))
          (skipped ++ entries.filterMap (·.leftOver? t s)) := by
  induction entries generalizing found skipped with
  | nil => simp [distinct, pure_eq_ok_iff, @eq_comm _ r]
  | cons e rest ih =>
    have foundSplit : found ++ (e :: rest).filterMap (·.found? t s) =
        (found ++ (e.found? t s).toList) ++ rest.filterMap (·.found? t s) := by
      cases h : e.found? t s <;> simp [h]
    have skippedSplit : skipped ++ (e :: rest).filterMap (·.leftOver? t s) =
        (skipped ++ (e.leftOver? t s).toList) ++ rest.filterMap (·.leftOver? t s) := by
      cases h : e.leftOver? t s <;> simp [h]
    simp only [List.foldlM_cons, bind_eq_ok_iff, next_eq_ok_iff distinct, List.forall_mem_cons,
      foundSplit, skippedSplit]
    constructor
    · rintro ⟨_, ⟨told, fits, rfl⟩, h⟩
      obtain ⟨others, all, eq⟩ := (ih fits).mp h
      exact ⟨⟨told, others⟩, all, eq⟩
    · rintro ⟨⟨told, others⟩, all, eq⟩
      have fits := all.of_append_left
      exact ⟨_, ⟨told, fits, rfl⟩, (ih fits).mpr ⟨others, all, eq⟩⟩

/-- Resolving entries is resolving one after the other. -/
theorem ofEntries_eq (entries : List Entry) :
    ofEntries t s entries = (entries.foldlM (next t s) empty).mapError .identity := by
  unfold ofEntries ofDiscovery
  generalize empty = r
  induction entries generalizing r with
  | nil => rfl
  | cons e rest ih =>
    rw [List.map_cons, List.foldlM_cons, List.foldlM_cons]
    cases h : r.next t s e with
    | error fault => simp [bind, Except.bind, Except.mapError, h]
    | ok next => simpa [bind, Except.bind, Except.mapError, h] using ih next

/-- Entries are resolved if each can be told to be a module or none, and the modules among them
differ in their names and base names. -/
theorem ofEntries_eq_ok_iff {entries : List Entry} {r : Resolution} :
    ofEntries t s entries = .ok r ↔
      (∀ e ∈ entries, ∃ outcome, e.load t s = .ok outcome) ∧
        Distinct (entries.filterMap (·.found? t s)) ∧
        r = of (entries.filterMap (·.found? t s)) (entries.filterMap (·.leftOver? t s)) := by
  have start : empty = of [] [] := rfl
  have distinct : Distinct [] := ⟨.nil, .nil⟩
  rw [ofEntries_eq, mapError_eq_ok_iff, start, foldlM_next_eq_ok_iff distinct]
  rfl

theorem ofEntries_eq_error {entries : List Entry} {fault : ProjectFault}
    (h : ofEntries t s entries = .error fault) : ∃ cause, fault = .identity cause := by
  rw [ofEntries_eq, mapError_eq_error_iff] at h
  obtain ⟨cause, -, eq⟩ := h
  exact ⟨cause, eq.symm⟩

end Entries

end Resolution

/-! ### Base names -/

theorem mem_of_mem_dropEnd? {ending s front : List Char} (h : dropEnd? ending s = some front)
    {c : Char} (mem : c ∈ front) : c ∈ s := by
  unfold dropEnd? at h
  split at h
  · cases h
    exact List.mem_of_mem_take mem
  · cases h

/-- A stem has no other characters than its name. -/
theorem mem_of_mem_stem {name suffix stem : String} (h : stem? name suffix = some stem) {c : Char}
    (mem : c ∈ stem.toList) : c ∈ name.toList := by
  unfold stem? at h
  split at h
  · cases h
  · cases h
  · rename_i front nonempty eq
    cases h
    obtain ⟨middle, dropped, dropped'⟩ := Option.bind_eq_some_iff.mp eq
    rw [String.toList_ofList] at mem
    exact mem_of_mem_dropEnd? dropped (mem_of_mem_dropEnd? dropped' mem)

/-- The base name of a module's declarations has no slashes. -/
theorem Entry.flat_of_found? {t : FileTree} {s : ModuleSettings} {e : Entry} {m : Module}
    {source : Source} (named : Path.isName e.fileName = true)
    (h : e.found? t s = some (m, source)) : '/' ∉ source.base.toList := by
  have flat := Path.isName_flat named
  obtain ⟨c, isCandidate, -, rfl⟩ := load_eq_ok_iff.mp (found?_eq_some_iff.mp h)
  rcases candidate_eq_ok_iff.mp isCandidate with ⟨-, -, rfl⟩ | ⟨-, stem, isStem, rfl⟩
  · exact flat
  · exact fun mem => flat (mem_of_mem_stem isStem mem)

end SchemaTypes
