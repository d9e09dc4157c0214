import SchemaTypes.Project.Watch
import SchemaTypes.Proofs.Files.Walk
import SchemaTypes.Proofs.Project.Rendering

/-!
Which manifests are watched.

A module in a file of its own has a manifest that is named by the convention of the suffix, and the
watcher goes by this convention too. The manifest of a folder is called as the settings say, which
may be otherwise; the watcher does not ask what they say and lets no change to it through
(`Entry.watched_iff`). With the settings in effect when nothing is said, all manifests are watched.
All of this is about names that are Unicode text, which all names in a `FileTree` are.
-/

namespace SchemaTypes

namespace WatchEvent

/-- Whatever happens to a path, there is an event that tells of it. -/
def Reports (suffix : String) (p : Path) : Prop :=
  ∀ later : FileTree, ∃ event, ofChange later suffix p = some event ∧ event.path? = some p

variable {suffix : String} {p : Path}

theorem ofChange_eq_none_iff {later : FileTree} :
    ofChange later suffix p = none ↔ isManifest p suffix = false := by
  unfold ofChange
  cases isManifest p suffix <;> simp

theorem reports_iff : Reports suffix p ↔ isManifest p suffix = true := by
  constructor
  · intro reports
    obtain ⟨event, isEvent, -⟩ := reports ⟨[], []⟩
    by_contra other
    rw [ofChange_eq_none_iff.mpr (by simpa using other)] at isEvent
    cases isEvent
  · intro isManifest later
    unfold ofChange
    rw [if_pos isManifest]
    cases later.isPresent p <;> exact ⟨_, rfl, rfl⟩

end WatchEvent

/-- A file in a folder is named as a manifest if its own name is. -/
theorem isManifest_child_of_isName {folder : Path} {name suffix : String}
    (named : Path.isName name = true) :
    isManifest (folder.child name) suffix = hasSuffix name suffix := by
  rw [isManifest, Path.fileName?_child named]
  rfl

theorem isManifest_child_of_isFile {t : FileTree} {folder : Path} {name suffix : String}
    (isFile : t.isFile (folder.child name) = true) :
    isManifest (folder.child name) suffix = isManifest ⟨name⟩ suffix := by
  rw [isManifest, FileTree.fileName?_child_of_isFile isFile]
  rfl

variable {t : FileTree} {s : ModuleSettings} {entries : List Entry} {e : Entry}

/-- The manifest of an entry has the name of one, unless the entry is a folder and its index file
has another name. -/
theorem Entry.isManifest_of_candidate (discovered : discover t s = .ok entries) (mem : e ∈ entries)
    {c : Candidate} (isCandidate : e.candidate t s = .ok (.ok c)) :
    isManifest c.manifest s.suffix = true ↔
      (e.isFolder = true → isManifest ⟨s.indexFile⟩ s.suffix = true) := by
  rcases candidate_eq_ok_iff.mp isCandidate with
    ⟨isFolder, isFile, rfl⟩ | ⟨isFile, stem, isStem, rfl⟩
  · rw [isManifest_child_of_isFile isFile]
    simp [isFolder]
  · rw [(discover_eq_ok_iff.mp discovered).2] at mem
    obtain ⟨named, eq⟩ := mem_entriesOf (List.mem_filter.mp mem).1
    have path : e.path = s.folder.child e.fileName := congrArg Entry.path eq
    simp [path, isManifest_child_of_isName named, hasSuffix_of_stem? isStem, isFile]

/-- Of every module that is found, the manifest that was read is watched, unless the module has a
folder of its own and the index file is not named by the convention of the suffix. What is watched
is reported whatever happens to it, and of what is not watched no change is ever reported. -/
theorem Entry.watched_iff {m : Module} {source : Source} (discovered : discover t s = .ok entries)
    (mem : e ∈ entries) (loaded : e.load t s = .ok (.ok (m, source))) :
    ∃ c, e.candidate t s = .ok (.ok c) ∧ c.source = source ∧
      c.manifest = (if e.isFolder then e.path.child s.indexFile else e.path) ∧
      Module.read t c.manifest = .ok m ∧
      (isManifest c.manifest s.suffix = true ↔
        (e.isFolder = true → isManifest ⟨s.indexFile⟩ s.suffix = true)) ∧
      (isManifest c.manifest s.suffix = true → WatchEvent.Reports s.suffix c.manifest) ∧
      (isManifest c.manifest s.suffix = false →
        ∀ later, WatchEvent.ofChange later s.suffix c.manifest = none) := by
  obtain ⟨c, isCandidate, isRead, isSource⟩ := load_eq_ok_iff.mp loaded
  have manifest : c.manifest = if e.isFolder then e.path.child s.indexFile else e.path := by
    rcases candidate_eq_ok_iff.mp isCandidate with ⟨isFolder, -, rfl⟩ | ⟨isFile, -, -, rfl⟩
    · simp [isFolder]
    · simp [isFile]
  exact ⟨c, isCandidate, isSource, manifest, isRead,
    isManifest_of_candidate discovered mem isCandidate, WatchEvent.reports_iff.mpr,
    fun other _ => WatchEvent.ofChange_eq_none_iff.mpr other⟩

/-- What is in effect if nothing is said leaves no manifest out. -/
example :
    isManifest ⟨ModuleSettings.default.indexFile⟩ ModuleSettings.default.suffix = true := by
  decide +kernel

/-- A module with a folder of its own. -/
def billingFolder : FileTree where
  entries := [
    (["modules"], .folder),
    (["modules", "billing"], .folder),
    (["modules", "billing", "index.toml"], .file "name = \"Billing\"\n".toUTF8)]
  current := []

/-- Settings on modules with a suffix of one's own choice. -/
def suffixed (suffix : String) : ModuleSettings :=
  { ModuleSettings.default with folder := ⟨"modules"⟩, suffix }

/-- With the usual suffix the index file is watched. -/
theorem watched_iff_billing :
    ∃ c : Candidate, Module.read billingFolder c.manifest = .ok ⟨"Billing", []⟩ ∧
      WatchEvent.Reports "toml" c.manifest := by
  have discovered : discover billingFolder (suffixed "toml") =
      .ok [⟨⟨"modules/billing"⟩, "billing", "modules/billing", true⟩] := by
    decide +kernel
  have loaded : Entry.load billingFolder (suffixed "toml")
      ⟨⟨"modules/billing"⟩, "billing", "modules/billing", true⟩ =
        .ok (.ok (⟨"Billing", []⟩, ⟨⟨"modules/billing"⟩, "billing", false⟩)) := by
    decide +kernel
  obtain ⟨c, -, -, -, isRead, isManifest, reports, -⟩ :=
    Entry.watched_iff discovered List.mem_cons_self loaded
  exact ⟨c, isRead, reports (isManifest.mpr fun _ => by decide +kernel)⟩

/-- With a longer suffix the index file is read as before, but no change to it is reported. -/
theorem billing_unwatched :
    ∃ e c, discover billingFolder (suffixed "module.toml") = .ok [e] ∧
      e.load billingFolder (suffixed "module.toml") =
        .ok (.ok (⟨"Billing", []⟩, ⟨⟨"modules/billing"⟩, "billing", false⟩)) ∧
      e.candidate billingFolder (suffixed "module.toml") = .ok (.ok c) ∧
      c.manifest = ⟨"modules/billing/index.toml"⟩ ∧
      isManifest c.manifest (suffixed "module.toml").suffix = false := by
  refine ⟨⟨⟨"modules/billing"⟩, "billing", "modules/billing", true⟩,
    ⟨⟨"modules/billing/index.toml"⟩, ⟨⟨"modules/billing"⟩, "billing", false⟩⟩, ?_⟩
  decide +kernel

end SchemaTypes
