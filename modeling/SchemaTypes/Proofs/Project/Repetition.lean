import SchemaTypes.Proofs.Ignore.Stability
import SchemaTypes.Proofs.Project.Pass

/-!
What a pass does after a pass.

A pass leaves the module folder alone if the output folder lies elsewhere (`Settings.Apart`). So the
modules are found again, and are rendered to the same outputs (`Settings.render_eq`): there is
nothing stale, and another pass changes nothing (`Settings.run_again`). The ignore files of the
module folder are the one thing that may lie outside of it, and a folder that a pass makes may be
missing on the way to them; then the next pass sees rules that the first one did not
(`Settings.check_after_late_link`).
-/

namespace SchemaTypes

section Scanning

variable {made written : Location → Prop} {t later : FileTree} {s : ModuleSettings}

/-! ### Scanning again -/

theorem entriesOf_eq {folder : Path} (h : Spares made written t later folder) :
    later.entriesOf folder = t.entriesOf folder := by
  have located := (FileTree.isFolder_iff.mp h.isFolder).1
  rw [FileTree.entriesOf, FileTree.entriesOf, (h.grows.alike h.isFolder).locate_eq, located]
  dsimp only
  rw [h.children_eq]
  refine List.map_congr_left fun name mem => ?_
  rw [Entry.ofName, Entry.ofName, (h.alike_child (isName_of_mem_children mem)).isFolder_eq]

theorem discover_eq (h : Spares made written t later s.folder)
    (links : s.obeysIgnoreFiles = true →
      ∀ p ∈ Ignore.linkPaths t s.folder, Ignore.ReadAlike t later p) :
    discover later s = discover t s := by
  unfold discover
  dsimp only
  rw [(h.grows.alike h.isFolder).isFolder_eq, entriesOf_eq h]
  by_cases obeys : s.obeysIgnoreFiles = true
  · have kept : (t.entriesOf s.folder).filter (fun e => !Ignore.ignores later s.folder e.path) =
        (t.entriesOf s.folder).filter (fun e => !Ignore.ignores t s.folder e.path) := by
      refine List.filter_congr fun e mem => ?_
      obtain ⟨named, eq⟩ := mem_entriesOf mem
      rw [eq, Entry.ofName, Ignore.ignores_eq h (links obeys) named]
    rw [if_pos obeys, if_pos obeys, kept]
  · rw [if_neg obeys, if_neg obeys]

/-- An entry of the module folder holds what it held. -/
theorem Entry.load_eq (h : Spares made written t later s.folder) (flat : '/' ∉ s.indexFile.toList)
    {e : Entry} (mem : e ∈ t.entriesOf s.folder) : e.load later s = e.load t s := by
  obtain ⟨named, eq⟩ := mem_entriesOf mem
  have path : e.path = s.folder.child e.fileName := by rw [eq, Entry.ofName]
  have file : FileTree.Alike t later e.path := path ▸ h.alike_child named
  have index : FileTree.Alike t later (e.path.child s.indexFile) :=
    path ▸ h.alike_child_child named flat
  have candidate : e.candidate later s = e.candidate t s := by
    rw [Entry.candidate, Entry.candidate, folderCandidate, folderCandidate, index.isFile_eq]
  have manifest {c : Candidate} (isCandidate : e.candidate t s = .ok (.ok c)) :
      FileTree.Alike t later c.manifest := by
    unfold Entry.candidate at isCandidate
    split at isCandidate
    · rw [Except.ok.injEq, folderCandidate] at isCandidate
      split at isCandidate <;> cases isCandidate
      exact index
    · unfold fileCandidate at isCandidate
      split at isCandidate
      · split at isCandidate <;> cases isCandidate
        exact file
      · cases isCandidate
  unfold Entry.load
  rw [candidate]
  cases isCandidate : e.candidate t s with
  | error fault => rfl
  | ok found =>
    cases found with
    | error reason => rfl
    | ok c =>
      have same := (manifest isCandidate).readText_eq
      simp only [bind, Except.bind, Module.read, same]

theorem Resolution.ofEntries_congr {entries : List Entry}
    (same : ∀ e ∈ entries, e.load later s = e.load t s) :
    ofEntries later s entries = ofEntries t s entries := by
  have folds (r : Resolution) : entries.foldlM (next later s) r = entries.foldlM (next t s) r := by
    induction entries generalizing r with
    | nil => rfl
    | cons e rest ih =>
      obtain ⟨first, others⟩ := List.forall_mem_cons.mp same
      have isNext : r.next later s e = r.next t s e := by
        unfold next
        rw [first]
      rw [List.foldlM_cons, List.foldlM_cons, isNext]
      exact bind_congr_ok fun r' _ => ih others r'
  rw [ofEntries_eq, ofEntries_eq, folds]

end Scanning

namespace Settings

variable {s : Settings} {t last : FileTree}

/-- If a tree has grown outside of the module folder, the project is rendered as before. -/
theorem render_eq {made written : Location → Prop} {later : FileTree}
    (h : Spares made written t later s.modules.folder) (flat : '/' ∉ s.modules.indexFile.toList)
    (links : s.modules.obeysIgnoreFiles = true →
      ∀ p ∈ Ignore.linkPaths t s.modules.folder, Ignore.ReadAlike t later p) :
    s.render later = s.render t := by
  have resolve : s.resolve later = s.resolve t :=
    calc s.resolve later = discover t s.modules >>= Resolution.ofEntries later s.modules :=
          congrArg (· >>= Resolution.ofEntries later s.modules) (discover_eq h links)
      _ = s.resolve t := by
          refine bind_congr_ok fun entries discovered => ?_
          obtain ⟨-, rfl⟩ := discover_eq_ok_iff.mp discovered
          exact Resolution.ofEntries_congr fun e mem =>
            Entry.load_eq h flat (List.mem_filter.mp mem).1
  unfold render
  rw [resolve]

/-! ### Passing again -/

/-- The output folder is not the module folder, and neither it nor a folder on the way to it lies in
the module folder. -/
structure Apart (s : Settings) (current : Location) : Prop where
  ne : s.output.folder.goal current ≠ s.modules.folder.goal current
  outside : ∀ l ∈ s.output.folder.passes current, s.modules.folder.goal current <+: l →
    l = s.modules.folder.goal current

/-- Outputs are written outside of the module folder. -/
theorem Apart.spares {outputs : List Output} (apart : s.Apart t.current)
    (isFolder : t.isFolder s.modules.folder = true) (stored : Stored s.output.folder last outputs)
    (grows : Grows (· ∈ s.output.folder.passes t.current)
      (· ∈ placesOf s.output.folder t.current outputs) t last) :
    Spares (· ∈ s.output.folder.passes t.current)
      (· ∈ placesOf s.output.folder t.current outputs) t last s.modules.folder := by
  refine ⟨grows, isFolder, fun l inside ne => ⟨fun mem => ne (apart.outside l mem inside), ?_⟩⟩
  intro mem
  obtain ⟨o, isOutput, rfl⟩ := List.mem_map.mp mem
  rw [Path.goal_child (stored.named o isOutput)] at inside ne
  rcases List.prefix_concat_iff.mp inside with eq | inside
  · exact ne eq.symm
  · exact apart.ne (apart.outside _ (Path.goal_mem_passes _ _) inside)

/-- No output is written where an ignore file is looked for. -/
theorem goal_notMem_placesOf {outputs : List Output} (separate : Separate outputs)
    (stored : Stored s.output.folder last outputs) {folder p : Path}
    (isLink : p ∈ Ignore.linkPaths t folder) :
    p.goal t.current ∉ placesOf s.output.folder t.current outputs := by
  intro mem
  obtain ⟨o, isOutput, eq⟩ := List.mem_map.mp mem
  obtain ⟨front, name, isName, goal⟩ := Ignore.getLast?_goal_of_mem_linkPaths isLink t.current
  rw [goal, Path.goal_child (stored.named o isOutput)] at eq
  have eqName : o.fileName = name := List.singleton_inj.mp (List.append_inj_right' eq rfl)
  have dotless : ∀ name ∈ ["commondir", "exclude"], '.' ∉ name.toList := by decide
  exact dotless name isName (eqName ▸ separate.dotted o isOutput)

theorem stalePaths_eq_nil {outputs : List Output}
    (current : ∀ o ∈ outputs,
      last.read (s.output.folder.child o.fileName) = .ok o.content.toUTF8) :
    s.stalePaths last outputs = .ok [] := by
  induction outputs with
  | nil => rfl
  | cons o rest ih =>
    obtain ⟨first, others⟩ := List.forall_mem_cons.mp current
    have fresh : s.isStale last o = .ok false := by
      unfold isStale
      simp [first]
    exact bind_eq_ok_iff.mpr ⟨false, fresh, bind_eq_ok_iff.mpr ⟨[], ih others, rfl⟩⟩

/-- After a pass that succeeds nothing is stale, and another pass succeeds, tells the same and
changes nothing. If ignore files count and `.git` in the module folder is a file, the paths that it
leads to may pass through no folder that has to be made. -/
theorem run_again {summary : Summary} (flatExtension : '/' ∉ s.output.extension.toList)
    (flatIndex : '/' ∉ s.modules.indexFile.toList) (apart : s.Apart t.current)
    (links : s.modules.obeysIgnoreFiles = true → ∀ p ∈ Ignore.linkPaths t s.modules.folder,
      ∀ l ∈ p.passes t.current, l ∈ s.output.folder.passes t.current → (t.node? l).isSome)
    (h : s.run false t = (last, .ok summary)) :
    s.check last = .ok ⟨[], summary.written.length⟩ ∧
      ∃ again, s.run false last = (last, .ok again) ∧ again.written = summary.written ∧
        again.skipped = summary.skipped := by
  obtain ⟨rendering, next, created, rendered, ensured, writes, rfl⟩ := run_eq_ok_iff.mp h
  obtain ⟨separate, -⟩ := render_spec flatExtension rendered
  obtain ⟨stored, grows⟩ := grows_of_writes separate ensured writes
  have isFolder : t.isFolder s.modules.folder = true := by
    obtain ⟨r, resolved, -⟩ := render_eq_ok_iff.mp rendered
    obtain ⟨entries, discovered, -⟩ := bind_eq_ok_iff.mp resolved
    exact (discover_eq_ok_iff.mp discovered).1
  have renderedAgain : s.render last = .ok rendering := by
    rw [render_eq (apart.spares isFolder stored grows) flatIndex fun obeys p isLink content =>
      grows.read_eq_ok_iff (links obeys p isLink) (goal_notMem_placesOf separate stored isLink)]
    exact rendered
  constructor
  · have fresh : s.stalePaths last rendering.outputs = .ok [] :=
      stalePaths_eq_nil fun o => stored.read
    rw [check, renderedAgain, List.length_map]
    exact bind_eq_ok_iff.mpr ⟨rendering, rfl, bind_eq_ok_iff.mpr ⟨[], fresh, rfl⟩⟩
  · have there : s.output.folder.text ≠ "" → last.isFolder s.output.folder = true := fun ne =>
      (writes.spec separate).2.isFolder (Writer.isFolder_of_ensure ne ensured)
    obtain ⟨createdAgain, ensuredAgain⟩ := Writer.ensure_again there
    exact ⟨_, run_eq_ok_iff.mpr ⟨rendering, last, createdAgain, renderedAgain, ensuredAgain,
      stored.writes, rfl⟩, rfl, rfl⟩

/-- A project whose module folder is a work tree of a repository elsewhere. That one has the second
of two modules ignored. -/
def workTree (link : String) : FileTree where
  entries := [
    (["modules"], .folder),
    (["modules", "a.toml"], .file "name = \"A\"\n".toUTF8),
    (["modules", "b.toml"], .file "name = \"B\"\n".toUTF8),
    (["modules", ".git"], .file ("gitdir: " ++ link).toUTF8),
    (["g"], .folder),
    (["g", "commondir"], .file ".".toUTF8),
    (["g", "info"], .folder),
    (["g", "info", "exclude"], .file "b.toml\n".toUTF8)]
  current := []

/-- Settings that obey ignore files. -/
def obeying : Settings :=
  { sendingTo ⟨"out"⟩ with modules := ⟨⟨"modules"⟩, "toml", "index.toml", true⟩ }

/-- The repository is found at once, so all passes leave out the second module. -/
theorem run_again_workTree :
    ∃ last, obeying.run false (workTree "g") =
        (last, .ok ⟨[.written ⟨"out/a.ts"⟩ 55], [⟨"modules/.git", .notAManifest⟩], true⟩) ∧
      obeying.check last = .ok ⟨[], 1⟩ ∧
      ∃ again, obeying.run false last = (last, .ok again) ∧
        again.written = [.written ⟨"out/a.ts"⟩ 55] := by
  have succeeds : obeying.run false (workTree "g") =
      (_, .ok ⟨[.written ⟨"out/a.ts"⟩ 55], [⟨"modules/.git", .notAManifest⟩], true⟩) :=
    Prod.ext rfl (by decide +kernel)
  obtain ⟨checks, again, repeats, written, -⟩ := run_again (by decide) (by decide)
    ⟨by decide +kernel, by decide +kernel⟩ (fun _ => by decide +kernel) succeeds
  exact ⟨_, succeeds, checks, again, repeats, written⟩

/-- Here the repository is found only after the first pass has made the output folder, through which
the link leads. Two files are written, but only one of them is looked at later. -/
theorem check_after_late_link :
    let t := workTree "out/../g"
    let last := (obeying.run false t).1
    obeying.Apart t.current ∧ '/' ∉ obeying.output.extension.toList ∧
      '/' ∉ obeying.modules.indexFile.toList ∧
      (obeying.run false t).2 =
        .ok ⟨[.written ⟨"out/a.ts"⟩ 55, .written ⟨"out/b.ts"⟩ 55],
          [⟨"modules/.git", .notAManifest⟩], true⟩ ∧
      obeying.check last = .ok ⟨[], 1⟩ ∧
      (obeying.run false last).2 =
        .ok ⟨[.written ⟨"out/a.ts"⟩ 55], [⟨"modules/.git", .notAManifest⟩], false⟩ :=
  ⟨⟨by decide +kernel, by decide +kernel⟩, by decide, by decide, by decide +kernel,
    by decide +kernel, by decide +kernel⟩

end Settings

end SchemaTypes
