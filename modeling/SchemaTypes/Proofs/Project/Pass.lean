import SchemaTypes.Proofs.Project.Writing

/-!
What a pass leaves behind.

A pass that succeeds has written one file for each module and nothing else (`Settings.run_ok`). One
that fails has changed nothing if the fault is found early; if a file cannot be written, those
before it are there, and no other file has changed (`Settings.run_error`).
-/

namespace SchemaTypes

/-- Files are as they were, except at some places. No folder is gone, and new ones are made at
certain locations only. -/
structure FileTree.ChangesOnly (places made : List Location) (t next : FileTree) : Prop where
  current_eq : next.current = t.current
  file_iff : ∀ l ∉ places, ∀ content,
    next.node? l = some (.file content) ↔ t.node? l = some (.file content)
  folder : ∀ l, t.node? l = some .folder → next.node? l = some .folder
  made_of_folder : ∀ l, next.node? l = some .folder →
    t.node? l = some .folder ∨ (l ∈ made ∧ t.node? l = none)

theorem Grows.changesOnly {places made : List Location} {t next : FileTree}
    (h : Grows (· ∈ made) (· ∈ places) t next) : t.ChangesOnly places made next where
  current_eq := h.current_eq
  file_iff := fun _ notPlace => h.file_iff notPlace
  folder := fun _ => h.folder
  made_of_folder := fun _ => h.made_of_folder

namespace Settings

variable {s : Settings} {t last : FileTree}

/-! ### Passes -/

/-- The writer of a pass that is no rehearsal. -/
abbrev writer (s : Settings) : Writer :=
  ⟨s.output.folder, false⟩

/-- A pass succeeds if the project can be rendered and the outputs can be written, in a folder that
is made before. -/
theorem run_eq_ok_iff {summary : Summary} :
    s.run false t = (last, .ok summary) ↔
      ∃ rendering next created, s.render t = .ok rendering ∧
        s.writer.ensure t = (next, .ok created) ∧
        Writes s.output.folder next rendering.outputs last ∧
        summary = ⟨rendering.outputs.map (Writer.receipt s.output.folder), rendering.skipped,
          created⟩ := by
  constructor
  · intro h
    unfold run at h
    split at h
    · cases h
    · rename_i rendering rendered
      unfold emit at h
      dsimp only at h
      split at h
      · cases h
      · rename_i next created ensured
        split at h
        · cases h
        · rename_i last written areWritten
          cases h
          obtain ⟨writes, rfl⟩ := Writer.writeAll_eq_ok_iff.mp areWritten
          exact ⟨rendering, next, created, rendered, ensured, writes, rfl⟩
  · rintro ⟨rendering, next, created, rendered, ensured, writes, rfl⟩
    unfold run emit
    rw [rendered]
    dsimp only
    rw [ensured]
    dsimp only
    rw [Writer.writeAll_eq_ok_iff.mpr ⟨writes, rfl⟩]

/-- How a pass fails: before anything is done, in making the folder, or in writing one of the
outputs after those before it. -/
inductive Fails (s : Settings) (t : FileTree) : FileTree → ProjectFault → Prop where
  | early {fault : ProjectFault} : s.render t = .error fault → Fails s t t fault
  | folder {rendering : Rendering} {last : FileTree} {e : FileError} :
      s.render t = .ok rendering →
      s.writer.ensure t = (last, .error (.folder s.output.folder e)) →
      Fails s t last (.write (.folder s.output.folder e))
  | file {rendering : Rendering} {next last : FileTree} {created : Bool}
      {before after : List Output} {o : Output} {e : FileError} :
      s.render t = .ok rendering → s.writer.ensure t = (next, .ok created) →
      rendering.outputs = before ++ o :: after → Writes s.output.folder next before last →
      last.write (s.output.folder.child o.fileName) o.content.toUTF8 = .error e →
      Fails s t last (.write (.file (s.output.folder.child o.fileName) e))

theorem fails_of_run_eq_error {fault : ProjectFault} (h : s.run false t = (last, .error fault)) :
    s.Fails t last fault := by
  unfold run at h
  split at h
  · rename_i rendered
    cases h
    exact .early rendered
  · rename_i rendering rendered
    unfold emit at h
    dsimp only at h
    split at h
    · rename_i next failure ensured
      cases h
      obtain ⟨e, rfl⟩ := Writer.ensure_eq_error ensured
      exact .folder rendered ensured
    · rename_i next created ensured
      split at h
      · rename_i failed
        cases h
        obtain ⟨before, o, after, e, split, writes, fails, rfl⟩ := Writer.writeAll_eq_error failed
        exact .file rendered ensured split writes fails
      · cases h

/-- Making the folder and writing outputs changes only the files at their places. -/
theorem grows_of_writes {next : FileTree} {created : Bool} {outputs : List Output}
    (separate : Separate outputs) (ensured : s.writer.ensure t = (next, .ok created))
    (writes : Writes s.output.folder next outputs last) :
    Stored s.output.folder last outputs ∧
      Grows (· ∈ s.output.folder.passes t.current)
        (· ∈ placesOf s.output.folder t.current outputs) t last := by
  have made := Writer.grows_ensure s.output.folder t
  rw [ensured] at made
  obtain ⟨stored, written⟩ := writes.spec separate
  rw [made.current_eq] at written
  refine ⟨stored, (made.mono (fun _ => id) fun _ => False.elim).trans
    (written.mono (fun _ => False.elim) fun _ => id)⟩

/-! ### Success -/

/-- A pass that succeeds has written the outputs that the project had been rendered to: under
different names, in the order of the modules, with exactly their contents. Nothing else has changed
but that folders may have been made on the way to the output folder. -/
theorem run_ok {summary : Summary} (flat : '/' ∉ s.output.extension.toList)
    (h : s.run false t = (last, .ok summary)) :
    ∃ rendering, s.render t = .ok rendering ∧
      (rendering.outputs.map (·.fileName)).Nodup ∧
      (∀ o ∈ rendering.outputs,
        last.read (s.output.folder.child o.fileName) = .ok o.content.toUTF8) ∧
      summary.written = rendering.outputs.map (fun o =>
        .written (s.output.folder.child o.fileName) o.content.utf8ByteSize) ∧
      (∃ r, s.resolve t = .ok r ∧ rendering.outputs.map (·.module) = r.modules.map (·.name)) ∧
      t.ChangesOnly (placesOf s.output.folder t.current rendering.outputs)
        (s.output.folder.passes t.current) last := by
  obtain ⟨rendering, next, created, rendered, ensured, writes, rfl⟩ := run_eq_ok_iff.mp h
  obtain ⟨separate, order⟩ := render_spec flat rendered
  obtain ⟨stored, grows⟩ := grows_of_writes separate ensured writes
  exact ⟨rendering, rendered, separate.nodup, fun o => stored.read, rfl, order, grows.changesOnly⟩

/-- A project of two modules; the second has a folder of its own. -/
def twoModules : FileTree where
  entries := [
    (["modules"], .folder),
    (["modules", "team.toml"], .file "name = \"Teams\"\n".toUTF8),
    (["modules", "user"], .folder),
    (["modules", "user", "index.toml"], .file "name = \"Users\"\n".toUTF8)]
  current := []

/-- Settings that send the declarations to a certain folder. -/
def sendingTo (output : Path) : Settings where
  modules := ⟨⟨"modules"⟩, "toml", "index.toml", false⟩
  output := ⟨output, "ts", true⟩
  typing := .generic
  backend := .memory

theorem run_ok_twoModules :
    ∃ last rendering, (sendingTo ⟨"out/ts"⟩).run false twoModules =
        (last, .ok ⟨[.written ⟨"out/ts/team.ts"⟩ 55, .written ⟨"out/ts/user.ts"⟩ 55], [], true⟩) ∧
      (sendingTo ⟨"out/ts"⟩).render twoModules = .ok rendering ∧
      (∀ o ∈ rendering.outputs,
        last.read (Path.child ⟨"out/ts"⟩ o.fileName) = .ok o.content.toUTF8) ∧
      twoModules.ChangesOnly (placesOf ⟨"out/ts"⟩ [] rendering.outputs) [[], ["out"], ["out", "ts"]]
        last := by
  have succeeds : (sendingTo ⟨"out/ts"⟩).run false twoModules =
      (_, .ok ⟨[.written ⟨"out/ts/team.ts"⟩ 55, .written ⟨"out/ts/user.ts"⟩ 55], [], true⟩) :=
    Prod.ext rfl (by decide +kernel)
  obtain ⟨rendering, rendered, -, reads, -, -, changes⟩ := run_ok (by decide) succeeds
  exact ⟨_, rendering, succeeds, rendered, reads, changes⟩

/-! ### Failure -/

/-- The places of outputs that can be kept apart differ. -/
theorem notMem_placesOf {before after : List Output} {folder : Path} {current : Location}
    {o : Output} (separate : Separate (before ++ after))
    (named : ∀ q ∈ before, Path.isName q.fileName = true) (mem : o ∈ after) :
    (folder.child o.fileName).goal current ∉ placesOf folder current before := by
  intro memPlaces
  obtain ⟨q, isBefore, eq⟩ := List.mem_map.mp memPlaces
  have ne : o.fileName ≠ q.fileName := by
    have nodup := separate.nodup
    rw [List.map_append, List.nodup_append] at nodup
    exact (nodup.2.2 _ (List.mem_map_of_mem isBefore) _ (List.mem_map_of_mem mem)).symm
  have flat := separate.flat o (List.mem_append_right _ mem)
  exact Path.goal_child_ne (named q isBefore) flat ne current eq.symm

/-- A pass that fails early has changed nothing. If the output folder cannot be made, no file has
changed. If an output cannot be written, those before it are there with their contents; its own
file, those of the outputs after it and all other files are as they were. A pass fails in no other
way. -/
theorem run_error {fault : ProjectFault} (flat : '/' ∉ s.output.extension.toList)
    (h : s.run false t = (last, .error fault)) :
    match fault with
    | .noFolder _ | .identity _ | .schema _ | .noSource _ => last = t
    | .write (.folder path _) =>
      path = s.output.folder ∧ t.ChangesOnly [] (s.output.folder.passes t.current) last
    | .write (.file path e) =>
      ∃ rendering before o after, s.render t = .ok rendering ∧
        rendering.outputs = before ++ o :: after ∧ path = s.output.folder.child o.fileName ∧
        last.write path o.content.toUTF8 = .error e ∧
        (∀ q ∈ before, last.read (s.output.folder.child q.fileName) = .ok q.content.toUTF8) ∧
        (∀ q ∈ o :: after, ∀ content,
          last.node? ((s.output.folder.child q.fileName).goal t.current) = some (.file content) ↔
            t.node? ((s.output.folder.child q.fileName).goal t.current) = some (.file content)) ∧
        t.ChangesOnly (placesOf s.output.folder t.current before)
          (s.output.folder.passes t.current) last
    | .settings _ | .watch _ | .validation _ | .files _ => False := by
  cases fails_of_run_eq_error h with
  | early rendered =>
    have isEarly := render_eq_error rendered
    cases fault <;> first | rfl | exact isEarly.elim
  | folder rendered ensured =>
    have grows := Writer.grows_ensure s.output.folder t
    rw [ensured] at grows
    exact ⟨rfl, (grows.mono (fun _ => id) fun _ => False.elim).changesOnly⟩
  | @file rendering next last created before after o e rendered ensured split writes fails =>
    have separate := (render_spec flat rendered).1
    rw [split] at separate
    obtain ⟨stored, grows⟩ := grows_of_writes separate.of_append_left ensured writes
    refine ⟨rendering, before, o, after, rendered, split, rfl, fails, fun q => stored.read, ?_,
      grows.changesOnly⟩
    intro q mem content
    exact grows.file_iff (notMem_placesOf separate stored.named mem) content

/-- The second output cannot be written, as there is a folder of its name. -/
theorem run_error_twoModules :
    let t := { twoModules with
      entries := twoModules.entries ++ [(["out"], .folder), (["out", "user.ts"], .folder)] }
    ∃ last rendering before o after, (sendingTo ⟨"out"⟩).run false t =
        (last, .error (.write (.file ⟨"out/user.ts"⟩ .isFolder))) ∧
      (sendingTo ⟨"out"⟩).render t = .ok rendering ∧ rendering.outputs = before ++ o :: after ∧
      (∀ q ∈ before, last.read (Path.child ⟨"out"⟩ q.fileName) = .ok q.content.toUTF8) ∧
      t.ChangesOnly (placesOf ⟨"out"⟩ [] before) [[], ["out"]] last := by
  intro t
  have fails : (sendingTo ⟨"out"⟩).run false t =
      (_, .error (.write (.file ⟨"out/user.ts"⟩ .isFolder))) := Prod.ext rfl (by decide +kernel)
  obtain ⟨rendering, before, o, after, rendered, split, -, -, reads, -, changes⟩ :=
    run_error (by decide) fails
  exact ⟨_, rendering, before, o, after, fails, rendered, split, reads, changes⟩

end Settings

end SchemaTypes
