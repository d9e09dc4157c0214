import SchemaTypes.Proofs.Project.Pass

/-!
What a rehearsal tells about the pass that it stands for.

A rehearsal changes nothing and fails exactly if the project cannot be rendered, as the pass itself
then does. If it succeeds, it tells the paths and contents that the pass writes, should nothing be
in the way of writing (`Settings.run_rehearsal`). An extension with a slash may lead outputs of
different names to one file; the last of them is stored there (`Writes.read_last`), and the others
are lost (`Settings.run_slashed_extension`).
-/

namespace SchemaTypes

/-! ### Rehearsing -/

namespace Writer

/-- What a rehearsal tells about an output. -/
def announcement (folder : Path) (o : Output) : Written :=
  .rehearsed (folder.child o.fileName) o.content

theorem ensure_rehearsal (folder : Path) (t : FileTree) :
    Writer.ensure ⟨folder, true⟩ t = (t, .ok false) := rfl

/-- A rehearsal tells about all outputs and writes none. -/
theorem writeAll_rehearsal (folder : Path) (t : FileTree) (outputs : List Output) :
    Writer.writeAll ⟨folder, true⟩ t outputs = (t, .ok (outputs.map (announcement folder))) := by
  induction outputs with
  | nil => rfl
  | cons o rest ih =>
    have first : Writer.write ⟨folder, true⟩ t o.fileName o.content =
        (t, .ok (announcement folder o)) := rfl
    unfold writeAll
    rw [first]
    dsimp only
    rw [ih, List.map_cons]

end Writer

namespace Settings

variable {s : Settings} {t : FileTree}

theorem run_eq_of_render_error {fault : ProjectFault} (h : s.render t = .error fault)
    (rehearses : Bool) : s.run rehearses t = (t, .error fault) := by
  unfold run
  rw [h]

theorem run_rehearsal_eq_of_render_ok {rendering : Rendering} (h : s.render t = .ok rendering) :
    s.run true t = (t, .ok ⟨rendering.outputs.map (Writer.announcement s.output.folder),
      rendering.skipped, false⟩) := by
  unfold run emit
  rw [h]
  dsimp only
  rw [Writer.ensure_rehearsal]
  dsimp only
  rw [Writer.writeAll_rehearsal]

/-- A pass over a project that can be rendered writes its outputs or fails in writing. -/
theorem run_of_render_ok {rendering : Rendering} (h : s.render t = .ok rendering) :
    (∃ next last created, s.writer.ensure t = (next, .ok created) ∧
        Writes s.output.folder next rendering.outputs last ∧
        s.run false t = (last, .ok ⟨rendering.outputs.map (Writer.receipt s.output.folder),
          rendering.skipped, created⟩)) ∨
      ∃ last fault, s.run false t = (last, .error (.write fault)) := by
  rcases outcome : s.run false t with ⟨last, fault | summary⟩
  · refine .inr ⟨last, ?_⟩
    cases fails_of_run_eq_error outcome with
    | early rendered =>
      rw [h] at rendered
      cases rendered
    | folder => exact ⟨_, rfl⟩
    | file => exact ⟨_, rfl⟩
  · obtain ⟨_, next, created, rendered, ensured, writes, rfl⟩ := run_eq_ok_iff.mp outcome
    rw [h] at rendered
    cases rendered
    exact .inl ⟨next, last, created, ensured, writes, rfl⟩

/-- A rehearsal changes nothing. If the project cannot be rendered, it fails as the pass does, which
changes nothing either. Otherwise it tells path and content of the output of every module, in their
order; and the pass writes these contents to these paths and skips the same entries, or fails in
writing. What is read at a path afterwards is the content of the last output that goes to the same
place, and if the extension has no slash there is no other. -/
theorem run_rehearsal (s : Settings) (t : FileTree) :
    (s.run true t).1 = t ∧
      match s.render t with
      | .error fault => (s.run true t).2 = .error fault ∧ s.run false t = (t, .error fault)
      | .ok rendering =>
        (∃ r, s.resolve t = .ok r ∧ rendering.outputs.map (·.module) = r.modules.map (·.name)) ∧
        (s.run true t).2 = .ok ⟨rendering.outputs.map fun o =>
          .rehearsed (s.output.folder.child o.fileName) o.content, rendering.skipped, false⟩ ∧
        ((∃ last created, s.run false t = (last, .ok ⟨rendering.outputs.map fun o =>
            .written (s.output.folder.child o.fileName) o.content.utf8ByteSize, rendering.skipped,
            created⟩) ∧
            (∀ o ∈ rendering.outputs, ∃ before q after,
              rendering.outputs = before ++ q :: after ∧
              (s.output.folder.child q.fileName).goal t.current =
                (s.output.folder.child o.fileName).goal t.current ∧
              (s.output.folder.child o.fileName).goal t.current ∉
                placesOf s.output.folder t.current after ∧
              last.read (s.output.folder.child o.fileName) = .ok q.content.toUTF8) ∧
            ('/' ∉ s.output.extension.toList → ∀ o ∈ rendering.outputs,
              last.read (s.output.folder.child o.fileName) = .ok o.content.toUTF8)) ∨
          ∃ last fault, s.run false t = (last, .error (.write fault))) := by
  cases rendered : s.render t with
  | error fault =>
    rw [run_eq_of_render_error rendered, run_eq_of_render_error rendered]
    exact ⟨rfl, rfl, rfl⟩
  | ok rendering =>
    rw [run_rehearsal_eq_of_render_ok rendered]
    refine ⟨rfl, ?_, rfl, ?_⟩
    · obtain ⟨found, resolved, distinct, outputs⟩ := found_of_render rendered
      refine ⟨_, resolved, ?_⟩
      rw [(outputs_eq_ok distinct.names outputs).1, Resolution.of, List.map_map]
      rfl
    · refine (run_of_render_ok rendered).imp_left ?_
      rintro ⟨next, last, created, ensured, writes, ran⟩
      have current : next.current = t.current := by
        have made := Writer.grows_ensure s.output.folder t
        rw [ensured] at made
        exact made.current_eq
      refine ⟨last, created, ran, fun o mem => ?_, fun flat o mem => ?_⟩
      · rw [← current]
        exact writes.read_last mem
      · exact (writes.spec (render_spec flat rendered).1).1.read mem

/-- Two modules, and folders for the output that are called like their base names and a dot. -/
def dottedFolders : FileTree where
  entries := [
    (["modules"], .folder),
    (["modules", "a.toml"], .file "name = \"A\"\n".toUTF8),
    (["modules", "b.toml"], .file "name = \"B\"\n[[collections]]\nname = \"b\"\n".toUTF8),
    (["out"], .folder),
    (["out", "a."], .folder),
    (["out", "b."], .folder)]
  current := []

/-- Settings with an extension that leads out of a folder again. -/
def slashing : Settings :=
  { sendingTo ⟨"out"⟩ with output := ⟨⟨"out"⟩, "/../x", true⟩ }

/-- Both outputs go to one file. The pass tells that it has written both, as the rehearsal said, but
the first is not stored. -/
theorem run_slashed_extension :
    ∃ first second,
      (slashing.run true dottedFolders).2 = .ok ⟨[.rehearsed ⟨"out/a./../x"⟩ first,
        .rehearsed ⟨"out/b./../x"⟩ second], [], false⟩ ∧
      (slashing.run false dottedFolders).2 = .ok ⟨[.written ⟨"out/a./../x"⟩ first.utf8ByteSize,
        .written ⟨"out/b./../x"⟩ second.utf8ByteSize], [], false⟩ ∧
      (slashing.run false dottedFolders).1.read ⟨"out/a./../x"⟩ ≠ .ok first.toUTF8 := by
  refine ⟨outputHeader, outputHeader ++
    "\nexport interface B<Pk = number | string> \x7b\n    id: Pk;\n\x7d\n", by decide +kernel,
    by decide +kernel, fun read => ?_⟩
  have found := (FileTree.read_eq_ok_iff.mp read).2
  revert found
  decide +kernel

end Settings

end SchemaTypes
