import SchemaTypes.Proofs.Project.Pass

/-!
The folder that declarations go to.

A pass makes the output folder if there is none and tells whether it did. Wherever the path leads,
the folder is there afterwards, what is told is true, and it is not told again
(`Settings.ensure_spec`). Only the empty path is different: it leads to no folder and none is made
for it, and each pass tells that one was (`Settings.run_into_empty_path`).
-/

namespace SchemaTypes

namespace Writer

variable {folder : Path} {t next : FileTree} {created : Bool}

/-- No file changes as a folder is ensured. -/
theorem changesOnly_of_ensure (h : Writer.ensure ⟨folder, false⟩ t = (next, .ok created)) :
    t.ChangesOnly [] (folder.passes t.current) next := by
  have grows := Writer.grows_ensure folder t
  rw [h] at grows
  exact (grows.mono (fun _ => id) fun _ => False.elim).changesOnly

/-- It is told of a folder that it has been created if it is new. -/
theorem created_iff_of_ensure (ne : folder.text ≠ "")
    (h : Writer.ensure ⟨folder, false⟩ t = (next, .ok created)) :
    created = true ↔ t.isFolder folder = false ∧ next.isFolder folder = true := by
  have isFolder := isFolder_of_ensure ne h
  rcases ensure_eq_ok_iff.mp h with ⟨before, -, rfl⟩ | ⟨missing, -, rfl⟩
  · simp [before]
  · simp [missing, isFolder]

end Writer

namespace Settings

variable {s : Settings} {t next last : FileTree}

/-- The output folder is there once a pass has succeeded. -/
theorem isFolder_of_run {summary : Summary} (ne : s.output.folder.text ≠ "")
    (h : s.run false t = (next, .ok summary)) : next.isFolder s.output.folder = true := by
  obtain ⟨_, _, _, -, ensured, writes, -⟩ := run_eq_ok_iff.mp h
  exact writes.grows.isFolder (Writer.isFolder_of_ensure ne ensured)

/-- A pass does not tell of a folder that is there that it has been created. -/
theorem createdFolder_of_isFolder {summary : Summary} (isFolder : t.isFolder s.output.folder = true)
    (h : s.run false t = (next, .ok summary)) : summary.createdFolder = false := by
  obtain ⟨_, _, created, -, ensured, -, rfl⟩ := run_eq_ok_iff.mp h
  rw [writer, Writer.ensure_of_isFolder isFolder] at ensured
  cases ensured
  rfl

/-- Ensuring the output folder changes no file. If its path is not empty, the folder is there
afterwards, it is told to be created if it is new, and ensuring it again changes nothing; so a second
pass does not tell that it has been created. The empty path leads to no folder before or after, and
yet it is told to be created. -/
theorem ensure_spec (s : Settings) (t : FileTree) :
    (∀ next created, s.writer.ensure t = (next, .ok created) →
      t.ChangesOnly [] (s.output.folder.passes t.current) next ∧
      (s.output.folder.text ≠ "" →
        next.isFolder s.output.folder = true ∧
        (created = true ↔
          t.isFolder s.output.folder = false ∧ next.isFolder s.output.folder = true) ∧
        s.writer.ensure next = (next, .ok false))) ∧
    (s.output.folder.text ≠ "" → ∀ next last first second,
      s.run false t = (next, .ok first) → s.run false next = (last, .ok second) →
      second.createdFolder = false) ∧
    (s.output.folder.text = "" →
      t.isFolder s.output.folder = false ∧ s.writer.ensure t = (t, .ok true)) := by
  refine ⟨fun next created ensured => ?_, fun ne next last first second ran again => ?_,
    Writer.ensure_of_empty⟩
  · refine ⟨Writer.changesOnly_of_ensure ensured, fun ne => ?_⟩
    have isFolder := Writer.isFolder_of_ensure ne ensured
    exact ⟨isFolder, Writer.created_iff_of_ensure ne ensured, Writer.ensure_of_isFolder isFolder⟩
  · exact createdFolder_of_isFolder (isFolder_of_run ne ran) again

/-- The path leads out of a folder that is not there, and into another one. Both are made once. -/
theorem ensure_spec_detour :
    let s := sendingTo ⟨"tmp/../out/ts/"⟩
    let next := (s.writer.ensure twoModules).1
    s.writer.ensure twoModules = (next, .ok true) ∧ next.isFolder ⟨"tmp"⟩ = true ∧
      next.isFolder ⟨"out/ts"⟩ = true ∧ s.writer.ensure next = (next, .ok false) := by
  intro s next
  have ensured : s.writer.ensure twoModules = (next, .ok true) := Prod.ext rfl (by decide +kernel)
  obtain ⟨-, spec⟩ := (ensure_spec s twoModules).1 next true ensured
  obtain ⟨-, -, again⟩ := spec (by decide)
  exact ⟨ensured, by decide +kernel, by decide +kernel, again⟩

/-- The files go to the current folder. Both passes tell that the output folder has been created,
and its path leads to no folder at any time. -/
theorem run_into_empty_path :
    let s := sendingTo ⟨""⟩
    let next := (s.run false twoModules).1
    s.writer.ensure twoModules = (twoModules, .ok true) ∧
      twoModules.isFolder s.output.folder = false ∧
      (s.run false twoModules).2 =
        .ok ⟨[.written ⟨"team.ts"⟩ 55, .written ⟨"user.ts"⟩ 55], [], true⟩ ∧
      next.isFolder s.output.folder = false ∧
      (s.run false next).2 =
        .ok ⟨[.written ⟨"team.ts"⟩ 55, .written ⟨"user.ts"⟩ 55], [], true⟩ :=
  ⟨rfl, by decide +kernel, by decide +kernel, by decide +kernel, by decide +kernel⟩

end Settings

end SchemaTypes
