import SchemaTypes.Proofs.Project.Generation

/-!
What a check tells.

A check compares the outputs of a project with the files at their paths. It reports the paths of
those that are missing or have other bytes, in their order, unless the project cannot be rendered or
something else than a missing file is in the way at one of the paths (`Settings.check_eq_ok_iff`).
Where nothing is stale, a pass has nothing to do: whether or not it succeeds, every file stays as it
is (`Settings.grows_of_upToDate`).
-/

namespace SchemaTypes

/-! ### Reading again -/

/-- A file can still be read if none is written in its place. -/
theorem Grows.read {made written : Location → Prop} {t next : FileTree}
    (h : Grows made written t next) {p : Path} (untouched : ¬ written (p.goal t.current))
    {content : ByteArray} (read : t.read p = .ok content) : next.read p = .ok content := by
  obtain ⟨located, found⟩ := FileTree.read_eq_ok_iff.mp read
  rw [FileTree.read_eq_ok_iff, h.goal_eq]
  exact ⟨h.locate located, (h.file_iff untouched content).mpr found⟩

/-- Writing what can be read already changes nothing. -/
theorem FileTree.eq_of_write {t next : FileTree} {p : Path} {content : ByteArray}
    (read : t.read p = .ok content) (isWritten : t.write p content = .ok next) : next = t := by
  obtain ⟨-, rfl, -⟩ := FileTree.write_eq_ok isWritten
  have found := (FileTree.read_eq_ok_iff.mp read).2
  have notRoot : p.goal t.current ≠ [] := by
    intro root
    rw [root, FileTree.node?, if_pos rfl] at found
    cases found
  exact FileTree.put_eq_self notRoot found

/-- Writing outputs that are all there changes nothing. -/
theorem Writes.eq {folder : Path} {t last : FileTree} {outputs : List Output}
    (writes : Writes folder t outputs last)
    (current : ∀ o ∈ outputs, t.read (folder.child o.fileName) = .ok o.content.toUTF8) :
    last = t := by
  induction writes with
  | nil => rfl
  | cons isWritten _ ih =>
    obtain ⟨first, others⟩ := List.forall_mem_cons.mp current
    obtain rfl := FileTree.eq_of_write first isWritten
    exact ih others

namespace Settings

variable {s : Settings} {t : FileTree} {o : Output} {outputs : List Output}

/-- Where the file of an output is. -/
def pathOf (s : Settings) (o : Output) : Path :=
  s.output.folder.child o.fileName

/-! ### Single outputs -/

/-- The file of an output is missing, or its bytes are not those of the output. -/
def Outdated (s : Settings) (t : FileTree) (o : Output) : Prop :=
  t.read (s.pathOf o) = .error .notFound ∨
    ∃ content, t.read (s.pathOf o) = .ok content ∧ content ≠ o.content.toUTF8

/-- The file of an output can be read, or is missing. -/
def Comparable (s : Settings) (t : FileTree) (o : Output) : Prop :=
  ∀ e, t.read (s.pathOf o) = .error e → e = .notFound

theorem isStale_eq_ok_true_iff : s.isStale t o = .ok true ↔ s.Outdated t o := by
  unfold isStale Outdated pathOf
  rcases t.read (s.output.folder.child o.fileName) with e | content
  · cases e <;> simp
  · simp

theorem isStale_eq_ok_false_iff :
    s.isStale t o = .ok false ↔ t.read (s.pathOf o) = .ok o.content.toUTF8 := by
  unfold isStale pathOf
  rcases t.read (s.output.folder.child o.fileName) with e | content
  · cases e <;> simp
  · simp

theorem isStale_eq_error_iff {fault : ProjectFault} :
    s.isStale t o = .error fault ↔
      ∃ e, t.read (s.pathOf o) = .error e ∧ e ≠ .notFound ∧ fault = .files e := by
  unfold isStale pathOf
  rcases t.read (s.output.folder.child o.fileName) with e | content
  · cases e <;> simp [@eq_comm _ fault]
  · simp

instance (s : Settings) (t : FileTree) (o : Output) : Decidable (s.Outdated t o) :=
  decidable_of_iff (s.isStale t o = .ok true) isStale_eq_ok_true_iff

theorem comparable_iff : s.Comparable t o ↔ s.isStale t o = .ok (decide (s.Outdated t o)) := by
  unfold Comparable
  cases stale : s.isStale t o with
  | error fault =>
    obtain ⟨e, unread, other, -⟩ := isStale_eq_error_iff.mp stale
    simp [unread, other]
  | ok b =>
    cases b with
    | true =>
      have outdated := isStale_eq_ok_true_iff.mp stale
      simp only [outdated, decide_true, iff_true]
      rcases outdated with missing | ⟨content, read, -⟩
      · simp [missing]
      · simp [read]
    | false =>
      have read := isStale_eq_ok_false_iff.mp stale
      have fresh : ¬ s.Outdated t o := by simp [Outdated, read]
      simp [read, fresh]

/-! ### All outputs -/

/-- The paths of outputs that are outdated, in the order of the outputs. -/
def outdatedPaths (s : Settings) (t : FileTree) (outputs : List Output) : List Path :=
  (outputs.filter (s.Outdated t)).map s.pathOf

theorem outdatedPaths_cons (s : Settings) (t : FileTree) (o : Output) (rest : List Output) :
    s.outdatedPaths t (o :: rest) =
      if decide (s.Outdated t o) then s.pathOf o :: s.outdatedPaths t rest
      else s.outdatedPaths t rest := by
  by_cases outdated : s.Outdated t o <;> simp [outdatedPaths, outdated]

theorem stalePaths_eq_ok_iff {stale : List Path} :
    s.stalePaths t outputs = .ok stale ↔
      (∀ o ∈ outputs, s.Comparable t o) ∧ stale = s.outdatedPaths t outputs := by
  induction outputs generalizing stale with
  | nil => simp [stalePaths, outdatedPaths]
  | cons o rest ih =>
    simp only [stalePaths, bind_eq_ok_iff, ih, pure_eq_ok_iff, List.forall_mem_cons]
    constructor
    · rintro ⟨b, isStale, _, ⟨others, rfl⟩, rfl⟩
      have comparable : s.Comparable t o := by
        intro e unread
        by_contra other
        rw [isStale_eq_error_iff.mpr ⟨e, unread, other, rfl⟩] at isStale
        cases isStale
      obtain rfl := Except.ok.inj (isStale.symm.trans (comparable_iff.mp comparable))
      exact ⟨⟨comparable, others⟩, (outdatedPaths_cons s t o rest).symm⟩
    · rintro ⟨⟨comparable, others⟩, rfl⟩
      exact ⟨_, comparable_iff.mp comparable, _, ⟨others, rfl⟩,
        (outdatedPaths_cons s t o rest).symm⟩

/-- Outputs that can be compared are all there if none is outdated. -/
theorem outdatedPaths_eq_nil_iff (comparable : ∀ o ∈ outputs, s.Comparable t o) :
    s.outdatedPaths t outputs = [] ↔
      ∀ o ∈ outputs, t.read (s.pathOf o) = .ok o.content.toUTF8 := by
  rw [outdatedPaths, List.map_eq_nil_iff, List.filter_eq_nil_iff]
  refine forall₂_congr fun o mem => ?_
  rw [← isStale_eq_ok_false_iff, comparable_iff.mp (comparable o mem)]
  by_cases outdated : s.Outdated t o <;> simp [outdated]

/-! ### Checks -/

/-- A check reports the outputs that are outdated. -/
theorem check_eq_ok_iff {report : Report} :
    s.check t = .ok report ↔
      ∃ rendering, s.render t = .ok rendering ∧ (∀ o ∈ rendering.outputs, s.Comparable t o) ∧
        report = ⟨s.outdatedPaths t rendering.outputs, rendering.outputs.length⟩ := by
  simp only [check, bind_eq_ok_iff, stalePaths_eq_ok_iff, pure_eq_ok_iff]
  constructor
  · rintro ⟨rendering, rendered, _, ⟨comparable, rfl⟩, rfl⟩
    exact ⟨rendering, rendered, comparable, rfl⟩
  · rintro ⟨rendering, rendered, comparable, rfl⟩
    exact ⟨rendering, rendered, _, ⟨comparable, rfl⟩, rfl⟩

/-- A check that fails never says that files are stale. -/
theorem check_ne_validation (reason : String) : s.check t ≠ .error (.validation reason) := by
  intro failed
  rcases bind_eq_error_iff.mp failed with unrendered | ⟨rendering, -, failed⟩
  · exact render_eq_error unrendered
  · rcases bind_eq_error_iff.mp failed with failed | ⟨stale, -, failed⟩
    · obtain ⟨e, other⟩ := stalePaths_eq_error failed
      cases other
    · cases failed

/-! ### Passes that have nothing to do -/

/-- A pass over a project whose outputs are all there writes no file, whatever else it comes to. -/
theorem grows_of_upToDate {rendering : Rendering} (rendered : s.render t = .ok rendering)
    (current : ∀ o ∈ rendering.outputs, t.read (s.pathOf o) = .ok o.content.toUTF8) :
    Grows (· ∈ s.output.folder.passes t.current) (fun _ => False) t (s.run false t).1 := by
  have made := Writer.grows_ensure s.output.folder t
  -- Outputs are written after the folder is made, which leaves all files in their places.
  have nothing {next last : FileTree} {created : Bool} {outputs : List Output}
      (ensured : s.writer.ensure t = (next, .ok created))
      (writes : Writes s.output.folder next outputs last)
      (mem : ∀ o ∈ outputs, o ∈ rendering.outputs) :
      Grows (· ∈ s.output.folder.passes t.current) (fun _ => False) t last := by
    rw [ensured] at made
    rw [writes.eq fun o isOutput => made.read id (current o (mem o isOutput))]
    exact made
  rcases outcome : s.run false t with ⟨last, fault | summary⟩
  · cases fails_of_run_eq_error outcome with
    | early => exact .refl t
    | folder _ ensured =>
      rw [ensured] at made
      exact made
    | file renderedAgain ensured split writes _ =>
      obtain rfl := Except.ok.inj (renderedAgain.symm.trans rendered)
      exact nothing ensured writes fun o mem => split ▸ List.mem_append_left _ mem
  · obtain ⟨_, next, created, renderedAgain, ensured, writes, -⟩ := run_eq_ok_iff.mp outcome
    obtain rfl := Except.ok.inj (renderedAgain.symm.trans rendered)
    exact nothing ensured writes fun _ => id

end Settings

end SchemaTypes
