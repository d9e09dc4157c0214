import SchemaTypes.Proofs.Files.Agreement
import SchemaTypes.Proofs.Files.Operations
import SchemaTypes.Proofs.Project.Rendering

/-!
What writing outputs does to a tree.

`Writes` relates a tree to the one in which all of some outputs have been written. Writing succeeds
exactly if there is such a tree (`writeAll_eq_ok_iff`); if it fails, the outputs before a certain
one have been written, which is the one that could not be (`writeAll_eq_error`). Outputs that can be
kept apart can all be read afterwards, and nothing else has changed (`Writes.spec`); of outputs that
go to one place the last can be read (`Writes.read_last`). Writing outputs that are kept apart once
more changes nothing (`Stored.writes`).
-/

namespace SchemaTypes

open SchemaTypes.Path (isName)

/-- The locations of outputs in a folder. -/
def placesOf (folder : Path) (current : Location) (outputs : List Output) : List Location :=
  outputs.map fun o => (folder.child o.fileName).goal current

/-- A tree becomes another one as outputs are written to a folder, one after the other. -/
inductive Writes (folder : Path) : FileTree → List Output → FileTree → Prop where
  | nil {t : FileTree} : Writes folder t [] t
  | cons {t next last : FileTree} {o : Output} {rest : List Output} :
      t.write (folder.child o.fileName) o.content.toUTF8 = .ok next →
      Writes folder next rest last → Writes folder t (o :: rest) last

/-! ### Writing and failing -/

namespace Writer

variable {folder : Path} {t last : FileTree} {outputs : List Output}

/-- What is told about an output that has been written. -/
def receipt (folder : Path) (o : Output) : Written :=
  .written (folder.child o.fileName) o.content.utf8ByteSize

theorem write_eq_ok_iff {o : Output} {written : Written} :
    Writer.write ⟨folder, false⟩ t o.fileName o.content = (last, .ok written) ↔
      t.write (folder.child o.fileName) o.content.toUTF8 = .ok last ∧
        written = receipt folder o := by
  unfold write pathOf
  dsimp only
  generalize t.write (folder.child o.fileName) o.content.toUTF8 = outcome
  cases outcome <;> simp [receipt, @eq_comm _ written]

theorem write_eq_error_iff {o : Output} {fault : WriteFault} :
    Writer.write ⟨folder, false⟩ t o.fileName o.content = (last, .error fault) ↔
      ∃ e, t.write (folder.child o.fileName) o.content.toUTF8 = .error e ∧ last = t ∧
        fault = .file (folder.child o.fileName) e := by
  unfold write pathOf
  dsimp only
  generalize t.write (folder.child o.fileName) o.content.toUTF8 = outcome
  cases outcome <;> simp [@eq_comm _ last, @eq_comm _ fault]

/-- Writing succeeds if each output can be written after those before it. -/
theorem writeAll_eq_ok_iff {written : List Written} :
    Writer.writeAll ⟨folder, false⟩ t outputs = (last, .ok written) ↔
      Writes folder t outputs last ∧ written = outputs.map (receipt folder) := by
  induction outputs generalizing t written with
  | nil =>
    constructor
    · intro h
      cases h
      exact ⟨.nil, rfl⟩
    · rintro ⟨⟨⟩, rfl⟩
      rfl
  | cons o rest ih =>
    constructor
    · intro h
      unfold writeAll at h
      split at h
      · cases h
      · rename_i next first hFirst
        obtain ⟨isWritten, rfl⟩ := write_eq_ok_iff.mp hFirst
        split at h
        · cases h
        · rename_i last others hRest
          cases h
          obtain ⟨areWritten, rfl⟩ := ih.mp hRest
          exact ⟨.cons isWritten areWritten, rfl⟩
    · rintro ⟨h, rfl⟩
      cases h with
      | cons isWritten areWritten =>
        unfold writeAll
        rw [write_eq_ok_iff.mpr ⟨isWritten, rfl⟩]
        dsimp only
        rw [ih.mpr ⟨areWritten, rfl⟩]
        rfl

/-- Writing fails at the first output that cannot be written after those before it. -/
theorem writeAll_eq_error {fault : WriteFault}
    (h : Writer.writeAll ⟨folder, false⟩ t outputs = (last, .error fault)) :
    ∃ before o after e, outputs = before ++ o :: after ∧ Writes folder t before last ∧
      last.write (folder.child o.fileName) o.content.toUTF8 = .error e ∧
      fault = .file (folder.child o.fileName) e := by
  induction outputs generalizing t with
  | nil => cases h
  | cons o rest ih =>
    unfold writeAll at h
    split at h
    · rename_i next failure hFirst
      cases h
      obtain ⟨e, fails, rfl, rfl⟩ := write_eq_error_iff.mp hFirst
      exact ⟨[], o, rest, e, rfl, .nil, fails, rfl⟩
    · rename_i next first hFirst
      obtain ⟨isWritten, -⟩ := write_eq_ok_iff.mp hFirst
      split at h
      · rename_i last failure hRest
        cases h
        obtain ⟨before, q, after, e, rfl, areWritten, fails, rfl⟩ := ih hRest
        exact ⟨o :: before, q, after, e, rfl, .cons isWritten areWritten, fails, rfl⟩
      · cases h

end Writer

/-! ### The tree afterwards -/

/-- Outputs are written in a folder that opens, under names that files can have. -/
structure Stored (folder : Path) (t : FileTree) (outputs : List Output) : Prop where
  opens : outputs ≠ [] → t.Opens folder
  named : ∀ o ∈ outputs, isName o.fileName = true
  found : ∀ o ∈ outputs,
    t.node? (folder.goal t.current ++ [o.fileName]) = some (.file o.content.toUTF8)

namespace Stored

variable {folder : Path} {t : FileTree} {outputs : List Output}

/-- Stored outputs can be read. -/
theorem read (h : Stored folder t outputs) {o : Output} (mem : o ∈ outputs) :
    t.read (folder.child o.fileName) = .ok o.content.toUTF8 :=
  (FileTree.read_child_eq_ok_iff (h.named o mem)).mpr
    ⟨h.opens (List.ne_nil_of_mem mem), h.found o mem⟩

/-- Writing what is stored changes nothing. -/
theorem writes (h : Stored folder t outputs) : Writes folder t outputs t := by
  induction outputs with
  | nil => exact .nil
  | cons o rest ih =>
    have named := h.named o List.mem_cons_self
    have found := h.found o List.mem_cons_self
    refine .cons ?_ (ih ⟨fun _ => h.opens (List.cons_ne_nil o rest),
      fun q mem => h.named q (List.mem_cons_of_mem _ mem),
      fun q mem => h.found q (List.mem_cons_of_mem _ mem)⟩)
    refine (FileTree.write_child_eq_ok_iff (Path.isName_flat named)
      (Path.isName_ne_empty named)).mpr ⟨h.opens (List.cons_ne_nil o rest), named, ?_, ?_⟩
    · rw [found]
      simp
    · exact (FileTree.put_eq_self (List.append_ne_nil_of_right_ne_nil _ (List.cons_ne_nil _ _))
        found).symm

end Stored

namespace Writes

variable {folder : Path} {t last : FileTree} {outputs : List Output}

/-- Nothing changes but the files at the places of the outputs. -/
theorem grows (h : Writes folder t outputs last) :
    Grows (fun _ => False) (· ∈ placesOf folder t.current outputs) t last := by
  induction h with
  | nil => exact .refl _
  | @cons t next last o rest isWritten _ ih =>
    obtain ⟨noFolder, rfl, -⟩ := FileTree.write_eq_ok isWritten
    have first : Grows (fun _ => False) (· ∈ placesOf folder t.current (o :: rest)) t _ :=
      grows_put_file noFolder List.mem_cons_self o.content.toUTF8
    exact first.trans (ih.mono (fun _ => id) fun l mem => List.mem_cons_of_mem _ mem)

/-- All outputs that are written are stored, and nothing changes but the files at their places. -/
theorem spec (h : Writes folder t outputs last) (separate : Separate outputs) :
    Stored folder last outputs ∧
      Grows (fun _ => False) (· ∈ placesOf folder t.current outputs) t last := by
  refine ⟨?_, h.grows⟩
  induction h with
  | nil => exact ⟨by simp, by simp, by simp⟩
  | @cons t next last o rest isWritten areWritten ih =>
    have grows := (Writes.cons isWritten areWritten).grows
    have growsRest := areWritten.grows
    obtain ⟨new, separateRest⟩ := separate.of_cons
    have stored := ih separateRest
    obtain ⟨opens, named, free, rfl⟩ := (FileTree.write_child_eq_ok_iff
      (separate.flat o List.mem_cons_self) (separate.ne List.mem_cons_self)).mp isWritten
    have place : (folder.child o.fileName).goal t.current = folder.goal t.current ++ [o.fileName] :=
      Path.goal_child named t.current
    refine ⟨fun _ => grows.opens opens, ?_, ?_⟩
    · exact List.forall_mem_cons.mpr ⟨named, stored.named⟩
    · refine List.forall_mem_cons.mpr ⟨?_, stored.found⟩
      -- The outputs after this one have other names, so they leave its file alone.
      have untouched : folder.goal t.current ++ [o.fileName] ∉ placesOf folder t.current rest := by
        intro mem
        obtain ⟨q, isRest, eq⟩ := List.mem_map.mp mem
        rw [← place] at eq
        exact Path.goal_child_ne named (separateRest.flat q isRest) (new q isRest) t.current eq
      rw [grows.current_eq, growsRest.file_iff untouched]
      simp [FileTree.node?_put]

/-! ### Outputs of one place -/

/-- The path of an output leads to a file. -/
theorem locate (h : Writes folder t outputs last) {o : Output} (mem : o ∈ outputs) :
    last.locate (folder.child o.fileName) = .ok ((folder.child o.fileName).goal t.current) := by
  induction h with
  | nil => cases mem
  | @cons t next last first rest isWritten areWritten ih =>
    obtain ⟨-, rfl, read⟩ := FileTree.write_eq_ok isWritten
    rcases List.mem_cons.mp mem with rfl | mem
    · exact areWritten.grows.locate (FileTree.read_eq_ok_iff.mp read).1
    · exact ih mem

/-- An output is stored until another one is written in its place. -/
theorem read (h : Writes folder t outputs last) {before after : List Output} {o : Output}
    (split : outputs = before ++ o :: after)
    (isLast : (folder.child o.fileName).goal t.current ∉ placesOf folder t.current after) :
    last.read (folder.child o.fileName) = .ok o.content.toUTF8 := by
  induction h generalizing before with
  | nil => simp at split
  | @cons t next last first rest isWritten areWritten ih =>
    obtain ⟨-, rfl, readFirst⟩ := FileTree.write_eq_ok isWritten
    cases before with
    | nil =>
      obtain ⟨rfl, rfl⟩ := List.cons.inj split
      exact (areWritten.grows.read_eq_ok_iff (fun _ _ => False.elim) isLast).mpr readFirst
    | cons _ before => exact ih (List.cons.inj split).2 isLast

/-- The path of an output is read as the last of the outputs that go to the same place. -/
theorem read_last (h : Writes folder t outputs last) {o : Output} (mem : o ∈ outputs) :
    ∃ before q after, outputs = before ++ q :: after ∧
      (folder.child q.fileName).goal t.current = (folder.child o.fileName).goal t.current ∧
      (folder.child o.fileName).goal t.current ∉ placesOf folder t.current after ∧
      last.read (folder.child o.fileName) = .ok q.content.toUTF8 := by
  obtain ⟨before, q, after, split, same, isLast⟩ :=
    exists_last_of_mem (List.mem_map_of_mem (f := fun o : Output =>
      (folder.child o.fileName).goal t.current) mem)
  refine ⟨before, q, after, split, same, isLast, ?_⟩
  have found := (FileTree.read_eq_ok_iff.mp (h.read split (same ▸ isLast))).2
  have current := h.grows.current_eq
  rw [current, same] at found
  rw [FileTree.read_eq_ok_iff, current]
  exact ⟨h.locate mem, found⟩

end Writes

/-! ### Making the folder -/

namespace Writer

variable {folder : Path} {t next : FileTree}

/-- Only folders on the way to the output folder are made, whether or not that succeeds. -/
theorem grows_ensure (folder : Path) (t : FileTree) :
    Grows (· ∈ folder.passes t.current) (fun _ => False) t
      (Writer.ensure ⟨folder, false⟩ t).1 := by
  unfold ensure
  split
  · exact .refl t
  · have grows := FileTree.grows_makeFolders t folder
    split
    · rename_i next eq
      rw [eq] at grows
      exact grows
    · rename_i next e eq
      rw [eq] at grows
      exact grows

theorem ensure_eq_error {fault : WriteFault}
    (h : Writer.ensure ⟨folder, false⟩ t = (next, .error fault)) :
    ∃ e, fault = .folder folder e := by
  unfold ensure at h
  split at h
  · cases h
  · split at h
    · cases h
    · cases h
      exact ⟨_, rfl⟩

/-- A folder that is there is left alone, and another one is made with those on the way to it. -/
theorem ensure_eq_ok_iff {created : Bool} :
    Writer.ensure ⟨folder, false⟩ t = (next, .ok created) ↔
      t.isFolder folder = true ∧ next = t ∧ created = false ∨
        t.isFolder folder = false ∧ t.makeFolders folder = (next, none) ∧ created = true := by
  constructor
  · intro h
    unfold ensure at h
    split at h
    · rename_i isFolder
      cases h
      exact .inl ⟨by simpa using isFolder, rfl, rfl⟩
    · rename_i missing
      split at h
      · rename_i made
        cases h
        exact .inr ⟨by simpa using missing, made, rfl⟩
      · cases h
  · rintro (⟨isFolder, rfl, rfl⟩ | ⟨missing, made, rfl⟩)
    · simp [ensure, isFolder]
    · simp [ensure, missing, made]

/-- The folder is there once it has been ensured. The empty path needs no folder. -/
theorem isFolder_of_ensure {created : Bool} (ne : folder.text ≠ "")
    (h : Writer.ensure ⟨folder, false⟩ t = (next, .ok created)) : next.isFolder folder = true := by
  rcases ensure_eq_ok_iff.mp h with ⟨isFolder, rfl, -⟩ | ⟨-, made, -⟩
  · exact isFolder
  · exact FileTree.isFolder_of_makeFolders ne made

theorem ensure_of_isFolder (isFolder : t.isFolder folder = true) :
    Writer.ensure ⟨folder, false⟩ t = (t, .ok false) :=
  ensure_eq_ok_iff.mpr (.inl ⟨isFolder, rfl, rfl⟩)

/-- Nothing has to be made for the empty path, though it leads to no folder. -/
theorem ensure_of_empty (empty : folder.text = "") :
    t.isFolder folder = false ∧ Writer.ensure ⟨folder, false⟩ t = (t, .ok true) := by
  have missing : t.isFolder folder = false := by
    rw [Bool.eq_false_iff, ne_eq, FileTree.isFolder_iff, FileTree.locate_eq_ok_iff]
    exact fun h => h.1.1 empty
  exact ⟨missing,
    ensure_eq_ok_iff.mpr (.inr ⟨missing, by rw [FileTree.makeFolders, if_pos empty], rfl⟩)⟩

/-- A folder that is there is left alone. -/
theorem ensure_again (there : folder.text ≠ "" → t.isFolder folder = true) :
    ∃ created, Writer.ensure ⟨folder, false⟩ t = (t, .ok created) := by
  by_cases empty : folder.text = ""
  · exact ⟨true, (ensure_of_empty empty).2⟩
  · exact ⟨false, ensure_of_isFolder (there empty)⟩

end Writer

end SchemaTypes
