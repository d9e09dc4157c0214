import Mathlib.Data.List.Basic
import SchemaTypes.Ignore.Folder
import SchemaTypes.Proofs.Files.Agreement

/-!
When ignore files say the same again.

The ignore files of a folder lie in that folder, or in the repository to which a file `.git` leads.
The paths of the latter kind are `linkPaths`. If a tree grows outside of the folder, its ignore
files say the same as before, provided that the link paths are read as before (`ignores_eq`).
-/

namespace SchemaTypes.Ignore

/-- The files outside of a folder that are asked for its ignore rules: the one in which a work tree
names its repository, and the ignore file of that repository. -/
def linkPaths (t : FileTree) (folder : Path) : List Path :=
  if t.isFile (folder.child ".git") then
    match linkedFolder? t folder with
    | some linked =>
      linkFile linked :: ((sharedFolder? t linked).map (·.child "info/exclude")).toList
    | none => []
  else []

/-- The files are read alike, if they can be read. -/
def ReadAlike (t next : FileTree) (p : Path) : Prop :=
  ∀ content, next.read p = .ok content ↔ t.read p = .ok content

section Reading

variable {t next : FileTree} {p : Path}

theorem readAlike_of_alike (h : FileTree.Alike t next p) : ReadAlike t next p := by
  intro content
  rw [h.read_eq]

theorem ReadAlike.eq_or_error (h : ReadAlike t next p) :
    next.read p = t.read p ∨ ∃ e e', next.read p = .error e ∧ t.read p = .error e' := by
  cases before : t.read p with
  | ok content => exact .inl ((h content).mpr before)
  | error e' =>
    cases after : next.read p with
    | ok content =>
      rw [(h content).mp after] at before
      cases before
    | error e => exact .inr ⟨e, e', rfl, rfl⟩

theorem firstLine?_eq (h : ReadAlike t next p) : firstLine? next p = firstLine? t p := by
  unfold firstLine?
  rcases h.eq_or_error with eq | ⟨e, e', after, before⟩
  · rw [eq]
  · rw [after, before]

theorem rulesAt_eq (h : ReadAlike t next p) : rulesAt next p = rulesAt t p := by
  unfold rulesAt
  rcases h.eq_or_error with eq | ⟨e, e', after, before⟩
  · rw [eq]
  · rw [after, before]

end Reading

/-! ### Links -/

/-- A link path ends in a name without dots. -/
theorem getLast?_goal_of_mem_linkPaths {t : FileTree} {folder p : Path} (h : p ∈ linkPaths t folder)
    (current : Location) :
    ∃ front, ∃ name ∈ ["commondir", "exclude"], p.goal current = front ++ [name] := by
  unfold linkPaths at h
  split at h
  · split at h
    · rename_i linked eq
      rcases List.mem_cons.mp h with rfl | h
      · exact ⟨_, "commondir", by simp, Path.goal_child rfl current⟩
      · obtain ⟨shared, -, rfl⟩ := Option.map_eq_some_iff.mp (Option.mem_toList.mp h)
        refine ⟨shared.goal current ++ ["info"], "exclude", by simp, ?_⟩
        rw [Path.child, Path.goal_join rfl]
        rfl
    · cases h
  · cases h

variable {made written : Location → Prop} {t next : FileTree} {folder : Path}

theorem repository?_eq (h : Spares made written t next folder)
    (links : ∀ p ∈ linkPaths t folder, ReadAlike t next p) :
    repository? next folder = repository? t folder := by
  have git : FileTree.Alike t next (folder.child ".git") := h.alike_child rfl
  have linked : linkedFolder? next folder = linkedFolder? t folder := by
    rw [linkedFolder?, linkedFolder?, firstLine?_eq (readAlike_of_alike git)]
  rw [repository?, repository?, git.isFile_eq, linked]
  unfold linkPaths at links
  split
  · rename_i isFile
    rw [if_pos isFile] at links
    cases isLinked : linkedFolder? t folder with
    | none => rfl
    | some link =>
      rw [isLinked] at links
      rw [Option.bind_some, Option.bind_some, sharedFolder?, sharedFolder?,
        firstLine?_eq (links _ List.mem_cons_self)]
  · rfl

theorem readAlike_of_mem_ignoreFiles (h : Spares made written t next folder)
    (links : ∀ p ∈ linkPaths t folder, ReadAlike t next p) {file : Path}
    (mem : file ∈ ignoreFiles t folder) : ReadAlike t next file := by
  rcases List.mem_cons.mp mem with rfl | mem
  · exact readAlike_of_alike (h.alike_child rfl)
  · obtain ⟨repository, isRepository, rfl⟩ := Option.map_eq_some_iff.mp (Option.mem_toList.mp mem)
    unfold repository? at isRepository
    split at isRepository
    · rename_i isFile
      obtain ⟨linked, isLinked, isShared⟩ := Option.bind_eq_some_iff.mp isRepository
      refine links _ ?_
      unfold linkPaths
      rw [if_pos isFile, isLinked]
      exact List.mem_cons_of_mem _ (by simp [isShared])
    · -- The repository is in the folder itself.
      cases isRepository
      refine readAlike_of_alike ((h.alike_child rfl).join rfl fun front isPrefix => h.node?_eq ?_)
      have segments : (⟨"info/exclude"⟩ : Path).segments = ["info", "exclude"] := by decide
      have named : ∀ name ∈ front, Path.isName name = true := fun name mem =>
        (by decide : ∀ name ∈ ["info", "exclude"], Path.isName name = true) name
          (segments ▸ isPrefix.mem mem)
      rw [Path.goal_child rfl, Path.foldl_follow_names named, List.append_assoc]
      exact List.prefix_append _ _

/-- The ignore files of a spared folder say the same of its entries. -/
theorem ignores_eq (h : Spares made written t next folder)
    (links : ∀ p ∈ linkPaths t folder, ReadAlike t next p) {name : String}
    (named : Path.isName name = true) :
    ignores next folder (folder.child name) = ignores t folder (folder.child name) := by
  have files : ignoreFiles next folder = ignoreFiles t folder := by
    rw [ignoreFiles, ignoreFiles, repository?_eq h links]
  unfold ignores
  dsimp only
  rw [files, (h.alike_child named).isFolder_eq, ← List.head?_filterMap, ← List.head?_filterMap,
    List.filterMap_congr fun file mem => by
      rw [rulesAt_eq (readAlike_of_mem_ignoreFiles h links mem)]]

end SchemaTypes.Ignore
