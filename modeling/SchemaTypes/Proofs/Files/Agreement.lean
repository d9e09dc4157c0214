import SchemaTypes.Proofs.Files.Growth

/-!
What can be told of a tree from a few of its locations.

What a path leads to depends on the locations that it passes through, and on nothing else: trees
that look alike along a path give the same answers to all questions about it (`FileTree.Alike`). In
a tree that has grown, a path that passes through no new folder is read as before, if it does not
lead to a file that was written (`Grows.read_eq_ok_iff`).
-/

namespace SchemaTypes

/-- Trees have the same at all locations that a path passes through. -/
structure FileTree.Alike (t next : FileTree) (p : Path) : Prop where
  current_eq : next.current = t.current
  node?_eq : ∀ l ∈ p.passes t.current, next.node? l = t.node? l

namespace FileTree

theorem step_congr {t next : FileTree} {here : Location} {name : String}
    (atHere : next.node? here = t.node? here)
    (ahead : next.node? (here.follow name) = t.node? (here.follow name)) :
    next.step here name = t.step here name := by
  unfold step
  rw [atHere]
  unfold Location.follow at ahead
  split
  · split
    · rfl
    · rename_i busy
      split
      · rfl
      · rename_i notUp
        rw [if_neg busy, if_neg notUp] at ahead
        rw [ahead]
  · rfl
  · rfl

/-- A walk looks at no more than the locations on its way. -/
theorem walk_congr {t next : FileTree} {here : Location} {names : List String}
    (same : ∀ front, front <+: names →
      next.node? (front.foldl Location.follow here) = t.node? (front.foldl Location.follow here)) :
    next.walk here names = t.walk here names := by
  induction names generalizing here with
  | nil => rfl
  | cons name rest ih =>
    have isStep : next.step here name = t.step here name :=
      step_congr (same [] List.nil_prefix) (same [name] ⟨rest, rfl⟩)
    have later := ih fun front isPrefix =>
      same (name :: front) (List.cons_prefix_cons.mpr ⟨rfl, isPrefix⟩)
    unfold walk at later ⊢
    rw [List.foldlM_cons, List.foldlM_cons, isStep]
    refine bind_congr_ok fun middle hStep => ?_
    obtain ⟨-, rfl, -⟩ := step_eq_ok_iff.mp hStep
    exact later

namespace Alike

variable {t next : FileTree} {p : Path}

theorem locate_eq (h : Alike t next p) : next.locate p = t.locate p := by
  have start : next.start p = t.start p := by rw [start, start, h.current_eq]
  have walk : next.walk (t.start p) p.segments = t.walk (t.start p) p.segments :=
    walk_congr fun front isPrefix =>
      h.node?_eq _ (Path.mem_passes_iff.mpr ⟨front, isPrefix, rfl⟩)
  rw [locate, locate, start, walk]

theorem lookup_eq (h : Alike t next p) : next.lookup p = t.lookup p := by
  unfold lookup
  rw [h.locate_eq]
  cases located : t.locate p with
  | error e => rfl
  | ok l =>
    have isGoal : l = p.goal t.current := locate_eq_goal located
    have same := h.node?_eq _ (p.goal_mem_passes t.current)
    rw [← isGoal] at same
    simp only [bind, Except.bind, same]

theorem isFolder_eq (h : Alike t next p) : next.isFolder p = t.isFolder p := by
  rw [isFolder, isFolder, h.lookup_eq]

theorem isFile_eq (h : Alike t next p) : next.isFile p = t.isFile p := by
  rw [isFile, isFile, h.lookup_eq]

theorem read_eq (h : Alike t next p) : next.read p = t.read p := by
  rw [read, read, h.lookup_eq]

theorem readText_eq (h : Alike t next p) : next.readText p = t.readText p := by
  rw [readText, readText, h.read_eq]

/-- A path can be joined to, if what is passed through from there on is the same. -/
theorem join (h : Alike t next p) {q : Path} (relative : q.isAbsolute = false)
    (same : ∀ front, front <+: q.segments →
      next.node? (front.foldl Location.follow (p.goal t.current)) =
        t.node? (front.foldl Location.follow (p.goal t.current))) :
    Alike t next (p.join q) := by
  refine ⟨h.current_eq, fun l mem => ?_⟩
  rcases Path.of_mem_passes_join relative mem with mem | ⟨front, isPrefix, rfl⟩
  · exact h.node?_eq l mem
  · exact same front isPrefix

/-- Trees that look alike along a path do so along a path to a file in there, if the file is the
same. -/
theorem child (h : Alike t next p) {name : String} (flat : '/' ∉ name.toList)
    (same :
      next.node? ((p.goal t.current).follow name) = t.node? ((p.goal t.current).follow name)) :
    Alike t next (p.child name) := by
  refine h.join (Path.isAbsolute_of_notMem flat) fun front isPrefix => ?_
  have segments : (⟨name⟩ : Path).segments = [name] := by
    simp [Path.segments, splitAtChar_of_notMem flat]
  rw [segments] at isPrefix
  rcases List.prefix_cons_iff.mp isPrefix with rfl | ⟨rest, rfl, short⟩
  · exact h.node?_eq _ (p.goal_mem_passes t.current)
  · obtain rfl := List.prefix_nil.mp short
    exact same

end Alike

/-- The names in a folder depend on the locations alone, not on what lies there. -/
theorem children_eq_keys (t : FileTree) (folder : Location) :
    t.children folder = sortKeyed id ((t.entries.map Prod.fst).filterMap (childName? folder)) := by
  rw [children, List.filterMap_map]
  rfl

/-- A path to a folder passes through folders only. -/
theorem folder_of_mem_passes {t : FileTree} {p : Path} (isFolder : t.isFolder p = true)
    {l : Location} (mem : l ∈ p.passes t.current) : t.node? l = some .folder := by
  obtain ⟨located, folder⟩ := isFolder_iff.mp isFolder
  obtain ⟨front, isPrefix, rfl⟩ := Path.mem_passes_iff.mp mem
  exact folder_of_walk (locate_eq_ok_iff.mp located).2 folder isPrefix

end FileTree

namespace Grows

variable {made written : Location → Prop} {t next : FileTree}

/-- Grown trees look alike along the path to a folder. -/
theorem alike (h : Grows made written t next) {p : Path} (isFolder : t.isFolder p = true) :
    FileTree.Alike t next p := by
  refine ⟨h.current_eq, fun l mem => ?_⟩
  have folder := FileTree.folder_of_mem_passes isFolder mem
  rw [folder, h.folder folder]

/-- A path that passes through no new folder is read as before, if what it leads to has not been
written. -/
theorem read_eq_ok_iff (h : Grows made written t next) {p : Path} {content : ByteArray}
    (noneMade : ∀ l ∈ p.passes t.current, made l → (t.node? l).isSome)
    (untouched : ¬ written (p.goal t.current)) :
    next.read p = .ok content ↔ t.read p = .ok content := by
  rw [FileTree.read_eq_ok_iff, FileTree.read_eq_ok_iff, h.goal_eq]
  constructor
  · rintro ⟨located, found⟩
    have foundBefore := (h.file_iff untouched content).mp found
    refine ⟨?_, foundBefore⟩
    rw [FileTree.locate_eq_ok_iff] at located ⊢
    rw [h.start_eq] at located
    refine ⟨located.1, FileTree.walk_transfer located.2 (fun front isPrefix folder => ?_) ?_⟩
    · refine (h.made_of_folder folder).resolve_right ?_
      rintro ⟨isMade, missing⟩
      have there : (t.node? (front.foldl Location.follow (t.start p))).isSome :=
        noneMade _ (Path.mem_passes_iff.mpr ⟨front, isPrefix, rfl⟩) isMade
      rw [missing] at there
      cases there
    · rw [foundBefore]
      exact fun _ => rfl
  · rintro ⟨located, found⟩
    exact ⟨h.locate located, (h.file_iff untouched content).mpr found⟩

end Grows

/-! ### Spared folders -/

/-- A tree grows outside of a certain folder: whatever is made or written lies elsewhere. -/
structure Spares (made written : Location → Prop) (t next : FileTree) (folder : Path) : Prop where
  grows : Grows made written t next
  isFolder : t.isFolder folder = true
  inside : ∀ l, folder.goal t.current <+: l → l ≠ folder.goal t.current → ¬ made l ∧ ¬ written l

namespace Spares

variable {made written : Location → Prop} {t next : FileTree} {folder : Path}

theorem node?_eq (h : Spares made written t next folder) {l : Location}
    (isInside : folder.goal t.current <+: l) : next.node? l = t.node? l := by
  by_cases eq : l = folder.goal t.current
  · have isFolder := (FileTree.isFolder_iff.mp h.isFolder).2
    rw [eq, isFolder, h.grows.folder isFolder]
  · obtain ⟨unmade, untouched⟩ := h.inside l isInside eq
    exact h.grows.node?_eq unmade untouched

theorem alike_child (h : Spares made written t next folder) {name : String}
    (named : Path.isName name = true) : FileTree.Alike t next (folder.child name) := by
  refine (h.grows.alike h.isFolder).child (Path.isName_flat named) ?_
  rw [Path.follow_name named]
  exact h.node?_eq (List.prefix_append _ _)

/-- A file in a folder in the spared folder is the same, whatever its name. -/
theorem alike_child_child (h : Spares made written t next folder) {name file : String}
    (named : Path.isName name = true) (flat : '/' ∉ file.toList) :
    FileTree.Alike t next ((folder.child name).child file) := by
  refine (h.alike_child named).child flat (h.node?_eq ?_)
  rw [Path.goal_child named]
  unfold Location.follow
  split
  · exact List.prefix_append _ _
  · split
    · exact ⟨[], by rw [List.dropLast_concat, List.append_nil]⟩
    · rw [List.append_assoc]
      exact List.prefix_append _ _

/-- The folder has the same entries. -/
theorem children_eq (h : Spares made written t next folder) :
    next.children (folder.goal t.current) = t.children (folder.goal t.current) := by
  obtain ⟨added, keys, mem⟩ := h.grows.entries
  have outside : added.filterMap (FileTree.childName? (folder.goal t.current)) = [] := by
    rw [List.filterMap_eq_nil_iff]
    intro l isAdded
    unfold FileTree.childName?
    split
    · rename_i parent
      cases last : l.getLast? with
      | none => rfl
      | some name =>
        obtain ⟨front, rfl⟩ := List.getLast?_eq_some_iff.mp last
        rw [List.dropLast_concat] at parent
        obtain ⟨unmade, untouched⟩ := h.inside (front ++ [name]) (parent ▸ List.prefix_append _ _)
          (by simp [parent])
        exact ((mem _ isAdded).elim unmade untouched).elim
    · rfl
  rw [FileTree.children_eq_keys, FileTree.children_eq_keys, keys, List.filterMap_append, outside,
    List.append_nil]

end Spares

end SchemaTypes
