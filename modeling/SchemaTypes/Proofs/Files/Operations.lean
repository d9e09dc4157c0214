import SchemaTypes.Proofs.Files.Growth

/-!
What writing a file and making folders do to a tree.

What is written lies where the path points and can be read there (`write_eq_ok`). A file in a folder
is written if the folder opens and no folder has its name (`write_child_eq_ok_iff`). Making a folder
with all folders on the way to it makes folders among the locations that the path passes through and
nothing else, even if it fails half way (`grows_makeFolders`); if it does not fail, the folder is
there (`isFolder_of_makeFolders`).
-/

namespace SchemaTypes.FileTree

open SchemaTypes.Path (goal isName)

/-! ### Writing -/

theorem setEntry_eq_self {l : Location} {node : Node} {entries : List (Location × Node)}
    (h : entries.lookup l = some node) : setEntry l node entries = entries := by
  induction entries with
  | nil => cases h
  | cons entry rest ih =>
    obtain ⟨k, old⟩ := entry
    rw [lookup_cons_eq] at h
    unfold setEntry
    by_cases eq : k = l
    · rw [if_pos eq.symm, Option.some.injEq] at h
      rw [if_pos eq, h]
    · rw [if_neg (Ne.symm eq)] at h
      rw [if_neg eq, ih h]

/-- To put what is there already changes nothing. -/
theorem put_eq_self {t : FileTree} {l : Location} {node : Node} (ne : l ≠ [])
    (h : t.node? l = some node) : t.put l node = t := by
  rw [node?, if_neg ne] at h
  rw [put, setEntry_eq_self h]

/-- A file is written if its folder opens and its name is free, or that of a file. -/
theorem write_child_eq_ok_iff {t next : FileTree} {p : Path} {name : String} {content : ByteArray}
    (flat : '/' ∉ name.toList) (ne : name ≠ "") :
    t.write (p.child name) content = .ok next ↔
      t.Opens p ∧ isName name = true ∧ t.node? (p.goal t.current ++ [name]) ≠ some .folder ∧
        next = t.put (p.goal t.current ++ [name]) (.file content) := by
  have start : t.start (p.child name) = t.start p := Path.origin_child flat t.current
  have proper : namesFolder name = false ↔ isName name = true := by
    simp [namesFolder, isName, Path.isIdle, ne, flat]
  have following {folder : Location} (walked : t.walk (t.start p) (p.lead ++ [""]) = .ok folder) :
      folder = p.goal t.current := by
    have := walk_eq_follow walked
    rw [List.foldl_append, Path.foldl_follow_lead] at this
    exact this
  unfold write
  rw [if_neg (Path.text_child_ne flat ne), Path.ending?_child flat ne]
  simp only [folderOf, start, bind_eq_ok_iff]
  constructor
  · rintro ⟨folder, walked, h⟩
    obtain rfl := following walked
    split at h
    · cases h
    · rename_i allowed
      simp only [Bool.or_eq_true, decide_eq_true_eq, not_or, Bool.not_eq_true] at allowed
      exact ⟨walked, proper.mp allowed.1.1, allowed.2, (pure_eq_ok_iff.mp h).symm⟩
  · rintro ⟨opens, named, free, rfl⟩
    refine ⟨_, opens, ?_⟩
    rw [if_neg (by simp [proper.mpr named, free])]
    rfl

/-! ### Endings -/

theorem isName_of_ending {p : Path} {e : Path.Ending} (h : p.ending? = some e)
    (proper : namesFolder e.name = false) : isName e.name = true := by
  obtain ⟨ne, n, segments⟩ := Path.ending?_eq_some h
  have flat : '/' ∉ e.name.toList := Path.flat_of_mem_segments (p := p) (by simp [segments])
  simp only [namesFolder, Bool.or_eq_false_iff, decide_eq_false_iff_not] at proper
  simp [isName, Path.isIdle, ne, flat, proper]

/-- The folder of the last name on a path is where the path points, less that name. -/
theorem of_folderOf {t : FileTree} {p : Path} {e : Path.Ending} {folder : Location}
    (ending : p.ending? = some e) (named : isName e.name = true)
    (found : t.folderOf p e = .ok folder) :
    t.walk (t.start p) e.folder = .ok folder ∧ t.node? folder = some .folder ∧
      p.goal t.current = folder ++ [e.name] := by
  obtain ⟨-, n, segments⟩ := Path.ending?_eq_some ending
  obtain ⟨middle, front, back⟩ := walk_append_eq_ok_iff.mp found
  obtain ⟨isFolder, rfl⟩ := walk_blank_eq_ok_iff.mp back
  refine ⟨front, isFolder, ?_⟩
  rw [goal, segments, List.foldl_append, List.foldl_cons, Path.foldl_follow_blanks]
  exact (congrArg (Location.follow · e.name) (walk_eq_follow front).symm).trans
    (Path.follow_name named)

/-- What is written to a file lies where the path points, and can be read there. Nothing else
changes. -/
theorem write_eq_ok {t next : FileTree} {p : Path} {content : ByteArray}
    (h : t.write p content = .ok next) :
    t.node? (p.goal t.current) ≠ some .folder ∧
      next = t.put (p.goal t.current) (.file content) ∧ next.read p = .ok content := by
  unfold write at h
  split at h
  · cases h
  · rename_i nonempty
    split at h
    · cases h
    · rename_i e ending
      obtain ⟨folder, found, h⟩ := bind_eq_ok_iff.mp h
      dsimp only at h
      split at h
      · cases h
      · rename_i allowed
        simp only [Bool.or_eq_true, decide_eq_true_eq, not_or, Bool.not_eq_true] at allowed
        obtain ⟨⟨proper, notSlashed⟩, noFolder⟩ := allowed
        have named := isName_of_ending ending proper
        obtain ⟨front, isFolder, goal⟩ := of_folderOf ending named found
        obtain rfl := pure_eq_ok_iff.mp h
        rw [goal]
        refine ⟨noFolder, rfl, read_eq_ok_iff.mpr ?_⟩
        have grows : Grows (fun _ => True) (fun _ => True) t
            (t.put (folder ++ [e.name]) (.file content)) := grows_put_file noFolder trivial content
        have there : (t.put (folder ++ [e.name]) (.file content)).node? (folder ++ [e.name]) =
            some (.file content) := by
          simp [node?_put]
        rw [grows.goal_eq, goal]
        refine ⟨locate_eq_ok_iff.mpr ⟨nonempty, ?_⟩, there⟩
        rw [grows.start_eq, Path.segments_of_ending ending notSlashed]
        exact walk_append_eq_ok_iff.mpr ⟨folder, grows.walk front, (walk_name_eq_ok_iff named).mpr
          ⟨grows.folder isFolder, by rw [there]; rfl, rfl⟩⟩

/-! ### Making folders -/

/-- The path of a new folder leads to it: the new tree is walked as the old one, one name further
and over the empty names. -/
theorem isFolder_put {t : FileTree} {p : Path} {folder : Location} {front : List String}
    {name : String} {n : Nat} (nonempty : p.text ≠ "")
    (segments : p.segments = front ++ name :: List.replicate n "") (named : isName name = true)
    (walked : t.walk (t.start p) front = .ok folder)
    (isFolder : t.node? folder = some .folder) (free : t.node? (folder ++ [name]) = none) :
    (t.put (folder ++ [name]) .folder).isFolder p = true := by
  have grows : Grows (fun _ => True) (fun _ => False) t (t.put (folder ++ [name]) .folder) :=
    grows_put_folder free trivial
  have made : (t.put (folder ++ [name]) .folder).node? (folder ++ [name]) = some .folder := by
    simp [node?_put]
  have there : (t.put (folder ++ [name]) .folder).locate p = .ok (folder ++ [name]) := by
    have further : (t.put (folder ++ [name]) .folder).walk folder ([name] ++ List.replicate n "") =
        .ok (folder ++ [name]) :=
      walk_append_eq_ok_iff.mpr ⟨_, (walk_name_eq_ok_iff named).mpr
        ⟨grows.folder isFolder, by rw [made]; rfl, rfl⟩, walk_blanks made n⟩
    rw [locate_eq_ok_iff, grows.start_eq, segments]
    exact ⟨nonempty, walk_append_eq_ok_iff.mpr ⟨folder, grows.walk walked, further⟩⟩
  rw [isFolder_iff, ← locate_eq_goal there]
  exact ⟨there, made⟩

/-- A folder is made where its path points, if nothing is there, and is found there from then on. -/
theorem makeFolder_eq_ok {t next : FileTree} {p : Path} (h : t.makeFolder p = .ok next) :
    t.node? (p.goal t.current) = none ∧ next = t.put (p.goal t.current) .folder ∧
      next.isFolder p = true := by
  unfold makeFolder at h
  split at h
  · cases h
  · rename_i nonempty
    split at h
    · cases h
    · rename_i e ending
      obtain ⟨-, n, segments⟩ := Path.ending?_eq_some ending
      obtain ⟨folder, walked, h⟩ := bind_eq_ok_iff.mp h
      dsimp only at h
      split at h
      · cases h
      · rename_i allowed
        simp only [Bool.or_eq_true, not_or, Bool.not_eq_true, Option.isSome_eq_false_iff,
          Option.isNone_iff_eq_none] at allowed
        have named := isName_of_ending ending allowed.1
        obtain ⟨front, isFolder, goal⟩ := of_folderOf ending named walked
        obtain rfl := pure_eq_ok_iff.mp h
        rw [goal]
        exact ⟨allowed.2, rfl, isFolder_put nonempty segments named front isFolder allowed.2⟩

variable {made written : Location → Prop}

theorem isFolder_of_ensureFolder {t next : FileTree} {p : Path}
    (h : t.ensureFolder p = .ok next) : next.isFolder p = true := by
  unfold ensureFolder at h
  split at h
  · rename_i middle eq
    cases h
    exact (makeFolder_eq_ok eq).2.2
  · split at h
    · rename_i isFolder
      cases h
      exact isFolder
    · cases h

theorem grows_ensureFolder {t next : FileTree} {p : Path} (h : t.ensureFolder p = .ok next)
    (isMade : made (p.goal t.current)) : Grows made written t next := by
  unfold ensureFolder at h
  split at h
  · rename_i middle eq
    cases h
    obtain ⟨free, rfl, -⟩ := makeFolder_eq_ok eq
    exact grows_put_folder free isMade
  · split at h
    · cases h
      exact .refl t
    · cases h

theorem grows_makeChain {t : FileTree} {paths : List Path}
    (isMade : ∀ p ∈ paths, made (p.goal t.current)) :
    Grows made written t (t.makeChain paths).1 := by
  induction paths with
  | nil => exact .refl t
  | cons p outer ih =>
    have isMadeHere := isMade p List.mem_cons_self
    have grown := ih fun q mem => isMade q (List.mem_cons_of_mem _ mem)
    unfold makeChain
    split
    · rename_i next eq
      exact grows_ensureFolder eq isMadeHere
    · split
      · rename_i next e eq
        rw [eq] at grown
        exact grown
      · rename_i next eq
        rw [eq] at grown
        split
        · rename_i last eqLast
          exact grown.trans (grows_ensureFolder eqLast (grown.goal_eq p ▸ isMadeHere))
        · exact grown
    · exact .refl t

theorem isFolder_of_makeChain {t next : FileTree} {p : Path} {outer : List Path}
    (h : t.makeChain (p :: outer) = (next, none)) : next.isFolder p = true := by
  unfold makeChain at h
  split at h
  · rename_i middle eq
    cases h
    exact isFolder_of_ensureFolder eq
  · split at h
    · cases h
    · split at h
      · rename_i last eq
        cases h
        exact isFolder_of_ensureFolder eq
      · cases h
  · cases h

/-- Only folders are made, and only among the locations that the path passes through. -/
theorem grows_makeFolders (t : FileTree) (p : Path) :
    Grows (· ∈ p.passes t.current) (fun _ => False) t (t.makeFolders p).1 := by
  unfold makeFolders
  split
  · exact .refl t
  · refine grows_makeChain fun q mem => ?_
    rcases List.mem_cons.mp mem with rfl | mem
    · exact Path.goal_mem_passes q t.current
    · exact Path.goal_parent_mem_passes mem t.current

/-- A folder is there once it has been made with those on the way to it. -/
theorem isFolder_of_makeFolders {t next : FileTree} {p : Path} (ne : p.text ≠ "")
    (h : t.makeFolders p = (next, none)) : next.isFolder p = true := by
  unfold makeFolders at h
  rw [if_neg ne] at h
  exact isFolder_of_makeChain h

end SchemaTypes.FileTree
