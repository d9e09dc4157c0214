import SchemaTypes.Proofs.Files.Path
import SchemaTypes.Proofs.Outcome

/-!
Following paths through a tree.

A walk that succeeds ends where its names lead (`walk_eq_follow`), and it succeeds in any tree that
has the folders on its way and its end (`walk_transfer`). What a path finds, what can be read there
and what it takes to write there are told in terms of `Path.goal` and of walks. A path that leads to
a file ends in the name of the file (`exists_busy_of_isFile`).
-/

namespace SchemaTypes.FileTree

open SchemaTypes.Path (goal origin lead isIdle isName)

/-! ### Walks -/

theorem step_eq_ok_iff {t : FileTree} {here next : Location} {name : String} :
    t.step here name = .ok next ↔
      t.node? here = some .folder ∧ next = here.follow name ∧
        (isIdle name ∨ name = ".." ∨ (t.node? (here ++ [name])).isSome) := by
  unfold step Location.follow
  cases t.node? here with
  | none => simp
  | some node =>
    cases node with
    | file content => simp
    | folder =>
      by_cases idle : isIdle name = true
      · simp [idle, @eq_comm _ next]
      · by_cases up : name = ".."
        · have busy : isIdle ".." = false := rfl
          simp [up, busy, @eq_comm _ next]
        · by_cases there : (t.node? (here ++ [name])).isSome = true <;>
            simp [idle, up, there, @eq_comm _ next]

@[simp] theorem walk_nil (t : FileTree) (here : Location) : t.walk here [] = .ok here := rfl

theorem walk_cons_eq_ok_iff {t : FileTree} {here l : Location} {name : String}
    {names : List String} :
    t.walk here (name :: names) = .ok l ↔
      ∃ next, t.step here name = .ok next ∧ t.walk next names = .ok l := by
  rw [walk, List.foldlM_cons, bind_eq_ok_iff]
  rfl

theorem walk_append_eq_ok_iff {t : FileTree} {here l : Location} {front back : List String} :
    t.walk here (front ++ back) = .ok l ↔
      ∃ middle, t.walk here front = .ok middle ∧ t.walk middle back = .ok l := by
  rw [walk, List.foldlM_append, bind_eq_ok_iff]
  rfl

/-- A walk ends where its names lead. -/
theorem walk_eq_follow {t : FileTree} {here l : Location} {names : List String}
    (h : t.walk here names = .ok l) : l = names.foldl Location.follow here := by
  induction names generalizing here with
  | nil => exact (Except.ok.inj h).symm
  | cons name rest ih =>
    obtain ⟨next, hStep, hRest⟩ := walk_cons_eq_ok_iff.mp h
    obtain ⟨-, rfl, -⟩ := step_eq_ok_iff.mp hStep
    exact ih hRest

/-- The empty name can be followed in a folder, and leads nowhere else. -/
theorem walk_blank_eq_ok_iff {t : FileTree} {here l : Location} :
    t.walk here [""] = .ok l ↔ t.node? here = some .folder ∧ l = here := by
  have idle : isIdle "" = true := rfl
  simp [walk_cons_eq_ok_iff, step_eq_ok_iff, Path.follow_blank, idle, @eq_comm _ l]

theorem walk_blanks {t : FileTree} {here : Location} (h : t.node? here = some .folder) (n : Nat) :
    t.walk here (List.replicate n "") = .ok here := by
  induction n with
  | zero => rfl
  | succ n ih =>
    rw [List.replicate_succ]
    have idle : isIdle "" = true := rfl
    exact walk_cons_eq_ok_iff.mpr ⟨here, step_eq_ok_iff.mpr ⟨h, rfl, .inl idle⟩, ih⟩

/-- A name leads from a folder to what lies there under that name. -/
theorem walk_name_eq_ok_iff {t : FileTree} {here l : Location} {name : String}
    (h : isName name = true) :
    t.walk here [name] = .ok l ↔
      t.node? here = some .folder ∧ (t.node? (here ++ [name])).isSome ∧ l = here ++ [name] := by
  simp only [walk_cons_eq_ok_iff, step_eq_ok_iff, Path.follow_name h, walk_nil, Except.ok.injEq]
  constructor
  · rintro ⟨next, ⟨folder, rfl, idle | up | there⟩, rfl⟩
    · rw [Path.isName_busy h] at idle
      cases idle
    · exact absurd up (Path.isName_ne_up h)
    · exact ⟨folder, there, rfl⟩
  · rintro ⟨folder, there, rfl⟩
    exact ⟨_, ⟨folder, rfl, .inr (.inr there)⟩, rfl⟩

/-- A walk succeeds in another tree as well if the folders on its way are there, and its end is not
missing. -/
theorem walk_transfer {t next : FileTree} {here l : Location} {names : List String}
    (h : t.walk here names = .ok l)
    (folders : ∀ front, front <+: names →
      t.node? (front.foldl Location.follow here) = some .folder →
      next.node? (front.foldl Location.follow here) = some .folder)
    (present : (t.node? l).isSome → (next.node? l).isSome) : next.walk here names = .ok l := by
  induction names generalizing here with
  | nil => exact h
  | cons name rest ih =>
    obtain ⟨middle, hStep, hRest⟩ := walk_cons_eq_ok_iff.mp h
    obtain ⟨folder, rfl, way⟩ := step_eq_ok_iff.mp hStep
    refine walk_cons_eq_ok_iff.mpr
      ⟨_, step_eq_ok_iff.mpr ⟨folders [] List.nil_prefix folder, rfl, ?_⟩,
        ih hRest fun front isPrefix =>
          folders (name :: front) (List.cons_prefix_cons.mpr ⟨rfl, isPrefix⟩)⟩
    by_cases idle : isIdle name = true
    · exact .inl idle
    by_cases up : name = ".."
    · exact .inr (.inl up)
    have ahead : here.follow name = here ++ [name] := by simp [Location.follow, idle, up]
    rw [← ahead] at way ⊢
    refine .inr (.inr ?_)
    cases rest with
    | nil =>
      obtain rfl : here.follow name = l := Except.ok.inj hRest
      exact present ((way.resolve_left idle).resolve_left up)
    | cons following others =>
      -- The walk goes on from there, so there is a folder.
      obtain ⟨_, goesOn, -⟩ := walk_cons_eq_ok_iff.mp hRest
      have isFolder : next.node? (here.follow name) = some .folder :=
        folders [name] ⟨following :: others, rfl⟩ (step_eq_ok_iff.mp goesOn).1
      rw [isFolder]
      rfl

/-- There are folders on the way of a walk. -/
theorem folder_of_walk {t : FileTree} {here l : Location} {names front : List String}
    (h : t.walk here names = .ok l) (folder : t.node? l = some .folder)
    (isPrefix : front <+: names) :
    t.node? (front.foldl Location.follow here) = some .folder := by
  induction front generalizing here names with
  | nil =>
    cases names with
    | nil =>
      obtain rfl : here = l := Except.ok.inj h
      exact folder
    | cons name rest =>
      obtain ⟨_, hStep, -⟩ := walk_cons_eq_ok_iff.mp h
      exact (step_eq_ok_iff.mp hStep).1
  | cons name front ih =>
    obtain ⟨rest, rfl⟩ := isPrefix
    obtain ⟨middle, hStep, hRest⟩ := walk_cons_eq_ok_iff.mp h
    obtain ⟨-, rfl, -⟩ := step_eq_ok_iff.mp hStep
    exact ih hRest ⟨rest, rfl⟩

/-! ### What a path leads to -/

theorem locate_eq_ok_iff {t : FileTree} {p : Path} {l : Location} :
    t.locate p = .ok l ↔ p.text ≠ "" ∧ t.walk (t.start p) p.segments = .ok l := by
  unfold locate
  split <;> simp_all

theorem locate_eq_goal {t : FileTree} {p : Path} {l : Location} (h : t.locate p = .ok l) :
    l = p.goal t.current :=
  walk_eq_follow (locate_eq_ok_iff.mp h).2

theorem lookup_eq_ok_iff {t : FileTree} {p : Path} {node : Node} :
    t.lookup p = .ok node ↔
      t.locate p = .ok (p.goal t.current) ∧ t.node? (p.goal t.current) = some node := by
  unfold lookup
  rw [bind_eq_ok_iff]
  constructor
  · rintro ⟨l, located, found⟩
    obtain rfl := locate_eq_goal located
    refine ⟨located, ?_⟩
    split at found
    · rename_i there eq
      rw [eq, pure_eq_ok_iff.mp found]
    · cases found
  · rintro ⟨located, found⟩
    refine ⟨_, located, ?_⟩
    rw [found]
    rfl

theorem read_eq_ok_iff {t : FileTree} {p : Path} {content : ByteArray} :
    t.read p = .ok content ↔
      t.locate p = .ok (p.goal t.current) ∧ t.node? (p.goal t.current) = some (.file content) := by
  unfold read
  rw [bind_eq_ok_iff]
  constructor
  · rintro ⟨node, found, eq⟩
    cases node with
    | file other =>
      rw [← pure_eq_ok_iff.mp eq]
      exact lookup_eq_ok_iff.mp found
    | folder => cases eq
  · intro h
    exact ⟨_, lookup_eq_ok_iff.mpr h, rfl⟩

/-- Only a file has a text. -/
theorem exists_lookup_of_readText {t : FileTree} {p : Path} {text : String}
    (h : t.readText p = .ok text) : ∃ content, t.lookup p = .ok (.file content) := by
  obtain ⟨content, isRead, -⟩ := bind_eq_ok_iff.mp h
  exact ⟨content, lookup_eq_ok_iff.mpr (read_eq_ok_iff.mp isRead)⟩

theorem isFile_of_readText {t : FileTree} {p : Path} {text : String}
    (h : t.readText p = .ok text) : t.isFile p = true := by
  obtain ⟨content, found⟩ := exists_lookup_of_readText h
  rw [isFile, found]

theorem isPresent_of_readText {t : FileTree} {p : Path} {text : String}
    (h : t.readText p = .ok text) : t.isPresent p = true := by
  obtain ⟨content, found⟩ := exists_lookup_of_readText h
  rw [isPresent, found]

theorem isFolder_iff {t : FileTree} {p : Path} :
    t.isFolder p = true ↔
      t.locate p = .ok (p.goal t.current) ∧ t.node? (p.goal t.current) = some .folder := by
  rw [← lookup_eq_ok_iff]
  unfold isFolder
  split
  · rename_i h
    simp [h]
  · rename_i h
    simpa using h

/-- A path that leads to a file ends in a name that leads there: behind a file, no name can be
followed, not even the empty one. -/
theorem exists_busy_of_isFile {t : FileTree} {p : Path} (h : t.isFile p = true) :
    ∃ front name, p.segments = front ++ [name] ∧ isIdle name = false := by
  unfold isFile at h
  split at h
  · rename_i content found
    obtain ⟨located, isThere⟩ := lookup_eq_ok_iff.mp found
    obtain ⟨front, name, split⟩ :=
      (List.eq_nil_or_concat' p.segments).resolve_left p.segments_ne_nil
    refine ⟨front, name, split, ?_⟩
    have walked := (locate_eq_ok_iff.mp located).2
    rw [split] at walked
    obtain ⟨middle, -, last⟩ := walk_append_eq_ok_iff.mp walked
    obtain ⟨next, stepped, ended⟩ := walk_cons_eq_ok_iff.mp last
    obtain ⟨folder, rfl, -⟩ := step_eq_ok_iff.mp stepped
    by_contra idle
    rw [Path.follow_idle (by simpa using idle)] at ended
    rw [← Except.ok.inj ended, folder] at isThere
    cases isThere
  · cases h

/-- A file that is reached by way of a folder has the name that its own path gives. -/
theorem fileName?_child_of_isFile {t : FileTree} {p : Path} {name : String}
    (h : t.isFile (p.child name) = true) :
    (p.child name).fileName? = (⟨name⟩ : Path).fileName? := by
  obtain ⟨front, last, split, busy⟩ := exists_busy_of_isFile h
  obtain ⟨lead, joined⟩ := p.exists_segments_child name
  obtain ⟨own, final, ownSplit⟩ :=
    (List.eq_nil_or_concat' (⟨name⟩ : Path).segments).resolve_left (Path.segments_ne_nil _)
  have same : final = last := by
    rw [joined, ownSplit, ← List.append_assoc] at split
    exact List.singleton_inj.mp (List.append_inj_right' split rfl)
  rw [same] at ownSplit
  rw [Path.fileName?_of_segments split busy, Path.fileName?_of_segments ownSplit busy]

/-! ### Files in a folder -/

/-- Files can be named in the folder that a path points to. The empty path stands for the current
folder here, as it does in front of a name. -/
def Opens (t : FileTree) (p : Path) : Prop :=
  t.walk (t.start p) (p.lead ++ [""]) = .ok (p.goal t.current)

theorem opens_iff {t : FileTree} {p : Path} :
    t.Opens p ↔
      t.walk (t.start p) p.lead = .ok (p.goal t.current) ∧
        t.node? (p.goal t.current) = some .folder := by
  unfold Opens
  rw [walk_append_eq_ok_iff]
  constructor
  · rintro ⟨middle, front, back⟩
    obtain ⟨folder, rfl⟩ := walk_blank_eq_ok_iff.mp back
    exact ⟨front, folder⟩
  · rintro ⟨front, folder⟩
    exact ⟨_, front, walk_blank_eq_ok_iff.mpr ⟨folder, rfl⟩⟩

theorem opens_of_isFolder {t : FileTree} {p : Path} (h : t.isFolder p = true) : t.Opens p := by
  obtain ⟨located, isFolder⟩ := isFolder_iff.mp h
  obtain ⟨ne, walked⟩ := locate_eq_ok_iff.mp located
  rcases Path.segments_eq_lead ne with eq | eq
  · exact opens_iff.mpr ⟨eq ▸ walked, isFolder⟩
  · rwa [eq] at walked

/-- The way to a file in a folder goes through the folder. -/
theorem locate_child_eq_ok_iff {t : FileTree} {p : Path} {name : String} {l : Location}
    (h : isName name = true) :
    t.locate (p.child name) = .ok l ↔
      t.Opens p ∧ (t.node? (p.goal t.current ++ [name])).isSome ∧
        l = p.goal t.current ++ [name] := by
  have start : t.start (p.child name) = t.start p :=
    Path.origin_child (Path.isName_flat h) t.current
  rw [locate_eq_ok_iff, start, Path.segments_child (Path.isName_flat h), walk_append_eq_ok_iff,
    opens_iff]
  constructor
  · rintro ⟨-, middle, front, back⟩
    have goal : middle = p.goal t.current :=
      (walk_eq_follow front).trans (Path.foldl_follow_lead p _)
    subst goal
    obtain ⟨folder, there, rfl⟩ := (walk_name_eq_ok_iff h).mp back
    exact ⟨⟨front, folder⟩, there, rfl⟩
  · rintro ⟨⟨front, folder⟩, there, rfl⟩
    exact ⟨Path.text_child_ne (Path.isName_flat h) (Path.isName_ne_empty h), _, front,
      (walk_name_eq_ok_iff h).mpr ⟨folder, there, rfl⟩⟩

theorem read_child_eq_ok_iff {t : FileTree} {p : Path} {name : String} {content : ByteArray}
    (h : isName name = true) :
    t.read (p.child name) = .ok content ↔
      t.Opens p ∧ t.node? (p.goal t.current ++ [name]) = some (.file content) := by
  rw [read_eq_ok_iff, locate_child_eq_ok_iff h, Path.goal_child h]
  constructor
  · rintro ⟨⟨opens, -, -⟩, found⟩
    exact ⟨opens, found⟩
  · rintro ⟨opens, found⟩
    exact ⟨⟨opens, by rw [found]; rfl, rfl⟩, found⟩

end SchemaTypes.FileTree
