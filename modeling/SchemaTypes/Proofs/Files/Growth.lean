import SchemaTypes.Proofs.Files.Walk

/-!
How trees grow.

Operations on trees take nothing away. What lies at a location stays there, or a folder is made
where nothing was, or a file is written where no folder was (`Becomes`). `Grows` says so of a whole
tree, with the locations at which folders are made and those at which files are written; it is what
each operation is known by, whether it succeeds or not. A path that leads somewhere leads there in a
grown tree as well.
-/

namespace SchemaTypes

open SchemaTypes.Path (goal)

/-- What may become of what lies at a location. -/
inductive Becomes (made written : Prop) : Option Node → Option Node → Prop where
  | kept {node : Option Node} : Becomes made written node node
  | folder : made → Becomes made written none (some .folder)
  | file {node : Option Node} {content : ByteArray} : written → node ≠ some .folder →
      Becomes made written node (some (.file content))

namespace Becomes

variable {made written made' written' : Prop} {a b c : Option Node}

theorem trans (h : Becomes made written a b) (h' : Becomes made written b c) :
    Becomes made written a c := by
  cases h' with
  | kept => exact h
  | folder isMade =>
    cases h with
    | kept => exact .folder isMade
  | file isWritten ne =>
    cases h with
    | kept => exact .file isWritten ne
    | folder => exact absurd rfl ne
    | file _ noFolder => exact .file isWritten noFolder

theorem mono (h : Becomes made written a b) (ofMade : made → made')
    (ofWritten : written → written') : Becomes made' written' a b := by
  cases h with
  | kept => exact .kept
  | folder isMade => exact .folder (ofMade isMade)
  | file isWritten ne => exact .file (ofWritten isWritten) ne

theorem folder_right (h : Becomes made written a b) (folder : a = some .folder) :
    b = some .folder := by
  cases h with
  | kept => exact folder
  | folder => rfl
  | file _ ne => exact absurd folder ne

theorem isSome_right (h : Becomes made written a b) (present : a.isSome) : b.isSome := by
  cases h with
  | kept => exact present
  | folder => rfl
  | file => rfl

theorem folder_left (h : Becomes made written a b) (folder : b = some .folder) :
    a = some .folder ∨ (made ∧ a = none) := by
  cases h with
  | kept => exact .inl folder
  | folder isMade => exact .inr ⟨isMade, rfl⟩
  | file => cases folder

theorem file_iff (h : Becomes made written a b) (untouched : ¬ written) (content : ByteArray) :
    b = some (.file content) ↔ a = some (.file content) := by
  cases h with
  | kept => rfl
  | folder => simp
  | file isWritten => exact absurd isWritten untouched

theorem eq (h : Becomes made written a b) (unmade : ¬ made) (untouched : ¬ written) : b = a := by
  cases h with
  | kept => rfl
  | folder isMade => exact absurd isMade unmade
  | file isWritten => exact absurd isWritten untouched

end Becomes

/-- A tree becomes another one in which folders are made and files are written at certain locations,
and nothing else changes. -/
structure Grows (made written : Location → Prop) (t next : FileTree) : Prop where
  current_eq : next.current = t.current
  becomes : ∀ l, Becomes (made l) (written l) (t.node? l) (next.node? l)
  /-- Entries stay in their order. -/
  entries : ∃ added, next.entries.map Prod.fst = t.entries.map Prod.fst ++ added ∧
    ∀ l ∈ added, made l ∨ written l

namespace Grows

variable {made written made' written' : Location → Prop} {t next last : FileTree}

theorem refl (t : FileTree) : Grows made written t t :=
  ⟨rfl, fun _ => .kept, [], by simp, by simp⟩

theorem trans (h : Grows made written t next) (h' : Grows made written next last) :
    Grows made written t last := by
  obtain ⟨added, eq, mem⟩ := h.entries
  obtain ⟨added', eq', mem'⟩ := h'.entries
  refine ⟨h'.current_eq.trans h.current_eq, fun l => (h.becomes l).trans (h'.becomes l),
    added ++ added', by rw [eq', eq, List.append_assoc], fun l hl => ?_⟩
  exact (List.mem_append.mp hl).elim (mem l) (mem' l)

theorem mono (h : Grows made written t next) (ofMade : ∀ l, made l → made' l)
    (ofWritten : ∀ l, written l → written' l) : Grows made' written' t next := by
  obtain ⟨added, eq, mem⟩ := h.entries
  exact ⟨h.current_eq, fun l => (h.becomes l).mono (ofMade l) (ofWritten l), added, eq,
    fun l hl => (mem l hl).imp (ofMade l) (ofWritten l)⟩

/-! ### What stays -/

/-- Folders stay. -/
theorem folder (h : Grows made written t next) {l : Location} :
    t.node? l = some .folder → next.node? l = some .folder :=
  (h.becomes l).folder_right

/-- Nothing goes away. -/
theorem isSome (h : Grows made written t next) {l : Location} :
    (t.node? l).isSome → (next.node? l).isSome :=
  (h.becomes l).isSome_right

/-- A folder that is new was made. -/
theorem made_of_folder (h : Grows made written t next) {l : Location}
    (folder : next.node? l = some .folder) :
    t.node? l = some .folder ∨ (made l ∧ t.node? l = none) :=
  (h.becomes l).folder_left folder

/-- Where no file is written, files stay as they are. -/
theorem file_iff (h : Grows made written t next) {l : Location} (untouched : ¬ written l)
    (content : ByteArray) :
    next.node? l = some (.file content) ↔ t.node? l = some (.file content) :=
  (h.becomes l).file_iff untouched content

/-- Where nothing is made and no file is written, all is as it was. -/
theorem node?_eq (h : Grows made written t next) {l : Location} (unmade : ¬ made l)
    (untouched : ¬ written l) : next.node? l = t.node? l :=
  (h.becomes l).eq unmade untouched

theorem start_eq (h : Grows made written t next) (p : Path) : next.start p = t.start p := by
  rw [FileTree.start, FileTree.start, h.current_eq]

theorem goal_eq (h : Grows made written t next) (p : Path) :
    p.goal next.current = p.goal t.current := by
  rw [h.current_eq]

/-- A walk leads to the same place as before. -/
theorem walk (h : Grows made written t next) {here l : Location} {names : List String}
    (walked : t.walk here names = .ok l) : next.walk here names = .ok l :=
  FileTree.walk_transfer walked (fun _ _ => h.folder) h.isSome

theorem locate (h : Grows made written t next) {p : Path} {l : Location}
    (located : t.locate p = .ok l) : next.locate p = .ok l := by
  rw [FileTree.locate_eq_ok_iff] at located ⊢
  rw [h.start_eq]
  exact ⟨located.1, h.walk located.2⟩

theorem opens (h : Grows made written t next) {p : Path} (opens : t.Opens p) : next.Opens p := by
  unfold FileTree.Opens
  rw [h.start_eq, h.goal_eq]
  exact h.walk opens

theorem isFolder (h : Grows made written t next) {p : Path} (isFolder : t.isFolder p = true) :
    next.isFolder p = true := by
  rw [FileTree.isFolder_iff] at isFolder ⊢
  rw [h.goal_eq]
  exact ⟨h.locate isFolder.1, h.folder isFolder.2⟩

end Grows

/-! ### Single changes -/

theorem map_fst_setEntry (l : Location) (node : Node) (entries : List (Location × Node)) :
    (setEntry l node entries).map Prod.fst = entries.map Prod.fst ∨
      (setEntry l node entries).map Prod.fst = entries.map Prod.fst ++ [l] := by
  induction entries with
  | nil => exact .inr rfl
  | cons entry rest ih =>
    obtain ⟨k, old⟩ := entry
    unfold setEntry
    by_cases eq : k = l
    · simp [eq]
    · simpa [eq] using ih

section Put

variable {made written : Location → Prop} {t : FileTree} {l : Location}

theorem exists_entries_put (node : Node) (allowed : made l ∨ written l) :
    ∃ added, (t.put l node).entries.map Prod.fst = t.entries.map Prod.fst ++ added ∧
      ∀ k ∈ added, made k ∨ written k := by
  rcases map_fst_setEntry l node t.entries with eq | eq
  · exact ⟨[], eq.trans (List.append_nil _).symm, by simp⟩
  · exact ⟨[l], eq, by simpa using allowed⟩

theorem grows_put_folder (free : t.node? l = none) (isMade : made l) :
    Grows made written t (t.put l .folder) := by
  refine ⟨rfl, fun k => ?_, exists_entries_put _ (.inl isMade)⟩
  rw [FileTree.node?_put]
  split
  · rename_i h
    rw [h.1, free]
    exact .folder isMade
  · exact .kept

theorem grows_put_file (noFolder : t.node? l ≠ some .folder) (isWritten : written l)
    (content : ByteArray) : Grows made written t (t.put l (.file content)) := by
  refine ⟨rfl, fun k => ?_, exists_entries_put _ (.inr isWritten)⟩
  rw [FileTree.node?_put]
  split
  · rename_i h
    rw [h.1]
    exact .file isWritten noFolder
  · exact .kept

end Put

end SchemaTypes
