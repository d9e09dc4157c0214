import SchemaTypes.Project.Discovery
import SchemaTypes.Proofs.Files.Walk
import SchemaTypes.Proofs.Order.Keyed
import SchemaTypes.Proofs.Text.ByteOrder

/-!
What is discovered in the folder of the modules.

A folder has one entry for each name that lies directly in it (`FileTree.mem_children_iff`), in the
order of the bytes of the names; `Lists` says so of a list of entries. Discovery gives this list, and
ignore files only take entries out of it (`discover_spec`).
-/

namespace SchemaTypes

/-! ### Names in a folder -/

theorem FileTree.childName?_eq_some_iff {folder l : Location} {name : String} :
    childName? folder l = some name ↔ Path.isName name = true ∧ l = folder ++ [name] := by
  unfold childName?
  constructor
  · intro h
    split at h
    · rename_i inFolder
      obtain ⟨isLast, named⟩ := Option.filter_eq_some_iff.mp h
      obtain ⟨front, rfl⟩ := List.getLast?_eq_some_iff.mp isLast
      rw [List.dropLast_concat] at inFolder
      exact ⟨named, by rw [inFolder]⟩
    · cases h
  · rintro ⟨named, rfl⟩
    rw [if_pos List.dropLast_concat, List.getLast?_concat]
    exact Option.filter_eq_some_iff.mpr ⟨rfl, named⟩

/-- The names in a folder are those of what lies directly in it. -/
theorem FileTree.mem_children_iff {t : FileTree} {folder : Location} {name : String} :
    name ∈ t.children folder ↔
      Path.isName name = true ∧ (t.node? (folder ++ [name])).isSome := by
  have sorted {names : List String} : name ∈ sortKeyed id names ↔ name ∈ names := by
    have sameKeys : name ∈ (sortKeyed id names).map id ↔ name ∈ names.map id :=
      mem_keys_sortKeyed_iff
    rwa [List.map_id, List.map_id] at sameKeys
  have there : (t.node? (folder ++ [name])).isSome ↔
      ∃ entry ∈ t.entries, entry.1 = folder ++ [name] := by
    rw [node?, if_neg (by simp), List.lookup_isSome_iff]
    simp only [beq_iff_eq, @eq_comm _ (folder ++ [name])]
  rw [children, sorted, List.mem_filterMap, there, ← exists_and_left]
  simp only [childName?_eq_some_iff, and_left_comm]

theorem isName_of_mem_children {t : FileTree} {folder : Location} {name : String}
    (h : name ∈ t.children folder) : Path.isName name = true :=
  (FileTree.mem_children_iff.mp h).1

/-! ### Entries -/

/-- The entries of a folder are named for what lies there. -/
theorem mem_entriesOf {t : FileTree} {folder : Path} {e : Entry} (h : e ∈ t.entriesOf folder) :
    Path.isName e.fileName = true ∧ e = Entry.ofName t folder e.fileName := by
  unfold FileTree.entriesOf at h
  split at h
  · obtain ⟨name, mem, rfl⟩ := List.mem_map.mp h
    exact ⟨isName_of_mem_children mem, rfl⟩
  · cases h

theorem entriesOf_of_isFolder {t : FileTree} {folder : Path} (h : t.isFolder folder = true) :
    t.entriesOf folder = (t.children (folder.goal t.current)).map (Entry.ofName t folder) := by
  rw [FileTree.entriesOf, (FileTree.isFolder_iff.mp h).1]

/-- What lies in a folder is found behind the path of the folder. -/
theorem FileTree.locate_child_of_isFolder {t : FileTree} {folder : Path} {name : String}
    (h : t.isFolder folder = true) (named : Path.isName name = true)
    (isThere : (t.node? (folder.goal t.current ++ [name])).isSome) :
    t.locate (folder.child name) = .ok (folder.goal t.current ++ [name]) :=
  (locate_child_eq_ok_iff named).mpr ⟨opens_of_isFolder h, isThere, rfl⟩

/-- The entry of what lies in a folder. -/
theorem Entry.ofName_eq {t : FileTree} {folder : Path} {name : String} {node : Node}
    (isFolder : t.isFolder folder = true) (named : Path.isName name = true)
    (there : t.node? (folder.goal t.current ++ [name]) = some node) :
    Entry.ofName t folder name =
      ⟨folder.child name, name, folderName folder ++ "/" ++ name, decide (node = .folder)⟩ := by
  have located : t.locate (folder.child name) = .ok (folder.goal t.current ++ [name]) :=
    FileTree.locate_child_of_isFolder isFolder named (Option.isSome_of_eq_some there)
  have flag : t.isFolder (folder.child name) = decide (node = .folder) := by
    rw [Bool.eq_iff_iff, FileTree.isFolder_iff, Path.goal_child named, there]
    simp [located]
  rw [Entry.ofName, flag]

/-! ### Discovery -/

theorem discover_eq_ok_iff {t : FileTree} {s : ModuleSettings} {entries : List Entry} :
    discover t s = .ok entries ↔
      t.isFolder s.folder = true ∧ entries = (t.entriesOf s.folder).filter fun e =>
        !(s.obeysIgnoreFiles && Ignore.ignores t s.folder e.path) := by
  unfold discover
  by_cases isFolder : t.isFolder s.folder = true
  · cases s.obeysIgnoreFiles <;> simp [isFolder, @eq_comm _ entries]
  · simp [isFolder]

theorem discover_eq_error {t : FileTree} {s : ModuleSettings} {fault : ProjectFault}
    (h : discover t s = .error fault) : fault = .noFolder s.folder := by
  unfold discover at h
  split at h
  · cases h
  · exact (Except.error.inj h).symm

/-- A list of all that lies directly in a folder, in the order of the bytes of the names. Each path
leads to what it is the entry of. -/
structure Lists (t : FileTree) (folder : Path) (entries : List Entry) : Prop where
  mem_iff : ∀ e, e ∈ entries ↔ ∃ name node, Path.isName name = true ∧
    t.node? (folder.goal t.current ++ [name]) = some node ∧
    e = ⟨folder.child name, name, folderName folder ++ "/" ++ name, decide (node = .folder)⟩
  ascending : entries.Pairwise fun a b =>
    Text.BytesLt a.fileName.toUTF8.data.toList b.fileName.toUTF8.data.toList
  leads : ∀ e ∈ entries, t.locate e.path = .ok (folder.goal t.current ++ [e.fileName])

theorem lists_entriesOf {t : FileTree} {folder : Path} (isFolder : t.isFolder folder = true) :
    Lists t folder (t.entriesOf folder) where
  mem_iff e := by
    rw [entriesOf_of_isFolder isFolder, List.mem_map]
    constructor
    · rintro ⟨name, mem, rfl⟩
      obtain ⟨named, isThere⟩ := FileTree.mem_children_iff.mp mem
      obtain ⟨node, there⟩ := Option.isSome_iff_exists.mp isThere
      exact ⟨name, node, named, there, Entry.ofName_eq isFolder named there⟩
    · rintro ⟨name, node, named, there, rfl⟩
      exact ⟨name, FileTree.mem_children_iff.mpr ⟨named, Option.isSome_of_eq_some there⟩,
        Entry.ofName_eq isFolder named there⟩
  ascending := by
    rw [entriesOf_of_isFolder isFolder, List.pairwise_map]
    exact (ascending_sortKeyed id _).imp Text.bytesLt_toUTF8
  leads e mem := by
    rw [entriesOf_of_isFolder isFolder, List.mem_map] at mem
    obtain ⟨name, mem, rfl⟩ := mem
    obtain ⟨named, isThere⟩ := FileTree.mem_children_iff.mp mem
    exact FileTree.locate_child_of_isFolder isFolder named isThere

/-- Discovery lists what lies in the folder of the modules. If it obeys ignore files, it takes
ignored entries out of the list and leaves the others as they are. -/
theorem discover_spec {t : FileTree} {s : ModuleSettings} (isFolder : t.isFolder s.folder = true) :
    ∃ entries kept, discover t { s with obeysIgnoreFiles := false } = .ok entries ∧
      discover t { s with obeysIgnoreFiles := true } = .ok kept ∧
      Lists t s.folder entries ∧ kept.Sublist entries ∧
      ∀ e ∈ entries, e ∈ kept ↔ Ignore.ignores t s.folder e.path = false := by
  refine ⟨t.entriesOf s.folder,
    (t.entriesOf s.folder).filter fun e => !Ignore.ignores t s.folder e.path,
    discover_eq_ok_iff.mpr ⟨isFolder, ?_⟩, discover_eq_ok_iff.mpr ⟨isFolder, rfl⟩,
    lists_entriesOf isFolder, List.filter_sublist, fun e mem => ?_⟩
  · simp
  · rw [List.mem_filter, Bool.not_eq_true']
    exact and_iff_right mem

/-- A folder with an ignore file, two manifests and a folder that is not empty. -/
def mixedFolder : FileTree where
  entries := [
    (["m"], .folder),
    (["m", "sub"], .folder),
    (["m", "sub", "a.toml"], .file "".toUTF8),
    (["m", "a.toml"], .file "".toUTF8),
    (["m", ".gitignore"], .file "*.toml\n!a.toml\n".toUTF8),
    (["m", "B.toml"], .file "".toUTF8)]
  current := []

/-- What is found in the folder. The ignore file takes out one manifest and spares the other. -/
theorem discover_mixedFolder :
    discover mixedFolder ⟨⟨"./m/"⟩, "toml", "index.toml", true⟩ =
        .ok [⟨⟨"./m/.gitignore"⟩, ".gitignore", "m/.gitignore", false⟩,
          ⟨⟨"./m/a.toml"⟩, "a.toml", "m/a.toml", false⟩, ⟨⟨"./m/sub"⟩, "sub", "m/sub", true⟩] ∧
      Lists mixedFolder ⟨"./m/"⟩
        [⟨⟨"./m/.gitignore"⟩, ".gitignore", "m/.gitignore", false⟩,
          ⟨⟨"./m/B.toml"⟩, "B.toml", "m/B.toml", false⟩,
          ⟨⟨"./m/a.toml"⟩, "a.toml", "m/a.toml", false⟩, ⟨⟨"./m/sub"⟩, "sub", "m/sub", true⟩] := by
  have isFolder : mixedFolder.isFolder ⟨"./m/"⟩ = true := by decide +kernel
  obtain ⟨entries, kept, listed, -, lists, -⟩ :=
    discover_spec (s := ⟨⟨"./m/"⟩, "toml", "index.toml", true⟩) isFolder
  refine ⟨by decide +kernel, ?_⟩
  convert lists
  refine Except.ok.inj (Eq.trans ?_ listed)
  decide +kernel

end SchemaTypes
