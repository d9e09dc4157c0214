import SchemaTypes.Proofs.Schema.Consistency
import SchemaTypes.Proofs.Schema.Refusal

/-!
Why modules make no storage.

Registration stops at the first module whose name is taken, or at the first collection that is
refused (`Reached`): all that comes before registers. References and indices are looked at only when
all modules are registered. `fault_of_ofModules` reads this off the fault: whatever a fault says
holds of the modules, and nothing before what it names is at fault.
-/

namespace SchemaTypes

/-! ### Registering -/

/-- Modules that are all registered, with their names and their collections. -/
def Registers (backend : Backend) (modules : List Module) : Prop :=
  ∃ last, (Assembly.empty backend).addAll modules = .ok last

/-- Registration begins with nothing, so what it comes to is that the names of modules differ and
their collections fit together. -/
theorem addAll_empty_eq_ok_iff {backend : Backend} {modules : List Module} {last : Assembly} :
    (Assembly.empty backend).addAll modules = .ok last ↔
      (modules.map (·.name)).Nodup ∧ Compatible (collectionsOf modules) ∧
        last = ⟨backend, modules.map (·.name), modules, Draft.of (registrationsOf modules)⟩ :=
  Assembly.addAll_eq_ok_iff List.nodup_nil Draft.sound_empty

theorem registers_iff {backend : Backend} {modules : List Module} :
    Registers backend modules ↔
      (modules.map (·.name)).Nodup ∧ Compatible (collectionsOf modules) := by
  simp [Registers, addAll_empty_eq_ok_iff]

/-- A collection that registration reaches: all that the modules declare before it is registered,
and so is the name of its module. -/
structure Reached (backend : Backend) (modules : List Module) where
  before : List Module
  current : Module
  after : List Module
  front : List Collection
  collection : Collection
  back : List Collection
  modules_eq : modules = before ++ current :: after
  collections_eq : current.collections = front ++ collection :: back
  registers : Registers backend (before ++ [{ current with collections := front }])

namespace Reached

variable {backend : Backend} {modules : List Module}

/-- What is registered before a collection is reached. -/
def earlier (here : Reached backend modules) : List Registration :=
  registrationsOf (here.before ++ [{ here.current with collections := here.front }])

theorem earlier_eq (here : Reached backend modules) :
    here.earlier = registrationsOf here.before ++
      here.front.map (⟨here.current.name, ·⟩) := by
  simp [earlier, registrationsOf, Module.registrations]

end Reached

/-! ### Loose ends -/

/-- A collection without loose ends, where some names are declared. -/
structure Tied (names : List String) (c : Collection) : Prop where
  targets : ∀ r ∈ c.relationships, r.target ∈ names
  indices : ∀ index ∈ c.indices, c.hasMember index = true

namespace Draft

variable {d : Draft} {c : Collection} {fault : SchemaFault}

theorem Sound.dangling?_eq_none_iff (h : d.Sound) :
    d.dangling? c = none ↔ ∀ r ∈ c.relationships, r.target ∈ d.collections.map (·.name) := by
  simp [dangling?, Collection.targets, h.contains_iff]

theorem misplaced?_eq_none_iff :
    misplaced? c = none ↔ ∀ index ∈ c.indices, c.hasMember index = true := by
  simp [misplaced?]

theorem Sound.tied_iff (h : d.Sound) :
    (d.dangling? c).or (misplaced? c) = none ↔ Tied (d.collections.map (·.name)) c := by
  rw [Option.or_eq_none_iff, h.dangling?_eq_none_iff, misplaced?_eq_none_iff]
  exact ⟨fun ⟨targets, indices⟩ => ⟨targets, indices⟩, fun ⟨targets, indices⟩ => ⟨targets, indices⟩⟩

/-- The fault in the references and indices of collections is in the first that has a loose end, and
its references count before its indices. -/
theorem Sound.exists_of_looseEnd? (h : d.Sound) (loose : d.looseEnd? = some fault) :
    ∃ front c back, d.collections = front ++ c :: back ∧
      (∀ q ∈ front, Tied (d.collections.map (·.name)) q) ∧
      ((∃ r ∈ c.relationships, r.target ∉ d.collections.map (·.name) ∧
          fault = .unknownCollection r.target c.name) ∨
        (∀ r ∈ c.relationships, r.target ∈ d.collections.map (·.name)) ∧
          ∃ index ∈ c.indices, c.hasMember index = false ∧ fault = .unknownIndex c.name index) := by
  obtain ⟨front, q, back, split, isLoose, tied⟩ := List.findSome?_eq_some_iff.mp loose
  refine ⟨front.map (·.collection), q.collection, back.map (·.collection), ?_, ?_, ?_⟩
  · rw [collections, split, List.map_append, List.map_cons]
  · intro other mem
    obtain ⟨p, isFront, rfl⟩ := List.mem_map.mp mem
    exact h.tied_iff.mp (tied p isFront)
  · rcases Option.or_eq_some_iff.mp isLoose with dangling | ⟨noneDangling, misplaced⟩
    · obtain ⟨target, found, rfl⟩ := Option.map_eq_some_iff.mp dangling
      obtain ⟨r, isRelationship, rfl⟩ := List.mem_map.mp (List.mem_of_find?_eq_some found)
      have missing : d.contains r.target = false := by simpa using List.find?_some found
      refine .inl ⟨r, isRelationship, ?_, rfl⟩
      rw [← h.contains_iff, missing]
      exact Bool.false_ne_true
    · obtain ⟨index, found, rfl⟩ := Option.map_eq_some_iff.mp misplaced
      refine .inr ⟨h.dangling?_eq_none_iff.mp noneDangling, index,
        List.mem_of_find?_eq_some found, ?_, rfl⟩
      simpa using List.find?_some found

end Draft

/-! ### Faults -/

theorem collections_of (entries : List Registration) :
    (Draft.of entries).collections = entries.map (·.collection) := by
  rw [Draft.collections, Draft.entries_of]

/-- When modules make no storage, a module is reached whose name is taken, or a collection that is
refused; or all is registered, and there is a loose end. -/
theorem stop_of_ofModules {backend : Backend} {modules : List Module} {fault : SchemaFault}
    (failed : Storage.ofModules backend modules = .error fault) :
    (∃ before m after, modules = before ++ m :: after ∧ Registers backend before ∧
        m.name ∈ before.map (·.name) ∧ fault = .duplicateModuleName m.name) ∨
      (∃ (here : Reached backend modules) (next : Draft),
        (Draft.of here.earlier).Verdict here.current.name here.collection next (some fault)) ∨
      Registers backend modules ∧ (Draft.of (registrationsOf modules)).Sound ∧
        (Draft.of (registrationsOf modules)).looseEnd? = some fault := by
  rcases exists_of_ofModules_eq_error failed with
    ⟨before, m, after, last, next, split, joined, refused⟩ | ⟨last, joined, loose⟩
  · obtain ⟨names, compatible, rfl⟩ := addAll_empty_eq_ok_iff.mp joined
    cases refused with
    | nameTaken taken => exact .inl ⟨before, m, after, split, ⟨_, joined⟩, taken, rfl⟩
    | @collectionRefused front back c draft _ fresh splitCollections fits isDraft verdict =>
      rw [collections_of, map_collection_registrationsOf] at fits
      let here : Reached backend modules := {
        before, current := m, after, front, collection := c, back
        modules_eq := split
        collections_eq := splitCollections
        registers := registers_iff.mpr
          ⟨nodup_map_concat_iff.mpr ⟨names, fresh⟩, by simpa [collectionsOf] using fits⟩ }
      have reached : draft = Draft.of here.earlier := by
        rw [isDraft, here.earlier_eq]
        exact (Draft.append_append .empty _ _).symm
      exact .inr (.inl ⟨here, draft, reached ▸ verdict⟩)
  · obtain ⟨-, compatible, rfl⟩ := addAll_empty_eq_ok_iff.mp joined
    have sound : (Draft.of (registrationsOf modules)).Sound :=
      Draft.sound_of (map_collection_registrationsOf modules ▸ compatible)
    exact .inr (.inr ⟨⟨_, joined⟩, sound, loose⟩)

/-- The fault of modules that make no storage is true of them.

The name of a module is reported if a module before has it. A collection is reported if one of this
name, or of another name with the same type name, was declared before, or if a name occurs twice
among its members. Everything before the one that is reported is registered. A reference is reported
if nobody declares its target, and an index if it is on no member, and only if all modules are
registered and no collection before has a loose end; references count before indices. No storage is
refused because a collection is asked for that is not registered. -/
theorem fault_of_ofModules {backend : Backend} {modules : List Module} {fault : SchemaFault}
    (failed : Storage.ofModules backend modules = .error fault) :
    match fault with
    | .duplicateModuleName name =>
      ∃ before m after, modules = before ++ m :: after ∧ Registers backend before ∧
        m.name = name ∧ ∃ n ∈ before, n.name = name
    | .duplicateCollection name owner other =>
      ∃ here : Reached backend modules, here.current.name = owner ∧ here.collection.name = name ∧
        ∃ r ∈ here.earlier, r.owner = other ∧ r.collection.name = name
    | .duplicateTypeName typeName name other =>
      ∃ here : Reached backend modules, here.collection.name = name ∧
        (∃ r ∈ here.earlier, r.collection.name = other) ∧ name ≠ other ∧
        typeNameOf name = typeName ∧ typeNameOf other = typeName
    | .duplicateMember name member =>
      ∃ here : Reached backend modules, here.collection.name = name ∧
        2 ≤ here.collection.members.count member
    | .unknownCollection name referrer =>
      Registers backend modules ∧ ∃ front c back, collectionsOf modules = front ++ c :: back ∧
        (∀ d ∈ front, Tied ((collectionsOf modules).map (·.name)) d) ∧ c.name = referrer ∧
        (∃ r ∈ c.relationships, r.target = name) ∧
        ∀ m ∈ modules, ∀ d ∈ m.collections, d.name ≠ name
    | .unknownIndex name member =>
      Registers backend modules ∧ ∃ front c back, collectionsOf modules = front ++ c :: back ∧
        (∀ d ∈ front, Tied ((collectionsOf modules).map (·.name)) d) ∧ c.name = name ∧
        (∀ r ∈ c.relationships, ∃ m ∈ modules, ∃ d ∈ m.collections, d.name = r.target) ∧
        member ∈ c.indices ∧ member ≠ c.primaryKey ∧ (∀ f ∈ c.fields, f.name ≠ member) ∧
        ∀ r ∈ c.relationships, r.member ≠ member
    | .notRegistered _ => False := by
  rcases stop_of_ofModules failed with
    ⟨before, m, after, split, registers, taken, rfl⟩ | ⟨here, next, verdict⟩ |
      ⟨registers, sound, loose⟩
  · exact ⟨before, m, after, split, registers, rfl, List.mem_map.mp taken⟩
  · cases verdict with
    | nameTaken mem eq =>
      rw [Draft.entries_of] at mem
      exact ⟨here, rfl, rfl, _, mem, rfl, eq⟩
    | typeNameTaken newName mem eq =>
      rw [Draft.entries_of] at mem
      exact ⟨here, rfl, ⟨_, mem, rfl⟩, (newName _ (by rwa [Draft.entries_of])).symm, rfl, eq⟩
    | @memberRepeats front back member _ _ split _ mem =>
      refine ⟨here, rfl, ?_⟩
      rw [split, List.count_append, List.count_cons_self]
      have := List.one_le_count_iff.mpr mem
      omega
  · obtain ⟨front, c, back, split, tied, loose⟩ := sound.exists_of_looseEnd? loose
    rw [collections_of, map_collection_registrationsOf] at split
    simp only [collections_of, map_collection_registrationsOf] at tied loose
    rcases loose with ⟨r, isRelationship, missing, rfl⟩ | ⟨targets, index, isIndex, misplaced, rfl⟩
    · refine ⟨registers, front, c, back, split, tied, rfl, ⟨r, isRelationship, rfl⟩, ?_⟩
      intro m mem d declared eq
      exact missing (mem_names_collectionsOf_iff.mpr ⟨m, mem, d, declared, eq⟩)
    · have noMember : ¬ c.hasMember index = true := by simp [misplaced]
      rw [Collection.hasMember_iff, not_or, not_or] at noMember
      obtain ⟨noKey, noField, noRelationship⟩ := noMember
      refine ⟨registers, front, c, back, split, tied, rfl,
        fun r mem => mem_names_collectionsOf_iff.mp (targets r mem), isIndex, noKey,
        fun f mem eq => noField ⟨f, mem, eq⟩, fun r mem eq => noRelationship ⟨r, mem, eq⟩⟩

/-- A reference of the first collection leads nowhere, but what is reported is that the last one has
the type name of the first. Without the last one, the reference is reported. -/
theorem fault_of_ofModules_profiles :
    let profile : Collection := ⟨"user_profile", none, [], [⟨.childOf, "ghost", none, false⟩], []⟩
    let team : Collection := ⟨"team", none, [], [], ["id"]⟩
    let other : Collection := ⟨"userProfile", none, [], [], []⟩
    let modules : List Module := [⟨"Users", [profile]⟩, ⟨"Teams", [team, other]⟩]
    let fewer : List Module := [⟨"Users", [profile]⟩, ⟨"Teams", [team]⟩]
    (Storage.ofModules .memory modules =
        .error (.duplicateTypeName "UserProfile" "userProfile" "user_profile") ∧
      (∃ here : Reached .memory modules, here.collection.name = "userProfile" ∧
        (∃ r ∈ here.earlier, r.collection.name = "user_profile") ∧
        typeNameOf "userProfile" = typeNameOf "user_profile")) ∧
    Storage.ofModules .memory fewer = .error (.unknownCollection "ghost" "user_profile") ∧
      Registers .memory fewer ∧
      ∀ m ∈ fewer, ∀ c ∈ m.collections, c.name ≠ "ghost" := by
  intro profile team other modules fewer
  have refused : Storage.ofModules .memory modules =
      .error (.duplicateTypeName "UserProfile" "userProfile" "user_profile") := by
    decide +kernel
  have loose : Storage.ofModules .memory fewer =
      .error (.unknownCollection "ghost" "user_profile") := by
    decide +kernel
  obtain ⟨here, name, earlier, -, typeName, otherTypeName⟩ := fault_of_ofModules refused
  obtain ⟨registers, _, _, _, _, _, _, _, undeclared⟩ := fault_of_ofModules loose
  exact ⟨⟨refused, here, name, earlier, typeName.trans otherTypeName.symm⟩, loose, registers,
    undeclared⟩

end SchemaTypes
