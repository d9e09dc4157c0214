import SchemaTypes.Proofs.Order.Keyed
import SchemaTypes.Proofs.Schema.Registration

/-!
When modules make a storage, and what the storage holds.

`Consistent` puts the rules of registration side by side, as conditions on the modules as a whole;
modules are added one at a time, with two passes over their collections, and succeed exactly when
they are consistent (`ofModules_eq_ok_iff`). The storage then answers every look-up as the modules
declare it (`Storage.Reflects`), and since the rules do not speak of an order, neither does success
or any look-up depend on one (`ofModules_spec`).
-/

namespace SchemaTypes

/-! ### Rules -/

/-- The rules that modules have to keep together. -/
structure Consistent (modules : List Module) : Prop where
  /-- No two modules share a name. -/
  moduleNames : (modules.map (·.name)).Nodup
  /-- No two collections share a name, whichever modules declare them. -/
  names : ((collectionsOf modules).map (·.name)).Nodup
  /-- No two collections share a type name. -/
  typeNames : ((collectionsOf modules).map fun c => typeNameOf c.name).Nodup
  /-- The implicit key, the fields and the relationships of a collection go by different names. -/
  members : ∀ c ∈ collectionsOf modules, c.members.Nodup
  /-- Every relationship leads to a collection of some module. -/
  targets : ∀ c ∈ collectionsOf modules, ∀ r ∈ c.relationships,
    ∃ m ∈ modules, ∃ d ∈ m.collections, d.name = r.target
  /-- Every index is on the primary key, a field or a relationship. -/
  indices : ∀ c ∈ collectionsOf modules, ∀ index ∈ c.indices,
    index = c.primaryKey ∨ (∃ f ∈ c.fields, f.name = index) ∨
      ∃ r ∈ c.relationships, r.member = index

theorem mem_names_collectionsOf_iff {modules : List Module} {name : String} :
    name ∈ (collectionsOf modules).map (·.name) ↔
      ∃ m ∈ modules, ∃ c ∈ m.collections, c.name = name := by
  simp only [collectionsOf, List.mem_map, List.mem_flatMap]
  constructor
  · rintro ⟨c, ⟨m, mem, declared⟩, eq⟩
    exact ⟨m, mem, c, declared, eq⟩
  · rintro ⟨m, mem, c, declared, eq⟩
    exact ⟨c, ⟨m, mem, declared⟩, eq⟩

/-- The rules are those of registration and of closing, with those on module names. -/
theorem consistent_iff {modules : List Module} :
    Consistent modules ↔
      (modules.map (·.name)).Nodup ∧ Compatible (collectionsOf modules) ∧
        (Draft.of (registrationsOf modules)).looseEnd? = none := by
  have collections : (Draft.of (registrationsOf modules)).collections = collectionsOf modules := by
    rw [Draft.collections, Draft.entries_of, map_collection_registrationsOf]
  have looseEnd (compatible : Compatible (collectionsOf modules)) :=
    (Draft.sound_of (map_collection_registrationsOf modules ▸ compatible)).looseEnd?_eq_none_iff
  rw [collections] at looseEnd
  constructor
  · intro h
    have compatible : Compatible (collectionsOf modules) := ⟨h.names, h.typeNames, h.members⟩
    refine ⟨h.moduleNames, compatible, (looseEnd compatible).mpr fun c mem => ⟨?_, ?_⟩⟩
    · intro target isTarget
      obtain ⟨r, hr, rfl⟩ := List.mem_map.mp isTarget
      exact mem_names_collectionsOf_iff.mpr (h.targets c mem r hr)
    · exact fun index isIndex => Collection.hasMember_iff.mpr (h.indices c mem index isIndex)
  · rintro ⟨moduleNames, compatible, noLooseEnd⟩
    have closed := (looseEnd compatible).mp noLooseEnd
    refine ⟨moduleNames, compatible.names, compatible.typeNames, compatible.members, ?_, ?_⟩
    · exact fun c mem r hr =>
        mem_names_collectionsOf_iff.mp ((closed c mem).1 r.target (List.mem_map_of_mem hr))
    · exact fun c mem index isIndex => Collection.hasMember_iff.mp ((closed c mem).2 index isIndex)

instance (modules : List Module) : Decidable (Consistent modules) :=
  decidable_of_iff _ consistent_iff.symm

/-- Modules make a storage if they are consistent, and then exactly one. -/
theorem ofModules_eq_ok_iff {backend : Backend} {modules : List Module} {storage : Storage} :
    Storage.ofModules backend modules = .ok storage ↔
      Consistent modules ∧ storage = ⟨backend, modules, ⟨registrationsOf modules⟩⟩ := by
  have empty : (Assembly.empty backend).draft.Sound := Draft.sound_empty
  simp only [Storage.ofModules, bind_eq_ok_iff, Assembly.addAll_eq_ok_iff List.nodup_nil empty,
    Assembly.finish, map_eq_ok_iff, Draft.close_eq_ok_iff, consistent_iff]
  constructor
  · rintro ⟨last, ⟨names, compatible, rfl⟩, catalog, ⟨closed, rfl⟩, rfl⟩
    exact ⟨⟨names, compatible, closed⟩, by rw [Draft.entries_append]; rfl⟩
  · rintro ⟨⟨names, compatible, closed⟩, rfl⟩
    exact ⟨_, ⟨names, compatible, rfl⟩, _, ⟨closed, rfl⟩, by rw [Draft.entries_append]; rfl⟩

/-! ### Look-ups -/

/-- A storage holds the modules in their order, and a look-up by name gives what they declare under
that name or, if none declares it, nothing. -/
structure Storage.Reflects (storage : Storage) (modules : List Module) : Prop where
  modules_eq : storage.modules = modules
  collections_eq : storage.catalog.collections = collectionsOf modules
  declared : ∀ m ∈ modules, ∀ c ∈ m.collections,
    storage.catalog.find? c.name = some c ∧ storage.catalog.owner? c.name = some m.name ∧
      storage.catalog.contains c.name = true
  undeclared : ∀ name, (∀ m ∈ modules, ∀ c ∈ m.collections, c.name ≠ name) →
    storage.catalog.find? name = none ∧ storage.catalog.owner? name = none ∧
      storage.catalog.contains name = false

theorem Consistent.nodup_registrations {modules : List Module} (h : Consistent modules) :
    ((registrationsOf modules).map (·.collection.name)).Nodup := by
  have := h.names
  rwa [← map_collection_registrationsOf, List.map_map] at this

/-- In a catalog whose names differ, an entry is found by its name. -/
theorem Catalog.entry?_eq_some_iff {catalog : Catalog} {name : String} {r : Registration}
    (nodup : (catalog.entries.map (·.collection.name)).Nodup) :
    catalog.entry? name = some r ↔ r ∈ catalog.entries ∧ r.collection.name = name :=
  find?_key_eq_some_iff (fun r : Registration => r.collection.name) nodup

theorem Catalog.entry?_eq_none_iff {catalog : Catalog} {name : String} :
    catalog.entry? name = none ↔ ∀ r ∈ catalog.entries, r.collection.name ≠ name := by
  unfold entry?
  simp

theorem Consistent.reflects {backend : Backend} {modules : List Module} (h : Consistent modules) :
    (⟨backend, modules, ⟨registrationsOf modules⟩⟩ : Storage).Reflects modules where
  modules_eq := rfl
  collections_eq := map_collection_registrationsOf modules
  declared m mem c declared := by
    have found : Catalog.entry? ⟨registrationsOf modules⟩ c.name = some ⟨m.name, c⟩ :=
      (Catalog.entry?_eq_some_iff h.nodup_registrations).mpr
        ⟨mem_registrationsOf_iff.mpr ⟨m, mem, declared, rfl⟩, rfl⟩
    simp [Catalog.find?, Catalog.owner?, Catalog.contains, found]
  undeclared name unknown := by
    have missing : Catalog.entry? ⟨registrationsOf modules⟩ name = none := by
      refine Catalog.entry?_eq_none_iff.mpr fun r mem => ?_
      obtain ⟨m, mem, declared, -⟩ := mem_registrationsOf_iff.mp mem
      exact unknown m mem r.collection declared
    simp [Catalog.find?, Catalog.owner?, Catalog.contains, missing]

/-! ### Order -/

/-- The same module names and the same declarations, each in any order: modules may be in another
order, and so may the collections of a module. -/
structure SameDeclarations (modules others : List Module) : Prop where
  names : (modules.map (·.name)).Perm (others.map (·.name))
  registrations : (registrationsOf modules).Perm (registrationsOf others)

theorem SameDeclarations.of_perm {modules others : List Module} (perm : modules.Perm others) :
    SameDeclarations modules others :=
  ⟨perm.map _, perm.flatMap_right _⟩

theorem SameDeclarations.symm {modules others : List Module} (h : SameDeclarations modules others) :
    SameDeclarations others modules :=
  ⟨h.names.symm, h.registrations.symm⟩

theorem SameDeclarations.collections {modules others : List Module}
    (h : SameDeclarations modules others) :
    (collectionsOf modules).Perm (collectionsOf others) := by
  have := h.registrations.map (·.collection)
  rwa [map_collection_registrationsOf, map_collection_registrationsOf] at this

/-- The rules do not speak of an order. -/
theorem Consistent.congr {modules others : List Module} (same : SameDeclarations modules others)
    (h : Consistent modules) : Consistent others := by
  have perm := same.collections
  have compatible : Compatible (collectionsOf others) :=
    (Compatible.mk h.names h.typeNames h.members).perm perm
  refine ⟨same.names.nodup_iff.mp h.moduleNames, compatible.names, compatible.typeNames,
    compatible.members, fun c mem r hr => ?_, fun c mem => h.indices c (perm.mem_iff.mpr mem)⟩
  have target := mem_names_collectionsOf_iff.mpr (h.targets c (perm.mem_iff.mpr mem) r hr)
  exact mem_names_collectionsOf_iff.mp ((perm.map _).mem_iff.mp target)

/-- Two storages give the same answers to every look-up by name. -/
def Storage.Agrees (first second : Storage) : Prop :=
  ∀ name, first.catalog.find? name = second.catalog.find? name ∧
    first.catalog.owner? name = second.catalog.owner? name ∧
    first.catalog.contains name = second.catalog.contains name

theorem agrees_of_sameDeclarations {backend : Backend} {modules others : List Module}
    (consistent : Consistent modules) (same : SameDeclarations modules others) :
    (⟨backend, modules, ⟨registrationsOf modules⟩⟩ : Storage).Agrees
      ⟨backend, others, ⟨registrationsOf others⟩⟩ := by
  intro name
  have entry : Catalog.entry? ⟨registrationsOf modules⟩ name =
      Catalog.entry? ⟨registrationsOf others⟩ name :=
    find?_key_perm (fun r : Registration => r.collection.name) same.registrations
      consistent.nodup_registrations
  simp [Catalog.find?, Catalog.owner?, Catalog.contains, entry]

/-- Modules make a storage exactly if they are consistent. The storage reflects them; and whether
there is one, and what it answers to look-ups, does not depend on the order of modules and
collections. -/
theorem ofModules_spec (backend : Backend) (modules : List Module) :
    ((∃ storage, Storage.ofModules backend modules = .ok storage) ↔ Consistent modules) ∧
      (∀ storage, Storage.ofModules backend modules = .ok storage → storage.Reflects modules) ∧
      ∀ others, modules.Perm others ∨ SameDeclarations modules others →
        ((∃ storage, Storage.ofModules backend others = .ok storage) ↔
          ∃ storage, Storage.ofModules backend modules = .ok storage) ∧
        ∀ first second, Storage.ofModules backend modules = .ok first →
          Storage.ofModules backend others = .ok second → first.Agrees second := by
  have succeeds (modules : List Module) :
      (∃ storage, Storage.ofModules backend modules = .ok storage) ↔ Consistent modules := by
    simp [ofModules_eq_ok_iff]
  refine ⟨succeeds modules, fun storage h => ?_, fun others order => ?_⟩
  · obtain ⟨consistent, rfl⟩ := ofModules_eq_ok_iff.mp h
    exact consistent.reflects
  · have same : SameDeclarations modules others := order.elim .of_perm id
    refine ⟨?_, fun first second hFirst hSecond => ?_⟩
    · rw [succeeds, succeeds]
      exact ⟨.congr same.symm, .congr same⟩
    · obtain ⟨consistent, rfl⟩ := ofModules_eq_ok_iff.mp hFirst
      obtain ⟨-, rfl⟩ := ofModules_eq_ok_iff.mp hSecond
      exact agrees_of_sameDeclarations consistent same

/-- A relationship may lead to a collection that a later module declares. -/
example :
    Consistent [
      ⟨"users", [⟨"user_account", none, [⟨"email", .string, false, none⟩],
        [⟨.childOf, "team", none, false⟩], ["email", "id", "team"]⟩]⟩,
      ⟨"teams", [⟨"team", none, [], [], []⟩]⟩] := by
  decide +kernel

end SchemaTypes
