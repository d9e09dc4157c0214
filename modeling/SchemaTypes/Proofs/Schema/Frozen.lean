import SchemaTypes.Proofs.Schema.Consistency

/-!
Catalogs that a draft was closed to.

A draft that is reached by registration holds compatible collections, and any compatible collections
can be reached (`Draft.registered_iff`). When such a draft closes, its catalog is frozen: its names
and type names differ, and every reference in it leads to one of its collections
(`Catalog.frozen_iff`). Look-ups in it give what the tables of the draft gave
(`Draft.Sound.entry?_of_close`). The catalog of a storage is frozen (`Consistent.frozen`).
-/

namespace SchemaTypes

/-! ### Drafts -/

/-- The drafts that registration leads to. A collection that is refused leaves the draft as it
was. -/
inductive Draft.Registered : Draft → Prop where
  | empty : Registered .empty
  | register {d next : Draft} {owner : String} {c : Collection} :
      Registered d → d.register owner c = .ok next → Registered next

namespace Draft

theorem Registered.sound {d : Draft} (h : d.Registered) : d.Sound := by
  induction h with
  | empty => exact sound_empty
  | register _ isNext ih =>
    obtain ⟨fits, rfl⟩ := ih.register_eq_ok_iff.mp isNext
    exact ih.push fits

/-- Registration fills the tables in one way. -/
theorem Registered.eq_of {d : Draft} (h : d.Registered) : d = of d.entries := by
  induction h with
  | empty => rfl
  | @register d next owner c registered isNext ih =>
    obtain ⟨-, rfl⟩ := registered.sound.register_eq_ok_iff.mp isNext
    rw [entries_push, of_concat, ← ih]

theorem registered_of_compatible {entries : List Registration}
    (h : Compatible (entries.map (·.collection))) : Registered (of entries) := by
  induction entries using List.reverseRecOn with
  | nil => exact .empty
  | append_singleton rest r ih =>
    rw [List.map_append, List.map_singleton] at h
    have fits : Compatible ((of rest).collections ++ [r.collection]) := by
      rwa [collections, entries_of]
    have isNext : (of rest).register r.owner r.collection = .ok (of (rest ++ [r])) :=
      (sound_of h.of_append_left).register_eq_ok_iff.mpr ⟨fits, of_concat rest r⟩
    exact .register (ih h.of_append_left) isNext

/-- Registration leads to the drafts whose collections are compatible, with the tables that go with
them. -/
theorem registered_iff {d : Draft} :
    d.Registered ↔ Compatible d.collections ∧ d = of d.entries := by
  constructor
  · exact fun h => ⟨h.sound.compatible, h.eq_of⟩
  · rintro ⟨compatible, eq⟩
    exact eq ▸ registered_of_compatible compatible

/-- A catalog keeps no table: searching its list finds what the table of the draft led to. -/
theorem Sound.entry?_of_close {d : Draft} {catalog : Catalog} (h : d.Sound)
    (isClosed : d.close = .ok catalog) (name : String) :
    catalog.entry? name = d.named? name := by
  obtain ⟨-, rfl⟩ := close_eq_ok_iff.mp isClosed
  apply Option.ext
  intro r
  rw [Catalog.entry?_eq_some_iff h.index.nodup, h.named?_eq_some_iff]

end Draft

/-! ### Catalogs -/

namespace Catalog

/-- A catalog to which a draft was closed. -/
def Frozen (catalog : Catalog) : Prop :=
  ∃ d : Draft, d.Registered ∧ d.close = .ok catalog

/-- Frozen catalogs hold compatible collections without loose ends. -/
theorem frozen_iff {catalog : Catalog} :
    catalog.Frozen ↔
      Compatible catalog.collections ∧ (Draft.of catalog.entries).looseEnd? = none := by
  constructor
  · rintro ⟨d, registered, isClosed⟩
    obtain ⟨closed, rfl⟩ := Draft.close_eq_ok_iff.mp isClosed
    exact ⟨registered.sound.compatible, registered.eq_of ▸ closed⟩
  · rintro ⟨compatible, closed⟩
    exact ⟨Draft.of catalog.entries, Draft.registered_of_compatible compatible,
      Draft.close_eq_ok_iff.mpr ⟨closed, by rw [Draft.entries_of]⟩⟩

instance (catalog : Catalog) : Decidable catalog.Frozen :=
  decidable_of_iff _ frozen_iff.symm

variable {catalog : Catalog} {name : String} {c d : Collection}

/-! ### Look-ups -/

/-- What is found under a name is called so. -/
theorem name_of_find? (h : catalog.find? name = some c) : c.name = name := by
  obtain ⟨r, found, rfl⟩ := Option.map_eq_some_iff.mp h
  simpa using List.find?_some found

theorem typeName_of_find? (h : catalog.find? name = some c) : c.typeName = typeNameOf name := by
  rw [Collection.typeName, name_of_find? h]

theorem mem_of_find? (h : catalog.find? name = some c) : c ∈ catalog.collections := by
  obtain ⟨r, found, rfl⟩ := Option.map_eq_some_iff.mp h
  exact List.mem_map_of_mem (List.mem_of_find?_eq_some found)

theorem contains_iff : catalog.contains name = true ↔ ∃ c, catalog.find? name = some c := by
  unfold contains find?
  cases catalog.entry? name <;> simp

/-- A collection can be found if some collection is called so. -/
theorem exists_find?_iff :
    (∃ c, catalog.find? name = some c) ↔ name ∈ catalog.collections.map (·.name) := by
  constructor
  · rintro ⟨c, found⟩
    exact List.mem_map.mpr ⟨c, mem_of_find? found, name_of_find? found⟩
  · intro mem
    rw [← Option.isSome_iff_exists, find?, Option.isSome_map, entry?, List.find?_isSome]
    simpa [collections] using mem

namespace Frozen

/-- In a frozen catalog each collection is found under its name. -/
theorem find?_eq_some_iff (h : catalog.Frozen) :
    catalog.find? name = some c ↔ c ∈ catalog.collections ∧ c.name = name := by
  constructor
  · exact fun found => ⟨mem_of_find? found, name_of_find? found⟩
  · rintro ⟨mem, rfl⟩
    obtain ⟨r, isEntry, rfl⟩ := List.mem_map.mp mem
    obtain ⟨draft, registered, isClosed⟩ := h
    have sound := registered.sound
    have found : draft.named? r.collection.name = some r := by
      obtain ⟨-, rfl⟩ := Draft.close_eq_ok_iff.mp isClosed
      exact sound.named?_eq_some_iff.mpr ⟨isEntry, rfl⟩
    rw [find?, sound.entry?_of_close isClosed, found]
    rfl

/-- Different collections have different type names. -/
theorem eq_of_typeName_eq (h : catalog.Frozen) (hc : c ∈ catalog.collections)
    (hd : d ∈ catalog.collections) (eq : c.typeName = d.typeName) : c = d :=
  List.inj_on_of_nodup_map (frozen_iff.mp h).1.typeNames hc hd eq

/-- References lead to collections of the catalog. -/
theorem exists_target (h : catalog.Frozen) (hc : c ∈ catalog.collections) {r : Relationship}
    (hr : r ∈ c.relationships) : ∃ target, catalog.find? r.target = some target := by
  obtain ⟨compatible, closed⟩ := frozen_iff.mp h
  have collections : (Draft.of catalog.entries).collections = catalog.collections := by
    rw [Draft.collections, Draft.entries_of, Catalog.collections]
  rw [(Draft.sound_of compatible).looseEnd?_eq_none_iff, collections] at closed
  exact exists_find?_iff.mpr ((closed c hc).1 r.target (List.mem_map_of_mem hr))

end Frozen

end Catalog

/-- The catalog of a storage is frozen. -/
theorem Consistent.frozen {modules : List Module} (h : Consistent modules) :
    (⟨registrationsOf modules⟩ : Catalog).Frozen := by
  obtain ⟨-, compatible, closed⟩ := consistent_iff.mp h
  refine Catalog.frozen_iff.mpr ⟨?_, closed⟩
  rw [Catalog.collections, map_collection_registrationsOf]
  exact compatible

end SchemaTypes
