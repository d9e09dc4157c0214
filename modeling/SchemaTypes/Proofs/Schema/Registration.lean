import SchemaTypes.Schema.Storage
import SchemaTypes.Proofs.Order.Keyed
import SchemaTypes.Proofs.Outcome

/-!
What registration accepts.

A draft grows by one collection at a time, and its tables of positions grow with it
(`Draft.Sound.push`), so that a look-up by way of a table finds what is registered. `Compatible`
says which collections can stand in one draft, whatever their order of arrival, and each step of
registration succeeds exactly when the collections stay compatible:

* `Draft.Sound.add_eq_none_iff` for one collection,
* `Draft.Sound.registerAll_eq_none_iff` for those of a module,
* `Assembly.addAll_eq_ok_iff` for modules, whose own names have to differ too.

`Draft.close_eq_ok_iff` tells what is left to check in the end.
-/

namespace SchemaTypes

/-! ### Collections that fit together -/

/-- Collections that one draft can hold: no two share a name or a type name, and none has a member
twice. -/
structure Compatible (collections : List Collection) : Prop where
  names : (collections.map (·.name)).Nodup
  typeNames : (collections.map (·.typeName)).Nodup
  members : ∀ c ∈ collections, c.members.Nodup

instance (collections : List Collection) : Decidable (Compatible collections) :=
  decidable_of_iff
    ((collections.map (·.name)).Nodup ∧ (collections.map (·.typeName)).Nodup ∧
      ∀ c ∈ collections, c.members.Nodup)
    ⟨fun h => ⟨h.1, h.2.1, h.2.2⟩, fun h => ⟨h.names, h.typeNames, h.members⟩⟩

/-- Being compatible does not depend on the order. -/
theorem Compatible.perm {cs ds : List Collection} (h : Compatible cs) (perm : cs.Perm ds) :
    Compatible ds :=
  ⟨(perm.map _).nodup_iff.mp h.names, (perm.map _).nodup_iff.mp h.typeNames,
    fun c mem => h.members c (perm.mem_iff.mpr mem)⟩

theorem Compatible.of_append_left {cs ds : List Collection} (h : Compatible (cs ++ ds)) :
    Compatible cs := by
  refine ⟨?_, ?_, fun c mem => h.members c (List.mem_append_left _ mem)⟩
  · exact (List.map_append ▸ h.names).of_append_left
  · exact (List.map_append ▸ h.typeNames).of_append_left

/-- One more collection fits if its names are new and its own members differ. -/
theorem compatible_concat_iff {cs : List Collection} {c : Collection} :
    Compatible (cs ++ [c]) ↔
      Compatible cs ∧ c.name ∉ cs.map (·.name) ∧ c.typeName ∉ cs.map (·.typeName) ∧
        c.members.Nodup := by
  constructor
  · intro h
    exact ⟨h.of_append_left, (nodup_map_concat_iff.mp h.names).2,
      (nodup_map_concat_iff.mp h.typeNames).2, h.members c (by simp)⟩
  · rintro ⟨h, name, typeName, members⟩
    refine ⟨nodup_map_concat_iff.mpr ⟨h.names, name⟩,
      nodup_map_concat_iff.mpr ⟨h.typeNames, typeName⟩, fun d mem => ?_⟩
    rcases List.mem_append.mp mem with mem | mem
    · exact h.members d mem
    · rw [List.mem_singleton.mp mem]
      exact members

/-- No name repeats an earlier one if they all differ and none has been seen. -/
theorem firstRepeat_eq_none_iff {seen names : List String} :
    firstRepeat seen names = none ↔ names.Nodup ∧ ∀ name ∈ names, name ∉ seen := by
  induction names generalizing seen with
  | nil => simp [firstRepeat]
  | cons name rest ih =>
    unfold firstRepeat
    by_cases mem : name ∈ seen
    · simp [mem]
    · rw [if_neg (by simpa using mem), ih, List.nodup_cons]
      constructor
      · rintro ⟨nodup, fresh⟩
        have notMem : name ∉ rest := fun h => fresh name h List.mem_cons_self
        refine ⟨⟨notMem, nodup⟩, fun other h => ?_⟩
        rcases List.mem_cons.mp h with rfl | h
        · exact mem
        · exact fun seenOther => fresh other h (List.mem_cons_of_mem _ seenOther)
      · rintro ⟨⟨notMem, nodup⟩, fresh⟩
        refine ⟨nodup, fun other h seenOther => ?_⟩
        rcases List.mem_cons.mp seenOther with rfl | seenOther
        · exact notMem h
        · exact fresh other (List.mem_cons_of_mem _ h) seenOther

namespace Draft

/-! ### Drafts in step with their tables -/

/-- The collections of a draft, in the order of their registration. -/
def collections (d : Draft) : List Collection :=
  d.entries.map (·.collection)

/-- Put some collections behind the others. -/
def append (d : Draft) (rs : List Registration) : Draft :=
  rs.foldl push d

/-- The draft of some registrations. -/
def of (entries : List Registration) : Draft :=
  empty.append entries

@[simp] theorem entries_push (d : Draft) (r : Registration) :
    (d.push r).entries = d.entries ++ [r] := rfl

@[simp] theorem append_nil (d : Draft) : d.append [] = d := rfl

@[simp] theorem append_cons (d : Draft) (r : Registration) (rs : List Registration) :
    d.append (r :: rs) = (d.push r).append rs := rfl

theorem append_append (d : Draft) (rs qs : List Registration) :
    d.append (rs ++ qs) = (d.append rs).append qs :=
  List.foldl_append

theorem of_concat (entries : List Registration) (r : Registration) :
    of (entries ++ [r]) = (of entries).push r :=
  append_append empty entries [r]

@[simp] theorem entries_append (d : Draft) (rs : List Registration) :
    (d.append rs).entries = d.entries ++ rs := by
  induction rs generalizing d with
  | nil => simp
  | cons r rest ih => rw [append_cons, ih, entries_push, List.append_assoc, List.singleton_append]

@[simp] theorem entries_of (entries : List Registration) : (of entries).entries = entries :=
  entries_append empty entries

@[simp] theorem collections_push (d : Draft) (r : Registration) :
    (d.push r).collections = d.collections ++ [r.collection] :=
  List.map_append

@[simp] theorem collections_append (d : Draft) (rs : List Registration) :
    (d.append rs).collections = d.collections ++ rs.map (·.collection) := by
  rw [collections, entries_append, List.map_append, collections]

theorem map_name_collections (d : Draft) :
    d.collections.map (·.name) = d.entries.map (·.collection.name) :=
  List.map_map

theorem map_typeName_collections (d : Draft) :
    d.collections.map (·.typeName) = d.entries.map (·.collection.typeName) :=
  List.map_map

/-- The tables of a draft tell where its names and type names stand, and none of its collections has
a member twice. -/
structure Sound (d : Draft) : Prop where
  index : Locates d.index (d.entries.map (·.collection.name))
  typeNames : Locates d.typeNames (d.entries.map (·.collection.typeName))
  members : ∀ c ∈ d.collections, c.members.Nodup

theorem sound_empty : empty.Sound :=
  ⟨.nil, .nil, by simp [collections, empty]⟩

variable {d next : Draft} {owner name typeName : String} {c : Collection} {rs : List Registration}

theorem Sound.compatible (h : d.Sound) : Compatible d.collections where
  names := d.map_name_collections ▸ h.index.nodup
  typeNames := d.map_typeName_collections ▸ h.typeNames.nodup
  members := h.members

/-- A collection that fits goes into the tables where it goes into the list. -/
theorem Sound.push (h : d.Sound) (fits : Compatible (d.collections ++ [c])) :
    (d.push ⟨owner, c⟩).Sound := by
  obtain ⟨-, name, typeName, members⟩ := compatible_concat_iff.mp fits
  rw [map_name_collections] at name
  rw [map_typeName_collections] at typeName
  refine ⟨?_, ?_, ?_⟩
  · simpa [Draft.push] using h.index.concat name
  · simpa [Draft.push] using h.typeNames.concat typeName
  · rw [collections_push]
    exact fits.members

theorem Sound.append (h : d.Sound) (fits : Compatible (d.collections ++ rs.map (·.collection))) :
    (d.append rs).Sound := by
  induction rs generalizing d with
  | nil => exact h
  | cons r rest ih =>
    rw [List.map_cons, List.append_cons] at fits
    have pushed : (d.push r).Sound := h.push fits.of_append_left
    exact ih pushed (by rwa [collections_push])

theorem sound_of {entries : List Registration} (fits : Compatible (entries.map (·.collection))) :
    (of entries).Sound :=
  sound_empty.append fits

/-! ### Look-ups by way of the tables -/

namespace Sound

theorem named?_eq_some_iff (h : d.Sound) {r : Registration} :
    d.named? name = some r ↔ r ∈ d.entries ∧ r.collection.name = name :=
  h.index.getElem?_eq_some_iff

theorem named?_eq_none_iff (h : d.Sound) :
    d.named? name = none ↔ name ∉ d.collections.map (·.name) := by
  rw [map_name_collections]
  exact h.index.getElem?_eq_none_iff

theorem typed?_eq_some_iff (h : d.Sound) {r : Registration} :
    d.typed? typeName = some r ↔ r ∈ d.entries ∧ r.collection.typeName = typeName :=
  h.typeNames.getElem?_eq_some_iff

theorem typed?_eq_none_iff (h : d.Sound) :
    d.typed? typeName = none ↔ typeName ∉ d.collections.map (·.typeName) := by
  rw [map_typeName_collections]
  exact h.typeNames.getElem?_eq_none_iff

theorem contains_iff (h : d.Sound) :
    d.contains name = true ↔ name ∈ d.collections.map (·.name) := by
  rw [map_name_collections, contains, Option.isSome_iff_ne_none, ne_eq, h.index.lookup_eq_none_iff,
    not_not]

/-! ### One collection -/

/-- A collection meets no objection if its names are new and its members differ. -/
theorem objection?_eq_none_iff (h : d.Sound) :
    d.objection? owner c = none ↔
      c.name ∉ d.collections.map (·.name) ∧ c.typeName ∉ d.collections.map (·.typeName) ∧
        c.members.Nodup := by
  rw [← h.named?_eq_none_iff, ← h.typed?_eq_none_iff]
  unfold objection?
  cases d.named? c.name with
  | some existing => simp
  | none =>
    cases d.typed? c.typeName with
    | some existing => simp
    | none => simp [firstRepeat_eq_none_iff]

/-- A collection is registered, after all others, if they stay compatible with it. -/
theorem add_eq_none_iff (h : d.Sound) :
    d.add owner c = (next, none) ↔
      Compatible (d.collections ++ [c]) ∧ next = d.push ⟨owner, c⟩ := by
  rw [compatible_concat_iff, ← @objection?_eq_none_iff d owner c h]
  unfold Draft.add
  cases d.objection? owner c with
  | some fault => simp
  | none => simp [h.compatible, eq_comm]

theorem register_eq_ok_iff (h : d.Sound) :
    d.register owner c = .ok next ↔
      Compatible (d.collections ++ [c]) ∧ next = d.push ⟨owner, c⟩ := by
  rw [← h.add_eq_none_iff]
  unfold register
  rcases d.add owner c with ⟨_, _ | fault⟩ <;> simp

end Sound

end Draft

/-! ### The collections of a module -/

/-- What a module registers. -/
def Module.registrations (m : Module) : List Registration :=
  m.collections.map (⟨m.name, ·⟩)

/-- The collections that modules declare, in the order of the modules. -/
def collectionsOf (modules : List Module) : List Collection :=
  modules.flatMap (·.collections)

/-- What modules register, in the order of the modules. -/
def registrationsOf (modules : List Module) : List Registration :=
  modules.flatMap (·.registrations)

@[simp] theorem collectionsOf_cons (m : Module) (modules : List Module) :
    collectionsOf (m :: modules) = m.collections ++ collectionsOf modules := rfl

@[simp] theorem registrationsOf_cons (m : Module) (modules : List Module) :
    registrationsOf (m :: modules) = m.registrations ++ registrationsOf modules := rfl

theorem map_collection_registrations (m : Module) :
    m.registrations.map (·.collection) = m.collections := by
  simp [Module.registrations, Function.comp_def]

theorem map_collection_registrationsOf (modules : List Module) :
    (registrationsOf modules).map (·.collection) = collectionsOf modules := by
  simp [registrationsOf, collectionsOf, List.map_flatMap, map_collection_registrations]

theorem mem_registrationsOf_iff {modules : List Module} {r : Registration} :
    r ∈ registrationsOf modules ↔
      ∃ m ∈ modules, r.collection ∈ m.collections ∧ r.owner = m.name := by
  simp only [registrationsOf, Module.registrations, List.mem_flatMap, List.mem_map]
  constructor
  · rintro ⟨m, mem, c, declared, rfl⟩
    exact ⟨m, mem, declared, rfl⟩
  · rintro ⟨m, mem, declared, owner⟩
    exact ⟨m, mem, r.collection, declared, by rw [← owner]⟩

/-- The collections of a module are all registered if they are compatible with one another and with
those that are registered already. -/
theorem Draft.Sound.registerAll_eq_none_iff {d next : Draft} {owner : String}
    {cs : List Collection} (h : d.Sound) :
    d.registerAll owner cs = (next, none) ↔
      Compatible (d.collections ++ cs) ∧ next = d.append (cs.map (⟨owner, ·⟩)) := by
  induction cs generalizing d with
  | nil => simp [registerAll, h.compatible, eq_comm]
  | cons c rest ih =>
    rw [List.append_cons, List.map_cons, append_cons]
    unfold registerAll
    rcases added : d.add owner c with ⟨middle, _ | fault⟩
    · obtain ⟨fits, rfl⟩ := h.add_eq_none_iff.mp added
      rw [ih (h.push fits), collections_push]
    · have clash : ¬ Compatible (d.collections ++ [c]) := fun fits => by
        rw [h.add_eq_none_iff.mpr ⟨fits, rfl⟩] at added
        cases added
      constructor
      · intro h
        cases h
      · rintro ⟨fits, -⟩
        exact absurd fits.of_append_left clash

/-! ### Modules -/

namespace Assembly

/-- A module joins an assembly if its name is new and its collections fit. -/
theorem add_eq_none_iff {a next : Assembly} {m : Module} (sound : a.draft.Sound) :
    a.add m = (next, none) ↔
      m.name ∉ a.names ∧ Compatible (a.draft.collections ++ m.collections) ∧
        next = ⟨a.backend, a.names ++ [m.name], a.modules ++ [m],
          a.draft.append m.registrations⟩ := by
  unfold add
  by_cases taken : m.name ∈ a.names
  · simp [taken]
  · rw [if_neg (by simpa using taken)]
    rcases h : a.draft.registerAll m.name m.collections with ⟨draft, _ | fault⟩
    · obtain ⟨fits, rfl⟩ := sound.registerAll_eq_none_iff.mp h
      simp [taken, fits, Module.registrations, eq_comm]
    · have : ¬ Compatible (a.draft.collections ++ m.collections) := fun fits => by
        rw [sound.registerAll_eq_none_iff.mpr ⟨fits, rfl⟩] at h
        cases h
      simp [this]

/-- Modules join an assembly one after the other if their names differ from one another and from
those that are taken, and all collections fit. -/
theorem addAll_eq_ok_iff {a last : Assembly} {modules : List Module} (names : a.names.Nodup)
    (sound : a.draft.Sound) :
    a.addAll modules = .ok last ↔
      (a.names ++ modules.map (·.name)).Nodup ∧
        Compatible (a.draft.collections ++ collectionsOf modules) ∧
        last = ⟨a.backend, a.names ++ modules.map (·.name), a.modules ++ modules,
          a.draft.append (registrationsOf modules)⟩ := by
  induction modules generalizing a with
  | nil =>
    simp [addAll, collectionsOf, registrationsOf, names, sound.compatible, eq_comm]
  | cons m rest ih =>
    have namesSplit : a.names ++ (m :: rest).map (·.name) =
        (a.names ++ [m.name]) ++ rest.map (·.name) := by simp
    have collectionsSplit : a.draft.collections ++ collectionsOf (m :: rest) =
        (a.draft.collections ++ m.collections) ++ collectionsOf rest := by simp
    unfold addAll
    rcases h : a.add m with ⟨next, _ | fault⟩
    · obtain ⟨fresh, fits, rfl⟩ := (add_eq_none_iff sound).mp h
      have joined := a.draft.collections_append m.registrations
      rw [map_collection_registrations] at joined
      have nextNames : (a.names ++ [m.name]).Nodup :=
        names.append (List.nodup_singleton _) (by simpa using fresh)
      have nextSound : (a.draft.append m.registrations).Sound :=
        sound.append (map_collection_registrations m ▸ fits)
      rw [ih nextNames nextSound, joined, namesSplit, collectionsSplit, registrationsOf_cons,
        Draft.append_append]
      simp
    · -- The first module alone breaks what the whole list would have to keep.
      have broken : ¬ ((a.names ++ (m :: rest).map (·.name)).Nodup ∧
          Compatible (a.draft.collections ++ collectionsOf (m :: rest))) := by
        rintro ⟨nodup, fits⟩
        rw [namesSplit] at nodup
        rw [collectionsSplit] at fits
        have fresh : m.name ∉ a.names := fun mem =>
          (List.nodup_append.mp nodup.of_append_left).2.2 _ mem m.name (by simp) rfl
        rw [(add_eq_none_iff sound).mpr ⟨fresh, fits.of_append_left, rfl⟩] at h
        cases h
      constructor
      · intro h
        cases h
      · rintro ⟨nodup, fits, -⟩
        exact absurd ⟨nodup, fits⟩ broken

end Assembly

/-! ### References and indices -/

/-- A name is a member if it is the primary key, a field or the holder of a relationship. -/
theorem Collection.hasMember_iff {c : Collection} {name : String} :
    c.hasMember name ↔
      name = c.primaryKey ∨ (∃ f ∈ c.fields, f.name = name) ∨
        ∃ r ∈ c.relationships, r.member = name := by
  have key : (∃ f ∈ c.fields, f.name = name) ∨ (c.keyField? = none ∧ name = implicitKey) ↔
      name = c.primaryKey ∨ ∃ f ∈ c.fields, f.name = name := by
    cases h : c.keyField? with
    | none => simp [primaryKey, h, or_comm]
    | some f =>
      have mem : f ∈ c.fields := List.mem_of_find?_eq_some h
      simp only [primaryKey, h, Option.map_some, Option.getD_some, reduceCtorEq, false_and,
        or_false]
      constructor
      · exact .inr
      · rintro (rfl | found)
        · exact ⟨f, mem, rfl⟩
        · exact found
  rw [← or_assoc, ← key]
  cases h : c.keyField? <;>
    simp [hasMember, members, hasKeyField, h, or_assoc, or_comm]

namespace Draft

/-- No end is loose if every reference leads to a registered collection and every index is on a
member. -/
theorem Sound.looseEnd?_eq_none_iff {d : Draft} (h : d.Sound) :
    d.looseEnd? = none ↔
      ∀ c ∈ d.collections,
        (∀ target ∈ c.targets, target ∈ d.collections.map (·.name)) ∧
          ∀ index ∈ c.indices, c.hasMember index := by
  simp only [looseEnd?, List.findSome?_eq_none_iff, Option.or_eq_none_iff, dangling?, misplaced?,
    Option.map_eq_none_iff, List.find?_eq_none, Bool.not_eq_true', Bool.not_eq_false,
    h.contains_iff]
  simp [collections]

theorem close_eq_ok_iff {d : Draft} {catalog : Catalog} :
    d.close = .ok catalog ↔ d.looseEnd? = none ∧ catalog = ⟨d.entries⟩ := by
  unfold close
  cases d.looseEnd? <;> simp [eq_comm]

end Draft

end SchemaTypes
