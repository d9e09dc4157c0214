import SchemaTypes.Declaration.OfCatalog
import SchemaTypes.Proofs.Schema.Frozen

/-!
What the declarations of a catalog consist of.

Collections are declared if they can be found with all that they refer to (`declare_eq_ok_iff`), so
in a frozen catalog whatever is registered can be declared (`Frozen.exists_declare`). The
declarations declare the type names of the collections that were requested, and import those of the
collections that these refer to without being requested (`mem_imported_iff`). Every reference is
covered by one or the other (`declared_or_imported`), and in a frozen catalog never by both
(`Frozen.notMem_declared_of_mem_imported`).
-/

namespace SchemaTypes

/-! ### Type names -/

/-- The interface of which the type is a member. -/
def MemberType.target? : MemberType → Option String
  | .named _ => none
  | .memberOf typeName _ => some typeName

namespace Declarations

/-- The type names that are declared. -/
def declared (d : Declarations) : List String :=
  d.interfaces.map (·.typeName)

/-- The type names that are imported. -/
def imported (d : Declarations) : List String :=
  d.imports.map (·.typeName)

/-- The type names that members refer to. -/
def referenced (d : Declarations) : List String :=
  d.interfaces.flatMap fun i => i.members.filterMap (·.type.target?)

end Declarations

namespace Catalog

variable {catalog : Catalog} {policy : Policy} {requested : List String} {name typeName : String}
  {c : Collection} {d : Declarations}

/-! ### Interfaces -/

theorem reference_eq_ok_iff {r : Relationship} {m : Member} :
    catalog.reference c r = .ok m ↔
      ∃ target, catalog.find? r.target = some target ∧ m = r.toMember target := by
  unfold reference
  cases catalog.find? r.target <;> simp [eq_comm]

/-- A collection has an interface if everything is found that it refers to. -/
theorem interfaceOf_eq_ok_iff {i : Interface} :
    catalog.interfaceOf policy c = .ok i ↔
      ∃ references, List.Forall₂ (fun r m => ∃ target, catalog.find? r.target = some target ∧
          m = r.toMember target) c.relationships references ∧
        i = ⟨policy.docsOf c.description, c.typeName,
          (if c.hasKeyField then [] else [implicitMember policy]) ++
            c.fields.map (·.toMember policy) ++ references⟩ := by
  simp only [interfaceOf, bind_eq_ok_iff, mapM_eq_ok_iff, reference_eq_ok_iff, pure_eq_ok_iff,
    @eq_comm _ i]

theorem interface_eq_ok_iff {i : Interface} :
    catalog.interface policy name = .ok i ↔
      ∃ c, catalog.find? name = some c ∧ catalog.interfaceOf policy c = .ok i := by
  unfold interface
  cases catalog.find? name <;> simp

theorem declare_eq_ok_iff :
    catalog.declare policy requested = .ok d ↔
      ∃ interfaces, List.Forall₂ (fun name i => catalog.interface policy name = .ok i) requested
          interfaces ∧
        d = ⟨policy.typing, catalog.imports policy requested, interfaces⟩ := by
  simp only [declare, bind_eq_ok_iff, mapM_eq_ok_iff, pure_eq_ok_iff, @eq_comm _ d]

/-- A member of an interface is a primary key, a field or a reference of its collection. -/
theorem origin_of_member {i : Interface} (h : catalog.interfaceOf policy c = .ok i) {m : Member}
    (mem : m ∈ i.members) :
    m = implicitMember policy ∨ (∃ f ∈ c.fields, m = f.toMember policy) ∨
      ∃ r ∈ c.relationships, ∃ target, catalog.find? r.target = some target ∧
        m = r.toMember target := by
  obtain ⟨references, each, rfl⟩ := interfaceOf_eq_ok_iff.mp h
  rcases List.mem_append.mp mem with own | isReference
  · rcases List.mem_append.mp own with isKey | isField
    · split at isKey
      · cases isKey
      · exact .inl (List.mem_singleton.mp isKey)
    · obtain ⟨f, hf, rfl⟩ := List.mem_map.mp isField
      exact .inr (.inl ⟨f, hf, rfl⟩)
  · obtain ⟨r, hr, origin⟩ := exists_left_of_forall₂ each isReference
    exact .inr (.inr ⟨r, hr, origin⟩)

/-- What is registered in a frozen catalog has an interface. -/
theorem Frozen.exists_interface (frozen : catalog.Frozen)
    (registered : catalog.contains name = true) :
    ∃ i, catalog.interface policy name = .ok i := by
  obtain ⟨c, found⟩ := contains_iff.mp registered
  have each : ∀ r ∈ c.relationships, ∃ m, catalog.reference c r = .ok m := by
    intro r isRelationship
    obtain ⟨target, isTarget⟩ := frozen.exists_target (mem_of_find? found) isRelationship
    exact ⟨_, reference_eq_ok_iff.mpr ⟨target, isTarget, rfl⟩⟩
  obtain ⟨references, all⟩ := exists_mapM_eq_ok each
  simp only [mapM_eq_ok_iff, reference_eq_ok_iff] at all
  have isInterface : ∃ i, catalog.interfaceOf policy c = .ok i :=
    ⟨_, interfaceOf_eq_ok_iff.mpr ⟨references, all, rfl⟩⟩
  obtain ⟨i, isInterface⟩ := isInterface
  exact ⟨i, interface_eq_ok_iff.mpr ⟨c, found, isInterface⟩⟩

/-- What is registered in a frozen catalog can be declared. -/
theorem Frozen.exists_declare (frozen : catalog.Frozen)
    (registered : ∀ name ∈ requested, catalog.contains name = true) :
    ∃ d, catalog.declare policy requested = .ok d := by
  obtain ⟨interfaces, all⟩ :=
    exists_mapM_eq_ok fun name mem => frozen.exists_interface (registered name mem)
  exact ⟨_, declare_eq_ok_iff.mpr ⟨interfaces, mapM_eq_ok_iff.mp all, rfl⟩⟩

/-! ### Declared names -/

theorem typeName_of_interface {i : Interface} (h : catalog.interface policy name = .ok i) :
    i.typeName = typeNameOf name := by
  obtain ⟨c, found, isInterface⟩ := interface_eq_ok_iff.mp h
  obtain ⟨references, -, rfl⟩ := interfaceOf_eq_ok_iff.mp isInterface
  exact typeName_of_find? found

/-- The type names of the requested collections are declared, in the order of the request. -/
theorem declared_of_declare (h : catalog.declare policy requested = .ok d) :
    d.declared = requested.map typeNameOf := by
  obtain ⟨interfaces, each, rfl⟩ := declare_eq_ok_iff.mp h
  rw [Declarations.declared, eq_comm, ← List.forall₂_eq_eq_eq, List.forall₂_map_left_iff,
    List.forall₂_map_right_iff]
  exact each.imp fun _ _ isInterface => (typeName_of_interface isInterface).symm

theorem typing_of_declare (h : catalog.declare policy requested = .ok d) :
    d.typing = policy.typing := by
  obtain ⟨interfaces, -, rfl⟩ := declare_eq_ok_iff.mp h
  rfl

/-- Each requested collection is found and has an interface among the declarations. -/
theorem exists_interface_of_declare (h : catalog.declare policy requested = .ok d)
    (mem : name ∈ requested) :
    ∃ c i, catalog.find? name = some c ∧ catalog.interfaceOf policy c = .ok i ∧
      i ∈ d.interfaces := by
  obtain ⟨interfaces, each, rfl⟩ := declare_eq_ok_iff.mp h
  obtain ⟨i, isDeclared, isInterface⟩ := exists_right_of_forall₂ each mem
  obtain ⟨c, found, isInterfaceOf⟩ := interface_eq_ok_iff.mp isInterface
  exact ⟨c, i, found, isInterfaceOf, isDeclared⟩

theorem find?_of_declare (h : catalog.declare policy requested = .ok d) (mem : name ∈ requested) :
    ∃ c, catalog.find? name = some c := by
  obtain ⟨c, -, found, -⟩ := exists_interface_of_declare h mem
  exact ⟨c, found⟩

/-! ### Imported names -/

/-- A collection is foreign if a requested collection refers to it and it is not requested. -/
theorem mem_foreign_iff :
    c ∈ catalog.foreign requested ↔
      ∃ name ∈ requested, ∃ source, catalog.find? name = some source ∧
        ∃ r ∈ source.relationships, r.target ∉ requested ∧ catalog.find? r.target = some c := by
  simp only [foreign, foreignTargets, Collection.targets, List.mem_flatMap, List.mem_filterMap,
    List.mem_filter, List.mem_map, List.contains_eq_mem, Bool.not_eq_true', decide_eq_false_iff_not]
  constructor
  · rintro ⟨source, ⟨name, mem, found⟩, _, ⟨⟨r, hr, rfl⟩, notRequested⟩, isTarget⟩
    exact ⟨name, mem, source, found, r, hr, notRequested, isTarget⟩
  · rintro ⟨name, mem, source, found, r, hr, notRequested, isTarget⟩
    exact ⟨source, ⟨name, mem, found⟩, _, ⟨⟨r, hr, rfl⟩, notRequested⟩, isTarget⟩

theorem mem_of_mem_foreign (h : c ∈ catalog.foreign requested) : c ∈ catalog.collections := by
  obtain ⟨_, _, _, _, _, _, _, isTarget⟩ := mem_foreign_iff.mp h
  exact mem_of_find? isTarget

/-- The type names of foreign collections are imported. -/
theorem mem_imported_iff (h : catalog.declare policy requested = .ok d) :
    typeName ∈ d.imported ↔ ∃ c ∈ catalog.foreign requested, c.typeName = typeName := by
  obtain ⟨interfaces, -, rfl⟩ := declare_eq_ok_iff.mp h
  rw [Declarations.imported, imports, mem_keys_sortKeyed_iff, List.map_map, List.mem_map]
  rfl

/-- In a frozen catalog, what is imported is not declared. -/
theorem Frozen.notMem_declared_of_mem_imported (frozen : catalog.Frozen)
    (h : catalog.declare policy requested = .ok d) (isImported : typeName ∈ d.imported) :
    typeName ∉ d.declared := by
  intro isDeclared
  obtain ⟨c, isForeign, rfl⟩ := (mem_imported_iff h).mp isImported
  obtain ⟨_, _, _, _, r, -, notRequested, isTarget⟩ := mem_foreign_iff.mp isForeign
  rw [declared_of_declare h] at isDeclared
  obtain ⟨name, mem, eq⟩ := List.mem_map.mp isDeclared
  obtain ⟨own, found⟩ := find?_of_declare h mem
  have same : own = c := by
    refine frozen.eq_of_typeName_eq (mem_of_find? found) (mem_of_find? isTarget) ?_
    rw [← eq, typeName_of_find? found]
  rw [← name_of_find? isTarget, ← same, name_of_find? found] at notRequested
  exact notRequested mem

/-! ### References -/

/-- Members refer to what the relationships of their collection lead to. -/
theorem exists_target_of_interface {i : Interface} (h : catalog.interface policy name = .ok i)
    {m : Member} (mem : m ∈ i.members) (refers : m.type.target? = some typeName) :
    ∃ source, catalog.find? name = some source ∧ ∃ r ∈ source.relationships,
      ∃ target, catalog.find? r.target = some target ∧ target.typeName = typeName := by
  obtain ⟨source, found, isInterface⟩ := interface_eq_ok_iff.mp h
  refine ⟨source, found, ?_⟩
  -- The types of keys and fields go by names of their own.
  rcases origin_of_member isInterface mem with rfl | ⟨f, -, rfl⟩ | ⟨r, hr, target, isTarget, rfl⟩
  · cases refers
  · cases refers
  · exact ⟨r, hr, target, isTarget, Option.some.inj refers⟩

/-- What members refer to is declared or imported. -/
theorem declared_or_imported (h : catalog.declare policy requested = .ok d)
    (refers : typeName ∈ d.referenced) : typeName ∈ d.declared ∨ typeName ∈ d.imported := by
  rw [declared_of_declare h, mem_imported_iff h]
  obtain ⟨interfaces, each, rfl⟩ := declare_eq_ok_iff.mp h
  obtain ⟨i, isInterface, mem⟩ := List.mem_flatMap.mp refers
  obtain ⟨m, isMember, refers⟩ := List.mem_filterMap.mp mem
  obtain ⟨name, isRequested, hInterface⟩ := exists_left_of_forall₂ each isInterface
  obtain ⟨source, found, r, hr, target, isTarget, rfl⟩ :=
    exists_target_of_interface hInterface isMember refers
  by_cases isLocal : r.target ∈ requested
  · exact .inl (List.mem_map.mpr ⟨r.target, isLocal, (typeName_of_find? isTarget).symm⟩)
  · exact .inr ⟨target,
      mem_foreign_iff.mpr ⟨name, isRequested, source, found, r, hr, isLocal, isTarget⟩, rfl⟩

end Catalog

end SchemaTypes
