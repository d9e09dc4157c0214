import SchemaTypes.Declaration.Text
import SchemaTypes.Proofs.Declaration.Literal
import SchemaTypes.Proofs.Declaration.OfCatalog

/-!
The keys of interfaces, and the keys by which references pick a member of another interface.

The members of a collection differ, so the keys of its interface do too, and so do the names that
they stand for (`Frozen.keys_of_interface`). A reference names the primary key of its target, which
is a member of the target's interface, but it writes the name as it is: what stands between its
brackets is a literal of the primary key only if no quote and no backslash is in it
(`Frozen.reference_key`).
-/

namespace SchemaTypes

/-- The keys of the members of an interface, as they are written. -/
def Interface.keys (i : Interface) : List String :=
  i.members.map (Property.key ·.name)

namespace Collection

variable (c : Collection)

theorem hasKeyField_eq_any : c.hasKeyField = c.fields.any (·.kind = .autoPk) :=
  List.isSome_find?

/-- The primary key of a collection is one of its members. -/
theorem primaryKey_mem_members : c.primaryKey ∈ c.members := by
  unfold primaryKey members hasKeyField
  cases found : c.keyField? with
  | none => simp
  | some f =>
    have isField : f.name ∈ c.fields.map (·.name) :=
      List.mem_map_of_mem (List.mem_of_find?_eq_some found)
    simp [List.mem_map.mp isField]

end Collection

namespace Catalog

variable {catalog : Catalog} {policy : Policy} {c : Collection} {i : Interface}

/-! ### Members -/

/-- The members of an interface are called like those of its collection. -/
theorem map_name_members (h : catalog.interfaceOf policy c = .ok i) :
    i.members.map (·.name) = c.members := by
  obtain ⟨references, each, rfl⟩ := interfaceOf_eq_ok_iff.mp h
  have names : references.map (·.name) = c.relationships.map (·.member) := by
    rw [eq_comm, ← List.forall₂_eq_eq_eq, List.forall₂_map_left_iff, List.forall₂_map_right_iff]
    refine each.imp ?_
    rintro r m ⟨target, -, rfl⟩
    rfl
  have fields : (c.fields.map (·.toMember policy)).map (·.name) = c.fields.map (·.name) :=
    List.map_map
  rw [List.map_append, List.map_append, names, fields, Collection.members]
  cases c.hasKeyField <;> rfl

theorem keys_eq (h : catalog.interfaceOf policy c = .ok i) :
    i.keys = c.members.map Property.key := by
  rw [Interface.keys, ← map_name_members h, List.map_map]
  rfl

namespace Frozen

variable (frozen : catalog.Frozen)
include frozen

theorem nodup_members (mem : c ∈ catalog.collections) : c.members.Nodup :=
  (frozen_iff.mp frozen).1.members c mem

/-- Every collection of a frozen catalog has an interface under its name. -/
theorem exists_interfaceOf (policy : Policy) (mem : c ∈ catalog.collections) :
    ∃ i, catalog.interface policy c.name = .ok i ∧ catalog.interfaceOf policy c = .ok i := by
  have found : catalog.find? c.name = some c := frozen.find?_eq_some_iff.mpr ⟨mem, rfl⟩
  have isInterface : ∃ i, catalog.interface policy c.name = .ok i :=
    frozen.exists_interface (contains_iff.mpr ⟨c, found⟩)
  obtain ⟨i, isInterface⟩ := isInterface
  obtain ⟨own, isOwn, isInterfaceOf⟩ := interface_eq_ok_iff.mp isInterface
  rw [found] at isOwn
  obtain rfl := Option.some.inj isOwn
  exact ⟨i, isInterface, isInterfaceOf⟩

/-- The primary key is written once among the keys of an interface. -/
theorem count_key_primaryKey (mem : c ∈ catalog.collections)
    (h : catalog.interfaceOf policy c = .ok i) :
    i.keys.count (Property.key c.primaryKey) = 1 := by
  rw [keys_eq h]
  apply List.count_eq_one_of_mem
  · exact (frozen.nodup_members mem).map Property.key_injective
  · exact List.mem_map_of_mem c.primaryKey_mem_members

/-- The interface of a collection has a key for its implicit primary key, if no field is one, then
for each field, then for each relationship. A key is an identifier or a literal and stands for the
name; no two keys are the same or stand for the same name, and one of them is that of the primary
key. -/
theorem keys_of_interface (policy : Policy) (mem : c ∈ catalog.collections) :
    ∃ i, catalog.interface policy c.name = .ok i ∧
      i.text policy.typing =
        i.comment ++ "export interface " ++ i.typeName ++ policy.typing.parameters ++ " \x7b\n" ++
          String.join (i.members.map fun m =>
            m.comment ++ (memberIndent ++ Property.key m.name ++
              (if m.isOptional then "?" else "") ++ ": " ++ m.type.text policy.typing ++ ";\n")) ++
          "\x7d\n" ∧
      i.members.map (·.name) =
        (if c.fields.any (·.kind = .autoPk) then [] else ["id"]) ++ c.fields.map (·.name) ++
          c.relationships.map (fun r => r.label.getD r.target) ∧
      (∀ m ∈ i.members,
        Property.isIdentifier (Property.key m.name).toList = true ∧
            Property.key m.name = m.name ∨
          Property.isIdentifier (Property.key m.name).toList = false ∧
            Property.readLiteral (Property.key m.name).toList = some m.name.toList) ∧
      i.keys.Nodup ∧
      i.keys.map Property.value? = (i.members.map (·.name)).map some ∧
      (i.keys.map Property.value?).Nodup ∧
      i.keys.count (Property.key c.primaryKey) = 1 ∧
      (i.keys.map Property.value?).count (some c.primaryKey) = 1 := by
  obtain ⟨i, isInterface, isInterfaceOf⟩ := frozen.exists_interfaceOf policy mem
  have nodup := frozen.nodup_members mem
  have keys := keys_eq isInterfaceOf
  have values : i.keys.map Property.value? = c.members.map some := by
    rw [keys, List.map_map]
    exact List.map_congr_left fun name _ => Property.value?_key name
  have valuesNodup : (c.members.map some).Nodup := nodup.map fun _ _ => Option.some.inj
  refine ⟨i, isInterface, rfl, ?_, ?_, ?_, ?_, ?_, ?_, ?_⟩
  · rw [map_name_members isInterfaceOf, Collection.members, Collection.hasKeyField_eq_any]
    rfl
  · intro m _
    exact Property.isIdentifier_or_readLiteral_key m.name
  · rw [keys]
    exact nodup.map Property.key_injective
  · rw [values, map_name_members isInterfaceOf]
  · rw [values]
    exact valuesNodup
  · exact frozen.count_key_primaryKey mem isInterfaceOf
  · rw [values]
    apply List.count_eq_one_of_mem valuesNodup
    exact List.mem_map_of_mem c.primaryKey_mem_members

end Frozen

/-- A collection with quotes, backslashes and nothing at all for names. -/
def quotedNote : Collection where
  name := "note"
  description := none
  fields := [
    ⟨"it's", .autoPk, false, none⟩, ⟨"", .string, true, none⟩, ⟨"\\'", .json, false, none⟩,
    ⟨"$id", .int, false, some "no key"⟩]
  relationships := [⟨.childOf, "note", some "id", true⟩]
  indices := ["it's"]

/-- A catalog with this collection and one that refers to it. -/
def quotedCatalog : Catalog where
  entries := [
    ⟨"Users", ⟨"user", none, [], [⟨.childOf, "note", none, false⟩], []⟩⟩,
    ⟨"Notes", quotedNote⟩]

theorem keys_of_interface_quoted :
    quotedCatalog.Frozen ∧ quotedNote ∈ quotedCatalog.collections ∧
      ∃ i, quotedCatalog.interface ⟨.string, true, id⟩ "note" = .ok i ∧
        i.keys = ["'it\\'s'", "''", "'\\\\\\''", "$id", "id"] ∧
        i.keys.map Property.value? =
          [some "it's", some "", some "\\'", some "$id", some "id"] ∧
        i.keys.Nodup ∧ (i.keys.map Property.value?).Nodup ∧ i.keys.count "'it\\'s'" = 1 := by
  have frozen : quotedCatalog.Frozen := by decide +kernel
  have mem : quotedNote ∈ quotedCatalog.collections := by decide +kernel
  obtain ⟨i, isInterface, -, names, -, nodup, values, valuesNodup, count, -⟩ :=
    frozen.keys_of_interface ⟨.string, true, id⟩ mem
  have shown : (quotedCatalog.interface ⟨.string, true, id⟩ "note").map (·.keys) =
      .ok ["'it\\'s'", "''", "'\\\\\\''", "$id", "id"] := by
    decide +kernel
  have keys := congrArg (Except.map Interface.keys) isInterface
  have isKey : Property.key quotedNote.primaryKey = "'it\\'s'" := by decide +kernel
  refine ⟨frozen, mem, i, isInterface, Except.ok.inj (keys.symm.trans shown), ?_, nodup,
    valuesNodup, isKey ▸ count⟩
  rw [values, names]
  decide +kernel

/-- Each field has a member in the interface of its collection. -/
theorem toMember_mem_members (h : catalog.interfaceOf policy c = .ok i) {f : Field}
    (hf : f ∈ c.fields) : f.toMember policy ∈ i.members := by
  obtain ⟨references, -, rfl⟩ := interfaceOf_eq_ok_iff.mp h
  apply List.mem_append_left
  exact List.mem_append_right _ (List.mem_map_of_mem hf)

/-! ### References -/

/-- Each relationship has a member in the interface of its collection. -/
theorem reference_mem_members (h : catalog.interfaceOf policy c = .ok i) {r : Relationship}
    (hr : r ∈ c.relationships) {target : Collection}
    (isTarget : catalog.find? r.target = some target) : r.toMember target ∈ i.members := by
  obtain ⟨references, each, rfl⟩ := interfaceOf_eq_ok_iff.mp h
  obtain ⟨m, isReference, other, isOther, rfl⟩ := exists_right_of_forall₂ each hr
  rw [isTarget] at isOther
  obtain rfl := Option.some.inj isOther
  exact List.mem_append_right _ isReference

/-- The line of a reference, with what is written between its brackets set apart. -/
theorem line_toMember (r : Relationship) (target : Collection) (typing : KeyTyping) :
    (r.toMember target).line typing =
      memberIndent ++ Property.key (r.label.getD r.target) ++
        (if r.isOptional then "?" else "") ++ ": " ++
        (target.typeName ++ typing.arguments ++ "[" ++ ("'" ++ target.primaryKey ++ "'") ++ "]") ++
        ";\n" := by
  have bracket : "['" = "[" ++ "'" := by decide
  have closing : "']" = "'" ++ "]" := by decide
  unfold Member.line Relationship.toMember MemberType.text
  rw [bracket, closing]
  simp only [String.append_assoc]
  rfl

namespace Frozen

variable (frozen : catalog.Frozen)
include frozen

/-- A relationship is written as a reference to the primary key of its target, between single quotes
as it is. The key of the target's interface that stands for it is there once; but what is between
the brackets is a literal that stands for it only if no quote and no backslash is in the name. -/
theorem reference_key (policy : Policy) (mem : c ∈ catalog.collections) {r : Relationship}
    (hr : r ∈ c.relationships) :
    ∃ (target : Collection) (i j : Interface) (m : Member) (access : String),
      catalog.find? r.target = some target ∧
      catalog.interface policy c.name = .ok i ∧
      catalog.interface policy target.name = .ok j ∧
      m ∈ i.members ∧ m.name = r.label.getD r.target ∧
      m.line policy.typing =
        memberIndent ++ Property.key m.name ++ (if r.isOptional then "?" else "") ++ ": " ++
          (target.typeName ++ policy.typing.arguments ++ "[" ++ access ++ "]") ++ ";\n" ∧
      access = "'" ++ target.primaryKey ++ "'" ∧
      (Property.readLiteral access.toList = some target.primaryKey.toList ↔
        '\\' ∉ target.primaryKey.toList ∧ '\'' ∉ target.primaryKey.toList) ∧
      j.keys.count (Property.key target.primaryKey) = 1 ∧
      Property.value? (Property.key target.primaryKey) = some target.primaryKey := by
  obtain ⟨i, isInterface, isInterfaceOf⟩ := frozen.exists_interfaceOf policy mem
  obtain ⟨target, isTarget⟩ := frozen.exists_target mem hr
  have memTarget := mem_of_find? isTarget
  obtain ⟨j, isOther, isOtherOf⟩ := frozen.exists_interfaceOf policy memTarget
  exact ⟨target, i, j, r.toMember target, "'" ++ target.primaryKey ++ "'", isTarget, isInterface,
    isOther, reference_mem_members isInterfaceOf hr isTarget, rfl,
    line_toMember r target policy.typing, rfl,
    Property.readLiteral_quoted_iff target.primaryKey,
    frozen.count_key_primaryKey memTarget isOtherOf, Property.value?_key target.primaryKey⟩

end Frozen

/-- A collection whose primary key needs quotes, but with nothing in it to escape. -/
def shelf : Collection :=
  ⟨"shelf", none, [⟨"no. \"7\"", .autoPk, false, none⟩], [], []⟩

/-- A collection that refers to it. -/
def shelfBook : Collection :=
  ⟨"book", none, [], [⟨.singleChildOf, "shelf", some "on", true⟩], []⟩

/-- The catalog of both. -/
def shelfCatalog : Catalog :=
  ⟨[⟨"Books", shelfBook⟩, ⟨"Shelves", shelf⟩]⟩

theorem reference_key_shelf :
    ∃ (i : Interface) (m : Member) (access : String),
      shelfCatalog.interface ⟨.generic, false, id⟩ "book" = .ok i ∧ m ∈ i.members ∧
        m.name = "on" ∧ m.line .generic = "    on?: Shelf<Pk>['no. \"7\"'];\n" ∧
        access = "'no. \"7\"'" ∧
        Property.readLiteral access.toList = some "no. \"7\"".toList := by
  have frozen : shelfCatalog.Frozen := by decide +kernel
  have mem : shelfBook ∈ shelfCatalog.collections := by decide +kernel
  obtain ⟨target, i, _, m, access, isTarget, isInterface, -, isMember, name, line, isAccess,
    isLiteral, -, -⟩ := frozen.reference_key ⟨.generic, false, id⟩ mem List.mem_cons_self
  obtain rfl : shelf = target := Option.some.inj isTarget
  subst isAccess
  refine ⟨i, m, _, isInterface, isMember, name, ?_, ?_, isLiteral.mpr (by decide +kernel)⟩
  · rw [line, name]
    decide +kernel
  · decide +kernel

/-- A primary key with a quote in its name is escaped where it is declared, but not in a reference:
what stands between the brackets there is the literal of no name. -/
theorem quoted_reference_unreadable :
    quotedCatalog.Frozen ∧
      (quotedCatalog.declare ⟨.generic, false, id⟩ ["note", "user"]).map (·.text) =
        .ok ("export interface Note<Pk = number | string> \x7b\n    'it\\'s': Pk;\n" ++
          "    ''?: string;\n    '\\\\\\'': any;\n    $id: number;\n" ++
          "    id?: Note<Pk>['it's'];\n\x7d\n\n" ++
          "export interface User<Pk = number | string> \x7b\n    id: Pk;\n" ++
          "    note: Note<Pk>['it's'];\n\x7d\n") ∧
      Property.key "it's" = "'it\\'s'" ∧
      ∀ name, "'it's'".toList ≠ Property.literal name := by
  refine ⟨by decide +kernel, by decide +kernel, by decide +kernel, ?_⟩
  intro name isLiteral
  have isRead := Property.readLiteral_eq_some_iff.mpr isLiteral
  have nothing : Property.readLiteral "'it's'".toList = none := by decide +kernel
  rw [nothing] at isRead
  cases isRead

end Catalog

end SchemaTypes
