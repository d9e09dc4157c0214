import SchemaTypes.Declaration.Text
import SchemaTypes.Proofs.Declaration.OfCatalog
import SchemaTypes.Proofs.Text.ByteOrder

/-!
The imports at the head of declarations.

In a frozen catalog no two collections share a type name, so putting the imports in the order of
their type names loses none of them: the text of declarations begins with one line for each target
that is not requested itself, and no other (`Frozen.import_block`).
-/

namespace SchemaTypes

/-! ### Where the imports end -/

/-- A text that begins with an interface, or with the comment on one. -/
def BeginsInterface (s : String) : Prop :=
  ∃ rest, s = "/**\n" ++ rest ∨ s = "export interface " ++ rest

theorem BeginsInterface.append {s : String} (h : BeginsInterface s) (t : String) :
    BeginsInterface (s ++ t) := by
  obtain ⟨rest, rfl | rfl⟩ := h
  · exact ⟨rest ++ t, .inl String.append_assoc⟩
  · exact ⟨rest ++ t, .inr String.append_assoc⟩

theorem Interface.beginsInterface_text (typing : KeyTyping) (i : Interface) :
    BeginsInterface (i.text typing) := by
  unfold Interface.text Interface.comment
  cases i.docs with
  | none =>
    simp only [Option.map_none, Option.getD_none, String.empty_append, String.append_assoc]
    exact ⟨_, .inr rfl⟩
  | some docs =>
    simp only [Option.map_some, Option.getD_some, Comment.block, String.empty_append,
      String.append_assoc]
    exact ⟨_, .inl rfl⟩

/-- What follows the imports begins with an interface if there is one. -/
theorem Declarations.beginsInterface_body {d : Declarations} (h : d.interfaces ≠ []) :
    BeginsInterface d.body := by
  unfold body
  obtain ⟨first, rest, eq⟩ := List.exists_cons_of_ne_nil h
  have begins := first.beginsInterface_text d.typing
  rw [eq, List.map_cons]
  cases rest.map (·.text d.typing) with
  | nil => simpa using begins
  | cons next others =>
    rw [String.intercalate_cons_cons, String.append_assoc]
    exact begins.append _

namespace Catalog

variable {catalog : Catalog} {policy : Policy} {requested : List String} {name : String}
  {c : Collection} {d : Declarations}

/-! ### Targets in order -/

/-- The foreign collections in the order of their type names, each once. -/
def sortedForeign (catalog : Catalog) (requested : List String) : List Collection :=
  sortKeyed Collection.typeName (catalog.foreign requested)

theorem imports_eq_map :
    catalog.imports policy requested =
      (catalog.sortedForeign requested).map (importOf policy) :=
  sortKeyed_map (importOf policy) (catalog.foreign requested)

/-- The block of the imports has a line for each foreign collection. -/
theorem importsText_imports :
    importsText (catalog.imports policy requested) =
      String.join (((catalog.sortedForeign requested).map (·.name)).map fun target =>
          "import type \x7b " ++ typeNameOf target ++ " \x7d from '" ++ policy.importPath target ++
            "';\n") ++
        (if ((catalog.sortedForeign requested).map (·.name)).isEmpty then "" else "\n") := by
  unfold importsText
  rw [imports_eq_map, List.map_map, List.map_map]
  congr 1
  cases catalog.sortedForeign requested <;> rfl

theorem map_typeNameOf_sortedForeign :
    ((catalog.sortedForeign requested).map (·.name)).map typeNameOf =
      (catalog.sortedForeign requested).map (·.typeName) :=
  List.map_map

/-- No foreign collection is there twice, since its type name would be too. -/
theorem nodup_names_sortedForeign : ((catalog.sortedForeign requested).map (·.name)).Nodup := by
  have ascending : Ascending Collection.typeName (catalog.sortedForeign requested) :=
    ascending_sortKeyed _ _
  rw [List.Nodup, List.pairwise_map]
  refine ascending.imp ?_
  intro a b less same
  rw [Collection.typeName, Collection.typeName, same] at less
  exact String.lt_irrefl _ less

/-- The type names ascend in the order of their bytes. -/
theorem bytesLt_typeNames_sortedForeign :
    ((catalog.sortedForeign requested).map (·.typeName)).Pairwise
      fun s t => Text.BytesLt s.toUTF8.data.toList t.toUTF8.data.toList := by
  have ascending : Ascending Collection.typeName (catalog.sortedForeign requested) :=
    ascending_sortKeyed _ _
  rw [List.pairwise_map]
  refine ascending.imp ?_
  intro a b less
  exact Text.bytesLt_toUTF8 less

/-- There is an interface for each request. -/
theorem interfaces_eq_nil_iff (h : catalog.declare policy requested = .ok d) :
    d.interfaces = [] ↔ requested = [] := by
  have declared := declared_of_declare h
  unfold Declarations.declared at declared
  rw [← List.map_eq_nil_iff (f := (·.typeName)), declared, List.map_eq_nil_iff]

namespace Frozen

variable (frozen : catalog.Frozen)
include frozen

/-- Sorting loses no foreign collection: one of the same type name is the same. -/
theorem mem_sortedForeign_iff :
    c ∈ catalog.sortedForeign requested ↔ c ∈ catalog.foreign requested := by
  constructor
  · intro mem
    exact mem_of_mem_sortKeyed mem
  · intro mem
    have isKey : c.typeName ∈ (catalog.sortedForeign requested).map (·.typeName) :=
      mem_keys_sortKeyed_iff.mpr (List.mem_map_of_mem mem)
    obtain ⟨other, isSorted, eq⟩ := List.mem_map.mp isKey
    have isForeign := mem_of_mem_sortKeyed isSorted
    have same : other = c :=
      frozen.eq_of_typeName_eq (mem_of_mem_foreign isForeign) (mem_of_mem_foreign mem) eq
    exact same ▸ isSorted

/-- A foreign collection is a target of a requested one that is not requested itself. -/
theorem mem_names_foreign_iff :
    name ∈ (catalog.foreign requested).map (·.name) ↔
      name ∉ requested ∧
        ∃ source ∈ requested, ∃ c, catalog.find? source = some c ∧ name ∈ c.targets := by
  simp only [List.mem_map, mem_foreign_iff, Collection.targets]
  constructor
  · rintro ⟨target, ⟨source, isRequested, c, found, r, hr, notRequested, isTarget⟩, rfl⟩
    rw [name_of_find? isTarget]
    exact ⟨notRequested, source, isRequested, c, found, r, hr, rfl⟩
  · rintro ⟨notRequested, source, isRequested, c, found, r, hr, rfl⟩
    obtain ⟨target, isTarget⟩ := frozen.exists_target (mem_of_find? found) hr
    exact ⟨target, ⟨source, isRequested, c, found, r, hr, notRequested, isTarget⟩,
      name_of_find? isTarget⟩

theorem mem_names_sortedForeign_iff :
    name ∈ (catalog.sortedForeign requested).map (·.name) ↔
      name ∉ requested ∧
        ∃ source ∈ requested, ∃ c, catalog.find? source = some c ∧ name ∈ c.targets := by
  rw [← frozen.mem_names_foreign_iff, List.mem_map, List.mem_map]
  simp only [frozen.mem_sortedForeign_iff]

/-- No requested collection is imported. -/
theorem typeNameOf_notMem_sortedForeign (h : catalog.declare policy requested = .ok d)
    (isRequested : name ∈ requested) :
    typeNameOf name ∉ (catalog.sortedForeign requested).map (·.typeName) := by
  intro mem
  obtain ⟨c, isSorted, eq⟩ := List.mem_map.mp mem
  have imported : typeNameOf name ∈ d.imported :=
    (mem_imported_iff h).mpr ⟨c, frozen.mem_sortedForeign_iff.mp isSorted, eq⟩
  apply frozen.notMem_declared_of_mem_imported h imported
  rw [declared_of_declare h]
  exact List.mem_map_of_mem isRequested

/-- The text of declarations begins with a line for each target of the requested collections that is
not requested itself, in the order of the bytes of their type names, and an empty line if there are
any; then the interfaces begin. No requested collection is imported. -/
theorem import_block (policy : Policy)
    (registered : ∀ name ∈ requested, catalog.contains name = true) :
    ∃ (d : Declarations) (targets : List String) (body : String),
      catalog.declare policy requested = .ok d ∧
      d.text =
        String.join (targets.map fun target =>
            "import type \x7b " ++ typeNameOf target ++ " \x7d from '" ++
              policy.importPath target ++ "';\n") ++
          (if targets.isEmpty then "" else "\n") ++ body ∧
      (requested = [] → body = "") ∧ (requested ≠ [] → BeginsInterface body) ∧
      (∀ target, target ∈ targets ↔
        target ∉ requested ∧
          ∃ source ∈ requested, ∃ c, catalog.find? source = some c ∧ target ∈ c.targets) ∧
      targets.Nodup ∧
      (targets.map typeNameOf).Pairwise
        (fun s t => Text.BytesLt s.toUTF8.data.toList t.toUTF8.data.toList) ∧
      ∀ name ∈ requested, typeNameOf name ∉ targets.map typeNameOf := by
  have declares : ∃ d, catalog.declare policy requested = .ok d :=
    frozen.exists_declare registered
  obtain ⟨d, isDeclared⟩ := declares
  refine ⟨d, (catalog.sortedForeign requested).map (·.name), d.body, isDeclared, ?_, ?_, ?_, ?_,
    nodup_names_sortedForeign, ?_, ?_⟩
  · obtain ⟨interfaces, -, rfl⟩ := declare_eq_ok_iff.mp isDeclared
    rw [Declarations.text, importsText_imports]
  · intro nothing
    rw [Declarations.body, (interfaces_eq_nil_iff isDeclared).mpr nothing]
    rfl
  · intro isAny
    apply Declarations.beginsInterface_body
    exact (interfaces_eq_nil_iff isDeclared).not.mpr isAny
  · intro target
    exact frozen.mem_names_sortedForeign_iff
  · rw [map_typeNameOf_sortedForeign]
    exact bytesLt_typeNames_sortedForeign
  · intro name isRequested
    rw [map_typeNameOf_sortedForeign]
    exact frozen.typeNameOf_notMem_sortedForeign isDeclared isRequested

end Frozen

/-- Collections that refer to one another, to themselves, and to two whose names are in another
order than their type names. -/
def eventCatalog : Catalog where
  entries := [
    ⟨"Shared", ⟨"Zone", none, [], [], []⟩⟩,
    ⟨"Shared", ⟨"account", none, [⟨"key", .autoPk, false, none⟩], [], []⟩⟩,
    ⟨"Events", ⟨"event", none, [],
      [⟨.childOf, "Zone", none, false⟩, ⟨.childOf, "account", none, false⟩,
        ⟨.childOf, "account", some "organizer", true⟩, ⟨.childOf, "event", some "last", true⟩],
      []⟩⟩,
    ⟨"Events", ⟨"visit", some "to an event", [],
      [⟨.singleChildOf, "event", none, false⟩, ⟨.childOf, "Zone", some "place", false⟩], []⟩⟩]

/-- A policy that imports from a file named like the collection. -/
def eventPolicy : Policy :=
  ⟨.number, true, fun name => "./" ++ name⟩

theorem import_block_events :
    ∃ (d : Declarations) (targets : List String) (body : String),
      eventCatalog.declare eventPolicy ["visit", "event"] = .ok d ∧
      "Zone" ∈ targets ∧ "account" ∈ targets ∧ "event" ∉ targets ∧ targets.Nodup ∧
      d.text =
        String.join (targets.map fun target =>
            "import type \x7b " ++ typeNameOf target ++ " \x7d from '" ++
              eventPolicy.importPath target ++ "';\n") ++
          (if targets.isEmpty then "" else "\n") ++ body ∧
      BeginsInterface body ∧
      d.text =
        "import type \x7b Account \x7d from './account';\n" ++
        "import type \x7b Zone \x7d from './Zone';\n\n" ++
        "/**\n * to an event\n */\nexport interface Visit \x7b\n    id: number;\n" ++
        "    event: Event['id'];\n    place: Zone['id'];\n\x7d\n\n" ++
        "export interface Event \x7b\n    id: number;\n    Zone: Zone['id'];\n" ++
        "    account: Account['key'];\n    organizer?: Account['key'];\n" ++
        "    last?: Event['id'];\n\x7d\n" := by
  have frozen : eventCatalog.Frozen := by decide +kernel
  have registered : ∀ name ∈ ["visit", "event"], eventCatalog.contains name = true := by
    decide +kernel
  obtain ⟨d, targets, body, isDeclared, text, -, begins, isTarget, nodup, -, -⟩ :=
    frozen.import_block eventPolicy registered
  have shown : (eventCatalog.declare eventPolicy ["visit", "event"]).map (·.text) = .ok _ :=
    congrArg (Except.map (·.text)) isDeclared
  refine ⟨d, targets, body, isDeclared, ?_, ?_, ?_, nodup, text, begins (List.cons_ne_nil _ _), ?_⟩
  · refine (isTarget "Zone").mpr ⟨by decide, "event", by decide, ?_⟩
    exact ⟨_, rfl, by decide⟩
  · refine (isTarget "account").mpr ⟨by decide, "event", by decide, ?_⟩
    exact ⟨_, rfl, by decide⟩
  · intro isImported
    exact absurd ((isTarget "event").mp isImported).1 (by decide)
  · refine Except.ok.inj (shown.symm.trans ?_)
    decide +kernel

end Catalog

end SchemaTypes
