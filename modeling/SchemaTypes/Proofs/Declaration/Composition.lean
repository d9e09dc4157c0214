import SchemaTypes.Proofs.Declaration.Imports

/-!
Declarations of several collections, and of each alone.

What is written of a collection does not depend on what is declared with it: behind the imports,
declarations consist of one block for each request (`body_of_declare`). The imports of two requests
together are those of each, less what the other one declares (`Frozen.mem_imports_append_iff`), and
they do not depend on the order of a request (`Frozen.imports_congr`). `Frozen.declare_append` puts
this together.
-/

namespace SchemaTypes.Catalog

variable {catalog : Catalog} {policy : Policy} {requested others xs ys : List String}
  {name : String} {c : Collection} {d : Declarations}

/-! ### Blocks -/

/-- What is written of a collection that is declared alone, behind the imports. -/
def block (catalog : Catalog) (policy : Policy) (name : String) : String :=
  match catalog.declare policy [name] with
  | .ok d => d.body
  | .error _ => ""

theorem block_of_declare (h : catalog.declare policy [name] = .ok d) :
    catalog.block policy name = d.body := by
  unfold block
  rw [h]

/-- The block of a collection is the text of its interface. -/
theorem block_of_interface {i : Interface} (h : catalog.interface policy name = .ok i) :
    catalog.block policy name = i.text policy.typing := by
  have alone : catalog.declare policy [name] =
      .ok ⟨policy.typing, catalog.imports policy [name], [i]⟩ :=
    declare_eq_ok_iff.mpr ⟨[i], .cons h .nil, rfl⟩
  rw [block_of_declare alone, Declarations.body, List.map_singleton, String.intercalate_singleton]

/-- Behind the imports, declarations consist of the blocks of what was requested. -/
theorem body_of_declare (h : catalog.declare policy requested = .ok d) :
    d.body = "\n".intercalate (requested.map (catalog.block policy)) := by
  obtain ⟨interfaces, each, rfl⟩ := declare_eq_ok_iff.mp h
  have blocks : requested.map (catalog.block policy) =
      interfaces.map (·.text policy.typing) := by
    rw [← List.forall₂_eq_eq_eq, List.forall₂_map_left_iff, List.forall₂_map_right_iff]
    exact each.imp fun _ _ isInterface => block_of_interface isInterface
  rw [blocks, Declarations.body]

/-- The text of declarations is that of the imports and, if anything was requested, interfaces
behind them. -/
theorem text_of_declare (h : catalog.declare policy requested = .ok d) (any : requested ≠ []) :
    d.text = importsText d.imports ++ d.body ∧ BeginsInterface d.body :=
  ⟨rfl, Declarations.beginsInterface_body ((interfaces_eq_nil_iff h).not.mpr any)⟩

/-! ### Imports -/

theorem imports_of_declare (h : catalog.declare policy requested = .ok d) :
    d.imports = catalog.imports policy requested := by
  obtain ⟨interfaces, -, rfl⟩ := declare_eq_ok_iff.mp h
  rfl

/-- What is foreign to two requests together is foreign to one of them and requested by neither. -/
theorem mem_foreign_append_iff :
    c ∈ catalog.foreign (xs ++ ys) ↔
      (c ∈ catalog.foreign xs ∨ c ∈ catalog.foreign ys) ∧ c.name ∉ xs ++ ys := by
  simp only [mem_foreign_iff, List.mem_append, not_or]
  constructor
  · rintro ⟨name, isRequested, source, found, r, hr, ⟨notFirst, notSecond⟩, isTarget⟩
    rw [name_of_find? isTarget]
    refine ⟨?_, notFirst, notSecond⟩
    rcases isRequested with isFirst | isSecond
    · exact .inl ⟨name, isFirst, source, found, r, hr, notFirst, isTarget⟩
    · exact .inr ⟨name, isSecond, source, found, r, hr, notSecond, isTarget⟩
  · rintro ⟨⟨name, isFirst, source, found, r, hr, -, isTarget⟩ |
      ⟨name, isSecond, source, found, r, hr, -, isTarget⟩, notRequested⟩
    · rw [name_of_find? isTarget] at notRequested
      exact ⟨name, .inl isFirst, source, found, r, hr, notRequested, isTarget⟩
    · rw [name_of_find? isTarget] at notRequested
      exact ⟨name, .inr isSecond, source, found, r, hr, notRequested, isTarget⟩

/-- What is foreign depends on which collections are requested, and not on their order. -/
theorem mem_foreign_congr (same : ∀ name, name ∈ requested ↔ name ∈ others) :
    c ∈ catalog.foreign requested ↔ c ∈ catalog.foreign others := by
  simp only [mem_foreign_iff, same]

namespace Frozen

variable (frozen : catalog.Frozen)
include frozen

theorem mem_imports_iff {i : Import} :
    i ∈ catalog.imports policy requested ↔
      ∃ c ∈ catalog.foreign requested, importOf policy c = i := by
  rw [imports_eq_map, List.mem_map]
  simp only [frozen.mem_sortedForeign_iff]

/-- Among registered names, a collection is the only one with its type name. -/
theorem typeName_mem_map_iff (registered : ∀ name ∈ requested, catalog.contains name = true)
    (mem : c ∈ catalog.collections) :
    c.typeName ∈ requested.map typeNameOf ↔ c.name ∈ requested := by
  constructor
  · intro isRequested
    obtain ⟨name, isName, eq⟩ := List.mem_map.mp isRequested
    obtain ⟨own, found⟩ := contains_iff.mp (registered name isName)
    have sameType : own.typeName = c.typeName := by rw [typeName_of_find? found, eq]
    have same : own = c := frozen.eq_of_typeName_eq (mem_of_find? found) mem sameType
    rwa [← same, name_of_find? found]
  · exact List.mem_map_of_mem

/-- The imports of two requests together are those of each, less what is declared. -/
theorem mem_imports_append_iff (registered : ∀ name ∈ xs ++ ys, catalog.contains name = true)
    {i : Import} :
    i ∈ catalog.imports policy (xs ++ ys) ↔
      (i ∈ catalog.imports policy xs ∨ i ∈ catalog.imports policy ys) ∧
        i.typeName ∉ (xs ++ ys).map typeNameOf := by
  have declared {c : Collection} (isForeign : c ∈ catalog.foreign xs ∨ c ∈ catalog.foreign ys) :
      c.typeName ∈ (xs ++ ys).map typeNameOf ↔ c.name ∈ xs ++ ys :=
    frozen.typeName_mem_map_iff registered (isForeign.elim mem_of_mem_foreign mem_of_mem_foreign)
  simp only [frozen.mem_imports_iff, mem_foreign_append_iff]
  constructor
  · rintro ⟨c, ⟨isForeign, notRequested⟩, rfl⟩
    refine ⟨isForeign.imp (⟨c, ·, rfl⟩) (⟨c, ·, rfl⟩), ?_⟩
    exact (declared isForeign).not.mpr notRequested
  · rintro ⟨⟨c, isForeign, rfl⟩ | ⟨c, isForeign, rfl⟩, notDeclared⟩
    · exact ⟨c, ⟨.inl isForeign, (declared (.inl isForeign)).not.mp notDeclared⟩, rfl⟩
    · exact ⟨c, ⟨.inr isForeign, (declared (.inr isForeign)).not.mp notDeclared⟩, rfl⟩

/-- The imports depend on which collections are requested, and not on their order. -/
theorem imports_congr (same : ∀ name, name ∈ requested ↔ name ∈ others) :
    catalog.imports policy requested = catalog.imports policy others := by
  apply (ascending_sortKeyed _ _).eq_of_mem_iff (ascending_sortKeyed _ _)
  intro i
  change i ∈ catalog.imports policy requested ↔ i ∈ catalog.imports policy others
  simp only [frozen.mem_imports_iff, mem_foreign_congr same]

/-- Two requests together are declared as each of them, with an empty line between: the texts behind
the imports follow one another, and imported is what one of the two imports and none declares, each
type once and in the order of the bytes. In whatever order the same is requested, the imports are
the same, and behind them stands, in that order, what is written of each collection alone. -/
theorem declare_append (policy : Policy) (hx : xs ≠ []) (hy : ys ≠ [])
    (registered : ∀ name ∈ xs ++ ys, catalog.contains name = true) :
    ∃ first second both : Declarations,
      catalog.declare policy xs = .ok first ∧ catalog.declare policy ys = .ok second ∧
      catalog.declare policy (xs ++ ys) = .ok both ∧
      (∀ d ∈ [first, second, both],
        d.text = importsText d.imports ++ d.body ∧ BeginsInterface d.body) ∧
      both.body = first.body ++ "\n" ++ second.body ∧
      (∀ i, i ∈ both.imports ↔
        (i ∈ first.imports ∨ i ∈ second.imports) ∧ i.typeName ∉ (xs ++ ys).map typeNameOf) ∧
      (both.imports.map (·.typeName)).Pairwise
        (fun s t => Text.BytesLt s.toUTF8.data.toList t.toUTF8.data.toList) ∧
      (∀ name ∈ xs ++ ys, ∃ alone, catalog.declare policy [name] = .ok alone ∧
        alone.body = catalog.block policy name) ∧
      ∀ others, others.Perm (xs ++ ys) →
        ∃ d, catalog.declare policy others = .ok d ∧ d.imports = both.imports ∧
          d.body = "\n".intercalate (others.map (catalog.block policy)) := by
  have declares {requested : List String} (part : ∀ name ∈ requested, name ∈ xs ++ ys) :
      ∃ d, catalog.declare policy requested = .ok d :=
    frozen.exists_declare fun name mem => registered name (part name mem)
  obtain ⟨first, isFirst⟩ := declares fun _ => List.mem_append_left ys
  obtain ⟨second, isSecond⟩ := declares fun _ => List.mem_append_right xs
  obtain ⟨both, isBoth⟩ := declares fun _ mem => mem
  have any : xs ++ ys ≠ [] := List.append_ne_nil_of_left_ne_nil hx ys
  refine ⟨first, second, both, isFirst, isSecond, isBoth, ?_, ?_, ?_, ?_, ?_, ?_⟩
  · simp only [List.forall_mem_cons, List.not_mem_nil, false_imp_iff, implies_true, and_true]
    exact ⟨text_of_declare isFirst hx, text_of_declare isSecond hy, text_of_declare isBoth any⟩
  · rw [body_of_declare isBoth, body_of_declare isFirst, body_of_declare isSecond, List.map_append]
    exact String.intercalate_append_of_ne_nil (List.map_eq_nil_iff.not.mpr hx)
      (List.map_eq_nil_iff.not.mpr hy)
  · intro i
    rw [imports_of_declare isBoth, imports_of_declare isFirst, imports_of_declare isSecond]
    exact frozen.mem_imports_append_iff registered
  · rw [imports_of_declare isBoth, imports_eq_map, List.map_map]
    exact bytesLt_typeNames_sortedForeign
  · intro name mem
    have part : ∀ other ∈ [name], other ∈ xs ++ ys := by simpa using mem
    obtain ⟨alone, isAlone⟩ := declares part
    exact ⟨alone, isAlone, (block_of_declare isAlone).symm⟩
  · intro others perm
    obtain ⟨d, isDeclared⟩ := declares fun _ mem => perm.mem_iff.mp mem
    refine ⟨d, isDeclared, ?_, body_of_declare isDeclared⟩
    rw [imports_of_declare isDeclared, imports_of_declare isBoth]
    exact frozen.imports_congr fun _ => perm.mem_iff

end Frozen

/-- What one of two requests declares, the other imports no longer, and what both import is imported
once. -/
theorem declare_append_events :
    ∃ first second both reordered : Declarations,
      eventCatalog.declare eventPolicy ["visit"] = .ok first ∧
      eventCatalog.declare eventPolicy ["event", "visit"] = .ok second ∧
      eventCatalog.declare eventPolicy ["visit", "event", "visit"] = .ok both ∧
      eventCatalog.declare eventPolicy ["visit", "visit", "event"] = .ok reordered ∧
      first.imported = ["Event", "Zone"] ∧ second.imported = ["Account", "Zone"] ∧
      both.imported = ["Account", "Zone"] ∧ reordered.imports = both.imports ∧
      both.body = first.body ++ "\n" ++ second.body ∧
      reordered.body =
        "\n".intercalate (["visit", "visit", "event"].map (eventCatalog.block eventPolicy)) := by
  have frozen : eventCatalog.Frozen := by decide +kernel
  have registered : ∀ name ∈ ["visit"] ++ ["event", "visit"],
      eventCatalog.contains name = true := by
    decide +kernel
  obtain ⟨first, second, both, isFirst, isSecond, isBoth, -, body, -, -, -, reorder⟩ :=
    frozen.declare_append eventPolicy (List.cons_ne_nil _ _) (List.cons_ne_nil _ _) registered
  have perm : ["visit", "visit", "event"].Perm (["visit"] ++ ["event", "visit"]) := by decide
  obtain ⟨reordered, isReordered, imports, blocks⟩ := reorder _ perm
  have imported {requested : List String} {d : Declarations} {typeNames : List String}
      (isDeclared : eventCatalog.declare eventPolicy requested = .ok d)
      (shown : (eventCatalog.declare eventPolicy requested).map (·.imported) = .ok typeNames) :
      d.imported = typeNames := by
    rw [isDeclared] at shown
    exact Except.ok.inj shown
  exact ⟨first, second, both, reordered, isFirst, isSecond, isBoth, isReordered,
    imported isFirst (by decide +kernel), imported isSecond (by decide +kernel),
    imported isBoth (by decide +kernel), imports, body, blocks⟩

end SchemaTypes.Catalog
