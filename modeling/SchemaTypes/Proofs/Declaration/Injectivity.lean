import SchemaTypes.Proofs.Declaration.OfCatalog
import SchemaTypes.Proofs.Declaration.Reading
import SchemaTypes.Proofs.Identifier.Ascii

/-!
The text of declarations tells what was declared.

A request is legible if the names of all collections are made of letters, digits and separators, and
no other name and no import path has a line feed. What it declares can be read back from its text
(`Legible.exists_declare`), so legible requests with the same text declare the same
(`declarations_eq_of_text_eq`), however their names imitate the syntax.
-/

namespace SchemaTypes

theorem isWord_typeText (typing : KeyTyping) (kind : FieldKind) :
    IsWord (kind.typeText typing) := by
  cases kind <;> cases typing <;> decide +kernel

theorem plain_implicitMember (policy : Policy) : (implicitMember policy).Plain where
  docs := rfl
  name := show IsLine Collection.implicitKey by decide
  type := isWord_typeText policy.typing .autoPk

namespace Catalog

/-- A request for declarations without comments that can be read back. -/
structure Legible (catalog : Catalog) (policy : Policy) (requested : List String) : Prop where
  frozen : catalog.Frozen
  registered : ∀ name ∈ requested, catalog.contains name = true
  undocumented : policy.docs = false
  names : ∀ c ∈ catalog.collections, Identifier.PlainName c.name
  fields : ∀ c ∈ catalog.collections, ∀ f ∈ c.fields, IsLine f.name
  labels : ∀ c ∈ catalog.collections, ∀ r ∈ c.relationships, ∀ label ∈ r.label, IsLine label
  paths : ∀ i ∈ catalog.imports policy requested, IsLine i.path

namespace Legible

variable {catalog : Catalog} {policy : Policy} {requested : List String} {c : Collection}
  (h : catalog.Legible policy requested)
include h

theorem docsOf (description : Option String) : policy.docsOf description = none := by
  simp [Policy.docsOf, h.undocumented]

theorem isWord_typeName (mem : c ∈ catalog.collections) : IsWord c.typeName := by
  intro x isMember
  exact isAlphanum_of_mem_typeNameOf (h.names c mem) isMember

theorem isLine_primaryKey (mem : c ∈ catalog.collections) : IsLine c.primaryKey := by
  unfold Collection.primaryKey
  cases found : c.keyField? with
  | none => decide
  | some f => exact h.fields c mem f (List.mem_of_find?_eq_some found)

theorem isLine_member (mem : c ∈ catalog.collections) {r : Relationship}
    (hr : r ∈ c.relationships) : IsLine r.member := by
  unfold Relationship.member
  cases isLabel : r.label with
  | some label => exact h.labels c mem r hr label isLabel
  | none =>
    -- The name of the target is that of a collection.
    obtain ⟨target, found⟩ := h.frozen.exists_target mem hr
    rw [Option.getD_none, ← name_of_find? found]
    intro newline
    exact absurd (h.names target (mem_of_find? found) _ newline) (by decide)

theorem plain_toMember (mem : c ∈ catalog.collections) {f : Field} (hf : f ∈ c.fields) :
    (f.toMember policy).Plain where
  docs := h.docsOf f.description
  name := h.fields c mem f hf
  type := isWord_typeText policy.typing f.kind

theorem plain_interface {name : String} {i : Interface}
    (isInterface : catalog.interface policy name = .ok i) : i.Plain := by
  obtain ⟨c, found, isInterface⟩ := interface_eq_ok_iff.mp isInterface
  have mem := mem_of_find? found
  have members : ∀ m ∈ i.members, m.Plain := by
    intro m isMember
    rcases origin_of_member isInterface isMember with
      rfl | ⟨f, hf, rfl⟩ | ⟨r, hr, target, isTarget, rfl⟩
    · exact plain_implicitMember policy
    · exact h.plain_toMember mem hf
    · have memTarget := mem_of_find? isTarget
      exact ⟨rfl, h.isLine_member mem hr, h.isWord_typeName memTarget,
        h.isLine_primaryKey memTarget⟩
  obtain ⟨references, -, rfl⟩ := interfaceOf_eq_ok_iff.mp isInterface
  exact ⟨h.docsOf c.description, h.isWord_typeName mem, members⟩

theorem plain_imports : ∀ i ∈ catalog.imports policy requested, i.Plain := by
  intro i mem
  obtain ⟨c, isForeign, rfl⟩ := List.mem_map.mp (mem_of_mem_sortKeyed mem)
  exact ⟨h.isWord_typeName (mem_of_mem_foreign isForeign), h.paths _ mem⟩

theorem plain_of_declare {d : Declarations}
    (isDeclared : catalog.declare policy requested = .ok d) : d.Plain := by
  obtain ⟨interfaces, each, rfl⟩ := declare_eq_ok_iff.mp isDeclared
  refine ⟨h.plain_imports, fun i mem => ?_⟩
  obtain ⟨name, -, isInterface⟩ := exists_left_of_forall₂ each mem
  exact h.plain_interface isInterface

/-- What a legible request declares is read back from its text. -/
theorem exists_declare :
    ∃ d, catalog.declare policy requested = .ok d ∧
      Declarations.read policy.typing d.text = some d := by
  have declares : ∃ d, catalog.declare policy requested = .ok d :=
    h.frozen.exists_declare h.registered
  obtain ⟨d, isDeclared⟩ := declares
  have typing : d.typing = policy.typing := by
    obtain ⟨interfaces, -, rfl⟩ := declare_eq_ok_iff.mp isDeclared
    rfl
  refine ⟨d, isDeclared, ?_⟩
  rw [← typing]
  exact Declarations.read_text (h.plain_of_declare isDeclared)

end Legible

/-- Legible requests with the same text declare the same: the same imports, with their type names
and paths, and the same interfaces, with their type names and, in order, the names of their members,
which of them are optional, and their types. -/
theorem declarations_eq_of_text_eq {first second : Catalog} {p q : Policy} {xs ys : List String}
    (isFirst : first.Legible p xs) (isSecond : second.Legible q ys) (typing : p.typing = q.typing) :
    ∃ d e, first.declare p xs = .ok d ∧ second.declare q ys = .ok e ∧
      (d.text = e.text → d = e) := by
  obtain ⟨d, isDeclared, isRead⟩ := isFirst.exists_declare
  obtain ⟨e, isDeclared', isRead'⟩ := isSecond.exists_declare
  refine ⟨d, e, isDeclared, isDeclared', fun eq => ?_⟩
  rw [typing, eq, isRead'] at isRead
  exact (Option.some.inj isRead).symm

/-! ### Names that imitate the syntax -/

/-- A collection whose members are called like pieces of declarations. -/
def mimic : Collection where
  name := "mimic 1"
  description := none
  fields := [
    ⟨"it's: number;", .autoPk, false, none⟩,
    ⟨"a?", .string, true, none⟩,
    ⟨"\\", .json, false, none⟩,
    ⟨"\x7d", .datetime, false, none⟩]
  relationships := [
    ⟨.childOf, "other", some "import type \x7b A \x7d from 'a';", true⟩,
    ⟨.childOf, "mimic 1", some "';", false⟩]
  indices := []

/-- A catalog with such a collection, which refers to one with a primary key of the kind. -/
def mimicFirst : Catalog where
  entries := [
    ⟨"A", mimic⟩,
    ⟨"B", ⟨"other", none, [⟨"k']: 'x", .autoPk, false, none⟩], [], []⟩⟩]

/-- A catalog with the same collections, in which all has changed that is not declared with the
first. -/
def mimicLast : Catalog where
  entries := [
    ⟨"C", ⟨"other", some "?",
      [⟨"k']: 'x", .autoPk, false, none⟩, ⟨"n", .int, true, none⟩], [], ["n"]⟩⟩,
    ⟨"C", mimic⟩]

/-- A policy with import paths that look like the ends of imports. -/
def mimicPolicy : Policy :=
  ⟨.generic, false, fun name => name ++ "';"⟩

theorem declarations_eq_of_text_eq_mimic :
    ∃ d e, mimicFirst.declare mimicPolicy ["mimic 1"] = .ok d ∧
      mimicLast.declare mimicPolicy ["mimic 1"] = .ok e ∧ d.text = e.text ∧ d = e := by
  have isFirst : mimicFirst.Legible mimicPolicy ["mimic 1"] :=
    ⟨by decide +kernel, by decide +kernel, rfl, by decide +kernel, by decide +kernel,
      by decide +kernel, by decide +kernel⟩
  have isLast : mimicLast.Legible mimicPolicy ["mimic 1"] :=
    ⟨by decide +kernel, by decide +kernel, rfl, by decide +kernel, by decide +kernel,
      by decide +kernel, by decide +kernel⟩
  obtain ⟨d, e, isDeclared, isDeclared', determined⟩ :=
    declarations_eq_of_text_eq isFirst isLast rfl
  have sameText : (mimicFirst.declare mimicPolicy ["mimic 1"]).map (·.text) =
      (mimicLast.declare mimicPolicy ["mimic 1"]).map (·.text) := by
    decide +kernel
  rw [isDeclared, isDeclared'] at sameText
  have eq := Except.ok.inj sameText
  exact ⟨d, e, isDeclared, isDeclared', eq, determined eq⟩

end Catalog

end SchemaTypes
