import SchemaTypes.Proofs.Declaration.Comment
import SchemaTypes.Proofs.Declaration.Line
import SchemaTypes.Proofs.Declaration.OfCatalog
import SchemaTypes.Proofs.Identifier.Letters

/-!
Comments are decoration.

Descriptions go into comments only: without them the same is declared (`declare_bare`). If no name
and no import path has a star in it, deleting the comments from the text of declarations gives the
text of the declarations without comments, whatever the descriptions are
(`Catalog.Starless.strip_declare`).
-/

namespace SchemaTypes

/-! ### Without comments -/

/-- A member without its comment. -/
def Member.bare (m : Member) : Member :=
  { m with docs := none }

/-- An interface without its comments. -/
def Interface.bare (i : Interface) : Interface :=
  { i with docs := none, members := i.members.map Member.bare }

/-- Declarations without comments. -/
def Declarations.bare (d : Declarations) : Declarations :=
  { d with interfaces := d.interfaces.map Interface.bare }

namespace Catalog

variable {catalog : Catalog}

theorem bare_references {c : Collection} {references : List Member}
    (h : c.relationships.mapM (catalog.reference c) = .ok references) :
    references.map Member.bare = references := by
  refine (List.map_congr_left ?_).trans (List.map_id references)
  intro m isReference
  obtain ⟨r, -, made⟩ := exists_left_of_forall₂ (mapM_eq_ok_iff.mp h) isReference
  obtain ⟨target, -, rfl⟩ := reference_eq_ok_iff.mp made
  rfl

theorem interfaceOf_bare (policy : Policy) (c : Collection) :
    catalog.interfaceOf { policy with docs := false } c =
      (catalog.interfaceOf policy c).map Interface.bare := by
  unfold interfaceOf
  cases made : c.relationships.mapM (catalog.reference c) with
  | error fault => rfl
  | ok references =>
    have fields : (c.fields.map (·.toMember policy)).map Member.bare =
        c.fields.map (·.toMember { policy with docs := false }) :=
      List.map_map
    show Except.ok _ = Except.ok (Interface.bare _)
    unfold Interface.bare
    rw [List.map_append, List.map_append, bare_references made, fields]
    cases c.hasKeyField <;> rfl

theorem interface_bare (policy : Policy) (name : String) :
    catalog.interface { policy with docs := false } name =
      (catalog.interface policy name).map Interface.bare := by
  unfold interface
  cases catalog.find? name with
  | none => rfl
  | some c => exact interfaceOf_bare policy c

/-- Without comments the same is declared, or the same fault comes up. -/
theorem declare_bare (policy : Policy) (requested : List String) :
    catalog.declare { policy with docs := false } requested =
      (catalog.declare policy requested).map Declarations.bare := by
  unfold declare
  rw [funext (interface_bare policy), ← map_mapM]
  cases requested.mapM (catalog.interface policy) <;> rfl

end Catalog

/-! ### Texts without stars -/

/-- A text without stars. -/
def Starless (s : String) : Prop :=
  '*' ∉ s.toList

instance (s : String) : Decidable (Starless s) :=
  decidable_of_iff (s.toList.contains '*' = false) (by simp [Starless])

/-- A member whose names have no stars. -/
structure Member.Starless (m : Member) : Prop where
  name : SchemaTypes.Starless m.name
  type : ∀ typing, SchemaTypes.Starless (m.type.text typing)

/-- An interface whose names have no stars. -/
structure Interface.Starless (i : Interface) : Prop where
  typeName : SchemaTypes.Starless i.typeName
  members : ∀ m ∈ i.members, m.Starless

/-- An import whose names have no stars. -/
structure Import.Starless (i : Import) : Prop where
  typeName : SchemaTypes.Starless i.typeName
  path : SchemaTypes.Starless i.path

/-- Declarations whose names have no stars. -/
structure Declarations.Starless (d : Declarations) : Prop where
  imports : ∀ i ∈ d.imports, i.Starless
  interfaces : ∀ i ∈ d.interfaces, i.Starless

open Comment

/-- What is left of some texts, one after the other. -/
theorem Comment.Leaves.join {α : Type} {f g : α → String} {xs : List α}
    (h : ∀ x ∈ xs, Leaves (f x).toList (g x).toList) :
    Leaves (String.join (xs.map f)).toList (String.join (xs.map g)).toList := by
  rw [String.toList_join, String.toList_join, List.flatMap_map, List.flatMap_map]
  induction xs with
  | nil => exact .nil
  | cons x rest ih =>
    obtain ⟨first, others⟩ := List.forall_mem_cons.mp h
    exact first.append (ih others)

/-- What is left of some texts with an empty line between them. -/
theorem Comment.Leaves.intercalate {α : Type} {f g : α → String} {xs : List α}
    (h : ∀ x ∈ xs, Leaves (f x).toList (g x).toList) :
    Leaves (String.intercalate "\n" (xs.map f)).toList
      (String.intercalate "\n" (xs.map g)).toList := by
  induction xs with
  | nil => exact .nil
  | cons x rest ih =>
    obtain ⟨first, others⟩ := List.forall_mem_cons.mp h
    cases rest with
    | nil => simpa using first
    | cons next rest =>
      have emptyLine : Leaves ['\n'] ['\n'] := leaves_line List.not_mem_nil
      simpa [String.intercalate_cons_cons] using first.append (emptyLine.append (ih others))

theorem Member.leaves_comment (m : Member) : Leaves m.comment.toList [] := by
  unfold Member.comment
  cases m.docs with
  | none => exact .nil
  | some docs => exact leaves_compact rfl docs

theorem Interface.leaves_comment (i : Interface) : Leaves i.comment.toList [] := by
  unfold Interface.comment
  cases i.docs with
  | none => exact .nil
  | some docs => exact leaves_block rfl docs

theorem Member.bare_text (m : Member) (typing : KeyTyping) :
    m.bare.text typing = m.line typing :=
  String.empty_append

theorem Member.Starless.star_notMem_chars {m : Member} (h : m.Starless) (typing : KeyTyping) :
    '*' ∉ m.chars typing := by
  have noKey : '*' ∉ (Property.key m.name).toList := by
    intro mem
    rcases Property.mem_of_mem_key mem with inName | isQuote | isBackslash
    · exact h.name inName
    · exact absurd isQuote (by decide)
    · exact absurd isBackslash (by decide)
  have noType : '*' ∉ (m.type.text typing).toList := h.type typing
  have noMark : '*' ∉ (if m.isOptional then "?" else "").toList := by
    cases m.isOptional <;> decide
  simp only [Member.chars, List.mem_append]
  simp [noKey, noType, noMark, memberIndent]

/-- The line of a member is left of its text. -/
theorem Member.Starless.leaves {m : Member} (h : m.Starless) (typing : KeyTyping) :
    Leaves (m.text typing).toList (m.bare.text typing).toList := by
  have line := leaves_line (h.star_notMem_chars typing)
  rw [← Member.toList_line] at line
  have whole := m.leaves_comment.append line
  rw [List.nil_append, ← String.toList_append] at whole
  rw [Member.bare_text]
  exact whole

/-- The first line of an interface, its members and its last line are left of its text. -/
theorem Interface.Starless.leaves {i : Interface} (h : i.Starless) (typing : KeyTyping) :
    Leaves (i.text typing).toList (i.bare.text typing).toList := by
  have noHeader : '*' ∉ headerChars typing i.typeName := by
    have noTypeName : '*' ∉ i.typeName.toList := h.typeName
    have noParameters : '*' ∉ typing.parameters.toList := by
      cases typing <;> decide
    unfold headerChars
    simp [noTypeName, noParameters]
  have members : Leaves (String.join (i.members.map (·.text typing))).toList
      (String.join (i.members.map (·.bare.text typing))).toList :=
    Leaves.join fun m mem => (h.members m mem).leaves typing
  have closing : Leaves ['\x7d', '\n'] ['\x7d', '\n'] := leaves_line (l := ['\x7d']) (by decide)
  have whole := i.leaves_comment.append ((leaves_line noHeader).append (members.append closing))
  have bareMembers : i.bare.members.map (·.text typing) = i.members.map (·.bare.text typing) :=
    List.map_map
  have noComment : i.bare.comment = "" := rfl
  unfold Interface.text
  rw [bareMembers, noComment]
  unfold headerChars at whole
  simpa [Interface.bare] using whole

/-- The line of an import is left as it is. -/
theorem Import.Starless.leaves {i : Import} (h : i.Starless) :
    Leaves i.text.toList i.text.toList := by
  have noTypeName : '*' ∉ i.typeName.toList := h.typeName
  have noPath : '*' ∉ i.path.toList := h.path
  have noStar : '*' ∉ i.chars := by
    unfold Import.chars
    simp [noTypeName, noPath]
  rw [Import.toList_text]
  exact leaves_line noStar

theorem leaves_importsText {imports : List Import} (h : ∀ i ∈ imports, i.Starless) :
    Leaves (importsText imports).toList (importsText imports).toList := by
  have lines : Leaves (String.join (imports.map (·.text))).toList
      (String.join (imports.map (·.text))).toList :=
    Leaves.join fun i mem => (h i mem).leaves
  have ending : Leaves (if imports.isEmpty then "" else "\n").toList
      (if imports.isEmpty then "" else "\n").toList := by
    split
    · exact .nil
    · exact leaves_line List.not_mem_nil
  unfold importsText
  rw [String.toList_append]
  exact lines.append ending

/-- The text without comments is left of the text of declarations. -/
theorem Declarations.Starless.strip_text {d : Declarations} (h : d.Starless) :
    strip d.text.toList = d.bare.text.toList := by
  have interfaces : Leaves (String.intercalate "\n" (d.interfaces.map (·.text d.typing))).toList
      (String.intercalate "\n" (d.interfaces.map (·.bare.text d.typing))).toList :=
    Leaves.intercalate fun i mem => (h.interfaces i mem).leaves d.typing
  have bareInterfaces :
      d.bare.interfaces.map (·.text d.typing) = d.interfaces.map (·.bare.text d.typing) :=
    List.map_map
  have bareBody :
      d.bare.body = String.intercalate "\n" (d.interfaces.map (·.bare.text d.typing)) := by
    rw [Declarations.body, ← bareInterfaces]
    rfl
  rw [text, text, String.toList_append, String.toList_append, bareBody]
  exact ((leaves_importsText h.imports).append interfaces).strip_eq

/-! ### Catalogs without stars -/

namespace Catalog

/-- A request for declarations in which no name and no import path has a star. -/
structure Starless (catalog : Catalog) (policy : Policy) (requested : List String) : Prop where
  names : ∀ c ∈ catalog.collections, SchemaTypes.Starless c.name
  fields : ∀ c ∈ catalog.collections, ∀ f ∈ c.fields, SchemaTypes.Starless f.name
  labels : ∀ c ∈ catalog.collections, ∀ r ∈ c.relationships, ∀ label ∈ r.label,
    SchemaTypes.Starless label
  paths : ∀ i ∈ catalog.imports policy requested, SchemaTypes.Starless i.path

theorem starless_implicitMember (policy : Policy) : (implicitMember policy).Starless := by
  constructor
  · show SchemaTypes.Starless "id"
    decide
  · intro typing
    show SchemaTypes.Starless policy.typing.keyType
    cases policy.typing <;> decide

namespace Starless

variable {catalog : Catalog} {policy : Policy} {requested : List String} {c : Collection}
  (h : catalog.Starless policy requested)
include h

/-- Type names get no stars either. -/
theorem typeName (mem : c ∈ catalog.collections) : SchemaTypes.Starless c.typeName := by
  intro star
  exact h.names c mem (mem_of_mem_typeNameOf star (by decide))

theorem primaryKey (mem : c ∈ catalog.collections) : SchemaTypes.Starless c.primaryKey := by
  unfold Collection.primaryKey
  cases found : c.keyField? with
  | none => decide
  | some f => exact h.fields c mem f (List.mem_of_find?_eq_some found)

theorem member (mem : c ∈ catalog.collections) {r : Relationship} (hr : r ∈ c.relationships)
    {target : Collection} (isTarget : catalog.find? r.target = some target) :
    SchemaTypes.Starless r.member := by
  unfold Relationship.member
  cases isLabel : r.label with
  | some label => exact h.labels c mem r hr label isLabel
  | none =>
    rw [Option.getD_none, ← name_of_find? isTarget]
    exact h.names target (mem_of_find? isTarget)

theorem fieldMember (mem : c ∈ catalog.collections) {f : Field} (hf : f ∈ c.fields) :
    (f.toMember policy).Starless := by
  refine ⟨h.fields c mem f hf, ?_⟩
  intro typing
  show SchemaTypes.Starless (f.kind.typeText policy.typing)
  cases f.kind <;> cases policy.typing <;> decide

theorem reference (mem : c ∈ catalog.collections) {r : Relationship} (hr : r ∈ c.relationships)
    {target : Collection} (isTarget : catalog.find? r.target = some target) :
    (r.toMember target).Starless := by
  refine ⟨h.member mem hr isTarget, ?_⟩
  intro typing
  have noTypeName : '*' ∉ target.typeName.toList := h.typeName (mem_of_find? isTarget)
  have noKey : '*' ∉ target.primaryKey.toList := h.primaryKey (mem_of_find? isTarget)
  have noArguments : '*' ∉ typing.arguments.toList := by
    cases typing <;> decide
  simp [SchemaTypes.Starless, Relationship.toMember, MemberType.text, noTypeName, noKey,
    noArguments]

theorem interface {name : String} {i : Interface}
    (isInterface : catalog.interface policy name = .ok i) : i.Starless := by
  obtain ⟨c, found, isInterface⟩ := interface_eq_ok_iff.mp isInterface
  have mem := mem_of_find? found
  have members : ∀ m ∈ i.members, m.Starless := by
    intro m isMember
    rcases origin_of_member isInterface isMember with
      rfl | ⟨f, hf, rfl⟩ | ⟨r, hr, target, isTarget, rfl⟩
    · exact starless_implicitMember policy
    · exact h.fieldMember mem hf
    · exact h.reference mem hr isTarget
  obtain ⟨references, -, rfl⟩ := interfaceOf_eq_ok_iff.mp isInterface
  exact ⟨h.typeName mem, members⟩

theorem declarations {d : Declarations} (isDeclared : catalog.declare policy requested = .ok d) :
    d.Starless := by
  obtain ⟨interfaces, each, rfl⟩ := declare_eq_ok_iff.mp isDeclared
  constructor
  · intro i isImport
    obtain ⟨c, isForeign, rfl⟩ := List.mem_map.mp (mem_of_mem_sortKeyed isImport)
    exact ⟨h.typeName (mem_of_mem_foreign isForeign), h.paths _ isImport⟩
  · intro i isInterface
    obtain ⟨name, -, isInterface⟩ := exists_left_of_forall₂ each isInterface
    exact h.interface isInterface

end Starless

/-- Comments are decoration: if no name and no import path has a star in it, the text of
declarations with comments becomes that without comments when the comments are deleted, whatever the
descriptions are. What cannot be declared fails in the same way with and without comments, and in a
frozen catalog all that is registered can be declared. -/
theorem Starless.strip_declare {catalog : Catalog} {policy : Policy} {requested : List String}
    (h : catalog.Starless policy requested) (frozen : catalog.Frozen) :
    (catalog.declare { policy with docs := true } requested).map
        (fun d => String.ofList (strip d.text.toList)) =
      (catalog.declare { policy with docs := false } requested).map (·.text) ∧
    ((∀ name ∈ requested, catalog.contains name = true) →
      ∃ d, catalog.declare { policy with docs := true } requested = .ok d) := by
  refine ⟨?_, fun registered => frozen.exists_declare registered⟩
  have documented : catalog.Starless { policy with docs := true } requested :=
    ⟨h.names, h.fields, h.labels, h.paths⟩
  rw [declare_bare { policy with docs := true } requested]
  cases isDeclared : catalog.declare { policy with docs := true } requested with
  | error fault => rfl
  | ok d =>
    show Except.ok (String.ofList (strip d.text.toList)) = Except.ok d.bare.text
    rw [(documented.declarations isDeclared).strip_text, String.ofList_toList]

/-- A collection whose descriptions are made of what begins and ends comments and lines. -/
def hostileNote : Collection where
  name := "note"
  description := some "*/ and /** more\r\n\n**/"
  fields := [
    ⟨"it's", .autoPk, false, some ""⟩,
    ⟨"/", .text, true, some "a */ b /**\r"⟩,
    ⟨"size", .int, false, some "*\n/ export interface A \x7b\n"⟩,
    ⟨"tag", .string, false, none⟩]
  relationships := [⟨.childOf, "team", some "by", false⟩]
  indices := []

/-- A catalog with it. -/
def hostileCatalog : Catalog where
  entries := [⟨"Notes", hostileNote⟩, ⟨"Teams", ⟨"team", some "unseen", [], [], []⟩⟩]

/-- A policy that leaves comments out. -/
def hostilePolicy : Policy :=
  ⟨.string, false, fun name => "./" ++ name⟩

theorem strip_declare_hostile :
    ∃ d, hostileCatalog.declare { hostilePolicy with docs := true } ["note"] = .ok d ∧
      d.text =
        "import type \x7b Team \x7d from './team';\n\n" ++
        "/**\n * *\\/ and /** more\n * \n * **\\/\n */\nexport interface Note \x7b\n" ++
        "    /**  */\n    'it\\'s': string;\n" ++
        "    /** a *\\/ b /**\r */\n    '/'?: string;\n" ++
        "    /**\n     * *\n     * / export interface A \x7b\n     */\n    size: number;\n" ++
        "    tag: string;\n    by: Team['id'];\n\x7d\n" ∧
      String.ofList (strip d.text.toList) =
        "import type \x7b Team \x7d from './team';\n\nexport interface Note \x7b\n" ++
        "    'it\\'s': string;\n    '/'?: string;\n    size: number;\n    tag: string;\n" ++
        "    by: Team['id'];\n\x7d\n" := by
  have starless : hostileCatalog.Starless hostilePolicy ["note"] :=
    ⟨by decide +kernel, by decide +kernel, by decide +kernel, by decide +kernel⟩
  have frozen : hostileCatalog.Frozen := by decide +kernel
  obtain ⟨same, returns⟩ := starless.strip_declare frozen
  have declares : ∃ d, hostileCatalog.declare { hostilePolicy with docs := true } ["note"] = .ok d :=
    returns (by decide +kernel)
  obtain ⟨d, isDeclared⟩ := declares
  have text := congrArg (Except.map (·.text)) isDeclared
  rw [isDeclared] at same
  refine ⟨d, isDeclared, Except.ok.inj (text.symm.trans ?_), Except.ok.inj (same.trans ?_)⟩
  · decide +kernel
  · decide +kernel

end Catalog

end SchemaTypes
