import SchemaTypes.Project.Output
import SchemaTypes.Proofs.Declaration.Imports

/-!
Where type names stand in the text of a file.

`FileText` says of a text that it is a file which imports, declares and refers to certain type
names, each of them at its place: a line for each import, a block for each interface, and in a block
a line for each member, which refers to an interface or has a type as fields have. Apart from the
header and empty lines, nothing else is in such a text. Declarations are written as such a text, for
the type names that they import, declare and refer to, in their order
(`Catalog.fileText_of_declare`).
-/

namespace SchemaTypes

/-! ### Texts and their type names -/

/-- A text of imports, with one line for each type name. -/
inductive ImportLines : List String → String → Prop where
  | nil : ImportLines [] ""
  | cons {typeName path rest : String} {typeNames : List String} :
      ImportLines typeNames rest →
        ImportLines (typeName :: typeNames)
          ("import type \x7b " ++ typeName ++ " \x7d from '" ++ path ++ "';\n" ++ rest)

/-- What stands before the type of a member: its comment, and its key. -/
def Member.front (m : Member) : String :=
  m.comment ++ (memberIndent ++ Property.key m.name ++ (if m.isOptional then "?" else ""))

/-- A text of members that refer to some type names. Members that refer to none have types as fields
have. -/
inductive MemberLines (typing : KeyTyping) : List String → String → Prop where
  | nil : MemberLines typing [] ""
  | reference {m : Member} {typeName key rest : String} {typeNames : List String} :
      MemberLines typing typeNames rest →
        MemberLines typing (typeName :: typeNames)
          (m.front ++ ": " ++ typeName ++ typing.arguments ++ "['" ++ key ++ "'];\n" ++ rest)
  | field {m : Member} {kind : FieldKind} {rest : String} {typeNames : List String} :
      MemberLines typing typeNames rest →
        MemberLines typing typeNames (m.front ++ ": " ++ kind.typeText typing ++ ";\n" ++ rest)

/-- The texts of interfaces that declare some type names and refer to some. -/
inductive InterfaceBlocks (typing : KeyTyping) :
    List String → List String → List String → Prop where
  | nil : InterfaceBlocks typing [] [] []
  | cons {i : Interface} {members : String} {own declared referenced blocks : List String} :
      MemberLines typing own members → InterfaceBlocks typing declared referenced blocks →
        InterfaceBlocks typing (i.typeName :: declared) (own ++ referenced)
          ((i.comment ++ "export interface " ++ i.typeName ++ typing.parameters ++ " \x7b\n" ++
            members ++ "\x7d\n") :: blocks)

/-- The text of a file that imports, declares and refers to some type names. -/
inductive FileText (typing : KeyTyping) :
    List String → List String → List String → String → Prop where
  | bare : FileText typing [] [] [] outputHeader
  | declaring {imports : String} {imported declared referenced blocks : List String} :
      ImportLines imported imports → InterfaceBlocks typing declared referenced blocks →
      declared ≠ [] →
        FileText typing imported declared referenced
          (outputHeader ++ "\n" ++ (imports ++ (if imported.isEmpty then "" else "\n") ++
            "\n".intercalate blocks))

/-! ### Pieces of declarations -/

theorem importLines_map_text (imports : List Import) :
    ImportLines (imports.map (·.typeName)) (String.join (imports.map (·.text))) := by
  induction imports with
  | nil => exact .nil
  | cons i rest ih =>
    rw [List.map_cons, List.map_cons, String.join_cons]
    exact .cons ih

theorem Member.text_eq_front (typing : KeyTyping) (m : Member) :
    m.text typing = m.front ++ ": " ++ m.type.text typing ++ ";\n" := by
  unfold Member.text Member.line Member.front
  simp only [String.append_assoc]

/-- A member refers to an interface or has a type as fields have. -/
def Member.IsUsual (typing : KeyTyping) (m : Member) : Prop :=
  (∃ typeName key, m.type = .memberOf typeName key) ∨
    ∃ kind : FieldKind, m.type = .named (kind.typeText typing)

variable {typing : KeyTyping}

theorem memberLines_map_text {members : List Member} (usual : ∀ m ∈ members, m.IsUsual typing) :
    MemberLines typing (members.filterMap (·.type.target?))
      (String.join (members.map (·.text typing))) := by
  induction members with
  | nil => exact .nil
  | cons m rest ih =>
    obtain ⟨isUsual, others⟩ := List.forall_mem_cons.mp usual
    rw [List.map_cons, String.join_cons, Member.text_eq_front]
    rcases isUsual with ⟨typeName, key, type⟩ | ⟨kind, type⟩
    · have closing : "']" ++ ";\n" = "'];\n" := rfl
      have text : m.front ++ ": " ++ m.type.text typing ++ ";\n" =
          m.front ++ ": " ++ typeName ++ typing.arguments ++ "['" ++ key ++ "'];\n" := by
        rw [type, MemberType.text, ← closing]
        simp only [String.append_assoc]
      rw [text]
      simp only [List.filterMap_cons, type, MemberType.target?]
      exact .reference (ih others)
    · simp only [List.filterMap_cons, type, MemberType.target?, MemberType.text]
      exact .field (ih others)

theorem interfaceBlocks_map_text {interfaces : List Interface}
    (usual : ∀ i ∈ interfaces, ∀ m ∈ i.members, m.IsUsual typing) :
    InterfaceBlocks typing (interfaces.map (·.typeName))
      (interfaces.flatMap fun i => i.members.filterMap (·.type.target?))
      (interfaces.map (·.text typing)) := by
  induction interfaces with
  | nil => exact .nil
  | cons i rest ih =>
    obtain ⟨first, others⟩ := List.forall_mem_cons.mp usual
    rw [List.map_cons, List.map_cons, List.flatMap_cons]
    exact .cons (memberLines_map_text first) (ih others)

/-! ### Files -/

variable {catalog : Catalog} {policy : Policy} {requested : List String} {d : Declarations}

/-- Members that stand for keys, fields and relationships are usual. -/
theorem Catalog.isUsual_of_interface {name : String} {i : Interface}
    (h : catalog.interface policy name = .ok i) : ∀ m ∈ i.members, m.IsUsual policy.typing := by
  intro m mem
  obtain ⟨c, -, isInterface⟩ := interface_eq_ok_iff.mp h
  rcases origin_of_member isInterface mem with rfl | ⟨f, -, rfl⟩ | ⟨r, -, target, -, rfl⟩
  · exact .inr ⟨.autoPk, rfl⟩
  · exact .inr ⟨f.kind, rfl⟩
  · exact .inl ⟨_, _, rfl⟩

theorem BeginsInterface.ne_empty {s : String} (h : BeginsInterface s) : s ≠ "" := by
  rintro rfl
  obtain ⟨rest, begins | begins⟩ := h <;> simp at begins

theorem Declarations.text_ne_empty (any : d.interfaces ≠ []) : d.text ≠ "" := by
  intro empty
  have noBody : d.body = "" := (String.append_eq_empty_iff.mp empty).2
  exact (beginsInterface_body any).ne_empty noBody

/-- Declarations are written as a file that imports, declares and refers to what they do. -/
theorem Catalog.fileText_of_declare (h : catalog.declare policy requested = .ok d) :
    FileText policy.typing d.imported d.declared d.referenced (outputContent d.text) := by
  by_cases nothing : requested = []
  · subst nothing
    obtain rfl : ⟨policy.typing, [], []⟩ = d := Except.ok.inj h
    exact .bare
  · have any : d.interfaces ≠ [] := (interfaces_eq_nil_iff h).not.mpr nothing
    obtain ⟨interfaces, each, rfl⟩ := declare_eq_ok_iff.mp h
    have usual : ∀ i ∈ interfaces, ∀ m ∈ i.members, m.IsUsual policy.typing := by
      intro i mem
      obtain ⟨name, -, isInterface⟩ := exists_left_of_forall₂ each mem
      exact isUsual_of_interface isInterface
    have imports := importLines_map_text (catalog.imports policy requested)
    have blocks := interfaceBlocks_map_text usual
    unfold outputContent
    rw [if_neg (Declarations.text_ne_empty any), Declarations.text, importsText,
      ← List.isEmpty_map (f := (·.typeName))]
    exact .declaring imports blocks (List.map_eq_nil_iff.not.mpr any)

end SchemaTypes
