import SchemaTypes.Declaration.Text
import SchemaTypes.Proofs.Declaration.Keys
import SchemaTypes.Proofs.Identifier.Letters

/-!
What the names of types stand for.

Declarations write names of three sorts: type names of collections, which are declared or imported;
types that every program has; and the type parameter of an interface. Where one name is of two
sorts, what is written for one stands for the other. A type name begins with no small letter, so of
the types that every program has only `Date` and `Uint8Array` can be hidden by an interface; and the
parameter hides the interface of a collection whose type is called as it is. `Frozen.captures_iff`
says when that happens and which types then stand for something else than the schema says. All
others stand for what it says.
-/

namespace SchemaTypes

/-- What a type stands for. -/
inductive Meaning where
  /-- A type that every program has. -/
  | builtin (name : String)
  /-- The type parameter of the interface in which it is written. -/
  | parameter
  /-- An interface that is declared or imported. -/
  | interface (typeName : String)
  /-- The type of a member. -/
  | member (whole : Meaning) (key : String)
  deriving DecidableEq, Repr

/-! ### What the schema says -/

/-- What the type of a primary key is to stand for. -/
def KeyTyping.meaning : KeyTyping → Meaning
  | .generic => .parameter
  | .number => .builtin "number"
  | .string => .builtin "string"

/-- What the type of a field is to stand for. -/
def FieldKind.meaning (typing : KeyTyping) : FieldKind → Meaning
  | .string | .text => .builtin "string"
  | .json => .builtin "any"
  | .datetime => .builtin "Date"
  | .timestamp | .int | .float => .builtin "number"
  | .boolean => .builtin "boolean"
  | .binary => .builtin "Uint8Array"
  | .autoPk => typing.meaning

/-- What the type of a relationship is to stand for: the primary key of the target. -/
def Collection.keyMeaning (target : Collection) : Meaning :=
  .member (.interface target.typeName) target.primaryKey

/-! ### What is written -/

/-- The names in the type parameters of an interface. -/
def KeyTyping.parameterNames : KeyTyping → List String
  | .generic => ["Pk", "number", "string"]
  | .number | .string => []

/-- The name by which a type goes that refers to no interface. -/
def MemberType.plain? : MemberType → Option String
  | .named name => some name
  | .memberOf _ _ => none

namespace Declarations

/-- A type name that is declared or imported. -/
def Binds (d : Declarations) (name : String) : Prop :=
  name ∈ d.declared ∨ name ∈ d.imported

instance (d : Declarations) (name : String) : Decidable (d.Binds name) :=
  inferInstanceAs (Decidable (_ ∨ _))

/-- The names that are written for something else than an interface. -/
def plainNames (d : Declarations) : List String :=
  d.interfaces.flatMap fun i =>
    d.typing.parameterNames ++ i.members.filterMap (·.type.plain?)

/-- A name is declared or imported, and written for something else as well. -/
def Captures (d : Declarations) (name : String) : Prop :=
  d.Binds name ∧ name ∈ d.plainNames

instance (d : Declarations) (name : String) : Decidable (d.Captures name) :=
  inferInstanceAs (Decidable (_ ∧ _))

/-- What a name stands for within an interface: its type parameter comes first, then what is
declared or imported, then what every program has. -/
def resolve (d : Declarations) (name : String) : Meaning :=
  if d.typing = .generic ∧ name = KeyTyping.generic.keyType then .parameter
  else if d.Binds name then .interface name
  else .builtin name

/-- What the type of a member stands for. -/
def meaning (d : Declarations) : MemberType → Meaning
  | .named name => d.resolve name
  | .memberOf typeName key => .member (d.resolve typeName) key

/-- A type that every program has stands for itself, unless an interface is called so. -/
theorem resolve_eq_builtin_iff (d : Declarations) {name : String}
    (notParameter : name ≠ KeyTyping.generic.keyType) :
    d.resolve name = .builtin name ↔ ¬ d.Binds name := by
  unfold resolve
  rw [if_neg fun both => notParameter both.2]
  by_cases binds : d.Binds name <;> simp [binds]

/-- An interface is found under its name, unless that is the type parameter. -/
theorem resolve_eq_interface_iff {d : Declarations} {name : String} (binds : d.Binds name) :
    d.resolve name = .interface name ↔
      ¬ (d.typing = .generic ∧ name = KeyTyping.generic.keyType) := by
  unfold resolve
  rw [if_pos binds]
  split <;> simp_all

end Declarations

/-! ### Small names -/

/-- The types that every program has and whose names are small. -/
def smallNames : List String :=
  ["string", "any", "number", "boolean"]

/-- No type name is small. -/
theorem typeNameOf_notMem_smallNames (name : String) : typeNameOf name ∉ smallNames := by
  intro small
  have nonempty : ∀ x ∈ smallNames, x ≠ "" := by decide
  have uncapitalized : ∀ x ∈ smallNames, Text.isCapitalized x.toList = false := by decide
  have capitalized := isCapitalized_typeNameOf (nonempty _ small)
  rw [uncapitalized _ small] at capitalized
  cases capitalized

/-- The types of fields have small names, but for those of two kinds and for a parameter. -/
theorem FieldKind.typeText_cases (typing : KeyTyping) (kind : FieldKind) :
    kind.typeText typing ∈ smallNames ∨ kind = .datetime ∧ kind.typeText typing = "Date" ∨
      kind = .binary ∧ kind.typeText typing = "Uint8Array" ∨
      typing = .generic ∧ kind.typeText typing = "Pk" := by
  cases typing <;> cases kind <;> decide

theorem KeyTyping.keyType_cases (typing : KeyTyping) :
    typing.keyType ∈ smallNames ∨ typing.keyType = "Pk" ∧ typing = .generic := by
  cases typing <;> decide

theorem KeyTyping.of_mem_parameterNames (typing : KeyTyping) :
    ∀ name ∈ typing.parameterNames, name ∈ smallNames ∨ name = "Pk" ∧ typing = .generic := by
  cases typing <;> decide

namespace Catalog

/-- A collection is requested, or a requested one has a relationship to it. -/
def Concerns (catalog : Catalog) (requested : List String) (c : Collection) : Prop :=
  c.name ∈ requested ∨
    ∃ name ∈ requested, ∃ source, catalog.find? name = some source ∧ c.name ∈ source.targets

/-- A requested collection has a field of a certain kind. -/
def Renders (catalog : Catalog) (requested : List String) (kind : FieldKind) : Prop :=
  ∃ name ∈ requested, ∃ c, catalog.find? name = some c ∧ ∃ f ∈ c.fields, f.kind = kind

variable {catalog : Catalog} {policy : Policy} {requested : List String} {name : String}
  {d : Declarations}

/-! ### Names that are bound -/

theorem notMem_smallNames_of_binds (h : catalog.declare policy requested = .ok d)
    (binds : d.Binds name) : name ∉ smallNames := by
  rcases binds with isDeclared | isImported
  · rw [declared_of_declare h] at isDeclared
    obtain ⟨collection, -, rfl⟩ := List.mem_map.mp isDeclared
    exact typeNameOf_notMem_smallNames collection
  · obtain ⟨c, -, rfl⟩ := (mem_imported_iff h).mp isImported
    exact typeNameOf_notMem_smallNames c.name

/-- The type names of the collections that are concerned are declared or imported, and no others. -/
theorem Frozen.binds_iff (frozen : catalog.Frozen) (h : catalog.declare policy requested = .ok d) :
    d.Binds name ↔
      ∃ c ∈ catalog.collections, c.typeName = name ∧ catalog.Concerns requested c := by
  constructor
  · rintro (isDeclared | isImported)
    · rw [declared_of_declare h] at isDeclared
      obtain ⟨collection, isRequested, rfl⟩ := List.mem_map.mp isDeclared
      obtain ⟨c, found⟩ := find?_of_declare h isRequested
      have isName := name_of_find? found
      exact ⟨c, mem_of_find? found, typeName_of_find? found, .inl (isName ▸ isRequested)⟩
    · obtain ⟨c, isForeign, rfl⟩ := (mem_imported_iff h).mp isImported
      obtain ⟨own, isRequested, source, found, r, hr, -, isTarget⟩ := mem_foreign_iff.mp isForeign
      refine ⟨c, mem_of_find? isTarget, rfl, .inr ⟨own, isRequested, source, found, ?_⟩⟩
      rw [name_of_find? isTarget]
      exact List.mem_map_of_mem hr
  · rintro ⟨c, mem, rfl, concerned⟩
    by_cases isRequested : c.name ∈ requested
    · left
      rw [declared_of_declare h]
      exact List.mem_map_of_mem isRequested
    · right
      obtain ⟨own, ownRequested, source, found, isTarget⟩ := concerned.resolve_left isRequested
      obtain ⟨r, hr, target⟩ := List.mem_map.mp isTarget
      refine (mem_imported_iff h).mpr ⟨c, mem_foreign_iff.mpr ⟨own, ownRequested, source, found, r,
        hr, ?_, ?_⟩, rfl⟩
      · rwa [target]
      · exact frozen.find?_eq_some_iff.mpr ⟨mem, target.symm⟩

/-! ### Names that are written -/

/-- A name that is written for something else than an interface is small, or the type of a field of
one of two kinds, or the type parameter. -/
theorem of_mem_plainNames (h : catalog.declare policy requested = .ok d)
    (mem : name ∈ d.plainNames) :
    name ∈ smallNames ∨ name = "Date" ∧ catalog.Renders requested .datetime ∨
      name = "Uint8Array" ∧ catalog.Renders requested .binary ∨
      name = "Pk" ∧ policy.typing = .generic := by
  obtain ⟨interfaces, each, rfl⟩ := declare_eq_ok_iff.mp h
  obtain ⟨i, isInterface, mem⟩ := List.mem_flatMap.mp mem
  rcases List.mem_append.mp mem with isParameter | isMember
  · exact (policy.typing.of_mem_parameterNames _ isParameter).imp_right fun isPk => .inr (.inr isPk)
  · obtain ⟨m, isMember, plain⟩ := List.mem_filterMap.mp isMember
    obtain ⟨own, isRequested, hInterface⟩ := exists_left_of_forall₂ each isInterface
    obtain ⟨c, found, isInterfaceOf⟩ := interface_eq_ok_iff.mp hInterface
    rcases origin_of_member isInterfaceOf isMember with rfl | ⟨f, hf, rfl⟩ | ⟨r, -, target, -, rfl⟩
    · obtain rfl := Option.some.inj plain
      exact policy.typing.keyType_cases.imp_right fun isPk => .inr (.inr isPk)
    · obtain rfl := Option.some.inj plain
      rcases f.kind.typeText_cases policy.typing with small | ⟨kind, isDate⟩ | ⟨kind, isBytes⟩ |
        ⟨generic, isPk⟩
      · exact .inl small
      · exact .inr (.inl ⟨isDate, own, isRequested, c, found, f, hf, kind⟩)
      · exact .inr (.inr (.inl ⟨isBytes, own, isRequested, c, found, f, hf, kind⟩))
      · exact .inr (.inr (.inr ⟨isPk, generic⟩))
    · cases plain

/-- The type of a field is written wherever a requested collection has one of its kind. -/
theorem typeText_mem_plainNames (h : catalog.declare policy requested = .ok d) {kind : FieldKind}
    (renders : catalog.Renders requested kind) : kind.typeText policy.typing ∈ d.plainNames := by
  obtain ⟨own, isRequested, c, found, f, hf, rfl⟩ := renders
  obtain ⟨other, i, foundAgain, isInterface, mem⟩ := exists_interface_of_declare h isRequested
  obtain rfl := Option.some.inj (foundAgain.symm.trans found)
  apply List.mem_flatMap.mpr
  refine ⟨i, mem, List.mem_append_right _ ?_⟩
  exact List.mem_filterMap.mpr ⟨_, toMember_mem_members isInterface hf, rfl⟩

/-- The type parameter is written wherever an interface is declared. -/
theorem pk_mem_plainNames (h : catalog.declare policy requested = .ok d)
    (generic : policy.typing = .generic) (isRequested : name ∈ requested) :
    "Pk" ∈ d.plainNames := by
  obtain ⟨c, i, -, -, mem⟩ := exists_interface_of_declare h isRequested
  apply List.mem_flatMap.mpr
  refine ⟨i, mem, List.mem_append_left _ ?_⟩
  rw [typing_of_declare h, generic]
  exact List.mem_cons_self

theorem exists_requested_of_concerns {c : Collection} (h : catalog.Concerns requested c) :
    ∃ name, name ∈ requested := by
  rcases h with isRequested | ⟨own, isRequested, -⟩
  · exact ⟨_, isRequested⟩
  · exact ⟨own, isRequested⟩

/-- A name is captured if it is one of three and the type name of a collection that is concerned. -/
theorem Frozen.captures_iff_concerns (frozen : catalog.Frozen)
    (h : catalog.declare policy requested = .ok d) :
    d.Captures name ↔
      (∃ c ∈ catalog.collections, c.typeName = name ∧ catalog.Concerns requested c) ∧
        (name = "Date" ∧ catalog.Renders requested .datetime ∨
          name = "Uint8Array" ∧ catalog.Renders requested .binary ∨
          name = "Pk" ∧ policy.typing = .generic) := by
  rw [Declarations.Captures, ← frozen.binds_iff h]
  refine and_congr_right fun binds => ?_
  constructor
  · intro mem
    exact (of_mem_plainNames h mem).resolve_left (notMem_smallNames_of_binds h binds)
  · rintro (⟨rfl, renders⟩ | ⟨rfl, renders⟩ | ⟨rfl, generic⟩)
    · exact typeText_mem_plainNames h renders
    · exact typeText_mem_plainNames h renders
    · obtain ⟨c, -, -, concerned⟩ := (frozen.binds_iff h).mp binds
      obtain ⟨own, isRequested⟩ := exists_requested_of_concerns concerned
      exact pk_mem_plainNames h generic isRequested

/-! ### What types stand for -/

theorem resolve_of_mem_smallNames (h : catalog.declare policy requested = .ok d)
    (small : name ∈ smallNames) : d.resolve name = .builtin name := by
  have notParameter : ∀ x ∈ smallNames, x ≠ KeyTyping.generic.keyType := by decide
  unfold Declarations.resolve
  rw [if_neg fun both => notParameter name small both.2,
    if_neg fun binds => notMem_smallNames_of_binds h binds small]

/-- The type of a primary key always stands for what it should. -/
theorem resolve_keyType (h : catalog.declare policy requested = .ok d) :
    d.resolve policy.typing.keyType = policy.typing.meaning := by
  have typing := typing_of_declare h
  cases isTyping : policy.typing with
  | generic => exact if_pos ⟨typing.trans isTyping, rfl⟩
  | number => exact resolve_of_mem_smallNames h (by decide)
  | string => exact resolve_of_mem_smallNames h (by decide)

/-- The type of a field stands for what it should, unless it is `Date` or `Uint8Array` and an
interface is called so. -/
theorem resolve_typeText_iff (h : catalog.declare policy requested = .ok d) (kind : FieldKind) :
    d.resolve (kind.typeText policy.typing) = kind.meaning policy.typing ↔
      ¬ (kind = .datetime ∧ d.Binds "Date") ∧ ¬ (kind = .binary ∧ d.Binds "Uint8Array") := by
  have small : ∀ x ∈ smallNames, d.resolve x = .builtin x := fun x =>
    resolve_of_mem_smallNames h
  have neither {kind : FieldKind} (noDate : kind ≠ .datetime) (noBytes : kind ≠ .binary) :
      ¬ (kind = .datetime ∧ d.Binds "Date") ∧ ¬ (kind = .binary ∧ d.Binds "Uint8Array") :=
    ⟨fun both => noDate both.1, fun both => noBytes both.1⟩
  cases kind with
  | datetime =>
    show d.resolve "Date" = .builtin "Date" ↔ _
    rw [d.resolve_eq_builtin_iff (by decide)]
    simp
  | binary =>
    show d.resolve "Uint8Array" = .builtin "Uint8Array" ↔ _
    rw [d.resolve_eq_builtin_iff (by decide)]
    simp
  | autoPk => exact iff_of_true (resolve_keyType h) (neither nofun nofun)
  | string | text => exact iff_of_true (small "string" (by decide)) (neither nofun nofun)
  | json => exact iff_of_true (small "any" (by decide)) (neither nofun nofun)
  | timestamp | int | float => exact iff_of_true (small "number" (by decide)) (neither nofun nofun)
  | boolean => exact iff_of_true (small "boolean" (by decide)) (neither nofun nofun)

section Members

variable {c : Collection} (h : catalog.declare policy requested = .ok d)
  (isRequested : name ∈ requested) (found : catalog.find? name = some c)
include h isRequested found

/-- The type of a field stands for what the schema says, unless it is captured. -/
theorem meaning_field_iff {f : Field} (hf : f ∈ c.fields) :
    d.meaning (f.toMember policy).type = f.kind.meaning policy.typing ↔
      ¬ (f.kind = .datetime ∧ d.Captures "Date") ∧
        ¬ (f.kind = .binary ∧ d.Captures "Uint8Array") := by
  -- What the field itself is written for is there to be captured.
  have written {kind : FieldKind} (isKind : f.kind = kind) :
      kind.typeText policy.typing ∈ d.plainNames :=
    typeText_mem_plainNames h ⟨name, isRequested, c, found, f, hf, isKind⟩
  have date : f.kind = .datetime ∧ d.Captures "Date" ↔ f.kind = .datetime ∧ d.Binds "Date" :=
    and_congr_right fun isKind => and_iff_left (written isKind)
  have bytes : f.kind = .binary ∧ d.Captures "Uint8Array" ↔
      f.kind = .binary ∧ d.Binds "Uint8Array" :=
    and_congr_right fun isKind => and_iff_left (written isKind)
  rw [date, bytes]
  exact resolve_typeText_iff h f.kind

/-- A reference stands for the primary key of its target, unless the target is called like the type
parameter. -/
theorem Frozen.meaning_reference_iff (frozen : catalog.Frozen) {r : Relationship}
    (hr : r ∈ c.relationships) {target : Collection}
    (isTarget : catalog.find? r.target = some target) :
    d.meaning (r.toMember target).type = target.keyMeaning ↔
      ¬ (target.typeName = "Pk" ∧ d.Captures "Pk") := by
  have concerned : catalog.Concerns requested target := by
    refine .inr ⟨name, isRequested, c, found, ?_⟩
    rw [name_of_find? isTarget]
    exact List.mem_map_of_mem hr
  have binds : d.Binds target.typeName :=
    (frozen.binds_iff h).mpr ⟨target, mem_of_find? isTarget, rfl, concerned⟩
  have meaning : d.meaning (r.toMember target).type = target.keyMeaning ↔
      d.resolve target.typeName = .interface target.typeName := by
    simp [Declarations.meaning, Relationship.toMember, Collection.keyMeaning]
  rw [meaning, Declarations.resolve_eq_interface_iff binds, typing_of_declare h, and_comm]
  refine not_congr (and_congr_right fun isPk => ?_)
  replace isPk : target.typeName = "Pk" := isPk
  constructor
  · intro generic
    exact ⟨isPk ▸ binds, pk_mem_plainNames h generic isRequested⟩
  · intro captures
    obtain ⟨-, isDate | isBytes | isParameter⟩ := (frozen.captures_iff_concerns h).mp captures
    · exact absurd isDate.1 (by decide)
    · exact absurd isBytes.1 (by decide)
    · exact isParameter.2

end Members

/-- A name is declared or imported and is written for something else as well if it is `Date` and a
field with a date is declared, or `Uint8Array` and a field with bytes is, or the type parameter, and
it is the type name of a collection that is requested or that a requested one refers to. Types of
primary keys always stand for what the schema says. Types of fields do unless they are one of the
first two names and it is captured, and references unless their target is called like the type
parameter. -/
theorem Frozen.captures_iff (frozen : catalog.Frozen) (policy : Policy)
    (registered : ∀ name ∈ requested, catalog.contains name = true) :
    ∃ d, catalog.declare policy requested = .ok d ∧
      (∀ name, d.Captures name ↔
        (∃ c ∈ catalog.collections, c.typeName = name ∧ catalog.Concerns requested c) ∧
          (name = "Date" ∧ catalog.Renders requested .datetime ∨
            name = "Uint8Array" ∧ catalog.Renders requested .binary ∨
            name = "Pk" ∧ policy.typing = .generic)) ∧
      ∀ name ∈ requested, ∃ c i, catalog.find? name = some c ∧
        catalog.interfaceOf policy c = .ok i ∧ i ∈ d.interfaces ∧
        d.meaning (implicitMember policy).type = policy.typing.meaning ∧
        (∀ f ∈ c.fields, f.toMember policy ∈ i.members ∧
          (d.meaning (f.toMember policy).type = f.kind.meaning policy.typing ↔
            ¬ (f.kind = .datetime ∧ d.Captures "Date") ∧
              ¬ (f.kind = .binary ∧ d.Captures "Uint8Array"))) ∧
        ∀ r ∈ c.relationships, ∃ target, catalog.find? r.target = some target ∧
          r.toMember target ∈ i.members ∧
          (d.meaning (r.toMember target).type = target.keyMeaning ↔
            ¬ (target.typeName = "Pk" ∧ d.Captures "Pk")) := by
  obtain ⟨d, declares⟩ :
      ∃ d, catalog.declare policy requested = .ok d := frozen.exists_declare registered
  refine ⟨d, declares, fun name => frozen.captures_iff_concerns declares, ?_⟩
  intro name isRequested
  obtain ⟨c, i, found, isInterface, mem⟩ := exists_interface_of_declare declares isRequested
  refine ⟨c, i, found, isInterface, mem, resolve_keyType declares, ?fields, ?references⟩
  case fields =>
    intro f hf
    exact ⟨toMember_mem_members isInterface hf, meaning_field_iff declares isRequested found hf⟩
  case references =>
    intro r hr
    obtain ⟨target, isTarget⟩ := frozen.exists_target (mem_of_find? found) hr
    refine ⟨target, isTarget, reference_mem_members isInterface hr isTarget, ?_⟩
    exact Frozen.meaning_reference_iff declares isRequested found frozen hr isTarget

/-- A collection with a date, bytes and a reference. -/
def calendarEvent : Collection where
  name := "event"
  description := none
  fields := [⟨"at", .datetime, false, none⟩, ⟨"poster", .binary, true, none⟩]
  relationships := [⟨.childOf, "pk", some "key", false⟩]
  indices := []

/-- A catalog with this collection and others that are called like what it needs. -/
def calendarCatalog : Catalog where
  entries := [
    ⟨"Calendar", calendarEvent⟩,
    ⟨"Calendar", ⟨"date", none, [], [], []⟩⟩,
    ⟨"Bytes", ⟨"uint8_array", none, [], [], []⟩⟩,
    ⟨"Keys", ⟨"pk", none, [], [], []⟩⟩]

/-- These names alone do no harm. -/
theorem captures_iff_calendar :
    ∃ d, calendarCatalog.declare ⟨.number, true, id⟩ ["date", "pk"] = .ok d ∧
      d.Binds "Date" ∧ d.Binds "Pk" ∧ ∀ name, ¬ d.Captures name := by
  have frozen : calendarCatalog.Frozen := by decide +kernel
  have registered : ∀ name ∈ ["date", "pk"], calendarCatalog.contains name = true := by
    decide +kernel
  have none : ∀ name ∈ ["date", "pk"],
      (calendarCatalog.find? name).map Collection.fields = some [] := by
    decide +kernel
  have fieldless : ∀ kind, ¬ calendarCatalog.Renders ["date", "pk"] kind := by
    rintro kind ⟨name, isRequested, c, found, f, hf, -⟩
    have fields := none name isRequested
    rw [found] at fields
    rw [Option.some.inj fields] at hf
    cases hf
  obtain ⟨d, declares, captures, -⟩ := frozen.captures_iff ⟨.number, true, id⟩ registered
  have bound : d.declared = ["Date", "Pk"] := by
    rw [declared_of_declare declares]
    decide +kernel
  refine ⟨d, declares, .inl (by simp [bound]), .inl (by simp [bound]), ?_⟩
  intro name captured
  obtain ⟨-, ⟨-, renders⟩ | ⟨-, renders⟩ | ⟨-, generic⟩⟩ := (captures name).mp captured
  · exact fieldless _ renders
  · exact fieldless _ renders
  · cases generic

/-- What is declared of the event and of two of the others. -/
def calendarDeclarations : Declarations where
  typing := .generic
  imports := [⟨"Pk", "./pk"⟩]
  interfaces := [
    ⟨none, "Event", [id, ⟨none, "at", false, .named "Date"⟩,
      ⟨none, "poster", true, .named "Uint8Array"⟩, ⟨none, "key", false, .memberOf "Pk" "id"⟩]⟩,
    ⟨none, "Date", [id]⟩,
    ⟨none, "Uint8Array", [id]⟩]
where
  /-- The primary key that all of them have. -/
  id : Member := ⟨none, "id", false, .named "Pk"⟩

/-- Beside the event these names do harm: its date and its poster stand for interfaces of
collections, and its reference, for a member of the type parameter. -/
theorem calendar_captured :
    calendarCatalog.Frozen ∧
      (∀ name ∈ ["event", "date", "uint8_array"], calendarCatalog.contains name = true) ∧
      calendarCatalog.declare ⟨.generic, true, ("./" ++ ·)⟩ ["event", "date", "uint8_array"] =
        .ok calendarDeclarations ∧
      calendarDeclarations.text = "import type \x7b Pk \x7d from './pk';\n\n" ++
        "export interface Event<Pk = number | string> \x7b\n    id: Pk;\n    at: Date;\n" ++
        "    poster?: Uint8Array;\n    key: Pk<Pk>['id'];\n\x7d\n\n" ++
        "export interface Date<Pk = number | string> \x7b\n    id: Pk;\n\x7d\n\n" ++
        "export interface Uint8Array<Pk = number | string> \x7b\n    id: Pk;\n\x7d\n" ∧
      (∀ name ∈ ["Date", "Uint8Array", "Pk"], calendarDeclarations.Captures name) ∧
      calendarDeclarations.meaning (.named "Date") = .interface "Date" ∧
      calendarDeclarations.meaning (.named "Uint8Array") = .interface "Uint8Array" ∧
      calendarDeclarations.meaning (.memberOf "Pk" "id") = .member .parameter "id" := by
  decide +kernel

end Catalog

end SchemaTypes
