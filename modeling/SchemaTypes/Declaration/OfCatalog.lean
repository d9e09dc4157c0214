import SchemaTypes.Order.Keyed
import SchemaTypes.Schema.Catalog
import SchemaTypes.Declaration.Interface

/-!
The declarations of some collections of a catalog.

Each requested collection becomes an interface. A relationship becomes a member with the type of
the target's primary key; a target that is not requested itself is imported.
-/

namespace SchemaTypes

/-- How collections are declared. -/
structure Policy where
  typing : KeyTyping
  docs : Bool
  importPath : String → String

/-- A description, if it is to become a comment. -/
def Policy.docsOf (policy : Policy) (description : Option String) : Option String :=
  if policy.docs then description else none

/-- The member of a primary key that no field declares. -/
def implicitMember (policy : Policy) : Member :=
  ⟨none, Collection.implicitKey, false, .named policy.typing.keyType⟩

/-- The member of a field. -/
def Field.toMember (policy : Policy) (f : Field) : Member :=
  ⟨policy.docsOf f.description, f.name, f.isOptional, .named (f.kind.typeText policy.typing)⟩

/-- The member of a relationship to a given target. -/
def Relationship.toMember (target : Collection) (r : Relationship) : Member :=
  ⟨none, r.member, r.isOptional, .memberOf target.typeName target.primaryKey⟩

namespace Catalog

/-- The member of a relationship that a collection has. -/
def reference (catalog : Catalog) (c : Collection) (r : Relationship) :
    Except SchemaFault Member :=
  match catalog.find? r.target with
  | some target => .ok (r.toMember target)
  | none => .error (.unknownCollection r.target c.name)

/-- The interface of a collection. -/
def interfaceOf (catalog : Catalog) (policy : Policy) (c : Collection) :
    Except SchemaFault Interface := do
  let references ← c.relationships.mapM (catalog.reference c)
  pure {
    docs := policy.docsOf c.description
    typeName := c.typeName
    members := (if c.hasKeyField then [] else [implicitMember policy]) ++
      c.fields.map (·.toMember policy) ++ references }

/-- The interface of the collection of a given name. -/
def interface (catalog : Catalog) (policy : Policy) (name : String) :
    Except SchemaFault Interface :=
  match catalog.find? name with
  | some c => catalog.interfaceOf policy c
  | none => .error (.notRegistered name)

/-! ### Imports -/

/-- The targets of a collection that are not requested. -/
def foreignTargets (catalog : Catalog) (requested : List String) (c : Collection) :
    List Collection :=
  (c.targets.filter (!requested.contains ·)).filterMap catalog.find?

/-- The targets of the requested collections that are not requested themselves. -/
def foreign (catalog : Catalog) (requested : List String) : List Collection :=
  (requested.filterMap catalog.find?).flatMap (catalog.foreignTargets requested)

/-- The import of a collection. -/
def importOf (policy : Policy) (c : Collection) : Import :=
  ⟨c.typeName, policy.importPath c.name⟩

/-- The imports that the requested collections need, one for each type name and in their order. -/
def imports (catalog : Catalog) (policy : Policy) (requested : List String) : List Import :=
  sortKeyed Import.typeName ((catalog.foreign requested).map (importOf policy))

/-- The declarations of the requested collections, in the order of the request. -/
def declare (catalog : Catalog) (policy : Policy) (requested : List String) :
    Except SchemaFault Declarations := do
  let interfaces ← requested.mapM (catalog.interface policy)
  pure ⟨policy.typing, catalog.imports policy requested, interfaces⟩

end Catalog

end SchemaTypes
