import SchemaTypes.Identifier.Style

/-!
Collections: what a storage module declares.

A collection has fields and relationships to other collections. The members of a collection are the
names that its records have: its primary key, its fields and the fields that hold its
relationships.
-/

namespace SchemaTypes

/-- The kinds of values that a field holds. -/
inductive FieldKind where
  | string
  | text
  | json
  | datetime
  | timestamp
  | boolean
  | int
  | float
  | binary
  | autoPk
  deriving DecidableEq, Repr

/-- A field of a collection. -/
structure Field where
  name : String
  kind : FieldKind
  isOptional : Bool
  description : Option String
  deriving DecidableEq, Repr

/-- The kinds of relationships. -/
inductive RelationshipKind where
  | childOf
  | singleChildOf
  deriving DecidableEq, Repr

/-- A relationship to the collection `target`. A label is the name of the member that holds it. -/
structure Relationship where
  kind : RelationshipKind
  target : String
  label : Option String
  isOptional : Bool
  deriving DecidableEq, Repr

/-- A collection of records of one shape. -/
structure Collection where
  name : String
  description : Option String
  fields : List Field
  relationships : List Relationship
  indices : List String
  deriving DecidableEq, Repr

/-- A named group of collections that are declared together. -/
structure Module where
  name : String
  collections : List Collection
  deriving DecidableEq, Repr

/-- The member that holds a relationship: its label, or else the name of its target. -/
def Relationship.member (r : Relationship) : String :=
  r.label.getD r.target

/-- The name of the type of a collection's records. -/
def typeNameOf (collection : String) : String :=
  Identifier.pascal collection

/-- The path from which the type of a collection is imported. -/
def importPathOf (collection extension : String) : String :=
  "./" ++ Identifier.kebab collection ++ "." ++ extension

namespace Collection

/-- The name of the type of the records. -/
def typeName (c : Collection) : String :=
  typeNameOf c.name

/-! ### Primary keys -/

/-- The primary key of a collection that declares none. -/
def implicitKey : String := "id"

/-- The field that is declared as primary key, the first if there are several. -/
def keyField? (c : Collection) : Option Field :=
  c.fields.find? (·.kind = .autoPk)

/-- Some field is declared as primary key. -/
def hasKeyField (c : Collection) : Bool :=
  c.keyField?.isSome

/-- The name of the primary key. -/
def primaryKey (c : Collection) : String :=
  (c.keyField?.map (·.name)).getD implicitKey

/-! ### Members -/

/-- The members of a collection, in the order of their declaration: a primary key that no field
declares, the fields, the relationships. -/
def members (c : Collection) : List String :=
  (if c.hasKeyField then [] else [implicitKey]) ++ c.fields.map (·.name) ++
    c.relationships.map (·.member)

/-- A collection has a member of this name. -/
def hasMember (c : Collection) (name : String) : Bool :=
  c.members.contains name

/-- The field of a given name. -/
def field? (c : Collection) (name : String) : Option Field :=
  c.fields.find? (·.name = name)

/-- The collections that the relationships refer to, in the order of their declaration. -/
def targets (c : Collection) : List String :=
  c.relationships.map (·.target)

end Collection

end SchemaTypes
