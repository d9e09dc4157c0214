import SchemaTypes.Order.Keyed
import SchemaTypes.Schema.Collection
import SchemaTypes.Schema.Fault

/-!
The catalog of all collections of a project.

Collections are registered one by one in a draft, which refuses names, type names and members that
are not unique. It lists them in the order of registration, and two tables tell the positions of
names and type names in that list. `Draft.close` checks what can be checked only when all are there,
references and indices, and gives the catalog.
-/

namespace SchemaTypes

/-- A collection, with the module that declares it. -/
structure Registration where
  owner : String
  collection : Collection
  deriving DecidableEq, Repr

/-- The collections registered so far, with the positions at which their names and their type names
stand. -/
structure Draft where
  entries : List Registration
  index : List (String × Nat)
  typeNames : List (String × Nat)
  deriving DecidableEq, Repr

/-- All collections of a project. -/
structure Catalog where
  entries : List Registration
  deriving DecidableEq, Repr

/-- The first name that has occurred before. -/
def firstRepeat (seen : List String) : List String → Option String
  | [] => none
  | name :: rest => if seen.contains name then some name else firstRepeat (name :: seen) rest

namespace Draft

/-- A draft without collections. -/
def empty : Draft :=
  ⟨[], [], []⟩

/-- The number of registered collections. -/
def size (d : Draft) : Nat :=
  d.entries.length

/-- Nothing is registered. -/
def isEmpty (d : Draft) : Bool :=
  d.entries.isEmpty

/-- A collection of this name is registered. -/
def contains (d : Draft) (name : String) : Bool :=
  (d.index.lookup name).isSome

/-- The registered collection of a given name. -/
def named? (d : Draft) (name : String) : Option Registration :=
  (d.index.lookup name).bind (d.entries[·]?)

/-- The registered collection of a given type name. -/
def typed? (d : Draft) (typeName : String) : Option Registration :=
  (d.typeNames.lookup typeName).bind (d.entries[·]?)

/-- The reason why a collection cannot join a draft, if there is one. -/
def objection? (d : Draft) (owner : String) (c : Collection) : Option SchemaFault :=
  match d.named? c.name with
  | some existing => some (.duplicateCollection c.name owner existing.owner)
  | none =>
    match d.typed? c.typeName with
    | some existing => some (.duplicateTypeName c.typeName c.name existing.collection.name)
    | none => (firstRepeat [] c.members).map (.duplicateMember c.name)

/-- Put a collection behind the others. -/
def push (d : Draft) (r : Registration) : Draft where
  entries := d.entries ++ [r]
  index := insertKeyed Prod.fst (r.collection.name, d.entries.length) d.index
  typeNames := insertKeyed Prod.fst (r.collection.typeName, d.entries.length) d.typeNames

/-- Register a collection that a module declares: the draft afterwards, and the fault if the
collection is refused. -/
def add (d : Draft) (owner : String) (c : Collection) : Draft × Option SchemaFault :=
  match d.objection? owner c with
  | some fault => (d, some fault)
  | none => (d.push ⟨owner, c⟩, none)

/-- The draft with one more collection, unless it is refused. -/
def register (d : Draft) (owner : String) (c : Collection) : Except SchemaFault Draft :=
  match d.add owner c with
  | (next, none) => .ok next
  | (_, some fault) => .error fault

/-! ### References and indices -/

/-- The first reference of a collection that leads nowhere. -/
def dangling? (d : Draft) (c : Collection) : Option SchemaFault :=
  (c.targets.find? (!d.contains ·)).map (.unknownCollection · c.name)

/-- The first index of a collection that is on none of its members. -/
def misplaced? (c : Collection) : Option SchemaFault :=
  (c.indices.find? (!c.hasMember ·)).map (.unknownIndex c.name)

/-- The first fault in the references and indices of the collections, in their order. -/
def looseEnd? (d : Draft) : Option SchemaFault :=
  d.entries.findSome? fun r => (d.dangling? r.collection).or (misplaced? r.collection)

/-- The catalog of the registered collections. -/
def close (d : Draft) : Except SchemaFault Catalog :=
  match d.looseEnd? with
  | some fault => .error fault
  | none => .ok ⟨d.entries⟩

end Draft

namespace Catalog

/-- The registration of the collection of a given name. -/
def entry? (catalog : Catalog) (name : String) : Option Registration :=
  catalog.entries.find? (·.collection.name = name)

/-- The collection of a given name. -/
def find? (catalog : Catalog) (name : String) : Option Collection :=
  (catalog.entry? name).map (·.collection)

/-- The module that declares the collection of a given name. -/
def owner? (catalog : Catalog) (name : String) : Option String :=
  (catalog.entry? name).map (·.owner)

/-- There is a collection of a given name. -/
def contains (catalog : Catalog) (name : String) : Bool :=
  (catalog.entry? name).isSome

/-- The collections, in the order of their registration. -/
def collections (catalog : Catalog) : List Collection :=
  catalog.entries.map (·.collection)

/-- The number of collections. -/
def size (catalog : Catalog) : Nat :=
  catalog.entries.length

end Catalog

end SchemaTypes
