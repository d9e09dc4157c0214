import SchemaTypes.Schema.Collection

/-!
Declarations: the interfaces of collections and the imports that they need.

These are the parts of a TypeScript module that declares types. Their text is in
`SchemaTypes.Declaration.Text`.
-/

namespace SchemaTypes

/-- How the type of primary keys is written. -/
inductive KeyTyping where
  /-- By a type parameter of every interface. -/
  | generic
  | number
  | string
  deriving DecidableEq, Repr

/-- The type of a primary key. -/
def KeyTyping.keyType : KeyTyping → String
  | .generic => "Pk"
  | .number => "number"
  | .string => "string"

/-- The type of the values of a field. -/
def FieldKind.typeText (typing : KeyTyping) : FieldKind → String
  | .string | .text => "string"
  | .json => "any"
  | .datetime => "Date"
  | .timestamp | .int | .float => "number"
  | .boolean => "boolean"
  | .binary => "Uint8Array"
  | .autoPk => typing.keyType

/-- The type of a member. -/
inductive MemberType where
  /-- A type that goes by a name. -/
  | named (name : String)
  /-- The type of the member `key` of an interface. -/
  | memberOf (typeName key : String)
  deriving DecidableEq, Repr

/-- A member of an interface. -/
structure Member where
  docs : Option String
  name : String
  isOptional : Bool
  type : MemberType
  deriving DecidableEq, Repr

/-- The interface of a collection. -/
structure Interface where
  docs : Option String
  typeName : String
  members : List Member
  deriving DecidableEq, Repr

/-- The import of a type from another module. -/
structure Import where
  typeName : String
  path : String
  deriving DecidableEq, Repr

/-- Imports and interfaces, with one way to write primary keys for all of them. -/
structure Declarations where
  typing : KeyTyping
  imports : List Import
  interfaces : List Interface
  deriving DecidableEq, Repr

end SchemaTypes
