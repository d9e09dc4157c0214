/-!
What can be wrong with the modules of a project, taken together.
-/

namespace SchemaTypes

/-- A reason why collections cannot be registered, frozen or rendered. -/
inductive SchemaFault where
  /-- A collection is declared a second time. -/
  | duplicateCollection (collection module existingModule : String)
  /-- Two modules have the same name. -/
  | duplicateModuleName (name : String)
  /-- Two collections have records of the same type name. -/
  | duplicateTypeName (typeName collection existing : String)
  /-- A collection declares a member twice. -/
  | duplicateMember (collection member : String)
  /-- A relationship refers to a collection that nobody declares. -/
  | unknownCollection (collection referencedBy : String)
  /-- A collection is asked for that nobody declares. -/
  | notRegistered (collection : String)
  /-- An index is on no member of its collection. -/
  | unknownIndex (collection member : String)
  deriving DecidableEq, Repr

/-- A name between single quotes. -/
def named (name : String) : String :=
  "'" ++ name ++ "'"

/-- The text of a fault. -/
def SchemaFault.message : SchemaFault → String
  | .duplicateCollection collection module existingModule =>
    "Collection " ++ named collection ++ " declared by module " ++ named module ++
      " is already registered by module " ++ named existingModule
  | .duplicateModuleName name => "Module name " ++ named name ++ " is registered more than once"
  | .duplicateTypeName typeName collection existing =>
    "Collection " ++ named collection ++ " has type name " ++ named typeName ++
      ", already used by collection " ++ named existing
  | .duplicateMember collection member =>
    "Collection " ++ named collection ++ " declares member " ++ named member ++
      " more than once"
  | .unknownCollection collection referencedBy =>
    "Collection " ++ named referencedBy ++ " references unknown collection " ++
      named collection
  | .notRegistered collection => "Collection " ++ named collection ++ " is not registered"
  | .unknownIndex collection member =>
    "Index on collection " ++ named collection ++ " references unknown field " ++ named member

end SchemaTypes
