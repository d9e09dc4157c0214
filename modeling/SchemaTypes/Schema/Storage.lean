import SchemaTypes.Schema.Catalog

/-!
Storage: the modules of a project with the catalog of their collections.

An assembly takes modules one at a time. When a module is refused, its name stays taken and the
collections before the one at fault stay registered; the module itself is not among the modules of
the storage.
-/

namespace SchemaTypes

/-- Where records are kept. -/
inductive Backend where
  | memory
  deriving DecidableEq, Repr

/-- A storage under construction. -/
structure Assembly where
  backend : Backend
  names : List String
  modules : List Module
  draft : Draft
  deriving DecidableEq, Repr

/-- The modules of a project and the catalog of their collections. -/
structure Storage where
  backend : Backend
  modules : List Module
  catalog : Catalog
  deriving DecidableEq, Repr

/-- Register collections until one is refused. -/
def Draft.registerAll (owner : String) (d : Draft) : List Collection → Draft × Option SchemaFault
  | [] => (d, none)
  | c :: rest =>
    match d.add owner c with
    | (next, some fault) => (next, some fault)
    | (next, none) => next.registerAll owner rest

namespace Assembly

/-- An assembly without modules. -/
def empty (backend : Backend) : Assembly :=
  ⟨backend, [], [], .empty⟩

/-- Add a module: the assembly afterwards, and the fault if the module is refused. -/
def add (a : Assembly) (m : Module) : Assembly × Option SchemaFault :=
  if a.names.contains m.name then (a, some (.duplicateModuleName m.name))
  else
    match a.draft.registerAll m.name m.collections with
    | (draft, none) =>
      ({ a with names := a.names ++ [m.name], modules := a.modules ++ [m], draft }, none)
    | (draft, some fault) => ({ a with names := a.names ++ [m.name], draft }, some fault)

/-- Add modules until one is refused. -/
def addAll (a : Assembly) : List Module → Except SchemaFault Assembly
  | [] => .ok a
  | m :: rest =>
    match a.add m with
    | (next, none) => next.addAll rest
    | (_, some fault) => .error fault

/-- The storage of the modules that were added. -/
def finish (a : Assembly) : Except SchemaFault Storage :=
  a.draft.close.map fun catalog => ⟨a.backend, a.modules, catalog⟩

end Assembly

namespace Storage

/-- The storage of a list of modules. -/
def ofModules (backend : Backend) (modules : List Module) : Except SchemaFault Storage := do
  (← (Assembly.empty backend).addAll modules).finish

/-- The module of a given name. -/
def module? (storage : Storage) (name : String) : Option Module :=
  storage.modules.find? (·.name = name)

end Storage

end SchemaTypes
