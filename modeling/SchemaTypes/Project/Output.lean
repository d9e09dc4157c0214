import SchemaTypes.Declaration.OfCatalog
import SchemaTypes.Declaration.Text
import SchemaTypes.Project.Resolution

/-!
The file of declarations that a module becomes.
-/

namespace SchemaTypes

/-- A file of declarations. -/
structure Output where
  module : String
  fileName : String
  declarations : Declarations
  deriving DecidableEq, Repr

/-- The lines at the head of each file. -/
def outputHeader : String :=
  "// Auto-generated by schemagen\n// Do not edit manually\n"

/-- The content of a file with the given declarations. -/
def outputContent (declarations : String) : String :=
  if declarations = "" then outputHeader else outputHeader ++ "\n" ++ declarations

/-- The content of a file. -/
def Output.content (o : Output) : String :=
  outputContent o.declarations.text

/-- The number of interfaces in a file. -/
def Output.size (o : Output) : Nat :=
  o.declarations.interfaces.length

/-- The name of the file of a module. -/
def Source.outputName (source : Source) (extension : String) : String :=
  source.base ++ "." ++ extension

/-- How the settings want collections to be declared. -/
def Settings.policy (s : Settings) : Policy where
  typing := s.typing
  docs := s.output.docs
  importPath c := importPathOf c s.output.extension

/-- The names of the collections that a module declares. -/
def Module.collectionNames (m : Module) : List String :=
  m.collections.map (·.name)

/-- The file of a module. -/
def Module.output (s : Settings) (catalog : Catalog) (m : Module) (source : Source) :
    Except SchemaFault Output :=
  (catalog.declare s.policy m.collectionNames).map fun declarations =>
    ⟨m.name, source.outputName s.output.extension, declarations⟩

end SchemaTypes
