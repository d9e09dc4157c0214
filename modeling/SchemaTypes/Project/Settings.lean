import SchemaTypes.Declaration.Interface
import SchemaTypes.Files.Path
import SchemaTypes.Schema.Storage
import SchemaTypes.Toml.Decoder

/-!
The settings of a project: where its modules are, where the declarations go and how they are
written. Every setting has a default, whatever others are given.
-/

namespace SchemaTypes

/-- Where modules are found. -/
structure ModuleSettings where
  folder : Path
  /-- What the names of manifests end in, after a dot. -/
  suffix : String
  /-- The manifest of a module that has a folder of its own. -/
  indexFile : String
  obeysIgnoreFiles : Bool
  deriving DecidableEq, Repr

/-- Where declarations go. -/
structure OutputSettings where
  folder : Path
  extension : String
  docs : Bool
  deriving DecidableEq, Repr

/-- The settings of a project. -/
structure Settings where
  modules : ModuleSettings
  output : OutputSettings
  typing : KeyTyping
  backend : Backend
  deriving DecidableEq, Repr

/-! ### Defaults -/

/-- Where modules are found if nothing is said. -/
def ModuleSettings.default : ModuleSettings :=
  ⟨⟨"./src/storage/modules"⟩, "toml", "index.toml", false⟩

/-- Where declarations go if nothing is said. -/
def OutputSettings.default : OutputSettings :=
  ⟨⟨"./src/types/generated"⟩, "ts", true⟩

/-- The settings if nothing is said. -/
def Settings.default : Settings :=
  ⟨.default, .default, .generic, .memory⟩

/-! ### Settings as documents -/

/-- The names of the ways to write primary keys. -/
def KeyTyping.names : List (String × KeyTyping) :=
  [("generic", .generic), ("number", .number), ("string", .string)]

/-- The names of the places to keep records. -/
def Backend.names : List (String × Backend) :=
  [("memory", .memory)]

/-- Decode a path. -/
def Path.decoder : Toml.Decoder Path :=
  fun v => Path.mk <$> Toml.Decoder.path v

/-- The settings on modules, as a record. -/
def ModuleSettings.record : Toml.Record ModuleSettings :=
  ModuleSettings.mk <$> .optional "dir" Path.decoder default.folder <*>
    .optional "suffix" .text default.suffix <*>
    .optional "index_file" .text default.indexFile <*>
    .optional "respect_gitignore" .flag default.obeysIgnoreFiles

/-- The settings on declarations, as a record. -/
def OutputSettings.record : Toml.Record OutputSettings :=
  OutputSettings.mk <$> .optional "dir" Path.decoder default.folder <*>
    .optional "extension" .text default.extension <*>
    .optional "generate_docs" .flag default.docs

/-- How primary keys are written, as a record. -/
def KeyTyping.record : Toml.Record KeyTyping :=
  .optional "auto_pk_type" (.choice KeyTyping.names) Settings.default.typing

/-- Where records are kept, as a record. -/
def Backend.record : Toml.Record Backend :=
  .optional "backend" (.choice Backend.names) Settings.default.backend

/-- Decode where records are kept. -/
def Backend.decoder : Toml.Decoder Backend :=
  .record "StorageConfig" Backend.record

/-- Settings as a record. -/
def Settings.record : Toml.Record Settings :=
  Settings.mk <$>
    .optional "modules" (.record "ModulesConfig" ModuleSettings.record) .default <*>
    .optional "output" (.record "OutputConfig" OutputSettings.record) .default <*>
    .optional "generation" (.record "GenerationConfig" KeyTyping.record) Settings.default.typing <*>
    .optional "storage" Backend.decoder Settings.default.backend

/-- Decode settings. -/
def Settings.decoder : Toml.Decoder Settings :=
  .record "Config" Settings.record

/-! ### Overriding -/

/-- Settings that take the place of others. -/
structure Overrides where
  modules : Option Path
  output : Option Path
  typing : Option KeyTyping
  deriving DecidableEq, Repr

/-- Nothing takes the place of anything. -/
def Overrides.none : Overrides :=
  ⟨.none, .none, .none⟩

/-- Settings in which some are replaced. -/
def Settings.override (s : Settings) (o : Overrides) : Settings :=
  { s with
    modules := { s.modules with folder := o.modules.getD s.modules.folder }
    output := { s.output with folder := o.output.getD s.output.folder }
    typing := o.typing.getD s.typing }

end SchemaTypes
