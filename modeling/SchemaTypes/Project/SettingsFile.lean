import SchemaTypes.Project.Fault
import SchemaTypes.Project.Settings

/-!
The settings file of a project.
-/

namespace SchemaTypes

/-- Where settings are kept. -/
def settingsPath : Path :=
  ⟨"schemagen.toml"⟩

/-- The settings in a file that exists. -/
def Settings.read (t : FileTree) (p : Path) : Except SettingsFault Settings :=
  match t.readText p with
  | .error e => .error (.unreadable p e)
  | .ok source => (Toml.decode Settings.decoder source).mapError (.invalid p)

/-- The settings of a project. A file that is asked for has to exist; the usual one need not. -/
def Settings.load (t : FileTree) : Option Path → Except SettingsFault Settings
  | some p => if t.isPresent p then read t p else .error (.notFound p)
  | none => if t.isPresent settingsPath then read t settingsPath else .ok .default

/-- A settings file that says no more than the defaults. -/
def settingsTemplate : String :=
  String.join (settingsLines.map (· ++ "\n"))
where
  /-- The lines of the file. -/
  settingsLines : List String :=
    ["# schemagen configuration file",
      "",
      "[modules]",
      "# Directory containing one entry per storage module",
      "dir = \"./src/storage/modules\"",
      "",
      "# Suffix of single-file module manifests",
      "suffix = \"toml\"",
      "",
      "# Manifest file of a directory-backed module",
      "index_file = \"index.toml\"",
      "",
      "# Skip entries ignored by .gitignore",
      "respect_gitignore = false",
      "",
      "[output]",
      "# Output directory for generated TypeScript files (one file per module)",
      "dir = \"./src/types/generated\"",
      "",
      "# Extension of generated files and of generated import paths",
      "extension = \"ts\"",
      "",
      "# Whether to generate doc comments from collection and field descriptions",
      "generate_docs = true",
      "",
      "[generation]",
      "# Primary key typing: \"generic\" (type parameter), \"number\" or \"string\"",
      "auto_pk_type = \"generic\"",
      "",
      "[storage]",
      "# Only the in-memory backend is supported",
      "backend = \"memory\""]

end SchemaTypes
