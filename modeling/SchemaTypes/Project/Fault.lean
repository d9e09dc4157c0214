import SchemaTypes.Files.Tree
import SchemaTypes.Schema.Fault
import SchemaTypes.Toml.Fault

/-!
What can go wrong with a project.
-/

namespace SchemaTypes

/-- A reason why the modules of a project cannot be told apart. -/
inductive IdentityFault where
  /-- A manifest has no stem. -/
  | malformedName (entry suffix : String)
  /-- Two modules have the same name. -/
  | duplicateName (name : String) (first second : Path)
  /-- Two modules have declarations of the same file name. -/
  | duplicateOutput (base : String) (first second : Path)
  deriving DecidableEq, Repr

/-- A reason why there are no settings. -/
inductive SettingsFault where
  | notFound (path : Path)
  | invalid (path : Path) (failure : Toml.Failure)
  | unreadable (path : Path) (error : FileError)
  deriving DecidableEq, Repr

/-- A reason why declarations are not written. -/
inductive WriteFault where
  | folder (path : Path) (error : FileError)
  | file (path : Path) (error : FileError)
  deriving DecidableEq, Repr

/-- A reason why a folder cannot be watched. -/
inductive WatchFault where
  | noPath
  | failed (error : FileError)
  deriving DecidableEq, Repr

/-- A reason why work on a project stops. -/
inductive ProjectFault where
  /-- The folder of the modules does not exist. -/
  | noFolder (path : Path)
  | identity (fault : IdentityFault)
  | schema (fault : SchemaFault)
  /-- Nobody knows where a module comes from. -/
  | noSource (module : String)
  | settings (fault : SettingsFault)
  | write (fault : WriteFault)
  | watch (fault : WatchFault)
  /-- The project is not as it should be. -/
  | validation (reason : String)
  | files (error : FileError)
  deriving DecidableEq, Repr

/-- A reason why an entry of the module folder is no module. -/
inductive SkipReason where
  | notAManifest
  | noIndex (indexFile : String)
  | invalid (path : Path) (failure : Toml.Failure)
  | unreadable (path : Path) (error : FileError)
  deriving DecidableEq, Repr

/-! ### Wording -/

/-- The text of a failure to decode a document. -/
def Toml.Failure.message : Toml.Failure → String
  | .malformed => "not a TOML document"
  | .unfit fault => fault.message

/-- The text of a fault. -/
def IdentityFault.message : IdentityFault → String
  | .malformedName entry suffix =>
    "Malformed module name " ++ named entry ++ ": expected " ++ named ("<name>." ++ suffix)
  | .duplicateName name first second =>
    "Module name " ++ named name ++ " is declared by both " ++ first.text ++ " and " ++ second.text
  | .duplicateOutput base first second =>
    "Modules at " ++ first.text ++ " and " ++ second.text ++ " both generate " ++ named base

/-- The text of a fault. -/
def SettingsFault.message : SettingsFault → String
  | .notFound path => "Configuration file not found: " ++ path.text
  | .invalid path failure =>
    "Invalid TOML in " ++ path.text ++ ": TOML parse error: " ++ failure.message
  | .unreadable path error => "Failed to read config " ++ path.text ++ ": " ++ error.message

/-- The text of a fault. -/
def WriteFault.message : WriteFault → String
  | .folder path error => "Failed to create directory " ++ path.text ++ ": " ++ error.message
  | .file path error => "Failed to write file " ++ path.text ++ ": " ++ error.message

/-- The text of a fault. -/
def WatchFault.message : WatchFault → String
  | .noPath => "Failed to initialize file watcher: No path was found."
  | .failed error => "Failed to initialize file watcher: " ++ error.message

/-- The text of a fault. -/
def ProjectFault.message : ProjectFault → String
  | .noFolder path => "Failed to discover modules: Directory not found: " ++ path.text
  | .identity fault => "Failed to resolve modules: " ++ fault.message
  | .schema fault => "Schema error: " ++ fault.message
  | .noSource module =>
    "Failed to generate declarations: No module source resolved for module " ++ named module
  | .settings fault => "Failed to load configuration: " ++ fault.message
  | .write fault => "Failed to write output: " ++ fault.message
  | .watch fault => "Watch error: " ++ fault.message
  | .validation reason => "Validation failed: " ++ reason
  | .files error => "IO error: " ++ error.message

/-- The text of a reason. -/
def SkipReason.message : SkipReason → String
  | .notAManifest => "not a module source"
  | .noIndex indexFile => "directory has no " ++ indexFile
  | .invalid path failure =>
    "invalid module manifest " ++ path.text ++ ": " ++ failure.message
  | .unreadable path error => "failed to read " ++ path.text ++ ": " ++ error.message

end SchemaTypes
