import SchemaTypes.CommandLine.Arguments
import SchemaTypes.Project.Pass
import SchemaTypes.Project.SettingsFile
import SchemaTypes.Project.Watch

/-!
What a command does: to the files of a project, and on the screen.
-/

namespace SchemaTypes

/-- How declarations are made. -/
structure Mode where
  rehearses : Bool
  quiet : Bool
  deriving DecidableEq, Repr

/-- A watch that goes on after its first pass. -/
structure Watch where
  settings : Settings
  mode : Mode
  deriving DecidableEq, Repr

/-- What a command has done. -/
structure Session where
  tree : FileTree
  out : String
  err : String
  exitCode : Nat
  watch : Option Watch

/-- A part of a command: the files after it, its output, and the fault that ended it. -/
structure Stage where
  tree : FileTree
  out : String
  fault : Option ProjectFault

/-- A line of output. -/
def outputLine (text : String) : String :=
  text ++ "\n"

/-- The line that reports a fault. -/
def faultLine (fault : ProjectFault) : String :=
  outputLine ("Error: " ++ fault.message)

/-- The exit code after a fault, or without one. -/
def exitCodeOf : Option ProjectFault → Nat
  | none => 0
  | some (.validation _) => 2
  | some _ => 1

/-- A command that consists of one part. -/
def Stage.session (s : Stage) : Session :=
  ⟨s.tree, s.out, (s.fault.map faultLine).getD "", exitCodeOf s.fault, none⟩

/-! ### Making declarations -/

/-- The line between a rehearsed file and the rest. -/
def ruler : String :=
  String.ofList (List.replicate 60 '─')

/-- What is said of a skipped entry. -/
def Skipped.report (s : Skipped) : String :=
  outputLine ("Warning: skipped " ++ s.displayName ++ ": " ++ s.reason.message)

/-- What is said of a file. -/
def Written.report : Written → String
  | .written path bytes =>
    outputLine ("✓ Written " ++ toString bytes ++ " bytes to " ++ path.text)
  | .rehearsed path content =>
    outputLine ("[dry-run] Would write to " ++ path.text ++ ":") ++ outputLine ruler ++
      outputLine content ++ outputLine ruler

/-- What is said of a pass. -/
def Summary.report (s : Settings) (summary : Summary) : String :=
  String.join (summary.skipped.map (·.report)) ++
    (if summary.createdFolder then
      outputLine ("  Created output directory " ++ s.output.folder.text) else "") ++
    String.join (summary.written.map (·.report)) ++
    outputLine ("  Generated " ++ toString summary.written.length ++ " module file(s)")

/-- One pass. -/
def Settings.generate (s : Settings) (mode : Mode) (t : FileTree) : Stage :=
  let start :=
    if mode.quiet then "" else outputLine ("Generating types from " ++ s.modules.folder.text)
  match s.run mode.rehearses t with
  | (next, .error fault) => ⟨next, start, some fault⟩
  | (next, .ok summary) => ⟨next, start ++ (if mode.quiet then "" else summary.report s), none⟩

/-! ### Watching -/

/-- What is said when a watch waits. -/
def waitingText : String :=
  "\nWatching for changes...\n"

/-- The first pass of a watch. Its faults do not end the watch. -/
def Settings.startWatch (s : Settings) (mode : Mode) (t : FileTree) : Session :=
  let start := outputLine "Starting watch mode..." ++
    outputLine ("  Watching: " ++ s.modules.folder.text) ++ "  Press Ctrl+C to stop\n\n"
  let first := s.generate mode t
  let out := start ++ first.out
  let err := (first.fault.map faultLine).getD ""
  match watchFault? first.tree s.modules.folder with
  | some fault =>
    ⟨first.tree, out, err ++ faultLine (.watch fault), exitCodeOf (some (.watch fault)), none⟩
  | none => ⟨first.tree, out ++ waitingText, err, 0, some ⟨s, mode⟩⟩

/-- A further pass of a watch, after an event. -/
def Watch.onEvent (w : Watch) (t : FileTree) (e : WatchEvent) : FileTree × String :=
  match e with
  | .failed message => (t, outputLine ("Watch error: " ++ message))
  | .modified path | .deleted path =>
    let stage := w.settings.generate w.mode t
    let fault := (stage.fault.map fun f => outputLine ("Generation error: " ++ f.message)).getD ""
    (stage.tree,
      outputLine ("\nModule changed: " ++ path.text) ++ stage.out ++ fault ++ waitingText)

/-! ### Checking -/

/-- What is said of a check that finds stale files. -/
def Report.staleText (r : Report) : String :=
  outputLine "✗ Generated types are out of date" ++
    String.join (r.stale.map fun p => outputLine ("  " ++ p.text)) ++
    outputLine "  Run 'schemagen generate' to update"

/-- The fault of a check that finds stale files. -/
def Report.fault (r : Report) : ProjectFault :=
  .validation
    (toString r.stale.length ++ " of " ++ toString r.checked ++ " generated file(s) out of date")

/-- Check the declarations of a project. -/
def Settings.checkStage (s : Settings) (t : FileTree) : Stage :=
  match s.check t with
  | .error fault => ⟨t, "", some fault⟩
  | .ok report =>
    if report.isCurrent then
      ⟨t, outputLine ("✓ " ++ toString report.checked ++ " file(s) up-to-date"), none⟩
    else ⟨t, report.staleText, some report.fault⟩

/-! ### Beginning a settings file -/

/-- Write a settings file. One that exists is replaced only by force. -/
def initStage (t : FileTree) (p : Path) (force : Bool) : Stage :=
  if t.isPresent p && !force then
    ⟨t, outputLine "  Use --force to overwrite",
      some (.validation ("Configuration file already exists: " ++ p.text))⟩
  else
    match t.write p settingsTemplate.toUTF8 with
    | .ok next => ⟨next, outputLine ("✓ Created configuration file: " ++ p.text), none⟩
    | .error e => ⟨t, "", some (.files e)⟩

/-! ### Commands -/

/-- What a task says before it begins. -/
def Task.greeting : Task → String
  | .generate _ _ => ""
  | .check => outputLine "Checking generated types..."

/-- Carry out a task with the settings of a project. -/
def Task.session (s : Settings) (quiet : Bool) (t : FileTree) : Task → Session
  | .generate true rehearses => s.startWatch ⟨rehearses, quiet⟩ t
  | .generate false rehearses => (s.generate ⟨rehearses, quiet⟩ t).session
  | .check => (s.checkStage t).session

/-- The settings of a task: those of a file, of which some are replaced. -/
def taskSettings (t : FileTree) (source : Option Path) (overrides : Overrides) :
    Except SettingsFault Settings :=
  (Settings.load t source).map (·.override overrides)

/-- Carry out what a command line asks for. -/
def Invocation.session (i : Invocation) (t : FileTree) : Session :=
  match i.command with
  | .init path force => (initStage t path force).session
  | .work source overrides task =>
    let rest :=
      match taskSettings t source overrides with
      | .error fault => (Stage.mk t "" (some (.settings fault))).session
      | .ok s => task.session s i.quiet t
    { rest with out := task.greeting ++ rest.out }

/-- How the program is called. -/
def usageText : String :=
  "Usage: schemagen [OPTIONS] [COMMAND]\n\nCommands:\n" ++
    "  generate  Regenerate declaration files for every module\n" ++
    "  check     Check that generated files are up-to-date\n" ++
    "  init      Initialize a new schemagen configuration file\n"

/-- The version of the program. -/
def versionText : String :=
  "schemagen 0.1.0\n"

/-- Answer a command line that asks for nothing to be done. -/
def Refusal.session (t : FileTree) : Refusal → Session
  | .usage => ⟨t, "", "error: invalid arguments\n\n" ++ usageText, 2, none⟩
  | .version => ⟨t, versionText, "", 0, none⟩
  | .help => ⟨t, usageText, "", 0, none⟩

/-- What the program does with its arguments. -/
def Session.ofArguments (t : FileTree) (args : List String) : Session :=
  match Invocation.ofArguments settingsPath args with
  | .ok i => i.session t
  | .error refusal => refusal.session t

end SchemaTypes
