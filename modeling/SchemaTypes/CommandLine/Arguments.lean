import SchemaTypes.Project.Settings

/-!
The arguments of the command line.

Options stand before or after the name of a command; those before it are the ones that every
command has. An option may be given once at each of the two places. Arguments are read one by one
(`Reading.next`), so that a request for help or for the version counts only if nothing before it is
wrong, a value that its option does not take included. After the word `help`, though, every
argument has to name what help is asked for.
-/

namespace SchemaTypes

/-- The names of the commands. -/
inductive CommandName where
  | generate
  | check
  | init
  deriving DecidableEq, Repr

/-- What can be done with a project. -/
inductive Task where
  /-- Make the declarations. -/
  | generate (watches rehearses : Bool)
  /-- Compare the declarations with what they should be. -/
  | check
  deriving DecidableEq, Repr

/-- What can be asked for. -/
inductive Command where
  /-- A task, with settings from a file of which some are replaced. -/
  | work (settings : Option Path) (overrides : Overrides) (task : Task)
  /-- A new settings file. -/
  | init (path : Path) (force : Bool)
  deriving DecidableEq, Repr

/-- What is done if no command is given. -/
def Command.default : Command :=
  .work none .none (.generate false false)

/-- What a command line asks for. -/
structure Invocation where
  command : Command
  verbose : Bool
  quiet : Bool
  deriving DecidableEq, Repr

/-- Why there is nothing to be done. -/
inductive Refusal where
  /-- The arguments are wrong. -/
  | usage
  /-- Only the version is asked for. -/
  | version
  /-- Only help is asked for. -/
  | help
  deriving DecidableEq, Repr

/-! ### Options -/

/-- What may follow an option. -/
inductive Operand where
  /-- Nothing. -/
  | nothing
  /-- A path, which may not be empty. -/
  | path
  /-- One of several words. -/
  | oneOf (words : List String)
  deriving DecidableEq, Repr

/-- The operand may have this value. -/
def Operand.accepts : Operand → String → Bool
  | .nothing, _ => false
  | .path, value => value ≠ ""
  | .oneOf words, value => words.contains value

/-- An option: its name, its letter, and what follows it. -/
structure OptionSpec where
  name : String
  letter : Option Char
  operand : Operand
  deriving DecidableEq, Repr

/-- The options of every command. -/
def commonOptions : List OptionSpec :=
  [⟨"verbose", some 'v', .nothing⟩, ⟨"quiet", some 'q', .nothing⟩, ⟨"help", some 'h', .nothing⟩]

/-- The options before a command. -/
def leadingOptions : List OptionSpec :=
  ⟨"version", some 'V', .nothing⟩ :: commonOptions

/-- The options of a command. -/
def CommandName.options : CommandName → List OptionSpec
  | .generate =>
    [⟨"modules", some 'm', .path⟩, ⟨"output", some 'o', .path⟩,
      ⟨"auto-pk-type", none, .oneOf (KeyTyping.names.map Prod.fst)⟩,
      ⟨"watch", some 'w', .nothing⟩, ⟨"dry-run", none, .nothing⟩, ⟨"config", some 'c', .path⟩] ++
      commonOptions
  | .check => ⟨"config", some 'c', .path⟩ :: commonOptions
  | .init => [⟨"output", some 'o', .path⟩, ⟨"force", none, .nothing⟩] ++ commonOptions

/-- The command of a given name. -/
def CommandName.ofText : String → Option CommandName
  | "generate" => some .generate
  | "check" => some .check
  | "init" => some .init
  | _ => none

/-- Options with their values; those without a value have an empty one. -/
abbrev Given := List (String × String)

/-- An option is given. -/
def Given.has (given : Given) (name : String) : Bool :=
  (given.lookup name).isSome

/-! ### Reading -/

/-- A command line that has been read in part. -/
structure Reading where
  command : Option CommandName
  /-- The options before the command. -/
  leading : Given
  /-- The options after it. -/
  following : Given
  /-- The option that waits for its value. -/
  pending : Option OptionSpec
  /-- Two hyphens have ended the options. -/
  ended : Bool
  /-- The arguments after the word `help`, if that has been read. -/
  topics : Option (List String)
  deriving DecidableEq, Repr

namespace Reading

/-- Nothing is read yet. -/
def empty : Reading :=
  ⟨none, [], [], none, false, none⟩

/-- The options that may come next. -/
def options (r : Reading) : List OptionSpec :=
  match r.command with
  | none => leadingOptions
  | some name => name.options

/-- Take an option with its value, or with an empty one if it has none. -/
def give (r : Reading) (name value : String) : Except Refusal Reading :=
  match r.command with
  | none =>
    if r.leading.has name then .error .usage
    else .ok { r with leading := r.leading ++ [(name, value)], pending := none }
  | some _ =>
    if r.following.has name then .error .usage
    else .ok { r with following := r.following ++ [(name, value)], pending := none }

/-- Take an option with the value that follows it. -/
def giveValue (r : Reading) (spec : OptionSpec) (value : String) : Except Refusal Reading :=
  if spec.operand.accepts value then r.give spec.name value else .error .usage

/-- Take an option without a value. -/
def giveFlag (r : Reading) (name : String) : Except Refusal Reading :=
  if name = "version" then .error .version
  else if name = "help" then .error .help
  else r.give name ""

/-- Read an option by its name, which an equals sign may separate from its value. -/
def long (r : Reading) (text : List Char) : Except Refusal Reading :=
  let name := String.ofList (text.takeWhile (· ≠ '='))
  match r.options.find? (·.name = name), text.dropWhile (· ≠ '=') with
  | some spec, [] =>
    if spec.operand = .nothing then r.giveFlag name else .ok { r with pending := some spec }
  | some spec, _ :: value => r.giveValue spec (String.ofList value)
  | none, _ => .error .usage

/-- The value after the letter of an option, with or without an equals sign. -/
def attached : List Char → String
  | '=' :: value => String.ofList value
  | value => String.ofList value

/-- Read options by their letters. A value may follow the last one. -/
def letters (r : Reading) : List Char → Except Refusal Reading
  | [] => .ok r
  | c :: rest =>
    match r.options.find? (·.letter = some c) with
    | none => .error .usage
    | some spec =>
      if spec.operand = .nothing then do (← r.giveFlag spec.name).letters rest
      else if rest.isEmpty then .ok { r with pending := some spec }
      else r.giveValue spec (attached rest)

/-- Read what is not an option. -/
def word (r : Reading) (text : String) : Except Refusal Reading :=
  match r.command with
  | some _ => .error .usage
  | none =>
    if text = "help" then .ok { r with topics := some [] }
    else
      match CommandName.ofText text with
      | some name => .ok { r with command := some name }
      | none => .error .usage

/-- An argument that looks like an option. -/
def looksLikeOption (arg : String) : Bool :=
  arg.toList.head? = some '-' && arg ≠ "-"

/-- Read one argument that does not follow the word `help`. -/
def step (r : Reading) (arg : String) : Except Refusal Reading :=
  if r.ended then .error .usage
  else
    match r.pending with
    | some spec => if looksLikeOption arg then .error .usage else r.giveValue spec arg
    | none =>
      match arg.toList with
      | ['-', '-'] => .ok { r with ended := true }
      | '-' :: '-' :: text => r.long text
      | '-' :: c :: text => r.letters (c :: text)
      | _ => r.word arg

/-- Read one argument. -/
def next (r : Reading) (arg : String) : Except Refusal Reading :=
  match r.topics with
  | some topics => .ok { r with topics := some (topics ++ [arg]) }
  | none => r.step arg

/-! ### Commands -/

/-- There is help on this: on a command, on help itself, or on the program. -/
def hasHelp : List String → Bool
  | [] => true
  | [topic] => topic = "help" || (CommandName.ofText topic).isSome
  | _ => false

/-- The path that an option gives. -/
def path? (r : Reading) (name : String) : Option Path :=
  (r.following.lookup name).map Path.mk

/-- How an option says that primary keys are written. -/
def typing? (r : Reading) (name : String) : Option KeyTyping :=
  (r.following.lookup name).bind fun value => KeyTyping.names.lookup value

/-- The command with its options. `usual` is where settings are kept. -/
def commandOf (r : Reading) (usual : Path) : CommandName → Command
  | .generate =>
    .work (r.path? "config") ⟨r.path? "modules", r.path? "output", r.typing? "auto-pk-type"⟩
      (.generate (r.following.has "watch") (r.following.has "dry-run"))
  | .check => .work (r.path? "config") .none .check
  | .init => .init ((r.path? "output").getD usual) (r.following.has "force")

/-- Options that exclude each other are both given. -/
def clashes (given : Given) : Bool :=
  given.has "verbose" && given.has "quiet"

/-- What a command line asks for once it is read. -/
def finish (r : Reading) (usual : Path) : Except Refusal Invocation :=
  match r.topics with
  | some topics => .error (if hasHelp topics then .help else .usage)
  | none =>
    if r.pending.isSome || clashes r.leading || clashes r.following then .error .usage
    else
      .ok {
        command := (r.command.map (r.commandOf usual)).getD .default
        verbose := r.leading.has "verbose" || r.following.has "verbose"
        quiet := r.leading.has "quiet" || r.following.has "quiet" }

end Reading

/-- What a command line asks for. `usual` is where settings are kept. -/
def Invocation.ofArguments (usual : Path) (args : List String) : Except Refusal Invocation := do
  (← args.foldlM Reading.next .empty).finish usual

end SchemaTypes
