import SchemaTypes.Toml.Fault
import SchemaTypes.Toml.Document

/-!
From values to the types of a program.

A decoder gives what a value stands for, or the first fault in it. Records are put together from
their keys (`Record.required`, `Record.optional`); a record accepts a table, whose entries are
checked in the order of their keys before any is used, and an array of its values in the order in
which its keys are declared.
-/

namespace SchemaTypes.Toml

/-- What a value stands for, or the first fault in it. -/
abbrev Decoder (α : Type) := Value → Except Fault α

/-! ### Numbers that do not fit -/

/-- The fault of a number that fits no machine type. -/
def Value.overflow? : Value → Option Fault
  | .integer n => if n.any fitsInteger then none else some .integerOverflow
  | .float x => if x.fits then none else some .floatOverflow
  | _ => none

mutual

/-- The first number inside a value that does not fit. This is all that is asked of a value that
is not used. -/
def Value.unfit? : Value → Option Fault
  | .array items => unfitInItems? items
  | .table entries => unfitInEntries? entries
  | .integer n => (Value.integer n).overflow?
  | .float x => (Value.float x).overflow?
  | _ => none

/-- The first number inside the items of an array that does not fit. -/
def unfitInItems? : List Value → Option Fault
  | [] => none
  | v :: rest => v.unfit?.or (unfitInItems? rest)

/-- The first number inside the entries of a table that does not fit. -/
def unfitInEntries? : List (String × Value) → Option Fault
  | [] => none
  | (_, v) :: rest => v.unfit?.or (unfitInEntries? rest)

end

/-- A value of the wrong kind. A number that does not fit is reported as such. -/
def mismatch {α : Type} (wanted : String) (v : Value) : Except Fault α :=
  .error (v.overflow?.getD (.mismatch v.found wanted))

/-! ### Simple values -/

/-- A string; `wanted` says what it is for. -/
def Decoder.textAs (wanted : String) : Decoder String
  | .string s => .ok s
  | v => mismatch wanted v

/-- A string. -/
def Decoder.text : Decoder String :=
  Decoder.textAs "a string"

/-- A string that is a path. -/
def Decoder.path : Decoder String :=
  Decoder.textAs "path string"

/-- A truth value. -/
def Decoder.flag : Decoder Bool
  | .boolean b => .ok b
  | v => mismatch "a boolean" v

/-- An array of values of one kind. -/
def Decoder.list {α : Type} (item : Decoder α) : Decoder (List α)
  | .array items => items.mapM item
  | v => mismatch "a sequence" v

/-! ### Choices -/

/-- The choice of a given name. -/
def chosen {α : Type} (choices : List (String × α)) (name : String) : Except Fault α :=
  match choices.lookup name with
  | some a => .ok a
  | none => .error (.unknownChoice name (choices.map Prod.fst))

/-- Nothing may follow the name of a choice. -/
def Decoder.nothing : Decoder Unit
  | .array [] | .table [] => .ok ()
  | .array _ => .error .filledArray
  | .table _ => .error .filledTable
  | v => .error (.notTable v.found)

/-- One of several named choices: its name, or a table with its name as the only key and nothing
in it. -/
def Decoder.choice {α : Type} (choices : List (String × α)) : Decoder α
  | .string name => chosen choices name
  | .table [] => .error .noChoice
  | .table [(name, v)] => do
    let a ← chosen choices name
    Decoder.nothing v
    pure a
  | .table _ => .error .manyChoices
  | _ => .error .notChoice

/-! ### Records -/

/-- A key of a record. -/
structure Key where
  name : String
  required : Bool
  check : Decoder Unit

/-- A record under construction: its keys in the order of their declaration, and the value that
it has when each key has been given a value or none. -/
structure Record (α : Type) where
  keys : List Key
  build : (String → Option Value) → Except Fault α

/-- Decode a value for its faults alone. -/
def Decoder.check {α : Type} (decoder : Decoder α) : Decoder Unit :=
  fun v => decoder v >>= fun _ => pure ()

/-- A key that must be present. -/
def Record.required {α : Type} (name : String) (decoder : Decoder α) : Record α where
  keys := [⟨name, true, Decoder.check decoder⟩]
  build given :=
    match given name with
    | some v => decoder v
    | none => .error (.missing name)

/-- A key that may be absent; `fallback` stands for it then. -/
def Record.optional {α : Type} (name : String) (decoder : Decoder α) (fallback : α) :
    Record α where
  keys := [⟨name, false, Decoder.check decoder⟩]
  build given :=
    match given name with
    | some v => decoder v
    | none => .ok fallback

instance : Applicative Record where
  pure a := ⟨[], fun _ => pure a⟩
  seq f x := ⟨f.keys ++ (x ()).keys, fun given => f.build given <*> (x ()).build given⟩

/-- What is asked of an entry of a table: a declared key gets a value that fits it, and numbers
fit a machine type in any other entry. -/
def checkEntry (keys : List Key) (name : String) (v : Value) : Except Fault Unit :=
  match keys.find? (·.name = name) with
  | some key => key.check v
  | none =>
    match v.unfit? with
    | some fault => .error fault
    | none => pure ()

/-- A record from the entries of a table. -/
def Record.ofTable {α : Type} (record : Record α) (entries : Entries) : Except Fault α := do
  entries.forM fun (name, v) => checkEntry record.keys name v
  record.build fun name => entries.lookup name

/-- A record from an array of its values. Values beyond the last key are not looked at. -/
def Record.ofArray {α : Type} (title : String) (record : Record α) (items : List Value) :
    Except Fault α := do
  (record.keys.zip items).forM fun (key, v) => key.check v
  if (record.keys.drop items.length).any (·.required) then
    .error (.tooShort items.length title record.keys.length)
  else record.build fun name => ((record.keys.map (·.name)).zip items).lookup name

/-- A record with the given title. A date or a time counts as a table without any declared key. -/
def Decoder.record {α : Type} (title : String) (record : Record α) : Decoder α
  | .table entries => record.ofTable entries
  | .array items => record.ofArray title items
  | .datetime _ => record.ofTable []
  | v => mismatch ("struct " ++ title) v

/-- What the text of a document stands for. -/
def decode {α : Type} (decoder : Decoder α) (source : String) : Except Failure α :=
  match parse source with
  | none => .error .malformed
  | some entries => (decoder (.table entries)).mapError .unfit

end SchemaTypes.Toml
