import SchemaTypes.Order.Keyed
import SchemaTypes.Toml.Value

/-!
Tables under construction.

A document defines its tables piece by piece: by headers, by headers of their own tables, by
dotted keys. What may still be added to a table depends on how it came about, which `Origin`
records; `Item.toValue` forgets it when the document is complete.
-/

namespace SchemaTypes.Toml

/-- How a table came about. -/
inductive Origin where
  /-- By a header of its own. -/
  | header
  /-- By the header of a table inside it. -/
  | implied
  /-- By a dotted key. -/
  | dotted
  deriving DecidableEq, Repr

/-- A part of a document under construction. -/
inductive Item where
  /-- A complete value. -/
  | value (v : Value)
  /-- A table that may grow. -/
  | table (origin : Origin) (entries : List (String × Item))
  /-- An array of tables, of which the latest may grow. -/
  | tables (earlier : List (List (String × Item))) (latest : List (String × Item))

/-- The entries of a table under construction. -/
abbrev Items := List (String × Item)

/-- Give a key a new item. -/
def Items.put (key : String) (item : Item) (items : Items) : Items :=
  insertKeyed Prod.fst (key, item) items

/-! ### Assignments -/

/-- Assign a value to a dotted key inside a table. A dotted key extends tables that dotted keys
made, and no others; it may pass through a table that a header implied, but not end there. -/
def Items.assign (path : List String) (key : String) (v : Value) (items : Items) : Option Items :=
  match path with
  | [] => if (items.lookup key).isSome then none else some (items.put key (.value v))
  | step :: path =>
    match items.lookup step with
    | none => (Items.assign path key v []).map fun inner => items.put step (.table .dotted inner)
    | some (.table .dotted inner) =>
      (Items.assign path key v inner).map fun inner => items.put step (.table .dotted inner)
    | some (.table .implied inner) =>
      if path.isEmpty then none
      else (Items.assign path key v inner).map fun inner => items.put step (.table .implied inner)
    | some (.tables earlier latest) =>
      if path.isEmpty then none
      else
        (Items.assign path key v latest).map fun latest =>
          items.put step (.tables earlier latest)
    | some (.table .header _) | some (.value _) => none

/-! ### Headers -/

/-- Change the table at a path of headers. Missing tables on the way are implied; of an array of
tables the latest is meant. -/
def Items.within (path : List String) (change : Items → Option Items) (items : Items) :
    Option Items :=
  match path with
  | [] => change items
  | step :: path =>
    match items.lookup step with
    | none => (Items.within path change []).map fun inner => items.put step (.table .implied inner)
    | some (.table origin inner) =>
      (Items.within path change inner).map fun inner => items.put step (.table origin inner)
    | some (.tables earlier latest) =>
      (Items.within path change latest).map fun latest => items.put step (.tables earlier latest)
    | some (.value _) => none

/-- Begin the table of a header. Only a table that is merely implied may exist already. -/
def Items.openTable (key : String) (items : Items) : Option Items :=
  match items.lookup key with
  | none => some (items.put key (.table .header []))
  | some (.table .implied inner) => some (items.put key (.table .header inner))
  | _ => none

/-- Begin a further table of an array of tables. -/
def Items.openElement (key : String) (items : Items) : Option Items :=
  match items.lookup key with
  | none => some (items.put key (.tables [] []))
  | some (.tables earlier latest) => some (items.put key (.tables (earlier ++ [latest]) []))
  | _ => none

/-! ### Completion -/

mutual

/-- The value that a finished item stands for. -/
def Item.toValue : Item → Value
  | .value v => v
  | .table _ entries => .table (itemsToEntries entries)
  | .tables earlier latest => .array (tablesToValues earlier ++ [.table (itemsToEntries latest)])

/-- The entries of a finished table. -/
def itemsToEntries : List (String × Item) → List (String × Value)
  | [] => []
  | (key, item) :: rest => (key, item.toValue) :: itemsToEntries rest

/-- The finished tables of an array of tables. -/
def tablesToValues : List (List (String × Item)) → List Value
  | [] => []
  | entries :: rest => .table (itemsToEntries entries) :: tablesToValues rest

end

/-- A table from its assignments, in order. -/
def Items.ofAssignments (assignments : List (List String × String × Value)) : Option Items :=
  assignments.foldlM (fun items (path, key, v) => Items.assign path key v items) []

end SchemaTypes.Toml
