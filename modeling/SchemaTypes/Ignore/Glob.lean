/-!
Globs: patterns for the paths of files.

A glob is a list of pieces. `Glob.parse` reads it from its text; text that breaks the rules, such
as an opening brace without a closing one, has no glob.
-/

namespace SchemaTypes.Ignore

/-- A piece of a glob. -/
inductive Piece where
  /-- A character that stands for itself. -/
  | literal (c : Char)
  /-- One byte other than a slash. -/
  | any
  /-- Any number of bytes other than slashes. -/
  | star
  /-- Two stars at the beginning: any folders, or none. -/
  | leading
  /-- Two stars after the last slash: whatever is in a folder. -/
  | trailing
  /-- Two stars between two slashes: any folders, or none. -/
  | between
  /-- One byte of a class, or one of no class. -/
  | oneOf (negated : Bool) (ranges : List (Char × Char))
  /-- One of several globs. -/
  | choice (branches : List (List Piece))

/-- A glob. -/
abbrev Glob := List Piece

namespace Glob

/-! ### Classes -/

/-- The ranges of a class under construction, the last one first, with a flag for a hyphen that has
yet to find its second end. -/
structure ClassScan where
  ranges : List (Char × Char)
  hyphen : Bool

/-- One character of a class other than its closing bracket. A range may not be empty. -/
def ClassScan.next (scan : ClassScan) (c : Char) : Option ClassScan :=
  match scan.ranges with
  | [] => some ⟨[(c, c)], false⟩
  | (low, high) :: ranges =>
    if scan.hyphen then if c < low then none else some ⟨(low, c) :: ranges, false⟩
    else if c = '-' then some ⟨(low, high) :: ranges, true⟩
    else some ⟨(c, c) :: (low, high) :: ranges, false⟩

/-- The ranges of a finished class. A hyphen at the end stands for itself. -/
def ClassScan.finish (scan : ClassScan) : List (Char × Char) :=
  (if scan.hyphen then ('-', '-') :: scan.ranges else scan.ranges).reverse

/-- The outcome of reading a class. -/
inductive ClassResult where
  | closed (ranges : List (Char × Char)) (rest : List Char)
  | unclosed
  | invalid

/-- The rest of a class. A bracket at its very beginning is a member. -/
def classFrom (scan : ClassScan) : List Char → ClassResult
  | [] => .unclosed
  | c :: rest =>
    if c = ']' ∧ ¬scan.ranges.isEmpty then .closed scan.finish rest
    else
      match scan.next c with
      | some next => classFrom next rest
      | none => .invalid

/-- A class after its opening bracket, with a flag for one that is negated. -/
def classAt : List Char → Bool × ClassResult
  | '!' :: rest | '^' :: rest => (true, classFrom ⟨[], false⟩ rest)
  | rest => (false, classFrom ⟨[], false⟩ rest)

/-! ### Alternatives -/

/-- An alternative under construction: its finished branches and the pieces of the current one, the
last one first in both. -/
structure Scope where
  branches : List (List Piece)
  pieces : List Piece

/-- The alternatives that are open, the innermost apart. The glob itself is the outermost. -/
structure Nesting where
  inner : Scope
  outer : List Scope

/-- Add a piece. -/
def Nesting.push (n : Nesting) (p : Piece) : Nesting :=
  { n with inner := { n.inner with pieces := p :: n.inner.pieces } }

/-- Put a piece in place of the last one, unless that has two stars itself. -/
def Nesting.replace (n : Nesting) (p : Piece) : Nesting :=
  match n.inner.pieces with
  | .leading :: _ | .trailing :: _ => n
  | _ :: pieces => { n with inner := { n.inner with pieces := p :: pieces } }
  | [] => n.push p

/-- Begin an alternative. -/
def Nesting.begin (n : Nesting) : Nesting :=
  ⟨⟨[], []⟩, n.inner :: n.outer⟩

/-- Begin a further branch. Outside alternatives a comma stands for itself. -/
def Nesting.comma (n : Nesting) : Nesting :=
  if n.outer.isEmpty then n.push (.literal ',')
  else { n with inner := ⟨n.inner.pieces.reverse :: n.inner.branches, []⟩ }

/-- Finish an alternative. -/
def Nesting.finish (n : Nesting) : Option Nesting :=
  match n.outer with
  | [] => none
  | scope :: outer =>
    let branches := (n.inner.pieces.reverse :: n.inner.branches).reverse
    some (Nesting.push ⟨scope, outer⟩ (.choice branches))

/-! ### Stars -/

/-- Two stars with nothing special about them. -/
def Nesting.stars (n : Nesting) : Nesting :=
  (n.push .star).push .star

/-- Two stars may stand for folders after this character. -/
def Nesting.bounds (n : Nesting) (before : Option Char) : Bool :=
  before = some '/' || (!n.outer.isEmpty && (before = some ',' || before = some '\x7b'))

/-- Two stars, read up to the second one: the glob so far, the last character that belongs to
them, and what remains of the text. -/
def doubleStar (before : Option Char) (n : Nesting) (rest : List Char) :
    Nesting × Char × List Char :=
  if n.inner.pieces.isEmpty then
    match rest with
    | [] => (n.push .leading, '*', [])
    | '/' :: more => (n.push .leading, '/', more)
    | _ => (n.stars, '*', rest)
  else if n.bounds before then
    match rest with
    | [] => (n.replace .trailing, '*', [])
    | '/' :: more => (n.replace .between, '/', more)
    | c :: _ =>
      if !n.outer.isEmpty && (c = ',' || c = '\x7d') then (n.replace .trailing, '*', rest)
      else (n.stars, '*', rest)
  else (n.stars, '*', rest)

theorem length_doubleStar_le (before : Option Char) (n : Nesting) (rest : List Char) :
    (doubleStar before n rest).2.2.length ≤ rest.length := by
  unfold doubleStar
  split
  · split <;> simp
  · split
    · split
      · simp
      · simp
      · split <;> simp
    · simp

/-! ### Whole globs -/

/-- Read the rest of a glob. `before` is the character before it, and `mayOpen` says that a bracket
may still begin a class. -/
def parseFrom (before : Option Char) (mayOpen : Bool) (n : Nesting) (s : List Char) :
    Option Nesting :=
  match s with
  | [] => some n
  | '?' :: rest => parseFrom (some '?') mayOpen (n.push .any) rest
  | '*' :: '*' :: rest =>
    match h : doubleStar before n rest with
    | (next, last, after) =>
      have : after.length ≤ rest.length := by simpa [h] using length_doubleStar_le before n rest
      parseFrom (some last) mayOpen next after
  | '*' :: rest => parseFrom (some '*') mayOpen (n.push .star) rest
  | '[' :: rest =>
    if mayOpen then
      match classAt rest with
      | (negated, .closed ranges after) =>
        if _h : after.length ≤ rest.length then
          parseFrom (some ']') mayOpen (n.push (.oneOf negated ranges)) after
        else none
      | (_, .unclosed) => parseFrom (some '[') false (n.push (.literal '[')) rest
      | (_, .invalid) => none
    else parseFrom (some '[') mayOpen (n.push (.literal '[')) rest
  | '\x7b' :: rest => parseFrom (some '\x7b') mayOpen n.begin rest
  | '\x7d' :: rest =>
    match n.finish with
    | some next => parseFrom (some '\x7d') mayOpen next rest
    | none => none
  | ',' :: rest => parseFrom (some ',') mayOpen n.comma rest
  | '\\' :: c :: rest => parseFrom (some c) mayOpen (n.push (.literal c)) rest
  | ['\\'] => none
  | c :: rest => parseFrom (some c) mayOpen (n.push (.literal c)) rest
termination_by s.length

/-- The glob of a text. Every alternative has to be finished. -/
def parse (text : List Char) : Option Glob :=
  match parseFrom none true ⟨⟨[], []⟩, []⟩ text with
  | some ⟨⟨_, pieces⟩, []⟩ => some pieces.reverse
  | _ => none

end Glob

end SchemaTypes.Ignore
