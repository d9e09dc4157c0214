import SchemaTypes.Proofs.Declaration.Line
import SchemaTypes.Proofs.Text.Joined

/-!
Reading declarations.

The text of declarations without comments is that of their lines (`Declarations.toList_text`), and
plain declarations are read back from it (`Declarations.read_text`): the text is cut into lines,
each line is read by itself, and the lines are collected from below.
-/

namespace SchemaTypes

/-! ### Plain declarations -/

/-- An interface without comments whose lines can be read back. -/
structure Interface.Plain (i : Interface) : Prop where
  docs : i.docs = none
  typeName : IsWord i.typeName
  members : ∀ m ∈ i.members, m.Plain

/-- Declarations without comments whose lines can be read back. -/
structure Declarations.Plain (d : Declarations) : Prop where
  imports : ∀ i ∈ d.imports, i.Plain
  interfaces : ∀ i ∈ d.interfaces, i.Plain

/-! ### Lines -/

/-- The text of some lines. -/
def textOf (typing : KeyTyping) (ls : List Line) : List Char :=
  ls.flatMap fun l => l.chars typing ++ ['\n']

@[simp] theorem textOf_nil (typing : KeyTyping) : textOf typing [] = [] := rfl

@[simp] theorem textOf_cons (typing : KeyTyping) (l : Line) (ls : List Line) :
    textOf typing (l :: ls) = l.chars typing ++ '\n' :: textOf typing ls := by
  simp [textOf]

@[simp] theorem textOf_append (typing : KeyTyping) (ls ms : List Line) :
    textOf typing (ls ++ ms) = textOf typing ls ++ textOf typing ms := by
  simp [textOf]

/-- The lines of an interface. -/
def Interface.lines (i : Interface) : List Line :=
  .opening i.typeName :: (i.members.map .member ++ [.closing])

/-- The lines of declarations. -/
def Declarations.lines (d : Declarations) : List Line :=
  d.imports.map .importing ++ ((if d.imports.isEmpty then [] else [.blank]) ++
    [.blank].intercalate (d.interfaces.map (·.lines)))

theorem toList_members (typing : KeyTyping) {members : List Member}
    (h : ∀ m ∈ members, m.Plain) :
    (String.join (members.map (·.text typing))).toList = textOf typing (members.map .member) := by
  rw [String.toList_join, textOf, List.flatMap_map, List.flatMap_map]
  refine List.flatMap_congr fun m mem => ?_
  rw [Member.text, Member.comment, (h m mem).docs, Option.map_none, Option.getD_none,
    String.empty_append, Member.toList_line]
  rfl

theorem Interface.toList_text (typing : KeyTyping) {i : Interface} (h : i.Plain) :
    (i.text typing).toList = textOf typing i.lines := by
  unfold Interface.text Interface.comment Interface.lines
  rw [h.docs, textOf_cons, textOf_append, ← toList_members typing h.members]
  unfold Line.chars headerChars
  simp [Line.chars]

theorem toList_importsText (typing : KeyTyping) (imports : List Import) :
    (importsText imports).toList =
      textOf typing (imports.map .importing ++ if imports.isEmpty then [] else [.blank]) := by
  have each : (String.join (imports.map (·.text))).toList =
      textOf typing (imports.map .importing) := by
    rw [String.toList_join, textOf, List.flatMap_map, List.flatMap_map]
    exact List.flatMap_congr fun i _ => Import.toList_text i
  unfold importsText
  rw [String.toList_append, each, textOf_append]
  split <;> rfl

theorem textOf_intercalate (typing : KeyTyping) (parts : List (List Line)) :
    textOf typing ([.blank].intercalate parts) =
      ['\n'].intercalate (parts.map (textOf typing)) := by
  induction parts with
  | nil => rfl
  | cons part rest ih =>
    cases rest with
    | nil => simp
    | cons next rest =>
      rw [List.intercalate_cons_cons, textOf_append, textOf_append, ih, List.map_cons,
        List.map_cons, List.map_cons, List.intercalate_cons_cons]
      rfl

/-- The text of declarations is that of their lines. -/
theorem Declarations.toList_text {d : Declarations} (h : d.Plain) :
    d.text.toList = textOf d.typing d.lines := by
  have each : (d.interfaces.map (·.text d.typing)).map String.toList =
      (d.interfaces.map (·.lines)).map (textOf d.typing) := by
    rw [List.map_map, List.map_map]
    exact List.map_congr_left fun i mem => Interface.toList_text d.typing (h.interfaces i mem)
  rw [text, String.toList_append, toList_importsText d.typing, body, String.toList_intercalate,
    each, lines, ← List.append_assoc, textOf_append _ (_ ++ _), textOf_intercalate]
  rfl

theorem plain_of_mem_intercalate {parts : List (List Line)}
    (h : ∀ part ∈ parts, ∀ l ∈ part, l.Plain) : ∀ l ∈ [Line.blank].intercalate parts, l.Plain := by
  intro l mem
  rcases of_mem_intercalate mem with rfl | ⟨part, isPart, inPart⟩
  · trivial
  · exact h part isPart l inPart

theorem Interface.plain_of_mem_lines {i : Interface} (h : i.Plain) : ∀ l ∈ i.lines, l.Plain := by
  intro l mem
  rcases List.mem_cons.mp mem with rfl | mem
  · exact h.typeName
  rcases List.mem_append.mp mem with mem | isEnd
  · obtain ⟨m, isMember, rfl⟩ := List.mem_map.mp mem
    exact h.members m isMember
  · rw [List.mem_singleton.mp isEnd]
    trivial

theorem Declarations.plain_of_mem_lines {d : Declarations} (h : d.Plain) :
    ∀ l ∈ d.lines, l.Plain := by
  intro l mem
  rcases List.mem_append.mp mem with mem | mem
  · obtain ⟨i, isImport, rfl⟩ := List.mem_map.mp mem
    exact h.imports i isImport
  rcases List.mem_append.mp mem with isBlank | mem
  · split at isBlank
    · cases isBlank
    · rw [List.mem_singleton.mp isBlank]
      trivial
  · refine plain_of_mem_intercalate ?_ l mem
    intro part isPart
    obtain ⟨i, isInterface, rfl⟩ := List.mem_map.mp isPart
    exact Interface.plain_of_mem_lines (h.interfaces i isInterface)

/-! ### Reading -/

theorem textOf_eq_intercalate (typing : KeyTyping) (ls : List Line) :
    textOf typing ls = ['\n'].intercalate (ls.map (·.chars typing) ++ [[]]) := by
  induction ls with
  | nil => rfl
  | cons l ls ih =>
    rw [textOf_cons, ih, List.map_cons, List.cons_append, List.intercalate_cons_of_ne_nil (by simp)]
    simp

/-- Plain lines can be cut apart. What is after the last line feed is empty. -/
theorem splitOn_textOf (typing : KeyTyping) {ls : List Line} (h : ∀ l ∈ ls, l.Plain) :
    (textOf typing ls).splitOn '\n' = ls.map (·.chars typing) ++ [[]] := by
  rw [textOf_eq_intercalate]
  refine List.splitOn_intercalate '\n' ?_ (by simp)
  intro chars mem
  rcases List.mem_append.mp mem with mem | isEnd
  · obtain ⟨l, isLine, rfl⟩ := List.mem_map.mp mem
    exact Line.newline_notMem_chars typing (h l isLine)
  · simp [List.mem_singleton.mp isEnd]

theorem mapM_read (typing : KeyTyping) {ls : List Line} (h : ∀ l ∈ ls, l.Plain) :
    (ls.map (·.chars typing)).mapM (Line.read typing) = some ls := by
  induction ls with
  | nil => rfl
  | cons l ls ih =>
    rw [List.map_cons, List.mapM_cons, Line.read_chars typing (h l List.mem_cons_self),
      ih fun l mem => h l (List.mem_cons_of_mem _ mem)]
    rfl

/-- What has been read of declarations from below: imports, interfaces, and the members of an
interface whose first line is still to come. -/
structure Outline where
  imports : List Import
  interfaces : List Interface
  members : List Member

namespace Outline

/-- Nothing has been read. -/
def empty : Outline :=
  ⟨[], [], []⟩

/-- Add the line above those that have been read. -/
def add (l : Line) (r : Outline) : Outline :=
  match l with
  | .blank | .closing => r
  | .importing i => { r with imports := i :: r.imports }
  | .opening typeName =>
    { r with interfaces := ⟨none, typeName, r.members⟩ :: r.interfaces, members := [] }
  | .member m => { r with members := m :: r.members }

theorem foldr_members (members : List Member) (r : Outline) :
    (members.map .member).foldr add r = { r with members := members ++ r.members } := by
  induction members with
  | nil => rfl
  | cons m members ih => simp [ih, add]

theorem foldr_interface {i : Interface} (h : i.docs = none) {r : Outline}
    (closed : r.members = []) :
    i.lines.foldr add r = { r with interfaces := i :: r.interfaces } := by
  obtain ⟨docs, typeName, members⟩ := i
  obtain rfl : docs = none := h
  simp [Interface.lines, foldr_members, add, closed]

theorem foldr_interfaces {interfaces : List Interface} (h : ∀ i ∈ interfaces, i.docs = none) :
    ([.blank].intercalate (interfaces.map (·.lines))).foldr add empty = ⟨[], interfaces, []⟩ := by
  induction interfaces with
  | nil => rfl
  | cons i rest ih =>
    have below := ih fun j mem => h j (List.mem_cons_of_mem _ mem)
    have first := h i List.mem_cons_self
    cases rest with
    | nil =>
      rw [List.map_singleton, List.intercalate_singleton, foldr_interface first rfl]
      rfl
    | cons next rest =>
      rw [List.map_cons, List.map_cons, List.intercalate_cons_cons, List.foldr_append,
        List.foldr_append, ← List.map_cons, below]
      exact foldr_interface first rfl

theorem foldr_imports (imports : List Import) (r : Outline) :
    (imports.map .importing).foldr add r = { r with imports := imports ++ r.imports } := by
  induction imports with
  | nil => rfl
  | cons i imports ih => simp [ih, add]

end Outline

namespace Declarations

/-- Read declarations without comments. -/
def read (typing : KeyTyping) (s : String) : Option Declarations :=
  ((s.toList.splitOn '\n').mapM (Line.read typing)).map fun ls =>
    let r := ls.foldr Outline.add .empty
    ⟨typing, r.imports, r.interfaces⟩

theorem foldr_lines {d : Declarations} (h : d.Plain) :
    (d.lines ++ [Line.blank]).foldr Outline.add .empty = ⟨d.imports, d.interfaces, []⟩ := by
  have ends (r : Outline) :
      (if d.imports.isEmpty then [] else [Line.blank]).foldr Outline.add r = r := by
    split <;> rfl
  have last : [Line.blank].foldr Outline.add .empty = .empty := rfl
  rw [lines, List.append_assoc, List.append_assoc, List.foldr_append, List.foldr_append,
    List.foldr_append, last, Outline.foldr_interfaces fun i mem => (h.interfaces i mem).docs, ends,
    Outline.foldr_imports, List.append_nil]

/-- Plain declarations are read back from their text. -/
theorem read_text {d : Declarations} (h : d.Plain) : read d.typing d.text = some d := by
  have plain : ∀ l ∈ d.lines ++ [Line.blank], l.Plain := by
    intro l mem
    rcases List.mem_append.mp mem with isLine | isBlank
    · exact plain_of_mem_lines h l isLine
    · rw [List.mem_singleton.mp isBlank]
      trivial
  have lineEnd : d.lines.map (·.chars d.typing) ++ [[]] =
      (d.lines ++ [Line.blank]).map (·.chars d.typing) := by
    rw [List.map_append]
    rfl
  rw [read, toList_text h, splitOn_textOf d.typing (plain_of_mem_lines h), lineEnd,
    mapM_read d.typing plain, Option.map_some, foldr_lines h]

end Declarations

end SchemaTypes
