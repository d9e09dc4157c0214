import Mathlib.Data.List.Basic
import SchemaTypes.Declaration.Text
import SchemaTypes.Proofs.Declaration.Property

/-!
The lines of declarations.

The text of declarations without comments is a sequence of lines, each an import, the first line of
an interface, a member, the last line of an interface, or empty. Its first character tells which,
and a plain line is read back from its text (`Line.read_chars`): all names in it may be any text
without a line feed, except that type names consist of letters and digits.
-/

namespace SchemaTypes

/-- A text of letters and digits. -/
def IsWord (s : String) : Prop :=
  ∀ c ∈ s.toList, c.isAlphanum = true

/-- A text without line feeds. -/
def IsLine (s : String) : Prop :=
  '\n' ∉ s.toList

instance (s : String) : Decidable (IsWord s) :=
  decidable_of_iff (s.toList.all Char.isAlphanum = true) List.all_eq_true

instance (s : String) : Decidable (IsLine s) :=
  decidable_of_iff (s.toList.contains '\n' = false) (by simp [IsLine])

theorem IsWord.isLine {s : String} (h : IsWord s) : IsLine s := by
  intro mem
  exact absurd (h _ mem) (by decide)

/-! ### Marks -/

/-- What follows a mark at the beginning of a text. -/
def after? (mark : String) (s : List Char) : Option (List Char) :=
  s.dropPrefix? mark.toList

/-- What precedes a mark at the end of a text. -/
def before? (mark : String) (s : List Char) : Option (List Char) :=
  s.dropSuffix? mark.toList

/-- What is between two marks, with which a text begins and ends. -/
def between? (first last : String) (s : List Char) : Option (List Char) :=
  (after? first s).bind (before? last)

@[simp] theorem after?_append (mark : String) (s : List Char) :
    after? mark (mark.toList ++ s) = some s :=
  List.dropPrefix?_append_of_beq s (beq_self_eq_true _)

@[simp] theorem between?_append (first last : String) (s : List Char) :
    between? first last (first.toList ++ (s ++ last.toList)) = some s := by
  rw [between?, after?_append, Option.bind_some]
  exact List.dropSuffix?_eq_some_iff.mpr ⟨_, rfl, beq_self_eq_true _⟩

/-- The letters and digits at the beginning of a text, and what follows. -/
def readWord (s : List Char) : String × List Char :=
  (String.ofList (s.takeWhile Char.isAlphanum), s.dropWhile Char.isAlphanum)

theorem readWord_append {word : String} (h : IsWord word) {rest : List Char}
    (ends : ∀ c ∈ rest.head?, c.isAlphanum = false) :
    readWord (word.toList ++ rest) = (word, rest) := by
  obtain ⟨taken, dropped⟩ := Text.span_append h ends
  rw [readWord, taken, dropped, String.ofList_toList]

/-! ### Imports -/

/-- An import that fits on a line. -/
structure Import.Plain (i : Import) : Prop where
  typeName : IsWord i.typeName
  path : IsLine i.path

/-- The line of an import. -/
def Import.chars (i : Import) : List Char :=
  "import type \x7b ".toList ++ (i.typeName.toList ++
    (" \x7d from '".toList ++ (i.path.toList ++ "';".toList)))

/-- Read the line of an import. -/
def Import.read (s : List Char) : Option Import :=
  (after? "import type \x7b " s).bind fun rest =>
    (between? " \x7d from '" "';" (readWord rest).2).map fun path =>
      ⟨(readWord rest).1, String.ofList path⟩

theorem Import.read_chars {i : Import} (h : i.Plain) : Import.read i.chars = some i := by
  unfold Import.read Import.chars
  rw [after?_append, Option.bind_some, readWord_append h.typeName (by simp), between?_append,
    Option.map_some, String.ofList_toList]

theorem Import.toList_text (i : Import) : i.text.toList = i.chars ++ ['\n'] := by
  unfold Import.text Import.chars
  simp

/-! ### First lines -/

/-- The first line of an interface. -/
def headerChars (typing : KeyTyping) (typeName : String) : List Char :=
  "export interface ".toList ++ (typeName.toList ++ (typing.parameters ++ " \x7b").toList)

/-- Read the first line of an interface: its type name. -/
def readHeader (s : List Char) : Option String :=
  (after? "export interface " s).map fun rest => (readWord rest).1

theorem readHeader_headerChars (typing : KeyTyping) {typeName : String} (h : IsWord typeName) :
    readHeader (headerChars typing typeName) = some typeName := by
  have ends : ∀ c ∈ (typing.parameters ++ " \x7b").toList.head?, c.isAlphanum = false := by
    cases typing <;> simp [KeyTyping.parameters]
  unfold readHeader headerChars
  rw [after?_append, Option.map_some, readWord_append h ends]

/-! ### Members -/

/-- A type that fits on a line. -/
def MemberType.Plain : MemberType → Prop
  | .named name => IsWord name
  | .memberOf typeName key => IsWord typeName ∧ IsLine key

/-- Read the type of a member. -/
def MemberType.read (typing : KeyTyping) (s : List Char) : MemberType :=
  match between? (typing.arguments ++ "['") "']" (readWord s).2 with
  | some key => .memberOf (readWord s).1 (String.ofList key)
  | none => .named (readWord s).1

/-- The type of a member is read back from its text. -/
theorem MemberType.read_text (typing : KeyTyping) {type : MemberType} (h : type.Plain) :
    MemberType.read typing (type.text typing).toList = type := by
  cases type with
  | named name =>
    have nothing : between? (typing.arguments ++ "['") "']" [] = none := by
      cases typing <;> decide
    have isRead := @readWord_append name h [] (by simp)
    rw [List.append_nil] at isRead
    rw [MemberType.read, MemberType.text, isRead, nothing]
  | memberOf typeName key =>
    have ends : ∀ c ∈ ((typing.arguments ++ "['").toList ++ (key.toList ++ "']".toList)).head?,
        c.isAlphanum = false := by
      cases typing <;> simp [KeyTyping.arguments]
    have text : (MemberType.text typing (.memberOf typeName key)).toList =
        typeName.toList ++ ((typing.arguments ++ "['").toList ++ (key.toList ++ "']".toList)) := by
      simp [MemberType.text]
    rw [MemberType.read, text, readWord_append h.1 ends, between?_append]
    simp

theorem MemberType.isLine_text (typing : KeyTyping) {type : MemberType} (h : type.Plain) :
    IsLine (type.text typing) := by
  cases type with
  | named name => exact IsWord.isLine h
  | memberOf typeName key =>
    have noArguments : '\n' ∉ typing.arguments.toList := by
      cases typing <;> decide
    have noTypeName := h.1.isLine
    have noKey := h.2
    unfold IsLine at noTypeName noKey ⊢
    simp [MemberType.text, noArguments, noTypeName, noKey]

/-- A member that fits on a line. -/
structure Member.Plain (m : Member) : Prop where
  docs : m.docs = none
  name : IsLine m.name
  type : m.type.Plain

/-- The line of a member. -/
def Member.chars (typing : KeyTyping) (m : Member) : List Char :=
  memberIndent.toList ++ ((Property.key m.name).toList ++
    ((if m.isOptional then "?" else "").toList ++
      (": ".toList ++ ((m.type.text typing).toList ++ ";".toList))))

/-- Read the mark of what is optional: whether it is there, and what follows. -/
def readOptional : List Char → Bool × List Char
  | '?' :: rest => (true, rest)
  | rest => (false, rest)

/-- Read the line of a member. -/
def Member.read (typing : KeyTyping) (s : List Char) : Option Member :=
  ((after? memberIndent s).bind Property.readKey).bind fun key =>
    (between? ": " ";" (readOptional key.2).2).map fun type =>
      ⟨none, key.1, (readOptional key.2).1, MemberType.read typing type⟩

theorem readOptional_append (isOptional : Bool) {rest : List Char} (h : rest.head? = some ':') :
    readOptional ((if isOptional then "?" else "").toList ++ rest) = (isOptional, rest) := by
  cases rest with
  | nil => cases h
  | cons c rest =>
    obtain rfl := Option.some.inj h
    cases isOptional <;> rfl

/-- A member is read back from its line. -/
theorem Member.read_chars (typing : KeyTyping) {m : Member} (h : m.Plain) :
    Member.read typing (m.chars typing) = some m := by
  obtain ⟨docs, name, isOptional, type⟩ := m
  obtain ⟨rfl, -, isPlain⟩ := h
  -- What follows a key begins with a question mark or a colon.
  have ends : ∀ c ∈ ((if isOptional then "?" else "").toList ++
      (": ".toList ++ ((type.text typing).toList ++ ";".toList))).head?,
      Property.isMedial c = false := by
    cases isOptional <;> simp <;> decide
  rw [Member.read, Member.chars, after?_append, Option.bind_some, Property.readKey_key name ends,
    Option.bind_some, readOptional_append isOptional (by simp), between?_append, Option.map_some,
    MemberType.read_text typing isPlain]

theorem Member.toList_line (typing : KeyTyping) (m : Member) :
    (m.line typing).toList = m.chars typing ++ ['\n'] := by
  simp [Member.line, Member.chars]

theorem Member.newline_notMem_chars (typing : KeyTyping) {m : Member} (h : m.Plain) :
    '\n' ∉ m.chars typing := by
  have noKey : '\n' ∉ (Property.key m.name).toList := by
    intro mem
    rcases Property.mem_of_mem_key mem with inName | isQuote | isBackslash
    · exact h.name inName
    · exact absurd isQuote (by decide)
    · exact absurd isBackslash (by decide)
  have noType := MemberType.isLine_text typing h.type
  have noMark : '\n' ∉ (if m.isOptional then "?" else "").toList := by
    cases m.isOptional <;> decide
  unfold IsLine at noType
  simp only [Member.chars, List.mem_append]
  simp [noKey, noMark, noType, memberIndent]

/-! ### Lines -/

/-- A line of declarations. -/
inductive Line where
  | blank
  | importing (i : Import)
  | opening (typeName : String)
  | member (m : Member)
  | closing

namespace Line

/-- A line that can be read back. -/
def Plain : Line → Prop
  | .blank | .closing => True
  | .importing i => i.Plain
  | .opening typeName => IsWord typeName
  | .member m => m.Plain

/-- The characters of a line. -/
def chars (typing : KeyTyping) : Line → List Char
  | .blank => []
  | .importing i => i.chars
  | .opening typeName => headerChars typing typeName
  | .member m => m.chars typing
  | .closing => ['\x7d']

/-- Read a line. -/
def read (typing : KeyTyping) : List Char → Option Line
  | [] => some .blank
  | ['\x7d'] => some .closing
  | 'i' :: rest => (Import.read ('i' :: rest)).map .importing
  | 'e' :: rest => (readHeader ('e' :: rest)).map .opening
  | s => (Member.read typing s).map .member

/-- A plain line is read back from its characters. -/
theorem read_chars (typing : KeyTyping) {l : Line} (h : l.Plain) :
    read typing (l.chars typing) = some l := by
  cases l with
  | blank => rfl
  | closing => rfl
  | importing i =>
    have isRead : read typing i.chars = (Import.read i.chars).map .importing := rfl
    rw [chars, isRead, Import.read_chars h, Option.map_some]
  | opening typeName =>
    have isRead : read typing (headerChars typing typeName) =
        (readHeader (headerChars typing typeName)).map .opening := rfl
    rw [chars, isRead, readHeader_headerChars typing h, Option.map_some]
  | member m =>
    have isRead : read typing (m.chars typing) =
        (Member.read typing (m.chars typing)).map .member := rfl
    rw [chars, isRead, Member.read_chars typing h, Option.map_some]

/-- A plain line has no line feed in it. -/
theorem newline_notMem_chars (typing : KeyTyping) {l : Line} (h : l.Plain) :
    '\n' ∉ l.chars typing := by
  cases l with
  | blank => simp [chars]
  | closing => simp [chars]
  | importing i =>
    have noTypeName := h.typeName.isLine
    have noPath := h.path
    unfold IsLine at noTypeName noPath
    unfold chars Import.chars
    simp [noTypeName, noPath]
  | opening typeName =>
    have noTypeName := IsWord.isLine h
    have noParameters : '\n' ∉ typing.parameters.toList := by
      cases typing <;> decide
    unfold IsLine at noTypeName
    unfold chars headerChars
    simp [noTypeName, noParameters]
  | member m => exact Member.newline_notMem_chars typing h

end Line

end SchemaTypes
