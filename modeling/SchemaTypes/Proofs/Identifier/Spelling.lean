import SchemaTypes.Proofs.Identifier.Words
import SchemaTypes.Proofs.Schema.History

/-!
Spellings of one name.

Some words can be spelled as one name with separators between them or with capitals at their
beginnings. Either way the name is cut where one of the words ends, and within a word where it would
be cut if it stood alone, so all spellings have the same words in lower case
(`lowerWords_spell`), and therefore one type name and one import path. A draft that holds one
spelling refuses the others (`spellings_collide`).
-/

namespace SchemaTypes

namespace Identifier

open SchemaTypes.Text

/-- The ways to spell some words as one name. -/
inductive Spelling where
  | snake
  | kebab
  | spaced
  | camel
  | pascal
  deriving DecidableEq, Repr

/-- A word with its first letter in upper case. -/
def raised : List Char → List Char
  | [] => []
  | c :: rest => c.toUpper :: rest

namespace Spelling

/-- The characters of a spelling. -/
def chars : Spelling → List (List Char) → List Char
  | .snake, ws => ['_'].intercalate ws
  | .kebab, ws => ['-'].intercalate ws
  | .spaced, ws => [' '].intercalate ws
  | .camel, [] => []
  | .camel, w :: ws => w ++ ws.flatMap raised
  | .pascal, ws => ws.flatMap raised

/-- Some words as one name. -/
def spell (s : Spelling) (ws : List (List Char)) : String :=
  String.ofList (s.chars ws)

end Spelling

/-- A small letter or a digit. -/
def isSmall (c : Char) : Bool :=
  c.isLower || c.isDigit

/-- A small letter, and one or more small letters and digits after it. -/
def isSmallWord : List Char → Bool
  | [] => false
  | c :: rest => c.isLower && !rest.isEmpty && rest.all isSmall

theorem isSmallWord_iff {w : List Char} :
    isSmallWord w = true ↔
      ∃ c rest, w = c :: rest ∧ c.isLower = true ∧ rest ≠ [] ∧ ∀ d ∈ rest, isSmall d = true := by
  cases w with
  | nil => simp [isSmallWord]
  | cons c rest => simp [isSmallWord, and_assoc]

/-! ### Kinds of characters -/

theorem isAlphanum_of_isSmall {c : Char} (h : isSmall c = true) : c.isAlphanum = true := by
  rw [isSmall, Bool.or_eq_true] at h
  rw [Char.isAlphanum, Char.isAlpha, Bool.or_eq_true, Bool.or_eq_true]
  exact h.imp_left .inr

theorem isUpper_toUpper_of_isLower {c : Char} (h : c.isLower = true) :
    c.toUpper.isUpper = true := by
  rw [c.isUpper_toUpper_eq_isAlpha, Char.isAlpha, h, Bool.or_true]

theorem kindOf_of_isUpper {c : Char} (h : c.isUpper = true) : kindOf [c] = .upper := by
  have isAlphanum : c.isAlphanum = true := by simp [Char.isAlphanum, Char.isAlpha, h]
  exact @of_ascii (fun c => c.isUpper = true → kindOf [c] = .upper) (by decide +kernel) c
    (toNat_lt_of_isAlphanum isAlphanum) h

theorem kindOf_of_isLower {c : Char} (h : c.isLower = true) : kindOf [c] = .lower := by
  have isAlphanum : c.isAlphanum = true := by simp [Char.isAlphanum, Char.isAlpha, h]
  exact @of_ascii (fun c => c.isLower = true → kindOf [c] = .lower) (by decide +kernel) c
    (toNat_lt_of_isAlphanum isAlphanum) h

theorem kindOf_of_isSmall {c : Char} (h : isSmall c = true) :
    kindOf [c] = .lower ∨ kindOf [c] = .digit :=
  @of_ascii (fun c => isSmall c = true → kindOf [c] = .lower ∨ kindOf [c] = .digit)
    (by decide +kernel) c (toNat_lt_of_isAlphanum (isAlphanum_of_isSmall h)) h

/-! ### Cuts -/

section Cut

variable {cluster last : List Char} {xs ys rest tail : List (List Char)}

theorem wordsAfter_separator (separates : kindOf cluster = .separator) (word : List Char) :
    wordsAfter word (cluster :: rest) = word :: wordsAfter [] rest := by
  rw [wordsAfter, if_pos separates]

theorem wordsAfter_of_ends (stays : kindOf cluster ≠ .separator)
    (ends : endsWord (kindOf cluster) ((rest.take 2).map kindOf) = true) (word : List Char) :
    wordsAfter word (cluster :: rest) = (word ++ cluster) :: wordsAfter [] rest := by
  rw [wordsAfter, if_neg stays, if_pos ends]

theorem wordsAfter_of_goesOn (stays : kindOf cluster ≠ .separator)
    (goesOn : endsWord (kindOf cluster) ((rest.take 2).map kindOf) = false) (word : List Char) :
    wordsAfter word (cluster :: rest) = wordsAfter (word ++ cluster) rest := by
  rw [wordsAfter, if_neg stays, if_neg (Bool.eq_false_iff.mp goesOn)]

@[simp] theorem endsWord_nil (kind : Kind) : endsWord kind [] = false := by
  cases kind <;> rfl

@[simp] theorem endsWord_separator (kind : Kind) (kinds : List Kind) :
    endsWord kind (.separator :: kinds) = false := by
  cases kind <;> rfl

/-- Clusters are cut apart at a joint if those before it are cut as if nothing followed. -/
theorem wordsAfter_append (isLast : xs.getLast? = some last)
    (ahead : ∀ kind, endsWord kind (kindOf last :: (ys.take 1).map kindOf) =
      endsWord kind [kindOf last])
    (joint : ∀ word, wordsAfter word (last :: ys) = wordsAfter word [last] ++ tail)
    (word : List Char) :
    wordsAfter word (xs ++ ys) = wordsAfter word xs ++ tail := by
  induction xs generalizing word with
  | nil => cases isLast
  | cons x rest ih =>
    cases rest with
    | nil =>
      obtain rfl : x = last := Option.some.inj isLast
      exact joint word
    | cons y rest =>
      have below := ih isLast
      -- The rules look no further than two clusters ahead.
      have sameAhead : endsWord (kindOf x) (((y :: rest ++ ys).take 2).map kindOf) =
          endsWord (kindOf x) (((y :: rest).take 2).map kindOf) := by
        cases rest with
        | nil =>
          obtain rfl : y = last := Option.some.inj isLast
          exact ahead (kindOf x)
        | cons z rest => rfl
      rw [List.cons_append, wordsAfter, wordsAfter, sameAhead, below, below]
      split
      · rfl
      · split <;> rfl

/-- A separator cuts, and is dropped. -/
theorem wordsAfter_append_separator (isLast : xs.getLast? = some last)
    (separates : kindOf cluster = .separator) (word : List Char) :
    wordsAfter word (xs ++ cluster :: ys) = wordsAfter word xs ++ wordsAfter [] ys := by
  refine wordsAfter_append isLast ?_ ?_ word
  · intro kind
    rw [List.take_succ_cons, List.map_cons, separates]
    cases kind <;> cases kindOf last <;> rfl
  · intro word
    by_cases another : kindOf last = .separator
    · rw [wordsAfter_separator another, wordsAfter_separator another,
        wordsAfter_separator separates]
      rfl
    · rw [wordsAfter_of_goesOn another (by simp [separates]), wordsAfter_separator separates,
        wordsAfter_of_goesOn another (by simp)]
      rfl

/-- A capital after a small letter or a digit begins a word. -/
theorem wordsAfter_append_capital (isLast : xs.getLast? = some last)
    (small : kindOf last = .lower ∨ kindOf last = .digit) (isCapital : kindOf cluster = .upper)
    (word : List Char) :
    wordsAfter word (xs ++ cluster :: ys) =
      wordsAfter word xs ++ wordsAfter [] (cluster :: ys) := by
  have rules : kindOf last ≠ .separator ∧
      (∀ kinds, endsWord (kindOf last) (.upper :: kinds) = true) ∧
      ∀ kind, endsWord kind [kindOf last, .upper] = endsWord kind [kindOf last] := by
    rcases small with isLower | isDigit
    · rw [isLower]
      exact ⟨by decide, fun _ => rfl, fun kind => by cases kind <;> rfl⟩
    · rw [isDigit]
      exact ⟨by decide, fun _ => rfl, fun kind => by cases kind <;> rfl⟩
  obtain ⟨stays, ends, ahead⟩ := rules
  refine wordsAfter_append isLast ?_ ?_ word
  · intro kind
    rw [List.take_succ_cons, List.map_cons, isCapital]
    exact ahead kind
  · intro word
    have endsHere : endsWord (kindOf last) (((cluster :: ys).take 2).map kindOf) = true := by
      rw [List.take_succ_cons, List.map_cons, isCapital]
      exact ends _
    rw [wordsAfter_of_ends stays endsHere, wordsAfter_of_goesOn stays (by simp)]
    rfl

/-- What a word begins with does not change where it ends. -/
theorem map_toLower_wordsAfter_congr {u v : List Char}
    (same : u.map Char.toLower = v.map Char.toLower) (rest : List (List Char)) :
    (wordsAfter u rest).map (·.map Char.toLower) =
      (wordsAfter v rest).map (·.map Char.toLower) := by
  induction rest generalizing u v with
  | nil => simp [wordsAfter, same]
  | cons x rest ih =>
    have longer : (u ++ x).map Char.toLower = (v ++ x).map Char.toLower := by
      rw [List.map_append, List.map_append, same]
    rw [wordsAfter, wordsAfter]
    split
    · rw [List.map_cons, List.map_cons, same]
    · split
      · rw [List.map_cons, List.map_cons, longer]
      · exact ih longer

/-- Before a small letter or a digit a capital is cut like a small letter. -/
theorem map_toLower_wordsAfter_capital {capital letter next : List Char}
    (isCapital : kindOf capital = .upper) (isLetter : kindOf letter = .lower)
    (same : capital.map Char.toLower = letter.map Char.toLower)
    (small : kindOf next = .lower ∨ kindOf next = .digit) :
    (wordsAfter [] (capital :: next :: rest)).map (·.map Char.toLower) =
      (wordsAfter [] (letter :: next :: rest)).map (·.map Char.toLower) := by
  have stays : kindOf capital ≠ .separator := by simp [isCapital]
  have stays' : kindOf letter ≠ .separator := by simp [isLetter]
  rcases small with isLower | isDigit
  · have goesOn : ∀ kind ∈ [Kind.upper, .lower],
        endsWord kind (((next :: rest).take 2).map kindOf) = false := by
      rw [List.take_succ_cons, List.map_cons, isLower]
      simp [endsWord]
    rw [wordsAfter_of_goesOn stays (goesOn _ (by simp [isCapital])),
      wordsAfter_of_goesOn stays' (goesOn _ (by simp [isLetter]))]
    exact map_toLower_wordsAfter_congr same (next :: rest)
  · have ends : ∀ kind ∈ [Kind.upper, .lower],
        endsWord kind (((next :: rest).take 2).map kindOf) = true := by
      rw [List.take_succ_cons, List.map_cons, isDigit]
      simp [endsWord]
    rw [wordsAfter_of_ends stays (ends _ (by simp [isCapital])),
      wordsAfter_of_ends stays' (ends _ (by simp [isLetter])), List.map_cons, List.map_cons,
      List.nil_append, List.nil_append, same]

end Cut

/-- The words of some characters, each of which is a cluster. -/
def cut (s : List Char) : List (List Char) :=
  wordsAfter [] (s.map ([·]))

theorem words_of_printable {s : List Char} (h : ∀ c ∈ s, isPrintable c = true) (any : s ≠ []) :
    words s = cut s := by
  unfold words
  rw [clusters_of_printable h]
  cases s with
  | nil => exact absurd rfl any
  | cons c rest => rfl

theorem cut_append_separator {s t : List Char} {sep : Char} (any : s ≠ [])
    (separates : isSeparator sep = true) : cut (s ++ sep :: t) = cut s ++ cut t := by
  have isLast : (s.map ([·])).getLast? = some [s.getLast any] := by
    rw [List.getLast?_map, List.getLast?_eq_some_getLast any, Option.map_some]
  rw [cut, List.map_append]
  exact wordsAfter_append_separator isLast (kindOf_singleton.mpr separates) []

theorem cut_append_capital {s t : List Char} {last c : Char} (isLast : s.getLast? = some last)
    (small : isSmall last = true) (isCapital : c.isUpper = true) :
    cut (s ++ c :: t) = cut s ++ cut (c :: t) := by
  have isLast' : (s.map ([·])).getLast? = some [last] := by
    rw [List.getLast?_map, isLast, Option.map_some]
  rw [cut, List.map_append]
  exact wordsAfter_append_capital isLast' (kindOf_of_isSmall small) (kindOf_of_isUpper isCapital) []

/-! ### Words of spellings -/

section Words

variable {w : List Char} {ws : List (List Char)}

theorem exists_last_of_isSmallWord (h : isSmallWord w = true) :
    ∃ last, w.getLast? = some last ∧ (raised w).getLast? = some last ∧ isSmall last = true := by
  obtain ⟨c, rest, rfl, -, any, small⟩ := isSmallWord_iff.mp h
  obtain ⟨d, more, rfl⟩ := List.exists_cons_of_ne_nil any
  refine ⟨(d :: more).getLast any, ?_, ?_, small _ (List.getLast_mem any)⟩
  · rw [List.getLast?_cons_cons, List.getLast?_eq_some_getLast]
  · rw [raised, List.getLast?_cons_cons, List.getLast?_eq_some_getLast]

/-- A word is cut in the same places whether it begins with a capital or not. -/
theorem map_toLower_cut_raised (h : isSmallWord w = true) :
    (cut (raised w)).map (·.map Char.toLower) = (cut w).map (·.map Char.toLower) := by
  obtain ⟨c, rest, rfl, isLower, any, small⟩ := isSmallWord_iff.mp h
  obtain ⟨d, more, rfl⟩ := List.exists_cons_of_ne_nil any
  exact map_toLower_wordsAfter_capital (kindOf_of_isUpper (isUpper_toUpper_of_isLower isLower))
    (kindOf_of_isLower isLower) (by simp) (kindOf_of_isSmall (small d List.mem_cons_self))

/-- Words with separators between them are cut there. -/
theorem cut_intercalate {sep : Char} (separates : isSeparator sep = true) (any : ws ≠ [])
    (h : ∀ w ∈ ws, w ≠ []) : cut ([sep].intercalate ws) = ws.flatMap cut := by
  induction ws with
  | nil => exact absurd rfl any
  | cons w rest ih =>
    obtain ⟨first, others⟩ := List.forall_mem_cons.mp h
    cases rest with
    | nil => simp
    | cons next rest =>
      rw [List.intercalate_cons_cons, List.append_assoc, List.singleton_append,
        cut_append_separator first separates, ih (List.cons_ne_nil _ _) others]
      rfl

/-- Words with capitals are cut before each capital. -/
theorem cut_append_flatMap_raised {s : List Char} {last : Char} (isLast : s.getLast? = some last)
    (small : isSmall last = true) (h : ∀ w ∈ ws, isSmallWord w = true) :
    cut (s ++ ws.flatMap raised) = cut s ++ ws.flatMap fun w => cut (raised w) := by
  induction ws generalizing s last with
  | nil => simp
  | cons w rest ih =>
    obtain ⟨first, others⟩ := List.forall_mem_cons.mp h
    obtain ⟨next, -, isNext, nextSmall⟩ := exists_last_of_isSmallWord first
    obtain ⟨c, tail, rfl, isLower, -, -⟩ := isSmallWord_iff.mp first
    calc cut (s ++ ((c :: tail) :: rest).flatMap raised)
        = cut (s ++ c.toUpper :: (tail ++ rest.flatMap raised)) := rfl
      _ = cut s ++ cut (raised (c :: tail) ++ rest.flatMap raised) :=
          cut_append_capital isLast small (isUpper_toUpper_of_isLower isLower)
      _ = cut s ++ ((c :: tail) :: rest).flatMap fun w => cut (raised w) := by
          rw [ih isNext nextSmall others, List.flatMap_cons]

/-! ### Characters of spellings -/

theorem isAlphanum_of_mem (h : isSmallWord w = true) {c : Char} (mem : c ∈ w) :
    c.isAlphanum = true := by
  obtain ⟨first, rest, rfl, isLower, -, small⟩ := isSmallWord_iff.mp h
  rcases List.mem_cons.mp mem with rfl | isLater
  · simp [Char.isAlphanum, Char.isAlpha, isLower]
  · exact isAlphanum_of_isSmall (small c isLater)

theorem isAlphanum_of_mem_raised (h : isSmallWord w = true) {c : Char} (mem : c ∈ raised w) :
    c.isAlphanum = true := by
  obtain ⟨first, rest, rfl, -, -, -⟩ := isSmallWord_iff.mp h
  rcases List.mem_cons.mp mem with rfl | isLater
  · exact isAlphanum_toUpper (isAlphanum_of_mem h List.mem_cons_self)
  · exact isAlphanum_of_mem h (List.mem_cons_of_mem _ isLater)

theorem isPlain_of_isAlphanum {c : Char} (h : c.isAlphanum = true) : isPlain c = true := by
  rw [isPlain, h, Bool.true_or]

theorem isPlain_of_mem_intercalate {sep : Char} (separates : isSeparator sep = true)
    (h : ∀ w ∈ ws, isSmallWord w = true) :
    ∀ c ∈ [sep].intercalate ws, isPlain c = true := by
  intro c mem
  rcases of_mem_intercalate mem with rfl | ⟨w, isWord, inWord⟩
  · rw [isPlain, separates, Bool.or_true]
  · exact isPlain_of_isAlphanum (isAlphanum_of_mem (h w isWord) inWord)

theorem isPlain_of_mem_flatMap_raised (h : ∀ w ∈ ws, isSmallWord w = true) :
    ∀ c ∈ ws.flatMap raised, isPlain c = true := by
  intro c mem
  obtain ⟨w, isWord, inWord⟩ := List.mem_flatMap.mp mem
  exact isPlain_of_isAlphanum (isAlphanum_of_mem_raised (h w isWord) inWord)

namespace Spelling

/-- Spellings consist of letters, digits and separators. -/
theorem isPlain_of_mem_chars (s : Spelling) (h : ∀ w ∈ ws, isSmallWord w = true) :
    ∀ c ∈ s.chars ws, isPlain c = true := by
  cases s with
  | snake => exact isPlain_of_mem_intercalate (by decide) h
  | kebab => exact isPlain_of_mem_intercalate (by decide) h
  | spaced => exact isPlain_of_mem_intercalate (by decide) h
  | camel =>
    cases ws with
    | nil => exact fun _ mem => nomatch mem
    | cons w rest =>
      obtain ⟨first, others⟩ := List.forall_mem_cons.mp h
      intro c mem
      rcases List.mem_append.mp mem with isFirst | isLater
      · exact isPlain_of_isAlphanum (isAlphanum_of_mem first isFirst)
      · exact isPlain_of_mem_flatMap_raised others c isLater
  | pascal => exact isPlain_of_mem_flatMap_raised h

theorem chars_ne_nil (s : Spelling) (any : ws ≠ []) (h : ∀ w ∈ ws, isSmallWord w = true) :
    s.chars ws ≠ [] := by
  obtain ⟨w, rest, rfl⟩ := List.exists_cons_of_ne_nil any
  obtain ⟨c, tail, rfl, -, -, -⟩ := isSmallWord_iff.mp (h w List.mem_cons_self)
  have joined (sep : Char) : [sep].intercalate ((c :: tail) :: rest) ≠ [] := by
    cases rest <;> simp [List.intercalate_cons_cons]
  cases s with
  | snake => exact joined '_'
  | kebab => exact joined '-'
  | spaced => exact joined ' '
  | camel => exact List.cons_ne_nil _ _
  | pascal => exact List.cons_ne_nil _ _

/-- In lower case the words of a spelling are those of the words that are spelled. -/
theorem lowerWords_chars (s : Spelling) (any : ws ≠ []) (h : ∀ w ∈ ws, isSmallWord w = true) :
    lowerWords (s.chars ws) = ws.flatMap fun w => (cut w).map (·.map Char.toLower) := by
  have printable : ∀ c ∈ s.chars ws, isPrintable c = true := fun c mem =>
    isPrintable_of_isPlain (s.isPlain_of_mem_chars h c mem)
  have nonempty : ∀ w ∈ ws, w ≠ [] := by
    intro w isWord
    obtain ⟨c, rest, rfl, -⟩ := isSmallWord_iff.mp (h w isWord)
    exact List.cons_ne_nil c rest
  have same : ws.flatMap (fun w => (cut (raised w)).map (·.map Char.toLower)) =
      ws.flatMap fun w => (cut w).map (·.map Char.toLower) :=
    List.flatMap_congr fun w isWord => map_toLower_cut_raised (h w isWord)
  rw [lowerWords, words_of_printable printable (s.chars_ne_nil any h)]
  cases s with
  | snake => rw [chars, cut_intercalate (by decide) any nonempty, List.map_flatMap]
  | kebab => rw [chars, cut_intercalate (by decide) any nonempty, List.map_flatMap]
  | spaced => rw [chars, cut_intercalate (by decide) any nonempty, List.map_flatMap]
  | camel =>
    obtain ⟨w, rest, rfl⟩ := List.exists_cons_of_ne_nil any
    obtain ⟨first, others⟩ := List.forall_mem_cons.mp h
    obtain ⟨last, isLast, -, small⟩ := exists_last_of_isSmallWord first
    rw [List.flatMap_cons, List.flatMap_cons, map_toLower_cut_raised first,
      List.append_cancel_left_eq] at same
    rw [chars, cut_append_flatMap_raised isLast small others, List.map_append, List.map_flatMap,
      same, List.flatMap_cons]
  | pascal =>
    obtain ⟨w, rest, rfl⟩ := List.exists_cons_of_ne_nil any
    obtain ⟨first, others⟩ := List.forall_mem_cons.mp h
    obtain ⟨last, -, isLast, small⟩ := exists_last_of_isSmallWord first
    rw [chars, List.flatMap_cons, cut_append_flatMap_raised isLast small others, ← same,
      List.map_append, List.map_flatMap, List.flatMap_cons]

theorem plainName_spell (s : Spelling) (h : ∀ w ∈ ws, isSmallWord w = true) :
    PlainName (s.spell ws) := by
  intro c mem
  rw [spell, String.toList_ofList] at mem
  exact s.isPlain_of_mem_chars h c mem

/-- In lower case all spellings of some words have the same words. -/
theorem lowerWords_spell (s t : Spelling) (any : ws ≠ []) (h : ∀ w ∈ ws, isSmallWord w = true) :
    lowerWords (s.spell ws).toList = lowerWords (t.spell ws).toList := by
  rw [spell, spell, String.toList_ofList, String.toList_ofList, s.lowerWords_chars any h,
    t.lowerWords_chars any h]

/-- All spellings of some words have one type name. -/
theorem typeNameOf_spell (s t : Spelling) (any : ws ≠ []) (h : ∀ w ∈ ws, isSmallWord w = true) :
    typeNameOf (s.spell ws) = typeNameOf (t.spell ws) := by
  rw [typeNameOf_of_ascii (s.plainName_spell h).isAscii,
    typeNameOf_of_ascii (t.plainName_spell h).isAscii, s.lowerWords_spell t any h]

/-- All spellings of some words have one import path. -/
theorem importPathOf_spell (s t : Spelling) (any : ws ≠ []) (h : ∀ w ∈ ws, isSmallWord w = true)
    (extension : String) :
    importPathOf (s.spell ws) extension = importPathOf (t.spell ws) extension := by
  rw [importPathOf_of_ascii (s.plainName_spell h).isAscii,
    importPathOf_of_ascii (t.plainName_spell h).isAscii, s.lowerWords_spell t any h]

end Spelling

end Words

end Identifier

open Identifier

/-- All spellings of some words, each a small letter and one or more small letters and digits, have
one type name and one import path. So a draft that holds a collection under one of them refuses, as
it stays, a collection under any other. -/
theorem spellings_collide {ws : List (List Char)} (any : ws ≠ [])
    (h : ∀ w ∈ ws, isSmallWord w = true) :
    (∀ s t : Spelling, typeNameOf (s.spell ws) = typeNameOf (t.spell ws) ∧
      ∀ extension, importPathOf (s.spell ws) extension = importPathOf (t.spell ws) extension) ∧
    ∀ (calls : List Registration) (s t : Spelling) (r : Registration) (owner : String)
        (c : Collection),
      r ∈ (Draft.empty.after calls).entries → r.collection.name = s.spell ws →
      c.name = t.spell ws → c.name ≠ r.collection.name →
      (Draft.empty.after calls).add owner c =
        (Draft.empty.after calls,
          some (.duplicateTypeName c.typeName c.name r.collection.name)) := by
  refine ⟨fun s t => ⟨s.typeNameOf_spell t any h, s.importPathOf_spell t any h⟩, ?_⟩
  intro calls s t r owner c registered isSpelled isSpelled' differ
  have typeName : r.collection.typeName = c.typeName := by
    rw [Collection.typeName, Collection.typeName, isSpelled, isSpelled']
    exact s.typeNameOf_spell t any h
  exact Draft.sound_empty.after.add_of_typeName_eq registered typeName differ owner

/-- Words with digits at the end and within, and one of two letters. -/
def digitWords : List (List Char) :=
  [['a', 'b', '1'], ['c', '2', 'd'], ['g', 'o']]

theorem spellings_collide_digits :
    (∀ w ∈ digitWords, isSmallWord w = true) ∧
      Spelling.snake.spell digitWords = "ab1_c2d_go" ∧
      Spelling.kebab.spell digitWords = "ab1-c2d-go" ∧
      Spelling.spaced.spell digitWords = "ab1 c2d go" ∧
      Spelling.camel.spell digitWords = "ab1C2dGo" ∧
      Spelling.pascal.spell digitWords = "Ab1C2dGo" ∧
      typeNameOf "ab1_c2d_go" = typeNameOf "Ab1C2dGo" ∧
      importPathOf "ab1 c2d go" "ts" = importPathOf "ab1C2dGo" "ts" ∧
      (let d := Draft.empty.after [⟨"A", ⟨"ab1C2dGo", none, [], [], []⟩⟩]
      d.size = 1 ∧ d.add "B" ⟨"ab1-c2d-go", none, [], [], []⟩ =
        (d, some (.duplicateTypeName "Ab1C2DGo" "ab1-c2d-go" "ab1C2dGo"))) := by
  have small : ∀ w ∈ digitWords, isSmallWord w = true := by decide
  have snake : Spelling.snake.spell digitWords = "ab1_c2d_go" := by decide +kernel
  have kebab : Spelling.kebab.spell digitWords = "ab1-c2d-go" := by decide +kernel
  have spaced : Spelling.spaced.spell digitWords = "ab1 c2d go" := by decide +kernel
  have camel : Spelling.camel.spell digitWords = "ab1C2dGo" := by decide +kernel
  have pascal : Spelling.pascal.spell digitWords = "Ab1C2dGo" := by decide +kernel
  have typeName : Collection.typeName ⟨"ab1-c2d-go", none, [], [], []⟩ = "Ab1C2DGo" := by
    decide +kernel
  obtain ⟨same, refused⟩ := spellings_collide (List.cons_ne_nil _ _) small
  refine ⟨small, snake, kebab, spaced, camel, pascal, ?_, ?_, ?_⟩
  · rw [← snake, ← pascal]
    exact (same .snake .pascal).1
  · rw [← spaced, ← camel]
    exact (same .spaced .camel).2 "ts"
  · refine ⟨by decide +kernel, ?_⟩
    have refusal := refused [⟨"A", ⟨"ab1C2dGo", none, [], [], []⟩⟩] .camel .kebab
      ⟨"A", ⟨"ab1C2dGo", none, [], [], []⟩⟩ "B" ⟨"ab1-c2d-go", none, [], [], []⟩
      (by decide +kernel) camel.symm kebab.symm (by decide)
    rwa [typeName] at refusal

end SchemaTypes
