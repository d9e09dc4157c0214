import Mathlib.Data.List.TakeWhile
import SchemaTypes.Declaration.Property

/-!
Reading property names.

A property name is read back from its key, whatever follows it, as long as an identifier does not go
on there (`readKey_key`).
-/

namespace SchemaTypes

/-- What comes before the first character outside a class, and what comes from it on. -/
theorem Text.span_append {p : Char → Bool} {word rest : List Char} (inside : ∀ c ∈ word, p c = true)
    (ends : ∀ c ∈ rest.head?, p c = false) :
    (word ++ rest).takeWhile p = word ∧ (word ++ rest).dropWhile p = rest := by
  rw [List.takeWhile_append_of_pos inside, List.dropWhile_append_of_pos inside]
  cases rest with
  | nil => simp
  | cons c rest => simp [ends c rfl]

namespace Property

/-! ### Literals -/

/-- Read the rest of a literal: what it stands for up to its closing quote, and what follows. -/
def unquote : List Char → Option (List Char × List Char)
  | '\'' :: rest => some ([], rest)
  | '\\' :: c :: rest => (unquote rest).map fun r => (c :: r.1, r.2)
  | c :: rest => (unquote rest).map fun r => (c :: r.1, r.2)
  | [] => none

/-- A name is read back from its literal. -/
theorem unquote_escaped (name rest : List Char) :
    unquote (name.flatMap escaped ++ '\'' :: rest) = some (name, rest) := by
  induction name with
  | nil => rw [List.flatMap_nil, List.nil_append, unquote]
  | cons c name ih =>
    rw [List.flatMap_cons, List.append_assoc]
    by_cases special : c = '\\' ∨ c = '\''
    · rw [escaped, if_pos special, List.cons_append, List.singleton_append, unquote, ih]
      rfl
    · obtain ⟨noBackslash, noQuote⟩ := not_or.mp special
      rw [escaped, if_neg special, List.singleton_append, unquote, ih]
      · rfl
      · exact fun eq => noQuote eq
      · exact fun _ _ eq _ => noBackslash eq

/-! ### Keys -/

/-- Read a key: the name that it stands for, and what follows. -/
def readKey : List Char → Option (String × List Char)
  | '\'' :: rest => (unquote rest).map fun r => (String.ofList r.1, r.2)
  | s => some (String.ofList (s.takeWhile isMedial), s.dropWhile isMedial)

theorem isMedial_of_isInitial {c : Char} (h : isInitial c = true) : isMedial c = true := by
  simp only [isInitial, isMedial, Char.isAlphanum, Bool.or_eq_true] at h ⊢
  exact h.imp_left (Or.imp_left .inl)

theorem isMedial_of_isIdentifier {name : List Char} (h : isIdentifier name = true) :
    ∀ c ∈ name, isMedial c = true := by
  cases name with
  | nil => simp
  | cons first rest =>
    obtain ⟨isFirst, isRest⟩ := Bool.and_eq_true_iff.mp h
    intro c mem
    rcases List.mem_cons.mp mem with rfl | isLater
    · exact isMedial_of_isInitial isFirst
    · exact List.all_eq_true.mp isRest c isLater

theorem readKey_of_isIdentifier {name : List Char} (h : isIdentifier name = true)
    (rest : List Char) :
    readKey (name ++ rest) =
      some (String.ofList ((name ++ rest).takeWhile isMedial),
        (name ++ rest).dropWhile isMedial) := by
  cases name with
  | nil => cases h
  | cons first _ =>
    have noQuote : first ≠ '\'' := by
      rintro rfl
      exact absurd h (by simp [isIdentifier, isInitial])
    rw [List.cons_append, readKey]
    exact fun _ eq => noQuote (List.head_eq_of_cons_eq eq)

/-- A property name is read back from its key. -/
theorem readKey_key (name : String) {rest : List Char}
    (ends : ∀ c ∈ rest.head?, isMedial c = false) :
    readKey ((key name).toList ++ rest) = some (name, rest) := by
  unfold key
  split
  · rename_i isId
    obtain ⟨taken, dropped⟩ := Text.span_append (isMedial_of_isIdentifier isId) ends
    rw [readKey_of_isIdentifier isId, taken, dropped, String.ofList_toList]
  · rw [String.toList_ofList, literal, List.append_assoc, List.singleton_append, List.cons_append,
      readKey, unquote_escaped, Option.map_some, String.ofList_toList]

/-- The characters of a key are those of the name, quotes and backslashes. -/
theorem mem_of_mem_key {name : String} {c : Char} (h : c ∈ (key name).toList) :
    c ∈ name.toList ∨ c = '\'' ∨ c = '\\' := by
  unfold key at h
  split at h
  · exact .inl h
  · simp only [String.toList_ofList, literal, List.mem_append, List.mem_cons, List.mem_flatMap,
      List.not_mem_nil, or_false] at h
    rcases h with (isQuote | ⟨d, mem, isEscaped⟩) | isQuote
    · exact .inr (.inl isQuote)
    · unfold escaped at isEscaped
      split at isEscaped <;> simp only [List.mem_cons, List.not_mem_nil, or_false] at isEscaped
      · rcases isEscaped with isBackslash | rfl
        · exact .inr (.inr isBackslash)
        · exact .inl mem
      · exact .inl (isEscaped ▸ mem)
    · exact .inr (.inl isQuote)

end Property

end SchemaTypes
