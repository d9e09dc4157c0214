import SchemaTypes.Proofs.Declaration.Property

/-!
What a key stands for.

A text stands for a name as an identifier or as a literal. `readLiteral` reads literals strictly: a
backslash has to escape a quote or another backslash, and no quote stands inside without one. It
accepts the literals of names and nothing else (`readLiteral_eq_some_iff`), so every key stands for
its name (`value?_key`) and different names have different keys (`key_injective`).
-/

namespace SchemaTypes.Property

/-! ### Literals -/

/-- Read the rest of a literal, which ends with the closing quote. -/
def unescape : List Char → Option (List Char)
  | [] => none
  | ['\''] => some []
  | '\\' :: c :: rest => if c = '\\' ∨ c = '\'' then (unescape rest).map (c :: ·) else none
  | c :: rest => if c = '\\' ∨ c = '\'' then none else (unescape rest).map (c :: ·)

/-- Read a literal with nothing before or after it. -/
def readLiteral : List Char → Option (List Char)
  | '\'' :: rest => unescape rest
  | _ => none

theorem escaped_of_special {c : Char} (h : c = '\\' ∨ c = '\'') : escaped c = ['\\', c] :=
  if_pos h

theorem escaped_of_plain {c : Char} (h : ¬ (c = '\\' ∨ c = '\'')) : escaped c = [c] :=
  if_neg h

theorem unescape_cons_of_plain {c : Char} (h : ¬ (c = '\\' ∨ c = '\'')) (rest : List Char) :
    unescape (c :: rest) = (unescape rest).map (c :: ·) := by
  obtain ⟨noBackslash, noQuote⟩ := not_or.mp h
  rw [unescape, if_neg h]
  · exact fun eq _ => noQuote eq
  · exact fun _ _ eq _ => noBackslash eq

theorem unescape_eq_some_iff {s name : List Char} :
    unescape s = some name ↔ s = name.flatMap escaped ++ ['\''] := by
  constructor
  · intro h
    fun_induction unescape s generalizing name with
    | case1 => cases h
    | case2 => rw [← Option.some.inj h, List.flatMap_nil, List.nil_append]
    | case3 c rest special ih =>
      obtain ⟨tail, isTail, rfl⟩ := Option.map_eq_some_iff.mp h
      rw [ih isTail, List.flatMap_cons, escaped_of_special special]
      rfl
    | case4 => cases h
    | case5 => cases h
    | case6 c rest _ _ plain ih =>
      obtain ⟨tail, isTail, rfl⟩ := Option.map_eq_some_iff.mp h
      rw [ih isTail, List.flatMap_cons, escaped_of_plain plain]
      rfl
  · rintro rfl
    induction name with
    | nil => rfl
    | cons c name ih =>
      rw [List.flatMap_cons, List.append_assoc]
      by_cases special : c = '\\' ∨ c = '\''
      · rw [escaped_of_special special, List.cons_append, List.singleton_append, unescape,
          if_pos special, ih]
        rfl
      · rw [escaped_of_plain special, List.singleton_append, unescape_cons_of_plain special, ih]
        rfl

/-- What is read as a literal is the literal of a name. -/
theorem readLiteral_eq_some_iff {s name : List Char} :
    readLiteral s = some name ↔ s = literal name := by
  unfold readLiteral
  split
  · rw [unescape_eq_some_iff, literal, List.cons_append, List.cons.injEq, eq_self, true_and]
  · rename_i noQuote
    constructor
    · intro h
      cases h
    · intro h
      exact absurd h (noQuote _)

theorem length_le_length_flatMap_escaped (name : List Char) :
    name.length ≤ (name.flatMap escaped).length := by
  induction name with
  | nil => exact Nat.le_refl 0
  | cons c name ih =>
    rw [List.flatMap_cons, List.length_append, List.length_cons]
    have : 1 ≤ (escaped c).length := by
      unfold escaped
      split <;> simp
    omega

/-- A name is left as it is between quotes if nothing in it has to be escaped. -/
theorem flatMap_escaped_eq_self_iff {name : List Char} :
    name.flatMap escaped = name ↔ '\\' ∉ name ∧ '\'' ∉ name := by
  induction name with
  | nil => simp
  | cons c name ih =>
    rw [List.flatMap_cons]
    by_cases special : c = '\\' ∨ c = '\''
    · constructor
      · intro same
        -- The backslash has made the name longer.
        have length := congrArg List.length same
        have atLeast := length_le_length_flatMap_escaped name
        rw [escaped_of_special special, List.length_append, List.length_cons] at length
        simp only [List.length_cons, List.length_nil] at length
        omega
      · rintro ⟨noBackslash, noQuote⟩
        rcases special with rfl | rfl
        · exact absurd List.mem_cons_self noBackslash
        · exact absurd List.mem_cons_self noQuote
    · obtain ⟨noBackslash, noQuote⟩ := not_or.mp special
      rw [escaped_of_plain special, List.singleton_append, List.cons.injEq, ih, List.mem_cons,
        List.mem_cons]
      simp [Ne.symm noBackslash, Ne.symm noQuote]

/-- A name between quotes, as it is, is its own literal only if nothing in it has to be escaped. -/
theorem readLiteral_quoted_iff (name : String) :
    readLiteral ("'" ++ name ++ "'").toList = some name.toList ↔
      '\\' ∉ name.toList ∧ '\'' ∉ name.toList := by
  rw [readLiteral_eq_some_iff, ← flatMap_escaped_eq_self_iff, literal, eq_comm]
  simp

/-! ### Keys -/

/-- The name for which a key stands: itself if it is an identifier, or else what is read from it as
a literal. -/
def value? (key : String) : Option String :=
  if isIdentifier key.toList then some key else (readLiteral key.toList).map String.ofList

/-- A key is an identifier that is the name itself, or a literal that stands for it. -/
theorem isIdentifier_or_readLiteral_key (name : String) :
    isIdentifier (key name).toList = true ∧ key name = name ∨
      isIdentifier (key name).toList = false ∧
        readLiteral (key name).toList = some name.toList := by
  unfold key
  split
  · rename_i isId
    exact .inl ⟨isId, rfl⟩
  · right
    rw [String.toList_ofList]
    exact ⟨rfl, readLiteral_eq_some_iff.mpr rfl⟩

/-- A key stands for its name. -/
theorem value?_key (name : String) : value? (key name) = some name := by
  unfold value?
  rcases isIdentifier_or_readLiteral_key name with ⟨isId, same⟩ | ⟨noId, isRead⟩
  · rw [if_pos isId, same]
  · rw [if_neg (by simp [noId]), isRead, Option.map_some, String.ofList_toList]

/-- Different names have different keys. -/
theorem key_injective : Function.Injective key := by
  intro a b same
  have values := congrArg value? same
  rw [value?_key, value?_key] at values
  exact Option.some.inj values

end SchemaTypes.Property
