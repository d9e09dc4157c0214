import SchemaTypes.Proofs.Identifier.Ascii

/-!
The characters that case mapping makes.

Upper-casing and lower-casing make letters and marks, all of them from `A` on: a character before
`A` is in the form of a text only if it is in the text (`mem_upperChar`, `mem_lowerAfter`). The type
name of a collection therefore has no punctuation that is not in the name
(`mem_of_mem_typeNameOf`). Nor does it begin with a small ASCII letter, since upper-casing makes
none (`isCapitalized_typeNameOf`).
-/

namespace SchemaTypes

namespace Text

/-! ### Tables -/

/-- All code points of a run move to characters from `A` on. -/
def CaseRun.Lettered (r : CaseRun) : Prop :=
  0x41 ≤ r.first + r.shift ∧
    (r.last + r.shift < 0xD800 ∨ 0xE000 ≤ r.first + r.shift ∧ r.last + r.shift < 0x110000)

instance (r : CaseRun) : Decidable r.Lettered := by
  unfold CaseRun.Lettered
  infer_instance

/-- A sequence of characters from `A` on. -/
def IsLettered (codes : List Nat) : Prop :=
  ∀ n ∈ codes, 0x41 ≤ n ∧ n.isValidChar

instance (codes : List Nat) : Decidable (IsLettered codes) :=
  decidable_of_iff (codes.all (fun n => 0x41 ≤ n ∧ n.isValidChar) = true) (by simp [IsLettered])

theorem lettered_ofNat {n : Nat} (atLeast : 0x41 ≤ n) (valid : n.isValidChar) :
    0x41 ≤ (Char.ofNat n).toNat := by
  rw [Char.ofNat, dif_pos valid]
  exact atLeast

theorem lettered_of_image? {r : CaseRun} (h : r.Lettered) {n code : Nat}
    (isImage : r.image? n = some code) : 0x41 ≤ code ∧ code.isValidChar := by
  unfold CaseRun.image? at isImage
  split at isImage
  · rename_i inside
    obtain ⟨first, last, -⟩ := inside
    obtain rfl := Option.some.inj isImage
    obtain ⟨atLeast, valid⟩ := h
    unfold Nat.isValidChar
    omega
  · cases isImage

/-- A character maps to a sequence of the table, to its image in a run, or to itself. -/
theorem mapCase_cases (special : List (Nat × List Nat)) (runs : List CaseRun) (c : Char) :
    (∃ entry ∈ special, mapCase special runs c = entry.2.map Char.ofNat) ∨
      (∃ r ∈ runs, ∃ code, r.image? c.toNat = some code ∧
        mapCase special runs c = [Char.ofNat code]) ∨
      mapCase special runs c = [c] := by
  unfold mapCase
  split
  · rename_i codes found
    obtain ⟨before, after, rfl, -⟩ := List.lookup_eq_some_iff.mp found
    exact .inl ⟨_, List.mem_append_right _ List.mem_cons_self, rfl⟩
  · split
    · rename_i code found
      obtain ⟨r, isRun, isImage⟩ := List.exists_of_findSome?_eq_some found
      exact .inr (.inl ⟨r, isRun, code, isImage, rfl⟩)
    · exact .inr (.inr rfl)

/-- Tables that make letters and marks only leave everything before `A` as it is. -/
theorem mem_mapCase {special : List (Nat × List Nat)} {runs : List CaseRun}
    (sequences : ∀ entry ∈ special, IsLettered entry.2) (moves : ∀ r ∈ runs, r.Lettered)
    {c d : Char} (mem : d ∈ mapCase special runs c) : d = c ∨ 0x41 ≤ d.toNat := by
  rcases mapCase_cases special runs c with ⟨entry, isEntry, eq⟩ | ⟨r, isRun, code, isImage, eq⟩ | eq
  · rw [eq] at mem
    obtain ⟨n, isCode, rfl⟩ := List.mem_map.mp mem
    obtain ⟨atLeast, valid⟩ := sequences entry isEntry n isCode
    exact .inr (lettered_ofNat atLeast valid)
  · rw [eq] at mem
    obtain ⟨atLeast, valid⟩ := lettered_of_image? (moves r isRun) isImage
    rw [List.mem_singleton.mp mem]
    exact .inr (lettered_ofNat atLeast valid)
  · rw [eq] at mem
    exact .inl (List.mem_singleton.mp mem)

/-! ### Forms of a text -/

theorem mem_upperChar {c d : Char} (mem : d ∈ upperChar c) : d = c ∨ 0x41 ≤ d.toNat := by
  unfold upperChar at mem
  split at mem
  · rename_i isAscii
    rw [List.mem_singleton.mp mem]
    exact @of_ascii (fun c => c.toUpper = c ∨ 0x41 ≤ c.toUpper.toNat) (by decide) c isAscii
  · exact mem_mapCase (by decide +kernel) (by decide +kernel) mem

theorem mem_lowerChar {c d : Char} (mem : d ∈ lowerChar c) : d = c ∨ 0x41 ≤ d.toNat := by
  unfold lowerChar at mem
  split at mem
  · rename_i isAscii
    rw [List.mem_singleton.mp mem]
    exact @of_ascii (fun c => c.toLower = c ∨ 0x41 ≤ c.toLower.toNat) (by decide) c isAscii
  · exact mem_mapCase (by decide +kernel) (by decide +kernel) mem

theorem mem_lowerAfter {before s : List Char} {d : Char} (mem : d ∈ lowerAfter before s) :
    d ∈ s ∨ 0x41 ≤ d.toNat := by
  induction s generalizing before with
  | nil => cases mem
  | cons c rest ih =>
    rcases List.mem_append.mp mem with isForm | isLater
    · -- Both forms of a sigma are letters.
      split at isForm
      · rw [List.mem_singleton.mp isForm]
        right
        split <;> decide
      · exact (mem_lowerChar isForm).imp_left fun same => List.mem_cons.mpr (.inl same)
    · exact (ih isLater).imp_left (List.mem_cons_of_mem c)

/-! ### Initials -/

/-- A text begins, and not with a small ASCII letter. -/
def isCapitalized (s : List Char) : Bool :=
  s.head?.any (!·.isLower)

/-- No code point of a run moves to a small ASCII letter. -/
def CaseRun.Raises (r : CaseRun) : Prop :=
  r.last + r.shift < 0x61 ∨ 0x7A < r.first + r.shift

instance (r : CaseRun) : Decidable r.Raises :=
  inferInstanceAs (Decidable (_ ∨ _))

theorem isCapitalized_append {s : List Char} (h : isCapitalized s = true) {rest : List Char} :
    isCapitalized (s ++ rest) = true := by
  cases s with
  | nil => cases h
  | cons first others => exact h

theorem isLower_eq_false_iff {c : Char} : c.isLower = false ↔ c.toNat < 0x61 ∨ 0x7A < c.toNat := by
  have lower : c.isLower = true ↔ 0x61 ≤ c.toNat ∧ c.toNat ≤ 0x7A := by
    unfold Char.isLower
    simp [UInt32.le_iff_toNat_le]
  rw [← Bool.not_eq_true, lower]
  omega

/-- Upper-casing makes no small ASCII letter at the beginning, and never nothing. -/
theorem isCapitalized_upperChar (c : Char) : isCapitalized (upperChar c) = true := by
  have sequences : ∀ entry ∈ upperSpecial, isCapitalized (entry.2.map Char.ofNat) = true := by
    decide +kernel
  have moves : ∀ r ∈ upperRuns, r.Lettered ∧ r.Raises := by decide +kernel
  unfold upperChar
  split
  · rename_i isAscii
    exact @of_ascii (fun c => isCapitalized [c.toUpper] = true) (by decide) c isAscii
  · rename_i beyond
    rcases mapCase_cases upperSpecial upperRuns c with
      ⟨entry, isEntry, eq⟩ | ⟨r, isRun, code, isImage, eq⟩ | eq
    · rw [eq]
      exact sequences entry isEntry
    · obtain ⟨lettered, raises⟩ := moves r isRun
      obtain ⟨-, valid⟩ := lettered_of_image? lettered isImage
      have value : (Char.ofNat code).toNat = code := by
        rw [Char.ofNat, dif_pos valid]
        rfl
      have outside : code < 0x61 ∨ 0x7A < code := by
        unfold CaseRun.image? at isImage
        unfold CaseRun.Raises at raises
        split at isImage
        · obtain rfl := Option.some.inj isImage
          omega
        · cases isImage
      rw [eq]
      have upper : (Char.ofNat code).isLower = false :=
        isLower_eq_false_iff.mpr (value.symm ▸ outside)
      simp [isCapitalized, upper]
    · have upper : c.isLower = false := isLower_eq_false_iff.mpr (.inr (by omega))
      rw [eq]
      simp [isCapitalized, upper]

end Text

open Identifier Text

theorem Identifier.mem_capitalize {word : List Char} {d : Char} (mem : d ∈ capitalize word) :
    d ∈ word ∨ 0x41 ≤ d.toNat := by
  cases word with
  | nil => cases mem
  | cons first rest =>
    rcases List.mem_append.mp mem with isFirst | isLater
    · exact (mem_upperChar isFirst).imp_left fun same => List.mem_cons.mpr (.inl same)
    · exact (mem_lowerAfter isLater).imp_left (List.mem_cons_of_mem first)

/-- A character before `A` in the type name of a collection is in the name. -/
theorem mem_of_mem_typeNameOf {name : String} {d : Char} (mem : d ∈ (typeNameOf name).toList)
    (before : d.toNat < 0x41) : d ∈ name.toList := by
  rw [typeNameOf, pascal, String.toList_ofList] at mem
  obtain ⟨word, isWord, mem⟩ := List.mem_flatMap.mp mem
  have inWord : d ∈ word := (mem_capitalize mem).resolve_right (Nat.not_le.mpr before)
  have inWords : d ∈ (words name.toList).flatten := List.mem_flatten.mpr ⟨word, isWord, inWord⟩
  rw [flatten_words, List.mem_flatten] at inWords
  obtain ⟨cluster, isCluster, inCluster⟩ := inWords
  rw [← flatten_clusters name.toList]
  exact List.mem_flatten.mpr ⟨cluster, (List.mem_filter.mp isCluster).1, inCluster⟩

/-- Words that are capitalized and run together begin as the first of them that is not empty. -/
theorem Identifier.isCapitalized_flatMap_capitalize {words : List (List Char)}
    (nonempty : words.flatMap capitalize ≠ []) :
    isCapitalized (words.flatMap capitalize) = true := by
  induction words with
  | nil => exact absurd rfl nonempty
  | cons word rest ih =>
    cases word with
    | nil => exact ih nonempty
    | cons first others =>
      exact isCapitalized_append (isCapitalized_append (isCapitalized_upperChar first))

/-- A type name that is not empty begins with no small ASCII letter. -/
theorem isCapitalized_typeNameOf {name : String} (nonempty : typeNameOf name ≠ "") :
    isCapitalized (typeNameOf name).toList = true := by
  rw [typeNameOf, pascal] at nonempty ⊢
  rw [String.toList_ofList]
  apply isCapitalized_flatMap_capitalize
  intro none
  rw [none] at nonempty
  exact nonempty rfl

end SchemaTypes
