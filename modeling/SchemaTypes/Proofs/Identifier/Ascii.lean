import SchemaTypes.Schema.Collection

/-!
Identifiers in ASCII.

In ASCII every character is a cluster of its own, but for line ends of two characters
(`isAsciiCluster_of_mem_clusters`), and has one upper-case and one lower-case form, so the words of
a name hold its characters without the separators (`flatten_words_of_ascii`). The type name of a
collection whose name consists of letters, digits and separators therefore consists of letters and
digits (`isAlphanum_of_mem_typeNameOf`).
-/

namespace SchemaTypes

namespace Text

/-! ### Clusters -/

/-- A character of ASCII that is no control character. -/
def isPrintable (c : Char) : Bool :=
  0x20 ≤ c.toNat && c.toNat < 0x7F

theorem isPrintable_iff {c : Char} : isPrintable c = true ↔ 0x20 ≤ c.toNat ∧ c.toNat < 0x7F := by
  simp [isPrintable]

theorem toNat_lt_of_isPrintable {c : Char} (h : isPrintable c = true) : c.toNat < 0x80 := by
  have := isPrintable_iff.mp h
  omega

theorem isConjunctConsonant_of_ascii {c : Char} (h : c.toNat < 0x80) :
    isConjunctConsonant c = false := by
  have above : ∀ r ∈ conjunctConsonantRanges, 0x80 ≤ r.1 := by decide
  rw [isConjunctConsonant, Bool.eq_false_iff, ne_eq, inRanges_iff]
  rintro ⟨r, mem, lower, -⟩
  have := above r mem
  omega

theorem breakClass_of_ascii {c : Char} (h : c.toNat < 0x80) :
    breakClass c = asciiBreakClass c.toNat := by
  simp only [breakClass, h, if_true]

/-- A character of ASCII stands alone or has no part in boundaries. -/
theorem standsAlone_or_other (n : Nat) :
    (asciiBreakClass n).standsAlone = true ∨ asciiBreakClass n = .other := by
  unfold asciiBreakClass
  repeat' split
  · exact .inl rfl
  · exact .inl rfl
  · exact .inl rfl
  · exact .inr rfl

theorem asciiBreakClass_eq_carriageReturn_iff {n : Nat} :
    asciiBreakClass n = .carriageReturn ↔ n = 0x0D := by
  unfold asciiBreakClass
  repeat' split
  all_goals simp [*]

theorem asciiBreakClass_eq_lineFeed_iff {n : Nat} : asciiBreakClass n = .lineFeed ↔ n = 0x0A := by
  unfold asciiBreakClass
  repeat' split
  all_goals simp [*]

/-- The context after printable ASCII: nothing is left open. -/
def Context.closed : Context where
  last := .other
  oddRegional := false
  pictograph := false
  conjunct := .none

/-- The context after a text of ASCII that ends with `c`: nothing else counts. -/
def Context.past (c : Char) : Context :=
  { Context.closed with last := breakClass c }

section Ascii

variable {c d : Char} (h : c.toNat < 0x80)
include h

theorem breakClass_ne_of_ascii : breakClass c ≠ .regional ∧ breakClass c ≠ .pictographic := by
  rw [breakClass_of_ascii h]
  rcases standsAlone_or_other c.toNat with alone | other
  · constructor <;> intro eq <;> rw [eq] at alone <;> cases alone
  · rw [other]
    decide

theorem Context.start_of_ascii : Context.start c = .past c := by
  obtain ⟨notRegional, notPictographic⟩ := breakClass_ne_of_ascii h
  simp [Context.start, Context.past, Context.closed, Conjunct.next, notRegional, notPictographic,
    isConjunctConsonant_of_ascii h]

theorem Context.next_of_ascii : (Context.past d).next c = .past c := by
  obtain ⟨notRegional, notPictographic⟩ := breakClass_ne_of_ascii h
  simp [Context.next, Context.past, Context.closed, Conjunct.next, notRegional, notPictographic,
    isConjunctConsonant_of_ascii h]

/-- In ASCII a line feed joins a carriage return, and nothing else joins anything. -/
theorem Context.of_joins_of_ascii (hd : d.toNat < 0x80) (joins : (Context.past d).joins c = true) :
    d = '\r' ∧ c = '\n' := by
  have last : (Context.past d).last = asciiBreakClass d.toNat := breakClass_of_ascii hd
  unfold Context.joins at joins
  rw [last, breakClass_of_ascii h] at joins
  dsimp only at joins
  split at joins
  · rename_i lineEnd
    simp only [Bool.and_eq_true, decide_eq_true_eq, asciiBreakClass_eq_carriageReturn_iff,
      asciiBreakClass_eq_lineFeed_iff] at lineEnd
    exact ⟨Char.ext (UInt32.toNat_inj.mp lineEnd.1), Char.ext (UInt32.toNat_inj.mp lineEnd.2)⟩
  · split at joins
    · cases joins
    · rename_i together
      simp only [Bool.or_eq_true, not_or] at together
      rw [(standsAlone_or_other d.toNat).resolve_left together.1,
        (standsAlone_or_other c.toNat).resolve_left together.2] at joins
      simp [Context.past, Context.closed, hangulJoins] at joins

end Ascii

theorem Context.joins_of_printable {c d : Char} (hd : d.toNat < 0x80) (h : isPrintable c = true) :
    (Context.past d).joins c = false := by
  rw [Bool.eq_false_iff]
  intro joins
  obtain ⟨-, rfl⟩ := Context.of_joins_of_ascii (toNat_lt_of_isPrintable h) hd joins
  exact absurd h (by decide)

theorem clustersAfter_of_printable {d : Char} {s : List Char} (hd : d.toNat < 0x80)
    (h : ∀ c ∈ s, isPrintable c = true) (current : List Char) :
    clustersAfter (.past d) current s = current.reverse :: s.map ([·]) := by
  induction s generalizing d current with
  | nil => rfl
  | cons c rest ih =>
    obtain ⟨first, others⟩ := List.forall_mem_cons.mp h
    have isAscii := toNat_lt_of_isPrintable first
    simp only [clustersAfter, Context.joins_of_printable hd first, Context.next_of_ascii isAscii,
      Bool.false_eq_true, if_false, ih isAscii others]
    rfl

/-- In printable ASCII every character is a cluster. -/
theorem clusters_of_printable {s : List Char} (h : ∀ c ∈ s, isPrintable c = true) :
    clusters s = s.map ([·]) := by
  cases s with
  | nil => rfl
  | cons c rest =>
    obtain ⟨first, others⟩ := List.forall_mem_cons.mp h
    have isAscii := toNat_lt_of_isPrintable first
    rw [clusters, Context.start_of_ascii isAscii, clustersAfter_of_printable isAscii others]
    rfl

/-- A cluster of ASCII: a character or a line end of two. -/
def IsAsciiCluster (cluster : List Char) : Prop :=
  (∃ c, cluster = [c]) ∨ cluster = ['\r', '\n']

theorem isAsciiCluster_of_mem_clustersAfter {d : Char} {current s : List Char} (hd : d.toNat < 0x80)
    (h : ∀ c ∈ s, c.toNat < 0x80)
    (isCurrent : current = [d] ∨ current = ['\n', '\r'] ∧ d = '\n') :
    ∀ cluster ∈ clustersAfter (.past d) current s, IsAsciiCluster cluster := by
  have complete : IsAsciiCluster current.reverse := by
    rcases isCurrent with rfl | ⟨rfl, -⟩
    · exact .inl ⟨d, rfl⟩
    · exact .inr rfl
  induction s generalizing d current with
  | nil =>
    intro cluster mem
    rw [List.mem_singleton.mp mem]
    exact complete
  | cons c rest ih =>
    obtain ⟨first, others⟩ := List.forall_mem_cons.mp h
    unfold clustersAfter
    rw [Context.next_of_ascii first]
    split
    · rename_i joins
      obtain ⟨rfl, rfl⟩ := Context.of_joins_of_ascii first hd joins
      -- The current cluster is the carriage return, since it does not end with a line feed.
      rcases isCurrent with rfl | ⟨-, differs⟩
      · exact ih first others (.inr ⟨rfl, rfl⟩) (.inr rfl)
      · exact absurd differs (by decide)
    · exact List.forall_mem_cons.mpr ⟨complete, ih first others (.inl rfl) (.inl ⟨c, rfl⟩)⟩

theorem isAsciiCluster_of_mem_clusters {s : List Char} (h : ∀ c ∈ s, c.toNat < 0x80) :
    ∀ cluster ∈ clusters s, IsAsciiCluster cluster := by
  cases s with
  | nil => exact fun _ mem => nomatch mem
  | cons c rest =>
    obtain ⟨first, others⟩ := List.forall_mem_cons.mp h
    rw [clusters, Context.start_of_ascii first]
    exact isAsciiCluster_of_mem_clustersAfter first others (.inl rfl)

/-! ### Letter case -/

theorem lowerAfter_of_ascii {s : List Char} (h : ∀ c ∈ s, c.toNat < 0x80) (before : List Char) :
    lowerAfter before s = s.map Char.toLower := by
  induction s generalizing before with
  | nil => rfl
  | cons c rest ih =>
    have first := h c List.mem_cons_self
    have noSigma : c ≠ 'Σ' := by
      rintro rfl
      exact absurd first (by decide)
    simp only [lowerAfter, noSigma, if_false, lowerChar_of_ascii first,
      ih fun d mem => h d (List.mem_cons_of_mem _ mem)]
    rfl

theorem lower_of_ascii {s : List Char} (h : ∀ c ∈ s, c.toNat < 0x80) :
    lower s = s.map Char.toLower :=
  lowerAfter_of_ascii h []

theorem isDigit_iff {c : Char} : c.isDigit = true ↔ 0x30 ≤ c.toNat ∧ c.toNat ≤ 0x39 := by
  unfold Char.isDigit
  simp [UInt32.le_iff_toNat_le]

theorem isAlpha_iff {c : Char} :
    c.isAlpha = true ↔
      (0x41 ≤ c.toNat ∧ c.toNat ≤ 0x5A) ∨ (0x61 ≤ c.toNat ∧ c.toNat ≤ 0x7A) := by
  unfold Char.isAlpha Char.isUpper Char.isLower
  simp [UInt32.le_iff_toNat_le]

theorem isPrintable_of_isAlphanum {c : Char} (h : c.isAlphanum = true) : isPrintable c = true := by
  rw [Char.isAlphanum, Bool.or_eq_true, isAlpha_iff, isDigit_iff] at h
  rw [isPrintable_iff]
  omega

theorem toNat_lt_of_isAlphanum {c : Char} (h : c.isAlphanum = true) : c.toNat < 0x80 := by
  have := isPrintable_iff.mp (isPrintable_of_isAlphanum h)
  omega

/-- What holds of the first code points holds of the characters of ASCII. -/
theorem of_ascii {P : Char → Prop} (each : ∀ n < 0x80, P (Char.ofNat n)) {c : Char}
    (h : c.toNat < 0x80) : P c := by
  rw [← Char.ofNat_toNat c]
  exact each c.toNat h

theorem isAlphanum_toUpper {c : Char} (h : c.isAlphanum = true) : c.toUpper.isAlphanum = true :=
  @of_ascii (fun c => c.isAlphanum = true → c.toUpper.isAlphanum = true) (by decide) c
    (toNat_lt_of_isAlphanum h) h

theorem isAlphanum_toLower {c : Char} (h : c.isAlphanum = true) : c.toLower.isAlphanum = true :=
  @of_ascii (fun c => c.isAlphanum = true → c.toLower.isAlphanum = true) (by decide) c
    (toNat_lt_of_isAlphanum h) h

end Text

namespace Identifier

open SchemaTypes.Text

/-! ### Words -/

/-- Cutting into words drops separators and nothing else. -/
theorem flatten_wordsAfter (word : List Char) (rest : List (List Char)) :
    (wordsAfter word rest).flatten =
      word ++ (rest.filter (kindOf · ≠ .separator)).flatten := by
  induction rest generalizing word with
  | nil => simp [wordsAfter]
  | cons cluster rest ih =>
    by_cases separates : kindOf cluster = .separator
    · simp [wordsAfter, separates, ih]
    · simp only [wordsAfter, separates, if_false]
      split <;> simp [separates, ih]

theorem flatten_words (name : List Char) :
    (words name).flatten = ((clusters name).filter (kindOf · ≠ .separator)).flatten := by
  unfold words
  cases clusters name with
  | nil => rfl
  | cons cluster rest => exact flatten_wordsAfter [] (cluster :: rest)

/-- A character that separates words. -/
def isSeparator (c : Char) : Bool :=
  c = '_' || c = '-' || c = ' '

theorem kindOf_singleton {c : Char} : kindOf [c] = .separator ↔ isSeparator c = true := by
  have mem : separators.contains [c] = isSeparator c := by
    simp [separators, isSeparator, Bool.or_assoc]
  unfold kindOf
  rw [mem]
  split <;> rename_i h
  · simp [h]
  · simp only [h]
    repeat' split
    all_goals simp

/-- A cluster of ASCII separates words if it is dropped when its separators are. -/
theorem filter_isSeparator_of_isAsciiCluster {cluster : List Char} (h : IsAsciiCluster cluster) :
    cluster.filter (!isSeparator ·) = if kindOf cluster = .separator then [] else cluster := by
  rcases h with ⟨c, rfl⟩ | rfl
  · by_cases separates : isSeparator c = true
    · simp [separates, kindOf_singleton]
    · simp [separates, kindOf_singleton]
  · decide

theorem flatten_filter_separator {clusters : List (List Char)}
    (h : ∀ cluster ∈ clusters, IsAsciiCluster cluster) :
    (clusters.filter (kindOf · ≠ .separator)).flatten =
      (clusters.map (·.filter (!isSeparator ·))).flatten := by
  induction clusters with
  | nil => rfl
  | cons cluster rest ih =>
    obtain ⟨first, others⟩ := List.forall_mem_cons.mp h
    rw [List.map_cons, List.flatten_cons, filter_isSeparator_of_isAsciiCluster first, ← ih others]
    by_cases separates : kindOf cluster = .separator
    · simp [separates]
    · simp [separates]

/-- In ASCII the words hold the characters that do not separate them. -/
theorem flatten_words_of_ascii {name : List Char} (h : ∀ c ∈ name, c.toNat < 0x80) :
    (words name).flatten = name.filter (!isSeparator ·) := by
  rw [flatten_words, flatten_filter_separator (isAsciiCluster_of_mem_clusters h),
    ← List.filter_flatten, flatten_clusters]

/-- In ASCII a character of a word is in the name and separates nothing. -/
theorem of_mem_words_of_ascii {name word : List Char} {c : Char} (h : ∀ c ∈ name, c.toNat < 0x80)
    (isWord : word ∈ words name) (mem : c ∈ word) : c ∈ name ∧ isSeparator c = false := by
  have inWords : c ∈ (words name).flatten := List.mem_flatten.mpr ⟨word, isWord, mem⟩
  rw [flatten_words_of_ascii h, List.mem_filter, Bool.not_eq_true'] at inWords
  exact inWords

theorem capitalize_of_ascii {c : Char} {rest : List Char} (h : ∀ d ∈ c :: rest, d.toNat < 0x80) :
    capitalize (c :: rest) = c.toUpper :: rest.map Char.toLower := by
  rw [capitalize, upperChar_of_ascii (h c List.mem_cons_self),
    lower_of_ascii fun d mem => h d (List.mem_cons_of_mem _ mem)]
  rfl

/-- Capitalizing keeps letters and digits what they are. -/
theorem isAlphanum_of_mem_capitalize {word : List Char} (h : ∀ c ∈ word, c.isAlphanum = true)
    {c : Char} (mem : c ∈ capitalize word) : c.isAlphanum = true := by
  cases word with
  | nil => cases mem
  | cons first rest =>
    rw [capitalize_of_ascii fun d isMember => toNat_lt_of_isAlphanum (h d isMember)] at mem
    rcases List.mem_cons.mp mem with rfl | isLater
    · exact isAlphanum_toUpper (h first List.mem_cons_self)
    · obtain ⟨d, isMember, rfl⟩ := List.mem_map.mp isLater
      exact isAlphanum_toLower (h d (List.mem_cons_of_mem _ isMember))

/-- A name in ASCII. -/
def IsAscii (name : String) : Prop :=
  ∀ c ∈ name.toList, c.toNat < 0x80

instance (name : String) : Decidable (IsAscii name) :=
  decidable_of_iff (name.toList.all (·.toNat < 0x80) = true) (by simp [IsAscii])

/-- A letter, a digit or a separator. -/
def isPlain (c : Char) : Bool :=
  c.isAlphanum || isSeparator c

/-- A name of letters, digits and separators. -/
def PlainName (name : String) : Prop :=
  ∀ c ∈ name.toList, isPlain c = true

instance (name : String) : Decidable (PlainName name) :=
  decidable_of_iff (name.toList.all isPlain = true) List.all_eq_true

theorem isPrintable_of_isPlain {c : Char} (h : isPlain c = true) : isPrintable c = true := by
  rcases Bool.or_eq_true_iff.mp h with isAlphanum | separates
  · exact isPrintable_of_isAlphanum isAlphanum
  · simp only [isSeparator, Bool.or_eq_true, decide_eq_true_eq] at separates
    rcases separates with (rfl | rfl) | rfl <;> decide

theorem PlainName.isAscii {name : String} (h : PlainName name) : IsAscii name :=
  fun c mem => toNat_lt_of_isPrintable (isPrintable_of_isPlain (h c mem))

end Identifier

open Identifier Text

/-- The type name of a collection with a plain name consists of letters and digits. -/
theorem isAlphanum_of_mem_typeNameOf {name : String} (h : PlainName name) {c : Char}
    (mem : c ∈ (typeNameOf name).toList) : c.isAlphanum = true := by
  rw [typeNameOf, pascal, String.toList_ofList] at mem
  obtain ⟨word, isWord, mem⟩ := List.mem_flatMap.mp mem
  refine isAlphanum_of_mem_capitalize (fun d isMember => ?_) mem
  obtain ⟨inName, noSeparator⟩ := of_mem_words_of_ascii h.isAscii isWord isMember
  have isPlain := h d inName
  rw [Identifier.isPlain, Bool.or_eq_true] at isPlain
  exact isPlain.resolve_right (Bool.eq_false_iff.mp noSeparator)

end SchemaTypes
