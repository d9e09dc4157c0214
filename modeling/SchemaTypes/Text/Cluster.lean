import SchemaTypes.Text.Ranges
import SchemaTypes.Text.ClusterTable

/-!
Extended grapheme clusters: what a reader takes for one character.

`clusters` cuts a text by the rules of Unicode text segmentation (annex 29). A cut depends on the
classes of the two characters beside it and on a few facts about what came before; `Context` keeps
those facts. Nothing is lost: `flatten_clusters`.
-/

namespace SchemaTypes.Text

/-- How a character takes part in cluster boundaries. -/
inductive BreakClass where
  | carriageReturn
  | lineFeed
  | control
  | extend
  | joiner
  | regional
  | prepend
  | spacing
  | hangulLeading
  | hangulVowel
  | hangulTrailing
  | hangulOpen
  | hangulClosed
  | pictographic
  | other
  deriving DecidableEq, Repr

/-- The class of a character below `0x80`. -/
def asciiBreakClass (n : Nat) : BreakClass :=
  if n = 0x0D then .carriageReturn
  else if n = 0x0A then .lineFeed
  else if n < 0x20 ∨ n = 0x7F then .control
  else .other

/-- The class of a Hangul jamo or syllable. The vowel signs of Kirat Rai that combine with one
another count as vowels. -/
def hangulBreakClass? (n : Nat) : Option BreakClass :=
  if inRanges [(0x1100, 0x115F), (0xA960, 0xA97C)] n then some .hangulLeading
  else if inRanges
      [(0x1160, 0x11A7), (0xD7B0, 0xD7C6), (0x16D63, 0x16D63), (0x16D67, 0x16D6A)] n then
    some .hangulVowel
  else if inRanges [(0x11A8, 0x11FF), (0xD7CB, 0xD7FB)] n then some .hangulTrailing
  else if 0xAC00 ≤ n ∧ n ≤ 0xD7A3 then
    some (if (n - 0xAC00) % 28 = 0 then .hangulOpen else .hangulClosed)
  else none

/-- The class of a character. -/
def breakClass (c : Char) : BreakClass :=
  let n := c.toNat
  if n < 0x80 then asciiBreakClass n
  else if n = 0x200D then .joiner
  else if 0x1F1E6 ≤ n ∧ n ≤ 0x1F1FF then .regional
  else if inRanges controlRanges n then .control
  else if inRanges extendRanges n then .extend
  else if inRanges spacingRanges n then .spacing
  else if inRanges prependRanges n then .prepend
  else if inRanges pictographicRanges n then .pictographic
  else (hangulBreakClass? n).getD .other

/-- How far a conjunct of consonants has come. -/
inductive Conjunct where
  | none
  | consonant
  | linked
  deriving DecidableEq, Repr

/-- What a boundary has to know of the text before it. -/
structure Context where
  /-- The class of the last character. -/
  last : BreakClass
  /-- The last characters are an odd number of regional indicators. -/
  oddRegional : Bool
  /-- The last characters are a pictograph and marks that extend it, perhaps with a joiner. -/
  pictograph : Bool
  /-- The conjunct that the last characters belong to. -/
  conjunct : Conjunct

/-- A consonant that takes part in conjuncts. -/
def isConjunctConsonant (c : Char) : Bool :=
  inRanges conjunctConsonantRanges c.toNat

/-- A sign that links consonants. -/
def isConjunctLinker (c : Char) : Bool :=
  conjunctLinkers.contains c.toNat

/-- The conjunct after one more character. -/
def Conjunct.next (state : Conjunct) (c : Char) : Conjunct :=
  if isConjunctConsonant c then .consonant
  else if state = .none then .none
  else if isConjunctLinker c then .linked
  else if (breakClass c = .extend ∨ breakClass c = .joiner) ∧ c.toNat ≠ 0x200C then state
  else .none

/-- The context at the start of a text that begins with `c`. -/
def Context.start (c : Char) : Context where
  last := breakClass c
  oddRegional := breakClass c = .regional
  pictograph := breakClass c = .pictographic
  conjunct := Conjunct.none.next c

/-- The context after one more character. -/
def Context.next (ctx : Context) (c : Char) : Context where
  last := breakClass c
  oddRegional := breakClass c = .regional && !(ctx.last = .regional && ctx.oddRegional)
  pictograph :=
    breakClass c = .pictographic ||
      (ctx.pictograph && ctx.last ≠ .joiner && (breakClass c = .extend || breakClass c = .joiner))
  conjunct := ctx.conjunct.next c

/-- The two parts of a Hangul syllable block stay together. -/
def hangulJoins : BreakClass → BreakClass → Bool
  | .hangulLeading, .hangulLeading | .hangulLeading, .hangulVowel
  | .hangulLeading, .hangulOpen | .hangulLeading, .hangulClosed
  | .hangulOpen, .hangulVowel | .hangulOpen, .hangulTrailing
  | .hangulVowel, .hangulVowel | .hangulVowel, .hangulTrailing
  | .hangulClosed, .hangulTrailing | .hangulTrailing, .hangulTrailing => true
  | _, _ => false

/-- A control character or line end: nothing joins it. -/
def BreakClass.standsAlone : BreakClass → Bool
  | .carriageReturn | .lineFeed | .control => true
  | _ => false

/-- No boundary lies between the text of the context and the character `c`. -/
def Context.joins (ctx : Context) (c : Char) : Bool :=
  let this := breakClass c
  if ctx.last = .carriageReturn && this = .lineFeed then true
  else if ctx.last.standsAlone || this.standsAlone then false
  else
    hangulJoins ctx.last this
      || this = .extend || this = .joiner || this = .spacing
      || ctx.last = .prepend
      || (ctx.conjunct = .linked && isConjunctConsonant c)
      || (ctx.pictograph && ctx.last = .joiner && this = .pictographic)
      || (ctx.oddRegional && this = .regional)

/-- Cut the rest of a text whose current cluster is `current`, read backwards. -/
def clustersAfter (ctx : Context) (current : List Char) : List Char → List (List Char)
  | [] => [current.reverse]
  | c :: rest =>
    if ctx.joins c then clustersAfter (ctx.next c) (c :: current) rest
    else current.reverse :: clustersAfter (ctx.next c) [c] rest

/-- The extended grapheme clusters of a text, in order. -/
def clusters : List Char → List (List Char)
  | [] => []
  | c :: rest => clustersAfter (.start c) [c] rest

theorem flatten_clustersAfter (ctx : Context) (current rest : List Char) :
    (clustersAfter ctx current rest).flatten = current.reverse ++ rest := by
  induction rest generalizing ctx current with
  | nil => simp [clustersAfter]
  | cons c rest ih => simp only [clustersAfter]; split <;> simp [ih]

/-- Clusters keep every character in its place. -/
theorem flatten_clusters (s : List Char) : (clusters s).flatten = s := by
  cases s with
  | nil => rfl
  | cons c rest => simp [clusters, flatten_clustersAfter]

end SchemaTypes.Text
