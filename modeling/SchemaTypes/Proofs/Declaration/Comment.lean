import Mathlib.Data.List.Chain
import SchemaTypes.Declaration.Comment
import SchemaTypes.Proofs.Declaration.Property

/-!
Deleting comments.

`Comment.strip` deletes comments from a text. No comment ends before its own end, whatever it is
made of (`unclosed_escape`), so a comment is deleted as a whole (`leaves_compact`, `leaves_block`);
and a line without stars is kept (`leaves_line`). What is left of a text is put together from what
is left of its pieces (`Leaves.append`).
-/

namespace SchemaTypes.Comment

/-! ### Deletion -/

/-- What follows the first end of a comment. -/
def afterEnd : List Char → List Char
  | '*' :: '/' :: rest => rest
  | _ :: rest => afterEnd rest
  | [] => []

/-- A text without the line feed at its beginning. -/
def dropFeed : List Char → List Char
  | '\n' :: rest => rest
  | s => s

/-- If a comment comes first in a text, indented or not, what follows it and the line feed behind
it. -/
def afterComment? (s : List Char) : Option (List Char) :=
  match s.dropWhile (· = ' ') with
  | '/' :: '*' :: '*' :: rest => some (dropFeed (afterEnd rest))
  | _ => none

theorem length_afterEnd_le (s : List Char) : (afterEnd s).length ≤ s.length := by
  fun_induction afterEnd s with
  | case1 rest => simp only [List.length_cons]; omega
  | case2 _ rest _ ih => simp only [List.length_cons]; omega
  | case3 => exact Nat.le_refl 0

theorem length_dropFeed_le (s : List Char) : (dropFeed s).length ≤ s.length := by
  unfold dropFeed
  split <;> simp

theorem length_lt_of_afterComment? {s rest : List Char} (h : afterComment? s = some rest) :
    rest.length < s.length := by
  unfold afterComment? at h
  split at h
  · rename_i inner begins
    obtain rfl := Option.some.inj h
    have atMost := (List.dropWhile_sublist (l := s) (· = ' ')).length_le
    rw [begins] at atMost
    have feed := length_dropFeed_le (afterEnd inner)
    have ending := length_afterEnd_le inner
    simp only [List.length_cons] at atMost
    omega
  · cases h

/-- Delete the comments of a text from left to right, each from its beginning to the first end after
that, with the indentation before it and the line feed behind it. -/
def strip : List Char → List Char
  | [] => []
  | c :: rest =>
    match _h : afterComment? (c :: rest) with
    | some after => strip after
    | none => c :: strip rest
termination_by s => s.length
decreasing_by
  · exact length_lt_of_afterComment? _h
  · exact Nat.lt_succ_self _

@[simp] theorem strip_nil : strip [] = [] := by
  rw [strip]

theorem strip_of_comment {s rest : List Char} (h : afterComment? s = some rest) :
    strip s = strip rest := by
  cases s with
  | nil => cases h
  | cons c tail =>
    rw [strip]
    split
    · rename_i after found
      rw [h] at found
      rw [Option.some.inj found]
    · rename_i nothing
      rw [h] at nothing
      cases nothing

theorem strip_cons {c : Char} {rest : List Char} (h : afterComment? (c :: rest) = none) :
    strip (c :: rest) = c :: strip rest := by
  rw [strip]
  split
  · rename_i after found
    rw [h] at found
    cases found
  · rfl

/-- Deleting comments leaves a certain part of a piece of text, whatever follows it. -/
def Leaves (piece left : List Char) : Prop :=
  ∀ rest, strip (piece ++ rest) = left ++ strip rest

theorem Leaves.nil : Leaves [] [] := by
  intro rest
  rfl

theorem Leaves.append {first second left right : List Char} (h : Leaves first left)
    (h' : Leaves second right) : Leaves (first ++ second) (left ++ right) := by
  intro rest
  rw [List.append_assoc, h, h', List.append_assoc]

theorem Leaves.strip_eq {piece left : List Char} (h : Leaves piece left) : strip piece = left := by
  have := h []
  rwa [List.append_nil, strip_nil, List.append_nil] at this

/-! ### Lines without stars -/

theorem afterComment?_line {l : List Char} (h : '*' ∉ l) (rest : List Char) :
    afterComment? (l ++ '\n' :: rest) = none := by
  have begins : ∃ m, '*' ∉ m ∧ (l ++ '\n' :: rest).dropWhile (· = ' ') = m ++ '\n' :: rest := by
    refine ⟨l.dropWhile (· = ' '), ?_, ?_⟩
    · exact fun mem => h ((List.dropWhile_sublist _).mem mem)
    · rw [List.dropWhile_append]
      split
      · rename_i isEmpty
        rw [List.isEmpty_iff.mp isEmpty]
        rfl
      · rfl
  obtain ⟨m, noStar, eq⟩ := begins
  unfold afterComment?
  rw [eq]
  split
  · rename_i inner comment
    -- The second character would be a star, but it is in the line, or its end.
    match m with
    | [] => cases comment
    | [_] => cases comment
    | _ :: d :: _ =>
      obtain rfl : d = '*' := by simpa using (List.cons.inj (List.cons.inj comment).2).1
      exact absurd (List.mem_cons_of_mem _ List.mem_cons_self) noStar
  · rfl

/-- A line without stars is kept. -/
theorem leaves_line {l : List Char} (h : '*' ∉ l) : Leaves (l ++ ['\n']) (l ++ ['\n']) := by
  intro rest
  rw [List.append_assoc, List.append_assoc, List.singleton_append, List.singleton_append]
  induction l with
  | nil => exact strip_cons (afterComment?_line h rest)
  | cons c l ih =>
    obtain ⟨-, noStar⟩ := not_or.mp (List.mem_cons.not.mp h)
    have noComment : afterComment? (c :: (l ++ '\n' :: rest)) = none := afterComment?_line h rest
    rw [List.cons_append, strip_cons noComment, ih noStar]
    rfl

/-! ### Comments -/

/-- No end of a comment is in a text: no star is followed by a slash. -/
def Unclosed (s : List Char) : Prop :=
  s.IsChain fun a b => ¬ (a = '*' ∧ b = '/')

/-- Neither is one at the end, if a slash comes next. -/
structure Sealed (s : List Char) : Prop where
  unclosed : Unclosed s
  last : ∀ c ∈ s.getLast?, c ≠ '*'

theorem Sealed.append_unclosed {s t : List Char} (h : Sealed s) (h' : Unclosed t) :
    Unclosed (s ++ t) := by
  refine List.isChain_append.mpr ⟨h.unclosed, h', ?_⟩
  rintro a isLast b - ⟨star, -⟩
  exact h.last a isLast star

theorem Sealed.append {s t : List Char} (h : Sealed s) (h' : Sealed t) : Sealed (s ++ t) where
  unclosed := h.append_unclosed h'.unclosed
  last := by
    intro c isLast
    rw [List.getLast?_append, Option.mem_def, Option.or_eq_some_iff] at isLast
    rcases isLast with isLast | ⟨-, isLast⟩
    · exact h'.last c isLast
    · exact h.last c isLast

theorem Sealed.flatMap {α : Type} {f : α → List Char} {xs : List α} (h : ∀ x ∈ xs, Sealed (f x)) :
    Sealed (xs.flatMap f) := by
  induction xs with
  | nil => exact ⟨.nil, nofun⟩
  | cons x xs ih =>
    obtain ⟨first, others⟩ := List.forall_mem_cons.mp h
    exact first.append (ih others)

theorem unclosed_of_notMem {s : List Char} (h : '*' ∉ s) : Unclosed s := by
  induction s with
  | nil => exact .nil
  | cons c s ih =>
    obtain ⟨notStar, noStar⟩ := not_or.mp (List.mem_cons.not.mp h)
    refine (ih noStar).cons ?_
    rintro b - ⟨rfl, -⟩
    exact notStar rfl

theorem sealed_of_notMem {s : List Char} (h : '*' ∉ s) : Sealed s := by
  refine ⟨unclosed_of_notMem h, ?_⟩
  rintro c isLast rfl
  exact h (List.mem_of_getLast? isLast)

/-- A character that is no star and no slash keeps what is before it from being closed. -/
theorem Unclosed.sealed_concat {s : List Char} (h : Unclosed s) {c : Char} (notStar : c ≠ '*')
    (notSlash : c ≠ '/') : Sealed (s ++ [c]) := by
  constructor
  · refine List.isChain_append.mpr ⟨h, .singleton c, ?_⟩
    rintro a - b isHead ⟨-, rfl⟩
    exact notSlash (Option.some.inj isHead)
  · intro d isLast
    rw [List.getLast?_concat, Option.mem_def, Option.some.injEq] at isLast
    exact isLast ▸ notStar

theorem head?_escape (s : List Char) : (escape s).head? = s.head? := by
  unfold escape
  split <;> rfl

/-- No comment ends in an escaped text. -/
theorem unclosed_escape (s : List Char) : Unclosed (escape s) := by
  fun_induction escape s with
  | case1 rest ih =>
    have slash : Unclosed ('/' :: escape rest) := by
      refine ih.cons ?_
      rintro b - ⟨star, -⟩
      cases star
    refine (slash.cons ?_).cons ?_
    · rintro b - ⟨star, -⟩
      cases star
    · rintro b isNext ⟨-, rfl⟩
      cases isNext
  | case2 c rest differs ih =>
    refine ih.cons ?_
    rintro b isNext ⟨rfl, rfl⟩
    rw [head?_escape] at isNext
    obtain ⟨tail, eq⟩ := List.head?_eq_some_iff.mp isNext
    exact differs tail rfl eq
  | case3 => exact .nil

/-- The first end of a comment is behind what has none. -/
theorem afterEnd_append {s : List Char} (h : Unclosed s) (rest : List Char) :
    afterEnd (s ++ '*' :: '/' :: rest) = rest := by
  induction s with
  | nil => rfl
  | cons c s ih =>
    rw [List.cons_append, afterEnd, ih h.tail]
    rintro tail rfl eq
    cases s with
    | nil => cases eq
    | cons d s =>
      obtain rfl := (List.cons.inj eq).1
      exact (List.isChain_cons_cons.mp h).1 ⟨rfl, rfl⟩

/-- An indented comment is deleted, with the line feed behind it. -/
theorem leaves_comment {indent inner : List Char} (blank : indent.all (· = ' '))
    (h : Unclosed inner) :
    Leaves (indent ++ '/' :: '*' :: '*' :: (inner ++ ['*', '/', '\n'])) [] := by
  intro rest
  refine strip_of_comment ?_
  have begins : (indent ++ '/' :: '*' :: '*' :: (inner ++ ['*', '/', '\n']) ++ rest).dropWhile
      (· = ' ') = '/' :: '*' :: '*' :: (inner ++ '*' :: '/' :: '\n' :: rest) := by
    rw [List.append_assoc, List.dropWhile_append_of_pos (List.all_eq_true.mp blank)]
    simp
  unfold afterComment?
  rw [begins]
  show some (dropFeed (afterEnd (inner ++ '*' :: '/' :: '\n' :: rest))) = some rest
  rw [afterEnd_append h]
  rfl

section Texts

variable {indent : String} (blank : indent.toList.all (· = ' '))
include blank

theorem star_notMem_indent : '*' ∉ indent.toList := by
  intro mem
  exact absurd (List.all_eq_true.mp blank '*' mem) (by decide)

/-- No comment ends in a line of a comment, or goes on to end with the next. -/
theorem sealed_line (text : List Char) : Sealed (line indent text).toList := by
  have star : Sealed [' ', '*', ' '] := by
    constructor
    · simp [Unclosed]
    · simp
  have text : Sealed (escape text ++ ['\n']) :=
    (unclosed_escape text).sealed_concat (by decide) (by decide)
  have pieces := (sealed_of_notMem (star_notMem_indent blank)).append (star.append text)
  simpa [line] using pieces

/-- A comment of several lines is deleted. -/
theorem leaves_block (text : String) : Leaves (block indent text).toList [] := by
  have feed : Sealed ['\n'] := sealed_of_notMem (by decide)
  have lines : Sealed ((Text.lines text.toList).flatMap fun l => (line indent l).toList) :=
    Sealed.flatMap fun l _ => sealed_line blank l
  have ending : Sealed (indent.toList ++ [' ']) := by
    apply sealed_of_notMem
    simp [star_notMem_indent blank]
  have isComment := leaves_comment blank ((feed.append lines).append ending).unclosed
  simpa [block, String.toList_join, List.flatMap_map] using isComment

/-- A comment of one line is deleted. -/
theorem leaves_single (text : String) : Leaves (single indent text).toList [] := by
  have blankFirst : Sealed [' '] := sealed_of_notMem (by decide)
  have inner : Sealed (escape text.toList ++ [' ']) :=
    (unclosed_escape text.toList).sealed_concat (by decide) (by decide)
  have isComment := leaves_comment blank (blankFirst.append inner).unclosed
  simpa [single] using isComment

theorem leaves_compact (text : String) : Leaves (compact indent text).toList [] := by
  unfold compact
  split
  · exact leaves_block blank text
  · exact leaves_single blank text

end Texts

end SchemaTypes.Comment
