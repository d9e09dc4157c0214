import Mathlib.Data.List.Basic

/-!
Lists joined by an element.

What a joined list holds are the elements of its pieces and the one that joins them
(`of_mem_intercalate`); without the latter it is the pieces run together (`filter_intercalate`).
-/

namespace SchemaTypes

variable {α : Type} {sep : α} {pieces : List (List α)}

/-- An element of a joined list is the one that joins it or in one of the pieces. -/
theorem of_mem_intercalate {x : α} (mem : x ∈ [sep].intercalate pieces) :
    x = sep ∨ ∃ piece ∈ pieces, x ∈ piece := by
  induction pieces with
  | nil => cases mem
  | cons piece rest ih =>
    cases rest with
    | nil =>
      rw [List.intercalate_singleton] at mem
      exact .inr ⟨piece, List.mem_cons_self, mem⟩
    | cons next rest =>
      rw [List.intercalate_cons_cons, List.mem_append, List.mem_append, List.mem_singleton] at mem
      rcases mem with (isFirst | isSep) | isLater
      · exact .inr ⟨piece, List.mem_cons_self, isFirst⟩
      · exact .inl isSep
      · refine (ih isLater).imp_right ?_
        rintro ⟨other, isPiece, inPiece⟩
        exact ⟨other, List.mem_cons_of_mem _ isPiece, inPiece⟩

/-- Without the element that joins them, pieces that do not hold it are run together. -/
theorem filter_intercalate [DecidableEq α] (h : ∀ piece ∈ pieces, sep ∉ piece) :
    ([sep].intercalate pieces).filter (· ≠ sep) = pieces.flatten := by
  induction pieces with
  | nil => rfl
  | cons piece rest ih =>
    obtain ⟨first, others⟩ := List.forall_mem_cons.mp h
    have kept : piece.filter (· ≠ sep) = piece := by
      rw [List.filter_eq_self]
      intro x mem
      exact decide_eq_true fun isSep => first (isSep ▸ mem)
    cases rest with
    | nil => simpa using kept
    | cons next rest =>
      rw [List.intercalate_cons_cons, List.filter_append, List.filter_append, kept, ih others]
      simp

end SchemaTypes
