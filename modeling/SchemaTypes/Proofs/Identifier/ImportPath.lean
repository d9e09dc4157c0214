import SchemaTypes.Proofs.Identifier.Words
import SchemaTypes.Proofs.Schema.Frozen

/-!
Import paths tell collections apart.

Between the hyphens of an import path stand the words of the name in lower case, and capitalizing
them gives the type name (`typeNameOf_eq_of_importPathOf_eq`). A registry has no type name twice, so
no two of its collections with names in ASCII are imported from the same path
(`importPathOf_separates`).
-/

namespace SchemaTypes

open Identifier

/-- The capitalized words can be read off the words that are joined by hyphens. -/
theorem Identifier.flatMap_capitalize_splitOn {pieces : List (List Char)}
    (h : ∀ piece ∈ pieces, '-' ∉ piece) :
    ((['-'].intercalate pieces).splitOn '-').flatMap capitalize = pieces.flatMap capitalize := by
  cases pieces with
  | nil => rfl
  | cons piece rest => rw [List.splitOn_intercalate '-' h (List.cons_ne_nil piece rest)]

/-- Names in ASCII with the same import path have the same type name. -/
theorem typeNameOf_eq_of_importPathOf_eq {a b extension : String} (ha : IsAscii a) (hb : IsAscii b)
    (same : importPathOf a extension = importPathOf b extension) : typeNameOf a = typeNameOf b := by
  rw [importPathOf_of_ascii ha, importPathOf_of_ascii hb] at same
  have joined :
      ['-'].intercalate (lowerWords a.toList) = ['-'].intercalate (lowerWords b.toList) := by
    simpa only [String.append_left_inj, String.append_right_inj, String.ofList_inj] using same
  rw [typeNameOf_of_ascii ha, typeNameOf_of_ascii hb,
    ← flatMap_capitalize_splitOn (hyphen_notMem_lowerWords ha),
    ← flatMap_capitalize_splitOn (hyphen_notMem_lowerWords hb), joined]

/-- Names in ASCII with different type names have different import paths, so that different
collections of a registry are imported from different paths. -/
theorem importPathOf_separates (extension : String) :
    (∀ a b : String, IsAscii a → IsAscii b →
      importPathOf a extension = importPathOf b extension → typeNameOf a = typeNameOf b) ∧
    ∀ catalog : Catalog, catalog.Frozen → ∀ c ∈ catalog.collections, ∀ d ∈ catalog.collections,
      IsAscii c.name → IsAscii d.name → c ≠ d →
        importPathOf c.name extension ≠ importPathOf d.name extension := by
  refine ⟨fun a b ha hb => typeNameOf_eq_of_importPathOf_eq ha hb, ?_⟩
  intro catalog frozen c hc d hd isAscii isAscii' differ same
  apply differ
  apply frozen.eq_of_typeName_eq hc hd
  exact typeNameOf_eq_of_importPathOf_eq isAscii isAscii' same

/-- Two collections whose names have the same letters, cut into other words. -/
def letterCatalog : Catalog where
  entries := [⟨"Letters", ⟨"ab", none, [], [], []⟩⟩, ⟨"Letters", ⟨"aB", none, [], [], []⟩⟩]

theorem importPathOf_separates_letters :
    (IsAscii "userProfile" ∧ IsAscii "user profile" ∧
      importPathOf "userProfile" "ts" = importPathOf "user profile" "ts" ∧
      typeNameOf "userProfile" = typeNameOf "user profile") ∧
    letterCatalog.Frozen ∧ IsAscii "ab" ∧ IsAscii "aB" ∧
      importPathOf "ab" "ts" ≠ importPathOf "aB" "ts" := by
  obtain ⟨determines, separates⟩ := importPathOf_separates "ts"
  have camel : IsAscii "userProfile" := by decide +kernel
  have spaced : IsAscii "user profile" := by decide +kernel
  have same : importPathOf "userProfile" "ts" = importPathOf "user profile" "ts" := by
    decide +kernel
  have frozen : letterCatalog.Frozen := by decide +kernel
  have isAscii : IsAscii "ab" := by decide +kernel
  have isAscii' : IsAscii "aB" := by decide +kernel
  refine ⟨⟨camel, spaced, same, determines _ _ camel spaced same⟩, frozen, isAscii, isAscii', ?_⟩
  exact separates letterCatalog frozen ⟨"ab", none, [], [], []⟩ (by decide)
    ⟨"aB", none, [], [], []⟩ (by decide) isAscii isAscii' (by decide)

end SchemaTypes
