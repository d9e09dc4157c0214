import Mathlib.Data.List.Infix
import SchemaTypes.Project.Naming
import SchemaTypes.Proofs.Files.FileName

/-!
The naming convention of manifests, as one grammar.

A name follows the convention if it consists of a stem, a dot and the suffix (`hasSuffix_iff`). A
stem that is to name something may not be empty (`stem?_eq_some_iff`), so of the names that follow
the convention just one has no stem: a dot and the suffix (`stem?_eq_none_iff`). A path follows it
if the name that it ends in does (`isManifest_iff`). All who read names and paths so agree
(`naming_convention`).
-/

namespace SchemaTypes

theorem dropEnd?_eq_some_iff {ending s front : List Char} :
    dropEnd? ending s = some front ↔ s = front ++ ending := by
  unfold dropEnd?
  constructor
  · intro h
    split at h
    · rename_i isPrefix
      obtain ⟨before, rfl⟩ := List.reverse_prefix.mp (List.isPrefixOf_iff_prefix.mp isPrefix)
      obtain rfl : before = front := by simpa using h
      rfl
    · cases h
  · rintro rfl
    simp

/-- What stands before a suffix and its dot. -/
theorem beforeSuffix?_eq_some_iff {name suffix : String} {front : List Char} :
    beforeSuffix? name suffix = some front ↔ name = String.ofList front ++ "." ++ suffix := by
  have joined : name = String.ofList front ++ "." ++ suffix ↔
      name.toList = (front ++ ['.']) ++ suffix.toList := by
    rw [← String.toList_inj, String.toList_append, String.toList_append, String.toList_ofList]
    rfl
  rw [joined, beforeSuffix?, Option.bind_eq_some_iff]
  simp only [dropEnd?_eq_some_iff]
  constructor
  · rintro ⟨middle, isName, rfl⟩
    exact isName
  · exact fun isName => ⟨_, isName, rfl⟩

variable {name suffix : String}

/-- A name has a suffix if it ends in a dot and the suffix. -/
theorem hasSuffix_iff : hasSuffix name suffix = true ↔ ∃ stem, name = stem ++ "." ++ suffix := by
  rw [hasSuffix, Option.isSome_iff_exists]
  simp only [beforeSuffix?_eq_some_iff]
  constructor
  · rintro ⟨front, eq⟩
    exact ⟨_, eq⟩
  · rintro ⟨stem, eq⟩
    exact ⟨stem.toList, by rwa [String.ofList_toList]⟩

/-- The stem of a name is what stands before the dot and the suffix, unless that is nothing. -/
theorem stem?_eq_some_iff {stem : String} :
    stem? name suffix = some stem ↔ stem ≠ "" ∧ name = stem ++ "." ++ suffix := by
  have before := @beforeSuffix?_eq_some_iff name suffix stem.toList
  rw [String.ofList_toList] at before
  rw [← before]
  unfold stem?
  constructor
  · intro h
    split at h
    · cases h
    · cases h
    · rename_i front nonempty isFront
      obtain rfl := Option.some.inj h
      rw [String.toList_ofList]
      exact ⟨by simpa using nonempty, isFront⟩
  · rintro ⟨nonempty, isStem⟩
    rw [isStem]
    split
    · rename_i missing
      cases missing
    · rename_i empty
      exact absurd (String.toList_eq_nil_iff.mp (Option.some.inj empty)) nonempty
    · rename_i front _ isFront
      rw [← Option.some.inj isFront, String.ofList_toList]

theorem hasSuffix_of_stem? {stem : String} (h : stem? name suffix = some stem) :
    hasSuffix name suffix = true :=
  hasSuffix_iff.mpr ⟨stem, (stem?_eq_some_iff.mp h).2⟩

/-- A dot and the suffix need nothing before them. -/
theorem hasSuffix_bare : hasSuffix ("." ++ suffix) suffix = true :=
  hasSuffix_iff.mpr ⟨"", by rw [String.empty_append]⟩

/-- Of the names with a suffix, a dot and the suffix alone has no stem. -/
theorem stem?_eq_none_iff (follows : hasSuffix name suffix = true) :
    stem? name suffix = none ↔ name = "." ++ suffix := by
  obtain ⟨stem, rfl⟩ := hasSuffix_iff.mp follows
  constructor
  · intro noStem
    by_contra other
    have nonempty : stem ≠ "" := by
      rintro rfl
      exact other (by rw [String.empty_append])
    rw [stem?_eq_some_iff.mpr ⟨nonempty, rfl⟩] at noStem
    cases noStem
  · intro bare
    rw [Option.eq_none_iff_forall_ne_some]
    intro other isStem
    obtain ⟨nonempty, eq⟩ := stem?_eq_some_iff.mp isStem
    rw [bare, String.append_assoc] at eq
    have lengths := congrArg String.length eq
    rw [String.length_append, String.length_append, String.length_append] at lengths
    have : other.length = 0 := by omega
    exact nonempty (String.length_eq_zero_iff.mp this)

/-- What has a suffix has a stem, but for a dot and the suffix alone. -/
theorem hasSuffix_ne_isSome_stem?_iff :
    hasSuffix name suffix ≠ (stem? name suffix).isSome ↔ name = "." ++ suffix := by
  cases follows : hasSuffix name suffix with
  | true => simp [← stem?_eq_none_iff follows]
  | false =>
    have noStem : stem? name suffix = none := by
      rw [Option.eq_none_iff_forall_ne_some]
      intro stem isStem
      simp [hasSuffix_of_stem? isStem] at follows
    have notBare : name ≠ "." ++ suffix := by
      rintro rfl
      simp [hasSuffix_bare] at follows
    simp [noStem, notBare]

/-- A path has the name of a manifest if it ends in a name that has the suffix. -/
theorem isManifest_iff {p : Path} :
    isManifest p suffix = true ↔ ∃ name, p.EndsIn name ∧ hasSuffix name suffix = true := by
  rw [isManifest, Option.any_eq_true]
  simp only [Path.fileName?_eq_some_iff]

/-- The readers of names and paths agree on one grammar. A stem is read off a name exactly if the
name is this stem, which may not be empty, with a dot and the suffix behind it. A name has the
suffix exactly if it is some stem, empty or not, with a dot and the suffix behind it; so the two
disagree on one name for each suffix, the dot and the suffix. A path has the name of a manifest
exactly if it has a file name, the one that it ends in, and this name has the suffix. -/
theorem naming_convention (suffix : String) :
    (∀ name stem, stem? name suffix = some stem ↔ stem ≠ "" ∧ name = stem ++ "." ++ suffix) ∧
    (∀ name, hasSuffix name suffix = true ↔ ∃ stem, name = stem ++ "." ++ suffix) ∧
    (∀ name, hasSuffix name suffix ≠ (stem? name suffix).isSome ↔ name = "." ++ suffix) ∧
    ∀ p : Path,
      (∀ name, p.fileName? = some name ↔ p.EndsIn name) ∧
      (isManifest p suffix = true ↔ ∃ name, p.EndsIn name ∧ hasSuffix name suffix = true) :=
  ⟨fun _ _ => stem?_eq_some_iff, fun _ => hasSuffix_iff, fun _ => hasSuffix_ne_isSome_stem?_iff,
    fun _ => ⟨fun _ => Path.fileName?_eq_some_iff, isManifest_iff⟩⟩

end SchemaTypes
