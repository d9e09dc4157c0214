import Mathlib
import SchemaTypes.Proofs.Identifier.Ascii
import SchemaTypes.Proofs.Text.Joined

/-!
The words of names in ASCII, and what is written of them.

Type names and import paths are written from the words of a name in lower case
(`typeNameOf_of_ascii`, `importPathOf_of_ascii`). Both hold the characters of the name that separate
no words, in their order and up to case. The type name holds nothing else and the path only the
hyphens between the words; and the type name of a name that consists of letters, digits and
separators and begins with a letter is an identifier (`characters_kept`).
-/

namespace SchemaTypes

namespace Identifier

open SchemaTypes.Text

/-- The words of a name in lower case. -/
def lowerWords (name : List Char) : List (List Char) :=
  (words name).map (·.map Char.toLower)

/-! ### Capitals -/

/-- A word is capitalized in the same way from its lower case. -/
theorem capitalize_map_toLower {word : List Char} (h : ∀ c ∈ word, c.toNat < 0x80) :
    capitalize (word.map Char.toLower) = capitalize word := by
  have lower : ∀ c ∈ word.map Char.toLower, c.toNat < 0x80 := by
    intro c mem
    obtain ⟨d, isMember, rfl⟩ := List.mem_map.mp mem
    exact @of_ascii (fun c => c.toLower.toNat < 0x80) (by decide) d (h d isMember)
  cases word with
  | nil => rfl
  | cons c rest =>
    rw [capitalize_of_ascii h, List.map_cons, capitalize_of_ascii lower]
    simp

/-- Capitalizing changes the case only. -/
theorem map_toLower_capitalize {word : List Char} (h : ∀ c ∈ word, c.toNat < 0x80) :
    (capitalize word).map Char.toLower = word.map Char.toLower := by
  cases word with
  | nil => rfl
  | cons c rest =>
    rw [capitalize_of_ascii h]
    simp

/-- Capitalized words that are run together begin with the first character of all in upper case. -/
theorem flatMap_capitalize_of_flatten {pieces : List (List Char)} {first : Char} {rest : List Char}
    (h : ∀ piece ∈ pieces, ∀ c ∈ piece, c.toNat < 0x80) (begins : pieces.flatten = first :: rest) :
    ∃ others, pieces.flatMap capitalize = first.toUpper :: others := by
  induction pieces with
  | nil => cases begins
  | cons piece more ih =>
    obtain ⟨isAscii, others⟩ := List.forall_mem_cons.mp h
    cases piece with
    | nil => exact ih others begins
    | cons c tail =>
      obtain ⟨rfl, -⟩ := List.cons.inj begins
      rw [List.flatMap_cons, capitalize_of_ascii isAscii]
      exact ⟨_, rfl⟩

/-! ### Names in ASCII -/

section Name

variable {name : String} (h : IsAscii name)
include h

theorem isAscii_of_mem_words {word : List Char} (isWord : word ∈ words name.toList) :
    ∀ c ∈ word, c.toNat < 0x80 :=
  fun c mem => h c (of_mem_words_of_ascii h isWord mem).1

/-- The type name is written from the words in lower case. -/
theorem typeNameOf_of_ascii :
    typeNameOf name = String.ofList ((lowerWords name.toList).flatMap capitalize) := by
  rw [typeNameOf, pascal, lowerWords, List.flatMap_map]
  congr 1
  exact List.flatMap_congr fun word isWord =>
    (capitalize_map_toLower (isAscii_of_mem_words h isWord)).symm

/-- So is the import path. -/
theorem importPathOf_of_ascii (extension : String) :
    importPathOf name extension =
      "./" ++ String.ofList (['-'].intercalate (lowerWords name.toList)) ++ "." ++ extension := by
  have lower : (words name.toList).map Text.lower = lowerWords name.toList :=
    List.map_congr_left fun word isWord => lower_of_ascii (isAscii_of_mem_words h isWord)
  rw [importPathOf, kebab, lower]

/-- The words in lower case hold what does not separate words. -/
theorem flatten_lowerWords :
    (lowerWords name.toList).flatten =
      (name.toList.filter (!isSeparator ·)).map Char.toLower := by
  rw [lowerWords, ← List.map_flatten, flatten_words_of_ascii h]

/-- In the words in lower case there are no capitals and no separators. -/
theorem of_mem_lowerWords {word : List Char} (isWord : word ∈ lowerWords name.toList) {c : Char}
    (mem : c ∈ word) : c.isUpper = false ∧ isSeparator c = false := by
  obtain ⟨original, isOriginal, rfl⟩ := List.mem_map.mp isWord
  obtain ⟨d, isMember, rfl⟩ := List.mem_map.mp mem
  obtain ⟨inName, noSeparator⟩ := of_mem_words_of_ascii h isOriginal isMember
  refine ⟨d.isUpper_toLower_eq_false, ?_⟩
  exact @of_ascii (fun d => isSeparator d = false → isSeparator d.toLower = false) (by decide) d
    (h d inName) noSeparator

theorem hyphen_notMem_lowerWords : ∀ word ∈ lowerWords name.toList, '-' ∉ word := by
  intro word isWord mem
  have noSeparator := (of_mem_lowerWords h isWord mem).2
  exact absurd noSeparator (by decide)

end Name

/-! ### Characters of type names and import paths -/

section Name

variable {name : String} (h : IsAscii name)
include h

/-- The type name is written with the characters of the words, up to case. -/
theorem map_toLower_typeNameOf :
    (typeNameOf name).toList.map Char.toLower = (lowerWords name.toList).flatten :=
  calc (typeNameOf name).toList.map Char.toLower
    _ = (words name.toList).flatMap fun word => (capitalize word).map Char.toLower := by
        rw [typeNameOf, pascal, String.toList_ofList, List.map_flatMap]
    _ = (words name.toList).flatMap fun word => word.map Char.toLower :=
        List.flatMap_congr fun word isWord =>
          map_toLower_capitalize (isAscii_of_mem_words h isWord)
    _ = (lowerWords name.toList).flatten := List.flatMap_def

/-- In an import path there are no capitals, and no separators but hyphens. -/
theorem of_mem_intercalate_lowerWords {c : Char}
    (mem : c ∈ ['-'].intercalate (lowerWords name.toList)) :
    c.isUpper = false ∧ c ≠ '_' ∧ c ≠ ' ' := by
  rcases of_mem_intercalate mem with rfl | ⟨word, isWord, inWord⟩
  · decide
  · obtain ⟨notUpper, noSeparator⟩ := of_mem_lowerWords h isWord inWord
    refine ⟨notUpper, ?_, ?_⟩
    · rintro rfl
      exact absurd noSeparator (by decide)
    · rintro rfl
      exact absurd noSeparator (by decide)

/-- The type name of a name that begins with a letter begins with this letter in upper case. -/
theorem typeNameOf_of_begins {first : Char} {rest : List Char}
    (begins : name.toList = first :: rest) (isLetter : first.isAlpha = true) :
    ∃ others, (typeNameOf name).toList = first.toUpper :: others := by
  have stays : isSeparator first = false :=
    @of_ascii (fun c => c.isAlpha = true → isSeparator c = false) (by decide) first
      (h first (begins ▸ List.mem_cons_self)) isLetter
  have flatten : (words name.toList).flatten = first :: rest.filter (!isSeparator ·) := by
    rw [flatten_words_of_ascii h, begins, List.filter_cons_of_pos (by simp [stays])]
  rw [typeNameOf, pascal, String.toList_ofList]
  exact flatMap_capitalize_of_flatten (fun _ isWord => isAscii_of_mem_words h isWord) flatten

end Name

end Identifier

open Identifier Text

/-- A type name and an import path keep the characters of a name, up to case, and add none but the
hyphens of the path; of a name that consists of letters, digits and separators and begins with a
letter, the type name is an identifier that begins with a capital. -/
theorem characters_kept {name : String} (h : IsAscii name) (extension : String) :
    let kept := (name.toList.filter (!isSeparator ·)).map Char.toLower
    (typeNameOf name).toList.map Char.toLower = kept ∧
      (∃ path : String, importPathOf name extension = "./" ++ path ++ "." ++ extension ∧
        (∀ c ∈ path.toList, c.isUpper = false ∧ c ≠ '_' ∧ c ≠ ' ') ∧
        path.toList.filter (· ≠ '-') = kept) ∧
      (PlainName name → ∀ first rest, name.toList = first :: rest → first.isAlpha = true →
        ∃ initial others, (typeNameOf name).toList = initial :: others ∧
          initial.isUpper = true ∧ ∀ c ∈ others, c.isAlphanum = true) := by
  intro kept
  refine ⟨?_, ?_, ?_⟩
  · rw [map_toLower_typeNameOf h, flatten_lowerWords h]
  · refine ⟨_, importPathOf_of_ascii h extension, ?_, ?_⟩
    · intro c mem
      rw [String.toList_ofList] at mem
      exact of_mem_intercalate_lowerWords h mem
    · rw [String.toList_ofList, filter_intercalate (hyphen_notMem_lowerWords h),
        flatten_lowerWords h]
  · intro plain first rest begins isLetter
    obtain ⟨others, typeName⟩ := typeNameOf_of_begins h begins isLetter
    refine ⟨first.toUpper, others, typeName, ?_, ?_⟩
    · rw [first.isUpper_toUpper_eq_isAlpha, isLetter]
    · intro c mem
      apply isAlphanum_of_mem_typeNameOf plain
      rw [typeName]
      exact List.mem_cons_of_mem _ mem

/-- Capitals next to one another, digits within a word, and separators in a row and at the end. -/
theorem characters_kept_httpServer :
    IsAscii "xHTTPServer_2go -ID " ∧ PlainName "xHTTPServer_2go -ID " ∧
      typeNameOf "xHTTPServer_2go -ID " = "XHttpServer2GoId" ∧
      importPathOf "xHTTPServer_2go -ID " "d.ts" = "./x-http-server-2-go--id-.d.ts" ∧
      (typeNameOf "xHTTPServer_2go -ID ").toList.map Char.toLower = "xhttpserver2goid".toList ∧
      (∃ path : String,
        importPathOf "xHTTPServer_2go -ID " "d.ts" = "./" ++ path ++ "." ++ "d.ts" ∧
          (∀ c ∈ path.toList, c.isUpper = false ∧ c ≠ '_' ∧ c ≠ ' ') ∧
          path.toList.filter (· ≠ '-') = "xhttpserver2goid".toList) ∧
      ∃ initial others, (typeNameOf "xHTTPServer_2go -ID ").toList = initial :: others ∧
        initial.isUpper = true ∧ ∀ c ∈ others, c.isAlphanum = true := by
  have isAscii : IsAscii "xHTTPServer_2go -ID " := by decide +kernel
  have plain : PlainName "xHTTPServer_2go -ID " := by decide +kernel
  obtain ⟨typeName, path, identifier⟩ := characters_kept isAscii "d.ts"
  exact ⟨isAscii, plain, by decide +kernel, by decide +kernel, typeName, path,
    identifier plain 'x' "HTTPServer_2go -ID ".toList rfl rfl⟩

end SchemaTypes
