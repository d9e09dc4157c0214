import Mathlib
import SchemaTypes.Proofs.Files.Walk
import SchemaTypes.Proofs.Toml.Record
import SchemaTypes.Project.SettingsFile

/-!
Where settings come from.

`GivenSettings.IsWrittenIn` relates settings, each of which may be missing, to the tables of a
settings file: sections and keys are looked up by name, a section may be left out with all that is
in it, and there may be other keys. What is loaded from such a file and then overridden has each
setting from the first source that gives it, whatever the sources say of the others
(`Settings.load_spec`).
-/

namespace SchemaTypes

open Toml (Entries Value IsChoice OthersAre)
open Toml.Record (build_seq build_map build_optional_of_rel build_optional_of_map sound_optional)

/-! ### Names of choices -/

/-- The name of a way to write primary keys. -/
def KeyTyping.spelling : KeyTyping → String
  | .generic => "generic"
  | .number => "number"
  | .string => "string"

/-- The name of a place to keep records. -/
def Backend.spelling : Backend → String
  | .memory => "memory"

theorem KeyTyping.chosen_eq_ok_iff {name : String} {typing : KeyTyping} :
    Toml.chosen KeyTyping.names name = .ok typing ↔ name = typing.spelling := by
  rw [Toml.chosen_eq_ok_iff (by decide)]
  cases typing <;> simp [KeyTyping.names, KeyTyping.spelling]

theorem Backend.chosen_eq_ok_iff {name : String} {backend : Backend} :
    Toml.chosen Backend.names name = .ok backend ↔ name = backend.spelling := by
  rw [Toml.chosen_eq_ok_iff (by decide)]
  cases backend
  simp [Backend.names, Backend.spelling]

/-! ### Settings that are given -/

/-- Settings, each of which may be missing. -/
structure GivenSettings where
  moduleFolder : Option Path
  suffix : Option String
  indexFile : Option String
  obeysIgnoreFiles : Option Bool
  outputFolder : Option Path
  extension : Option String
  docs : Option Bool
  typing : Option KeyTyping
  backend : Option Backend

/-- The table of a section, which is empty if the section is left out. -/
def IsSection (inner : Entries) (given : Option Value) : Prop :=
  given = some (.table inner) ∨ given = none ∧ inner = []

namespace GivenSettings

/-- A table in which settings on modules are written. The values of other keys are of an allowed
kind. -/
structure ModulesAreIn (allowed : Value → Prop) (inner : Entries) (g : GivenSettings) : Prop where
  folder : inner.lookup "dir" = g.moduleFolder.map fun p => .string p.text
  suffix : inner.lookup "suffix" = g.suffix.map .string
  indexFile : inner.lookup "index_file" = g.indexFile.map .string
  obeysIgnoreFiles : inner.lookup "respect_gitignore" = g.obeysIgnoreFiles.map .boolean
  others : OthersAre allowed ["dir", "suffix", "index_file", "respect_gitignore"] inner

/-- A table in which settings on declarations are written. -/
structure OutputIsIn (allowed : Value → Prop) (inner : Entries) (g : GivenSettings) : Prop where
  folder : inner.lookup "dir" = g.outputFolder.map fun p => .string p.text
  extension : inner.lookup "extension" = g.extension.map .string
  docs : inner.lookup "generate_docs" = g.docs.map .boolean
  others : OthersAre allowed ["dir", "extension", "generate_docs"] inner

/-- A table in which it is written how primary keys are. -/
structure TypingIsIn (allowed : Value → Prop) (inner : Entries) (g : GivenSettings) : Prop where
  typing : Option.Rel (IsChoice KeyTyping.spelling) g.typing (inner.lookup "auto_pk_type")
  others : OthersAre allowed ["auto_pk_type"] inner

/-- A table in which it is written where records are kept. -/
structure BackendIsIn (allowed : Value → Prop) (inner : Entries) (g : GivenSettings) : Prop where
  backend : Option.Rel (IsChoice Backend.spelling) g.backend (inner.lookup "backend")
  others : OthersAre allowed ["backend"] inner

/-- A table in which settings are written. -/
structure IsWrittenIn (allowed : Value → Prop) (entries : Entries) (g : GivenSettings) : Prop where
  modules : ∃ inner, IsSection inner (entries.lookup "modules") ∧ g.ModulesAreIn allowed inner
  output : ∃ inner, IsSection inner (entries.lookup "output") ∧ g.OutputIsIn allowed inner
  typing : ∃ inner, IsSection inner (entries.lookup "generation") ∧ g.TypingIsIn allowed inner
  backend : ∃ inner, IsSection inner (entries.lookup "storage") ∧ g.BackendIsIn allowed inner
  others : OthersAre allowed ["modules", "output", "generation", "storage"] entries

/-- Each setting on its own: as it is overridden, else as it is given, else by default. -/
def settled (g : GivenSettings) (o : Overrides) : Settings where
  modules := {
    folder := o.modules.getD (g.moduleFolder.getD ⟨"./src/storage/modules"⟩)
    suffix := g.suffix.getD "toml"
    indexFile := g.indexFile.getD "index.toml"
    obeysIgnoreFiles := g.obeysIgnoreFiles.getD false }
  output := {
    folder := o.output.getD (g.outputFolder.getD ⟨"./src/types/generated"⟩)
    extension := g.extension.getD "ts"
    docs := g.docs.getD true }
  typing := o.typing.getD (g.typing.getD .generic)
  backend := g.backend.getD .memory

end GivenSettings

/-! ### Decoding what is given -/

section Build

variable {α : Type} {name : String} {decoder : Toml.Decoder α} {fallback : α}
  {given : String → Option Value}

/-- A section that is left out is as good as an empty one, where the default is what an empty one
gives. -/
theorem build_section {inner : Entries} {a : α} (isSection : IsSection inner (given name))
    (onEmpty : decoder (.table []) = .ok fallback) (decoded : decoder (.table inner) = .ok a) :
    (Toml.Record.optional name decoder fallback).build given = .ok a := by
  rw [Toml.Record.build_optional_eq_ok_iff]
  rcases isSection with isGiven | ⟨absent, rfl⟩
  · exact .inr ⟨_, isGiven, decoded⟩
  · exact .inl ⟨absent, Except.ok.inj (decoded.symm.trans onEmpty)⟩

theorem IsSection.nodup {entries inner : Entries} (differ : (Value.table entries).KeysDiffer)
    (isSection : IsSection inner (entries.lookup name)) : (inner.map Prod.fst).Nodup := by
  rcases isSection with found | ⟨-, rfl⟩
  · exact differ.of_lookup found _ .self
  · exact .nil

end Build

theorem Path.decoder_text {p : Path} : Path.decoder (.string p.text) = .ok p := rfl

theorem ModuleSettings.record_sound : ModuleSettings.record.Sound :=
  .seq (.seq (.seq (.map sound_optional) sound_optional) sound_optional) sound_optional

theorem OutputSettings.record_sound : OutputSettings.record.Sound :=
  .seq (.seq (.map sound_optional) sound_optional) sound_optional

theorem Settings.record_sound : Settings.record.Sound :=
  .seq (.seq (.seq (.map sound_optional) sound_optional) sound_optional) sound_optional

namespace GivenSettings

variable {g : GivenSettings} {inner entries : Entries}

theorem ModulesAreIn.decoded (nodup : (inner.map Prod.fst).Nodup)
    (h : g.ModulesAreIn Value.NumbersFit inner) :
    Toml.Decoder.record "ModulesConfig" ModuleSettings.record (.table inner) =
      .ok (g.settled .none).modules := by
  have built : ModuleSettings.record.build (fun name => inner.lookup name) =
      .ok (g.settled .none).modules :=
    build_seq (build_seq (build_seq
      (build_map ModuleSettings.mk (build_optional_of_map Path.decoder_text h.folder))
      (build_optional_of_map rfl h.suffix))
      (build_optional_of_map rfl h.indexFile))
      (build_optional_of_map rfl h.obeysIgnoreFiles)
  exact (Toml.Record.ofTable_eq_ok_iff ModuleSettings.record_sound nodup).mpr ⟨built, h.others⟩

theorem OutputIsIn.decoded (nodup : (inner.map Prod.fst).Nodup)
    (h : g.OutputIsIn Value.NumbersFit inner) :
    Toml.Decoder.record "OutputConfig" OutputSettings.record (.table inner) =
      .ok (g.settled .none).output := by
  have built : OutputSettings.record.build (fun name => inner.lookup name) =
      .ok (g.settled .none).output :=
    build_seq (build_seq
      (build_map OutputSettings.mk (build_optional_of_map Path.decoder_text h.folder))
      (build_optional_of_map rfl h.extension))
      (build_optional_of_map rfl h.docs)
  exact (Toml.Record.ofTable_eq_ok_iff OutputSettings.record_sound nodup).mpr ⟨built, h.others⟩

theorem TypingIsIn.decoded (nodup : (inner.map Prod.fst).Nodup)
    (h : g.TypingIsIn Value.NumbersFit inner) :
    Toml.Decoder.record "GenerationConfig" KeyTyping.record (.table inner) =
      .ok (g.settled .none).typing := by
  have built : KeyTyping.record.build (fun name => inner.lookup name) =
      .ok (g.settled .none).typing :=
    build_optional_of_rel (Toml.Decoder.choice_eq_ok_iff KeyTyping.chosen_eq_ok_iff).mpr h.typing
  exact (Toml.Record.ofTable_eq_ok_iff sound_optional nodup).mpr ⟨built, h.others⟩

theorem BackendIsIn.decoded (nodup : (inner.map Prod.fst).Nodup)
    (h : g.BackendIsIn Value.NumbersFit inner) :
    Backend.decoder (.table inner) = .ok (g.settled .none).backend := by
  have built : Backend.record.build (fun name => inner.lookup name) =
      .ok (g.settled .none).backend :=
    build_optional_of_rel (Toml.Decoder.choice_eq_ok_iff Backend.chosen_eq_ok_iff).mpr h.backend
  exact (Toml.Record.ofTable_eq_ok_iff sound_optional nodup).mpr ⟨built, h.others⟩

theorem IsWrittenIn.decoded (differ : (Value.table entries).KeysDiffer)
    (h : g.IsWrittenIn Value.NumbersFit entries) :
    Settings.decoder (.table entries) = .ok (g.settled .none) := by
  obtain ⟨modules, modulesFound, modulesWritten⟩ := h.modules
  obtain ⟨output, outputFound, outputWritten⟩ := h.output
  obtain ⟨typing, typingFound, typingWritten⟩ := h.typing
  obtain ⟨backend, backendFound, backendWritten⟩ := h.backend
  have built : Settings.record.build (fun name => entries.lookup name) = .ok (g.settled .none) :=
    build_seq (build_seq (build_seq (build_map Settings.mk
      (build_section modulesFound rfl (modulesWritten.decoded (modulesFound.nodup differ))))
      (build_section outputFound rfl (outputWritten.decoded (outputFound.nodup differ))))
      (build_section typingFound rfl (typingWritten.decoded (typingFound.nodup differ))))
      (build_section backendFound rfl (backendWritten.decoded (backendFound.nodup differ)))
  exact (Toml.Record.ofTable_eq_ok_iff Settings.record_sound (differ _ .self)).mpr
    ⟨built, h.others⟩

theorem override_settled (g : GivenSettings) (o : Overrides) :
    (g.settled .none).override o = g.settled o := rfl

end GivenSettings

/-! ### Settings files -/

theorem Settings.read_eq_of_parse {t : FileTree} {p : Path} {source : String} {entries : Entries}
    (isText : t.readText p = .ok source) (parsed : Toml.parse source = some entries) :
    Settings.read t p =
      ((Settings.decoder (.table entries)).mapError .unfit).mapError (.invalid p) := by
  rw [Settings.read, isText]
  dsimp only
  rw [Toml.decode, parsed]

theorem Settings.load_eq_read {t : FileTree} {p : Path} {source : String}
    (isText : t.readText p = .ok source) : Settings.load t (some p) = Settings.read t p := by
  rw [Settings.load, FileTree.isPresent_of_readText isText]
  rfl

/-- The usual file is found without being asked for. -/
theorem Settings.load_usual_eq_read {t : FileTree} {source : String}
    (isText : t.readText settingsPath = .ok source) :
    Settings.load t none = Settings.read t settingsPath := by
  rw [Settings.load, FileTree.isPresent_of_readText isText]
  rfl

/-- What is loaded from a settings file and then overridden has each setting as it is overridden,
else as the file gives it, else by default. -/
theorem Settings.load_spec {t : FileTree} {p : Path} {source : String} {entries : Entries}
    {g : GivenSettings} (isText : t.readText p = .ok source)
    (parsed : Toml.parse source = some entries) (written : g.IsWrittenIn Value.NumbersFit entries) :
    ∃ s, Settings.load t (some p) = .ok s ∧
      (p = settingsPath → Settings.load t none = .ok s) ∧
      ∀ o, s.override o = g.settled o := by
  have isRead : Settings.read t p = .ok (g.settled .none) := by
    rw [read_eq_of_parse isText parsed, written.decoded (Toml.ordered_of_parse parsed).keysDiffer]
    rfl
  refine ⟨_, (load_eq_read isText).trans isRead, ?_, g.override_settled⟩
  rintro rfl
  exact (load_usual_eq_read isText).trans isRead

/-- A folder with nothing in it but a settings file. -/
def onlySettings (source : String) : FileTree where
  entries := [(["schemagen.toml"], .file source.toUTF8)]
  current := []

/-- A section written in one line, with a key that means nothing, and a section under a header. -/
def partialSettings : String :=
  "output = \x7bx = 1, extension = 'd.ts'\x7d\n[generation]\nauto_pk_type = 'number'\n"

/-- The settings that are in the file. -/
def partialGiven : GivenSettings :=
  ⟨none, none, none, none, none, some "d.ts", none, some .number, none⟩

/-- The output folder is overridden, two settings are in the file, and the others are missing. -/
theorem partialSettings_loaded :
    ∃ s, Settings.load (onlySettings partialSettings) (some settingsPath) = .ok s ∧
      Settings.load (onlySettings partialSettings) none = .ok s ∧
      s.override ⟨none, some ⟨"gen"⟩, none⟩ =
        ⟨⟨⟨"./src/storage/modules"⟩, "toml", "index.toml", false⟩, ⟨⟨"gen"⟩, "d.ts", true⟩, .number,
          .memory⟩ := by
  let output : Entries := [("extension", .string "d.ts"), ("x", .integer (some 1))]
  let generation : Entries := [("auto_pk_type", .string "number")]
  have isText : (onlySettings partialSettings).readText settingsPath = .ok partialSettings := by
    decide +kernel
  have parsed : Toml.parse partialSettings =
      some [("generation", .table generation), ("output", .table output)] := by cbv
  have written : partialGiven.IsWrittenIn Value.NumbersFit
      [("generation", .table generation), ("output", .table output)] :=
    { modules := ⟨[], .inr ⟨rfl, rfl⟩, rfl, rfl, rfl, rfl, by decide⟩
      output := ⟨output, .inl rfl, rfl, rfl, rfl, by decide⟩
      typing := ⟨generation, .inl rfl, .some (.inl rfl), by decide⟩
      backend := ⟨[], .inr ⟨rfl, rfl⟩, .none, by decide⟩
      others := by decide }
  obtain ⟨s, loaded, usual, overridden⟩ := Settings.load_spec isText parsed written
  exact ⟨s, loaded, usual rfl, overridden _⟩

/-- A settings file without settings, in which a number fits no machine type. -/
def oversizedSettings : String :=
  "x = 1e999\n"

/-- In the other keys not every value may stand: this settings file is not loaded. -/
theorem Settings.oversized_settings_refused :
    ∃ entries, (onlySettings oversizedSettings).readText settingsPath = .ok oversizedSettings ∧
      Toml.parse oversizedSettings = some entries ∧
      (⟨none, none, none, none, none, none, none, none, none⟩ : GivenSettings).IsWrittenIn
        (fun _ => True) entries ∧
      Settings.load (onlySettings oversizedSettings) (some settingsPath) =
        .error (.invalid settingsPath (.unfit .floatOverflow)) := by
  have isText : (onlySettings oversizedSettings).readText settingsPath = .ok oversizedSettings := by
    decide +kernel
  have parsed : Toml.parse oversizedSettings = some [("x", .float (.finite false 1 999))] := by cbv
  refine ⟨_, isText, parsed, ?_, ?_⟩
  · exact
      { modules := ⟨[], .inr ⟨rfl, rfl⟩, rfl, rfl, rfl, rfl, fun _ _ _ => trivial⟩
        output := ⟨[], .inr ⟨rfl, rfl⟩, rfl, rfl, rfl, fun _ _ _ => trivial⟩
        typing := ⟨[], .inr ⟨rfl, rfl⟩, .none, fun _ _ _ => trivial⟩
        backend := ⟨[], .inr ⟨rfl, rfl⟩, .none, fun _ _ _ => trivial⟩
        others := fun _ _ _ => trivial }
  · rw [load_eq_read isText, read_eq_of_parse isText parsed]
    decide +kernel

end SchemaTypes
