import Mathlib
import SchemaTypes.Proofs.Toml.Record
import SchemaTypes.Schema.Manifest

/-!
What a manifest declares.

`Module.IsWrittenIn` relates a module to the tables that write it: keys are looked up by name, what
is absent, false or empty may be left out, and there may be other keys. `Module.IsFlawed` is the lack
of a name, a type or a target somewhere among the modules, collections, fields and relationships. A
manifest in which a module is written declares exactly this module, and one that is flawed declares
none (`Module.manifest_spec`). The values of other keys are not quite free: a number that fits no
machine type is refused wherever it stands (`Module.oversized_number_refused`).
-/

namespace SchemaTypes

open Toml (Entries Value IsChoice IsFlag IsList OthersAre)
open Toml.Record (build_seq build_map build_seq_eq_ok_iff build_map_eq_ok_iff)

/-! ### Names of kinds -/

/-- The name of a field kind. -/
def FieldKind.spelling : FieldKind → String
  | .string => "string"
  | .text => "text"
  | .json => "json"
  | .datetime => "datetime"
  | .timestamp => "timestamp"
  | .boolean => "boolean"
  | .int => "int"
  | .float => "float"
  | .binary => "binary"
  | .autoPk => "auto-pk"

/-- The name of a kind of relationships. -/
def RelationshipKind.spelling : RelationshipKind → String
  | .childOf => "child_of"
  | .singleChildOf => "single_child_of"

theorem FieldKind.chosen_eq_ok_iff {name : String} {kind : FieldKind} :
    Toml.chosen FieldKind.names name = .ok kind ↔ name = kind.spelling := by
  rw [Toml.chosen_eq_ok_iff (by decide)]
  cases kind <;> simp [FieldKind.names, FieldKind.spelling]

theorem RelationshipKind.chosen_eq_ok_iff {name : String} {kind : RelationshipKind} :
    Toml.chosen RelationshipKind.names name = .ok kind ↔ name = kind.spelling := by
  rw [Toml.chosen_eq_ok_iff (by decide)]
  cases kind <;> simp [RelationshipKind.names, RelationshipKind.spelling]

/-! ### Keys -/

section Keys

variable {given : String → Option Value} {name : String} {α : Type}

theorem build_optionalText_eq_ok_iff {text : Option String} :
    (optionalText name).build given = .ok text ↔ given name = text.map .string := by
  have decodes {v : Value} : some <$> Toml.Decoder.text v = .ok text ↔
      ∃ s, v = .string s ∧ some s = text := by
    show (Toml.Decoder.text v).map some = .ok text ↔ _
    simp only [map_eq_ok_iff, Toml.Decoder.text, Toml.Decoder.textAs_eq_ok_iff]
  rw [optionalText, Toml.Record.build_optional_eq_ok_iff]
  simp only [decodes]
  cases text <;> simp

theorem build_optionalList_eq_ok_iff {item : Toml.Decoder α} {as : List α} :
    (optionalList name item).build given = .ok as ↔
      IsList (fun a v => item v = .ok a) as (given name) := by
  rw [optionalList, Toml.Record.build_optional_eq_ok_iff, IsList, or_comm]
  simp only [Toml.Decoder.list_eq_ok_iff, ← exists_and_left]
  refine or_congr_left ⟨?_, ?_⟩
  · rintro ⟨v, items, isGiven, rfl, decoded⟩
    exact ⟨items, isGiven, decoded⟩
  · rintro ⟨items, isGiven, decoded⟩
    exact ⟨_, items, isGiven, rfl, decoded⟩

end Keys

/-! ### Records -/

/-- The keys of a field. -/
def Field.keys : List String :=
  ["name", "type", "optional", "description"]

/-- The keys of a relationship. -/
def Relationship.keys : List String :=
  ["type", "collection", "alias", "optional"]

/-- The keys of a collection. -/
def Collection.keys : List String :=
  ["name", "description", "fields", "relationships", "indices"]

/-- The keys of a module. -/
def Module.keys : List String :=
  ["name", "collections"]

/-! ### Putting records together -/

section Build

variable {given : String → Option Value}

/-- What is given to the keys of a field. -/
theorem Field.build_eq_ok_iff {f : Field} :
    Field.record.build given = .ok f ↔
      given "name" = some (.string f.name) ∧
        (∃ v, given "type" = some v ∧ IsChoice FieldKind.spelling f.kind v) ∧
        IsFlag f.isOptional (given "optional") ∧
        given "description" = f.description.map .string := by
  rw [← Toml.Record.build_text_eq_ok_iff,
    ← Toml.Record.build_choice_eq_ok_iff FieldKind.chosen_eq_ok_iff,
    ← Toml.Record.build_flag_eq_ok_iff, ← build_optionalText_eq_ok_iff]
  constructor
  · intro h
    simp only [Field.record, build_seq_eq_ok_iff, build_map_eq_ok_iff] at h
    obtain ⟨_, _, ⟨_, _, ⟨_, _, ⟨_, named, rfl⟩, typed, rfl⟩, flagged, rfl⟩, described, rfl⟩ := h
    exact ⟨named, typed, flagged, described⟩
  · rintro ⟨named, typed, flagged, described⟩
    exact build_seq (build_seq (build_seq (build_map Field.mk named) typed) flagged) described

/-- What is given to the keys of a relationship. -/
theorem Relationship.build_eq_ok_iff {r : Relationship} :
    Relationship.record.build given = .ok r ↔
      (∃ v, given "type" = some v ∧ IsChoice RelationshipKind.spelling r.kind v) ∧
        given "collection" = some (.string r.target) ∧
        given "alias" = r.label.map .string ∧
        IsFlag r.isOptional (given "optional") := by
  rw [← Toml.Record.build_text_eq_ok_iff,
    ← Toml.Record.build_choice_eq_ok_iff RelationshipKind.chosen_eq_ok_iff,
    ← Toml.Record.build_flag_eq_ok_iff, ← build_optionalText_eq_ok_iff]
  constructor
  · intro h
    simp only [Relationship.record, build_seq_eq_ok_iff, build_map_eq_ok_iff] at h
    obtain ⟨_, _, ⟨_, _, ⟨_, _, ⟨_, typed, rfl⟩, aimed, rfl⟩, labelled, rfl⟩, flagged, rfl⟩ := h
    exact ⟨typed, aimed, labelled, flagged⟩
  · rintro ⟨typed, aimed, labelled, flagged⟩
    exact build_seq (build_seq (build_seq (build_map Relationship.mk typed) aimed) labelled) flagged

/-- What is given to the keys of a collection. -/
theorem Collection.build_eq_ok_iff {c : Collection} :
    Collection.record.build given = .ok c ↔
      given "name" = some (.string c.name) ∧
        given "description" = c.description.map .string ∧
        IsList (fun f v => Field.decoder v = .ok f) c.fields (given "fields") ∧
        IsList (fun r v => Relationship.decoder v = .ok r) c.relationships
          (given "relationships") ∧
        IsList (fun text v => Toml.Decoder.text v = .ok text) c.indices (given "indices") := by
  rw [← Toml.Record.build_text_eq_ok_iff, ← build_optionalText_eq_ok_iff,
    ← build_optionalList_eq_ok_iff, ← build_optionalList_eq_ok_iff, ← build_optionalList_eq_ok_iff]
  constructor
  · intro h
    simp only [Collection.record, build_seq_eq_ok_iff, build_map_eq_ok_iff] at h
    obtain ⟨_, _, ⟨_, _, ⟨_, _, ⟨_, _, ⟨_, named, rfl⟩, described, rfl⟩, fielded, rfl⟩, related, rfl⟩,
      indexed, rfl⟩ := h
    exact ⟨named, described, fielded, related, indexed⟩
  · rintro ⟨named, described, fielded, related, indexed⟩
    exact build_seq (build_seq (build_seq (build_seq (build_map Collection.mk named) described)
      fielded) related) indexed

/-- What is given to the keys of a module. -/
theorem Module.build_eq_ok_iff {m : Module} :
    Module.record.build given = .ok m ↔
      given "name" = some (.string m.name) ∧
        IsList (fun c v => Collection.decoder v = .ok c) m.collections (given "collections") := by
  rw [← Toml.Record.build_text_eq_ok_iff, ← build_optionalList_eq_ok_iff]
  constructor
  · intro h
    simp only [Module.record, build_seq_eq_ok_iff, build_map_eq_ok_iff] at h
    obtain ⟨_, _, ⟨_, named, rfl⟩, collected, rfl⟩ := h
    exact ⟨named, collected⟩
  · rintro ⟨named, collected⟩
    exact build_seq (build_map Module.mk named) collected

end Build

theorem Field.record_sound : Field.record.Sound :=
  .seq (.seq (.seq (.map Toml.Record.sound_required) Toml.Record.sound_required)
    Toml.Record.sound_optional) Toml.Record.sound_optional

theorem Relationship.record_sound : Relationship.record.Sound :=
  .seq (.seq (.seq (.map Toml.Record.sound_required) Toml.Record.sound_required)
    Toml.Record.sound_optional) Toml.Record.sound_optional

theorem Collection.record_sound : Collection.record.Sound :=
  .seq (.seq (.seq (.seq (.map Toml.Record.sound_required) Toml.Record.sound_optional)
    Toml.Record.sound_optional) Toml.Record.sound_optional) Toml.Record.sound_optional

theorem Module.record_sound : Module.record.Sound :=
  .seq (.map Toml.Record.sound_required) Toml.Record.sound_optional

/-! ### What is written in a table -/

/-- A table in which a field is written. The values of other keys are of an allowed kind. -/
structure Field.IsWrittenIn (allowed : Value → Prop) (entries : Entries) (f : Field) : Prop where
  name : entries.lookup "name" = some (.string f.name)
  kind : ∃ v, entries.lookup "type" = some v ∧ IsChoice FieldKind.spelling f.kind v
  isOptional : IsFlag f.isOptional (entries.lookup "optional")
  description : entries.lookup "description" = f.description.map .string
  others : OthersAre allowed Field.keys entries

/-- A table in which a relationship is written. -/
structure Relationship.IsWrittenIn (allowed : Value → Prop) (entries : Entries)
    (r : Relationship) : Prop where
  kind : ∃ v, entries.lookup "type" = some v ∧ IsChoice RelationshipKind.spelling r.kind v
  target : entries.lookup "collection" = some (.string r.target)
  label : entries.lookup "alias" = r.label.map .string
  isOptional : IsFlag r.isOptional (entries.lookup "optional")
  others : OthersAre allowed Relationship.keys entries

/-- A table in which a collection is written. -/
structure Collection.IsWrittenIn (allowed : Value → Prop) (entries : Entries)
    (c : Collection) : Prop where
  name : entries.lookup "name" = some (.string c.name)
  description : entries.lookup "description" = c.description.map .string
  fields : IsList (fun f v => ∃ inner, v = .table inner ∧ f.IsWrittenIn allowed inner) c.fields
    (entries.lookup "fields")
  relationships : IsList (fun r v => ∃ inner, v = .table inner ∧ r.IsWrittenIn allowed inner)
    c.relationships (entries.lookup "relationships")
  indices : IsList (fun text v => v = .string text) c.indices (entries.lookup "indices")
  others : OthersAre allowed Collection.keys entries

/-- A table in which a module is written. -/
structure Module.IsWrittenIn (allowed : Value → Prop) (entries : Entries) (m : Module) : Prop where
  name : entries.lookup "name" = some (.string m.name)
  collections : IsList (fun c v => ∃ inner, v = .table inner ∧ c.IsWrittenIn allowed inner)
    m.collections (entries.lookup "collections")
  others : OthersAre allowed Module.keys entries

section Written

variable {entries : Entries}

theorem Field.decoder_of_isWrittenIn {f : Field} (differ : (Value.table entries).KeysDiffer)
    (h : f.IsWrittenIn Value.NumbersFit entries) : Field.decoder (.table entries) = .ok f := by
  have built : Field.record.build (fun name => entries.lookup name) = .ok f :=
    Field.build_eq_ok_iff.mpr ⟨h.name, h.kind, h.isOptional, h.description⟩
  exact (Toml.Record.ofTable_eq_ok_iff Field.record_sound (differ _ .self)).mpr ⟨built, h.others⟩

theorem Relationship.decoder_of_isWrittenIn {r : Relationship}
    (differ : (Value.table entries).KeysDiffer) (h : r.IsWrittenIn Value.NumbersFit entries) :
    Relationship.decoder (.table entries) = .ok r := by
  have built : Relationship.record.build (fun name => entries.lookup name) = .ok r :=
    Relationship.build_eq_ok_iff.mpr ⟨h.kind, h.target, h.label, h.isOptional⟩
  exact (Toml.Record.ofTable_eq_ok_iff Relationship.record_sound (differ _ .self)).mpr
    ⟨built, h.others⟩

/-- A list of tables is decoded if each table in it is. -/
theorem isList_of_tables {α : Type} {decoder : Toml.Decoder α} {P : α → Entries → Prop}
    {as : List α} {key : String} (differ : (Value.table entries).KeysDiffer)
    (decodes : ∀ a inner, (Value.table inner).KeysDiffer → P a inner →
      decoder (.table inner) = .ok a)
    (h : IsList (fun a v => ∃ inner, v = .table inner ∧ P a inner) as (entries.lookup key)) :
    IsList (fun a v => decoder v = .ok a) as (entries.lookup key) := by
  refine h.imp fun items found v mem a written => ?_
  obtain ⟨inner, rfl, written⟩ := written
  exact decodes a inner ((differ.of_lookup found).of_mem mem) written

theorem Collection.decoder_of_isWrittenIn {c : Collection}
    (differ : (Value.table entries).KeysDiffer) (h : c.IsWrittenIn Value.NumbersFit entries) :
    Collection.decoder (.table entries) = .ok c := by
  have indexed : IsList (fun text v => Toml.Decoder.text v = .ok text) c.indices
      (entries.lookup "indices") :=
    h.indices.imp fun _ _ _ _ _ written => Toml.Decoder.textAs_eq_ok_iff.mpr written
  have built : Collection.record.build (fun name => entries.lookup name) = .ok c :=
    Collection.build_eq_ok_iff.mpr ⟨h.name, h.description,
      isList_of_tables differ (fun _ _ => Field.decoder_of_isWrittenIn) h.fields,
      isList_of_tables differ (fun _ _ => Relationship.decoder_of_isWrittenIn) h.relationships,
      indexed⟩
  exact (Toml.Record.ofTable_eq_ok_iff Collection.record_sound (differ _ .self)).mpr
    ⟨built, h.others⟩

theorem Module.decoder_of_isWrittenIn {m : Module} (differ : (Value.table entries).KeysDiffer)
    (h : m.IsWrittenIn Value.NumbersFit entries) : Module.decoder (.table entries) = .ok m := by
  have built : Module.record.build (fun name => entries.lookup name) = .ok m :=
    Module.build_eq_ok_iff.mpr ⟨h.name,
      isList_of_tables differ (fun _ _ => Collection.decoder_of_isWrittenIn) h.collections⟩
  exact (Toml.Record.ofTable_eq_ok_iff Module.record_sound (differ _ .self)).mpr ⟨built, h.others⟩

end Written

/-! ### What is missing -/

/-- No text is given. -/
def LacksText (given : Option Value) : Prop :=
  ∀ text, given ≠ some (.string text)

/-- No choice is given. -/
def LacksChoice {α : Type} (spelling : α → String) (given : Option Value) : Prop :=
  ∀ v, given = some v → ∀ a, ¬ IsChoice spelling a v

/-- A text is no choice if it is the name of none. -/
theorem lacksChoice_text {α : Type} {spelling : α → String} {text : String}
    (unknown : ∀ a, text ≠ spelling a) : LacksChoice spelling (some (.string text)) := by
  rintro v ⟨⟩ a (h | ⟨_, -, h⟩)
  · exact unknown a (Value.string.inj h)
  · cases h

/-- A list is given, and something in it has a certain property. -/
def HasItem (P : Value → Prop) (given : Option Value) : Prop :=
  ∃ items, given = some (.array items) ∧ ∃ v ∈ items, P v

/-- A field without a name or without a kind. -/
def Field.IsFlawed (v : Value) : Prop :=
  LacksText (v.given Field.keys "name") ∨ LacksChoice FieldKind.spelling (v.given Field.keys "type")

/-- A relationship without a kind or without a target. -/
def Relationship.IsFlawed (v : Value) : Prop :=
  LacksChoice RelationshipKind.spelling (v.given Relationship.keys "type") ∨
    LacksText (v.given Relationship.keys "collection")

/-- A collection that has no name, or a flawed field or relationship. -/
def Collection.IsFlawed (v : Value) : Prop :=
  LacksText (v.given Collection.keys "name") ∨
    HasItem Field.IsFlawed (v.given Collection.keys "fields") ∨
    HasItem Relationship.IsFlawed (v.given Collection.keys "relationships")

/-- A module that has no name, or a flawed collection. -/
def Module.IsFlawed (v : Value) : Prop :=
  LacksText (v.given Module.keys "name") ∨
    HasItem Collection.IsFlawed (v.given Module.keys "collections")

section Flawed

theorem not_lacksText {given : Option Value} {text : String} (h : given = some (.string text)) :
    ¬ LacksText given :=
  fun lacks => lacks text h

theorem not_lacksChoice {α : Type} {spelling : α → String} {given : Option Value} {a : α}
    (h : ∃ v, given = some v ∧ IsChoice spelling a v) : ¬ LacksChoice spelling given := by
  obtain ⟨v, isGiven, isChoice⟩ := h
  exact fun lacks => lacks v isGiven a isChoice

theorem not_hasItem {α : Type} {decoder : Toml.Decoder α} {P : Value → Prop} {as : List α}
    {given : Option Value} (decodes : ∀ v a, decoder v = .ok a → ¬ P v)
    (h : IsList (fun a v => decoder v = .ok a) as given) : ¬ HasItem P given := by
  rintro ⟨items, isGiven, v, mem, flawed⟩
  rcases h with ⟨others, isGiven', decoded⟩ | ⟨absent, -⟩
  · cases isGiven.symm.trans isGiven'
    obtain ⟨a, -, isDecoded⟩ := exists_right_of_forall₂ decoded mem
    exact decodes v a isDecoded flawed
  · rw [absent] at isGiven
    cases isGiven

theorem Field.not_isFlawed {v : Value} {f : Field} (h : Field.decoder v = .ok f) :
    ¬ Field.IsFlawed v := by
  obtain ⟨named, typed, -, -⟩ := Field.build_eq_ok_iff.mp (Toml.Record.build_of_record h)
  exact not_or.mpr ⟨not_lacksText named, not_lacksChoice typed⟩

theorem Relationship.not_isFlawed {v : Value} {r : Relationship}
    (h : Relationship.decoder v = .ok r) : ¬ Relationship.IsFlawed v := by
  obtain ⟨typed, aimed, -, -⟩ := Relationship.build_eq_ok_iff.mp (Toml.Record.build_of_record h)
  exact not_or.mpr ⟨not_lacksChoice typed, not_lacksText aimed⟩

theorem Collection.not_isFlawed {v : Value} {c : Collection} (h : Collection.decoder v = .ok c) :
    ¬ Collection.IsFlawed v := by
  obtain ⟨named, -, fielded, related, -⟩ :=
    Collection.build_eq_ok_iff.mp (Toml.Record.build_of_record h)
  rintro (unnamed | flawed | flawed)
  · exact not_lacksText named unnamed
  · exact not_hasItem (fun _ _ => Field.not_isFlawed) fielded flawed
  · exact not_hasItem (fun _ _ => Relationship.not_isFlawed) related flawed

theorem Module.not_isFlawed {v : Value} {m : Module} (h : Module.decoder v = .ok m) :
    ¬ Module.IsFlawed v := by
  obtain ⟨named, collected⟩ := Module.build_eq_ok_iff.mp (Toml.Record.build_of_record h)
  rintro (unnamed | flawed)
  · exact not_lacksText named unnamed
  · exact not_hasItem (fun _ _ => Collection.not_isFlawed) collected flawed

end Flawed

/-! ### Manifests -/

theorem ofManifest_of_parse {source : String} {entries : Entries}
    (parsed : Toml.parse source = some entries) :
    Module.ofManifest source = (Module.decoder (.table entries)).mapError .unfit := by
  rw [Module.ofManifest, Toml.decode, parsed]

/-- A module that is written in a table, with its keys in any order, is what the table stands for.
So a manifest declares the module that is written in it, if the numbers in its other keys fit; a
manifest with a flaw declares none. -/
theorem Module.manifest_spec :
    (∀ entries m, (Value.table entries).KeysDiffer → m.IsWrittenIn Value.NumbersFit entries →
      Module.decoder (.table entries) = .ok m) ∧
    ∀ source entries, Toml.parse source = some entries →
      (∀ m : Module, m.IsWrittenIn Value.NumbersFit entries → Module.ofManifest source = .ok m) ∧
      (Module.IsFlawed (.table entries) →
        ∃ fault, Module.ofManifest source = .error (.unfit fault)) := by
  refine ⟨fun _ _ => decoder_of_isWrittenIn, fun source entries parsed => ?_⟩
  rw [ofManifest_of_parse parsed]
  constructor
  · intro m written
    rw [decoder_of_isWrittenIn (Toml.ordered_of_parse parsed).keysDiffer written]
    rfl
  · intro flawed
    cases decoded : Module.decoder (.table entries) with
    | ok m => exact absurd flawed (not_isFlawed decoded)
    | error fault => exact ⟨fault, rfl⟩

/-- A manifest with its keys in no usual order, an empty list that is written out, lists and flags
that are left out, and a key that means nothing. -/
def shuffledManifest : String :=
  "version = 16\nname = 'N'\n[[collections]]\nindices = []\n" ++
  "fields = [\x7btype = 'int', name = 'n'\x7d]\nname = 'c'\n"

/-- The module that the shuffled manifest declares. -/
def shuffledModule : Module where
  name := "N"
  collections := [{ name := "c", description := none, fields := [⟨"n", .int, false, none⟩],
                    relationships := [], indices := [] }]

/-- A manifest in which a field has a kind that there is not. -/
def unknownKindManifest : String :=
  "name = 'N'\ncollections = [\x7bname = 'c', fields = [\x7bname = 'n', type = 'real'\x7d]\x7d]\n"

/-- The first manifest declares its module, the second one declares none. -/
theorem shuffledModule_declared :
    Module.ofManifest shuffledManifest = .ok shuffledModule ∧
      ∃ fault, Module.ofManifest unknownKindManifest = .error (.unfit fault) := by
  constructor
  · let field : Entries := [("name", .string "n"), ("type", .string "int")]
    let collection : Entries :=
      [("fields", .array [.table field]), ("indices", .array []), ("name", .string "c")]
    have parsed : Toml.parse shuffledManifest =
        some [("collections", .array [.table collection]), ("name", .string "N"),
          ("version", .integer (some 16))] := by cbv
    have fieldWritten : Field.IsWrittenIn Value.NumbersFit field ⟨"n", .int, false, none⟩ :=
      ⟨rfl, ⟨_, rfl, .inl rfl⟩, .inr ⟨rfl, rfl⟩, rfl, by decide⟩
    have collectionWritten : Collection.IsWrittenIn Value.NumbersFit collection
        ⟨"c", none, [⟨"n", .int, false, none⟩], [], []⟩ :=
      ⟨rfl, rfl, .inl ⟨_, rfl, .cons ⟨field, rfl, fieldWritten⟩ .nil⟩, .inr ⟨rfl, rfl⟩,
        .inl ⟨_, rfl, .nil⟩, by decide⟩
    exact (Module.manifest_spec.2 _ _ parsed).1 shuffledModule
      ⟨rfl, .inl ⟨_, rfl, .cons ⟨collection, rfl, collectionWritten⟩ .nil⟩, by decide⟩
  · let field : Entries := [("name", .string "n"), ("type", .string "real")]
    let collection : Entries := [("fields", .array [.table field]), ("name", .string "c")]
    have parsed : Toml.parse unknownKindManifest =
        some [("collections", .array [.table collection]), ("name", .string "N")] := by cbv
    have fieldFlawed : Field.IsFlawed (.table field) :=
      .inr (lacksChoice_text fun kind => by cases kind <;> decide)
    have collectionFlawed : Collection.IsFlawed (.table collection) :=
      .inr (.inl ⟨_, rfl, _, .head _, fieldFlawed⟩)
    exact (Module.manifest_spec.2 _ _ parsed).2
      (.inr ⟨_, rfl, _, .head _, collectionFlawed⟩)

/-- A manifest with a number that fits no machine type. -/
def oversizedManifest : String :=
  "name = \"A\"\nx = 1e999\n"

/-- In the other keys not every value may stand: this manifest reads as a table in which a module is
written, and yet it declares none. -/
theorem Module.oversized_number_refused :
    ∃ entries, Toml.parse oversizedManifest = some entries ∧
      (⟨"A", []⟩ : Module).IsWrittenIn (fun _ => True) entries ∧
      Module.ofManifest oversizedManifest = .error (.unfit .floatOverflow) := by
  have parsed : Toml.parse oversizedManifest =
      some [("name", .string "A"), ("x", .float (.finite false 1 999))] := by cbv
  refine ⟨_, parsed, ⟨rfl, .inr ⟨rfl, rfl⟩, fun _ _ _ => trivial⟩, ?_⟩
  rw [ofManifest_of_parse parsed]
  decide +kernel

end SchemaTypes
