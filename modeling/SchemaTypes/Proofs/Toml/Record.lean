import SchemaTypes.Proofs.Outcome
import SchemaTypes.Proofs.Toml.Keys
import SchemaTypes.Toml.Decoder

/-!
What it takes to be decoded.

The decoders of simple values and choices are known by the values that they accept. A record is put
together from its keys one by one (`Record.build_seq_eq_ok_iff`), and all that it checks beforehand
follows from being put together (`Record.Sound`); so a table that lists no key twice is decoded if
its keys give the record and no number in the other keys is too large (`Record.ofTable_eq_ok_iff`).
In whatever form a record is written, it is put together from what that form gives to its keys
(`Record.build_of_record`).
-/

namespace SchemaTypes.Toml

variable {α β : Type}

/-! ### Numbers that fit -/

/-- Every number in a value fits some machine type. -/
def Value.NumbersFit (v : Value) : Prop :=
  ∀ part : Value, part.Within v → part.overflow? = none

theorem unfit?_of_mem_items {items : List Value} (h : unfitInItems? items = none) :
    ∀ v ∈ items, v.unfit? = none := by
  induction items with
  | nil => simp
  | cons v rest ih =>
    obtain ⟨first, others⟩ := Option.or_eq_none_iff.mp h
    exact List.forall_mem_cons.mpr ⟨first, ih others⟩

theorem unfit?_of_mem_entries {entries : Entries} (h : unfitInEntries? entries = none) :
    ∀ entry ∈ entries, entry.2.unfit? = none := by
  induction entries with
  | nil => simp
  | cons entry rest ih =>
    obtain ⟨first, others⟩ := Option.or_eq_none_iff.mp h
    exact List.forall_mem_cons.mpr ⟨first, ih others⟩

theorem Value.overflow?_of_within {part v : Value} (within : part.Within v)
    (h : v.unfit? = none) : part.overflow? = none := by
  induction within with
  | self =>
    cases part with
    | integer _ | float _ => exact h
    | _ => rfl
  | item mem _ ih => exact ih (unfit?_of_mem_items h _ mem)
  | entry mem _ ih => exact ih (unfit?_of_mem_entries h _ mem)

mutual

theorem Value.NumbersFit.unfit?_eq_none : ∀ v : Value, v.NumbersFit → v.unfit? = none
  | .array items, h => unfitInItems?_eq_none items fun _ mem _ within => h _ (.item mem within)
  | .table entries, h =>
    unfitInEntries?_eq_none entries fun _ mem _ within => h _ (.entry mem within)
  | .integer _, h | .float _, h => h _ .self
  | .string _, _ | .boolean _, _ | .datetime _, _ => rfl

theorem unfitInItems?_eq_none : ∀ items : List Value, (∀ v ∈ items, v.NumbersFit) →
    unfitInItems? items = none
  | [], _ => rfl
  | v :: rest, h => by
    obtain ⟨first, others⟩ := List.forall_mem_cons.mp h
    rw [unfitInItems?, Value.NumbersFit.unfit?_eq_none v first, unfitInItems?_eq_none rest others]
    rfl

theorem unfitInEntries?_eq_none : ∀ entries : List (String × Value),
    (∀ entry ∈ entries, entry.2.NumbersFit) → unfitInEntries? entries = none
  | [], _ => rfl
  | (_, v) :: rest, h => by
    obtain ⟨first, others⟩ := List.forall_mem_cons.mp h
    rw [unfitInEntries?, Value.NumbersFit.unfit?_eq_none v first,
      unfitInEntries?_eq_none rest others]
    rfl

end

/-- Of a value that is not used, no more is asked than that its numbers fit. -/
theorem Value.unfit?_eq_none_iff {v : Value} : v.unfit? = none ↔ v.NumbersFit :=
  ⟨fun h _ within => overflow?_of_within within h, NumbersFit.unfit?_eq_none v⟩

instance (v : Value) : Decidable v.NumbersFit :=
  decidable_of_iff _ Value.unfit?_eq_none_iff

/-! ### Simple values -/

theorem mismatch_ne_ok {wanted : String} {v : Value} {a : α} : mismatch wanted v ≠ .ok a := nofun

namespace Decoder

theorem textAs_eq_ok_iff {wanted text : String} {v : Value} :
    textAs wanted v = .ok text ↔ v = .string text := by
  cases v with
  | string _ => simp [textAs]
  | _ => simp [textAs, mismatch_ne_ok]

theorem flag_eq_ok_iff {b : Bool} {v : Value} : flag v = .ok b ↔ v = .boolean b := by
  cases v with
  | boolean _ => simp [flag]
  | _ => simp [flag, mismatch_ne_ok]

theorem list_eq_ok_iff {item : Decoder α} {as : List α} {v : Value} :
    Decoder.list item v = .ok as ↔
      ∃ items, v = .array items ∧ List.Forall₂ (fun x a => item x = .ok a) items as := by
  cases v with
  | array items => simp [Decoder.list, mapM_eq_ok_iff]
  | _ => simp [Decoder.list, mismatch_ne_ok]

end Decoder

/-- A choice is known by its name. -/
theorem chosen_eq_ok_iff {choices : List (String × α)} {name : String} {a : α}
    (nodup : (choices.map Prod.fst).Nodup) : chosen choices name = .ok a ↔ (name, a) ∈ choices := by
  rw [← lookup_eq_some_iff nodup, chosen]
  cases choices.lookup name <;> simp

theorem Decoder.nothing_eq_ok_iff {v : Value} :
    Decoder.nothing v = .ok () ↔ v = .array [] ∨ v = .table [] := by
  cases v with
  | array items => cases items <;> simp [Decoder.nothing]
  | table entries => cases entries <;> simp [Decoder.nothing]
  | _ => simp [Decoder.nothing]

/-- A choice: its name, or a table with its name as the only key and nothing in it. -/
def IsChoice (spelling : α → String) (a : α) (v : Value) : Prop :=
  v = .string (spelling a) ∨
    ∃ nothing, (nothing = .array [] ∨ nothing = .table []) ∧ v = .table [(spelling a, nothing)]

theorem Decoder.choice_eq_ok_iff {choices : List (String × α)} {spelling : α → String} {a : α}
    {v : Value} (spelled : ∀ {name a}, chosen choices name = .ok a ↔ name = spelling a) :
    Decoder.choice choices v = .ok a ↔ IsChoice spelling a v := by
  constructor
  · intro h
    unfold Decoder.choice at h
    split at h
    · exact .inl (congrArg _ (spelled.mp h))
    · cases h
    · obtain ⟨_, isChosen, h⟩ := bind_eq_ok_iff.mp h
      obtain ⟨_, isNothing, h⟩ := bind_eq_ok_iff.mp h
      obtain rfl := pure_eq_ok_iff.mp h
      exact .inr ⟨_, Decoder.nothing_eq_ok_iff.mp isNothing, by rw [spelled.mp isChosen]⟩
    · cases h
    · cases h
  · have isChosen : chosen choices (spelling a) = .ok a := spelled.mpr rfl
    rintro (rfl | ⟨nothing, rfl | rfl, rfl⟩)
    · exact isChosen
    · rw [Decoder.choice, isChosen]
      rfl
    · rw [Decoder.choice, isChosen]
      rfl

/-! ### What is given to a key -/

/-- A truth value, which may be left out if it is false. -/
def IsFlag (b : Bool) (given : Option Value) : Prop :=
  given = some (.boolean b) ∨ given = none ∧ b = false

/-- A list, which may be left out if it is empty. -/
def IsList (writes : α → Value → Prop) (as : List α) (given : Option Value) : Prop :=
  (∃ items, given = some (.array items) ∧ List.Forall₂ (fun v a => writes a v) items as) ∨
    given = none ∧ as = []

/-- Keys other than the known ones have values of a certain kind. -/
def OthersAre (allowed : Value → Prop) (known : List String) (entries : Entries) : Prop :=
  ∀ entry ∈ entries, entry.1 ∉ known → allowed entry.2

instance {allowed : Value → Prop} [DecidablePred allowed] {known : List String}
    {entries : Entries} : Decidable (OthersAre allowed known entries) :=
  inferInstanceAs (Decidable (∀ entry ∈ entries, entry.1 ∉ known → allowed entry.2))

theorem IsList.imp {writes stands : α → Value → Prop} {as : List α} {given : Option Value}
    (h : IsList writes as given)
    (imp : ∀ items, given = some (.array items) → ∀ v ∈ items, ∀ a, writes a v → stands a v) :
    IsList stands as given := by
  rcases h with ⟨items, isGiven, written⟩ | absent
  · have both := (List.forall₂_and_left items as).mpr ⟨imp items isGiven, written⟩
    exact .inl ⟨items, isGiven, both.imp fun _ a h => h.1 a h.2⟩
  · exact .inr absent

/-! ### Records -/

namespace Record

variable {name : String} {decoder : Decoder α} {fallback : α} {given : String → Option Value}

/-- The names of the keys that a record has. -/
def names (record : Record α) : List String :=
  record.keys.map (·.name)

theorem build_required_eq_ok_iff {a : α} :
    (required name decoder).build given = .ok a ↔ ∃ v, given name = some v ∧ decoder v = .ok a := by
  unfold required
  dsimp only
  cases given name <;> simp

theorem build_optional_eq_ok_iff {a : α} :
    (Record.optional name decoder fallback).build given = .ok a ↔
      given name = none ∧ a = fallback ∨ ∃ v, given name = some v ∧ decoder v = .ok a := by
  unfold Record.optional
  dsimp only
  cases given name <;> simp [@eq_comm _ fallback]

/-- A key with a default gives what is written, or else the default. -/
theorem build_optional_of_rel {writes : α → Value → Prop} {a? : Option α}
    (decodes : ∀ {a v}, writes a v → decoder v = .ok a) (h : Option.Rel writes a? (given name)) :
    (Record.optional name decoder fallback).build given = .ok (a?.getD fallback) := by
  rw [build_optional_eq_ok_iff]
  generalize given name = v? at h ⊢
  cases h with
  | none => exact .inl ⟨rfl, rfl⟩
  | some written => exact .inr ⟨_, rfl, decodes written⟩

theorem build_optional_of_map {write : α → Value} {a? : Option α}
    (decodes : ∀ {a}, decoder (write a) = .ok a) (h : given name = a?.map write) :
    (Record.optional name decoder fallback).build given = .ok (a?.getD fallback) := by
  rw [build_optional_eq_ok_iff, h]
  cases a? with
  | none => exact .inl ⟨rfl, rfl⟩
  | some a => exact .inr ⟨_, rfl, decodes⟩

theorem build_text_eq_ok_iff {text : String} :
    (required name Decoder.text).build given = .ok text ↔ given name = some (.string text) := by
  rw [build_required_eq_ok_iff]
  simp only [Decoder.text, Decoder.textAs_eq_ok_iff, exists_eq_right]

theorem build_flag_eq_ok_iff {b : Bool} :
    (Record.optional name Decoder.flag false).build given = .ok b ↔ IsFlag b (given name) := by
  rw [build_optional_eq_ok_iff, IsFlag, or_comm]
  simp only [Decoder.flag_eq_ok_iff, exists_eq_right]

theorem build_choice_eq_ok_iff {choices : List (String × α)} {spelling : α → String} {a : α}
    (spelled : ∀ {name a}, chosen choices name = .ok a ↔ name = spelling a) :
    (required name (.choice choices)).build given = .ok a ↔
      ∃ v, given name = some v ∧ IsChoice spelling a v := by
  simp only [build_required_eq_ok_iff, Decoder.choice_eq_ok_iff spelled]

theorem build_seq_eq_ok_iff {f : Record (α → β)} {x : Record α} {b : β} :
    (f <*> x).build given = .ok b ↔
      ∃ g a, f.build given = .ok g ∧ x.build given = .ok a ∧ g a = b := by
  show (f.build given >>= fun g => (x.build given).map g) = .ok b ↔ _
  simp only [bind_eq_ok_iff, map_eq_ok_iff, exists_and_left]

theorem build_map_eq_ok_iff {g : α → β} {x : Record α} {b : β} :
    (g <$> x).build given = .ok b ↔ ∃ a, x.build given = .ok a ∧ g a = b := by
  show (.ok g >>= fun g => (x.build given).map g : Except Fault β) = .ok b ↔ _
  simp only [bind_eq_ok_iff, map_eq_ok_iff, Except.ok.injEq, exists_eq_left']

theorem build_seq {f : Record (α → β)} {x : Record α} {g : α → β} {a : α}
    (first : f.build given = .ok g) (second : x.build given = .ok a) :
    (f <*> x).build given = .ok (g a) :=
  build_seq_eq_ok_iff.mpr ⟨g, a, first, second, rfl⟩

theorem build_map {x : Record α} (g : α → β) {a : α} (h : x.build given = .ok a) :
    (g <$> x).build given = .ok (g a) :=
  build_map_eq_ok_iff.mpr ⟨a, h, rfl⟩

/-! ### Checks -/

/-- A record that can be put together has passed the checks of its keys. -/
def Sound (record : Record α) : Prop :=
  ∀ given a, record.build given = .ok a →
    ∀ key ∈ record.keys, ∀ v, given key.name = some v → key.check v = .ok ()

theorem check_eq_ok_iff {v : Value} : Decoder.check decoder v = .ok () ↔ ∃ a, decoder v = .ok a := by
  rw [Decoder.check, bind_eq_ok_iff]
  exact exists_congr fun _ => and_iff_left rfl

theorem sound_required : (required name decoder).Sound := by
  intro given a built key mem v isGiven
  obtain rfl := List.mem_singleton.mp mem
  obtain ⟨w, isGiven', decodes⟩ := build_required_eq_ok_iff.mp built
  obtain rfl : v = w := Option.some.inj (isGiven.symm.trans isGiven')
  exact check_eq_ok_iff.mpr ⟨a, decodes⟩

theorem sound_optional : (Record.optional name decoder fallback).Sound := by
  intro given a built key mem v isGiven
  obtain rfl := List.mem_singleton.mp mem
  rcases build_optional_eq_ok_iff.mp built with ⟨absent, -⟩ | ⟨w, isGiven', decodes⟩
  · rw [absent] at isGiven
    cases isGiven
  · obtain rfl : v = w := Option.some.inj (isGiven.symm.trans isGiven')
    exact check_eq_ok_iff.mpr ⟨a, decodes⟩

theorem Sound.seq {f : Record (α → β)} {x : Record α} (hf : f.Sound) (hx : x.Sound) :
    (f <*> x).Sound := by
  intro given b built key mem
  obtain ⟨g, a, first, second, -⟩ := build_seq_eq_ok_iff.mp built
  rcases List.mem_append.mp mem with mem | mem
  · exact hf given g first key mem
  · exact hx given a second key mem

theorem Sound.map {g : α → β} {x : Record α} (hx : x.Sound) : (g <$> x).Sound := by
  intro given b built key mem
  obtain ⟨a, isBuilt, -⟩ := build_map_eq_ok_iff.mp built
  exact hx given a isBuilt key mem

/-! ### Tables and arrays -/

theorem checkEntry_eq_ok_iff {keys : List Key} {v : Value} :
    checkEntry keys name v = .ok () ↔
      (∀ key, keys.find? (·.name = name) = some key → key.check v = .ok ()) ∧
        (name ∉ keys.map (·.name) → v.NumbersFit) := by
  unfold checkEntry
  split
  · rename_i key found
    have named : name ∈ keys.map (·.name) :=
      List.mem_map.mpr ⟨key, List.mem_of_find?_eq_some found, by
        simpa using List.find?_some found⟩
    simp [found, named]
  · rename_i missing
    have unnamed : name ∉ keys.map (·.name) := by simpa using missing
    rw [← Value.unfit?_eq_none_iff]
    cases v.unfit? <;> simp [missing, unnamed, pure, Except.pure]

/-- A table gives a record if its keys do and no number in the other keys is too large. -/
theorem ofTable_eq_ok_iff {record : Record α} {entries : Entries} {a : α} (sound : record.Sound)
    (nodup : (entries.map Prod.fst).Nodup) :
    record.ofTable entries = .ok a ↔
      record.build (fun name => entries.lookup name) = .ok a ∧
        ∀ entry ∈ entries, entry.1 ∉ record.names → entry.2.NumbersFit := by
  unfold ofTable
  rw [bind_eq_ok_iff]
  constructor
  · rintro ⟨_, checked, built⟩
    have each := forM_eq_ok_iff.mp checked
    exact ⟨built, fun entry mem => (checkEntry_eq_ok_iff.mp (each entry mem)).2⟩
  · rintro ⟨built, fit⟩
    refine ⟨(), forM_eq_ok_iff.mpr fun entry mem => ?_, built⟩
    refine checkEntry_eq_ok_iff.mpr ⟨fun key found => ?_, fit entry mem⟩
    have named : key.name = entry.1 := by simpa using List.find?_some found
    have isGiven : entries.lookup key.name = some entry.2 :=
      named ▸ (lookup_eq_some_iff nodup).mpr mem
    exact sound _ a built key (List.mem_of_find?_eq_some found) _ isGiven

end Record

/-- What a value gives to a key: a table by its name, an array by its place among the keys. -/
def Value.given (keys : List String) (v : Value) (name : String) : Option Value :=
  match v with
  | .table entries => entries.lookup name
  | .array items => (keys.zip items).lookup name
  | _ => none

/-- In whatever form it is written, a record is put together from what is given to its keys. -/
theorem Record.build_of_record {title : String} {record : Record α} {v : Value} {a : α}
    (h : Decoder.record title record v = .ok a) : record.build (v.given record.names) = .ok a := by
  unfold Decoder.record at h
  split at h
  · obtain ⟨_, -, built⟩ := bind_eq_ok_iff.mp h
    exact built
  · obtain ⟨_, -, built⟩ := bind_eq_ok_iff.mp h
    split at built
    · cases built
    · exact built
  · obtain ⟨_, -, built⟩ := bind_eq_ok_iff.mp h
    exact built
  · exact absurd h mismatch_ne_ok

end SchemaTypes.Toml
