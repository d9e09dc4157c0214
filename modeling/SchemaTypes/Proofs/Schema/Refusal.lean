import SchemaTypes.Proofs.Schema.History

/-!
What a refused module leaves behind.

There are two ways to refuse a module (`Assembly.Verdict`). If its name is taken, the assembly stays
as it was. If one of its collections is refused, the name stays taken and the collections before
that one stay registered, although the module is not listed (`Assembly.Remains`). No later call
clears this away (`Assembly.Remains.after`): the module cannot be added in a corrected form, and
the catalog in the end holds collections that no listed module declares. `Assembly.refusal_spec`
tells the two ways apart, and what a storage holds after any calls.
-/

namespace SchemaTypes

/-- When a collection of a module is refused, those before it have been registered, and it is
refused for the reason that the draft has by then. -/
theorem Draft.Sound.exists_of_registerAll_eq_some {d next : Draft} {owner : String}
    {cs : List Collection} {fault : SchemaFault} (h : d.Sound)
    (refused : d.registerAll owner cs = (next, some fault)) :
    ∃ before c rest, cs = before ++ c :: rest ∧ Compatible (d.collections ++ before) ∧
      next = d.append (before.map (⟨owner, ·⟩)) ∧ next.Verdict owner c next (some fault) := by
  induction cs generalizing d with
  | nil => cases refused
  | cons first others ih =>
    unfold registerAll at refused
    rcases added : d.add owner first with ⟨middle, _ | cause⟩
    · obtain ⟨fits, rfl⟩ := h.add_eq_none_iff.mp added
      rw [added] at refused
      obtain ⟨before, c, rest, rfl, compatible, rfl, verdict⟩ := ih (h.push fits) refused
      refine ⟨first :: before, c, rest, rfl, ?_, rfl, verdict⟩
      rwa [collections_push, List.append_assoc] at compatible
    · rw [added] at refused
      obtain ⟨rfl, rfl⟩ : middle = next ∧ cause = fault := by simpa using refused
      obtain rfl := eq_of_add_eq_some added
      exact ⟨[], first, others, rfl, by simpa using h.compatible, rfl, h.add_eq_iff.mp added⟩

/-- Collections that go to one owner leave those of every other owner alone. -/
theorem Draft.filter_owner_append (d : Draft) (owner : String) (cs : List Collection)
    (p : String → Bool) :
    (d.append (cs.map (⟨owner, ·⟩))).entries.filter (fun r => p r.owner) =
      d.entries.filter (fun r => p r.owner) ++ if p owner then cs.map (⟨owner, ·⟩) else [] := by
  rw [entries_append, List.filter_append, List.append_cancel_left_eq]
  split
  · rename_i chosen
    exact List.filter_eq_self.mpr (by simp [chosen])
  · rename_i notChosen
    exact List.filter_eq_nil_iff.mpr (by simp [notChosen])

namespace Assembly

/-! ### One call -/

/-- What an assembly says to one more module, with the assembly afterwards. A name that is taken
counts before the collections, and of these the first that is refused. -/
inductive Verdict (a : Assembly) (m : Module) : Assembly → Option SchemaFault → Prop where
  | nameTaken : m.name ∈ a.names → Verdict a m a (some (.duplicateModuleName m.name))
  | collectionRefused {before rest : List Collection} {c : Collection} {draft : Draft}
      {fault : SchemaFault} :
      m.name ∉ a.names → m.collections = before ++ c :: rest →
      Compatible (a.draft.collections ++ before) →
      draft = a.draft.append (before.map (⟨m.name, ·⟩)) →
      draft.Verdict m.name c draft (some fault) →
      Verdict a m { a with names := a.names ++ [m.name], draft } (some fault)
  | accepted : m.name ∉ a.names → Compatible (a.draft.collections ++ m.collections) →
      Verdict a m ⟨a.backend, a.names ++ [m.name], a.modules ++ [m],
        a.draft.append m.registrations⟩ none

variable {a next : Assembly} {m : Module} {name : String} {fault : SchemaFault}
  {outcome : Option SchemaFault}

/-- An assembly does with a module what the rule says. -/
theorem verdict_of_add (sound : a.draft.Sound) (added : a.add m = (next, outcome)) :
    a.Verdict m next outcome := by
  cases outcome with
  | none =>
    obtain ⟨fresh, fits, rfl⟩ := (add_eq_none_iff sound).mp added
    exact .accepted fresh fits
  | some fault =>
    unfold add at added
    split at added
    · rename_i taken
      cases added
      exact .nameTaken (by simpa using taken)
    · rename_i fresh
      split at added <;> cases added
      rename_i refused
      obtain ⟨before, c, rest, split, fits, draft, verdict⟩ :=
        sound.exists_of_registerAll_eq_some refused
      exact .collectionRefused (by simpa using fresh) split fits draft verdict

/-- A module whose name is taken makes no difference. -/
theorem add_of_mem (taken : m.name ∈ a.names) :
    a.add m = (a, some (.duplicateModuleName m.name)) := by
  rw [add, if_pos (by simpa using taken)]

/-! ### What assemblies keep -/

/-- The names of listed modules and of owners are taken, and of the registered collections those
that listed modules own are the ones that these declare. -/
structure Sound (a : Assembly) : Prop where
  draft : a.draft.Sound
  modules : ∀ n ∈ a.modules, n.name ∈ a.names
  owners : ∀ r ∈ a.draft.entries, r.owner ∈ a.names
  listed : a.draft.entries.filter (·.owner ∈ a.modules.map (·.name)) = registrationsOf a.modules

/-- What is left under the name of a module that was refused: the name is taken, no listed module
has it, and these collections are registered with it. -/
structure Remains (a : Assembly) (name : String) (left : List Collection) : Prop where
  taken : name ∈ a.names
  unlisted : ∀ n ∈ a.modules, n.name ≠ name
  owned : a.draft.entries.filter (·.owner = name) = left.map (⟨name, ·⟩)

theorem sound_empty (backend : Backend) : (empty backend).Sound :=
  ⟨Draft.sound_empty, nofun, nofun, rfl⟩

variable {cs left : List Collection}

namespace Sound

theorem notMem_listed (h : a.Sound) (fresh : name ∉ a.names) : name ∉ a.modules.map (·.name) := by
  intro mem
  obtain ⟨n, isListed, rfl⟩ := List.mem_map.mp mem
  exact fresh (h.modules n isListed)

/-- Nothing is registered under a name that is not taken. -/
theorem filter_owner_eq_nil (h : a.Sound) (fresh : name ∉ a.names) :
    a.draft.entries.filter (·.owner = name) = [] := by
  refine List.filter_eq_nil_iff.mpr fun r mem => ?_
  rw [decide_eq_true_eq]
  rintro rfl
  exact fresh (h.owners r mem)

/-- Collections that fit can be registered under a name that is not taken, whether or not a module
of this name is listed with them. -/
theorem append (h : a.Sound) (fits : Compatible (a.draft.collections ++ cs))
    {modules : List Module} (mem : ∀ n ∈ modules, n.name ∈ a.names ∨ n.name = name)
    (listed : a.draft.entries.filter (·.owner ∈ modules.map (·.name)) ++
        (if name ∈ modules.map (·.name) then cs.map (⟨name, ·⟩) else []) =
      registrationsOf modules) :
    Sound ⟨a.backend, a.names ++ [name], modules, a.draft.append (cs.map (⟨name, ·⟩))⟩ where
  draft := h.draft.append (by simpa [Function.comp_def] using fits)
  modules n isListed := by simpa using mem n isListed
  owners r isEntry := by
    rw [Draft.entries_append, List.mem_append, List.mem_map] at isEntry
    rw [List.mem_append, List.mem_singleton]
    rcases isEntry with isEntry | ⟨c, -, rfl⟩
    · exact .inl (h.owners r isEntry)
    · exact .inr rfl
  listed := by
    rw [← listed, a.draft.filter_owner_append name cs (· ∈ modules.map (·.name))]
    simp

/-- Whatever is said to a module, the collections of listed modules are those that are registered
under their names. -/
theorem add (h : a.Sound) (m : Module) : (a.add m).1.Sound := by
  rcases added : a.add m with ⟨next, outcome⟩
  cases verdict_of_add h.draft added with
  | nameTaken taken => exact h
  | collectionRefused fresh split fits isDraft refused =>
    subst isDraft
    refine h.append fits (fun n isListed => .inl (h.modules n isListed)) ?_
    rw [if_neg (h.notMem_listed fresh), h.listed, List.append_nil]
  | accepted fresh fits =>
    refine h.append fits (fun n isListed => ?_) ?_
    · rcases List.mem_append.mp isListed with isListed | isNew
      · exact .inl (h.modules n isListed)
      · exact .inr (by rw [List.mem_singleton.mp isNew])
    · -- No collection that was registered before has the new module for its owner.
      have others : ∀ r ∈ a.draft.entries,
          (r.owner ∈ (a.modules ++ [m]).map (·.name) ↔ r.owner ∈ a.modules.map (·.name)) := by
        intro r isEntry
        have : r.owner ≠ m.name := fun eq => fresh (eq ▸ h.owners r isEntry)
        simp [this]
      rw [List.filter_congr fun r isEntry => decide_eq_decide.mpr (others r isEntry), h.listed,
        if_pos (by simp)]
      simp [registrationsOf, Module.registrations]

/-- When modules cannot all be added, some have been, and the next one is refused. -/
theorem exists_of_addAll_eq_error (h : a.Sound) {modules : List Module}
    (failed : a.addAll modules = .error fault) :
    ∃ before m rest last next, modules = before ++ m :: rest ∧ a.addAll before = .ok last ∧
      last.Verdict m next (some fault) := by
  induction modules generalizing a with
  | nil => cases failed
  | cons m rest ih =>
    have nextSound := h.add m
    unfold addAll at failed
    rcases added : a.add m with ⟨next, _ | cause⟩
    · rw [added] at failed nextSound
      obtain ⟨before, n, others, last, final, rfl, joined, refused⟩ := ih nextSound failed
      refine ⟨m :: before, n, others, last, final, rfl, ?_, refused⟩
      rw [addAll, added]
      exact joined
    · rw [added] at failed
      obtain rfl := Except.error.inj failed
      exact ⟨[], m, rest, a, next, rfl, rfl, verdict_of_add h.draft added⟩

end Sound

namespace Remains

/-- Nothing is added under the name of a module that was refused, and what is left stays. -/
theorem add (h : a.Remains name left) (sound : a.Sound) (m : Module) :
    (a.add m).1.Remains name left := by
  rcases added : a.add m with ⟨next, outcome⟩
  have apart (fresh : m.name ∉ a.names) : m.name ≠ name := fun eq => fresh (eq ▸ h.taken)
  cases verdict_of_add sound.draft added with
  | nameTaken taken => exact h
  | collectionRefused fresh split fits isDraft refused =>
    subst isDraft
    refine ⟨List.mem_append_left _ h.taken, h.unlisted, ?_⟩
    rw [a.draft.filter_owner_append m.name _ (· = name), h.owned]
    simp [apart fresh]
  | accepted fresh fits =>
    refine ⟨List.mem_append_left _ h.taken, fun n isListed => ?_, ?_⟩
    · rcases List.mem_append.mp isListed with isListed | isNew
      · exact h.unlisted n isListed
      · rw [List.mem_singleton.mp isNew]
        exact apart fresh
    · rw [Module.registrations, a.draft.filter_owner_append m.name _ (· = name), h.owned]
      simp [apart fresh]

end Remains

/-! ### Many calls -/

/-- The assembly after some calls, whether they succeed or not. -/
def after (a : Assembly) : List Module → Assembly
  | [] => a
  | m :: rest => (a.add m).1.after rest

/-- What is said to each of some calls. -/
def answers (a : Assembly) : List Module → List (Option SchemaFault)
  | [] => []
  | m :: rest => (a.add m).2 :: (a.add m).1.answers rest

/-- All that can be learned from an assembly by some calls: what is said to each, and the storage in
the end. -/
def report (a : Assembly) (calls : List Module) :
    List (Option SchemaFault) × Except SchemaFault Storage :=
  (a.answers calls, (a.after calls).finish)

/-- Of some calls those that succeed, when they are made one after the other. -/
def accepted (a : Assembly) : List Module → List Module
  | [] => []
  | m :: rest =>
    match a.add m with
    | (next, none) => m :: next.accepted rest
    | (next, some _) => next.accepted rest

/-- Of some calls those that fail, when they are made one after the other. -/
def refused (a : Assembly) : List Module → List Module
  | [] => []
  | m :: rest =>
    match a.add m with
    | (next, none) => next.refused rest
    | (next, some _) => m :: next.refused rest

variable {calls : List Module}

theorem Sound.after (h : a.Sound) : (a.after calls).Sound := by
  induction calls generalizing a with
  | nil => exact h
  | cons m rest ih => exact ih (h.add m)

theorem Remains.after (h : a.Remains name left) (sound : a.Sound) :
    (a.after calls).Remains name left := by
  induction calls generalizing a with
  | nil => exact h
  | cons m rest ih => exact ih (h.add sound m) (sound.add m)

namespace Sound

/-- The modules that were accepted are listed, in the order of the calls. -/
theorem modules_after (h : a.Sound) : (a.after calls).modules = a.modules ++ a.accepted calls := by
  induction calls generalizing a with
  | nil => simp [Assembly.after, accepted]
  | cons m rest ih =>
    have step := ih (h.add m)
    rcases added : a.add m with ⟨next, outcome⟩
    rw [added] at step
    simp only [Assembly.after, accepted, added]
    cases verdict_of_add h.draft added <;> simpa using step

/-- A module adds no collections but its own. -/
theorem mem_entries_add (h : a.Sound) {r : Registration} (mem : r ∈ (a.add m).1.draft.entries) :
    r ∈ a.draft.entries ∨ r ∈ m.registrations := by
  rcases added : a.add m with ⟨next, outcome⟩
  rw [added] at mem
  cases verdict_of_add h.draft added with
  | nameTaken taken => exact .inl mem
  | collectionRefused fresh split fits isDraft refused =>
    rw [isDraft, Draft.entries_append] at mem
    refine (List.mem_append.mp mem).imp_right fun isNew => ?_
    rw [Module.registrations, split, List.map_append]
    exact List.mem_append_left _ isNew
  | accepted fresh fits => rwa [Draft.entries_append, List.mem_append] at mem

/-- Whatever gets registered belongs to a call that was accepted or to one that was refused. -/
theorem mem_entries_after (h : a.Sound) {r : Registration}
    (mem : r ∈ (a.after calls).draft.entries) :
    r ∈ a.draft.entries ∨ r ∈ registrationsOf (a.accepted calls) ∨
      r ∈ registrationsOf (a.refused calls) := by
  induction calls generalizing a with
  | nil => exact .inl mem
  | cons m rest ih =>
    have later := ih (h.add m) mem
    have earlier (old : r ∈ (a.add m).1.draft.entries) := h.mem_entries_add old
    rcases added : a.add m with ⟨next, _ | fault⟩ <;> rw [added] at later earlier <;>
      simp only [accepted, refused, added, registrationsOf_cons, List.mem_append]
    · rcases later with old | isAccepted | isRefused
      · exact (earlier old).imp_right fun own => .inl (.inl own)
      · exact .inr (.inl (.inr isAccepted))
      · exact .inr (.inr isRefused)
    · rcases later with old | isAccepted | isRefused
      · exact (earlier old).imp_right fun own => .inr (.inl own)
      · exact .inr (.inl isAccepted)
      · exact .inr (.inr (.inr isRefused))

/-- A module that is refused, although its name is not taken, is refused at one of its collections.
It is then as if a module with the collections before that one had been added, except that it is not
listed. -/
theorem exists_of_add_eq_some (h : a.Sound) (fresh : m.name ∉ a.names)
    (refused : a.add m = (next, some fault)) :
    ∃ before c rest, m.collections = before ++ c :: rest ∧
      a.add { m with collections := before } =
        ({ next with modules := next.modules ++ [{ m with collections := before }] }, none) ∧
      next.draft.Verdict m.name c next.draft (some fault) ∧ next.Remains m.name before := by
  cases verdict_of_add h.draft refused with
  | nameTaken taken => exact absurd taken fresh
  | @collectionRefused before rest c draft _ _ split fits isDraft because =>
    subst isDraft
    refine ⟨before, c, rest, split, ?_, because, ?_⟩
    · exact (add_eq_none_iff h.draft).mpr ⟨fresh, fits, rfl⟩
    · refine ⟨by simp, fun n isListed eq => fresh (eq ▸ h.modules n isListed), ?_⟩
      rw [a.draft.filter_owner_append m.name _ (· = m.name), h.filter_owner_eq_nil fresh]
      simp

/-- A refused module leaves no trace if its name was taken. Otherwise its name is taken now, which
the same name without collections brings to light. -/
theorem report_eq_iff (h : a.Sound) (refused : a.add m = (next, some fault)) :
    (∀ later, next.report later = a.report later) ↔ m.name ∈ a.names := by
  constructor
  · intro same
    by_contra fresh
    obtain ⟨_, _, _, _, _, _, remains⟩ := h.exists_of_add_eq_some fresh refused
    have joins : a.add ⟨m.name, []⟩ = _ :=
      (add_eq_none_iff h.draft).mpr ⟨fresh, by simpa using h.draft.compatible, rfl⟩
    have isRefused : next.add ⟨m.name, []⟩ = _ := add_of_mem remains.taken
    have := congrArg Prod.fst (same [⟨m.name, []⟩])
    simp [report, answers, joins, isRefused] at this
  · intro taken later
    rw [add_of_mem taken] at refused
    rw [(Prod.mk.inj refused).1]

end Sound

theorem finish_eq_ok_iff {storage : Storage} :
    a.finish = .ok storage ↔
      a.draft.looseEnd? = none ∧ storage = ⟨a.backend, a.modules, ⟨a.draft.entries⟩⟩ := by
  simp only [finish, map_eq_ok_iff, Draft.close_eq_ok_iff]
  constructor
  · rintro ⟨catalog, ⟨closed, rfl⟩, rfl⟩
    exact ⟨closed, rfl⟩
  · rintro ⟨closed, rfl⟩
    exact ⟨_, ⟨closed, rfl⟩, rfl⟩

/-- What a refused module leaves behind, after any calls of which some succeed and some fail.

It leaves no trace exactly if its name was taken, and then nothing changes at all. Otherwise it is
refused at one of its collections, and the assembly is as if it had been added with the collections
before that one, except that it is not listed; whatever is called later, its name stays taken and
these collections stay registered. A storage lists the modules that were accepted and holds exactly
their collections under their names; all else that it holds, refused modules have left. -/
theorem refusal_spec (backend : Backend) (calls : List Module) :
    let a := (empty backend).after calls
    (∀ m next fault, a.add m = (next, some fault) →
      ((∀ later, next.report later = a.report later) ↔ m.name ∈ a.names) ∧
        (m.name ∈ a.names → next = a ∧ fault = .duplicateModuleName m.name) ∧
        (m.name ∉ a.names → ∃ before c rest, m.collections = before ++ c :: rest ∧
          a.add { m with collections := before } =
            ({ next with modules := next.modules ++ [{ m with collections := before }] }, none) ∧
          next.draft.Verdict m.name c next.draft (some fault) ∧
          ∀ later, (next.after later).Remains m.name before ∧
            ∀ n, n.name = m.name →
              (next.after later).add n =
                (next.after later, some (.duplicateModuleName m.name)))) ∧
      ∀ storage, a.finish = .ok storage →
        storage.modules = (empty backend).accepted calls ∧
          storage.catalog.entries.filter (·.owner ∈ storage.modules.map (·.name)) =
            registrationsOf storage.modules ∧
          ∀ r ∈ storage.catalog.entries, r.owner ∉ storage.modules.map (·.name) →
            r ∈ registrationsOf ((empty backend).refused calls) := by
  intro a
  have sound : a.Sound := (sound_empty backend).after
  have listed : a.modules = (empty backend).accepted calls := (sound_empty backend).modules_after
  refine ⟨fun m next fault refused => ⟨sound.report_eq_iff refused, fun taken => ?_, ?_⟩, ?_⟩
  · rw [add_of_mem taken] at refused
    obtain ⟨rfl, rfl⟩ : a = next ∧ _ = fault := by simpa using refused
    exact ⟨rfl, rfl⟩
  · intro fresh
    obtain ⟨before, c, rest, split, accepted, verdict, remains⟩ :=
      sound.exists_of_add_eq_some fresh refused
    have nextSound : next.Sound := by simpa [refused] using sound.add m
    refine ⟨before, c, rest, split, accepted, verdict, fun later => ?_⟩
    have stays : (next.after later).Remains m.name before := remains.after nextSound
    exact ⟨stays, fun n sameName => sameName ▸ add_of_mem (sameName ▸ stays.taken)⟩
  · intro storage finished
    obtain ⟨-, rfl⟩ := finish_eq_ok_iff.mp finished
    refine ⟨listed, sound.listed, fun r isEntry unlisted => ?_⟩
    rcases (sound_empty backend).mem_entries_after isEntry with old | isAccepted | isRefused
    · cases old
    · obtain ⟨m, mem, -, owner⟩ := mem_registrationsOf_iff.mp isAccepted
      rw [← listed] at mem
      exact absurd (owner ▸ List.mem_map_of_mem mem) unlisted
    · exact isRefused

/-- A module declares a collection twice and is refused. Declared once, it is refused again, which
it would not be otherwise; and the storage lists no module, but holds the collection. -/
theorem refused_module_leaves_collection :
    let user : Collection := ⟨"user", none, [], [], []⟩
    let first : Module := ⟨"M", [user, user]⟩
    let second : Module := ⟨"M", [user]⟩
    let a := empty .memory
    let next := (a.add first).1
    (a.add first).2 = some (.duplicateCollection "user" "M" "M") ∧
      a.report [second] = ([none], .ok ⟨.memory, [second], ⟨[⟨"M", user⟩]⟩⟩) ∧
      next.report [second] =
        ([some (.duplicateModuleName "M")], .ok ⟨.memory, [], ⟨[⟨"M", user⟩]⟩⟩) := by
  decide +kernel

end Assembly

/-- When modules do not make a storage, one of them is refused after those before it were added, or
there is a loose end in what all of them declare. -/
theorem exists_of_ofModules_eq_error {backend : Backend} {modules : List Module}
    {fault : SchemaFault} (failed : Storage.ofModules backend modules = .error fault) :
    (∃ before m rest last next, modules = before ++ m :: rest ∧
        (Assembly.empty backend).addAll before = .ok last ∧ last.Verdict m next (some fault)) ∨
      ∃ last, (Assembly.empty backend).addAll modules = .ok last ∧
        last.draft.looseEnd? = some fault := by
  rcases bind_eq_error_iff.mp failed with refused | ⟨last, joined, unfinished⟩
  · exact .inl ((Assembly.sound_empty backend).exists_of_addAll_eq_error refused)
  · refine .inr ⟨last, joined, ?_⟩
    unfold Assembly.finish Draft.close at unfinished
    cases looseEnd : last.draft.looseEnd? with
    | none =>
      rw [looseEnd] at unfinished
      cases unfinished
    | some cause =>
      rw [looseEnd] at unfinished
      exact congrArg some (Except.error.inj unfinished)

end SchemaTypes
