import SchemaTypes.Proofs.Schema.Registration

/-!
What a sequence of registrations comes to.

A draft that refuses a collection stays as it was (`Draft.eq_of_add_eq_some`), so after any calls it
is the draft of those that succeeded (`Draft.after_accepted`). Registration keeps the tables in step
with the list (`Draft.Sound.after`), and what is said to one more collection can be told from the
list alone: `Draft.Verdict` is the rule, and `Draft.Sound.add_eq_iff` says that registration follows
it. `Draft.history_spec` puts this together for a draft that begins without collections.
-/

namespace SchemaTypes

/-! ### Repeated members -/

/-- The first name that repeats an earlier one. -/
theorem firstRepeat_eq_some_iff {seen names : List String} {name : String} :
    firstRepeat seen names = some name ↔
      ∃ before after, names = before ++ name :: after ∧ before.Nodup ∧ (∀ n ∈ before, n ∉ seen) ∧
        (name ∈ seen ∨ name ∈ before) := by
  induction names generalizing seen with
  | nil => simp [firstRepeat]
  | cons first rest ih =>
    unfold firstRepeat
    by_cases mem : first ∈ seen
    · rw [if_pos (by simpa using mem), Option.some.injEq]
      constructor
      · rintro rfl
        exact ⟨[], rest, rfl, .nil, by simp, .inl mem⟩
      · rintro ⟨_ | ⟨other, before⟩, after, split, -, fresh, -⟩
        · exact (List.cons.inj split).1
        · exact absurd mem ((List.cons.inj split).1 ▸ fresh other List.mem_cons_self)
    · rw [if_neg (by simpa using mem), ih]
      constructor
      · rintro ⟨before, after, rfl, nodup, fresh, repeats⟩
        have new : first ∉ before := fun h => fresh first h List.mem_cons_self
        refine ⟨first :: before, after, rfl, List.nodup_cons.mpr ⟨new, nodup⟩, ?_, ?_⟩
        · refine List.forall_mem_cons.mpr ⟨mem, fun n isBefore => ?_⟩
          exact fun seenBefore => fresh n isBefore (List.mem_cons_of_mem _ seenBefore)
        · simpa [or_comm, or_assoc, or_left_comm] using repeats
      · rintro ⟨_ | ⟨other, before⟩, after, split, nodup, fresh, repeats⟩
        · obtain ⟨rfl, rfl⟩ := List.cons.inj split
          simp [mem] at repeats
        · obtain ⟨rfl, rfl⟩ := List.cons.inj split
          obtain ⟨new, nodup⟩ := List.nodup_cons.mp nodup
          refine ⟨before, after, rfl, nodup, fun n isBefore => ?_, ?_⟩
          · rw [List.mem_cons, not_or]
            refine ⟨?_, fresh n (List.mem_cons_of_mem _ isBefore)⟩
            rintro rfl
            exact new isBefore
          · simpa [or_comm, or_assoc, or_left_comm] using repeats

namespace Draft

/-! ### One call -/

/-- What a draft says to one more collection, with the draft afterwards. A name that is registered
counts before a type name that is, and this before a member that repeats. -/
inductive Verdict (d : Draft) (owner : String) (c : Collection) :
    Draft → Option SchemaFault → Prop where
  | nameTaken {r : Registration} : r ∈ d.entries → r.collection.name = c.name →
      Verdict d owner c d (some (.duplicateCollection c.name owner r.owner))
  | typeNameTaken {r : Registration} : (∀ q ∈ d.entries, q.collection.name ≠ c.name) →
      r ∈ d.entries → r.collection.typeName = c.typeName →
      Verdict d owner c d (some (.duplicateTypeName c.typeName c.name r.collection.name))
  | memberRepeats {before after : List String} {member : String} :
      (∀ q ∈ d.entries, q.collection.name ≠ c.name) →
      (∀ q ∈ d.entries, q.collection.typeName ≠ c.typeName) →
      c.members = before ++ member :: after → before.Nodup → member ∈ before →
      Verdict d owner c d (some (.duplicateMember c.name member))
  | accepted : (∀ q ∈ d.entries, q.collection.name ≠ c.name) →
      (∀ q ∈ d.entries, q.collection.typeName ≠ c.typeName) → c.members.Nodup →
      Verdict d owner c (d.push ⟨owner, c⟩) none

variable {d next : Draft} {owner : String} {c : Collection} {fault : SchemaFault}
  {calls : List Registration}

/-- A draft that refuses a collection stays as it was. -/
theorem eq_of_add_eq_some (h : d.add owner c = (next, some fault)) : next = d := by
  unfold add at h
  split at h <;> cases h
  rfl

/-- A draft that accepts a collection puts it behind the others. -/
theorem eq_push_of_add_eq_none (h : d.add owner c = (next, none)) : next = d.push ⟨owner, c⟩ := by
  unfold add at h
  split at h <;> cases h
  rfl

namespace Sound

theorem named?_eq_none_iff_forall (h : d.Sound) {name : String} :
    d.named? name = none ↔ ∀ q ∈ d.entries, q.collection.name ≠ name := by
  rw [h.named?_eq_none_iff, map_name_collections]
  simp

theorem typed?_eq_none_iff_forall (h : d.Sound) {typeName : String} :
    d.typed? typeName = none ↔ ∀ q ∈ d.entries, q.collection.typeName ≠ typeName := by
  rw [h.typed?_eq_none_iff, map_typeName_collections]
  simp

/-- What is said to a collection follows from the list of those that are registered. -/
theorem verdict_add (h : d.Sound) (owner : String) (c : Collection) :
    d.Verdict owner c (d.add owner c).1 (d.add owner c).2 := by
  unfold Draft.add objection?
  cases named : d.named? c.name with
  | some existing =>
    obtain ⟨mem, eq⟩ := h.named?_eq_some_iff.mp named
    exact .nameTaken mem eq
  | none =>
    have newName := h.named?_eq_none_iff_forall.mp named
    cases typed : d.typed? c.typeName with
    | some existing =>
      obtain ⟨mem, eq⟩ := h.typed?_eq_some_iff.mp typed
      exact .typeNameTaken newName mem eq
    | none =>
      have newType := h.typed?_eq_none_iff_forall.mp typed
      cases repeated : firstRepeat [] c.members with
      | some member =>
        obtain ⟨before, after, split, nodup, -, mem⟩ := firstRepeat_eq_some_iff.mp repeated
        exact .memberRepeats newName newType split nodup (mem.resolve_left List.not_mem_nil)
      | none => exact .accepted newName newType (firstRepeat_eq_none_iff.mp repeated).1

/-- Registration follows the rule, and the rule says one thing to each collection. -/
theorem add_eq_iff (h : d.Sound) {outcome : Option SchemaFault} :
    d.add owner c = (next, outcome) ↔ d.Verdict owner c next outcome := by
  constructor
  · intro added
    have verdict := h.verdict_add owner c
    rwa [added] at verdict
  · intro verdict
    unfold Draft.add objection?
    cases verdict with
    | nameTaken mem eq => rw [h.named?_eq_some_iff.mpr ⟨mem, eq⟩]
    | typeNameTaken newName mem eq =>
      rw [h.named?_eq_none_iff_forall.mpr newName, h.typed?_eq_some_iff.mpr ⟨mem, eq⟩]
    | memberRepeats newName newType split nodup mem =>
      have repeated := firstRepeat_eq_some_iff.mpr
        ⟨_, _, split, nodup, fun _ _ => List.not_mem_nil, .inr mem⟩
      rw [h.named?_eq_none_iff_forall.mpr newName, h.typed?_eq_none_iff_forall.mpr newType,
        repeated]
      rfl
    | accepted newName newType nodup =>
      have once := firstRepeat_eq_none_iff.mpr ⟨nodup, fun _ _ => List.not_mem_nil⟩
      rw [h.named?_eq_none_iff_forall.mpr newName, h.typed?_eq_none_iff_forall.mpr newType, once]
      rfl

/-- A draft refuses a collection that has its type name, and not its name, in common with one that
is registered. -/
theorem add_of_typeName_eq (h : d.Sound) {r : Registration} (registered : r ∈ d.entries)
    (typeName : r.collection.typeName = c.typeName) (differ : c.name ≠ r.collection.name)
    (owner : String) :
    d.add owner c = (d, some (.duplicateTypeName c.typeName c.name r.collection.name)) := by
  refine h.add_eq_iff.mpr (.typeNameTaken ?_ registered typeName)
  intro q isEntry sameName
  have sameType : q.collection.typeName = r.collection.typeName := by
    rw [typeName, Collection.typeName, Collection.typeName, sameName]
  have same : q = r :=
    List.inj_on_of_nodup_map h.typeNames.nodup isEntry registered sameType
  exact differ (same ▸ sameName.symm)

/-- Whatever is said, the tables stay in step with the list. -/
theorem add (h : d.Sound) (owner : String) (c : Collection) : (d.add owner c).1.Sound := by
  rcases added : d.add owner c with ⟨next, _ | fault⟩
  · obtain ⟨fits, rfl⟩ := h.add_eq_none_iff.mp added
    exact h.push fits
  · rw [eq_of_add_eq_some added]
    exact h

end Sound

/-! ### Many calls -/

/-- The draft after some calls, whether they succeed or not. -/
def after (d : Draft) : List Registration → Draft
  | [] => d
  | r :: rest => (d.add r.owner r.collection).1.after rest

/-- Of some calls those that succeed, when they are made one after the other. -/
def accepted (d : Draft) : List Registration → List Registration
  | [] => []
  | r :: rest =>
    match d.add r.owner r.collection with
    | (next, none) => r :: next.accepted rest
    | (next, some _) => next.accepted rest

theorem Sound.after (h : d.Sound) : (d.after calls).Sound := by
  induction calls generalizing d with
  | nil => exact h
  | cons r rest ih => exact ih (h.add r.owner r.collection)

/-- Calls that are refused make no difference: those that succeeded lead to the same draft without
them, and all succeed again. -/
theorem after_accepted (d : Draft) (calls : List Registration) :
    d.after (d.accepted calls) = d.after calls ∧
      d.accepted (d.accepted calls) = d.accepted calls := by
  induction calls generalizing d with
  | nil => exact ⟨rfl, rfl⟩
  | cons r rest ih =>
    rcases added : d.add r.owner r.collection with ⟨next, _ | fault⟩
    · simpa only [after, accepted, added, List.cons.injEq, true_and] using ih next
    · obtain rfl := eq_of_add_eq_some added
      simpa only [after, accepted, added] using ih next

/-- What was accepted stands in the list, in the order of the calls. -/
theorem entries_after (d : Draft) (calls : List Registration) :
    (d.after calls).entries = d.entries ++ d.accepted calls := by
  induction calls generalizing d with
  | nil => simp [after, accepted]
  | cons r rest ih =>
    rcases added : d.add r.owner r.collection with ⟨next, _ | fault⟩
    · obtain rfl := eq_push_of_add_eq_none added
      simp only [after, accepted, added, ih, entries_push, List.append_assoc,
        List.singleton_append]
    · obtain rfl := eq_of_add_eq_some added
      simp only [after, accepted, added, ih]

theorem Sound.lookup_index_iff (h : d.Sound) {name : String} {i : Nat} :
    d.index.lookup name = some i ↔ ∃ r, d.entries[i]? = some r ∧ r.collection.name = name := by
  rw [h.index name i, List.getElem?_map, Option.map_eq_some_iff]

theorem Sound.lookup_typeNames_iff (h : d.Sound) {typeName : String} {i : Nat} :
    d.typeNames.lookup typeName = some i ↔
      ∃ r, d.entries[i]? = some r ∧ r.collection.typeName = typeName := by
  rw [h.typeNames typeName i, List.getElem?_map, Option.map_eq_some_iff]

/-- After any calls, of which some succeed and some fail, a draft is as if only those had been made
that succeeded. These are its entries, in the order of the calls. The tables map exactly the names
and the type names of the entries to their positions; no two entries share a name or a type name,
and none has a member twice. One more call is answered as the entries decide. -/
theorem history_spec (calls : List Registration) :
    let d := empty.after calls
    let kept := empty.accepted calls
    (empty.after kept = d ∧ empty.accepted kept = kept) ∧
      (d.entries = kept ∧ d.size = kept.length) ∧
      (∀ name i, d.index.lookup name = some i ↔
        ∃ r, d.entries[i]? = some r ∧ r.collection.name = name) ∧
      (∀ typeName i, d.typeNames.lookup typeName = some i ↔
        ∃ r, d.entries[i]? = some r ∧ r.collection.typeName = typeName) ∧
      (d.entries.map (·.collection.name)).Nodup ∧
      (d.entries.map (·.collection.typeName)).Nodup ∧
      (∀ r ∈ d.entries, r.collection.members.Nodup) ∧
      ∀ owner c next outcome,
        d.add owner c = (next, outcome) ↔ d.Verdict owner c next outcome := by
  intro d kept
  have sound : d.Sound := sound_empty.after
  have entries : d.entries = kept := entries_after empty calls
  refine ⟨after_accepted empty calls, ⟨entries, congrArg List.length entries⟩,
    fun _ _ => sound.lookup_index_iff, fun _ _ => sound.lookup_typeNames_iff, sound.index.nodup,
    sound.typeNames.nodup, fun r mem => ?_, fun _ _ _ _ => sound.add_eq_iff⟩
  exact sound.members r.collection (List.mem_map_of_mem mem)

/-- A collection that is refused does not take its name. -/
example :
    let broken : Collection := ⟨"user", none, [⟨"id", .int, false, none⟩], [], []⟩
    let mended : Collection := ⟨"user", none, [⟨"age", .int, false, none⟩], [], []⟩
    empty.accepted [⟨"M", broken⟩, ⟨"N", mended⟩] = [⟨"N", mended⟩] := by
  decide +kernel

end Draft

end SchemaTypes
