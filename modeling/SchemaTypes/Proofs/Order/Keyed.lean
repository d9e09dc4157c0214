import Mathlib.Data.List.Induction
import Mathlib.Data.List.Nodup
import Mathlib.Data.List.Sort
import SchemaTypes.Order.Keyed

/-!
Look-up by a key that no two values share.

Where keys differ, a look-up has one possible answer (`find?_key_eq_some_iff`), so it does not
depend on the order of the values (`find?_key_perm`). Putting values in the order of their keys
loses none of them (`sortKeyed_perm`). Where a table tells the positions of keys (`Locates`), no two
values share a key, and a look-up by way of the table finds the value that has it
(`Locates.getElem?_eq_some_iff`).
-/

namespace SchemaTypes

/-- Keys still differ after one more value if its key is new. -/
theorem nodup_map_concat_iff {α κ : Type} {key : α → κ} {values : List α} {a : α} :
    ((values ++ [a]).map key).Nodup ↔ (values.map key).Nodup ∧ key a ∉ values.map key := by
  rw [List.map_append, List.map_singleton, List.nodup_append]
  constructor
  · rintro ⟨nodup, -, differ⟩
    exact ⟨nodup, fun mem => differ _ mem _ List.mem_cons_self rfl⟩
  · rintro ⟨nodup, fresh⟩
    refine ⟨nodup, List.nodup_singleton _, fun k mem j mem' eq => ?_⟩
    rw [List.mem_singleton.mp mem'] at eq
    exact fresh (eq ▸ mem)

/-- Of the values with a certain key there is a last one. -/
theorem exists_last_of_mem {α κ : Type} {key : α → κ} {values : List α} {k : κ}
    (h : k ∈ values.map key) :
    ∃ before a after, values = before ++ a :: after ∧ key a = k ∧ k ∉ after.map key := by
  induction values with
  | nil => cases h
  | cons b rest ih =>
    by_cases mem : k ∈ rest.map key
    · obtain ⟨before, a, after, rfl, eq, isLast⟩ := ih mem
      exact ⟨b :: before, a, after, rfl, eq, isLast⟩
    · rcases List.mem_cons.mp h with rfl | h
      · exact ⟨[], b, rest, rfl, rfl, mem⟩
      · exact absurd h mem

section Find

variable {α κ : Type} [DecidableEq κ] (key : α → κ) {values others : List α} {k : κ}

/-- Among values with different keys, the one found is the one that has the key. -/
theorem find?_key_eq_some_iff (nodup : (values.map key).Nodup) {a : α} :
    values.find? (key · = k) = some a ↔ a ∈ values ∧ key a = k := by
  induction values with
  | nil => simp
  | cons b rest ih =>
    obtain ⟨fresh, tail⟩ := List.nodup_cons.mp nodup
    by_cases h : key b = k
    · have alone : ∀ c ∈ rest, key c ≠ k := fun c mem eq =>
        fresh (h ▸ eq ▸ List.mem_map_of_mem mem)
      simp only [List.find?_cons, h, decide_true, Option.some.injEq, List.mem_cons]
      constructor
      · rintro rfl
        exact ⟨.inl rfl, h⟩
      · rintro ⟨rfl | mem, eq⟩
        · rfl
        · exact absurd eq (alone a mem)
    · simp only [List.find?_cons, h, decide_false, ih tail, List.mem_cons]
      constructor
      · rintro ⟨mem, eq⟩
        exact ⟨.inr mem, eq⟩
      · rintro ⟨rfl | mem, eq⟩
        · exact absurd eq h
        · exact ⟨mem, eq⟩

theorem find?_key_eq_none_iff : values.find? (key · = k) = none ↔ k ∉ values.map key := by
  simp

/-- A look-up by key does not depend on the order of the values. -/
theorem find?_key_perm (perm : values.Perm others) (nodup : (values.map key).Nodup) :
    values.find? (key · = k) = others.find? (key · = k) := by
  have othersNodup := (perm.map key).nodup_iff.mp nodup
  apply Option.ext
  intro a
  rw [find?_key_eq_some_iff key nodup, find?_key_eq_some_iff key othersNodup, perm.mem_iff]

end Find

/-- In an association list with different keys, looking up a key gives the value that goes with it.
-/
theorem lookup_eq_some_iff {κ β : Type} [BEq κ] [LawfulBEq κ] {entries : List (κ × β)}
    {k : κ} {b : β} (nodup : (entries.map Prod.fst).Nodup) :
    entries.lookup k = some b ↔ (k, b) ∈ entries := by
  induction entries with
  | nil => simp
  | cons entry rest ih =>
    obtain ⟨j, first⟩ := entry
    obtain ⟨fresh, tail⟩ := List.nodup_cons.mp nodup
    rw [List.lookup_cons, List.mem_cons, Prod.mk.injEq]
    by_cases h : k = j
    · subst h
      have alone : (k, b) ∉ rest := fun mem =>
        fresh (List.mem_map.mpr ⟨(k, b), mem, rfl⟩)
      simp [alone, eq_comm]
    · have differ : (k == j) = false := beq_false_of_ne h
      simp [h, differ, ih tail]

/-! ### Insertion -/

section Insert

variable {α : Type} {key : α → String} {a : α} {values : List α}

/-- A value with a new key joins the others. -/
theorem insertKeyed_perm (fresh : key a ∉ values.map key) :
    (insertKeyed key a values).Perm (a :: values) := by
  induction values with
  | nil => exact .refl _
  | cons b rest ih =>
    rw [List.map_cons, List.mem_cons, not_or] at fresh
    unfold insertKeyed
    split
    · exact .refl _
    · rw [if_neg fresh.1]
      exact ((ih fresh.2).cons b).trans (.swap a b rest)

theorem sortKeyed_concat (values : List α) (a : α) :
    sortKeyed key (values ++ [a]) = insertKeyed key a (sortKeyed key values) := by
  simp [sortKeyed]

/-- No value comes from nowhere. -/
theorem mem_of_mem_sortKeyed {x : α} (h : x ∈ sortKeyed key values) : x ∈ values := by
  induction values using List.reverseRecOn with
  | nil => exact h
  | append_singleton rest a ih =>
    rw [sortKeyed_concat] at h
    rcases mem_of_mem_insertKeyed h with rfl | h
    · exact List.mem_append_right _ List.mem_cons_self
    · exact List.mem_append_left _ (ih h)

theorem mem_keys_insertKeyed_iff {k : String} :
    k ∈ (insertKeyed key a values).map key ↔ k = key a ∨ k ∈ values.map key := by
  induction values with
  | nil => simp [insertKeyed]
  | cons b rest ih =>
    unfold insertKeyed
    split
    · simp
    · split
      · rename_i eq
        simp [eq]
      · rw [List.map_cons, List.mem_cons, ih, List.map_cons, List.mem_cons]
        exact or_left_comm

/-- No key is lost. -/
theorem mem_keys_sortKeyed_iff {k : String} :
    k ∈ (sortKeyed key values).map key ↔ k ∈ values.map key := by
  induction values using List.reverseRecOn with
  | nil => rfl
  | append_singleton rest a ih =>
    rw [sortKeyed_concat, mem_keys_insertKeyed_iff, ih, List.map_append, List.mem_append,
      List.map_singleton, List.mem_singleton]
    exact or_comm

/-- Values with different keys are all kept. -/
theorem sortKeyed_perm (nodup : (values.map key).Nodup) : (sortKeyed key values).Perm values := by
  induction values using List.reverseRecOn with
  | nil => exact .refl _
  | append_singleton rest a ih =>
    obtain ⟨restNodup, fresh⟩ := nodup_map_concat_iff.mp nodup
    have perm := ih restNodup
    have stillFresh : key a ∉ (sortKeyed key rest).map key := fun mem =>
      fresh ((perm.map key).mem_iff.mp mem)
    rw [sortKeyed_concat]
    exact (insertKeyed_perm stillFresh).trans
      ((perm.cons a).trans (List.perm_append_singleton a rest).symm)

/-- Values in the order of their keys are told by which they are. -/
theorem Ascending.eq_of_mem_iff {others : List α} (h : Ascending key values)
    (h' : Ascending key others) (same : ∀ a, a ∈ values ↔ a ∈ others) : values = others := by
  have irrefl : Std.Irrefl fun a b : α => key a < key b := ⟨fun a => String.lt_irrefl (key a)⟩
  have antisymm : Std.Antisymm fun a b : α => key a < key b :=
    ⟨fun a b less greater => absurd (String.lt_trans less greater) (String.lt_irrefl (key a))⟩
  exact List.Pairwise.eq_of_mem_iff h h' same

end Insert

section Map

variable {α β : Type} {key : β → String} (f : α → β)

theorem insertKeyed_map (a : α) (values : List α) :
    insertKeyed key (f a) (values.map f) = (insertKeyed (fun x => key (f x)) a values).map f := by
  induction values with
  | nil => rfl
  | cons b rest ih =>
    rw [List.map_cons, insertKeyed, insertKeyed, ih]
    split
    · rfl
    · split <;> rfl

/-- Values that are made of others are sorted as those are. -/
theorem sortKeyed_map (values : List α) :
    sortKeyed key (values.map f) = (sortKeyed (fun x => key (f x)) values).map f := by
  induction values using List.reverseRecOn with
  | nil => rfl
  | append_singleton rest a ih =>
    rw [List.map_append, List.map_singleton, sortKeyed_concat, ih, insertKeyed_map,
      sortKeyed_concat]

end Map

/-! ### Tables of positions -/

/-- A table tells at which positions of a list its members stand. -/
def Locates (table : List (String × Nat)) (keys : List String) : Prop :=
  ∀ key i, table.lookup key = some i ↔ keys[i]? = some key

namespace Locates

variable {table : List (String × Nat)} {keys : List String} {k : String}

theorem nil : Locates [] [] := by
  intro key i
  simp

/-- What stands at one position only occurs once. -/
theorem nodup (h : Locates table keys) : keys.Nodup := by
  refine List.nodup_iff_getElem?_ne_getElem?.mpr fun i j lt isLess eq => ?_
  have there := List.getElem?_eq_getElem isLess
  have first := (h _ i).mpr (eq.trans there)
  have second := (h _ j).mpr there
  rw [first, Option.some.injEq] at second
  exact absurd second (Nat.ne_of_lt lt)

theorem lookup_eq_none_iff (h : Locates table keys) : table.lookup k = none ↔ k ∉ keys := by
  rw [Option.eq_none_iff_forall_ne_some, List.mem_iff_getElem?, not_exists]
  exact forall_congr' fun i => not_congr (h k i)

/-- A new key goes behind the others. -/
theorem concat (h : Locates table keys) (fresh : k ∉ keys) :
    Locates (insertKeyed Prod.fst (k, keys.length) table) (keys ++ [k]) := by
  intro key i
  rw [lookup_insertKeyed, List.getElem?_append]
  split
  · rename_i eq
    subst eq
    split
    · rename_i inside
      have elsewhere : keys[i]? ≠ some key := fun eq => fresh (List.mem_of_getElem? eq)
      simp [elsewhere, Nat.ne_of_gt inside]
    · rename_i beyond
      rw [Option.some.injEq, List.getElem?_singleton]
      split <;> simp <;> omega
  · rename_i differs
    rw [h key i]
    split
    · rfl
    · rename_i beyond
      have outside : keys[i]? = none := List.getElem?_eq_none (Nat.not_lt.mp beyond)
      rw [outside, List.getElem?_singleton]
      split <;> simp [Ne.symm differs]

/-- By way of the table, the value is found that has the key. -/
theorem getElem?_eq_some_iff {α : Type} {key : α → String} {values : List α} {a : α}
    (h : Locates table (values.map key)) :
    (table.lookup k).bind (values[·]?) = some a ↔ a ∈ values ∧ key a = k := by
  rw [Option.bind_eq_some_iff]
  constructor
  · rintro ⟨i, located, found⟩
    rw [h k i, List.getElem?_map, found, Option.map_some, Option.some.injEq] at located
    exact ⟨List.mem_of_getElem? found, located⟩
  · rintro ⟨mem, rfl⟩
    obtain ⟨i, found⟩ := List.mem_iff_getElem?.mp mem
    refine ⟨i, (h _ i).mpr ?_, found⟩
    rw [List.getElem?_map, found, Option.map_some]

/-- By way of the table, nothing is found under a key that no value has. -/
theorem getElem?_eq_none_iff {α : Type} {key : α → String} {values : List α}
    (h : Locates table (values.map key)) :
    (table.lookup k).bind (values[·]?) = none ↔ k ∉ values.map key := by
  rw [Option.eq_none_iff_forall_ne_some]
  simp only [ne_eq, h.getElem?_eq_some_iff, not_and, List.mem_map, not_exists]

end Locates

end SchemaTypes
