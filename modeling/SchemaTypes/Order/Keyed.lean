/-!
Lists in the order of a key, each key once.
-/

namespace SchemaTypes

/-- Put a value in its place in the order of keys. It replaces one of the same key. -/
def insertKeyed {α : Type} (key : α → String) (a : α) : List α → List α
  | [] => [a]
  | b :: rest =>
    if key a < key b then a :: b :: rest
    else if key a = key b then a :: rest
    else b :: insertKeyed key a rest

/-- The values in the order of their keys; of several with one key, the last. -/
def sortKeyed {α : Type} (key : α → String) (values : List α) : List α :=
  values.foldl (fun sorted a => insertKeyed key a sorted) []

/-- The keys of a list rise strictly. -/
def Ascending {α : Type} (key : α → String) (values : List α) : Prop :=
  values.Pairwise fun a b => key a < key b

theorem mem_of_mem_insertKeyed {α : Type} {key : α → String} {a x : α} {values : List α}
    (h : x ∈ insertKeyed key a values) : x = a ∨ x ∈ values := by
  induction values with
  | nil => exact .inl (List.mem_singleton.mp h)
  | cons b rest ih =>
    unfold insertKeyed at h
    split at h
    · exact List.mem_cons.mp h
    · split at h
      · rcases List.mem_cons.mp h with rfl | h
        · exact .inl rfl
        · exact .inr (List.mem_cons_of_mem _ h)
      · rcases List.mem_cons.mp h with rfl | h
        · exact .inr List.mem_cons_self
        · exact (ih h).imp_right (List.mem_cons_of_mem _)

/-- Inserting keeps the order. -/
theorem Ascending.insertKeyed {α : Type} {key : α → String} {values : List α}
    (h : Ascending key values) (a : α) : Ascending key (insertKeyed key a values) := by
  induction values with
  | nil => exact List.pairwise_singleton _ _
  | cons b rest ih =>
    obtain ⟨below, tail⟩ := List.pairwise_cons.mp h
    unfold SchemaTypes.insertKeyed
    split
    · rename_i lt
      refine List.pairwise_cons.mpr ⟨fun x mem => ?_, h⟩
      rcases List.mem_cons.mp mem with rfl | mem
      · exact lt
      · exact String.lt_trans lt (below x mem)
    · split
      · rename_i eq
        exact List.pairwise_cons.mpr ⟨fun x mem => eq ▸ below x mem, tail⟩
      · rename_i notLt ne
        refine List.pairwise_cons.mpr ⟨fun x mem => ?_, ih tail⟩
        rcases mem_of_mem_insertKeyed mem with rfl | mem
        · exact Decidable.byContradiction fun h =>
            ne (String.le_antisymm (String.not_lt.mp h) (String.not_lt.mp notLt))
        · exact below x mem

/-- Sorting by a key gives a list in its order. -/
theorem ascending_sortKeyed {α : Type} (key : α → String) (values : List α) :
    Ascending key (sortKeyed key values) := by
  suffices ∀ sorted, Ascending key sorted →
      Ascending key (values.foldl (fun sorted a => insertKeyed key a sorted) sorted) from
    this [] .nil
  induction values with
  | nil => exact fun _ h => h
  | cons a rest ih => exact fun sorted h => ih _ (h.insertKeyed a)

/-! ### Association lists -/

theorem lookup_cons_eq {κ β : Type} [BEq κ] [LawfulBEq κ] [DecidableEq κ] (k j : κ) (b : β)
    (entries : List (κ × β)) :
    ((k, b) :: entries).lookup j = if j = k then some b else entries.lookup j := by
  by_cases h : j = k
  · simp [h]
  · simp [List.lookup_cons, beq_false_of_ne h, h]

/-- Inserting changes what is found under one key. -/
theorem lookup_insertKeyed {β : Type} {entries : List (String × β)} {k j : String} {b : β} :
    (insertKeyed Prod.fst (k, b) entries).lookup j =
      if j = k then some b else entries.lookup j := by
  induction entries with
  | nil => exact lookup_cons_eq ..
  | cons entry rest ih =>
    obtain ⟨first, value⟩ := entry
    unfold insertKeyed
    split
    · exact lookup_cons_eq ..
    · split
      · rename_i same
        obtain rfl : k = first := same
        rw [lookup_cons_eq, lookup_cons_eq]
        split <;> rfl
      · rename_i differ
        rw [lookup_cons_eq, lookup_cons_eq, ih]
        -- A key that is found before the place of insertion is another one.
        by_cases eq : j = first
        · have other : j ≠ k := fun h => differ (h ▸ eq)
          rw [if_pos eq, if_neg other, if_pos eq]
        · rw [if_neg eq, if_neg eq]

end SchemaTypes
