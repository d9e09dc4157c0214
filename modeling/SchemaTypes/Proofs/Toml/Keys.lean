import SchemaTypes.Proofs.Order.Keyed
import SchemaTypes.Toml.Document

/-!
The keys of the tables of a document.

`Value.Within` relates a value to all that is inside it. Every table inside a document lists its
keys in ascending order (`ordered_of_parse`), whatever the order in which the text gives them, so it
lists no key twice (`Value.Ordered.keysDiffer`). Tables under construction are kept like that: by an
assignment (`Items.Ordered.assign`), by what happens at a path of headers (`Items.Ordered.within`),
and so by each statement of a document.
-/

namespace SchemaTypes.Toml

/-! ### Parts of values -/

/-- A value and what is inside it. -/
inductive Value.Within : Value → Value → Prop where
  | self {v : Value} : Within v v
  | item {part v : Value} {items : List Value} :
      v ∈ items → Within part v → Within part (.array items)
  | entry {part v : Value} {key : String} {entries : Entries} :
      (key, v) ∈ entries → Within part v → Within part (.table entries)

/-- Tables list their keys in ascending order, those inside a value included. -/
def Value.Ordered (v : Value) : Prop :=
  ∀ entries, (Value.table entries).Within v → Ascending Prod.fst entries

namespace Value

theorem ordered_array_iff {items : List Value} :
    (array items).Ordered ↔ ∀ v ∈ items, v.Ordered := by
  constructor
  · intro h v mem entries within
    exact h entries (.item mem within)
  · rintro h entries (_ | ⟨mem, within⟩)
    exact h _ mem entries within

theorem ordered_table_iff {entries : Entries} :
    (table entries).Ordered ↔
      Ascending Prod.fst entries ∧ ∀ entry ∈ entries, entry.2.Ordered := by
  constructor
  · intro h
    exact ⟨h entries .self, fun entry mem inner within => h inner (.entry mem within)⟩
  · rintro ⟨ascending, inside⟩ inner (_ | _ | ⟨mem, within⟩)
    · exact ascending
    · exact inside _ mem inner within

/-- No table lists a key twice, those inside a value included. -/
def KeysDiffer (v : Value) : Prop :=
  ∀ entries, (Value.table entries).Within v → (entries.map Prod.fst).Nodup

theorem Ordered.keysDiffer {v : Value} (h : v.Ordered) : v.KeysDiffer := by
  intro entries within
  exact List.pairwise_map.mpr ((h entries within).imp String.ne_of_lt)

theorem KeysDiffer.of_mem {v : Value} {items : List Value} (h : (array items).KeysDiffer)
    (mem : v ∈ items) : v.KeysDiffer :=
  fun entries within => h entries (.item mem within)

theorem KeysDiffer.of_lookup {key : String} {v : Value} {entries : Entries}
    (h : (table entries).KeysDiffer) (found : entries.lookup key = some v) : v.KeysDiffer := by
  have mem : (key, v) ∈ entries := (lookup_eq_some_iff (h entries .self)).mp found
  exact fun inner within => h inner (.entry mem within)

/-- A value that has nothing inside it. -/
def IsLeaf : Value → Prop
  | .array _ | .table _ => False
  | _ => True

theorem IsLeaf.ordered {v : Value} (h : v.IsLeaf) : v.Ordered := by
  rintro entries (_ | _ | _)
  · exact h.elim
  · exact h.elim
  · exact h.elim

end Value

/-! ### Tables under construction -/

theorem itemsToEntries_eq_map (items : Items) :
    itemsToEntries items = items.map fun item => (item.1, item.2.toValue) := by
  induction items with
  | nil => rfl
  | cons item rest ih =>
    rw [itemsToEntries, ih]
    rfl

/-- The table that is under construction lists its keys in ascending order, and so do those inside
it. -/
def Items.Ordered (items : Items) : Prop :=
  (Value.table (itemsToEntries items)).Ordered

namespace Items.Ordered

variable {items next : Items} {key : String} {item : Item} {v : Value}

theorem nil : Items.Ordered [] :=
  Value.ordered_table_iff.mpr ⟨.nil, by simp [itemsToEntries]⟩

/-- A key gets a new item. -/
theorem put (h : items.Ordered) (inside : item.toValue.Ordered) : (items.put key item).Ordered := by
  unfold Items.Ordered Items.put at *
  rw [Value.ordered_table_iff, itemsToEntries_eq_map] at h ⊢
  have mapped :
      insertKeyed Prod.fst (key, item.toValue) (items.map fun item => (item.1, item.2.toValue)) =
        (insertKeyed Prod.fst (key, item) items).map fun item => (item.1, item.2.toValue) :=
    insertKeyed_map (fun item : String × Item => (item.1, item.2.toValue)) (key, item) items
  rw [← mapped]
  refine ⟨h.1.insertKeyed _, fun entry mem => ?_⟩
  rcases mem_of_mem_insertKeyed mem with rfl | mem
  · exact inside
  · exact h.2 entry mem

/-- What is found under a key. -/
theorem lookup (h : items.Ordered) (found : items.lookup key = some item) :
    item.toValue.Ordered := by
  unfold Items.Ordered at h
  rw [Value.ordered_table_iff, itemsToEntries_eq_map] at h
  obtain ⟨before, after, rfl, -⟩ := List.lookup_eq_some_iff.mp found
  exact h.2 (key, item.toValue) (by simp)

theorem tables_iff {earlier : List Items} {latest : Items} :
    (Item.tables earlier latest).toValue.Ordered ↔
      (∀ v ∈ tablesToValues earlier, v.Ordered) ∧ latest.Ordered := by
  rw [Item.toValue, Value.ordered_array_iff]
  simp only [List.mem_append, List.mem_singleton, or_imp, forall_and, forall_eq]
  rfl

/-- An assignment to a dotted key, in whatever table on its way. -/
theorem assign {path : List String} (h : items.Ordered) (inside : v.Ordered)
    (assigned : items.assign path key v = some next) : next.Ordered := by
  induction path generalizing items next with
  | nil =>
    unfold Items.assign at assigned
    split at assigned
    · cases assigned
    · cases assigned
      exact h.put inside
  | cons step path ih =>
    unfold Items.assign at assigned
    split at assigned
    · obtain ⟨inner, isInner, rfl⟩ := Option.map_eq_some_iff.mp assigned
      exact h.put (ih .nil isInner)
    · rename_i found
      obtain ⟨inner, isInner, rfl⟩ := Option.map_eq_some_iff.mp assigned
      exact h.put (ih (h.lookup found) isInner)
    · rename_i found
      split at assigned
      · cases assigned
      · obtain ⟨inner, isInner, rfl⟩ := Option.map_eq_some_iff.mp assigned
        exact h.put (ih (h.lookup found) isInner)
    · rename_i found
      split at assigned
      · cases assigned
      · obtain ⟨latest, isLatest, rfl⟩ := Option.map_eq_some_iff.mp assigned
        obtain ⟨others, last⟩ := tables_iff.mp (h.lookup found)
        exact h.put (tables_iff.mpr ⟨others, ih last isLatest⟩)
    · cases assigned
    · cases assigned

/-- A change of the table at a path of headers. -/
theorem within {path : List String} {change : Items → Option Items} (h : items.Ordered)
    (keeps : ∀ items next : Items, items.Ordered → change items = some next → next.Ordered)
    (changed : items.within path change = some next) : next.Ordered := by
  induction path generalizing items next with
  | nil => exact keeps items next h changed
  | cons step path ih =>
    unfold Items.within at changed
    split at changed
    · obtain ⟨inner, isInner, rfl⟩ := Option.map_eq_some_iff.mp changed
      exact h.put (ih .nil isInner)
    · rename_i found
      obtain ⟨inner, isInner, rfl⟩ := Option.map_eq_some_iff.mp changed
      exact h.put (ih (h.lookup found) isInner)
    · rename_i found
      obtain ⟨latest, isLatest, rfl⟩ := Option.map_eq_some_iff.mp changed
      obtain ⟨others, last⟩ := tables_iff.mp (h.lookup found)
      exact h.put (tables_iff.mpr ⟨others, ih last isLatest⟩)
    · cases changed

theorem openTable (h : items.Ordered) (opened : items.openTable key = some next) :
    next.Ordered := by
  unfold Items.openTable at opened
  split at opened
  · cases opened
    exact h.put Items.Ordered.nil
  · rename_i inner found
    cases opened
    have inside : (Item.table .implied inner).toValue.Ordered := h.lookup found
    exact h.put inside
  · cases opened

theorem tablesToValues_concat (earlier : List Items) (latest : Items) :
    tablesToValues (earlier ++ [latest]) =
      tablesToValues earlier ++ [.table (itemsToEntries latest)] := by
  induction earlier with
  | nil => rfl
  | cons first rest ih => rw [List.cons_append, tablesToValues, ih, tablesToValues, List.cons_append]

theorem openElement (h : items.Ordered) (opened : items.openElement key = some next) :
    next.Ordered := by
  unfold Items.openElement at opened
  split at opened
  · cases opened
    exact h.put (tables_iff.mpr ⟨by simp [tablesToValues], .nil⟩)
  · rename_i found
    cases opened
    -- The latest table so far is one of the earlier ones from now on.
    have all := h.lookup found
    rw [Item.toValue, ← tablesToValues_concat, Value.ordered_array_iff] at all
    exact h.put (tables_iff.mpr ⟨all, .nil⟩)
  · cases opened

theorem ofAssignments {assignments : List (List String × String × Value)}
    (inside : ∀ a ∈ assignments, a.2.2.Ordered)
    (made : Items.ofAssignments assignments = some next) : next.Ordered := by
  suffices ∀ items : Items, items.Ordered →
      assignments.foldlM (fun items a => Items.assign a.1 a.2.1 a.2.2 items) items = some next →
        next.Ordered from this [] .nil made
  clear made
  induction assignments with
  | nil =>
    intro items h made
    cases made
    exact h
  | cons a rest ih =>
    intro items h made
    obtain ⟨first, others⟩ := List.forall_mem_cons.mp inside
    obtain ⟨middle, assigned, made⟩ := Option.bind_eq_some_iff.mp made
    exact ih others middle (h.assign first assigned) made

end Items.Ordered

/-! ### Values -/

section Readers

variable {read : Reader Value} {P : Value → Prop}

/-- The elements of an array are values that have been read. -/
theorem forall_of_elements (reads : ∀ {s v rest}, read s = some (v, rest) → P v)
    {s rest : List Char} {vs : List Value} (h : elements read s = some (vs, rest)) :
    ∀ v ∈ vs, P v := by
  fun_induction elements read s generalizing vs rest with
  | case1 =>
    cases h
    simp
  | case3 s v after last closes isEnd isRead =>
    cases h
    simpa using reads isRead
  | case4 s v after more comma shorter isEnd isRead ih =>
    obtain ⟨⟨others, last⟩, areRead, eq⟩ := Option.map_eq_some_iff.mp h
    cases eq
    exact List.forall_mem_cons.mpr ⟨reads isRead, ih areRead⟩
  | _ => cases h

theorem assignment_eq_some {skip : List Char → List Char} {s rest : List Char}
    {a : List String × String × Value} (h : assignment skip read s = some (a, rest)) :
    ∃ ahead after, read ahead = some (a.2.2, after) := by
  unfold assignment at h
  obtain ⟨⟨⟨path, key⟩, before⟩, -, h⟩ := Option.bind_eq_some_iff.mp h
  dsimp only at h
  split at h
  · obtain ⟨⟨v, after⟩, isRead, h⟩ := Option.bind_eq_some_iff.mp h
    cases h
    exact ⟨_, _, isRead⟩
  · cases h

/-- The members of an inline table are values that have been read. -/
theorem forall_of_members (reads : ∀ {s v rest}, read s = some (v, rest) → P v)
    {s rest : List Char} {assignments : List (List String × String × Value)}
    (h : members read s = some (assignments, rest)) : ∀ a ∈ assignments, P a.2.2 := by
  fun_induction members read s generalizing assignments rest with
  | case1 =>
    cases h
    simp
  | case3 s a after last closes isEnd isRead =>
    cases h
    obtain ⟨_, _, isRead⟩ := assignment_eq_some isRead
    simpa using reads isRead
  | case4 s a after more comma shorter isEnd isRead ih =>
    obtain ⟨⟨others, last⟩, areRead, eq⟩ := Option.map_eq_some_iff.mp h
    cases eq
    obtain ⟨_, _, isRead⟩ := assignment_eq_some isRead
    exact List.forall_mem_cons.mpr ⟨reads isRead, ih areRead⟩
  | _ => cases h

end Readers

theorem isLeaf_of_inBase {base : Nat} {token : List Char} {v : Value}
    (h : inBase base token = some v) : v.IsLeaf := by
  unfold inBase at h
  split at h
  · cases h
    trivial
  · obtain ⟨digits, -, rfl⟩ := Option.map_eq_some_iff.mp h
    trivial

theorem isLeaf_of_integer? {token : List Char} {v : Value} (h : integer? token = some v) :
    v.IsLeaf := by
  unfold integer? at h
  split at h
  · exact isLeaf_of_inBase h
  · exact isLeaf_of_inBase h
  · exact isLeaf_of_inBase h
  · dsimp only at h
    split at h
    · cases h
      trivial
    · split at h
      · cases h
        trivial
      · cases h

theorem isLeaf_of_float? {token : List Char} {v : Value} (h : float? token = some v) :
    v.IsLeaf := by
  unfold float? at h
  dsimp only at h
  split at h
  · cases h
    trivial
  · split at h
    · cases h
      trivial
    · obtain ⟨x, -, rfl⟩ := Option.map_eq_some_iff.mp h
      trivial

theorem isLeaf_of_scalar? {token : List Char} {v : Value} (h : scalar? token = some v) :
    v.IsLeaf := by
  unfold scalar? at h
  split at h
  · cases h
    trivial
  · split at h
    · cases h
      trivial
    · simp only [Option.orElse_eq_orElse, Option.orElse_eq_or, Option.or_eq_some_iff] at h
      obtain (h | ⟨-, h⟩) | ⟨-, h⟩ := h
      · exact isLeaf_of_integer? h
      · exact isLeaf_of_float? h
      · obtain ⟨m, -, rfl⟩ := Option.map_eq_some_iff.mp h
        trivial

/-- Every value that is read has its keys in order. -/
theorem ordered_of_value {depth : Nat} {s rest : List Char} {v : Value}
    (h : value depth s = some (v, rest)) : v.Ordered := by
  induction depth using Nat.strong_induction_on generalizing s v rest with
  | _ depth ih =>
    unfold value at h
    split at h
    · obtain ⟨⟨text, last⟩, -, eq⟩ := Option.map_eq_some_iff.mp h
      cases eq
      exact Value.IsLeaf.ordered trivial
    · obtain ⟨⟨text, last⟩, -, eq⟩ := Option.map_eq_some_iff.mp h
      cases eq
      exact Value.IsLeaf.ordered trivial
    · split at h
      · cases h
      · obtain ⟨⟨items, last⟩, areRead, eq⟩ := Option.map_eq_some_iff.mp h
        cases eq
        exact Value.ordered_array_iff.mpr
          (forall_of_elements (ih _ (Nat.lt_succ_self _)) areRead)
    · split at h
      · cases h
      · obtain ⟨⟨assignments, last⟩, areRead, h⟩ := Option.bind_eq_some_iff.mp h
        obtain ⟨items, made, eq⟩ := Option.bind_eq_some_iff.mp h
        cases eq
        exact Items.Ordered.ofAssignments (forall_of_members (ih _ (Nat.lt_succ_self _)) areRead) made
    · obtain ⟨leaf, isScalar, eq⟩ := Option.map_eq_some_iff.mp h
      cases eq
      exact (isLeaf_of_scalar? isScalar).ordered

/-! ### Documents -/

/-- What a statement assigns has its keys in order. -/
def Statement.Ordered : Statement → Prop
  | .assign _ _ v => v.Ordered
  | .openTable _ _ | .openElement _ _ => True

theorem ordered_of_header {s rest : List Char} {st : Statement}
    (h : header s = some (st, rest)) : st.Ordered := by
  unfold header at h
  split at h
  · obtain ⟨⟨⟨path, key⟩, after⟩, -, h⟩ := Option.bind_eq_some_iff.mp h
    dsimp only at h
    split at h
    · cases h
      trivial
    · cases h
  · obtain ⟨⟨⟨path, key⟩, after⟩, -, h⟩ := Option.bind_eq_some_iff.mp h
    dsimp only at h
    split at h
    · cases h
      trivial
    · cases h

theorem ordered_of_statement {s rest : List Char} {st : Statement}
    (h : statement s = some (st, rest)) : st.Ordered := by
  unfold statement at h
  dsimp only at h
  split at h
  · obtain ⟨⟨first, last⟩, isRead, h⟩ := Option.bind_eq_some_iff.mp h
    obtain ⟨after, -, eq⟩ := Option.bind_eq_some_iff.mp h
    cases eq
    exact ordered_of_header isRead
  · obtain ⟨⟨first, last⟩, isRead, h⟩ := Option.bind_eq_some_iff.mp h
    obtain ⟨after, -, eq⟩ := Option.bind_eq_some_iff.mp h
    cases eq
    obtain ⟨⟨⟨path, key, v⟩, last⟩, isAssigned, eq⟩ := Option.map_eq_some_iff.mp isRead
    cases eq
    obtain ⟨_, _, isRead⟩ := assignment_eq_some isAssigned
    exact ordered_of_value isRead

theorem ordered_of_statements {s : List Char} {sts : List Statement}
    (h : statements s = some sts) : ∀ st ∈ sts, st.Ordered := by
  fun_induction statements s generalizing sts with
  | case1 =>
    cases h
    simp
  | case3 s st rest shorter isMore isRead ih =>
    obtain ⟨others, areRead, rfl⟩ := Option.map_eq_some_iff.mp h
    exact List.forall_mem_cons.mpr ⟨ordered_of_statement isRead, ih areRead⟩
  | _ => cases h

/-- A statement keeps the order of keys. -/
theorem Progress.ordered_next {p q : Progress} {st : Statement} (h : p.items.Ordered)
    (inside : st.Ordered) (isNext : p.next st = some q) : q.items.Ordered := by
  unfold Progress.next at isNext
  split at isNext
  · obtain ⟨items, changed, rfl⟩ := Option.map_eq_some_iff.mp isNext
    exact h.within (fun _ _ => .openTable) changed
  · obtain ⟨items, changed, rfl⟩ := Option.map_eq_some_iff.mp isNext
    exact h.within (fun _ _ => .openElement) changed
  · obtain ⟨items, changed, rfl⟩ := Option.map_eq_some_iff.mp isNext
    exact h.within (fun _ _ ordered => ordered.assign inside) changed

theorem Progress.ordered_foldlM {p q : Progress} {sts : List Statement} (h : p.items.Ordered)
    (inside : ∀ st ∈ sts, st.Ordered) (done : sts.foldlM Progress.next p = some q) :
    q.items.Ordered := by
  induction sts generalizing p with
  | nil =>
    cases done
    exact h
  | cons st rest ih =>
    obtain ⟨first, others⟩ := List.forall_mem_cons.mp inside
    obtain ⟨middle, isNext, done⟩ := Option.bind_eq_some_iff.mp done
    exact ih (Progress.ordered_next h first isNext) others done

/-- The tables of a document list their keys in ascending order. -/
theorem ordered_of_parse {text : String} {entries : Entries} (h : parse text = some entries) :
    (Value.table entries).Ordered := by
  obtain ⟨sts, areRead, h⟩ := Option.bind_eq_some_iff.mp h
  obtain ⟨p, done, rfl⟩ := Option.map_eq_some_iff.mp h
  have start : (Progress.mk [] []).items.Ordered := .nil
  exact Progress.ordered_foldlM start (ordered_of_statements areRead) done

end SchemaTypes.Toml
