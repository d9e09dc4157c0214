import Mathlib.Data.List.TakeWhile
import SchemaTypes.Files.Survey

/-!
The segments of joined paths, and where a path points.

`Path.lead` holds the segments that stand in front of what is joined to a path, so that the segments
of a joined path are known (`segments_join`). `Path.goal` reads a path name by name without asking
whether anything is there; it is one of the locations that the path passes through. A path that
ends in a name is a path to a file of this name (`fileName?_of_segments`).
-/

namespace SchemaTypes

/-! ### Splitting -/

section Split

variable {c : Char}

theorem splitAtChar_ne_nil (s : List Char) : splitAtChar c s ≠ [] := by
  cases s with
  | nil => simp [splitAtChar]
  | cons d rest =>
    unfold splitAtChar
    split
    · simp
    · split <;> simp

theorem splitAtChar_cons_of_ne {d : Char} (ne : d ≠ c) {s piece : List Char}
    {pieces : List (List Char)} (h : splitAtChar c s = piece :: pieces) :
    splitAtChar c (d :: s) = (d :: piece) :: pieces := by
  rw [splitAtChar, if_neg ne, h]

/-- A separator divides the pieces before it from those after it. -/
theorem splitAtChar_append (front back : List Char) :
    splitAtChar c (front ++ c :: back) = splitAtChar c front ++ splitAtChar c back := by
  induction front with
  | nil => simp [splitAtChar]
  | cons d rest ih =>
    by_cases eq : d = c
    · simp [splitAtChar, eq, ih]
    · obtain ⟨piece, pieces, h⟩ := List.exists_cons_of_ne_nil (splitAtChar_ne_nil (c := c) rest)
      rw [splitAtChar_cons_of_ne eq h, List.cons_append,
        splitAtChar_cons_of_ne eq (ih.trans (by rw [h, List.cons_append])), List.cons_append]

/-- A text without the separator is one piece. -/
theorem splitAtChar_of_notMem {s : List Char} (h : c ∉ s) : splitAtChar c s = [s] := by
  induction s with
  | nil => rfl
  | cons d rest ih =>
    rw [List.mem_cons, not_or] at h
    exact splitAtChar_cons_of_ne (Ne.symm h.1) (ih h.2)

/-- Only a text without the separator is one piece, which is the text. -/
theorem eq_of_splitAtChar_eq_singleton {s piece : List Char} (h : splitAtChar c s = [piece]) :
    s = piece := by
  by_cases mem : c ∈ s
  · obtain ⟨front, back, rfl⟩ := List.append_of_mem mem
    rw [splitAtChar_append, List.append_eq_singleton_iff] at h
    rcases h with ⟨empty, -⟩ | ⟨-, empty⟩
    · exact absurd empty (splitAtChar_ne_nil front)
    · exact absurd empty (splitAtChar_ne_nil back)
  · exact List.singleton_inj.mp ((splitAtChar_of_notMem mem).symm.trans h)

/-- Pieces are divided where a separator divides the text. -/
theorem splitAtChar_eq_append {s : List Char} {front back : List (List Char)}
    (h : splitAtChar c s = front ++ back) (frontNe : front ≠ []) (backNe : back ≠ []) :
    ∃ before after, s = before ++ c :: after ∧
      splitAtChar c before = front ∧ splitAtChar c after = back := by
  induction s generalizing front with
  | nil =>
    rcases List.append_eq_singleton_iff.mp h.symm with ⟨empty, -⟩ | ⟨-, empty⟩
    · exact absurd empty frontNe
    · exact absurd empty backNe
  | cons d rest ih =>
    obtain ⟨first, others, rfl⟩ := List.exists_cons_of_ne_nil frontNe
    by_cases eq : d = c
    · rw [splitAtChar, if_pos eq, List.cons_append] at h
      obtain ⟨rfl, pieces⟩ := List.cons.inj h
      cases others with
      | nil => exact ⟨[], rest, by rw [eq, List.nil_append], rfl, pieces⟩
      | cons second more =>
        obtain ⟨before, after, rfl, isFront, isBack⟩ := ih pieces (List.cons_ne_nil _ _)
        exact ⟨d :: before, after, rfl, by rw [splitAtChar, if_pos eq, isFront], isBack⟩
    · obtain ⟨piece, pieces, split⟩ := List.exists_cons_of_ne_nil (splitAtChar_ne_nil (c := c) rest)
      rw [splitAtChar_cons_of_ne eq split, List.cons_append] at h
      obtain ⟨rfl, rfl⟩ := List.cons.inj h
      obtain ⟨before, after, rfl, isFront, isBack⟩ := ih split (List.cons_ne_nil piece others)
      exact ⟨d :: before, after, rfl, splitAtChar_cons_of_ne eq isFront, isBack⟩

/-- A text that does not end in the separator ends in the last piece. -/
theorem splitAtChar_concat_of_ne {d : Char} (ne : d ≠ c) (front : List Char) :
    ∃ pieces piece, splitAtChar c (front ++ [d]) = pieces ++ [piece ++ [d]] := by
  induction front with
  | nil => exact ⟨[], [], splitAtChar_of_notMem (by simpa using ne.symm)⟩
  | cons x rest ih =>
    obtain ⟨pieces, piece, h⟩ := ih
    by_cases eq : x = c
    · exact ⟨[] :: pieces, piece, by simp [splitAtChar, eq, h]⟩
    · cases pieces with
      | nil => exact ⟨[], x :: piece, splitAtChar_cons_of_ne eq h⟩
      | cons first others => exact ⟨(x :: first) :: others, piece, splitAtChar_cons_of_ne eq h⟩

end Split

namespace Path

/-! ### Joining -/

/-- The segments in front of what is joined to a path. -/
def lead (p : Path) : List String :=
  if p.text = "" then []
  else if p.text.toList.getLast? = some '/' then p.segments.dropLast
  else p.segments

theorem segments_of_concat_slash {p : Path} {front : List Char}
    (h : p.text.toList = front ++ ['/']) :
    p.segments = (splitAtChar '/' front).map String.ofList ++ [""] := by
  rw [segments, h, splitAtChar_append, List.map_append]
  rfl

theorem lead_of_concat_slash {p : Path} {front : List Char} (h : p.text.toList = front ++ ['/']) :
    p.lead = (splitAtChar '/' front).map String.ofList := by
  have ne : p.text ≠ "" := fun empty => by simp [empty] at h
  have slash : p.text.toList.getLast? = some '/' := by simp [h]
  rw [lead, if_neg ne, if_pos slash, segments_of_concat_slash h, List.dropLast_concat]

/-- A slash at the end has nothing but the empty name behind it. -/
theorem segments_of_slash {p : Path} (h : p.text.toList.getLast? = some '/') :
    p.segments = p.lead ++ [""] := by
  obtain ⟨front, eq⟩ := List.getLast?_eq_some_iff.mp h
  rw [segments_of_concat_slash eq, lead_of_concat_slash eq]

/-- A path that is not empty has its lead for segments, perhaps with an empty name behind. -/
theorem segments_eq_lead {p : Path} (ne : p.text ≠ "") :
    p.segments = p.lead ∨ p.segments = p.lead ++ [""] := by
  by_cases h : p.text.toList.getLast? = some '/'
  · exact .inr (segments_of_slash h)
  · exact .inl (by rw [lead, if_neg ne, if_neg h])

theorem lead_of_empty {p : Path} (h : p.text = "") : p.lead = [] := by
  rw [lead, if_pos h]

theorem segments_of_empty {p : Path} (h : p.text = "") : p.segments = [""] := by
  simp [segments, h, splitAtChar]

/-- The segments of the second path follow the lead of the first. -/
theorem segments_join {p q : Path} (relative : q.isAbsolute = false) :
    (p.join q).segments = p.lead ++ q.segments := by
  unfold join
  by_cases empty : p.text = ""
  · simp [empty, lead]
  · rw [if_neg (by simp [relative, empty])]
    by_cases slash : p.text.toList.getLast? = some '/'
    · obtain ⟨front, eq⟩ := List.getLast?_eq_some_iff.mp slash
      rw [if_pos slash, lead_of_concat_slash eq]
      simp only [segments, String.toList_append, eq]
      rw [List.append_assoc, List.singleton_append, splitAtChar_append, List.map_append]
    · rw [if_neg slash]
      simp only [segments, String.toList_append, lead, if_neg empty, if_neg slash]
      have : "/".toList = ['/'] := rfl
      rw [this, List.append_assoc, List.singleton_append, splitAtChar_append, List.map_append]

theorem isAbsolute_join {p q : Path} (relative : q.isAbsolute = false) :
    (p.join q).isAbsolute = p.isAbsolute := by
  unfold join
  by_cases empty : p.text = ""
  · simp [empty, isAbsolute] at relative ⊢
    exact relative
  · obtain ⟨c, rest, h⟩ := List.exists_cons_of_ne_nil (l := p.text.toList) (by simpa using empty)
    rw [if_neg (by simp [relative, empty])]
    split <;> simp [isAbsolute, h]

theorem isAbsolute_of_notMem {name : String} (flat : '/' ∉ name.toList) :
    (⟨name⟩ : Path).isAbsolute = false := by
  cases h : name.toList with
  | nil => simp [isAbsolute, h]
  | cons c rest =>
    rw [h, List.mem_cons, not_or] at flat
    simpa [isAbsolute, h] using Ne.symm flat.1

/-- A name without slashes is one more segment. -/
theorem segments_child {p : Path} {name : String} (flat : '/' ∉ name.toList) :
    (p.child name).segments = p.lead ++ [name] := by
  rw [child, segments_join (isAbsolute_of_notMem flat)]
  simp [segments, splitAtChar_of_notMem flat]

theorem isAbsolute_child {p : Path} {name : String} (flat : '/' ∉ name.toList) :
    (p.child name).isAbsolute = p.isAbsolute :=
  isAbsolute_join (isAbsolute_of_notMem flat)

/-! ### Endings -/

theorem text_child_ne {p : Path} {name : String} (flat : '/' ∉ name.toList) (ne : name ≠ "") :
    (p.child name).text ≠ "" := by
  intro empty
  have segments := segments_child (p := p) flat
  rw [segments_of_empty empty] at segments
  cases h : p.lead with
  | nil =>
    rw [h] at segments
    exact ne (List.singleton_inj.mp segments).symm
  | cons first rest =>
    rw [h] at segments
    simp at segments

/-- The last name of a path, with the empty names after it taken away. -/
theorem ending?_eq_some {p : Path} {e : Ending} (h : p.ending? = some e) :
    e.name ≠ "" ∧ ∃ n, p.segments = e.folder ++ e.name :: List.replicate n "" := by
  have split := List.takeWhile_append_dropWhile (p := (· = "")) (l := p.segments.reverse)
  obtain ⟨n, blanks⟩ : ∃ n, p.segments.reverse.takeWhile (· = "") = List.replicate n "" :=
    ⟨_, List.eq_replicate_iff.mpr ⟨rfl, fun name mem => by simpa using List.mem_takeWhile_imp mem⟩⟩
  unfold ending? at h
  split at h
  · cases h
  · rename_i name before kept
    cases h
    have ne : name ≠ "" := by
      have := List.head?_dropWhile_not (· = "") p.segments.reverse
      simpa [kept] using this
    refine ⟨ne, n, ?_⟩
    rw [kept, blanks] at split
    calc p.segments = p.segments.reverse.reverse := (List.reverse_reverse _).symm
      _ = (List.replicate n "" ++ name :: before).reverse := by rw [split]
      _ = before.reverse ++ name :: List.replicate n "" := by simp

/-- Only a slash at the end has empty names after the last name of a path. -/
theorem segments_of_ending {p : Path} {e : Ending} (h : p.ending? = some e)
    (notSlashed : e.slashed = false) : p.segments = e.folder ++ [e.name] := by
  obtain ⟨ne, n, segments⟩ := ending?_eq_some h
  have noSlash : p.text.toList.getLast? ≠ some '/' := by
    unfold ending? at h
    split at h
    · cases h
    · cases h
      simpa using notSlashed
  cases n with
  | zero => exact segments
  | succ n =>
    rw [List.replicate_succ', ← List.cons_append, ← List.append_assoc] at segments
    rcases List.eq_nil_or_concat p.text.toList with empty | ⟨front, d, eq⟩
    · rw [segments_of_empty (by simpa using empty)] at segments
      have length := congrArg List.length segments
      simp only [List.length_append, List.length_cons, List.length_nil] at length
      omega
    · have notSlash : d ≠ '/' := fun slash => noSlash (by simp [eq, slash])
      obtain ⟨pieces, piece, split⟩ := splitAtChar_concat_of_ne notSlash front
      rw [Path.segments, eq, List.concat_eq_append, split, List.map_append] at segments
      have last := List.append_inj_right' segments rfl
      simp at last

/-- A name without slashes ends the path it is joined to. -/
theorem ending?_child {p : Path} {name : String} (flat : '/' ∉ name.toList) (ne : name ≠ "") :
    (p.child name).ending? = some ⟨p.lead, name, false⟩ := by
  have notSlashed : (p.child name).text.toList.getLast? ≠ some '/' := by
    intro slash
    have segments := segments_of_slash slash
    rw [segments_child flat] at segments
    exact ne (List.append_inj_right' segments rfl |> List.singleton_inj.mp)
  rw [ending?, segments_child flat]
  simp [ne, notSlashed]

/-! ### Goals -/

/-- Where a path begins. -/
def origin (current : Location) (p : Path) : Location :=
  if p.isAbsolute then [] else current

/-- Where a path points, whether or not anything is there. -/
def goal (current : Location) (p : Path) : Location :=
  p.segments.foldl Location.follow (p.origin current)

theorem follow_idle {here : Location} {name : String} (idle : isIdle name = true) :
    here.follow name = here := by
  rw [Location.follow, if_pos idle]

theorem follow_blank (here : Location) : here.follow "" = here := rfl

theorem follow_name {here : Location} {name : String} (h : isName name = true) :
    here.follow name = here ++ [name] := by
  simp only [isName, Bool.and_eq_true, Bool.not_eq_true', decide_eq_true_eq] at h
  rw [Location.follow, if_neg (by simp [h.1.1]), if_neg h.1.2]

theorem foldl_follow_names {names : List String} (h : ∀ name ∈ names, isName name = true)
    (here : Location) : names.foldl Location.follow here = here ++ names := by
  induction names generalizing here with
  | nil => simp
  | cons name rest ih =>
    obtain ⟨named, others⟩ := List.forall_mem_cons.mp h
    rw [List.foldl_cons, follow_name named, ih others, List.append_assoc, List.singleton_append]

/-- Another name leads to another location. -/
theorem follow_ne {name other : String} (ne : other ≠ name) (here : Location) :
    here.follow other ≠ here ++ [name] := by
  intro eq
  have length := congrArg List.length eq
  rw [List.length_append, List.length_singleton] at length
  unfold Location.follow at eq length
  split at length
  · omega
  · split at length
    · rw [List.length_dropLast] at length
      omega
    · rename_i busy notUp
      rw [if_neg busy, if_neg notUp] at eq
      exact ne (List.singleton_inj.mp (List.append_cancel_left eq))

theorem foldl_follow_blanks (here : Location) (n : Nat) :
    (List.replicate n "").foldl Location.follow here = here := by
  induction n with
  | zero => rfl
  | succ n ih => rw [List.replicate_succ, List.foldl_cons, follow_blank, ih]

/-- The lead of a path points where the path does. -/
theorem foldl_follow_lead (p : Path) (here : Location) :
    p.lead.foldl Location.follow here = p.segments.foldl Location.follow here := by
  by_cases empty : p.text = ""
  · rw [lead_of_empty empty, segments_of_empty empty]
    rfl
  · rcases segments_eq_lead empty with eq | eq
    · rw [eq]
    · rw [eq, List.foldl_append]
      rfl

theorem origin_child {p : Path} {name : String} (flat : '/' ∉ name.toList) (current : Location) :
    (p.child name).origin current = p.origin current := by
  rw [origin, isAbsolute_child flat, origin]

theorem isName_flat {name : String} (h : isName name = true) : '/' ∉ name.toList := by
  simp only [isName, Bool.and_eq_true, Bool.not_eq_true', List.contains_eq_mem,
    decide_eq_false_iff_not] at h
  exact h.2

theorem isName_ne_empty {name : String} (h : isName name = true) : name ≠ "" := by
  rintro rfl
  cases h

theorem isName_ne_up {name : String} (h : isName name = true) : name ≠ ".." := by
  rintro rfl
  cases h

theorem isName_busy {name : String} (h : isName name = true) : isIdle name = false := by
  simp only [isName, Bool.and_eq_true, Bool.not_eq_true'] at h
  exact h.1.1

theorem goal_join {p q : Path} (relative : q.isAbsolute = false) (current : Location) :
    (p.join q).goal current = q.segments.foldl Location.follow (p.goal current) := by
  rw [goal, origin, isAbsolute_join relative, segments_join relative, List.foldl_append,
    foldl_follow_lead]
  rfl

theorem goal_child_follow {p : Path} {name : String} (flat : '/' ∉ name.toList)
    (current : Location) : (p.child name).goal current = (p.goal current).follow name := by
  rw [child, goal_join (isAbsolute_of_notMem flat)]
  simp [segments, splitAtChar_of_notMem flat]

theorem goal_child {p : Path} {name : String} (h : isName name = true) (current : Location) :
    (p.child name).goal current = p.goal current ++ [name] := by
  rw [goal_child_follow (isName_flat h), follow_name h]

/-- No other name leads where the name of a file does. -/
theorem goal_child_ne {p : Path} {name other : String} (h : isName name = true)
    (flat : '/' ∉ other.toList) (ne : other ≠ name) (current : Location) :
    (p.child other).goal current ≠ (p.child name).goal current := by
  rw [goal_child h, goal_child_follow flat]
  exact follow_ne ne (p.goal current)

/-- A path passes through the locations that its fronts point to. -/
theorem mem_passes_iff {p : Path} {current l : Location} :
    l ∈ p.passes current ↔
      ∃ front, front <+: p.segments ∧ front.foldl Location.follow (p.origin current) = l := by
  simp only [passes, List.mem_map, List.mem_range, origin]
  constructor
  · rintro ⟨n, -, rfl⟩
    exact ⟨_, List.take_prefix n _, rfl⟩
  · rintro ⟨front, isPrefix, rfl⟩
    refine ⟨front.length, Nat.lt_succ_of_le isPrefix.length_le, ?_⟩
    rw [List.prefix_iff_eq_take.mp isPrefix, List.length_take, Nat.min_eq_left isPrefix.length_le]

theorem goal_mem_passes (p : Path) (current : Location) : p.goal current ∈ p.passes current :=
  mem_passes_iff.mpr ⟨p.segments, List.prefix_rfl, rfl⟩

/-- A joined path passes through what the first path passes through, and then goes on from where
that one points. -/
theorem of_mem_passes_join {p q : Path} {current l : Location} (relative : q.isAbsolute = false)
    (h : l ∈ (p.join q).passes current) :
    l ∈ p.passes current ∨
      ∃ front, front <+: q.segments ∧ front.foldl Location.follow (p.goal current) = l := by
  obtain ⟨front, isPrefix, rfl⟩ := mem_passes_iff.mp h
  rw [segments_join relative] at isPrefix
  have origin : (p.join q).origin current = p.origin current := by
    rw [Path.origin, isAbsolute_join relative, Path.origin]
  rw [origin]
  rcases List.prefix_or_prefix_of_prefix isPrefix (List.prefix_append p.lead q.segments) with
    short | ⟨back, rfl⟩
  · refine .inl (mem_passes_iff.mpr ⟨front, short.trans ?_, rfl⟩)
    by_cases empty : p.text = ""
    · rw [lead_of_empty empty]
      exact List.nil_prefix
    · rcases segments_eq_lead empty with eq | eq
      · exact ⟨[], by rw [eq, List.append_nil]⟩
      · exact ⟨[""], eq.symm⟩
  · refine .inr ⟨back, (List.prefix_append_right_inj p.lead).mp isPrefix, ?_⟩
    rw [List.foldl_append, foldl_follow_lead, goal]

/-! ### File names -/

/-- The last segment is the name of a file, if it leads somewhere and not upwards. -/
theorem fileName?_of_segments {p : Path} {front : List String} {name : String}
    (h : p.segments = front ++ [name]) (busy : isIdle name = false) :
    p.fileName? = if name = ".." then none else some name := by
  have last : p.parts.getLast? = some name := by
    rw [parts, h, List.filter_append]
    simp [busy]
  rw [fileName?, last]

theorem fileName?_child {p : Path} {name : String} (h : isName name = true) :
    (p.child name).fileName? = some name := by
  rw [fileName?_of_segments (segments_child (isName_flat h)) (isName_busy h),
    if_neg (isName_ne_up h)]

/-- Whatever is joined to a path gives its last segments. -/
theorem exists_segments_child (p : Path) (name : String) :
    ∃ front, (p.child name).segments = front ++ (⟨name⟩ : Path).segments := by
  cases absolute : (⟨name⟩ : Path).isAbsolute with
  | false => exact ⟨p.lead, segments_join absolute⟩
  | true => exact ⟨[], by simp [child, join, absolute]⟩

theorem segments_ne_nil (p : Path) : p.segments ≠ [] := by
  simp [segments, splitAtChar_ne_nil]

/-! ### Parents -/

theorem notMem_of_mem_splitAtChar {c : Char} {s piece : List Char} (h : piece ∈ splitAtChar c s) :
    c ∉ piece := by
  induction s generalizing piece with
  | nil => simp_all [splitAtChar]
  | cons d rest ih =>
    obtain ⟨first, others, eq⟩ := List.exists_cons_of_ne_nil (splitAtChar_ne_nil (c := c) rest)
    by_cases hd : d = c
    · rw [splitAtChar, if_pos hd, List.mem_cons] at h
      rcases h with rfl | h
      · exact List.not_mem_nil
      · exact ih h
    · rw [splitAtChar_cons_of_ne hd eq, List.mem_cons] at h
      rcases h with rfl | h
      · rw [List.mem_cons, not_or]
        exact ⟨Ne.symm hd, ih (eq ▸ List.mem_cons_self)⟩
      · exact ih (eq ▸ List.mem_cons_of_mem _ h)

theorem flat_of_mem_segments {p : Path} {name : String} (h : name ∈ p.segments) :
    '/' ∉ name.toList := by
  obtain ⟨piece, isPiece, rfl⟩ := List.mem_map.mp h
  rw [String.toList_ofList]
  exact notMem_of_mem_splitAtChar isPiece

/-- A part is a name between slashes that leads somewhere. -/
theorem of_mem_parts {p : Path} {name : String} (h : name ∈ p.parts) :
    name ≠ "" ∧ '/' ∉ name.toList := by
  obtain ⟨mem, busy⟩ := List.mem_filter.mp h
  refine ⟨fun empty => ?_, flat_of_mem_segments mem⟩
  rw [empty] at busy
  cases busy

theorem foldl_follow_parts (names : List String) (here : Location) :
    (names.filter (!isIdle ·)).foldl Location.follow here = names.foldl Location.follow here := by
  induction names generalizing here with
  | nil => rfl
  | cons name rest ih =>
    by_cases idle : isIdle name = true
    · rw [List.filter_cons_of_neg (by simpa using idle), List.foldl_cons, follow_idle idle, ih]
    · rw [List.filter_cons_of_pos (by simpa using idle), List.foldl_cons, List.foldl_cons, ih]

/-- What is taken from the front of a filtered list comes from the front of the list. -/
theorem exists_prefix_filter_eq_take {α : Type} (q : α → Bool) (xs : List α) (n : Nat) :
    ∃ front, front <+: xs ∧ front.filter q = (xs.filter q).take n := by
  obtain ⟨front, back, eq, taken, -⟩ :=
    List.filter_eq_append_iff.mp (List.take_append_drop n (xs.filter q)).symm
  exact ⟨front, ⟨back, eq.symm⟩, taken⟩

theorem splitAtChar_intercalate {name : String} {names : List String}
    (flat : ∀ part ∈ name :: names, '/' ∉ part.toList) :
    splitAtChar '/' ("/".intercalate (name :: names)).toList =
      (name :: names).map String.toList := by
  induction names generalizing name with
  | nil => simpa using splitAtChar_of_notMem (flat name List.mem_cons_self)
  | cons next rest ih =>
    have first := splitAtChar_of_notMem (flat name List.mem_cons_self)
    have others := ih fun part mem => flat part (List.mem_cons_of_mem _ mem)
    have slash : "/".toList = ['/'] := rfl
    rw [String.intercalate_cons_cons, String.toList_append, String.toList_append, slash,
      List.append_assoc, List.singleton_append, splitAtChar_append, first, others]
    rfl

/-- A path made of parts points where the parts lead. -/
theorem goal_ofParts {absolute : Bool} {parts : List String} (nonempty : parts ≠ [])
    (proper : ∀ part ∈ parts, part ≠ "" ∧ '/' ∉ part.toList) (current : Location) :
    (ofParts absolute parts).goal current =
      parts.foldl Location.follow (if absolute then [] else current) := by
  obtain ⟨name, names, rfl⟩ := List.exists_cons_of_ne_nil nonempty
  have pieces := splitAtChar_intercalate fun part mem => (proper part mem).2
  have slash : "/".toList = ['/'] := rfl
  cases absolute with
  | true =>
    have isAbsolute : (ofParts true (name :: names)).isAbsolute = true := by
      simp [ofParts, Path.isAbsolute, slash]
    have segments : (ofParts true (name :: names)).segments = "" :: name :: names := by
      simp only [ofParts, Path.segments, if_true, String.toList_append, slash,
        List.singleton_append]
      rw [← List.nil_append ('/' :: _), splitAtChar_append, pieces]
      simp [splitAtChar, Function.comp_def]
    rw [goal, origin, isAbsolute, segments]
    rfl
  | false =>
    have segments : (ofParts false (name :: names)).segments = name :: names := by
      simp only [ofParts, Path.segments, Bool.false_eq_true, if_false, String.empty_append]
      rw [pieces]
      simp [Function.comp_def]
    have isAbsolute : (ofParts false (name :: names)).isAbsolute = false := by
      obtain ⟨ne, flat⟩ := proper name List.mem_cons_self
      obtain ⟨c, rest, eq⟩ := List.exists_cons_of_ne_nil (l := name.toList) (by simpa using ne)
      have : c ≠ '/' := fun h => flat (by simp [eq, h])
      cases names with
      | nil => simp [ofParts, Path.isAbsolute, eq, this]
      | cons next others => simp [ofParts, Path.isAbsolute, String.intercalate_cons_cons, eq, this]
    rw [goal, origin, isAbsolute, segments]

/-- The folders on the way to a path are on the way of the path. -/
theorem goal_parent_mem_passes {p parent : Path} (h : parent ∈ p.parents) (current : Location) :
    parent.goal current ∈ p.passes current := by
  simp only [parents, List.mem_map, List.mem_reverse, List.mem_range'_1] at h
  obtain ⟨n, ⟨pos, bound⟩, rfl⟩ := h
  obtain ⟨front, isPrefix, taken⟩ := exists_prefix_filter_eq_take (!isIdle ·) p.segments n
  have nonempty : p.parts.take n ≠ [] := by
    intro empty
    have := congrArg List.length empty
    rw [List.length_take, List.length_nil] at this
    omega
  refine mem_passes_iff.mpr ⟨front, isPrefix, ?_⟩
  rw [goal_ofParts nonempty fun part mem => of_mem_parts (List.mem_of_mem_take mem), parts, ← taken,
    foldl_follow_parts, origin]

end Path

end SchemaTypes
