import SchemaTypes.Proofs.Files.Path

/-!
The file name of a path, told from the text of the path.

A path ends in a name if slashes, and dots between them, are all that follows it, and a slash stands
before it unless the path begins there (`Path.EndsIn`). This says nothing of segments. The file name
that is found among the segments is the name that the path ends in (`Path.fileName?_eq_some_iff`),
so there is never more than one.
-/

namespace SchemaTypes.Path

/-! ### Trails -/

/-- What leads nowhere behind a name: slashes, each with or without a dot after it. -/
inductive Trail : List Char → Prop where
  | nothing : Trail []
  | slash {rest : List Char} : Trail rest → Trail ('/' :: rest)
  | dot {rest : List Char} : Trail rest → Trail ('/' :: '.' :: rest)

theorem isIdle_ofList_iff {piece : List Char} :
    isIdle (String.ofList piece) = true ↔ piece = [] ∨ piece = ['.'] := by
  have dot : "." = String.ofList ['.'] := rfl
  rw [isIdle, Bool.or_eq_true, decide_eq_true_eq, decide_eq_true_eq, String.ofList_eq_empty_iff,
    dot, String.ofList_inj]

/-- A trail adds idle segments, the same to every text. -/
theorem Trail.exists_idle {trail : List Char} (h : Trail trail) :
    ∃ idle, (∀ piece ∈ idle, isIdle (String.ofList piece) = true) ∧
      ∀ s, splitAtChar '/' (s ++ trail) = splitAtChar '/' s ++ idle := by
  induction h with
  | nothing => exact ⟨[], by simp, by simp⟩
  | @slash rest _ ih =>
    obtain ⟨idle, areIdle, split⟩ := ih
    refine ⟨[] :: idle, List.forall_mem_cons.mpr ⟨rfl, areIdle⟩, fun s => ?_⟩
    have after : splitAtChar '/' rest = [] :: idle := split []
    rw [splitAtChar_append, after]
  | @dot rest _ ih =>
    obtain ⟨idle, areIdle, split⟩ := ih
    refine ⟨['.'] :: idle, List.forall_mem_cons.mpr ⟨rfl, areIdle⟩, fun s => ?_⟩
    have after : splitAtChar '/' ('.' :: rest) = ['.'] :: idle := split ['.']
    rw [splitAtChar_append, after]

/-- Idle segments at the end of a text are a trail. -/
theorem exists_trail {s : List Char} {pieces idle : List (List Char)}
    (h : splitAtChar '/' s = pieces ++ idle) (ne : pieces ≠ [])
    (areIdle : ∀ piece ∈ idle, isIdle (String.ofList piece) = true) :
    ∃ front trail, s = front ++ trail ∧ splitAtChar '/' front = pieces ∧ Trail trail := by
  induction idle generalizing s pieces with
  | nil => exact ⟨s, [], (List.append_nil s).symm, by rw [h, List.append_nil], .nothing⟩
  | cons piece rest ih =>
    obtain ⟨first, others⟩ := List.forall_mem_cons.mp areIdle
    obtain ⟨before, after, rfl, isFront, isBack⟩ :=
      splitAtChar_eq_append h ne (List.cons_ne_nil piece rest)
    -- The text after the slash begins with the idle piece, so the trail goes on behind that.
    have behind : splitAtChar '/' after = [piece] ++ rest := isBack
    obtain ⟨begun, trail, rfl, isPiece, trails⟩ := ih behind (List.cons_ne_nil piece []) others
    obtain rfl := eq_of_splitAtChar_eq_singleton isPiece
    refine ⟨before, '/' :: (begun ++ trail), rfl, isFront, ?_⟩
    rcases isIdle_ofList_iff.mp first with rfl | rfl
    · exact .slash trails
    · exact .dot trails

/-! ### Names at the end -/

/-- A path ends in a name. -/
def EndsIn (p : Path) (name : String) : Prop :=
  ∃ folder trail, p.text.toList = folder ++ name.toList ++ trail ∧
    (folder = [] ∨ folder.getLast? = some '/') ∧ isName name = true ∧ Trail trail

variable {p : Path} {name : String}

/-- The last part of a path is the last of its segments that is not idle. -/
theorem getLast?_parts_eq_some_iff :
    p.parts.getLast? = some name ↔ isIdle name = false ∧ ∃ folder idle,
      p.segments = folder ++ name :: idle ∧ ∀ segment ∈ idle, isIdle segment = true := by
  rw [parts, List.getLast?_filter, List.find?_eq_some_iff_append]
  simp only [Bool.not_eq_true', Bool.not_eq_false', List.reverse_eq_iff]
  refine and_congr_right fun _ => ⟨?_, ?_⟩
  · rintro ⟨idle, folder, segments, areIdle⟩
    refine ⟨folder.reverse, idle.reverse, by simp [segments], fun segment mem => ?_⟩
    exact areIdle segment (List.mem_reverse.mp mem)
  · rintro ⟨folder, idle, segments, areIdle⟩
    refine ⟨idle.reverse, folder.reverse, by simp [segments], fun segment mem => ?_⟩
    exact areIdle segment (List.mem_reverse.mp mem)

theorem fileName?_eq_some_iff_parts :
    p.fileName? = some name ↔ isName name = true ∧ p.parts.getLast? = some name := by
  have last : p.fileName? = some name ↔ p.parts.getLast? = some name ∧ name ≠ ".." := by
    unfold fileName?
    cases p.parts.getLast? with
    | none => simp
    | some last => grind
  rw [last, and_comm]
  refine and_congr_left fun isLast => ⟨fun notUp => ?_, isName_ne_up⟩
  obtain ⟨busy, folder, idle, segments, -⟩ := getLast?_parts_eq_some_iff.mp isLast
  have flat : '/' ∉ name.toList := flat_of_mem_segments (p := p) (by simp [segments])
  simp [isName, busy, notUp, flat]

theorem endsIn_iff_parts :
    p.EndsIn name ↔ isName name = true ∧ p.parts.getLast? = some name := by
  rw [getLast?_parts_eq_some_iff]
  constructor
  · rintro ⟨folder, trail, text, begins, named, trails⟩
    obtain ⟨idle, areIdle, split⟩ := trails.exists_idle
    have own := splitAtChar_of_notMem (isName_flat named)
    have front : ∃ pieces, splitAtChar '/' (folder ++ name.toList) = pieces ++ [name.toList] := by
      rcases begins with rfl | slash
      · exact ⟨[], own⟩
      · obtain ⟨before, rfl⟩ := List.getLast?_eq_some_iff.mp slash
        exact ⟨splitAtChar '/' before, by
          rw [List.append_assoc, List.singleton_append, splitAtChar_append, own]⟩
    obtain ⟨pieces, isFront⟩ := front
    refine ⟨named, isName_busy named, pieces.map String.ofList, idle.map String.ofList, ?_,
      List.forall_mem_map.mpr areIdle⟩
    rw [segments, text, split, isFront]
    simp
  · rintro ⟨named, -, folder, idle, isSegments, areIdle⟩
    obtain ⟨pieces, back, split, -, isBack⟩ := List.map_eq_append_iff.mp isSegments
    obtain ⟨piece, rest, rfl, rfl, rfl⟩ := List.map_eq_cons_iff.mp isBack
    rw [← List.singleton_append, ← List.append_assoc] at split
    obtain ⟨front, trail, text, isFront, trails⟩ :=
      exists_trail split (by simp) (List.forall_mem_map.mp areIdle)
    rw [EndsIn, text, String.toList_ofList]
    -- The name begins the path, or a slash stands before it.
    cases pieces with
    | nil =>
      obtain rfl := eq_of_splitAtChar_eq_singleton isFront
      exact ⟨[], trail, rfl, .inl rfl, named, trails⟩
    | cons first others =>
      obtain ⟨before, after, rfl, -, isPiece⟩ :=
        splitAtChar_eq_append isFront (List.cons_ne_nil first others) (List.cons_ne_nil piece [])
      obtain rfl := eq_of_splitAtChar_eq_singleton isPiece
      exact ⟨before ++ ['/'], trail, by simp, .inr (by simp), named, trails⟩

/-- The file name of a path is the name that it ends in. -/
theorem fileName?_eq_some_iff : p.fileName? = some name ↔ p.EndsIn name :=
  fileName?_eq_some_iff_parts.trans endsIn_iff_parts.symm

instance (p : Path) (name : String) : Decidable (p.EndsIn name) :=
  decidable_of_iff _ fileName?_eq_some_iff

/-- Slashes and dots after a name do not matter; after a step upwards the path ends in no name. -/
example :
    EndsIn ⟨"/m//user.toml/./"⟩ "user.toml" ∧ ¬ EndsIn ⟨"m/user.toml/.."⟩ "user.toml" := by
  decide +kernel

end SchemaTypes.Path
