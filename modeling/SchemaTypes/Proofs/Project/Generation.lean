import SchemaTypes.Proofs.Project.Coverage
import SchemaTypes.Proofs.Schema.Refusal

/-!
Generation has nothing left to fail at.

The stages before generation establish what it relies on: resolution finds a source for each module
and modules of different names, and a storage is made only if every reference leads to one of its
collections. So once there is a storage each of its modules becomes an output
(`Settings.exists_output`), and a project is rendered or fails in one of the stages before
(`Settings.render_eq_error_iff`). The faults that generation has for what it relies on never occur
(`Settings.generation_spec`).
-/

namespace SchemaTypes

/-- A fault that the stages before generation rule out: they find a source for every module, tell
modules apart by their names, and register whatever is asked for. -/
def ProjectFault.IsRuledOut : ProjectFault → Prop
  | .noSource _ | .schema (.notRegistered _) | .schema (.duplicateModuleName _) => True
  | _ => False

/-! ### Storages -/

/-- A draft complains about what it is given, not about what it does not hold. -/
theorem Draft.Verdict.not_isRuledOut {d next : Draft} {owner : String} {c : Collection}
    {fault : SchemaFault} (h : d.Verdict owner c next (some fault)) :
    ¬ (ProjectFault.schema fault).IsRuledOut := by
  cases h <;> exact id

theorem Draft.not_isRuledOut_of_looseEnd? {d : Draft} {fault : SchemaFault}
    (h : d.looseEnd? = some fault) : ¬ (ProjectFault.schema fault).IsRuledOut := by
  obtain ⟨r, -, loose⟩ := List.exists_of_findSome?_eq_some h
  rcases Option.or_eq_some_iff.mp loose with dangling | ⟨-, misplaced⟩
  · obtain ⟨target, -, rfl⟩ := Option.map_eq_some_iff.mp dangling
    exact id
  · obtain ⟨index, -, rfl⟩ := Option.map_eq_some_iff.mp misplaced
    exact id

/-- Modules of different names are not refused for their names. -/
theorem not_isRuledOut_of_ofModules {backend : Backend} {modules : List Module}
    {fault : SchemaFault} (names : (modules.map (·.name)).Nodup)
    (failed : Storage.ofModules backend modules = .error fault) :
    ¬ (ProjectFault.schema fault).IsRuledOut := by
  rcases exists_of_ofModules_eq_error failed with
    ⟨before, m, rest, last, next, rfl, joined, refused⟩ | ⟨last, -, loose⟩
  · obtain ⟨-, -, rfl⟩ :=
      (Assembly.addAll_eq_ok_iff List.nodup_nil Draft.sound_empty).mp joined
    cases refused with
    | nameTaken taken =>
      rw [List.map_append, List.map_cons, List.nodup_append] at names
      exact absurd rfl (names.2.2 m.name taken m.name List.mem_cons_self)
    | collectionRefused _ _ _ _ verdict => exact verdict.not_isRuledOut
  · exact Draft.not_isRuledOut_of_looseEnd? loose

namespace Settings

variable {s : Settings} {t : FileTree} {fault : ProjectFault}

/-! ### Outputs -/

/-- Each module of a storage becomes an output. -/
theorem exists_output {r : Resolution} {storage : Storage} (resolved : s.resolve t = .ok r)
    (stored : Storage.ofModules s.backend r.modules = .ok storage) {m : Module}
    (mem : m ∈ storage.modules) :
    ∃ source o, r.source? m.name = some source ∧ m.output s storage.catalog source = .ok o := by
  obtain ⟨found, skipped, rfl, distinct⟩ := exists_of_resolve resolved
  obtain ⟨consistent, rfl⟩ := ofModules_eq_ok_iff.mp stored
  obtain ⟨⟨n, source⟩, isFound, rfl⟩ := List.mem_map.mp mem
  have registered : ∀ name ∈ n.collectionNames,
      Catalog.contains ⟨registrationsOf (found.map (·.1))⟩ name = true := by
    intro name isDeclared
    obtain ⟨c, declared, rfl⟩ := List.mem_map.mp isDeclared
    exact ((@Consistent.reflects s.backend _ consistent).declared n mem c declared).2.2
  obtain ⟨d, isDeclared⟩ :
      ∃ d, Catalog.declare ⟨registrationsOf (found.map (·.1))⟩ s.policy n.collectionNames = .ok d :=
    consistent.frozen.exists_declare registered
  refine ⟨source, _, ?_, map_eq_ok_iff.mpr ⟨d, isDeclared, rfl⟩⟩
  exact (Resolution.source?_eq_some_iff distinct.names).mpr ⟨n, isFound, rfl⟩

theorem exists_outputs {r : Resolution} {storage : Storage} (resolved : s.resolve t = .ok r)
    (stored : Storage.ofModules s.backend r.modules = .ok storage) :
    ∃ outputs, s.outputs r = .ok outputs := by
  have each : ∀ m ∈ storage.modules, ∃ o, s.outputOf r storage.catalog m = .ok o := by
    intro m mem
    obtain ⟨source, o, isSource, isOutput⟩ := exists_output resolved stored mem
    refine ⟨o, ?_⟩
    rw [outputOf, isSource]
    exact mapError_eq_ok_iff.mpr isOutput
  obtain ⟨outputs, all⟩ := exists_mapM_eq_ok each
  exact ⟨outputs, bind_eq_ok_iff.mpr ⟨storage, mapError_eq_ok_iff.mpr stored, all⟩⟩

/-- A project is rendered unless its modules cannot be resolved or do not make a storage. -/
theorem render_eq_error_iff :
    s.render t = .error fault ↔
      s.resolve t = .error fault ∨
        ∃ r cause, s.resolve t = .ok r ∧ Storage.ofModules s.backend r.modules = .error cause ∧
          fault = .schema cause := by
  constructor
  · intro failed
    rcases bind_eq_error_iff.mp failed with unresolved | ⟨r, resolved, failed⟩
    · exact .inl unresolved
    · refine .inr ⟨r, ?_⟩
      cases stored : Storage.ofModules s.backend r.modules with
      | error cause =>
        refine ⟨cause, resolved, rfl, ?_⟩
        have outputs : s.outputs r = .error (.schema cause) := by
          rw [Settings.outputs, stored]
          rfl
        rw [outputs] at failed
        exact (Except.error.inj failed).symm
      | ok storage =>
        obtain ⟨outputs, isOutputs⟩ := exists_outputs resolved stored
        rw [isOutputs] at failed
        cases failed
  · rintro (unresolved | ⟨r, cause, resolved, unstored, rfl⟩)
    · exact bind_eq_error_iff.mpr (.inl unresolved)
    · refine bind_eq_error_iff.mpr (.inr ⟨r, resolved, bind_eq_error_iff.mpr (.inl ?_)⟩)
      exact bind_eq_error_iff.mpr (.inl (mapError_eq_error_iff.mpr ⟨cause, unstored, rfl⟩))

/-! ### Faults -/

theorem not_isRuledOut_of_resolve (failed : s.resolve t = .error fault) : ¬ fault.IsRuledOut := by
  rcases bind_eq_error_iff.mp failed with undiscovered | ⟨entries, -, unresolved⟩
  · rw [discover_eq_error undiscovered]
    exact id
  · obtain ⟨cause, rfl⟩ := Resolution.ofEntries_eq_error unresolved
    exact id

theorem not_isRuledOut_of_render (failed : s.render t = .error fault) : ¬ fault.IsRuledOut := by
  rcases render_eq_error_iff.mp failed with unresolved | ⟨r, cause, resolved, unstored, rfl⟩
  · exact not_isRuledOut_of_resolve unresolved
  · obtain ⟨found, skipped, rfl, distinct⟩ := exists_of_resolve resolved
    refine not_isRuledOut_of_ofModules ?_ unstored
    simpa [Resolution.of, Function.comp_def] using distinct.names

/-- What cannot be compared cannot be read. -/
theorem stalePaths_eq_error {outputs : List Output}
    (failed : s.stalePaths t outputs = .error fault) : ∃ e, fault = .files e := by
  induction outputs with
  | nil => cases failed
  | cons o rest ih =>
    rcases bind_eq_error_iff.mp failed with unread | ⟨stale, -, failed⟩
    · unfold isStale at unread
      split at unread
      · cases unread
      · cases unread
      · exact ⟨_, (Except.error.inj unread).symm⟩
    · rcases bind_eq_error_iff.mp failed with failed | ⟨others, -, failed⟩
      · exact ih failed
      · cases failed

theorem not_isRuledOut_of_run {rehearses : Bool} (failed : (s.run rehearses t).2 = .error fault) :
    ¬ fault.IsRuledOut := by
  unfold run at failed
  split at failed
  · rename_i rendered
    obtain rfl := Except.error.inj failed
    exact not_isRuledOut_of_render rendered
  · -- Once the project is rendered, only writing can fail.
    unfold emit at failed
    dsimp only at failed
    split at failed
    · obtain rfl := Except.error.inj failed
      exact id
    · split at failed
      · obtain rfl := Except.error.inj failed
        exact id
      · cases failed

theorem not_isRuledOut_of_check (failed : s.check t = .error fault) : ¬ fault.IsRuledOut := by
  rcases bind_eq_error_iff.mp failed with unrendered | ⟨rendering, -, failed⟩
  · exact not_isRuledOut_of_render unrendered
  · rcases bind_eq_error_iff.mp failed with failed | ⟨stale, -, failed⟩
    · obtain ⟨e, rfl⟩ := stalePaths_eq_error failed
      exact id
    · cases failed

/-- Once a storage is built, generation cannot fail. Rendering, and so a pass or a check, never
reports that the source of a module is missing, that a collection is not registered or that two
modules share a name. Rendering fails only as resolution or the making of the storage does; if both
succeed, every module of the storage becomes an output. -/
theorem generation_spec (s : Settings) (t : FileTree) :
    (∀ fault, s.render t = .error fault → ¬ fault.IsRuledOut) ∧
      (∀ rehearses fault, (s.run rehearses t).2 = .error fault → ¬ fault.IsRuledOut) ∧
      (∀ fault, s.check t = .error fault → ¬ fault.IsRuledOut) ∧
      (∀ fault, s.render t = .error fault ↔
        s.resolve t = .error fault ∨
          ∃ r cause, s.resolve t = .ok r ∧ Storage.ofModules s.backend r.modules = .error cause ∧
            fault = .schema cause) ∧
      ∀ r storage, s.resolve t = .ok r → Storage.ofModules s.backend r.modules = .ok storage →
        (∀ m ∈ storage.modules, ∃ source o, r.source? m.name = some source ∧
          m.output s storage.catalog source = .ok o) ∧
        ∃ rendering, s.render t = .ok rendering := by
  refine ⟨fun _ => not_isRuledOut_of_render, fun _ _ => not_isRuledOut_of_run,
    fun _ => not_isRuledOut_of_check, fun _ => render_eq_error_iff, ?_⟩
  intro r storage resolved stored
  refine ⟨fun m mem => exists_output resolved stored mem, ?_⟩
  obtain ⟨outputs, isOutputs⟩ := exists_outputs resolved stored
  exact ⟨_, render_eq_ok_iff.mpr ⟨r, resolved, outputs, isOutputs, rfl⟩⟩

theorem generation_spec_referringModules :
    ∃ r storage, (sendingTo ⟨"out"⟩).resolve referringModules = .ok r ∧
      Storage.ofModules .memory r.modules = .ok storage ∧
      storage.modules.map (·.name) = ["T", "U"] ∧
      ∀ m ∈ storage.modules, ∃ source o, r.source? m.name = some source ∧
        m.output (sendingTo ⟨"out"⟩) storage.catalog source = .ok o := by
  have shows : ((sendingTo ⟨"out"⟩).resolve referringModules).map
      (fun r => (Storage.ofModules .memory r.modules).map fun storage =>
        storage.modules.map (·.name)) = .ok (.ok ["T", "U"]) := by
    decide +kernel
  obtain ⟨r, resolved, isShown⟩ := map_eq_ok_iff.mp shows
  obtain ⟨storage, stored, names⟩ := map_eq_ok_iff.mp isShown
  have generated := (generation_spec (sendingTo ⟨"out"⟩) referringModules).2.2.2.2
  exact ⟨r, storage, resolved, stored, names, (generated r storage resolved stored).1⟩

end Settings

end SchemaTypes
