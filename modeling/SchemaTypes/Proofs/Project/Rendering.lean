import SchemaTypes.Project.Pass
import SchemaTypes.Proofs.Project.Discovery
import SchemaTypes.Proofs.Project.Resolution
import SchemaTypes.Proofs.Schema.Consistency

/-!
What a project is rendered to.

Every module that resolution finds becomes one output, in the order of their discovery
(`outputs_eq_ok_iff`), and is named after its entry (`outputs_eq_ok`). So the file names of the
outputs differ, as base names do, and have no slashes if the extension has none (`Separate`).
Rendering fails for the reasons in `ProjectFault.IsEarly` only.
-/

namespace SchemaTypes

/-- A fault found before anything is written. -/
def ProjectFault.IsEarly : ProjectFault → Prop
  | .noFolder _ | .identity _ | .schema _ | .noSource _ => True
  | .settings _ | .write _ | .watch _ | .validation _ | .files _ => False

/-! ### Outputs -/

namespace Settings

variable {s : Settings} {t : FileTree}

theorem output_eq_ok {catalog : Catalog} {m : Module} {source : Source} {o : Output}
    (h : m.output s catalog source = .ok o) :
    o.module = m.name ∧ o.fileName = source.outputName s.output.extension := by
  obtain ⟨declarations, -, rfl⟩ := map_eq_ok_iff.mp h
  exact ⟨rfl, rfl⟩

/-- The outputs are those of the modules that were found, in their order, with the catalog of all
their collections. -/
theorem outputs_eq_ok_iff {found : List (Module × Source)} {skipped : List Skipped}
    {outputs : List Output} (names : (found.map (·.1.name)).Nodup) :
    s.outputs (.of found skipped) = .ok outputs ↔
      Consistent (found.map (·.1)) ∧
        List.Forall₂ (fun x o => x.1.output s ⟨registrationsOf (found.map (·.1))⟩ x.2 = .ok o)
          found outputs := by
  have each (catalog : Catalog) : (found.map (·.1)).mapM (s.outputOf (.of found skipped) catalog) =
      found.mapM fun x => (x.1.output s catalog x.2).mapError .schema := by
    rw [List.mapM_map]
    refine mapM_congr fun x mem => ?_
    have source : (Resolution.of found skipped).source? x.1.name = some x.2 :=
      (Resolution.source?_eq_some_iff names).mpr ⟨x.1, mem, rfl⟩
    rw [Function.comp_apply, outputOf, source]
  have all (catalog : Catalog) :
      (found.map (·.1)).mapM (s.outputOf (.of found skipped) catalog) = .ok outputs ↔
        List.Forall₂ (fun x o => x.1.output s catalog x.2 = .ok o) found outputs := by
    rw [each]
    simp only [mapM_eq_ok_iff, mapError_eq_ok_iff]
  simp only [Settings.outputs, bind_eq_ok_iff, mapError_eq_ok_iff, ofModules_eq_ok_iff]
  constructor
  · rintro ⟨storage, ⟨consistent, rfl⟩, h⟩
    exact ⟨consistent, (all _).mp h⟩
  · rintro ⟨consistent, h⟩
    exact ⟨_, ⟨consistent, rfl⟩, (all _).mpr h⟩

/-- Each module becomes one output, which is named after its source. -/
theorem outputs_eq_ok {found : List (Module × Source)} {skipped : List Skipped}
    {outputs : List Output} (names : (found.map (·.1.name)).Nodup)
    (h : s.outputs (.of found skipped) = .ok outputs) :
    outputs.map (·.module) = found.map (·.1.name) ∧
      outputs.map (·.fileName) = found.map (·.2.outputName s.output.extension) := by
  have pairs := ((outputs_eq_ok_iff names).mp h).2.imp fun _ _ => output_eq_ok
  constructor
  · rw [eq_comm, ← List.forall₂_eq_eq_eq, List.forall₂_map_left_iff, List.forall₂_map_right_iff]
    exact pairs.imp fun _ _ h => h.1.symm
  · rw [eq_comm, ← List.forall₂_eq_eq_eq, List.forall₂_map_left_iff, List.forall₂_map_right_iff]
    exact pairs.imp fun _ _ h => h.2.symm

theorem outputs_eq_error {r : Resolution} {fault : ProjectFault}
    (h : s.outputs r = .error fault) : fault.IsEarly := by
  rcases bind_eq_error_iff.mp h with h | ⟨storage, -, h⟩
  · obtain ⟨cause, -, rfl⟩ := mapError_eq_error_iff.mp h
    trivial
  · obtain ⟨m, -, h⟩ := mapM_eq_error h
    unfold outputOf at h
    split at h
    · obtain ⟨cause, -, rfl⟩ := mapError_eq_error_iff.mp h
      trivial
    · cases h
      trivial

/-! ### Renderings -/

theorem render_eq_ok_iff {rendering : Rendering} :
    s.render t = .ok rendering ↔
      ∃ r, s.resolve t = .ok r ∧ ∃ outputs, s.outputs r = .ok outputs ∧
        rendering = ⟨outputs, r.skipped⟩ := by
  simp only [render, bind_eq_ok_iff, pure_eq_ok_iff, @eq_comm _ rendering]

/-- What is resolved are modules of different names and base names. -/
theorem exists_of_resolve {r : Resolution} (resolved : s.resolve t = .ok r) :
    ∃ found skipped, r = .of found skipped ∧ Resolution.Distinct found := by
  obtain ⟨entries, -, hEntries⟩ := bind_eq_ok_iff.mp resolved
  obtain ⟨-, distinct, rfl⟩ := Resolution.ofEntries_eq_ok_iff.mp hEntries
  exact ⟨_, _, rfl, distinct⟩

/-- What is rendered are the modules that were found, which are consistent. -/
theorem found_of_render {rendering : Rendering} (h : s.render t = .ok rendering) :
    ∃ found, s.resolve t = .ok (.of found rendering.skipped) ∧ Resolution.Distinct found ∧
      s.outputs (.of found rendering.skipped) = .ok rendering.outputs := by
  obtain ⟨r, resolved, outputs, hOutputs, rfl⟩ := render_eq_ok_iff.mp h
  obtain ⟨found, skipped, rfl, distinct⟩ := exists_of_resolve resolved
  exact ⟨found, resolved, distinct, hOutputs⟩

/-- Rendering fails early or not at all. -/
theorem render_eq_error {fault : ProjectFault} (h : s.render t = .error fault) : fault.IsEarly := by
  rcases bind_eq_error_iff.mp h with h | ⟨r, -, h⟩
  · rcases bind_eq_error_iff.mp h with h | ⟨entries, -, h⟩
    · rw [discover_eq_error h]
      trivial
    · obtain ⟨cause, rfl⟩ := Resolution.ofEntries_eq_error h
      trivial
  · rcases bind_eq_error_iff.mp h with h | ⟨outputs, -, h⟩
    · exact outputs_eq_error h
    · cases h

end Settings

/-- Outputs can be kept apart in one folder: their file names differ, and have a dot but no
slashes. -/
structure Separate (outputs : List Output) : Prop where
  nodup : (outputs.map (·.fileName)).Nodup
  dotted : ∀ o ∈ outputs, '.' ∈ o.fileName.toList
  flat : ∀ o ∈ outputs, '/' ∉ o.fileName.toList

theorem Separate.ne {outputs : List Output} (h : Separate outputs) {o : Output}
    (mem : o ∈ outputs) : o.fileName ≠ "" := by
  intro empty
  have dotted := h.dotted o mem
  rw [empty] at dotted
  cases dotted

theorem Separate.of_append_left {outputs others : List Output} (h : Separate (outputs ++ others)) :
    Separate outputs :=
  ⟨(List.map_append ▸ h.nodup).of_append_left,
    fun o mem => h.dotted o (List.mem_append_left _ mem),
    fun o mem => h.flat o (List.mem_append_left _ mem)⟩

theorem Separate.of_cons {o : Output} {rest : List Output} (h : Separate (o :: rest)) :
    (∀ q ∈ rest, q.fileName ≠ o.fileName) ∧ Separate rest := by
  obtain ⟨new, nodup⟩ := List.nodup_cons.mp h.nodup
  exact ⟨fun q mem eq => new (List.mem_map.mpr ⟨q, mem, eq⟩), nodup,
    fun q mem => h.dotted q (List.mem_cons_of_mem _ mem),
    fun q mem => h.flat q (List.mem_cons_of_mem _ mem)⟩

/-- The base names of declarations come from the names of entries. -/
theorem flat_of_mem_found {t : FileTree} {s : ModuleSettings} {entries : List Entry}
    (discovered : discover t s = .ok entries) {m : Module} {source : Source}
    (h : (m, source) ∈ entries.filterMap (·.found? t s)) : '/' ∉ source.base.toList := by
  obtain ⟨e, isEntry, found⟩ := List.mem_filterMap.mp h
  rw [(discover_eq_ok_iff.mp discovered).2] at isEntry
  exact Entry.flat_of_found? (mem_entriesOf (List.mem_filter.mp isEntry).1).1 found

theorem Source.outputName_injective {extension : String} {a b : Source}
    (h : a.outputName extension = b.outputName extension) : a.base = b.base := by
  have := congrArg String.toList h
  simp only [outputName, String.toList_append, List.append_assoc] at this
  exact String.toList_injective (List.append_cancel_right this)

/-- The outputs are those of the modules, in the order of their discovery, and can be kept apart if
the extension has no slashes. -/
theorem Settings.render_spec {s : Settings} {t : FileTree} {rendering : Rendering}
    (flat : '/' ∉ s.output.extension.toList) (h : s.render t = .ok rendering) :
    Separate rendering.outputs ∧
      ∃ r, s.resolve t = .ok r ∧ rendering.outputs.map (·.module) = r.modules.map (·.name) := by
  obtain ⟨r, resolved, outputs, hOutputs, rfl⟩ := render_eq_ok_iff.mp h
  obtain ⟨entries, discovered, hEntries⟩ := bind_eq_ok_iff.mp resolved
  obtain ⟨-, distinct, rfl⟩ := Resolution.ofEntries_eq_ok_iff.mp hEntries
  obtain ⟨modules, fileNames⟩ := outputs_eq_ok distinct.names hOutputs
  have name : ∀ o ∈ outputs, ∃ source : Source,
      o.fileName = source.outputName s.output.extension ∧ '/' ∉ source.base.toList := by
    intro o mem
    have isFileName := List.mem_map_of_mem (f := (·.fileName)) mem
    rw [fileNames] at isFileName
    obtain ⟨⟨m, source⟩, isFound, eq⟩ := List.mem_map.mp isFileName
    exact ⟨source, eq.symm, flat_of_mem_found discovered isFound⟩
  refine ⟨⟨?_, fun o mem => ?_, fun o mem => ?_⟩, _, resolved, ?_⟩
  · rw [fileNames]
    refine List.Pairwise.map _ (fun a b differ eq => ?_) (List.pairwise_map.mp distinct.bases)
    exact differ (Source.outputName_injective eq)
  · obtain ⟨source, eq, -⟩ := name o mem
    rw [eq, Source.outputName]
    simp
  · obtain ⟨source, eq, sourceFlat⟩ := name o mem
    rw [eq, Source.outputName]
    simp [sourceFlat, flat]
  · rw [modules]
    simp [Resolution.of]

end SchemaTypes
