import Mathlib.Algebra.GroupWithZero.Nat
import SchemaTypes.Proofs.Project.FileText
import SchemaTypes.Proofs.Project.Pass

/-!
What the files of a project declare together.

The file of a module declares the type names of its collections (`Settings.declared_eq_ok`), so the
files together declare those of the whole catalog, each once. What a file imports is declared by
another one, and what its members refer to is declared in the file itself or imported. All of these
names stand in the text of the file, each at its place (`Settings.fileText_of_output`).
`Settings.render_coverage` puts this together.
-/

namespace SchemaTypes

/-- Of some outputs, exactly one declares a type name, and it is this one. -/
structure Output.OnlyDeclares (outputs : List Output) (o : Output) (typeName : String) : Prop where
  mem : o ∈ outputs
  declares : typeName ∈ o.declarations.declared
  only : ∀ p ∈ outputs, typeName ∈ p.declarations.declared → p = o

namespace Settings

variable {s : Settings} {catalog : Catalog} {found : List (Module × Source)} {outputs : List Output}

/-! ### Single files -/

theorem declare_of_output {m : Module} {source : Source} {o : Output}
    (h : m.output s catalog source = .ok o) :
    catalog.declare s.policy m.collectionNames = .ok o.declarations := by
  obtain ⟨d, isDeclared, rfl⟩ := map_eq_ok_iff.mp h
  exact isDeclared

/-- The file of a module declares the type names of its collections. -/
theorem declared_of_output {m : Module} {source : Source} {o : Output}
    (h : m.output s catalog source = .ok o) :
    o.declarations.declared = m.collections.map (·.typeName) := by
  rw [Catalog.declared_of_declare (declare_of_output h), Module.collectionNames, List.map_map]
  rfl

/-- The file of a module is the text of one that imports, declares and refers to what its declarations
do. -/
theorem fileText_of_output {m : Module} {source : Source} {o : Output}
    (h : m.output s catalog source = .ok o) :
    FileText s.typing o.declarations.imported o.declarations.declared o.declarations.referenced
      o.content :=
  Catalog.fileText_of_declare (declare_of_output h)

/-! ### All files -/

section Files

variable (each : List.Forall₂ (fun x o => x.1.output s catalog x.2 = .ok o) found outputs)
include each

/-- The files declare the type names of all collections, in their order. -/
theorem flatMap_declared :
    outputs.flatMap (·.declarations.declared) =
      (collectionsOf (found.map (·.1))).map (·.typeName) := by
  induction each with
  | nil => rfl
  | cons first _ ih =>
    rw [List.flatMap_cons, declared_of_output first, ih, List.map_cons, collectionsOf_cons,
      List.map_append]

theorem sum_size :
    (outputs.map Output.size).sum = (collectionsOf (found.map (·.1))).length := by
  rw [← List.length_map (f := (·.typeName)), ← flatMap_declared each, List.length_flatMap]
  congr 1
  refine List.map_congr_left fun o _ => ?_
  rw [Declarations.declared, List.length_map]
  rfl

end Files

/-- Each collection of consistent modules is declared by the file of its own module only. -/
theorem exists_onlyDeclares {c : Collection} (names : (found.map (·.1.name)).Nodup)
    (consistent : Consistent (found.map (·.1)))
    (each : List.Forall₂
      (fun x o => x.1.output s ⟨registrationsOf (found.map (·.1))⟩ x.2 = .ok o) found outputs)
    (mem : c ∈ collectionsOf (found.map (·.1))) :
    ∃ o, Output.OnlyDeclares outputs o c.typeName ∧
      Catalog.owner? ⟨registrationsOf (found.map (·.1))⟩ c.name = some o.module := by
  have owner {x : Module × Source} (isFound : x ∈ found) (declared : c ∈ x.1.collections) :
      Catalog.owner? ⟨registrationsOf (found.map (·.1))⟩ c.name = some x.1.name :=
    ((@Consistent.reflects s.backend _ consistent).declared x.1 (List.mem_map_of_mem isFound) c
      declared).2.1
  obtain ⟨_, isModule, declared⟩ := List.mem_flatMap.mp mem
  obtain ⟨x, isFound, rfl⟩ := List.mem_map.mp isModule
  obtain ⟨o, isOutput, hOutput⟩ := exists_right_of_forall₂ each isFound
  refine ⟨o, ⟨isOutput, ?_, fun p isOther declares => ?_⟩, ?_⟩
  · rw [declared_of_output hOutput]
    exact List.mem_map_of_mem declared
  · obtain ⟨y, isFound', hOther⟩ := exists_left_of_forall₂ each isOther
    rw [declared_of_output hOther] at declares
    obtain ⟨d, declared', eq⟩ := List.mem_map.mp declares
    have memOther : d ∈ collectionsOf (found.map (·.1)) :=
      List.mem_flatMap.mpr ⟨y.1, List.mem_map_of_mem isFound', declared'⟩
    obtain rfl := List.inj_on_of_nodup_map consistent.typeNames memOther mem eq
    -- A collection has one owner, and modules of one name are the same.
    have sameName := (owner isFound' declared').symm.trans (owner isFound declared)
    obtain rfl := List.inj_on_of_nodup_map names isFound' isFound (Option.some.inj sameName)
    exact Except.ok.inj (hOther.symm.trans hOutput)
  · rw [owner isFound declared, (output_eq_ok hOutput).1]

/-- If a project is rendered, its files declare the type names of all collections of its catalog, in
their order and each once, in the file of the module that owns it. What a file imports is declared
by exactly one file, which is another one; and what its members refer to is either declared in it
or imported, but not both. These names are the ones that stand in the text of the file. -/
theorem render_coverage {t : FileTree} {rendering : Rendering} (h : s.render t = .ok rendering) :
    ∃ r storage, s.resolve t = .ok r ∧ Storage.ofModules s.backend r.modules = .ok storage ∧
      rendering.outputs.flatMap (·.declarations.declared) =
        storage.catalog.collections.map (·.typeName) ∧
      (storage.catalog.collections.map (·.typeName)).Nodup ∧
      (rendering.outputs.map Output.size).sum = storage.catalog.size ∧
      (∀ c ∈ storage.catalog.collections, ∃ o,
        Output.OnlyDeclares rendering.outputs o c.typeName ∧
          storage.catalog.owner? c.name = some o.module) ∧
      ∀ o ∈ rendering.outputs,
        (∀ typeName ∈ o.declarations.imported, ∃ p,
          Output.OnlyDeclares rendering.outputs p typeName ∧ p ≠ o) ∧
        (∀ typeName ∈ o.declarations.referenced,
          (typeName ∈ o.declarations.declared ∨ typeName ∈ o.declarations.imported) ∧
            ¬ (typeName ∈ o.declarations.declared ∧ typeName ∈ o.declarations.imported)) ∧
        FileText s.typing o.declarations.imported o.declarations.declared
          o.declarations.referenced o.content := by
  obtain ⟨found, resolved, distinct, outputs⟩ := found_of_render h
  obtain ⟨consistent, each⟩ := (outputs_eq_ok_iff distinct.names).mp outputs
  have collections := map_collection_registrationsOf (found.map (·.1))
  have frozen := consistent.frozen
  refine ⟨_, _, resolved, ofModules_eq_ok_iff.mpr ⟨consistent, rfl⟩, ?_⟩
  dsimp only [Resolution.of]
  rw [Catalog.collections, collections]
  refine ⟨flatMap_declared each, consistent.typeNames, ?_,
    fun c => exists_onlyDeclares distinct.names consistent each, fun o isOutput => ?_⟩
  · rw [sum_size each, ← collections, List.length_map]
    rfl
  · obtain ⟨x, isFound, hOutput⟩ := exists_left_of_forall₂ each isOutput
    have isDeclared := declare_of_output hOutput
    have apart {typeName : String} (isImported : typeName ∈ o.declarations.imported) :=
      frozen.notMem_declared_of_mem_imported isDeclared isImported
    refine ⟨?_, ?_, fileText_of_output hOutput⟩
    · intro typeName isImported
      obtain ⟨c, isForeign, rfl⟩ := (Catalog.mem_imported_iff isDeclared).mp isImported
      have mem := Catalog.mem_of_mem_foreign isForeign
      rw [Catalog.collections, collections] at mem
      obtain ⟨p, only, -⟩ := exists_onlyDeclares distinct.names consistent each mem
      refine ⟨p, only, ?_⟩
      rintro rfl
      exact apart isImported only.declares
    · intro typeName refers
      exact ⟨Catalog.declared_or_imported isDeclared refers, fun both => apart both.2 both.1⟩

/-- Two modules with a collection each, the second of which refers to the first. -/
def referringModules : FileTree where
  entries := [
    (["modules"], .folder),
    (["modules", "a.toml"], .file "name=\"T\"\ncollections=[\x7bname=\"t\"\x7d]".toUTF8),
    (["modules", "b.toml"], .file
      ("name=\"U\"\ncollections=[\x7bname=\"u\"," ++
        "relationships=[\x7btype=\"child_of\",collection=\"t\"\x7d]\x7d]").toUTF8)]
  current := []

theorem render_coverage_referringModules :
    ∃ rendering, (sendingTo ⟨"out"⟩).render referringModules = .ok rendering ∧
      rendering.outputs.map (·.declarations.imported) = [[], ["T"]] ∧
      (rendering.outputs.map Output.size).sum = 2 ∧
      (∀ o ∈ rendering.outputs, ∀ typeName ∈ o.declarations.imported, ∃ p,
        Output.OnlyDeclares rendering.outputs p typeName ∧ p ≠ o) ∧
      ∃ o ∈ rendering.outputs, FileText .generic ["T"] ["U"] ["T"] o.content := by
  have shows : ((sendingTo ⟨"out"⟩).render referringModules).map
      (fun r => ((r.outputs.map Output.size).sum, r.outputs.map fun o =>
        (o.declarations.imported, o.declarations.declared, o.declarations.referenced))) =
        .ok (2, [([], ["T"], []), (["T"], ["U"], ["T"])]) := by
    decide +kernel
  obtain ⟨rendering, rendered, isShown⟩ := map_eq_ok_iff.mp shows
  obtain ⟨size, names⟩ := Prod.mk.inj isShown
  have imports : rendering.outputs.map (·.declarations.imported) = [[], ["T"]] := by
    simpa [Function.comp_def] using congrArg (List.map Prod.fst) names
  obtain ⟨_, _, -, -, -, -, -, -, closed⟩ := render_coverage rendered
  have second : (["T"], ["U"], ["T"]) ∈ [([], ["T"], []), (["T"], ["U"], ["T"])] :=
    List.mem_cons_of_mem _ List.mem_cons_self
  rw [← names] at second
  obtain ⟨o, isOutput, own⟩ := List.mem_map.mp second
  obtain ⟨imported, others⟩ := Prod.mk.inj own
  obtain ⟨declared, referenced⟩ := Prod.mk.inj others
  have text := (closed o isOutput).2.2
  rw [imported, declared, referenced] at text
  exact ⟨rendering, rendered, imports, size, fun p mem => (closed p mem).1, o, isOutput, text⟩

end Settings

end SchemaTypes
