import SchemaTypes.Proofs.Declaration.OfCatalog
import SchemaTypes.Proofs.Project.Pass

/-!
What the file of a module depends on.

Declarations read no more of a catalog than the requested collections and the primary keys of what
these refer to (`Catalog.AgreeOn.declare_eq`): not who declares a collection, in which order, or
what else the target of a reference consists of. So the file of a module stays as it is whatever
becomes of the other modules of its project, as long as these keys keep their names
(`Settings.output_locality`).
-/

namespace SchemaTypes

/-! ### Catalogs -/

namespace Catalog

/-- Two catalogs hold the same collections under some names, and what these refer to has the same
primary key in both. -/
structure AgreeOn (first second : Catalog) (names : List String) : Prop where
  same : ∀ name ∈ names, first.find? name = second.find? name
  keys : ∀ name ∈ names, ∀ c ∈ first.find? name, ∀ target ∈ c.targets,
    (first.find? target).map (·.primaryKey) = (second.find? target).map (·.primaryKey)

variable {first second : Catalog} {policy : Policy} {names : List String} {c : Collection}

/-- Collections of one name and one primary key cannot be told apart by those that refer to them. -/
theorem find?_none_or_alike {target : String}
    (h : (first.find? target).map (·.primaryKey) = (second.find? target).map (·.primaryKey)) :
    (first.find? target = none ∧ second.find? target = none) ∨
      ∃ a b, first.find? target = some a ∧ second.find? target = some b ∧ a.name = b.name ∧
        a.primaryKey = b.primaryKey := by
  cases isFirst : first.find? target with
  | none =>
    cases isSecond : second.find? target with
    | none => exact .inl ⟨rfl, rfl⟩
    | some b => simp [isFirst, isSecond] at h
  | some a =>
    cases isSecond : second.find? target with
    | none => simp [isFirst, isSecond] at h
    | some b =>
      rw [isFirst, isSecond] at h
      have name : a.name = b.name := by rw [name_of_find? isFirst, name_of_find? isSecond]
      exact .inr ⟨a, b, rfl, rfl, name, Option.some.inj h⟩

theorem reference_congr {r : Relationship}
    (h : (first.find? r.target).map (·.primaryKey) = (second.find? r.target).map (·.primaryKey)) :
    first.reference c r = second.reference c r := by
  unfold reference
  rcases find?_none_or_alike h with ⟨isFirst, isSecond⟩ | ⟨a, b, isFirst, isSecond, name, key⟩
  · rw [isFirst, isSecond]
  · rw [isFirst, isSecond]
    simp only [Relationship.toMember, Collection.typeName, name, key]

theorem map_importOf_congr {target : String}
    (h : (first.find? target).map (·.primaryKey) = (second.find? target).map (·.primaryKey)) :
    (first.find? target).map (importOf policy) = (second.find? target).map (importOf policy) := by
  rcases find?_none_or_alike h with ⟨isFirst, isSecond⟩ | ⟨a, b, isFirst, isSecond, name, -⟩
  · rw [isFirst, isSecond]
  · rw [isFirst, isSecond]
    simp only [Option.map_some, importOf, Collection.typeName, name]

namespace AgreeOn

theorem interface_eq (h : AgreeOn first second names) {name : String} (mem : name ∈ names) :
    first.interface policy name = second.interface policy name := by
  unfold interface
  rw [← h.same name mem]
  cases found : first.find? name with
  | none => rfl
  | some c =>
    have references : c.relationships.mapM (first.reference c) =
        c.relationships.mapM (second.reference c) :=
      mapM_congr fun r isRelationship =>
        reference_congr (h.keys name mem c found r.target (List.mem_map_of_mem isRelationship))
    dsimp only
    rw [interfaceOf, interfaceOf, references]

theorem imports_eq (h : AgreeOn first second names) :
    first.imports policy names = second.imports policy names := by
  have own : names.filterMap second.find? = names.filterMap first.find? :=
    List.filterMap_congr fun name mem => (h.same name mem).symm
  have targets : ∀ c ∈ names.filterMap first.find?,
      (first.foreignTargets names c).map (importOf policy) =
        (second.foreignTargets names c).map (importOf policy) := by
    intro c isOwn
    obtain ⟨name, mem, found⟩ := List.mem_filterMap.mp isOwn
    rw [foreignTargets, foreignTargets, List.map_filterMap, List.map_filterMap]
    refine List.filterMap_congr fun target isTarget => ?_
    exact map_importOf_congr (h.keys name mem c found target (List.mem_filter.mp isTarget).1)
  rw [imports, imports, foreign, foreign, own, List.map_flatMap, List.map_flatMap,
    List.flatMap_congr targets]

/-- Catalogs that agree on the requested collections declare them alike, or fail alike. -/
theorem declare_eq (h : AgreeOn first second names) :
    first.declare policy names = second.declare policy names := by
  rw [declare, declare, mapM_congr fun _ => h.interface_eq, h.imports_eq]

end AgreeOn

end Catalog

theorem Module.output_eq_of_agreeOn {s : Settings} {m : Module} {source : Source}
    {first second : Catalog} (h : first.AgreeOn second m.collectionNames) :
    m.output s first source = m.output s second source := by
  rw [output, output, h.declare_eq]

theorem Module.output_eq_of_base {s : Settings} {m : Module} {source other : Source}
    {catalog : Catalog} (h : source.base = other.base) :
    m.output s catalog source = m.output s catalog other := by
  rw [output, output, Source.outputName, Source.outputName, h]

/-! ### Projects -/

/-- The primary key of the collection that some module declares under a given name. -/
def keyIn (modules : List Module) (name : String) : Option String :=
  ((collectionsOf modules).find? (·.name = name)).map (·.primaryKey)

theorem find?_registrationsOf (modules : List Module) (name : String) :
    (⟨registrationsOf modules⟩ : Catalog).find? name =
      (collectionsOf modules).find? (·.name = name) := by
  rw [← map_collection_registrationsOf, List.find?_map]
  rfl

namespace Settings

variable {s : Settings}

/-- A module that is found becomes one of the outputs. -/
theorem find?_outputs {found : List (Module × Source)} {skipped : List Skipped}
    {outputs : List Output} (names : (found.map (·.1.name)).Nodup)
    (h : s.outputs (.of found skipped) = .ok outputs) {m : Module} {source : Source}
    (mem : (m, source) ∈ found) :
    ∃ o, m.output s ⟨registrationsOf (found.map (·.1))⟩ source = .ok o ∧
      outputs.find? (·.module = m.name) = some o := by
  obtain ⟨o, isOutput, hOutput⟩ :=
    exists_right_of_forall₂ ((outputs_eq_ok_iff names).mp h).2 mem
  refine ⟨o, hOutput, (find?_key_eq_some_iff (fun o : Output => o.module) ?_).mpr
    ⟨isOutput, (output_eq_ok hOutput).1⟩⟩
  rw [(outputs_eq_ok names h).1]
  exact names

/-- Consistent modules give catalogs that agree on a module that belongs to both, if what it refers
to has the same primary key among both. -/
theorem agreeOn_of_mem {modules others : List Module} (consistent : Consistent modules)
    (consistent' : Consistent others) {m : Module} (mem : m ∈ modules) (mem' : m ∈ others)
    (keys : ∀ c ∈ m.collections, ∀ target ∈ c.targets, keyIn modules target = keyIn others target) :
    (⟨registrationsOf modules⟩ : Catalog).AgreeOn ⟨registrationsOf others⟩ m.collectionNames := by
  have own {modules : List Module} (consistent : Consistent modules) (mem : m ∈ modules)
      {c : Collection} (declared : c ∈ m.collections) :
      (⟨registrationsOf modules⟩ : Catalog).find? c.name = some c := by
    refine consistent.frozen.find?_eq_some_iff.mpr ⟨?_, rfl⟩
    rw [Catalog.collections, map_collection_registrationsOf]
    exact List.mem_flatMap.mpr ⟨m, mem, declared⟩
  constructor
  · intro name isName
    obtain ⟨c, declared, rfl⟩ := List.mem_map.mp isName
    rw [own consistent mem declared, own consistent' mem' declared]
  · intro name isName d found target isTarget
    obtain ⟨c, declared, rfl⟩ := List.mem_map.mp isName
    rw [own consistent mem declared, Option.mem_some_iff] at found
    subst found
    rw [find?_registrationsOf, find?_registrationsOf]
    exact keys c declared target isTarget

/-- The file of a module depends on its own collections and the primary keys that they refer to. In
two catalogs that agree on these it is the same, and generation fails in one if it does in the
other. So if a project is rendered before and after any change, a module that it has both times,
under the same base name, has the same file, unless the name of a primary key has changed that it
refers to. -/
theorem output_locality (s : Settings) (m : Module) :
    (∀ source first second, Catalog.AgreeOn first second m.collectionNames →
      m.output s first source = m.output s second source) ∧
    ∀ t later r rLater rendering renderingLater,
      s.resolve t = .ok r → s.render t = .ok rendering →
      s.resolve later = .ok rLater → s.render later = .ok renderingLater →
      m ∈ r.modules → m ∈ rLater.modules →
      (r.source? m.name).map (·.base) = (rLater.source? m.name).map (·.base) →
      (∀ c ∈ m.collections, ∀ target ∈ c.targets,
        keyIn r.modules target = keyIn rLater.modules target) →
      ∃ o, rendering.outputs.find? (·.module = m.name) = some o ∧
        renderingLater.outputs.find? (·.module = m.name) = some o := by
  refine ⟨fun _ _ _ => Module.output_eq_of_agreeOn, ?_⟩
  intro t later r rLater rendering renderingLater resolved rendered resolvedLater renderedLater mem
    memLater base keys
  obtain ⟨found, resolved', distinct, outputs⟩ := found_of_render rendered
  obtain ⟨foundLater, resolvedLater', distinctLater, outputsLater⟩ := found_of_render renderedLater
  obtain rfl := Except.ok.inj (resolved.symm.trans resolved')
  obtain rfl := Except.ok.inj (resolvedLater.symm.trans resolvedLater')
  obtain ⟨⟨_, source⟩, isFound, rfl⟩ := List.mem_map.mp mem
  obtain ⟨⟨_, sourceLater⟩, isFoundLater, rfl⟩ := List.mem_map.mp memLater
  rw [(Resolution.source?_eq_some_iff distinct.names).mpr ⟨_, isFound, rfl⟩,
    (Resolution.source?_eq_some_iff distinctLater.names).mpr ⟨_, isFoundLater, rfl⟩] at base
  have consistent := ((outputs_eq_ok_iff distinct.names).mp outputs).1
  have consistentLater := ((outputs_eq_ok_iff distinctLater.names).mp outputsLater).1
  obtain ⟨o, hOutput, isFirst⟩ := find?_outputs distinct.names outputs isFound
  obtain ⟨oLater, hOutputLater, isSecond⟩ :=
    find?_outputs distinctLater.names outputsLater isFoundLater
  rw [Module.output_eq_of_base (Option.some.inj base), Module.output_eq_of_agreeOn
    (agreeOn_of_mem consistent consistentLater mem memLater keys), hOutputLater] at hOutput
  obtain rfl := Except.ok.inj hOutput
  exact ⟨oLater, isFirst, isSecond⟩

/-- A module with one collection, which refers to another module's. -/
def userModule : Module :=
  ⟨"U", [⟨"user", none, [], [⟨.childOf, "team", none, false⟩], []⟩]⟩

/-- A catalog in which the collections of another module come first. -/
def teamsFirst : Catalog where
  entries := [
    ⟨"Teams", ⟨"team", none, [⟨"slug", .autoPk, false, none⟩], [], []⟩⟩,
    ⟨"Teams", ⟨"badge", none, [], [], []⟩⟩] ++ userModule.registrations

/-- A catalog in which `team` has moved to another module, further down, and has been edited; its
primary key is called as before. -/
def groupsLast : Catalog where
  entries := userModule.registrations ++ [
    ⟨"Groups", ⟨"team", some "A team.",
      [⟨"size", .int, true, none⟩, ⟨"slug", .autoPk, false, none⟩],
      [⟨.childOf, "team", some "parent", true⟩], ["size"]⟩⟩]

/-- A project of this module and another one. -/
def usersBeside (file text : String) : FileTree where
  entries := [
    (["modules"], .folder),
    (["modules", file], .file text.toUTF8),
    (["modules", "u.toml"], .file ("name=\"U\"\ncollections=[\x7bname=\"user\"," ++
      "relationships=[\x7btype=\"child_of\",collection=\"team\"\x7d]\x7d]").toUTF8)]
  current := []

/-- The project before the change. -/
def usersAndTeams : FileTree :=
  usersBeside "a.toml" "name=\"T\"\ncollections=[\x7bname=\"team\"\x7d]"

/-- The project after it: the teams have moved to another file and module, behind a new
collection. -/
def usersAndGroups : FileTree :=
  usersBeside "z.toml" "name=\"Z\"\ncollections=[\x7bname=\"x\"\x7d,\x7bname=\"team\"\x7d]"

theorem output_locality_movedTeams :
    (teamsFirst.Frozen ∧ groupsLast.Frozen ∧
      userModule.output .default teamsFirst ⟨⟨"user.toml"⟩, "user", true⟩ =
        userModule.output .default groupsLast ⟨⟨"user.toml"⟩, "user", true⟩) ∧
      ∃ rendering renderingLater o, (sendingTo ⟨"out"⟩).render usersAndTeams = .ok rendering ∧
        (sendingTo ⟨"out"⟩).render usersAndGroups = .ok renderingLater ∧
        rendering.outputs.find? (·.module = "U") = some o ∧
        renderingLater.outputs.find? (·.module = "U") = some o := by
  have agree : teamsFirst.AgreeOn groupsLast userModule.collectionNames :=
    ⟨by decide +kernel, by decide +kernel⟩
  refine ⟨⟨by decide +kernel, by decide +kernel,
    (output_locality .default userModule).1 _ _ _ agree⟩, ?_⟩
  have shows : ((sendingTo ⟨"out"⟩).resolve usersAndTeams).map
      (fun r => (r.modules, (r.source? "U").map (·.base),
        ((sendingTo ⟨"out"⟩).outputs r).map (·.length))) =
      .ok ([⟨"T", [⟨"team", none, [], [], []⟩]⟩, userModule], some "u", .ok 2) := by
    decide +kernel
  have showsLater : ((sendingTo ⟨"out"⟩).resolve usersAndGroups).map
      (fun r => (r.modules, (r.source? "U").map (·.base),
        ((sendingTo ⟨"out"⟩).outputs r).map (·.length))) =
      .ok ([userModule, ⟨"Z", [⟨"x", none, [], [], []⟩, ⟨"team", none, [], [], []⟩]⟩], some "u",
        .ok 2) := by
    decide +kernel
  obtain ⟨r, resolved, shown⟩ := map_eq_ok_iff.mp shows
  obtain ⟨rLater, resolvedLater, shownLater⟩ := map_eq_ok_iff.mp showsLater
  simp only [Prod.mk.injEq, map_eq_ok_iff] at shown shownLater
  obtain ⟨modules, base, outputs, isRendered, -⟩ := shown
  obtain ⟨modulesLater, baseLater, outputsLater, isRenderedLater, -⟩ := shownLater
  have rendered := render_eq_ok_iff.mpr ⟨r, resolved, outputs, isRendered, rfl⟩
  have renderedLater :=
    render_eq_ok_iff.mpr ⟨rLater, resolvedLater, outputsLater, isRenderedLater, rfl⟩
  have keys : ∀ c ∈ userModule.collections, ∀ target ∈ c.targets,
      keyIn r.modules target = keyIn rLater.modules target := by
    rw [modules, modulesLater]
    decide +kernel
  obtain ⟨o, isFirst, isSecond⟩ :=
    (output_locality (sendingTo ⟨"out"⟩) userModule).2 _ _ _ _ _ _ resolved rendered resolvedLater
      renderedLater (by simp [modules]) (by simp [modulesLater]) (base.trans baseLater.symm) keys
  exact ⟨_, _, o, rendered, renderedLater, isFirst, isSecond⟩

end Settings

end SchemaTypes
