import SchemaTypes.CommandLine.Session
import SchemaTypes.Proofs.Project.Checking

/-!
What the exit code of a check says.

The command line replaces none of the settings of a check
(`Invocation.overrides_eq_none_of_check`), so its exit code is decided by the settings file and by
the check of the project (`Settings.exitCode_checkStage`): nothing is stale, something is, or there
was a fault. A check changes no file, and if it ends with 0 a pass would not change one either
(`check_spec`).
-/

namespace SchemaTypes

/-! ### Arguments -/

/-- Only the making of declarations may replace settings. -/
theorem Reading.overrides_eq_none_of_check {r : Reading} {usual : Path} {name : CommandName}
    {source : Option Path} {overrides : Overrides}
    (asks : r.commandOf usual name = .work source overrides .check) : overrides = .none := by
  cases name with
  | generate => cases asks
  | check =>
    cases asks
    rfl
  | init => cases asks

theorem Invocation.overrides_eq_none_of_check {usual : Path} {args : List String} {i : Invocation}
    {source : Option Path} {overrides : Overrides} (isRead : ofArguments usual args = .ok i)
    (asks : i.command = .work source overrides .check) : overrides = .none := by
  obtain ⟨r, -, finished⟩ := bind_eq_ok_iff.mp isRead
  unfold Reading.finish at finished
  split at finished
  · cases finished
  · split at finished
    · cases finished
    · obtain rfl := Except.ok.inj finished
      cases named : r.command with
      | none =>
        rw [named] at asks
        cases asks
      | some name =>
        rw [named] at asks
        exact Reading.overrides_eq_none_of_check asks

theorem taskSettings_none (t : FileTree) (source : Option Path) :
    taskSettings t source .none = Settings.load t source := by
  unfold taskSettings
  cases Settings.load t source <;> rfl

/-! ### Exit codes -/

namespace Settings

variable {s : Settings} {t : FileTree}

theorem tree_checkStage : (s.checkStage t).tree = t := by
  unfold checkStage
  split
  · rfl
  · split <;> rfl

theorem exitCode_checkStage_of_ok {report : Report} (checks : s.check t = .ok report) :
    (s.checkStage t).session.exitCode = if report.stale = [] then 0 else 2 := by
  unfold checkStage Report.isCurrent
  rw [checks]
  dsimp only
  cases report.stale <;> rfl

theorem exitCode_checkStage_of_error {fault : ProjectFault} (failed : s.check t = .error fault) :
    (s.checkStage t).session.exitCode = 1 := by
  unfold checkStage
  rw [failed]
  cases fault with
  | validation reason => exact absurd failed (check_ne_validation reason)
  | _ => rfl

end Settings

/-- How a check ends: with the code that its settings file or its report stand for. -/
inductive ChecksWith (t : FileTree) (source : Option Path) : Nat → Prop where
  | unsettled {fault : SettingsFault} : Settings.load t source = .error fault →
      ChecksWith t source 1
  | failed {s : Settings} {fault : ProjectFault} : Settings.load t source = .ok s →
      s.check t = .error fault → ChecksWith t source 1
  | upToDate {s : Settings} {report : Report} : Settings.load t source = .ok s →
      s.check t = .ok report → report.stale = [] → ChecksWith t source 0
  | stale {s : Settings} {report : Report} : Settings.load t source = .ok s →
      s.check t = .ok report → report.stale ≠ [] → ChecksWith t source 2

/-- A check changes nothing, and ends as its settings file and its report say. -/
theorem checksWith_session {t : FileTree} {args : List String} {i : Invocation}
    {source : Option Path} {overrides : Overrides}
    (isRead : Invocation.ofArguments settingsPath args = .ok i)
    (asks : i.command = .work source overrides .check) :
    (Session.ofArguments t args).tree = t ∧
      ChecksWith t source (Session.ofArguments t args).exitCode := by
  obtain rfl := Invocation.overrides_eq_none_of_check isRead asks
  have session : Session.ofArguments t args = i.session t := by
    unfold Session.ofArguments
    rw [isRead]
  obtain ⟨command, verbose, quiet⟩ := i
  obtain rfl : command = .work source .none .check := asks
  rw [session]
  unfold Invocation.session
  dsimp only
  rw [taskSettings_none]
  cases loaded : Settings.load t source with
  | error fault => exact ⟨rfl, .unsettled loaded⟩
  | ok s =>
    refine ⟨Settings.tree_checkStage, ?_⟩
    show ChecksWith t source (s.checkStage t).session.exitCode
    cases checks : s.check t with
    | error fault =>
      rw [Settings.exitCode_checkStage_of_error checks]
      exact .failed loaded checks
    | ok report =>
      rw [Settings.exitCode_checkStage_of_ok checks]
      split
      · exact .upToDate loaded checks ‹_›
      · exact .stale loaded checks ‹_›

/-- A check of a project that can be rendered, none of whose outputs meets another obstacle than
that its file is missing, counts the outputs and reports the paths of those that are missing or have
other bytes, in their order. Asked for on the command line it changes nothing, and ends with 0 if it
reports nothing, with 2 if it reports anything, and with 1 if it fails. With 0 every output is
there, and a pass, whatever it comes to, changes no file. -/
theorem check_spec (t : FileTree) :
    (∀ s rendering, Settings.render s t = .ok rendering →
      (∀ o ∈ rendering.outputs, ∀ e, t.read (s.pathOf o) = .error e → e = .notFound) →
      s.check t = .ok ⟨(rendering.outputs.filter (s.Outdated t)).map s.pathOf,
        rendering.outputs.length⟩) ∧
    ∀ args i source overrides, Invocation.ofArguments settingsPath args = .ok i →
      i.command = .work source overrides .check →
      (Session.ofArguments t args).tree = t ∧
      ((Session.ofArguments t args).exitCode = 0 ↔
        ∃ s report, Settings.load t source = .ok s ∧ s.check t = .ok report ∧
          report.stale = []) ∧
      ((Session.ofArguments t args).exitCode = 2 ↔
        ∃ s report, Settings.load t source = .ok s ∧ s.check t = .ok report ∧
          report.stale ≠ []) ∧
      ((Session.ofArguments t args).exitCode = 1 ↔
        (∃ fault, Settings.load t source = .error fault) ∨
          ∃ s fault, Settings.load t source = .ok s ∧ s.check t = .error fault) ∧
      ((Session.ofArguments t args).exitCode = 0 →
        ∃ s rendering, Settings.load t source = .ok s ∧ s.render t = .ok rendering ∧
          t.ChangesOnly [] (s.output.folder.passes t.current) (s.run false t).1 ∧
          ∀ o ∈ rendering.outputs, t.read (s.pathOf o) = .ok o.content.toUTF8 ∧
            (s.run false t).1.read (s.pathOf o) = .ok o.content.toUTF8) := by
  refine ⟨fun s rendering rendered comparable =>
    Settings.check_eq_ok_iff.mpr ⟨rendering, rendered, comparable, rfl⟩, ?_⟩
  intro args i source overrides isRead asks
  obtain ⟨unchanged, ends⟩ := checksWith_session (t := t) isRead asks
  generalize (Session.ofArguments t args).exitCode = code at ends
  refine ⟨unchanged, ?_⟩
  cases ends with
  | unsettled unloaded => simp [unloaded]
  | failed loaded failed => simp [loaded, failed]
  | stale loaded checks stale => simp [loaded, checks, stale]
  | @upToDate s report loaded checks upToDate =>
    refine ⟨by simp [loaded, checks, upToDate], by simp [loaded, checks, upToDate],
      by simp [loaded, checks], fun _ => ?_⟩
    obtain ⟨rendering, rendered, comparable, rfl⟩ := Settings.check_eq_ok_iff.mp checks
    have current := (Settings.outdatedPaths_eq_nil_iff comparable).mp upToDate
    have grows := Settings.grows_of_upToDate rendered current
    have changes : t.ChangesOnly [] (s.output.folder.passes t.current) (s.run false t).1 :=
      (grows.mono (fun _ => id) fun _ => False.elim).changesOnly
    exact ⟨s, rendering, loaded, rendered, changes,
      fun o mem => ⟨current o mem, grows.read id (current o mem)⟩⟩

/-- A project with one module, and a file of its declarations with a certain content. -/
def generatedProject (content : String) : FileTree where
  entries := [
    (["src"], .folder),
    (["src", "storage"], .folder),
    (["src", "storage", "modules"], .folder),
    (["src", "storage", "modules", "a.toml"], .file "name = \"A\"\n".toUTF8),
    (["src", "types"], .folder),
    (["src", "types", "generated"], .folder),
    (["src", "types", "generated", "a.ts"], .file content.toUTF8)]
  current := []

/-- The declarations of a module without collections are a header, and no other file will do. -/
theorem check_spec_generatedProject :
    (Session.ofArguments (generatedProject "") ["check"]).exitCode = 2 ∧
      (Session.ofArguments (generatedProject outputHeader) ["check"]).exitCode = 0 ∧
      ∃ (s : Settings) (rendering : Rendering),
        s.render (generatedProject outputHeader) = .ok rendering ∧
        (generatedProject outputHeader).ChangesOnly [] (s.output.folder.passes [])
          (s.run false (generatedProject outputHeader)).1 := by
  have isRead : Invocation.ofArguments settingsPath ["check"] =
      .ok ⟨.work none .none .check, false, false⟩ := by
    decide +kernel
  have fresh : (Session.ofArguments (generatedProject outputHeader) ["check"]).exitCode = 0 := by
    decide +kernel
  obtain ⟨-, -, -, -, upToDate⟩ := (check_spec _).2 ["check"] _ none .none isRead rfl
  obtain ⟨s, rendering, -, rendered, changes, -⟩ := upToDate fresh
  exact ⟨by decide +kernel, fresh, s, rendering, rendered, changes⟩

end SchemaTypes
