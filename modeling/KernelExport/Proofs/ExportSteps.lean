/-
This file says what single steps of an export come to, and what is left behind by them besides
files: diagnostics and commands are only ever added (`Appends`).
-/

import KernelExport.Export.Basic
import KernelExport.Proofs.Confinement

namespace KernelExport

variable {Failure Result : Type}

namespace ExportAction

/-! ### Steps -/

theorem run_onFiles (meaning : Failure → ExportError)
    (action : ExceptT Failure (StateM FileSystem) Result) (state : ExportState) :
    (onFiles meaning action).run state = ((action.run state.files).1.mapError meaning,
      { state with files := (action.run state.files).2 }) := by
  rw [onFiles, run_bind, run_get]
  rcases ran : action.run state.files with ⟨_ | _, files⟩ <;> simp only [ran] <;> rfl

theorem run_onFiles_eq_ok_iff {meaning : Failure → ExportError}
    {action : ExceptT Failure (StateM FileSystem) Result} {state after : ExportState}
    {value : Result} :
    (onFiles meaning action).run state = (.ok value, after) ↔
      ∃ files, action.run state.files = (.ok value, files) ∧ after = { state with files } := by
  rw [run_onFiles]
  constructor
  · intro ran
    obtain ⟨done, rfl⟩ := Prod.mk.inj ran
    exact ⟨_, Prod.ext (mapError_eq_ok_iff.1 done) rfl, rfl⟩
  · rintro ⟨files, ran, rfl⟩
    rw [ran, mapError_ok]

theorem run_ask (path : Path) (question : FileSystem → Except FileError Result)
    (state : ExportState) :
    (ask path question).run state = ((question state.files).mapError (.files path), state) := by
  rw [ask, run_onFiles, FileAction.run_ask]

theorem run_report (diagnostics : List Diagnostic) (state : ExportState) :
    (report diagnostics).run state =
      (.ok (), { state with sink := state.sink.extend diagnostics }) := rfl

theorem run_tell (message : String) (state : ExportState) :
    (tell message).run state =
      (.ok (), { state with progress := state.progress ++ [message] }) := rfl

theorem run_attempt (action : ExportAction Result) (state : ExportState) :
    (attempt action).run state = (.ok (action.run state).1, (action.run state).2) := rfl

/-- Steps with a workspace end as they do without one, once the workspace is made, and the
workspace is removed from the files that they leave. -/
theorem run_withWorkspace (workspace : Path) (action : ExportAction Result) (state : ExportState) :
    (withWorkspace workspace action).run state =
      match state.files.createDirectory workspace with
      | .error failure => (.error (.files (workspace.parent?.getD .empty) failure), state)
      | .ok made =>
        let ended := action.run { state with files := made }
        (ended.1, { ended.2 with
          files := ((FileAction.removeTree workspace).run ended.2.files).2 }) := by
  rw [withWorkspace, run_bind, run_onFiles, FileAction.run_change]
  cases state.files.createDirectory workspace with
  | error failure => rfl
  | ok made =>
    simp only [mapError_ok]
    rw [run_bind, run_attempt]
    simp only []
    rw [run_bind, run_modify]
    simp only []
    rcases action.run { state with files := made } with ⟨_ | _, _⟩ <;> rfl

end ExportAction

/-! ### What is left behind -/

/-- Diagnostics and commands were added, and nothing was told. Files may have changed. -/
structure ExportState.Appends (diagnostics : List Diagnostic) (commands : List Command)
    (before after : ExportState) : Prop where
  sink : after.sink = before.sink.extend diagnostics
  commands : after.commands = before.commands ++ commands
  progress : after.progress = before.progress

namespace ExportState.Appends

variable {before after : ExportState}

theorem of_files (before : ExportState) (files : FileSystem) :
    Appends [] [] before { before with files } :=
  ⟨rfl, by simp, rfl⟩

theorem refl (before : ExportState) : Appends [] [] before before :=
  of_files before before.files

theorem trans {middle : ExportState} {earlier later : List Diagnostic}
    {first second : List Command} (one : Appends earlier first before middle)
    (two : Appends later second middle after) :
    Appends (earlier ++ later) (first ++ second) before after where
  sink := by rw [two.sink, one.sink, Sink.extend_append]
  commands := by rw [two.commands, one.commands, List.append_assoc]
  progress := two.progress.trans one.progress

/-- Nothing but files has changed. -/
abbrev Silent : ExportState → ExportState → Prop := Appends [] []

instance : IsPreorder ExportState Silent where
  refl := refl
  trans _ _ _ := trans

theorem then_silent {middle : ExportState} {diagnostics : List Diagnostic}
    {commands : List Command} (one : Appends diagnostics commands before middle)
    (two : Silent middle after) : Appends diagnostics commands before after := by
  have both := one.trans two
  rwa [List.append_nil, List.append_nil] at both

end ExportState.Appends

open ExportState

theorem ExportAction.keeps_onFiles {meaning : Failure → ExportError}
    {action : ExceptT Failure (StateM FileSystem) Result} {state : ExportState} :
    Keeps Appends.Silent (onFiles meaning action) state := by
  rw [Keeps, run_onFiles]
  exact .of_files state _

namespace Exporter

open ExportAction

variable (exporter : Exporter) (state : ExportState)

theorem run_checkTool : exporter.checkTool.run state =
    (if exporter.project.configuration.platform.tool = supportedTool then .ok ()
      else .error (.unsupportedTool exporter.project.configuration.platform.tool), state) := by
  rw [checkTool]
  split <;> rfl

theorem run_runTool (step : ToolStep) (command : Command) :
    (exporter.runTool step command).run state =
      let called := command.withSettings exporter.project.settingsScript
      (((exporter.runner called).run state.files).1.mapError (.tool step),
        { state with
          files := ((exporter.runner called).run state.files).2
          commands := state.commands ++ [called] }) := by
  rw [runTool, run_bind, run_modify]
  simp only []
  rw [run_onFiles]

/-- Rendering changes nothing but files, and its failures are told as such. -/
theorem exists_run_render (name : Option String) (set : String) (descriptor : Value)
    (target : Path) (transfer : Transfer) :
    ∃ (result : Except TemplateError Unit) (files : FileSystem),
    (exporter.render name set descriptor target transfer).run state =
      (result.mapError (.template name), { state with files }) := by
  rw [render]
  cases Dictionary.ofValue descriptor with
  | error failure => exact ⟨.error failure, state.files, rfl⟩
  | ok dictionary => exact ⟨_, _, run_onFiles _ _ _⟩

theorem silent_render (name : Option String) (set : String) (descriptor : Value) (target : Path)
    (transfer : Transfer) :
    Keeps Appends.Silent (exporter.render name set descriptor target transfer) state := by
  obtain ⟨result, files, ran⟩ :=
    exporter.exists_run_render state name set descriptor target transfer
  rw [Keeps, ran]
  exact .of_files state files

end Exporter

end KernelExport
