/-
This file says what the export of a project comes to.

Its kernels are attempted one after another, each in the state that the one before left
(`Attempts`), until a failure gives up the export. What the export answers, the commands it has
run and the errors it has reported are all told by the list of attempts: their failures decide
whether the design tool is run and which kernels are left out, and each failure that concerns
only its kernel was reported once, in the order of the attempts.
-/

import KernelExport.Export.Project
import KernelExport.Proofs.KernelRun
import KernelExport.Proofs.Layout

namespace KernelExport

namespace Exporter

open ExportAction ExportState

/-! ### Attempts -/

/-- A kernel whose export was attempted, and how that ended. -/
abbrev Attempt : Type := Kernel × Except ExportError Path

namespace Attempt

/-- The failure that gives up the export of the project. -/
def fatal? : Attempt → Option ExportError
  | (_, .error error) => if error.isConfined then none else some error
  | (_, .ok _) => none

/-- What is reported of a failure that concerns only its kernel. -/
def report? : Attempt → Option Diagnostic
  | (_, .error error) => if error.isConfined then some error.diagnostic else none
  | (_, .ok _) => none

/-- The name of a kernel that failed. -/
def failed? : Attempt → Option String
  | (kernel, .error _) => some kernel.name
  | (_, .ok _) => none

/-- What a list of attempts comes to: the failure that gives up the export, or the names of the
kernels that failed. -/
def outcome (attempts : List Attempt) : Except ExportError (List String) :=
  match attempts.findSome? fatal? with
  | some error => .error error
  | none => .ok (attempts.filterMap failed?)

variable (kernel : Kernel) (attempts : List Attempt)

theorem outcome_exported (made : Path) :
    outcome ((kernel, .ok made) :: attempts) = outcome attempts := by
  rw [outcome, List.findSome?_cons, fatal?, List.filterMap_cons, failed?, outcome]

theorem outcome_confined {error : ExportError} (confined : error.isConfined = true) :
    outcome ((kernel, .error error) :: attempts) = (outcome attempts).map (kernel.name :: ·) := by
  rw [outcome, List.findSome?_cons, fatal?, if_pos confined, List.filterMap_cons, failed?, outcome]
  cases attempts.findSome? fatal? <;> rfl

theorem outcome_fatal {error : ExportError} (fatal : error.isConfined = false) :
    outcome ((kernel, .error error) :: attempts) = .error error := by
  rw [outcome, List.findSome?_cons, fatal?, if_neg (by simp [fatal])]

end Attempt

/-- The attempts to export kernels in turn, from one state to another: a failure that concerns
only its kernel is reported, any other failure is the end. -/
inductive Attempts (exporter : Exporter) (directory : Path) (transfer : Transfer) :
    List Kernel → ExportState → List Attempt → ExportState → Prop
  | nil {state : ExportState} : Attempts exporter directory transfer [] state [] state
  | exported {kernel : Kernel} {rest : List Kernel} {state after last : ExportState} {made : Path}
    {attempts : List Attempt} :
    (exporter.exportKernel kernel.name (some directory) transfer).run state = (.ok made, after) →
    Attempts exporter directory transfer rest after attempts last →
    Attempts exporter directory transfer (kernel :: rest) state ((kernel, .ok made) :: attempts)
      last
  | confined {kernel : Kernel} {rest : List Kernel} {state after last : ExportState}
    {error : ExportError} {attempts : List Attempt} :
    (exporter.exportKernel kernel.name (some directory) transfer).run state =
      (.error error, after) → error.isConfined = true →
    Attempts exporter directory transfer rest
      { after with sink := after.sink.extend [error.diagnostic] } attempts last →
    Attempts exporter directory transfer (kernel :: rest) state ((kernel, .error error) :: attempts)
      last
  | fatal {kernel : Kernel} {rest : List Kernel} {state after : ExportState}
    {error : ExportError} :
    (exporter.exportKernel kernel.name (some directory) transfer).run state =
      (.error error, after) → error.isConfined = false →
    Attempts exporter directory transfer (kernel :: rest) state [(kernel, .error error)] after

variable {exporter : Exporter} {directory : Path} {transfer : Transfer} {kernels : List Kernel}
  {state last : ExportState} {attempts : List Attempt}

/-- Exporting kernels in turn makes attempts, and ends with what they come to. -/
theorem exists_attempts (exporter : Exporter) (directory : Path) (transfer : Transfer)
    (kernels : List Kernel) (state : ExportState) : ∃ attempts last,
    Attempts exporter directory transfer kernels state attempts last ∧
    (exporter.exportKernels directory transfer kernels).run state =
      (Attempt.outcome attempts, last) := by
  induction kernels generalizing state with
  | nil => exact ⟨[], state, .nil, rfl⟩
  | cons kernel rest inductionHypothesis =>
    rw [exportKernels, run_bind, run_attempt]
    simp only []
    rcases ran : (exporter.exportKernel kernel.name (some directory) transfer).run state with
      ⟨error | made, after⟩
    · cases confined : error.isConfined with
      | false =>
        refine ⟨_, after, .fatal ran confined, ?_⟩
        rw [Attempt.outcome_fatal kernel [] confined]
        simp only [confined, Bool.false_eq_true, if_false]
        rfl
      | true =>
        obtain ⟨attempts, last, attempted, ended⟩ := inductionHypothesis
          { after with sink := after.sink.extend [error.diagnostic] }
        refine ⟨_, last, .confined ran confined attempted, ?_⟩
        rw [Attempt.outcome_confined kernel attempts confined]
        simp only [confined, if_true]
        rw [run_bind, run_report]
        simp only []
        rw [run_bind, ended]
        cases Attempt.outcome attempts <;> rfl
    · obtain ⟨attempts, last, attempted, ended⟩ := inductionHypothesis after
      refine ⟨_, last, .exported ran attempted, ?_⟩
      rw [Attempt.outcome_exported kernel attempts made]
      exact ended

/-- Unless an attempt gives up, every kernel is attempted. -/
theorem Attempts.kernels_eq
    (attempted : Attempts exporter directory transfer kernels state attempts last)
    (none : attempts.findSome? Attempt.fatal? = none) : attempts.map (·.1) = kernels := by
  induction attempted with
  | nil => rfl
  | exported _ _ inductionHypothesis =>
    rw [List.findSome?_cons, Attempt.fatal?] at none
    rw [List.map_cons, inductionHypothesis none]
  | confined _ confined _ inductionHypothesis =>
    rw [List.findSome?_cons, Attempt.fatal?, if_pos confined] at none
    rw [List.map_cons, inductionHypothesis none]
  | fatal _ fatal =>
    rw [List.findSome?_cons, Attempt.fatal?, if_neg (by simp [fatal])] at none
    cases none

/-- The attempt that gives up is the last one. -/
theorem Attempts.fatal_last
    (attempted : Attempts exporter directory transfer kernels state attempts last)
    {error : ExportError} (gives : attempts.findSome? Attempt.fatal? = some error) :
    ∃ before kernel later, attempts = before ++ [(kernel, .error error)] ∧
      kernels = before.map (·.1) ++ kernel :: later := by
  induction attempted with
  | nil => cases gives
  | exported _ _ inductionHypothesis =>
    rw [List.findSome?_cons, Attempt.fatal?] at gives
    obtain ⟨before, kernel, later, rfl, rfl⟩ := inductionHypothesis gives
    exact ⟨_ :: before, kernel, later, rfl, rfl⟩
  | confined _ confined _ inductionHypothesis =>
    rw [List.findSome?_cons, Attempt.fatal?, if_pos confined] at gives
    obtain ⟨before, kernel, later, rfl, rfl⟩ := inductionHypothesis gives
    exact ⟨_ :: before, kernel, later, rfl, rfl⟩
  | @fatal kernel rest _ _ _ _ fatal =>
    rw [List.findSome?_cons, Attempt.fatal?, if_neg (by simp [fatal])] at gives
    obtain rfl := Option.some.inj gives
    exact ⟨[], kernel, rest, rfl, rfl⟩

/-! ### Reports and commands -/

theorem severity_of_compiles {name : String} {files : FileSystem} {kernel : Kernel}
    {interface : Interface} (compiles : exporter.Compiles name files kernel interface) :
    ∀ warning ∈ interface.warnings, warning.severity = .warning := by
  obtain ⟨_, declares⟩ := compiles.declares
  obtain ⟨_, _, compiled⟩ := declares.compiled
  obtain ⟨declaration, -, rfl⟩ := Kernel.exists_read_of_interface compiled
  exact PortLayout.severity_of_mem_warnings

/-- An export of a kernel reports no errors itself, and runs no command but that of synthesis. -/
theorem appends_exportKernel (exporter : Exporter) (name : String) (directory : Option Path)
    (transfer : Transfer) (state : ExportState) : ∃ reports calls,
    Appends reports calls state ((exporter.exportKernel name directory transfer).run state).2 ∧
    reports.filter (·.severity == .error) = [] ∧
    ∀ command ∈ calls, command = exporter.synthesisCommand := by
  obtain ⟨reports, calls, appends, reported, called⟩ := exporter.appends_exportKernelWith state
    exporter.silentCore_renderCore name directory transfer
  refine ⟨reports, calls, appends, ?_, ?_⟩
  · rcases reported with ⟨kernel, interface, compiles, rfl⟩ | ⟨-, rfl⟩
    · refine List.filter_eq_nil_iff.2 fun warning member => ?_
      rw [severity_of_compiles compiles warning member]
      decide
    · rfl
  · rcases called with rfl | ⟨rfl, -⟩ <;> simp

/-- Attempts run no command but that of synthesis, and report one error for each failure that
concerns only its kernel, besides warnings. -/
theorem Attempts.appends
    (attempted : Attempts exporter directory transfer kernels state attempts last) :
    ∃ reports calls, Appends reports calls state last ∧
      reports.filter (·.severity == .error) = attempts.filterMap Attempt.report? ∧
      ∀ command ∈ calls, command = exporter.synthesisCommand := by
  induction attempted with
  | @nil state => exact ⟨[], [], .refl state, rfl, by simp⟩
  | @exported kernel rest state after last made attempts ran _ inductionHypothesis =>
    obtain ⟨warnings, first, adds, none, called⟩ :=
      appends_exportKernel exporter kernel.name (some directory) transfer state
    obtain ⟨reports, calls, appends, errors, others⟩ := inductionHypothesis
    rw [ran] at adds
    refine ⟨warnings ++ reports, first ++ calls, adds.trans appends, ?_, fun command member =>
      (List.mem_append.1 member).elim (called command) (others command)⟩
    rw [List.filter_append, none, errors, List.nil_append, List.filterMap_cons, Attempt.report?]
  | @confined kernel rest state after last error attempts ran confined _ inductionHypothesis =>
    obtain ⟨warnings, first, adds, none, called⟩ :=
      appends_exportKernel exporter kernel.name (some directory) transfer state
    obtain ⟨reports, calls, appends, errors, others⟩ := inductionHypothesis
    rw [ran] at adds
    have told : Appends [error.diagnostic] [] after
        { after with sink := after.sink.extend [error.diagnostic] } :=
      ⟨rfl, (List.append_nil _).symm, rfl⟩
    have is : [error.diagnostic].filter (·.severity == .error) = [error.diagnostic] := by simp
    refine ⟨_, _, (adds.trans told).trans appends, ?_, fun command member => ?_⟩
    · rw [List.filter_append, List.filter_append, none, is, errors, List.nil_append,
        List.filterMap_cons, Attempt.report?, if_pos confined]
      rfl
    · rw [List.append_nil] at member
      exact (List.mem_append.1 member).elim (called command) (others command)
  | @fatal kernel rest state after error ran fatal =>
    obtain ⟨warnings, calls, adds, none, called⟩ :=
      appends_exportKernel exporter kernel.name (some directory) transfer state
    rw [ran] at adds
    refine ⟨warnings, calls, adds, ?_, called⟩
    rw [none, List.filterMap_cons, Attempt.report?, if_neg (by simp [fatal]), List.filterMap_nil]

/-! ### The design -/

/-- The command that makes a repository of the cores. -/
def repositoryCommand (exporter : Exporter) (target : Path) : Command :=
  (Command.batch target "create_ip_library.tcl" []).withSettings exporter.project.settingsScript

/-- The command that makes the design. -/
def integrationCommand (exporter : Exporter) (target : Path) : Command :=
  (Command.batch target "export.tcl" ["-proj_name", "myARTICo3", "-proj_path", "."]).withSettings
    exporter.project.settingsScript

/-- The commands by which the design is made: that for the repository, and that for the design
after it if it succeeds. -/
def designCommands (exporter : Exporter) (target : Path) (files : FileSystem) : List Command :=
  match ((exporter.runner (exporter.repositoryCommand target)).run files).1 with
  | .ok _ => [exporter.repositoryCommand target, exporter.integrationCommand target]
  | .error _ => [exporter.repositoryCommand target]

/-- How making the design ends: with the failure of the first command that fails, if one does. -/
def designResult (exporter : Exporter) (target : Path) (files : FileSystem) :
    Except ExportError Unit :=
  let repository := (exporter.runner (exporter.repositoryCommand target)).run files
  match repository.1 with
  | .ok _ => ((exporter.runner (exporter.integrationCommand target)).run repository.2).1.mapError
      (.tool .integration)
  | .error failure => .error (.tool .repository failure)

theorem run_makeDesign (exporter : Exporter) (target : Path) (state : ExportState) :
    let ended := (exporter.makeDesign target).run state
    ended.1 = exporter.designResult target state.files ∧ ended.2.sink = state.sink ∧
      ended.2.commands = state.commands ++ exporter.designCommands target state.files := by
  have repository : ∀ present : ExportState,
      (exporter.runTool .repository (.batch target "create_ip_library.tcl" [])).run present =
        (((exporter.runner (exporter.repositoryCommand target)).run present.files).1.mapError
          (.tool .repository), { present with
            files := ((exporter.runner (exporter.repositoryCommand target)).run present.files).2
            commands := present.commands ++ [exporter.repositoryCommand target] }) :=
    fun present => exporter.run_runTool present _ _
  have integration : ∀ present : ExportState,
      (exporter.runTool .integration (.batch target "export.tcl"
        ["-proj_name", "myARTICo3", "-proj_path", "."])).run present =
        (((exporter.runner (exporter.integrationCommand target)).run present.files).1.mapError
          (.tool .integration), { present with
            files := ((exporter.runner (exporter.integrationCommand target)).run present.files).2
            commands := present.commands ++ [exporter.integrationCommand target] }) :=
    fun present => exporter.run_runTool present _ _
  rw [makeDesign, run_bind, run_tell]
  simp only []
  rw [run_bind, repository, designResult, designCommands]
  rcases (exporter.runner (exporter.repositoryCommand target)).run state.files with
    ⟨failure | _, files⟩
  · exact ⟨rfl, rfl, rfl⟩
  · simp only [mapError_ok]
    rw [run_bind, run_tell]
    simp only []
    rw [integration]
    exact ⟨rfl, rfl, by simp⟩

/-! ### The project -/

theorem run_expectReference (exporter : Exporter) (state : ExportState) :
    let template := exporter.project.templatePath exporter.project.referenceSet
    exporter.expectReference.run state =
      (if state.files.isDirectory template then .ok () else .error (.templateMissing template),
        state) := by
  rw [expectReference, run_bind, run_get]
  simp only []
  split <;> rfl

/-- The state in which the reference design is rendered. -/
def announced (exporter : Exporter) (state : ExportState) : ExportState :=
  { state with
    progress := state.progress ++ ["Using template directory " ++ exporter.project.referenceSet] }

/-- What a project export adds, by its attempts and the commands by which the design is made: of the
diagnostics that are reported, behind those of before, the errors are those of the attempts, in
their order, and each command that was run has the settings script of the project. -/
def Accounts (exporter : Exporter) (before after : ExportState) (attempts : List Attempt)
    (design : List Command) : Prop :=
  ∃ reports syntheses,
    after.sink = before.sink.extend reports ∧
    after.sink.diagnostics = before.sink.diagnostics ++ reports ∧
    reports.filter (·.severity == .error) = attempts.filterMap Attempt.report? ∧
    after.commands = before.commands ++ syntheses ++ design ∧
    (∀ command ∈ syntheses, command = exporter.synthesisCommand) ∧
    ∀ command ∈ syntheses ++ design, command.settings = some exporter.project.settingsScript

theorem Accounts.of_silent {after : ExportState} (silent : Appends.Silent state after) :
    exporter.Accounts state after [] [] :=
  ⟨[], [], silent.sink, by rw [silent.sink, Sink.diagnostics_extend], rfl,
    by rw [silent.commands]; simp, by simp, by simp⟩

theorem settings_of_mem_designCommands {target : Path} {files : FileSystem} {command : Command}
    (member : command ∈ exporter.designCommands target files) :
    command.settings = some exporter.project.settingsScript := by
  rw [designCommands] at member
  split at member <;> simp only [List.mem_cons, List.not_mem_nil, or_false] at member
  · rcases member with rfl | rfl <;> rfl
  · rw [member]
    rfl

theorem Attempts.accounts {present after : ExportState} {target : Path} {files : FileSystem}
    {design : List Command} (silent : Appends.Silent state present)
    (attempted : Attempts exporter directory transfer kernels present attempts last)
    (sink : after.sink = last.sink) (commands : after.commands = last.commands ++ design)
    (designed : design = [] ∨ design = exporter.designCommands target files) :
    exporter.Accounts state after attempts design := by
  obtain ⟨reports, calls, appends, errors, called⟩ := attempted.appends
  have all := silent.trans appends
  have extended : after.sink = state.sink.extend reports := sink.trans all.sink
  refine ⟨reports, calls, extended, ?_, errors, ?_, called, fun command member => ?_⟩
  · rw [extended, Sink.diagnostics_extend]
  · rw [commands, all.commands, List.nil_append]
  · rcases List.mem_append.1 member with synthesis | inDesign
    · rw [called command synthesis]
      rfl
    · rcases designed with rfl | rfl
      · cases inDesign
      · exact settings_of_mem_designCommands inDesign

theorem silent_renderReference (exporter : Exporter) (target : Path) (transfer : Transfer)
    (state : ExportState) :
    Keeps Appends.Silent (exporter.renderReference target transfer) state := by
  rw [renderReference]
  exact exporter.silent_render state none _ _ target transfer

/-- For another tool or without a template set of the reference design nothing is done. -/
theorem run_exportProject (exporter : Exporter) (directory : Option Path) (transfer : Transfer)
    (state : ExportState) :
    let tool := exporter.project.configuration.platform.tool
    let template := exporter.project.templatePath exporter.project.referenceSet
    (exporter.exportProject directory transfer).run state =
      if tool = supportedTool then
        if state.files.isDirectory template then
          (exporter.exportDesign (directory.getD exporter.project.exportPath) transfer).run
            (exporter.announced state)
        else (.error (.templateMissing template), state)
      else (.error (.unsupportedTool tool), state) := by
  intro tool template
  rw [exportProject, run_bind, run_checkTool]
  by_cases supported : tool = supportedTool
  · rw [if_pos supported, if_pos supported]
    simp only []
    rw [run_bind, run_expectReference]
    by_cases standing : state.files.isDirectory template = true
    · rw [if_pos standing, if_pos standing]
      simp only []
      rw [run_bind, run_tell]
      rfl
    · rw [if_neg standing, if_neg standing]
  · rw [if_neg supported, if_neg supported]

/-- What follows the rendering of the reference design. The first failure that gives up is the
answer, with nothing done after it. If there is none, all kernels are attempted and the design is
made, and the answer names the kernels that failed. -/
structure Follows (exporter : Exporter) (target : Path) (transfer : Transfer)
    (rendered : ExportState) (attempts : List Attempt) (design : List Command)
    (ended : Except ExportError ProjectExport × ExportState) (last : ExportState) : Prop where
  attempted : exporter.Attempts (target.child "pcores") transfer
    exporter.project.configuration.kernels rendered attempts last
  givenUp : ∀ error, attempts.findSome? Attempt.fatal? = some error →
    ended = (.error error, last) ∧ design = [] ∧
      ∃ before kernel later, attempts = before ++ [(kernel, .error error)] ∧
        exporter.project.configuration.kernels = before.map (·.1) ++ kernel :: later
  completed : attempts.findSome? Attempt.fatal? = none →
    attempts.map (·.1) = exporter.project.configuration.kernels ∧
      design = exporter.designCommands target last.files ∧
      ended.1 = (exporter.designResult target last.files).map fun _ =>
        ⟨target, attempts.filterMap Attempt.failed?⟩

theorem follows_exportDesign {target : Path} {state rendered : ExportState}
    (rendering : (exporter.renderReference target transfer).run state = (.ok (), rendered)) :
    let ended := (exporter.exportDesign target transfer).run state
    ∃ attempts design last,
      exporter.Follows target transfer rendered attempts design ended last ∧
      ended.2.sink = last.sink ∧ ended.2.commands = last.commands ++ design ∧
      (design = [] ∨ design = exporter.designCommands target last.files) := by
  obtain ⟨attempts, last, attempted, ran⟩ := exists_attempts exporter (target.child "pcores")
    transfer exporter.project.configuration.kernels rendered
  have done : (exporter.exportDesign target transfer).run state =
      (exporter.exportKernels (target.child "pcores") transfer
        exporter.project.configuration.kernels >>= fun failed =>
          exporter.makeDesign target >>= fun _ => pure ⟨target, failed⟩).run rendered := by
    rw [exportDesign, run_bind, rendering]
  rw [run_bind, ran, Attempt.outcome] at done
  intro ended
  cases given : attempts.findSome? Attempt.fatal? with
  | some error =>
    rw [given] at done
    have stopped : ended = (.error error, last) := done
    refine ⟨attempts, [], last, ⟨attempted, fun other same => ?_, fun none => ?_⟩, ?_⟩
    · rw [given] at same
      obtain rfl := Option.some.inj same
      exact ⟨stopped, rfl, attempted.fatal_last given⟩
    · rw [given] at none
      cases none
    · rw [stopped]
      exact ⟨rfl, (List.append_nil _).symm, .inl rfl⟩
  | none =>
    rw [given] at done
    simp only [] at done
    rw [run_bind] at done
    obtain ⟨result, sink, commands⟩ := exporter.run_makeDesign target last
    have answers : ended = (((exporter.makeDesign target).run last).1.map fun _ =>
        ⟨target, attempts.filterMap Attempt.failed?⟩,
          ((exporter.makeDesign target).run last).2) := by
      rw [show ended = _ from done]
      rcases (exporter.makeDesign target).run last with ⟨_ | _, _⟩ <;> rfl
    refine ⟨attempts, exporter.designCommands target last.files, last,
      ⟨attempted, fun error gives => ?_, fun _ => ⟨attempted.kernels_eq given, rfl, ?_⟩⟩, ?_⟩
    · rw [given] at gives
      cases gives
    · rw [answers, result]
    · rw [answers]
      exact ⟨sink, commands, .inr rfl⟩

/-- The reference design is rendered first, and what follows does so only if that succeeds. -/
theorem exportDesign_outcome (exporter : Exporter) (target : Path) (transfer : Transfer)
    (state : ExportState) :
    let ended := (exporter.exportDesign target transfer).run state
    let rendering := (exporter.renderReference target transfer).run state
    ∃ attempts design, exporter.Accounts state ended.2 attempts design ∧
      (∀ error, rendering.1 = .error error →
        ended = (.error error, rendering.2) ∧ attempts = [] ∧ design = []) ∧
      (rendering.1 = .ok () → ∃ last,
        exporter.Follows target transfer rendering.2 attempts design ended last) := by
  have silent := exporter.silent_renderReference target transfer state
  rcases rendered : (exporter.renderReference target transfer).run state with ⟨error | _, after⟩
  · rw [Keeps, rendered] at silent
    have stopped : (exporter.exportDesign target transfer).run state = (.error error, after) := by
      rw [exportDesign, run_bind, rendered]
    rw [stopped]
    refine ⟨[], [], .of_silent silent, fun other same => ?_, fun done => by cases done⟩
    obtain rfl := Except.error.inj same
    exact ⟨rfl, rfl, rfl⟩
  · rw [Keeps, rendered] at silent
    obtain ⟨attempts, design, last, follows, sink, commands, designed⟩ :=
      follows_exportDesign rendered
    refine ⟨attempts, design, Attempts.accounts silent follows.attempted sink commands designed,
      fun error failed => ?_, fun _ => ⟨last, follows⟩⟩
    cases failed

/-- What the export of a project comes to. For another tool or without a template set of the
reference design nothing is done. Otherwise the reference design is rendered and, if that succeeds,
the kernels are attempted in turn. In every case the errors that are reported are those of the
attempts, and each command has the settings script of the project. -/
theorem exportProject_outcome (exporter : Exporter) (directory : Option Path)
    (transfer : Transfer) (state : ExportState) :
    let ended := (exporter.exportProject directory transfer).run state
    let target := directory.getD exporter.project.exportPath
    let tool := exporter.project.configuration.platform.tool
    let template := exporter.project.templatePath exporter.project.referenceSet
    let rendering := (exporter.renderReference target transfer).run (exporter.announced state)
    ∃ attempts design, exporter.Accounts state ended.2 attempts design ∧
      (tool ≠ supportedTool →
        ended = (.error (.unsupportedTool tool), state) ∧ attempts = [] ∧ design = []) ∧
      (tool = supportedTool → state.files.isDirectory template = false →
        ended = (.error (.templateMissing template), state) ∧ attempts = [] ∧ design = []) ∧
      (tool = supportedTool → state.files.isDirectory template = true →
        (∀ error, rendering.1 = .error error →
          ended = (.error error, rendering.2) ∧ attempts = [] ∧ design = []) ∧
        (rendering.1 = .ok () → ∃ last,
          exporter.Follows target transfer rendering.2 attempts design ended last)) := by
  intro ended target tool template rendering
  have ran : ended = if tool = supportedTool then
      if state.files.isDirectory template then
        (exporter.exportDesign target transfer).run (exporter.announced state)
      else (.error (.templateMissing template), state)
    else (.error (.unsupportedTool tool), state) :=
    exporter.run_exportProject directory transfer state
  by_cases supported : tool = supportedTool
  · rw [if_pos supported] at ran
    by_cases standing : state.files.isDirectory template = true
    · rw [if_pos standing] at ran
      obtain ⟨attempts, design, accounts, failed, succeeded⟩ :=
        exporter.exportDesign_outcome target transfer (exporter.announced state)
      rw [← ran] at accounts failed succeeded
      refine ⟨attempts, design, accounts, fun other => absurd supported other,
        fun _ missing => ?_, fun _ _ => ⟨failed, succeeded⟩⟩
      rw [standing] at missing
      cases missing
    · rw [if_neg standing] at ran
      refine ⟨[], [], ?_, fun other => absurd supported other, fun _ _ => ⟨ran, rfl, rfl⟩,
        fun _ stands => absurd stands standing⟩
      rw [ran]
      exact .of_silent (.refl state)
  · rw [if_neg supported] at ran
    refine ⟨[], [], ?_, fun _ => ⟨ran, rfl, rfl⟩, fun same => absurd same supported,
      fun same => absurd same supported⟩
    rw [ran]
    exact .of_silent (.refl state)

end Exporter

end KernelExport
