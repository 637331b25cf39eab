/-
This file says what a run of the command line answers, and what it reports.

The status is told by the number of errors that the sink has counted. So there is an invariant of
sinks (`Sink.Sound`): the numbers are those of the diagnostics, and each diagnostic is as serious
as its code says. Every step of an export keeps it. An export of a kernel counts no error itself,
one of a project an error for each kernel that is left out, and the command line another one for
the failure that ends an export. Nothing has been counted in the end exactly if all that was asked
for was exported (`sound_exportRequested`).

What is asked for beyond that (quiet, colours) has a part in the report alone. What a reader finds
in the text of a diagnostic is said in `Diagnostic.Shown`, without the lines that make the text.
-/

import KernelExport.CommandLine.Run
import KernelExport.Proofs.ProjectOutcome
import KernelExport.Proofs.TerminalText

namespace KernelExport

/-! ### Sinks -/

/-- The diagnostic is an error exactly if its code is one of an error. -/
def Diagnostic.Filed (diagnostic : Diagnostic) : Prop :=
  diagnostic.severity = .error ↔ diagnostic.code.category = .error

theorem ExportError.filed_diagnostic (error : ExportError) : error.diagnostic.Filed := by
  have category : error.diagnostic.code.category = .error := by
    cases error with
    | template kernel failure => cases failure <;> rfl
    | _ => rfl
  exact ⟨fun _ => category, fun _ => error.severity_diagnostic⟩

theorem PortLayout.filed_of_mem_warnings {layout : PortLayout} {kernel : Kernel}
    {warning : Diagnostic} (member : warning ∈ layout.warnings kernel) : warning.Filed := by
  have category : warning.code.category = .warning := by
    obtain ⟨_, _, _, _, _, rfl | rfl, rfl⟩ := exists_mismatch_of_mem_warnings member <;> rfl
  rw [Diagnostic.Filed, severity_of_mem_warnings warning member, category]
  decide

namespace Sink

/-- The numbers are those of the diagnostics, and every diagnostic is filed. -/
structure Sound (sink : Sink) : Prop where
  counted : ∀ severity, sink.count severity = sink.diagnostics.countP (·.severity == severity)
  filed : ∀ diagnostic ∈ sink.diagnostics, diagnostic.Filed

theorem sound_empty : Sound {} :=
  ⟨fun severity => by cases severity <;> rfl, fun _ member => by cases member⟩

theorem Sound.emit {sink : Sink} (sound : sink.Sound) {diagnostic : Diagnostic}
    (filed : diagnostic.Filed) : (sink.emit diagnostic).Sound where
  counted severity := by
    rw [count_emit, sound.counted, diagnostics_emit, List.countP_append, List.countP_singleton]
    simp only [beq_iff_eq]
  filed other member := by
    rw [diagnostics_emit, List.mem_append, List.mem_singleton] at member
    rcases member with earlier | rfl
    · exact sound.filed other earlier
    · exact filed

theorem Sound.extend {sink : Sink} (sound : sink.Sound) {diagnostics : List Diagnostic}
    (filed : ∀ diagnostic ∈ diagnostics, diagnostic.Filed) : (sink.extend diagnostics).Sound := by
  induction diagnostics generalizing sink with
  | nil => exact sound
  | cons diagnostic rest inductionHypothesis =>
    exact inductionHypothesis (sound.emit (filed diagnostic List.mem_cons_self))
      fun other member => filed other (List.mem_cons_of_mem _ member)

theorem Sound.count_extend {sink : Sink} (sound : sink.Sound) {diagnostics : List Diagnostic}
    (filed : ∀ diagnostic ∈ diagnostics, diagnostic.Filed) (severity : Severity) :
    (sink.extend diagnostics).count severity =
      sink.count severity + diagnostics.countP (·.severity == severity) := by
  rw [(sound.extend filed).counted, sound.counted, diagnostics_extend, List.countP_append]

theorem hasErrors_eq_false_iff {sink : Sink} :
    sink.hasErrors = false ↔ sink.count .error = 0 := by
  simp [hasErrors]

end Sink

namespace Exporter

open ExportAction ExportState

variable {exporter : Exporter} {directory : Path} {transfer : Transfer} {kernels : List Kernel}
  {state last : ExportState} {attempts : List Attempt}

/-! ### Exports of kernels -/

/-- The diagnostics are warnings, and filed as such. -/
theorem warnings_of_reports {name : String} {files : FileSystem} {diagnostics : List Diagnostic}
    (reports : exporter.Reports name files diagnostics) :
    ∀ diagnostic ∈ diagnostics, diagnostic.severity = .warning ∧ diagnostic.Filed := by
  rcases reports with ⟨kernel, interface, compiles, rfl⟩ | ⟨-, rfl⟩
  · intro warning member
    refine ⟨severity_of_compiles compiles warning member, ?_⟩
    obtain ⟨_, declares⟩ := compiles.declares
    obtain ⟨_, _, compiled⟩ := declares.compiled
    obtain ⟨declaration, -, rfl⟩ := Kernel.exists_read_of_interface compiled
    exact PortLayout.filed_of_mem_warnings member
  · intro _ member
    cases member

/-- An export of a kernel keeps sinks sound, and counts no errors. -/
theorem sound_exportKernel {name : String} {directory : Option Path}
    {ended : Except ExportError Path × ExportState}
    (ran : (exporter.exportKernel name directory transfer).run state = ended)
    (sound : state.sink.Sound) :
    ended.2.sink.Sound ∧ ended.2.sink.count .error = state.sink.count .error := by
  obtain ⟨reports, calls, appends, reported, -⟩ := exporter.appends_exportKernelWith state
    exporter.silentCore_renderCore name directory transfer
  have warnings := warnings_of_reports reported
  have filed := fun diagnostic member => (warnings diagnostic member).2
  have none : reports.countP (·.severity == .error) = 0 := by
    rw [List.countP_eq_zero]
    intro warning member
    rw [(warnings warning member).1]
    decide
  have sink : ended.2.sink = state.sink.extend reports := ran ▸ appends.sink
  rw [sink]
  exact ⟨sound.extend filed, by rw [sound.count_extend filed, none, Nat.add_zero]⟩

/-- Attempts keep sinks sound, and count one error for each failure that concerns only its
kernel. -/
theorem Attempts.sound
    (attempted : Attempts exporter directory transfer kernels state attempts last)
    (sound : state.sink.Sound) : last.sink.Sound ∧ last.sink.count .error =
      state.sink.count .error + (attempts.filterMap Attempt.report?).length := by
  induction attempted with
  | nil => exact ⟨sound, rfl⟩
  | exported ran _ inductionHypothesis =>
    obtain ⟨first, none⟩ := sound_exportKernel ran sound
    obtain ⟨others, count⟩ := inductionHypothesis first
    refine ⟨others, ?_⟩
    rw [count, none, List.filterMap_cons, Attempt.report?]
  | @confined _ _ _ after _ error _ ran confined _ inductionHypothesis =>
    obtain ⟨first, none⟩ := sound_exportKernel ran sound
    have told : (after.sink.extend [error.diagnostic]).count .error =
        after.sink.count .error + 1 := by
      rw [Sink.extend, List.foldl_cons, List.foldl_nil, Sink.count_emit,
        error.severity_diagnostic, if_pos rfl]
    obtain ⟨others, count⟩ := inductionHypothesis (first.emit error.filed_diagnostic)
    refine ⟨others, ?_⟩
    rw [count, told, none, List.filterMap_cons, Attempt.report?, if_pos confined]
    simp only [List.length_cons]
    omega
  | fatal ran fatal =>
    obtain ⟨only, none⟩ := sound_exportKernel ran sound
    refine ⟨only, ?_⟩
    rw [none, List.filterMap_cons, Attempt.report?, if_neg (by simp [fatal])]
    rfl

/-- Where no failure gives up, as many are reported as kernels failed. -/
theorem Attempt.length_report? {attempts : List Attempt}
    (none : attempts.findSome? Attempt.fatal? = none) :
    (attempts.filterMap Attempt.report?).length = (attempts.filterMap Attempt.failed?).length := by
  induction attempts with
  | nil => rfl
  | cons attempt rest inductionHypothesis =>
    obtain ⟨kernel, error | made⟩ := attempt
    · rw [List.findSome?_cons, fatal?] at none
      cases confined : error.isConfined with
      | true =>
        rw [if_pos confined] at none
        simp only [List.filterMap_cons, report?, failed?, if_pos confined, List.length_cons,
          inductionHypothesis none]
      | false =>
        rw [if_neg (by simp [confined])] at none
        cases none
    · rw [List.findSome?_cons, fatal?] at none
      simp only [List.filterMap_cons, report?, failed?, inductionHypothesis none]

/-! ### Exports of projects -/

theorem sound_exportDesign {target : Path} {ended : Except ExportError ProjectExport × ExportState}
    (ran : (exporter.exportDesign target transfer).run state = ended) (sound : state.sink.Sound) :
    ended.2.sink.Sound ∧ ∀ made, ended.1 = .ok made →
      ended.2.sink.count .error = state.sink.count .error + made.failedKernels.length := by
  have silent := exporter.silent_renderReference target transfer state
  rcases rendering : (exporter.renderReference target transfer).run state with ⟨error | _, rendered⟩
  · rw [exportDesign, run_bind, rendering] at ran
    rw [Keeps, rendering] at silent
    have same : rendered.sink = state.sink := silent.sink
    rw [← ran]
    exact ⟨same ▸ sound, fun _ done => by cases done⟩
  · rw [Keeps, rendering] at silent
    have same : rendered.sink = state.sink := silent.sink
    obtain ⟨attempts, _, last, follows, sink, -, -⟩ := follows_exportDesign rendering
    rw [ran] at follows sink
    obtain ⟨lastSound, count⟩ := follows.attempted.sound (same ▸ sound)
    rw [sink, ← same]
    refine ⟨lastSound, fun made done => ?_⟩
    cases given : attempts.findSome? Attempt.fatal? with
    | some error =>
      rw [(follows.givenUp error given).1] at done
      cases done
    | none =>
      obtain ⟨-, -, answers⟩ := follows.completed given
      rw [done] at answers
      cases result : exporter.designResult target last.files with
      | error failure =>
        rw [result] at answers
        cases answers
      | ok _ =>
        rw [result] at answers
        obtain rfl := Except.ok.inj answers
        rw [count, Attempt.length_report? given]

/-- An export of a project keeps sinks sound. If it succeeds, it has counted an error for each
kernel that is left out. -/
theorem sound_exportProject {directory : Option Path}
    {ended : Except ExportError ProjectExport × ExportState}
    (ran : (exporter.exportProject directory transfer).run state = ended)
    (sound : state.sink.Sound) : ended.2.sink.Sound ∧ ∀ made, ended.1 = .ok made →
      ended.2.sink.count .error = state.sink.count .error + made.failedKernels.length := by
  rw [exporter.run_exportProject directory transfer state] at ran
  have announced : (exporter.announced state).sink = state.sink := rfl
  split at ran
  · split at ran
    · have design := sound_exportDesign ran (announced ▸ sound)
      rwa [announced] at design
    · rw [← ran]
      exact ⟨sound, fun _ done => by cases done⟩
  · rw [← ran]
    exact ⟨sound, fun _ done => by cases done⟩

end Exporter

namespace CommandLine

open Exporter

/-! ### Requests -/

/-- The exporter that a run exports a project with. -/
def Surroundings.exporter (surroundings : Surroundings) (project : Project) : Exporter :=
  { project, runner := surroundings.runner, workspace := surroundings.workspace }

/-- All that is asked for is exported: the one kernel, or the project with no kernel left out. -/
def Exported (exporter : Exporter) (request : Request) (state : ExportState) : Prop :=
  let directory := request.directory.map Path.ofText
  let transfer := Transfer.ofFlag request.link
  match request.kernel with
  | some kernel =>
    ∃ made, ((exporter.exportKernel kernel directory transfer).run state).1 = .ok made
  | none => ∃ made, ((exporter.exportProject directory transfer).run state).1 = .ok made ∧
    made.failedKernels = []

/-- The state at the end, in which the error that ended the export is reported. -/
def concluded {Result : Type} : Except ExportError Result × ExportState → ExportState
  | (.ok _, after) => after
  | (.error failure, after) => { after with sink := after.sink.emit failure.diagnostic }

theorem concluded_discard {Result : Type} (action : ExportAction Result) (state : ExportState) :
    (match (discard action).run state with
      | (.ok (), after) => after
      | (.error failure, after) => { after with sink := after.sink.emit failure.diagnostic }) =
      concluded (action.run state) := by
  have discarded : (discard action).run state = (action >>= fun _ => pure ()).run state := rfl
  rw [discarded, run_bind]
  rcases action.run state with ⟨_ | _, _⟩ <;> rfl

theorem exportRequested_eq (exporter : Exporter) (request : Request) (state : ExportState) :
    exportRequested exporter request state =
      let directory := request.directory.map Path.ofText
      let transfer := Transfer.ofFlag request.link
      match request.kernel with
      | some kernel => concluded ((exporter.exportKernel kernel directory transfer).run state)
      | none => concluded ((exporter.exportProject directory transfer).run state) := by
  rw [exportRequested]
  cases request.kernel with
  | some kernel => exact concluded_discard (exporter.exportKernel kernel _ _) state
  | none => exact concluded_discard (exporter.exportProject _ _) state

/-- No error has been counted in the end exactly if none was counted before it and the export
succeeded. -/
theorem sound_concluded {Result : Type} {ended : Except ExportError Result × ExportState}
    (sound : ended.2.sink.Sound) : (concluded ended).sink.Sound ∧
      ((concluded ended).sink.count .error = 0 ↔
        ∃ made, ended.1 = .ok made ∧ ended.2.sink.count .error = 0) := by
  obtain ⟨error | made, after⟩ := ended
  · refine ⟨sound.emit error.filed_diagnostic, fun counted => ?_, fun ⟨_, done, _⟩ => by cases done⟩
    rw [concluded, Sink.count_emit, error.severity_diagnostic, if_pos rfl] at counted
    cases counted
  · exact ⟨sound, fun counted => ⟨made, rfl, counted⟩, fun ⟨_, _, counted⟩ => counted⟩

/-- What has been counted in the end tells whether all that is asked for is exported. -/
theorem sound_exportRequested (exporter : Exporter) (request : Request) (files : FileSystem) :
    (exportRequested exporter request { files }).sink.Sound ∧
      ((exportRequested exporter request { files }).sink.count .error = 0 ↔
        Exported exporter request { files }) := by
  have emptied : Sink.count {} .error = 0 := rfl
  rw [exportRequested_eq, Exported]
  cases request.kernel with
  | some kernel =>
    generalize ran : (exporter.exportKernel kernel (request.directory.map Path.ofText)
      (Transfer.ofFlag request.link)).run { files } = ended
    obtain ⟨sound, count⟩ := sound_exportKernel ran Sink.sound_empty
    rw [emptied] at count
    simpa only [ran, count, and_true] using sound_concluded sound
  | none =>
    generalize ran : (exporter.exportProject (request.directory.map Path.ofText)
      (Transfer.ofFlag request.link)).run { files } = ended
    obtain ⟨sound, count⟩ := sound_exportProject ran Sink.sound_empty
    obtain ⟨concludedSound, counted⟩ := sound_concluded sound
    simp only [ran]
    refine ⟨concludedSound, counted.trans (exists_congr fun made => and_congr_right fun done => ?_)⟩
    rw [count made done, emptied, Nat.zero_add, List.length_eq_zero_iff]

/-! ### Runs -/

/-- What stands in a report in front of the diagnostics. -/
def introduction (request : Request) (project : Project) (progress : List String) : String :=
  let first := "   Exporting " ++ project.configuration.projectName ++ " (" ++
    (Transfer.ofFlag request.link).word ++ ")"
  String.join ((first :: progress.map ("[A3DK] " ++ ·)).map (· ++ "\n"))

def resultLine (errors warnings : Nat) : String :=
  "   Result: " ++ toString errors ++ " error(s), " ++ toString warnings ++ " warning(s)" ++ "\n"

/-- A report tells the diagnostics of the sink in their order: all of them, with their numbers
behind them, or the errors and nothing else. The text of each shows it. -/
structure Reports (request : Request) (coloured : Bool) (project : Project) (state : ExportState)
    (report : String) : Prop where
  all : request.quiet = false → report = introduction request project state.progress ++
    String.join (state.sink.diagnostics.map (Diagnostic.render coloured)) ++
    resultLine (state.sink.diagnostics.countP (·.severity == .error))
      (state.sink.diagnostics.countP (·.severity == .warning))
  errors : request.quiet = true → report = String.join
    ((state.sink.diagnostics.filter (·.severity == .error)).map (Diagnostic.render coloured))
  shown : ∀ diagnostic ∈ state.sink.diagnostics,
    diagnostic.Shown coloured (diagnostic.render coloured)

theorem reports_reportOf {request : Request} {state : ExportState} (sound : state.sink.Sound)
    (coloured : Bool) (project : Project) :
    Reports request coloured project state (reportOf request coloured project state) where
  all loud := by
    have every : reported request state.sink = state.sink.diagnostics := by
      simp [reported, loud]
    have line : ∀ text, told request [text] = text ++ "\n" := by
      simp [told, loud, String.join]
    have lines : ∀ texts, told request texts = String.join (texts.map (· ++ "\n")) := by
      simp [told, loud]
    rw [reportOf, every, line, lines, summary, sound.counted, sound.counted]
    rfl
  errors quiet := by
    have only : reported request state.sink =
        state.sink.diagnostics.filter (·.severity == .error) := by
      simp [reported, quiet]
    simp [reportOf, only, told, quiet]
  shown diagnostic _ := diagnostic.shown_render coloured

/-- The request without what has a part in reports alone. -/
def Request.plain (request : Request) : Request :=
  { request with quiet := false, verbose := false, colour := .auto }

theorem runRequest_plain (surroundings : Surroundings) (request : Request) :
    (runRequest surroundings request.plain).status = (runRequest surroundings request).status ∧
      (runRequest surroundings request.plain).files = (runRequest surroundings request).files ∧
      (runRequest surroundings request.plain).commands =
        (runRequest surroundings request).commands := by
  have project : projectOf surroundings.files request.plain =
      projectOf surroundings.files request := rfl
  rw [runRequest, runRequest, project]
  cases projectOf surroundings.files request with
  | error failure => exact ⟨rfl, rfl, rfl⟩
  | ok project => exact ⟨rfl, rfl, rfl⟩

theorem status_of_project {surroundings : Surroundings} {request : Request} {project : Project}
    (found : projectOf surroundings.files request = .ok project) :
    (runRequest surroundings request).status =
      if (exportRequested (surroundings.exporter project) request
        { files := surroundings.files }).sink.hasErrors then 1 else 0 := by
  rw [runRequest, found]
  rfl

/-- The status is 0 exactly if there is a project and all that is asked for is exported. -/
theorem status_runRequest (surroundings : Surroundings) (request : Request) :
    ((runRequest surroundings request).status = 0 ↔
      ∃ project, projectOf surroundings.files request = .ok project ∧
        Exported (surroundings.exporter project) request { files := surroundings.files }) ∧
    ((runRequest surroundings request).status = 0 ∨ (runRequest surroundings request).status = 1) := by
  cases found : projectOf surroundings.files request with
  | error failure =>
    have failed : (runRequest surroundings request).status = 1 := by rw [runRequest, found]
    simp [failed]
  | ok project =>
    obtain ⟨-, counted⟩ :=
      sound_exportRequested (surroundings.exporter project) request surroundings.files
    rw [← Sink.hasErrors_eq_false_iff] at counted
    rw [status_of_project found]
    simp only [Except.ok.injEq, exists_eq_left', ← counted]
    cases (exportRequested (surroundings.exporter project) request
      { files := surroundings.files }).sink.hasErrors <;> simp

/-- What a run answers that is asked for an export. The status is 0 if there is a project and all
that is asked for is exported, and otherwise it is 1. The report is true to the sink, whose errors
are those with the code of an error. Requests that differ only in what has a part in reports leave
the same files. -/
theorem run_exporting (surroundings : Surroundings) {arguments : List String} {request : Request}
    (asked : read arguments = some (.exporting request)) :
    let outcome := run surroundings arguments
    let state : ExportState := { files := surroundings.files }
    ((outcome.status = 0 ↔ ∃ project, projectOf surroundings.files request = .ok project ∧
        Exported (surroundings.exporter project) request state) ∧
      (outcome.status = 0 ∨ outcome.status = 1)) ∧
    (∀ project, projectOf surroundings.files request = .ok project →
      let after := exportRequested (surroundings.exporter project) request state
      Reports request (isColoured request.colour surroundings.terminal) project after
        outcome.report ∧
      ∀ diagnostic ∈ after.sink.diagnostics, diagnostic.Filed) ∧
    ∀ others other, read others = some (.exporting other) → other.plain = request.plain →
      (run surroundings others).status = outcome.status ∧
      (run surroundings others).files = outcome.files ∧
      (run surroundings others).commands = outcome.commands := by
  intro outcome state
  have ran : outcome = runRequest surroundings request := by
    show run surroundings arguments = _
    rw [run, asked]
  rw [ran]
  refine ⟨?_, fun project found => ?_, fun others other askedOther same => ?_⟩
  · exact status_runRequest surroundings request
  · obtain ⟨sound, -⟩ :=
      sound_exportRequested (surroundings.exporter project) request surroundings.files
    rw [runRequest, found]
    exact ⟨reports_reportOf sound _ project, sound.filed⟩
  · have ranOther : run surroundings others = runRequest surroundings other := by
      rw [run, askedOther]
    obtain ⟨status, files, commands⟩ := runRequest_plain surroundings request
    obtain ⟨otherStatus, otherFiles, otherCommands⟩ := runRequest_plain surroundings other
    rw [ranOther, ← status, ← files, ← commands, ← same]
    exact ⟨otherStatus.symm, otherFiles.symm, otherCommands.symm⟩

/-! ### A run that warns and fails -/

/-- A project of one kernel, for which no register is configured. -/
def addersText : String :=
  "[project]\nname = \"adders\"\n\n[impl]\nrepo = \"\"\npart = \"xc7z020\"\nboard = \"zybo\"\n" ++
    "design = \"default\"\nos = \"linux\"\ntool = \"vivado\"\ntool_version = \"2022.2\"\n\n" ++
    "[[kernels]]\nname = \"adder\"\nhwsrc = \"hls\"\nmembanks = 1\n"

/-- The kernel declares a register that its configuration does not have, and there is no template
set to synthesize it with. -/
def adders : Surroundings where
  files := FileSystem.empty
    |>.put [] "artico3.toml" (.file addersText.toUTF8)
    |>.put [] "src" .directory
    |>.put ["src"] "a3_adder" .directory
    |>.put ["a3_adder", "src"] "hls" .directory
    |>.put ["hls", "a3_adder", "src"] "adder.cpp" (.file "A3_KERNEL(a3in_t a, a3reg_t n)".toUTF8)
  runner := fun _ => pure ()
  workspace := .ofText "/work"

/-- What is reported of the export of the kernel: a warning about the register, and the error that
ends the export. -/
def addersDiagnostics : List Diagnostic :=
  [{ severity := .warning, code := .registersMismatch, kernel := some "adder"
     message := "inconsistent use of Regs (artico3.toml: 0) and A3_KERNEL (source: 1), " ++
       "will generate run-time errors"
     notes := ["generation continues with the parsed count of 1"]
     help := ["set `regs = 1` for kernel 'adder'"] },
   { severity := .error, code := .templateMissing, kernel := some "adder"
     message := "template directory not found: /templates/artico3_kernel_hls_build" }]

/-- The request to export the kernel. -/
def addersRequest : Request :=
  ⟨false, false, .auto, none, false, some "adder", none⟩

/-- What an export of the kernel tells, quiet or not, with colours or without. -/
theorem exported_adders {request : Request} (asked : request.plain = addersRequest) :
    ∃ project, projectOf adders.files request = .ok project ∧
      project.configuration.projectName = "adders" ∧
      let after := exportRequested (adders.exporter project) request { files := adders.files }
      after.progress = [] ∧ after.sink.diagnostics = addersDiagnostics := by
  have plain : projectOf adders.files request = projectOf adders.files addersRequest :=
    asked ▸ rfl
  have told : (projectOf adders.files addersRequest).map (fun project =>
      let after := exportRequested (adders.exporter project) addersRequest { files := adders.files }
      (project.configuration.projectName, after.progress, after.sink.diagnostics)) =
        .ok ("adders", [], addersDiagnostics) := by decide +kernel
  cases found : projectOf adders.files addersRequest with
  | error failure =>
    rw [found] at told
    cases told
  | ok project =>
    rw [found] at told
    obtain ⟨name, others⟩ := Prod.mk.inj (Except.ok.inj told)
    obtain ⟨progress, diagnostics⟩ := Prod.mk.inj others
    have same : exportRequested (adders.exporter project) request =
        exportRequested (adders.exporter project) addersRequest := asked ▸ rfl
    exact ⟨project, plain.trans found, name, same ▸ progress, same ▸ diagnostics⟩

/-- Quiet or not, the run fails and leaves the same files. Its report is the error alone, or the
warning and the error between a line in front and one with their numbers. -/
theorem run_exporting_adders :
    let outcome := run adders ["export_hw", "-k", "adder"]
    let quiet := run adders ["-q", "--color", "always", "export-hw", "--kernel=adder"]
    outcome.status = 1 ∧
    outcome.report =
      "   Exporting adders (copy)\n" ++
      "warning[W101]: inconsistent use of Regs (artico3.toml: 0) and A3_KERNEL (source: 1), " ++
        "will generate run-time errors\n" ++
      "  --> kernel adder\n" ++
      "   = note: generation continues with the parsed count of 1\n" ++
      "   = help: set `regs = 1` for kernel 'adder'\n" ++
      "error[E203]: template directory not found: /templates/artico3_kernel_hls_build\n" ++
      "  --> kernel adder\n" ++
      "   Result: 1 error(s), 1 warning(s)\n" ∧
    quiet.status = outcome.status ∧ quiet.files = outcome.files ∧
    quiet.report =
      "\x1b[1;31merror[E203]\x1b[0m: template directory not found: " ++
        "/templates/artico3_kernel_hls_build\n" ++
      "  --> kernel adder\n" := by
  dsimp only
  have asked : read ["export_hw", "-k", "adder"] = some (.exporting addersRequest) := by
    decide +kernel
  have askedQuietly : read ["-q", "--color", "always", "export-hw", "--kernel=adder"] =
      some (.exporting { addersRequest with quiet := true, colour := .always }) := by
    decide +kernel
  obtain ⟨⟨succeeds, ends⟩, reports, same⟩ := run_exporting adders asked
  obtain ⟨-, reportsQuietly, -⟩ := run_exporting adders askedQuietly
  obtain ⟨status, files, -⟩ := same _ _ askedQuietly rfl
  obtain ⟨project, found, name, progress, diagnostics⟩ :=
    exported_adders (rfl : addersRequest.plain = _)
  obtain ⟨_, foundQuietly, -, -, diagnosticsQuietly⟩ := exported_adders
    (rfl : Request.plain { addersRequest with quiet := true, colour := .always } = _)
  obtain ⟨loud, -⟩ := reports project found
  obtain ⟨only, -⟩ := reportsQuietly _ foundQuietly
  have failed : (run adders ["export_hw", "-k", "adder"]).status = 1 := by
    refine ends.resolve_left fun done => ?_
    obtain ⟨_, foundAgain, exported⟩ := succeeds.1 done
    obtain rfl := Except.ok.inj (found.symm.trans foundAgain)
    obtain ⟨sound, counted⟩ := sound_exportRequested (adders.exporter project) addersRequest
      adders.files
    have none := counted.2 exported
    rw [sound.counted, diagnostics] at none
    cases none
  refine ⟨failed, ?_, status, files, ?_⟩
  · rw [loud.all rfl, introduction, name, progress, diagnostics]
    decide +kernel
  · rw [only.errors rfl, diagnosticsQuietly]
    decide +kernel

end CommandLine

end KernelExport
