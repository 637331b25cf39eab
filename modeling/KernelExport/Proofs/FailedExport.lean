/-
This file says that the export of a kernel that fails before its core leaves the files as they
were.

Before the core is rendered nothing is written but in the workspace, which is removed in the end.
That takes two assumptions about what the program has no power over: a tool changes files only
below the directory that it runs in (`StaysBelow`), and the names in the template set of
workspaces render to names (`OrdinaryWorkspace`). With them all that changes lies in the workspace,
and removing it brings back the files from before it was made.

Whether an export fails before the core is told by what it does with all ways to render one: it
fails before the core if it fails with the same error with each (`FailsBeforeCore`). That is so
exactly if it stops in one of the ways that `Stops` lists.
-/

import KernelExport.Proofs.KernelRun
import KernelExport.Proofs.Layout
import KernelExport.Proofs.Removal
import KernelExport.Proofs.Rendering

namespace KernelExport

open FileSystem

/-- A tool changes files only below the directory that it runs in. -/
def Runner.StaysBelow (runner : Runner) : Prop :=
  ∀ command files,
    ((runner command).run files).2.workingDirectory = files.workingDirectory ∧
    ∀ location,
      (∀ directory, files.resolve command.directory = .ok directory →
        location = directory ∨ within directory location = false) →
      ((runner command).run files).2.get? location = files.get? location

/-- The errors that only what comes before a core can have. -/
def ExportError.precedesCore : ExportError → Bool
  | .unsupportedTool _ | .kernelNotFound _ | .declaration .. | .tool .. | .outputMissing _ => true
  | .templateMissing _ | .template .. | .files .. => false

namespace Exporter

open ExportAction ExportState

variable (exporter : Exporter)

/-- The names in the template set of workspaces render to names, for the descriptor of the kernel
that an export comes to describe. -/
def OrdinaryWorkspace (name : String) (state : ExportState) : Prop :=
  ∀ kernel descriptor described place, exporter.Finds name kernel →
    kernel.source.isStructural = false →
    (exporter.describe kernel).run state = (.ok descriptor, described) →
    state.files.placement exporter.workspace = .ok (some place) →
    TemplateAction.OrdinaryNames place.location state.files
      (exporter.project.templatePath synthesisSet) ⟨descriptor.fields⟩

/-- What the names in the template set of workspaces render to does not lead out of a workspace. -/
def InwardWorkspace (name : String) (state : ExportState) : Prop :=
  ∀ ⦃kernel descriptor described place⦄, exporter.Finds name kernel →
    kernel.source.isStructural = false →
    (exporter.describe kernel).run state = (.ok descriptor, described) →
    state.files.placement exporter.workspace = .ok (some place) →
    TemplateAction.InwardNames place.location state.files
      (exporter.project.templatePath synthesisSet) ⟨descriptor.fields⟩

theorem OrdinaryWorkspace.inward {exporter : Exporter} {name : String} {state : ExportState}
    (ordinary : exporter.OrdinaryWorkspace name state) : exporter.InwardWorkspace name state := by
  intro kernel descriptor described place finds synthesized description placed
  have names : TemplateAction.OrdinaryNames place.location state.files
      (exporter.project.templatePath synthesisSet) ⟨descriptor.fields⟩ :=
    ordinary kernel descriptor described place finds synthesized description placed
  exact TemplateAction.OrdinaryNames.inward names

/-- An export fails with an error before its core is rendered: whatever came of rendering the
core, it would fail so. -/
def FailsBeforeCore (name : String) (directory : Option Path) (transfer : Transfer)
    (state : ExportState) (error : ExportError) : Prop :=
  ∀ core, ((exporter.exportKernelWith core name directory transfer).run state).1 = .error error

variable {exporter} {kernel : Kernel} {state described : ExportState}

theorem files_of_describe {result : Except ExportError KernelDescriptor}
    (description : (exporter.describe kernel).run state = (result, described)) :
    described.files = state.files := by
  rcases exporter.run_describe kernel state with ⟨_, _, _, ran⟩ | ⟨_, _, ran⟩ <;>
    rw [description] at ran <;> obtain ⟨-, rfl⟩ := Prod.mk.inj ran <;> rfl

/-- What synthesis changes lies in the workspace. -/
theorem agreesOff_synthesize (kernel : Kernel) (state : ExportState)
    (stays : exporter.runner.StaysBelow) {descriptor : KernelDescriptor}
    {initial : FileSystem} {place : Placement}
    (inward : TemplateAction.InwardNames place.location initial
      (exporter.project.templatePath synthesisSet) ⟨descriptor.fields⟩)
    (agrees : initial.AgreesOff place.location state.files)
    (fresh : state.files.Fresh exporter.workspace place) :
    initial.AgreesOff place.location
        ((exporter.synthesize kernel descriptor).run state).2.files ∧
      ((exporter.synthesize kernel descriptor).run state).2.files.get? place.location =
        some .directory := by
  have overwrites : Overwrites (Below place.location) (fun _ => False) state.files
      ((exporter.renderWorkspace kernel descriptor).run state).2.files := by
    show Overwrites _ _ state.files
      ((onFiles _ (TemplateAction.render ⟨descriptor.fields⟩ .copy
        (exporter.project.templatePath synthesisSet) exporter.workspace)).run state).2.files
    rw [run_onFiles]
    exact TemplateAction.overwrites_render_of_fresh fresh inward agrees
  have standing := overwrites.directory fresh.directory
  rcases exporter.run_synthesize kernel state descriptor with
    ⟨error, rendered, rendering, ran⟩ | ⟨rendered, rendering, ran⟩
  · rw [rendering] at overwrites standing
    rw [ran]
    exact ⟨agrees.trans overwrites.changes.agreesOff, standing⟩
  · rw [rendering] at overwrites standing
    rw [ran]
    -- The tool runs in the workspace, which still stands where it was made.
    obtain ⟨workingDirectory, kept⟩ := stays exporter.synthesisCommand rendered.files
    have rest := agrees.trans overwrites.changes.agreesOff
    have placed := (fresh.extends overwrites.changes).placement fresh.placement
    have unchanged : ∀ location,
        location = place.location ∨ within place.location location = false →
        (exporter.afterSynthesis rendered).files.get? location = rendered.files.get? location := by
      intro location outside
      refine kept location fun directory resolved => ?_
      have here : rendered.files.resolve exporter.workspace = .ok directory := resolved
      rw [resolve_of_placement placed standing] at here
      rwa [← Except.ok.inj here]
    exact ⟨⟨workingDirectory.trans rest.workingDirectory,
      fun outside => (unchanged _ (.inr outside)).trans (rest.outside outside)⟩,
      (unchanged _ (.inl rfl)).trans standing⟩

/-- Synthesis happens in a workspace that is made where nothing stood, and nowhere else. -/
theorem exists_workspace (stays : exporter.runner.StaysBelow) {name : String}
    (inward : exporter.InwardWorkspace name state) (finds : exporter.Finds name kernel)
    (synthesized : kernel.source.isStructural = false) {descriptor : KernelDescriptor}
    (description : (exporter.describe kernel).run state = (.ok descriptor, described))
    {made : FileSystem} (making : described.files.createDirectory exporter.workspace = .ok made) :
    ∃ place, state.files.placement exporter.workspace = .ok (some place) ∧
      state.files.get? place.location = none ∧
      ∀ {result last}, (exporter.synthesize kernel descriptor).run { described with files := made } =
          (result, last) →
        state.files.AgreesOff place.location last.files ∧
          last.files.get? place.location = some .directory := by
  have same := files_of_describe description
  obtain ⟨place, placed, missing, rfl, fresh⟩ := exists_fresh_of_createDirectory making
  rw [same] at placed missing
  refine ⟨place, placed, missing, fun synthesis => ?_⟩
  have agrees : state.files.AgreesOff place.location
      (described.files.put place.directory place.name .directory) := by
    rw [same]
    refine ⟨workingDirectory_put .., fun outside => get?_put_of_ne _ _ ?_⟩
    rintro rfl
    rw [← Placement.location, within_self] at outside
    cases outside
  have off := agreesOff_synthesize kernel
    { described with files := described.files.put place.directory place.name .directory } stays
    (inward finds synthesized description placed) agrees fresh
  rwa [synthesis] at off

theorem files_of_stops (stays : exporter.runner.StaysBelow) {name : String}
    (inward : exporter.InwardWorkspace name state) {error : ExportError}
    {after : ExportState} (stops : exporter.Stops name state error after) :
    after.files = state.files := by
  cases stops with
  | tool | name | listing | description => rfl
  | workspace finds synthesized description making => exact files_of_describe description
  | synthesis finds synthesized description making synthesis =>
    rename_i kernel descriptor described last made
    obtain ⟨place, placed, missing, inWorkspace⟩ :=
      exists_workspace stays inward finds synthesized description making
    obtain ⟨off, standing⟩ := inWorkspace synthesis
    show ((FileAction.removeTree exporter.workspace).run last.files).2 = state.files
    rw [FileAction.run_removeTree placed missing off standing]

/-! ### Failures before the core -/

variable {name : String} {directory : Option Path} {transfer : Transfer} {error : ExportError}

/-- An export that comes to the core does not fail before it: two failures of the core would make
it fail in two ways. -/
theorem failsBeforeCore_iff :
    exporter.FailsBeforeCore name directory transfer state error ↔
      ∃ after, exporter.Stops name state error after := by
  constructor
  · intro fails
    rcases exporter.exportKernelWith_cases state name directory transfer with
      ⟨other, after, stops⟩ | reaches
    · have both := fails exporter.renderCore
      rw [stops.run] at both
      obtain rfl := Except.error.inj both
      exact ⟨after, stops⟩
    · have failsWith : ∀ failure : ExportError, failure = error := fun failure =>
        Except.error.inj ((reaches.throw failure).symm.trans (fails _))
      have impossible := (failsWith (.kernelNotFound "")).trans (failsWith (.unsupportedTool "")).symm
      cases impossible
  · rintro ⟨after, stops⟩ core
    rw [stops.run]

/-- Some errors can only come from before the core. -/
theorem stops_of_precedesCore
    (failed : ((exporter.exportKernel name directory transfer).run state).1 = .error error)
    (early : error.precedesCore = true) : ∃ after, exporter.Stops name state error after := by
  rcases exporter.exportKernelWith_cases state name directory transfer with
    ⟨other, after, stops⟩ | reaches
  · rw [exportKernel, stops.run] at failed
    obtain rfl := Except.error.inj failed
    exact ⟨after, stops⟩
  · rcases reaches.error failed with
      ⟨kernel, descriptor, target, transfer, present, rendering⟩ | ⟨path, failure, rfl⟩
    · obtain ⟨result, files, ran⟩ := exporter.exists_run_render present (some kernel.name)
        coreSet descriptor.toValue target transfer
      rw [renderCore, ran] at rendering
      obtain ⟨failure, -, rfl⟩ := mapError_eq_error_iff.1 rendering
      cases early
    · cases early

/-- An export of a kernel fails before its core exactly in the ways that it stops, and then leaves
the files as they were. In any case it runs no tool unless the workspace is rendered, and it reports
exactly the warnings of the interface, if one is declared. -/
theorem exportKernel_before_core (exporter : Exporter) (name : String) (directory : Option Path)
    (transfer : Transfer) (state : ExportState) (stays : exporter.runner.StaysBelow)
    (ordinary : exporter.OrdinaryWorkspace name state) :
    let ended := (exporter.exportKernel name directory transfer).run state
    (∀ error, exporter.FailsBeforeCore name directory transfer state error ↔
      ∃ after, exporter.Stops name state error after) ∧
    (∀ error, exporter.FailsBeforeCore name directory transfer state error ∨
        ended.1 = .error error ∧ error.precedesCore = true →
      ended.1 = .error error ∧ ended.2.files = state.files) ∧
    (ended.2.commands = state.commands ∨
      exporter.RendersWorkspace name state ∧
        ended.2.commands = state.commands ++ [exporter.synthesisCommand]) ∧
    (∀ kernel interface, exporter.Compiles name state.files kernel interface →
      ended.2.sink = state.sink.extend interface.warnings) ∧
    ((∀ kernel interface, ¬exporter.Compiles name state.files kernel interface) →
      ended.2.sink = state.sink) := by
  intro ended
  obtain ⟨reports, calls, appends, reported, called⟩ := exporter.appends_exportKernelWith state
    exporter.silentCore_renderCore name directory transfer
  refine ⟨fun _ => failsBeforeCore_iff, fun error failed => ?_, ?_,
    fun kernel interface compiles => ?_, fun none => ?_⟩
  · obtain ⟨after, stops⟩ : ∃ after, exporter.Stops name state error after :=
      failed.elim failsBeforeCore_iff.1 fun ⟨result, early⟩ => stops_of_precedesCore result early
    have run : ended = (.error error, after) := stops.run exporter.renderCore directory transfer
    rw [run]
    exact ⟨rfl, files_of_stops stays ordinary.inward stops⟩
  · rcases called with rfl | ⟨rfl, rendered⟩
    · exact .inl (appends.commands.trans (List.append_nil _))
    · exact .inr ⟨rendered, appends.commands⟩
  · rcases reported with ⟨other, same, compiled, rfl⟩ | ⟨none, -⟩
    · rw [compiles.unique compiled]
      exact appends.sink
    · exact absurd compiles (none kernel interface)
  · rcases reported with ⟨kernel, interface, compiles, -⟩ | ⟨-, rfl⟩
    · exact absurd compiles (none kernel interface)
    · exact appends.sink

/-! ### An export whose tool fails -/

/-- A kernel with its program and a template set of one file, which are all the files there are. -/
def adderFiles : FileSystem :=
  FileSystem.empty
    |>.put [] "src" .directory
    |>.put ["src"] "a3_adder" .directory
    |>.put ["a3_adder", "src"] "hls" .directory
    |>.put ["hls", "a3_adder", "src"] "adder.cpp" (.file "A3_KERNEL(a3in_t a, a3reg_t n)".toUTF8)
    |>.put [] "templates" .directory
    |>.put ["templates"] "artico3_kernel_hls_build" .directory
    |>.put ["artico3_kernel_hls_build", "templates"] "csynth.tcl" (.file "exit".toUTF8)

/-- An export of the kernel by a tool that always fails and changes nothing. -/
def adderExporter : Exporter where
  project := {
    root := .root
    configuration := {
      projectName := "adders"
      platform := {
        repository := .empty, part := "xc7z020", board := ["pynq"], design := "basic"
        operatingSystem := "linux", tool := "vivado", toolVersion := "2024.2"
        toolRoot := Platform.defaultToolRoot }
      kernels := [KernelDescriptor.adder] } }
  runner := fun command => throw (.exited command.program (some 1))
  workspace := { segments := ["", "work"] }

/-- Where the sources of the kernel lie. -/
abbrev adderSource : Path := adderExporter.project.sourcePath KernelDescriptor.adder

/-- Where its template set lies. -/
abbrev adderSet : Path := adderExporter.project.templatePath synthesisSet

theorem adderFiles_source :
    adderFiles.get? ["src"] = some .directory ∧
    adderFiles.get? ["a3_adder", "src"] = some .directory ∧
    adderFiles.get? ["hls", "a3_adder", "src"] = some .directory ∧
    adderFiles.get? ["adder.cpp", "hls", "a3_adder", "src"] =
      some (.file "A3_KERNEL(a3in_t a, a3reg_t n)".toUTF8) := by
  decide +kernel

/-- The walks along the four paths that are read go through directories only. -/
theorem resolve_adderFiles :
    adderFiles.resolve adderSource = .ok ["hls", "a3_adder", "src"] ∧
    adderFiles.resolve (adderSource.child "adder.cpp") =
      .ok ["adder.cpp", "hls", "a3_adder", "src"] ∧
    adderFiles.resolve adderSet = .ok ["artico3_kernel_hls_build", "templates"] ∧
    adderFiles.resolve (adderSet.child "csynth.tcl") =
      .ok ["csynth.tcl", "artico3_kernel_hls_build", "templates"] := by
  decide +kernel

theorem placement_workspace (files : FileSystem) :
    files.placement adderExporter.workspace = .ok (some ⟨[], "work", false, linkLimit⟩) :=
  placementFrom_eq_some_iff.2 ⟨rfl, ⟨[], by decide, by rw [follow_nil]; rfl⟩, rfl, by decide,
    by decide, by decide⟩

theorem render_csynth (dictionary : Dictionary) : dictionary.render "csynth.tcl" = .ok "csynth.tcl" := by
  simp only [Dictionary.render, Template.renderText, Template.read]
  simp [Template.tokens]
  rfl

/-- The program of the kernel declares one input and one register. -/
theorem compiles_adderFiles : ∃ interface,
    adderExporter.Compiles "adder" adderFiles KernelDescriptor.adder interface ∧
    interface.warnings.length = 1 := by
  obtain ⟨source, program, -, -⟩ := resolve_adderFiles
  have names : adderFiles.names ["hls", "a3_adder", "src"] = ["adder.cpp"] := by decide +kernel
  have read : adderFiles.readDirectory adderSource = .ok ["adder.cpp"] := by
    simp [readDirectory, source, expectDirectory, adderFiles_source, names, bind, Except.bind,
      pure, Except.pure]
  have file : adderFiles.isDirectory (adderSource.child "adder.cpp") = false := by
    simp [isDirectory, program, adderFiles_source]
  have found : adderFiles.filesWithin pathLimit adderSource [] = .ok [["adder.cpp"]] := by
    rw [show pathLimit = 4094 + 1 from rfl, filesWithin, read]
    simp [file, bind, Except.bind, pure, Except.pure]
  have listed : adderFiles.listFiles adderSource = .ok ["adder.cpp"] := by
    rw [listFiles, found]
    simp [bind, Except.bind, pure, Except.pure]
  have text : adderFiles.readText (adderSource.child "adder.cpp") =
      .ok "A3_KERNEL(a3in_t a, a3reg_t n)" := by
    have decoded : String.fromUTF8? "A3_KERNEL(a3in_t a, a3reg_t n)".toUTF8 =
        some "A3_KERNEL(a3in_t a, a3reg_t n)" := by decide
    simp only [readText, readFile, program, adderFiles_source, bind, Except.bind, pure,
      Except.pure, decoded]
  have declared : Declaration.read "A3_KERNEL(a3in_t a, a3reg_t n)" =
      .ok ⟨["a3in_t a", "a3reg_t n"], [⟨.input, "a", 10⟩, ⟨.register, "n", 20⟩], 0⟩ := by decide
  refine ⟨_, ⟨⟨rfl, rfl⟩, rfl, _, ⟨listed, _, text, Kernel.interface_of_read _ declared⟩⟩, ?_⟩
  simp [Kernel.interfaceOf, PortLayout.ofPorts, PortLayout.group, PortLayout.sortByName,
    PortLayout.number, PortLayout.warnings, KernelDescriptor.adder]

/-- The one name in the template set renders to itself. -/
theorem ordinaryWorkspace_adderFiles :
    adderExporter.OrdinaryWorkspace "adder" { files := adderFiles } := by
  have only : adderFiles.names ["artico3_kernel_hls_build", "templates"] = ["csynth.tcl"] := by
    decide +kernel
  intro kernel descriptor described place _ _ _ placed directory name rendered entered met rendering
  obtain rfl := Option.some.inj (Except.ok.inj ((placement_workspace _).symm.trans placed))
  obtain ⟨member, -⟩ := TemplateAction.MetIn.of_flat
    (by decide +kernel : TemplateAction.Flat adderFiles adderSet
      ["artico3_kernel_hls_build", "templates"])
    (by decide) entered met
  rw [only, List.mem_singleton] at member
  rw [member, render_csynth] at rendering
  obtain rfl := Except.ok.inj rendering
  decide

/-- An export whose tool fails leaves the files as they were, and warns of the bank that the
program does not declare. -/
theorem exportKernel_before_core_adder :
    adderExporter.runner.StaysBelow ∧
    adderExporter.OrdinaryWorkspace "adder" { files := adderFiles } ∧
    let ended := (adderExporter.exportKernel "adder" none .copy).run { files := adderFiles }
    (∀ error, ended.1 = .error error → error.precedesCore = true →
      ended.2.files = adderFiles) ∧
    ended.2.sink.diagnostics.length = 1 := by
  have stays : adderExporter.runner.StaysBelow := fun _ _ => ⟨rfl, fun _ _ => rfl⟩
  obtain ⟨interface, compiles, warnings⟩ := compiles_adderFiles
  obtain ⟨-, restored, -, warned, -⟩ := exportKernel_before_core adderExporter "adder" none .copy
    { files := adderFiles } stays ordinaryWorkspace_adderFiles
  refine ⟨stays, ordinaryWorkspace_adderFiles,
    fun error failed early => (restored error (.inr ⟨failed, early⟩)).2, ?_⟩
  rw [warned _ interface compiles, Sink.diagnostics_extend]
  exact warnings

end Exporter

end KernelExport
