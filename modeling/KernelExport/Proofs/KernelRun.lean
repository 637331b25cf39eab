/-
This file says how the export of a kernel runs.

It stops before the core, in one of the ways that `Stops` lists, or it comes to the core, and then
what it does is a function of what rendering the core does (`Reaches`). Until then and after, it
reports no more than the warnings of the interface that the program of the kernel declares, and it
runs no command but that of synthesis, once the workspace is rendered
(`appends_exportKernelWith`).
-/

import KernelExport.Export.Kernel
import KernelExport.Proofs.ExportSteps

namespace KernelExport

variable {Result : Type}

namespace Exporter

open ExportAction ExportState

variable (exporter : Exporter) (kernel : Kernel) (state : ExportState)

theorem run_kernelNamed (name : String) : (exporter.kernelNamed name).run state =
    (match exporter.project.configuration.kernel? name with
      | some kernel => .ok kernel
      | none => .error (.kernelNotFound name), state) := by
  rw [kernelNamed]
  cases exporter.project.configuration.kernel? name <;> rfl

/-! ### Descriptions -/

/-- The files declare an interface of a kernel: its sources can be listed, and its program is a
text that declares the interface. -/
structure Declares (files : FileSystem) (listed : List String) (interface : Interface) :
    Prop where
  listed : files.listFiles (exporter.project.sourcePath kernel) = .ok listed
  compiled : ∃ source, files.readText (exporter.programPath kernel) = .ok source ∧
    kernel.interface source = .ok interface

variable {exporter kernel state} in
theorem Declares.unique {files : FileSystem} {listed others : List String}
    {interface other : Interface} (first : exporter.Declares kernel files listed interface)
    (second : exporter.Declares kernel files others other) : interface = other := by
  obtain ⟨-, source, read, compiled⟩ := first
  obtain ⟨-, again, readAgain, compiledAgain⟩ := second
  obtain rfl := Except.ok.inj (read.symm.trans readAgain)
  exact Except.ok.inj (compiled.symm.trans compiledAgain)

theorem run_readInterface (path : Path) :
    (∃ source interface, state.files.readText path = .ok source ∧
      kernel.interface source = .ok interface ∧
      (readInterface kernel path).run state = (.ok interface, state)) ∨
    ∃ error, (∀ source interface, state.files.readText path = .ok source →
      kernel.interface source ≠ .ok interface) ∧
      (readInterface kernel path).run state = (.error error, state) := by
  rw [readInterface, run_bind, run_ask]
  cases read : state.files.readText path with
  | error failure => exact .inr ⟨_, by simp, rfl⟩
  | ok source =>
    simp only [mapError_ok]
    cases compiled : kernel.interface source with
    | error fault =>
      refine .inr ⟨_, fun again interface same => ?_, rfl⟩
      rw [← Except.ok.inj same, compiled]
      simp
    | ok interface => exact .inl ⟨source, interface, rfl, compiled, rfl⟩

/-- A kernel is described if an interface of it is declared. Its warnings are reported; a failure
leaves everything as it is. -/
theorem run_describe :
    (∃ listed interface, exporter.Declares kernel state.files listed interface ∧
      (exporter.describe kernel).run state =
        (.ok (.synthesized kernel exporter.part (exporter.project.sourcePath kernel) listed
          interface), { state with sink := state.sink.extend interface.warnings })) ∨
    ∃ error, (∀ listed interface, ¬exporter.Declares kernel state.files listed interface) ∧
      (exporter.describe kernel).run state = (.error error, state) := by
  rw [describe, run_bind, run_ask]
  cases files : state.files.listFiles (exporter.project.sourcePath kernel) with
  | error failure =>
    refine .inr ⟨_, fun listed interface declares => ?_, rfl⟩
    rw [declares.listed] at files
    cases files
  | ok listed =>
    simp only [mapError_ok]
    rw [run_bind]
    rcases run_readInterface kernel state (exporter.programPath kernel) with
      ⟨source, interface, read, compiled, ran⟩ | ⟨error, none, ran⟩
    · rw [ran]
      exact .inl ⟨listed, interface, ⟨files, source, read, compiled⟩, rfl⟩
    · rw [ran]
      exact .inr ⟨error, fun _ interface ⟨_, source, read, compiled⟩ =>
        none source interface read compiled, rfl⟩

/-! ### Synthesis -/

/-- The command by which hardware is synthesized. -/
def synthesisCommand (exporter : Exporter) : Command :=
  (Command.synthesis exporter.workspace).withSettings exporter.project.settingsScript

/-- The state after the tool of synthesis. -/
def afterSynthesis (exporter : Exporter) (state : ExportState) : ExportState :=
  { state with
    files := ((exporter.runner exporter.synthesisCommand).run state.files).2
    commands := state.commands ++ [exporter.synthesisCommand] }

/-- Looking for the hardware changes nothing. -/
theorem run_collectHardware (descriptor : KernelDescriptor) :
    ((exporter.collectHardware descriptor).run state).2 = state := by
  have looks : Keeps Eq (exporter.collectHardware descriptor) state := by
    refine Keeps.get ?_
    split
    · refine Keeps.bind (Keeps.of_eq (by rw [run_ask])) fun hardware after _ _ => Keeps.pure _
    · exact Keeps.throw _
  exact looks.symm

/-- Synthesis runs its tool once the workspace is rendered, and nothing changes after that. -/
theorem run_synthesize (descriptor : KernelDescriptor) :
    (∃ error rendered,
      (exporter.renderWorkspace kernel descriptor).run state = (.error error, rendered) ∧
      (exporter.synthesize kernel descriptor).run state = (.error error, rendered)) ∨
    ∃ rendered,
      (exporter.renderWorkspace kernel descriptor).run state = (.ok (), rendered) ∧
      ((exporter.synthesize kernel descriptor).run state).2 =
        exporter.afterSynthesis rendered := by
  rw [synthesize, run_bind]
  rcases rendering : (exporter.renderWorkspace kernel descriptor).run state with
    ⟨error | _, rendered⟩
  · exact .inl ⟨error, rendered, rfl, rfl⟩
  · refine .inr ⟨rendered, rfl, ?_⟩
    have called : (exporter.runTool .synthesis (.synthesis exporter.workspace)).run rendered =
        (((exporter.runner exporter.synthesisCommand).run rendered.files).1.mapError
          (.tool .synthesis), exporter.afterSynthesis rendered) :=
      exporter.run_runTool rendered .synthesis (.synthesis exporter.workspace)
    simp only []
    rw [run_bind, called]
    cases ((exporter.runner exporter.synthesisCommand).run rendered.files).1 with
    | error failure => rfl
    | ok _ => exact exporter.run_collectHardware (exporter.afterSynthesis rendered) descriptor

/-! ### Before the core and from it on -/

/-- The tool is supported, and the project has a kernel of the name. -/
structure Finds (name : String) (kernel : Kernel) : Prop where
  tool : exporter.project.configuration.platform.tool = supportedTool
  kernel : exporter.project.configuration.kernel? name = some kernel

/-- The ways in which an export of the kernel of a name stops before its core is rendered, with
the failure and the state at the end. -/
inductive Stops (name : String) (state : ExportState) : ExportError → ExportState → Prop
  | tool : exporter.project.configuration.platform.tool ≠ supportedTool →
    Stops name state (.unsupportedTool exporter.project.configuration.platform.tool) state
  | name : exporter.project.configuration.platform.tool = supportedTool →
    exporter.project.configuration.kernel? name = none →
    Stops name state (.kernelNotFound name) state
  | listing {kernel : Kernel} {failure : FileError} : exporter.Finds name kernel →
    kernel.source.isStructural = true →
    state.files.listFiles (exporter.project.sourcePath kernel) = .error failure →
    Stops name state (.files (exporter.project.sourcePath kernel) failure) state
  | description {kernel : Kernel} {error : ExportError} : exporter.Finds name kernel →
    kernel.source.isStructural = false →
    (exporter.describe kernel).run state = (.error error, state) → Stops name state error state
  | workspace {kernel : Kernel} {descriptor : KernelDescriptor} {described : ExportState}
    {failure : FileError} : exporter.Finds name kernel →
    kernel.source.isStructural = false →
    (exporter.describe kernel).run state = (.ok descriptor, described) →
    described.files.createDirectory exporter.workspace = .error failure →
    Stops name state (.files (exporter.workspace.parent?.getD .empty) failure) described
  | synthesis {kernel : Kernel} {descriptor : KernelDescriptor} {described after : ExportState}
    {made : FileSystem} {error : ExportError} : exporter.Finds name kernel →
    kernel.source.isStructural = false →
    (exporter.describe kernel).run state = (.ok descriptor, described) →
    described.files.createDirectory exporter.workspace = .ok made →
    (exporter.synthesize kernel descriptor).run { described with files := made } =
      (.error error, after) →
    Stops name state error
      { after with files := ((FileAction.removeTree exporter.workspace).run after.files).2 }

/-- The export of a kernel that is found answers the directory at the end. -/
theorem run_exportKernelWith {name : String} {kernel : Kernel}
    (finds : exporter.Finds name kernel) (core : CoreRenderer) (directory : Option Path)
    (transfer : Transfer) :
    let target := directory.getD (exporter.project.kernelExportPath name)
    (exporter.exportKernelWith core name directory transfer).run state =
      (exporter.exportCore core kernel target transfer >>= fun _ => pure target).run state := by
  rw [exportKernelWith, run_bind, run_checkTool, if_pos finds.tool]
  simp only []
  rw [run_bind, run_kernelNamed, finds.kernel]

variable {exporter state} in
/-- An export that stops before the core does so whatever the way to render cores. -/
theorem Stops.run {name : String} {error : ExportError} {after : ExportState}
    (stops : exporter.Stops name state error after) (core : CoreRenderer)
    (directory : Option Path) (transfer : Transfer) :
    (exporter.exportKernelWith core name directory transfer).run state = (.error error, after) := by
  cases stops with
  | tool other => rw [exportKernelWith, run_bind, run_checkTool, if_neg other]
  | name supported missing =>
    rw [exportKernelWith, run_bind, run_checkTool, if_pos supported]
    simp only []
    rw [run_bind, run_kernelNamed, missing]
  | listing finds structural listing =>
    rw [run_exportKernelWith exporter state finds, run_bind, exportCore, if_pos structural,
      exportStructural, run_bind, run_ask, listing]
    rfl
  | description finds synthesized description =>
    rw [run_exportKernelWith exporter state finds, run_bind, exportCore,
      if_neg (Bool.eq_false_iff.1 synthesized), exportSynthesized, run_bind, description]
  | workspace finds synthesized description making =>
    rw [run_exportKernelWith exporter state finds, run_bind, exportCore,
      if_neg (Bool.eq_false_iff.1 synthesized), exportSynthesized, run_bind, description]
    simp only []
    rw [run_withWorkspace, making]
  | synthesis finds synthesized description making synthesis =>
    rw [run_exportKernelWith exporter state finds, run_bind, exportCore,
      if_neg (Bool.eq_false_iff.1 synthesized), exportSynthesized, run_bind, description]
    simp only []
    rw [run_withWorkspace, making]
    simp only []
    rw [exportFromWorkspace, run_bind, synthesis]

/-- What is done with the end of steps: a failure stays the failure, and after a success only
operations on files can fail. -/
structure Ends {Other : Type} (finish : Except ExportError Result × ExportState →
    Except ExportError Other × ExportState) : Prop where
  failed : ∀ {ended error}, ended.1 = .error error → (finish ended).1 = .error error
  succeeded : ∀ {ended value error}, ended.1 = .ok value → (finish ended).1 = .error error →
    ∃ path failure, error = .files path failure

/-- A run that depends on the way to render cores renders one core, in a state that the way has
no part in. If that fails, so does the run; after that, only operations on files can fail. -/
def Reaches (run : CoreRenderer → Except ExportError Result × ExportState) : Prop :=
  ∃ (kernel : Kernel) (descriptor : KernelDescriptor) (target : Path) (transfer : Transfer)
    (present : ExportState)
    (finish : Except ExportError Unit × ExportState → Except ExportError Result × ExportState),
    Ends finish ∧ ∀ core, run core = finish ((core kernel descriptor target transfer).run present)

theorem Reaches.throw {run : CoreRenderer → Except ExportError Result × ExportState}
    (reaches : Reaches run) (failure : ExportError) :
    (run fun _ _ _ _ => MonadExcept.throw failure).1 = .error failure := by
  obtain ⟨_, _, _, _, _, finish, finishes, same⟩ := reaches
  rw [same]
  exact finishes.failed rfl

/-- A failure of a run that comes to the core is one of the core, or one of files. -/
theorem Reaches.error {run : CoreRenderer → Except ExportError Result × ExportState}
    (reaches : Reaches run) {core : CoreRenderer} {error : ExportError}
    (failed : (run core).1 = .error error) :
    (∃ kernel descriptor target transfer present,
      ((core kernel descriptor target transfer).run present).1 = .error error) ∨
    ∃ path failure, error = .files path failure := by
  obtain ⟨kernel, descriptor, target, transfer, present, finish, finishes, same⟩ := reaches
  rw [same] at failed
  cases rendering : ((core kernel descriptor target transfer).run present).1 with
  | error other =>
    rw [finishes.failed rendering] at failed
    obtain rfl := Except.error.inj failed
    exact .inl ⟨kernel, descriptor, target, transfer, present, rendering⟩
  | ok _ => exact .inr (finishes.succeeded rendering failed)

theorem Reaches.congr {run other : CoreRenderer → Except ExportError Result × ExportState}
    (reaches : Reaches run) (same : ∀ core, other core = run core) : Reaches other :=
  (funext same : other = run) ▸ reaches

theorem Reaches.then {Other : Type} {run : CoreRenderer → Except ExportError Result × ExportState}
    (reaches : Reaches run) (next : Except ExportError Result × ExportState →
      Except ExportError Other × ExportState) (ends : Ends next) :
    Reaches fun core => next (run core) := by
  obtain ⟨kernel, descriptor, target, transfer, present, finish, finishes, same⟩ := reaches
  refine ⟨kernel, descriptor, target, transfer, present, fun ended => next (finish ended),
    ⟨fun failed => ends.failed (finishes.failed failed), fun {ended value error} done failed => ?_⟩,
    fun core => congrArg next (same core)⟩
  cases middle : (finish ended).1 with
  | error earlier =>
    rw [ends.failed middle] at failed
    obtain rfl := Except.error.inj failed
    exact finishes.succeeded done middle
  | ok _ => exact ends.succeeded middle failed

/-- More steps after the core, of which only operations on files can fail. -/
theorem Reaches.bind {Other : Type} {action : CoreRenderer → ExportAction Result}
    {state : ExportState} (reaches : Reaches fun core => (action core).run state)
    (next : Result → ExportAction Other)
    (onlyFiles : ∀ {value after error}, ((next value).run after).1 = .error error →
      ∃ path failure, error = .files path failure) :
    Reaches fun core => (action core >>= next).run state := by
  refine (reaches.then (fun ended => match ended with
    | (.ok value, after) => (next value).run after
    | (.error error, after) => (.error error, after)) ⟨?_, ?_⟩).congr fun core => ?_
  · rintro ⟨_, after⟩ error rfl
    rfl
  · rintro ⟨_, after⟩ value error rfl failed
    exact onlyFiles failed
  · rw [run_bind]
    rcases (action core).run state with ⟨_ | _, _⟩ <;> rfl

theorem Reaches.core (kernel : Kernel) (descriptor : KernelDescriptor) (target : Path)
    (transfer : Transfer) (present : ExportState) :
    Reaches fun core => (core kernel descriptor target transfer).run present := by
  refine ⟨kernel, descriptor, target, transfer, present, id, ⟨id, fun done failed => ?_⟩,
    fun _ => rfl⟩
  rw [id, done] at failed
  cases failed

theorem exportStructural_cases (target : Path) (transfer : Transfer) :
    (∃ failure, state.files.listFiles (exporter.project.sourcePath kernel) = .error failure) ∨
    Reaches fun core => (exporter.exportStructural core kernel target transfer).run state := by
  cases listed : state.files.listFiles (exporter.project.sourcePath kernel) with
  | error failure => exact .inl ⟨failure, rfl⟩
  | ok files =>
    refine .inr ((Reaches.core kernel (.structural kernel exporter.part
      (exporter.project.sourcePath kernel) files) target transfer state).congr fun core => ?_)
    rw [exportStructural, run_bind, run_ask, listed]
    rfl

/-- Keeping the workspace is nothing but operations on files. -/
theorem keepWorkspace_fails {target : Path} {error : ExportError}
    (failed : ((exporter.keepWorkspace kernel target).run state).1 = .error error) :
    ∃ path failure, error = .files path failure := by
  have files : ∀ {path : Path} {action : FileAction Unit} {present : ExportState},
      ((onFiles (.files path) action).run present).1 = .error error →
        ∃ path failure, error = .files path failure := by
    intro path action present failed
    rw [run_onFiles] at failed
    obtain ⟨failure, -, rfl⟩ := mapError_eq_error_iff.1 failed
    exact ⟨path, failure, rfl⟩
  rw [keepWorkspace, run_bind] at failed
  split at failed
  · exact files failed
  · rename_i ran
    exact files ((congrArg Prod.fst ran).trans failed)

theorem exportFromWorkspace_cases (descriptor : KernelDescriptor) (target : Path) :
    (∃ error after, (exporter.synthesize kernel descriptor).run state = (.error error, after)) ∨
    Reaches fun core => (exporter.exportFromWorkspace core kernel descriptor target).run state := by
  rcases synthesis : (exporter.synthesize kernel descriptor).run state with
    ⟨error | hardware, after⟩
  · exact .inl ⟨error, after, rfl⟩
  · refine .inr (((Reaches.core kernel hardware target .copy after).bind
      (fun _ => exporter.keepWorkspace kernel target)
      (exporter.keepWorkspace_fails kernel _)).congr fun core => ?_)
    rw [exportFromWorkspace, run_bind, synthesis]

theorem exportSynthesized_cases {name : String} {kernel : Kernel}
    (finds : exporter.Finds name kernel) (synthesized : kernel.source.isStructural = false)
    (target : Path) :
    (∃ error after, exporter.Stops name state error after) ∨
    Reaches fun core => (exporter.exportSynthesized core kernel target).run state := by
  rcases description : (exporter.describe kernel).run state with ⟨error | descriptor, described⟩
  · obtain rfl : described = state := by
      rcases exporter.run_describe kernel state with ⟨_, _, _, done⟩ | ⟨_, _, failed⟩
      · rw [description] at done
        cases done
      · rw [description] at failed
        exact (Prod.mk.inj failed).2
    exact .inl ⟨error, described, .description finds synthesized description⟩
  · have opened : ∀ core, (exporter.exportSynthesized core kernel target).run state =
        (withWorkspace exporter.workspace
          (exporter.exportFromWorkspace core kernel descriptor target)).run described := by
      intro core
      rw [exportSynthesized, run_bind, description]
    have opened := fun core => (opened core).trans
      (run_withWorkspace exporter.workspace
        (exporter.exportFromWorkspace core kernel descriptor target) described)
    cases making : described.files.createDirectory exporter.workspace with
    | error failure => exact .inl ⟨_, described, .workspace finds synthesized description making⟩
    | ok made =>
      simp only [making] at opened
      rcases exporter.exportFromWorkspace_cases kernel { described with files := made } descriptor
        target with ⟨error, after, synthesis⟩ | reaches
      · exact .inl ⟨error, _, .synthesis finds synthesized description making synthesis⟩
      · refine .inr ((reaches.then (fun ended => (ended.1, { ended.2 with
          files := ((FileAction.removeTree exporter.workspace).run ended.2.files).2 }))
          ⟨id, fun done failed => ?_⟩).congr opened)
        rw [done] at failed
        cases failed

/-- The export of a kernel that is not found stops at once. -/
theorem stops_of_missing {name : String} (missing : ∀ kernel, ¬exporter.Finds name kernel) :
    ∃ error, exporter.Stops name state error state := by
  by_cases tool : exporter.project.configuration.platform.tool = supportedTool
  · cases named : exporter.project.configuration.kernel? name with
    | none => exact ⟨_, .name tool named⟩
    | some kernel => exact absurd ⟨tool, named⟩ (missing kernel)
  · exact ⟨_, .tool tool⟩

theorem exportCore_cases {name : String} {kernel : Kernel} (finds : exporter.Finds name kernel)
    (target : Path) (transfer : Transfer) :
    (∃ error after, exporter.Stops name state error after) ∨
    Reaches fun core => (exporter.exportCore core kernel target transfer).run state := by
  cases structural : kernel.source.isStructural with
  | true =>
    simp only [exportCore, structural, if_true]
    exact (exporter.exportStructural_cases kernel state target transfer).imp_left
      fun ⟨failure, listing⟩ => ⟨_, state, .listing finds structural listing⟩
  | false =>
    simp only [exportCore, structural, if_false, Bool.false_eq_true]
    exact exporter.exportSynthesized_cases state finds structural target

/-- An export of a kernel stops before the core, or it comes to the core. -/
theorem exportKernelWith_cases (name : String) (directory : Option Path) (transfer : Transfer) :
    (∃ error after, exporter.Stops name state error after) ∨
    Reaches fun core => (exporter.exportKernelWith core name directory transfer).run state := by
  by_cases found : ∃ kernel, exporter.Finds name kernel
  · obtain ⟨kernel, finds⟩ := found
    have ran := fun core => exporter.run_exportKernelWith state finds core directory transfer
    refine (exporter.exportCore_cases state finds
      (directory.getD (exporter.project.kernelExportPath name)) transfer).imp_right
      fun reaches => ?_
    exact (reaches.bind (fun _ => pure _) fun failed => by cases failed).congr ran
  · obtain ⟨error, stops⟩ := exporter.stops_of_missing state (not_exists.1 found)
    exact .inl ⟨error, state, stops⟩

/-! ### Diagnostics and commands -/

/-- The program of a kernel that is found and that hardware is synthesized for declares an
interface. -/
structure Compiles (name : String) (files : FileSystem) (kernel : Kernel) (interface : Interface) :
    Prop where
  finds : exporter.Finds name kernel
  synthesized : kernel.source.isStructural = false
  declares : ∃ listed, exporter.Declares kernel files listed interface

variable {exporter} in
theorem Compiles.unique {name : String} {files : FileSystem} {kernel other : Kernel}
    {interface same : Interface} (first : exporter.Compiles name files kernel interface)
    (second : exporter.Compiles name files other same) : interface = same := by
  obtain rfl := Option.some.inj (first.finds.kernel.symm.trans second.finds.kernel)
  obtain ⟨_, declares⟩ := first.declares
  obtain ⟨_, again⟩ := second.declares
  exact declares.unique again

/-- An export of the kernel of a name comes to have its workspace rendered. -/
def RendersWorkspace (name : String) (state : ExportState) : Prop :=
  ∃ kernel descriptor described made rendered, exporter.Finds name kernel ∧
    kernel.source.isStructural = false ∧
    (exporter.describe kernel).run state = (.ok descriptor, described) ∧
    described.files.createDirectory exporter.workspace = .ok made ∧
    (exporter.renderWorkspace kernel descriptor).run { described with files := made } =
      (.ok (), rendered)

/-- The diagnostics that an export of the kernel of a name reports: the warnings of the interface,
if one is declared. -/
def Reports (name : String) (files : FileSystem) (diagnostics : List Diagnostic) : Prop :=
  (∃ kernel interface, exporter.Compiles name files kernel interface ∧
    diagnostics = interface.warnings) ∨
  (∀ kernel interface, ¬exporter.Compiles name files kernel interface) ∧ diagnostics = []

/-- The commands that an export of the kernel of a name may run: none, or the one of synthesis if
its workspace is rendered. -/
def Calls (name : String) (state : ExportState) (commands : List Command) : Prop :=
  commands = [] ∨ commands = [exporter.synthesisCommand] ∧ exporter.RendersWorkspace name state

/-- Rendering the core changes nothing but files. -/
def SilentCore (core : CoreRenderer) : Prop :=
  ∀ kernel descriptor target transfer state,
    Keeps Appends.Silent (core kernel descriptor target transfer) state

theorem silentCore_renderCore : SilentCore exporter.renderCore :=
  fun kernel descriptor target transfer state =>
    exporter.silent_render state kernel.name coreSet descriptor.toValue target transfer

/-- Synthesis runs at most its one command, and that only when the workspace is rendered. -/
theorem appends_synthesize (descriptor : KernelDescriptor) : ∃ calls,
    Appends [] calls state ((exporter.synthesize kernel descriptor).run state).2 ∧
    (calls = [] ∨ calls = [exporter.synthesisCommand] ∧
      ∃ rendered, (exporter.renderWorkspace kernel descriptor).run state = (.ok (), rendered)) := by
  have silent := exporter.silent_render state kernel.name synthesisSet descriptor.toValue
    exporter.workspace .copy
  rcases exporter.run_synthesize kernel state descriptor with
    ⟨error, rendered, rendering, ran⟩ | ⟨rendered, rendering, ran⟩
  · rw [Keeps, ← renderWorkspace, rendering] at silent
    rw [ran]
    exact ⟨[], silent, .inl rfl⟩
  · rw [Keeps, ← renderWorkspace, rendering] at silent
    rw [ran]
    exact ⟨_, ⟨silent.sink, by rw [afterSynthesis, silent.commands, List.append_nil],
      silent.progress⟩, .inr ⟨rfl, rendered, rendering⟩⟩

variable {core : CoreRenderer} (silent : SilentCore core)

include silent

theorem appends_exportFromWorkspace (descriptor : KernelDescriptor) (target : Path) : ∃ calls,
    Appends [] calls state
      ((exporter.exportFromWorkspace core kernel descriptor target).run state).2 ∧
    (calls = [] ∨ calls = [exporter.synthesisCommand] ∧
      ∃ rendered, (exporter.renderWorkspace kernel descriptor).run state = (.ok (), rendered)) := by
  obtain ⟨calls, appends, called⟩ := exporter.appends_synthesize kernel state descriptor
  refine ⟨calls, ?_, called⟩
  rw [exportFromWorkspace, run_bind]
  split
  · rename_i hardware after ran
    rw [ran] at appends
    refine appends.then_silent ?_
    show Keeps _ _ _
    refine Keeps.bind (silent kernel hardware target .copy after) fun _ last _ _ => ?_
    rw [keepWorkspace]
    exact Keeps.bind keeps_onFiles fun _ _ _ _ => keeps_onFiles
  · rename_i ran
    rwa [ran] at appends

theorem appends_exportSynthesized {name : String} {kernel : Kernel}
    (finds : exporter.Finds name kernel) (synthesized : kernel.source.isStructural = false)
    (target : Path) : ∃ reports calls,
    Appends reports calls state ((exporter.exportSynthesized core kernel target).run state).2 ∧
    exporter.Reports name state.files reports ∧ exporter.Calls name state calls := by
  rw [exportSynthesized, run_bind]
  -- The warnings come with the description, and the command with the workspace.
  rcases exporter.run_describe kernel state with
    ⟨listed, interface, declares, description⟩ | ⟨error, none, description⟩
  · have reports : exporter.Reports name state.files interface.warnings :=
      .inl ⟨kernel, interface, ⟨finds, synthesized, listed, declares⟩, rfl⟩
    have warned : Appends interface.warnings [] state
        { state with sink := state.sink.extend interface.warnings } :=
      ⟨rfl, (List.append_nil _).symm, rfl⟩
    rw [description]
    simp only []
    rw [run_withWorkspace]
    split
    · exact ⟨_, [], warned, reports, .inl rfl⟩
    · rename_i made making
      obtain ⟨calls, appends, called⟩ := exporter.appends_exportFromWorkspace kernel
        { state with sink := state.sink.extend interface.warnings, files := made } silent
        (.synthesized kernel exporter.part (exporter.project.sourcePath kernel) listed interface)
        target
      refine ⟨interface.warnings, calls, ?_, reports, called.imp id fun ⟨same, rendered⟩ =>
        ⟨same, kernel, _, _, made, rendered.choose, finds, synthesized, description, making,
          rendered.choose_spec⟩⟩
      have both := (warned.then_silent (.of_files _ made)).trans appends
      rw [List.append_nil, List.nil_append] at both
      exact both.then_silent (.of_files _ _)
  · rw [description]
    refine ⟨[], [], .refl state, .inr ⟨?_, rfl⟩, .inl rfl⟩
    rintro other interface ⟨found, -, listed, declares⟩
    obtain rfl := Option.some.inj (finds.kernel.symm.trans found.kernel)
    exact none listed interface declares

theorem appends_exportCore {name : String} {kernel : Kernel} (finds : exporter.Finds name kernel)
    (target : Path) (transfer : Transfer) : ∃ reports calls,
    Appends reports calls state
      ((exporter.exportCore core kernel target transfer).run state).2 ∧
    exporter.Reports name state.files reports ∧ exporter.Calls name state calls := by
  cases structural : kernel.source.isStructural with
  | true =>
    have kept : Keeps Appends.Silent (exporter.exportStructural core kernel target transfer)
        state :=
      Keeps.bind keeps_onFiles fun _ after _ _ => silent kernel _ target transfer after
    simp only [exportCore, structural, if_true]
    refine ⟨[], [], kept, .inr ⟨?_, rfl⟩, .inl rfl⟩
    rintro other interface ⟨found, synthesized, -⟩
    obtain rfl := Option.some.inj (finds.kernel.symm.trans found.kernel)
    rw [structural] at synthesized
    cases synthesized
  | false =>
    simp only [exportCore, structural, if_false, Bool.false_eq_true]
    exact exporter.appends_exportSynthesized state silent finds structural target

/-- An export of a kernel reports exactly the warnings of the interface that it comes to compile,
and runs at most the command of synthesis. -/
theorem appends_exportKernelWith (name : String) (directory : Option Path) (transfer : Transfer) :
    ∃ reports calls, Appends reports calls state
      ((exporter.exportKernelWith core name directory transfer).run state).2 ∧
    exporter.Reports name state.files reports ∧ exporter.Calls name state calls := by
  by_cases found : ∃ kernel, exporter.Finds name kernel
  · obtain ⟨kernel, finds⟩ := found
    obtain ⟨reports, calls, appends, allowed⟩ := exporter.appends_exportCore state silent finds
      (directory.getD (exporter.project.kernelExportPath name)) transfer
    refine ⟨reports, calls, ?_, allowed⟩
    rw [exporter.run_exportKernelWith state finds core directory transfer, run_bind]
    split <;> rename_i ran <;> rwa [ran] at appends
  · obtain ⟨error, stops⟩ := exporter.stops_of_missing state (not_exists.1 found)
    rw [stops.run core]
    exact ⟨[], [], .refl state, .inr ⟨fun kernel _ compiles => found ⟨kernel, compiles.finds⟩, rfl⟩,
      .inl rfl⟩

end Exporter

end KernelExport
