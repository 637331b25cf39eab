/-
This file says that the export of a kernel changes nothing outside its export directory and its
workspace.

Synthesis changes the workspace, the core is rendered into the export directory, and all of the
workspace is kept there below the core, in the place of what an earlier export kept. Each of those
goes by paths, and the last step, to remove the workspace, goes by a path too: it must not have been
led astray by what came to the export directory in the meantime. No link comes there from a
workspace, since its files are copied, and that is enough.

What it takes is said about the state in which an export comes to its core (`ComesToCore`).
-/

import KernelExport.Proofs.FailedExport
import KernelExport.Proofs.Replacement

namespace KernelExport

open FileSystem FileAction

namespace TemplateAction

variable {dictionary : Dictionary} {template target : Path} {files : FileSystem}

/-- A rendering with copies of the sources makes no link, and if it succeeds the links in the output
are as harmless as they were. -/
theorem render_copy (inwards : Inwards dictionary template target files) {after : FileSystem}
    {result : Except TemplateError Unit}
    (ran : (render dictionary .copy template target).run files = (result, after)) :
    (∀ {location target}, after.get? location = some (.link target) →
      files.get? location = some (.link target)) ∧
    (result = .ok () → ∃ opened site, files.Opens target opened site ∧
      after.OpensAt target site ∧ Settled (Below site) after) := by
  rcases render_cases dictionary .copy template target files with
    same | ⟨failure, made, opening, same⟩ | ⟨opened, site, opens, same⟩
  · obtain ⟨rfl, rfl⟩ := Prod.mk.inj (ran.symm.trans same)
    exact ⟨id, fun done => by cases done⟩
  · have makes := makes_createDirectories target files
    rw [opening] at makes
    obtain ⟨rfl, rfl⟩ := Prod.mk.inj (ran.symm.trans same)
    exact ⟨makes.linked, fun done => by cases done⟩
  · have settled := opens.makes.settled (inwards.settled opens)
    have guard := guard_settled (closed_below site) fun _ => False
    have upholds : Upholds (Overwrites (Below site) fun _ => False) (Settled (Below site))
        (renderEntries dictionary .copy (pathLimit - 1) template target) opened :=
      upholds_renderSet guard opens.opensAt settled (inwards.names opens) supplies_of_copy _
    have overwrites : Overwrites (Below site) (fun _ => False) opened after := by
      have keeps := upholds.keeps
      rwa [Keeps, ← same, ran] at keeps
    refine ⟨fun linked => opens.makes.linked (overwrites.trims.linked linked), fun done => ?_⟩
    rw [same, done] at ran
    exact ⟨opened, site, opens, opens.opensAt.of_overwrites settled.tame overwrites,
      upholds.sound ran⟩

end TemplateAction

namespace Exporter

open ExportAction

/-- An export of the kernel of a name comes to render a core, in a state that the way to render
cores has no part in. -/
inductive ComesToCore (exporter : Exporter) (name : String) (transfer : Transfer)
    (state : ExportState) : Kernel → KernelDescriptor → Transfer → ExportState → Prop
  | structural {kernel : Kernel} {listed : List String} : exporter.Finds name kernel →
    kernel.source.isStructural = true →
    state.files.listFiles (exporter.project.sourcePath kernel) = .ok listed →
    ComesToCore exporter name transfer state kernel
      (.structural kernel exporter.part (exporter.project.sourcePath kernel) listed) transfer state
  | synthesized {kernel : Kernel} {descriptor hardware : KernelDescriptor}
    {described present : ExportState} {made : FileSystem} : exporter.Finds name kernel →
    kernel.source.isStructural = false →
    (exporter.describe kernel).run state = (.ok descriptor, described) →
    described.files.createDirectory exporter.workspace = .ok made →
    (exporter.synthesize kernel descriptor).run { described with files := made } =
      (.ok hardware, present) →
    ComesToCore exporter name transfer state kernel hardware .copy present

/-- What an export needs to stay in its export directory and its workspace: the names in its two
template sets do not lead out of where they are rendered to, nor does the name of the core, and the
links in the export directory lead neither to a directory nor to nothing when the core is rendered. -/
structure ExportsInward (exporter : Exporter) (name : String) (target : Path) (transfer : Transfer)
    (state : ExportState) : Prop where
  workspace : exporter.InwardWorkspace name state
  core : ∀ {kernel descriptor way present},
    exporter.ComesToCore name transfer state kernel descriptor way present →
    TemplateAction.Inwards ⟨descriptor.fields⟩ (exporter.project.templatePath coreSet) target
      present.files
  directory : ∀ {kernel}, exporter.Finds name kernel → kernel.source.isStructural = false →
    TemplateAction.Inward (Core.ofKernel kernel.name).directory

/-- Nothing has changed outside the workspace of an export and the directory that it exports to, but
that missing directories on the way there were made. -/
structure ChangesExport (exporter : Exporter) (name : String) (target : Path) (transfer : Transfer)
    (state : ExportState) (after : FileSystem) : Prop where
  workingDirectory : after.workingDirectory = state.files.workingDirectory
  outside : ∀ {location},
    (∀ kernel place, exporter.Finds name kernel → kernel.source.isStructural = false →
      state.files.placement exporter.workspace = .ok (some place) →
      within place.location location = false) →
    (∀ kernel descriptor way present,
      exporter.ComesToCore name transfer state kernel descriptor way present →
      ¬present.files.InOutput target location) →
    after.get? location = state.files.get? location ∨
      state.files.get? location = none ∧ after.get? location = some .directory ∧
      ∃ kernel descriptor way present,
        exporter.ComesToCore name transfer state kernel descriptor way present ∧
        present.files.OnTheWay target location

variable {exporter : Exporter} {name : String} {target : Path} {transfer : Transfer}
  {state : ExportState} {kernel : Kernel}

/-! ### From the core on -/

theorem run_renderCore (descriptor : KernelDescriptor) (target : Path) (way : Transfer)
    (present : ExportState) :
    (exporter.renderCore kernel descriptor target way).run present =
      let rendered := (TemplateAction.render ⟨descriptor.fields⟩ way
        (exporter.project.templatePath coreSet) target).run present.files
      (rendered.1.mapError (.template (some kernel.name)), { present with files := rendered.2 }) := by
  have renders : exporter.renderCore kernel descriptor target way =
      onFiles (.template (some kernel.name)) (TemplateAction.render ⟨descriptor.fields⟩ way
        (exporter.project.templatePath coreSet) target) := rfl
  rw [renders, run_onFiles]

/-- Where the workspace of a kernel is kept in an export directory. -/
def keptPath (kernel : Kernel) (target : Path) : Path :=
  (target.join (.ofText (Core.ofKernel kernel.name).directory)).child "hls"

theorem run_keepWorkspace (kernel : Kernel) (target : Path) (present : ExportState) :
    (exporter.keepWorkspace kernel target).run present =
      match (removeTree (keptPath kernel target)).run present.files with
      | (.ok _, files) =>
        let laid := (overlay .copy exporter.workspace (keptPath kernel target)).run files
        (laid.1.mapError (.files (keptPath kernel target)), { present with files := laid.2 })
      | (.error failure, files) =>
        (.error (.files (keptPath kernel target) failure), { present with files }) := by
  have keeps : exporter.keepWorkspace kernel target =
      onFiles (.files (keptPath kernel target)) (removeTree (keptPath kernel target)) >>= fun _ =>
        onFiles (.files (keptPath kernel target))
          (overlay .copy exporter.workspace (keptPath kernel target)) := rfl
  rw [keeps, run_bind, run_onFiles]
  rcases (removeTree (keptPath kernel target)).run present.files with ⟨failure | _, files⟩
  · rfl
  · simp only [mapError_ok]
    rw [run_onFiles]

/-- Keeping the workspace changes the export directory and makes no link. -/
theorem trims_keepWorkspace (exporter : Exporter) (kernel : Kernel) (present : ExportState)
    {site : Location} (opens : present.files.OpensAt target site) (settled : Settled (Below site) present.files)
    (inward : TemplateAction.Inward (Core.ofKernel kernel.name).directory) :
    Trims (Below site) present.files
      ((exporter.keepWorkspace kernel target).run present).2.files := by
  have prolongs := (Path.Prolongs.refl target).join inward.1 (Path.ofText_segments_ne_nil _)
  have noStepUp : ".." ∉ [] ++ (Path.ofText (Core.ofKernel kernel.name).directory).parts := by
    rw [List.nil_append]
    exact inward.parts
  obtain ⟨removal, replacement⟩ : Trims (Below site) present.files
        ((removeTree (keptPath kernel target)).run present.files).2 ∧
      (((removeTree (keptPath kernel target)).run present.files).1 = .ok () →
        Trims (Below site) present.files
          ((overlay .copy exporter.workspace (keptPath kernel target)).run
            ((removeTree (keptPath kernel target)).run present.files).2).2) :=
    trims_replace opens settled prolongs noStepUp (by decide : IsName "hls")
  rw [run_keepWorkspace]
  rcases ran : (removeTree (keptPath kernel target)).run present.files with ⟨failure | _, files⟩
  · rwa [ran] at removal
  · rw [ran] at replacement
    exact replacement rfl

/-- From the core on, an export changes its export directory, and it makes no link if the files
arrive by copy. -/
theorem changesOutput_fromCore {descriptor : KernelDescriptor} {present : ExportState}
    (inwards : TemplateAction.Inwards ⟨descriptor.fields⟩ (exporter.project.templatePath coreSet)
      target present.files)
    (inward : TemplateAction.Inward (Core.ofKernel kernel.name).directory) {after : ExportState}
    {result : Except ExportError Unit}
    (ran : (exporter.renderCore kernel descriptor target .copy >>= fun _ =>
      exporter.keepWorkspace kernel target).run present = (result, after)) :
    ChangesOutput target present.files after.files ∧
      ∀ {location target}, after.files.get? location = some (.link target) →
        present.files.get? location = some (.link target) := by
  have changes : ChangesOutput target present.files _ :=
    TemplateAction.changesOutput_render .copy inwards
  rw [run_bind, run_renderCore] at ran
  rcases rendering : (TemplateAction.render ⟨descriptor.fields⟩ .copy
    (exporter.project.templatePath coreSet) target).run present.files with ⟨failure | _, rendered⟩
  · obtain ⟨linked, -⟩ := TemplateAction.render_copy inwards rendering
    rw [rendering] at changes ran
    obtain ⟨-, rfl⟩ := Prod.mk.inj ran
    exact ⟨changes, linked⟩
  · obtain ⟨linked, opensAgain⟩ := TemplateAction.render_copy inwards rendering
    obtain ⟨opened, site, opens, opensAt, settled⟩ := opensAgain rfl
    rw [rendering] at changes ran
    have kept : (exporter.keepWorkspace kernel target).run { present with files := rendered } =
      (result, after) := ran
    have trims : Trims (Below site) rendered after.files := by
      have keeps := exporter.trims_keepWorkspace kernel { present with files := rendered } opensAt
        settled inward
      rwa [kept] at keeps
    refine ⟨⟨trims.workingDirectory.trans changes.workingDirectory, fun {location} outside => ?_⟩,
      fun isLink => linked (trims.linked isLink)⟩
    rw [trims.outside fun below => outside ⟨opened, site, opens, below⟩]
    exact changes.outside outside

/-! ### Removing the workspace -/

/-- However the output has changed, if no link has come the path of a directory that stood leads
there or nowhere, and removing it takes away what is there. -/
theorem outside_removeTree {before after : FileSystem} {workspace : Path} {place : Placement}
    (settled : ∀ {opened site}, before.Opens target opened site → Settled (Below site) before)
    (placed : before.placement workspace = .ok (some place))
    (standing : before.get? place.location = some .directory)
    (changes : ChangesOutput target before after)
    (linked : ∀ {location target}, after.get? location = some (.link target) →
      before.get? location = some (.link target)) :
    ((removeTree workspace).run after).2.workingDirectory = after.workingDirectory ∧
      ∀ {location}, within place.location location = false →
        ((removeTree workspace).run after).2.get? location = after.get? location := by
  have trims : Trims (fun location => before.InOutput target location ∨
      before.get? location = none) before after := by
    refine ⟨changes.workingDirectory, fun outside => ?_, linked⟩
    rw [not_or] at outside
    exact (changes.outside outside.1).resolve_right fun missing => outside.2 missing.1.1
  have tame : Tame (fun location => before.InOutput target location ∨
      before.get? location = none) before := by
    rintro name directory target ending left (⟨opened, site, opens, below⟩ | missing) isLink walk
    · exact (settled opens).tame below isLink walk
    · rw [isLink] at missing
      cases missing
  obtain ⟨-, ⟨front, parts, walk⟩, parent, isName, -, -⟩ := placementFrom_eq_some_iff.1 placed
  have same : ∀ {other}, after.placement workspace = .ok (some other) →
      other.location = place.location := by
    intro other placedAgain
    obtain ⟨-, ⟨others, partsAgain, again⟩, -⟩ := placementFrom_eq_some_iff.1 placedAgain
    obtain ⟨rfl, last⟩ := List.append_inj' (partsAgain.symm.trans parts) rfl
    rw [trims.workingDirectory] at again
    have ended := trims.changes.follow_eq tame (Nat.le_refl _) walk parent again
    rw [Placement.location, Placement.location, (Prod.mk.inj ended).1, (List.cons.inj last).1]
  have removal := run_removeTree_cases parts isName fun (other : Placement) linkTarget
      (placedAgain : after.placement workspace = .ok (some other)) _ isLink => by
    rw [same placedAgain] at isLink
    rw [linked isLink] at standing
    cases standing
  rcases removal with ⟨result, ran, -⟩ | ⟨other, placedAgain, clears⟩
  · rw [ran]
    exact ⟨rfl, fun _ => rfl⟩
  · rw [same placedAgain] at clears
    exact ⟨clears.workingDirectory, clears.outside⟩

/-! ### The export -/

theorem ChangesExport.of_same {after : FileSystem} (same : after = state.files) :
    exporter.ChangesExport name target transfer state after := by
  subst same
  exact ⟨rfl, fun _ _ => .inl rfl⟩

theorem changesExport_structural (finds : exporter.Finds name kernel)
    (structural : kernel.source.isStructural = true)
    (inward : exporter.ExportsInward name target transfer state) :
    exporter.ChangesExport name target transfer state
      ((exporter.exportStructural exporter.renderCore kernel target transfer).run state).2.files := by
  rw [exportStructural, run_bind, ExportAction.run_ask]
  cases listing : state.files.listFiles (exporter.project.sourcePath kernel) with
  | error failure => exact .of_same rfl
  | ok listed =>
    have comes : exporter.ComesToCore name transfer state kernel _ transfer state :=
      .structural finds structural listing
    have changes : ChangesOutput target state.files _ :=
      TemplateAction.changesOutput_render transfer (inward.core comes)
    simp only [mapError_ok]
    rw [run_renderCore]
    refine ⟨changes.workingDirectory, fun _ apart => ?_⟩
    refine (changes.outside (apart _ _ _ _ comes)).imp_right fun arrived => ?_
    obtain ⟨onTheWay, standing⟩ := arrived
    exact ⟨onTheWay.1, standing, _, _, _, _, comes, onTheWay⟩

theorem changesExport_synthesized (stays : exporter.runner.StaysBelow)
    (finds : exporter.Finds name kernel) (synthesized : kernel.source.isStructural = false)
    (inward : exporter.ExportsInward name target transfer state) :
    exporter.ChangesExport name target transfer state
      ((exporter.exportSynthesized exporter.renderCore kernel target).run state).2.files := by
  rw [exportSynthesized, run_bind]
  rcases description : (exporter.describe kernel).run state with ⟨error | descriptor, described⟩
  · exact .of_same (files_of_describe description)
  simp only []
  rw [run_withWorkspace]
  cases making : described.files.createDirectory exporter.workspace with
  | error failure => exact .of_same (files_of_describe description)
  | ok made =>
    simp only []
    rw [exportFromWorkspace, run_bind]
    rcases synthesis : (exporter.synthesize kernel descriptor).run { described with files := made }
      with ⟨error | hardware, present⟩
    · exact .of_same (files_of_stops stays inward.workspace
        (.synthesis finds synthesized description making synthesis))
    simp only []
    rcases ran : (exporter.renderCore kernel hardware target .copy >>= fun _ =>
      exporter.keepWorkspace kernel target).run present with ⟨result, after⟩
    have comes : exporter.ComesToCore name transfer state kernel hardware .copy present :=
      .synthesized finds synthesized description making synthesis
    obtain ⟨place, placed, missing, inWorkspace⟩ :=
      exists_workspace stays inward.workspace finds synthesized description making
    obtain ⟨off, standing⟩ := inWorkspace synthesis
    have inwards := inward.core comes
    obtain ⟨changes, linked⟩ :=
      changesOutput_fromCore inwards (inward.directory finds synthesized) ran
    obtain ⟨workingDirectory, elsewhere⟩ := outside_removeTree inwards.settled
      ((off.extends missing).placement placed) standing changes linked
    refine ⟨workingDirectory.trans (changes.workingDirectory.trans off.workingDirectory),
      fun {location} outsideWorkspace apart => ?_⟩
    have outside := outsideWorkspace kernel place finds synthesized placed
    rw [elsewhere outside, ← off.outside outside]
    refine (changes.outside (apart _ _ _ _ comes)).imp_right fun arrived => ?_
    obtain ⟨onTheWay, standing⟩ := arrived
    exact ⟨onTheWay.1, standing, _, _, _, _, comes, onTheWay⟩

/-- An export of a kernel changes nothing outside the directory that it exports to and its
workspace, but for missing directories on the way there. -/
theorem changesExport_exportKernel (directory : Option Path)
    (stays : exporter.runner.StaysBelow) (inward : exporter.ExportsInward name
      (directory.getD (exporter.project.kernelExportPath name)) transfer state) :
    exporter.ChangesExport name (directory.getD (exporter.project.kernelExportPath name)) transfer
      state ((exporter.exportKernel name directory transfer).run state).2.files := by
  by_cases found : ∃ kernel, exporter.Finds name kernel
  · obtain ⟨kernel, finds⟩ := found
    have ended : ((exporter.exportKernel name directory transfer).run state).2 =
        ((exporter.exportCore exporter.renderCore kernel
          (directory.getD (exporter.project.kernelExportPath name)) transfer).run state).2 := by
      rw [exportKernel, exporter.run_exportKernelWith state finds, run_bind]
      split
      · rename_i ran
        rw [ran]
        rfl
      · rename_i ran
        rw [ran]
    rw [ended, exportCore]
    cases structural : kernel.source.isStructural with
    | true => exact changesExport_structural finds structural inward
    | false => exact changesExport_synthesized stays finds structural inward
  · obtain ⟨error, stops⟩ := exporter.stops_of_missing state (not_exists.1 found)
    rw [exportKernel, stops.run]
    exact .of_same rfl

/-- A rendering changes nothing outside the directory that it renders into, and an export of a kernel
nothing outside its export directory and its workspace, but for missing directories on the way
there. That holds in success and in failure. -/
theorem changes_stay_inside :
    (∀ (dictionary : Dictionary) (transfer : Transfer) (template target : Path)
      (files : FileSystem), TemplateAction.Inwards dictionary template target files →
      ChangesOutput target files
        ((TemplateAction.render dictionary transfer template target).run files).2) ∧
    ∀ (exporter : Exporter) (name : String) (directory : Option Path) (transfer : Transfer)
      (state : ExportState), exporter.runner.StaysBelow →
      exporter.ExportsInward name (directory.getD (exporter.project.kernelExportPath name))
        transfer state →
      exporter.ChangesExport name (directory.getD (exporter.project.kernelExportPath name)) transfer
        state ((exporter.exportKernel name directory transfer).run state).2.files :=
  ⟨fun _ transfer _ _ _ inwards => TemplateAction.changesOutput_render transfer inwards,
    fun _ _ directory _ _ stays inward => changesExport_exportKernel directory stays inward⟩

/-! ### An export with synthesis -/

/-- The files with an entry in the place where synthesis leaves hardware in a workspace. -/
def withHardware (hardware : Entry) (workspace : Location) (files : FileSystem) : FileSystem :=
  files.put workspace "a3_kernel" .directory
    |>.put ("a3_kernel" :: workspace) "sol" .directory
    |>.put ("sol" :: "a3_kernel" :: workspace) "syn" .directory
    |>.put ("syn" :: "sol" :: "a3_kernel" :: workspace) "vhdl" .directory
    |>.put ("vhdl" :: "syn" :: "sol" :: "a3_kernel" :: workspace) "adder.vhd" hardware

/-- A tool that leaves an entry in the place of hardware in the directory that it runs in. -/
def leave (hardware : Entry) : Runner := fun command => modify fun files =>
  match files.resolve command.directory with
  | .error _ => files
  | .ok workspace => withHardware hardware workspace files

def leaveHardware : Runner :=
  leave (.file "entity adder".toUTF8)

theorem staysBelow_leave (hardware : Entry) : (leave hardware).StaysBelow := by
  intro command files
  have ran : ((leave hardware command).run files).2 =
      match files.resolve command.directory with
      | .error _ => files
      | .ok workspace => withHardware hardware workspace files := rfl
  rw [ran]
  cases files.resolve command.directory with
  | error _ => exact ⟨rfl, fun _ _ => rfl⟩
  | ok workspace =>
    refine ⟨by simp [withHardware], fun location outside => ?_⟩
    have apart : ∀ name names, location ≠ name :: (names ++ workspace) := by
      rintro name names rfl
      have below := below_cons name (Closed.append (closed_within workspace) names
        (within_self workspace))
      rcases outside workspace rfl with here | apart
      · exact below.1 here
      · rw [below.2] at apart
        cases apart
    simp only [withHardware]
    rw [get?_put_of_ne, get?_put_of_ne, get?_put_of_ne, get?_put_of_ne, get?_put_of_ne]
    exacts [apart _ [], apart _ ["a3_kernel"], apart _ ["sol", "a3_kernel"],
      apart _ ["syn", "sol", "a3_kernel"], apart _ ["vhdl", "syn", "sol", "a3_kernel"]]

/-- An export of the adder with a tool that succeeds. -/
def synthesizing : Exporter :=
  { adderExporter with runner := leaveHardware }

/-- The files of the adder with a template set for its core, in which a file has the name of the
kernel. -/
def synthesizingFiles : FileSystem :=
  adderFiles
    |>.put ["templates"] "artico3_kernel_hdl_pcore" .directory
    |>.put ["artico3_kernel_hdl_pcore", "templates"] "<<NAME>>.vhd"
      (.file "entity <<NAME>>".toUTF8)

abbrev synthesizingTarget : Path := synthesizing.project.kernelExportPath "adder"

/-- The descriptor that the core is rendered with, and the state then. -/
def synthesized : Option (KernelDescriptor × ExportState) :=
  match (synthesizing.describe KernelDescriptor.adder).run { files := synthesizingFiles } with
  | (.ok descriptor, described) =>
    match described.files.createDirectory synthesizing.workspace with
    | .ok made =>
      match (synthesizing.synthesize KernelDescriptor.adder descriptor).run
          { described with files := made } with
      | (.ok hardware, present) => some (hardware, present)
      | _ => none
    | .error _ => none
  | _ => none

/-- What stands when the output is open for the core: the output, and a template set in which names
render to names. -/
theorem opened_synthesized : ∀ found ∈ synthesized,
    let ended := (FileAction.createDirectories synthesizingTarget).run found.2.files
    (ended.1 = .ok () ∧
      ended.2.follow linkLimit [] ["build.hw.adder"] = .ok (["build.hw.adder"], linkLimit) ∧
      ended.2.get? ["build.hw.adder"] = some .directory) ∧
    found.2.files.linkless = true ∧
    TemplateAction.Flat ended.2 (synthesizing.project.templatePath coreSet)
      ["artico3_kernel_hdl_pcore", "templates"] ∧
    ∀ name ∈ ended.2.names ["artico3_kernel_hdl_pcore", "templates"],
      name ≠ TemplateAction.sourcesMarker →
      ∀ rendered ∈ ((Dictionary.mk found.1.fields).render name).toOption,
        TemplateAction.Inward rendered := by
  decide +kernel

theorem exportsInward_synthesizing : synthesizing.ExportsInward "adder" synthesizingTarget .link
    { files := synthesizingFiles } where
  workspace := by
    intro kernel descriptor described place _ _ _ placed
    obtain rfl := Option.some.inj (Except.ok.inj ((placement_workspace _).symm.trans placed))
    have flat : TemplateAction.Flat synthesizingFiles
        (synthesizing.project.templatePath synthesisSet)
        ["artico3_kernel_hls_build", "templates"] := by
      decide +kernel
    have only : synthesizingFiles.names ["artico3_kernel_hls_build", "templates"] =
        ["csynth.tcl"] := by
      decide +kernel
    refine .of_flat flat (by decide) fun name member _ rendered rendering => ?_
    rw [only, List.mem_singleton] at member
    rw [member, render_csynth, Except.toOption, Option.mem_some_iff] at rendering
    rw [← rendering]
    decide
  core := by
    intro kernel descriptor way present comes
    have finds : synthesizing.Finds "adder" KernelDescriptor.adder := ⟨rfl, rfl⟩
    cases comes with
    | structural others structural =>
      obtain rfl := Option.some.inj (finds.kernel.symm.trans others.kernel)
      cases structural
    | synthesized others synthesized description making synthesis =>
      obtain rfl := Option.some.inj (finds.kernel.symm.trans others.kernel)
      have found : (descriptor, present) ∈ Exporter.synthesized := by
        simp only [Exporter.synthesized, description, making, synthesis]
        rfl
      obtain ⟨⟨made, walk, standing⟩, unlinked, flat, inward⟩ := opened_synthesized _ found
      exact .of_flat unlinked (.of_run (Prod.ext made rfl) walk standing) flat (by decide) inward
  directory := by
    intro kernel others _
    have finds : synthesizing.Finds "adder" KernelDescriptor.adder := ⟨rfl, rfl⟩
    obtain rfl := Option.some.inj (finds.kernel.symm.trans others.kernel)
    decide +kernel

/-- A dictionary with a name to splice. -/
def naming (name : String) : Dictionary :=
  ⟨[("NAME", .text name)]⟩

/-- An export that succeeds changes nothing outside, nor does a rendering of its template set. -/
theorem changes_stay_inside_synthesizing :
    let state : ExportState := { files := synthesizingFiles }
    let ended := (synthesizing.exportKernel "adder" none .link).run state
    let rendered := (TemplateAction.render (naming "carry") .link
      (synthesizing.project.templatePath coreSet) synthesizingTarget).run synthesizingFiles
    (synthesizing.runner.StaysBelow ∧
      synthesizing.ExportsInward "adder" synthesizingTarget .link state ∧
      ended.2.files.get? ["adder.vhd", "build.hw.adder"] = some (.file "entity adder".toUTF8) ∧
      synthesizing.ChangesExport "adder" synthesizingTarget .link state ended.2.files) ∧
    TemplateAction.Inwards (naming "carry") (synthesizing.project.templatePath coreSet)
        synthesizingTarget synthesizingFiles ∧
      rendered.2.get? ["carry.vhd", "build.hw.adder"] = some (.file "entity carry".toUTF8) ∧
      ChangesOutput synthesizingTarget synthesizingFiles rendered.2 := by
  intro state ended rendered
  have opened :
      let opening := (FileAction.createDirectories synthesizingTarget).run synthesizingFiles
      (opening.1 = .ok () ∧
        opening.2.follow linkLimit [] ["build.hw.adder"] = .ok (["build.hw.adder"], linkLimit) ∧
        opening.2.get? ["build.hw.adder"] = some .directory) ∧
      TemplateAction.Flat opening.2 (synthesizing.project.templatePath coreSet)
        ["artico3_kernel_hdl_pcore", "templates"] ∧
      ∀ name ∈ opening.2.names ["artico3_kernel_hdl_pcore", "templates"],
        name ≠ TemplateAction.sourcesMarker →
        ∀ text ∈ ((naming "carry").render name).toOption, TemplateAction.Inward text := by
    decide +kernel
  obtain ⟨⟨made, walk, standing⟩, flat, inward⟩ := opened
  have inwards : TemplateAction.Inwards (naming "carry") (synthesizing.project.templatePath coreSet)
      synthesizingTarget synthesizingFiles :=
    .of_flat (by decide +kernel) (.of_run (Prod.ext made rfl) walk standing) flat (by decide) inward
  exact ⟨⟨staysBelow_leave _, exportsInward_synthesizing, by decide +kernel,
      changes_stay_inside.2 synthesizing "adder" none .link state (staysBelow_leave _)
        exportsInward_synthesizing⟩,
    inwards, by decide +kernel, changes_stay_inside.1 _ .link _ _ _ inwards⟩

/-! ### Ways out -/

/-- A template set of one file, which has the name that is spliced. -/
def namedFiles : FileSystem :=
  FileSystem.empty
    |>.put [] "set" .directory
    |>.put ["set"] "<<NAME>>" (.file "text".toUTF8)

/-- An output with a link that leads to nothing, and a template set with a directory of the name of
the link; once the other directory is rendered, the link leads to the sources. -/
def danglingFiles : FileSystem :=
  FileSystem.empty
    |>.put [] "src" .directory
    |>.put [] "out" .directory
    |>.put ["out"] "z" (.link { segments := ["y", "..", "..", "src"] })
    |>.put [] "set" .directory
    |>.put ["set"] "y" .directory
    |>.put ["set"] "z" .directory
    |>.put ["z", "set"] "file" (.file "text".toUTF8)

/-- A kernel with the path of another directory for its name. -/
def climbingKernel : Kernel :=
  { KernelDescriptor.adder with name := "../adder", source := .vhdl }

def climbingExporter : Exporter where
  project := {
    root := .root
    configuration := { adderExporter.project.configuration with kernels := [climbingKernel] } }
  runner := adderExporter.runner
  workspace := adderExporter.workspace

def climbingFiles : FileSystem :=
  FileSystem.empty
    |>.put [] "src" .directory
    |>.put ["src"] "a3_.." .directory
    |>.put ["a3_..", "src"] "adder" .directory
    |>.put ["adder", "a3_..", "src"] "vhdl" .directory
    |>.put [] "templates" .directory
    |>.put ["templates"] "artico3_kernel_hdl_pcore" .directory
    |>.put ["artico3_kernel_hdl_pcore", "templates"] "<<NAME>>.vhd"
      (.file "entity <<NAME>>".toUTF8)

/-- Where the template sets lie. -/
abbrev setPath : Path := { segments := ["", "set"] }

/-- Where they are rendered to. -/
abbrev outPath : Path := { segments := ["", "out"] }

theorem opens_outPath : ∀ files ∈ [namedFiles, danglingFiles],
    files.Opens outPath ((FileAction.createDirectories outPath).run files).2 ["out"] := by
  intro files member
  have opened : ∀ files ∈ [namedFiles, danglingFiles],
      let ended := (FileAction.createDirectories outPath).run files
      ended.1 = .ok () ∧ ended.2.follow linkLimit [] ["out"] = .ok (["out"], linkLimit) ∧
        ended.2.get? ["out"] = some .directory := by
    decide +kernel
  obtain ⟨made, walk, standing⟩ := opened files member
  exact .of_run (Prod.ext made rfl) walk standing

/-- Neither a name in a template set, nor a link to nothing in the output, nor the name of a kernel
keeps what is rendered in the output. -/
theorem changes_go_outside :
    (namedFiles.linkless = true ∧ ¬ChangesOutput outPath namedFiles
      ((TemplateAction.render (naming "../file") .copy setPath outPath).run namedFiles).2) ∧
    (danglingFiles.isDirectory { segments := ["", "out", "z"] } = false ∧
      ¬ChangesOutput outPath danglingFiles
        ((TemplateAction.render ⟨[]⟩ .copy setPath outPath).run danglingFiles).2) ∧
    (climbingExporter.project.configuration.check = .ok () ∧ climbingFiles.linkless = true ∧
      let ended := (climbingExporter.exportKernel "../adder" (some outPath) .copy).run
        { files := climbingFiles }
      climbingFiles.get? ["adder.vhd"] = none ∧
      ended.2.files.get? ["adder.vhd"] = some (.file "entity ../adder".toUTF8)) := by
  refine ⟨⟨by decide +kernel, fun changes => ?_⟩, ⟨by decide +kernel, fun changes => ?_⟩,
    by decide +kernel⟩
  · have before := (changes.get?_eq_file_iff (opens_outPath _ (by simp))
      (by decide : ¬Below ["out"] ["file"]) "text".toUTF8).1 (by decide +kernel)
    cases before
  · have before := (changes.get?_eq_file_iff (opens_outPath _ (by simp))
      (by decide : ¬Below ["out"] ["file", "src"]) "text".toUTF8).1 (by decide +kernel)
    cases before

end Exporter

end KernelExport
