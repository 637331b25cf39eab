/-
This file says that an export with synthesis that succeeds keeps all of its workspace with the core
and nothing else there, that nothing is left of the workspace itself, and that no link leads into
it. It comes to the same files in whichever way the sources of other kernels arrive, and under
whichever name the workspace was made.

The name of a workspace is made up when it is made, so nothing else has it and nothing mentions it:
it is not among the names that an export can come across (`Heard`). With that, whatever stands in
the export directory when the core is rendered, the workspace is neither written to nor led away
from. What is kept is told by the path of the kept directory, which may not lead upwards behind a
name: when the directory of an earlier export is removed, such a path may come to lead elsewhere
(`stale_file_kept`). Nor may the template set of cores lead to the directory that holds the
workspace, or what is rendered depends on the name of the workspace (`rendered_workspace`).
-/

import KernelExport.Proofs.ExportConfinement
import KernelExport.Proofs.Seclusion

namespace KernelExport

open FileSystem FileAction

namespace FileSystem

variable {dictionary : Dictionary} {paths : List Path} {files : FileSystem}
  {workspace location : Location} {name : String}

/-- The names that can come up in an export from its core on: those of all that stands but the
workspace itself, those in links and in the paths that it goes by, and what they render to. -/
inductive Heard (dictionary : Dictionary) (paths : List Path) (files : FileSystem)
    (workspace : Location) : String → Prop
  | dot : Heard dictionary paths files workspace "."
  | home {name : String} : name ∈ files.workingDirectory →
    Heard dictionary paths files workspace name
  | standing {name : String} {directory : Location} : files.get? (name :: directory) ≠ none →
    name :: directory ≠ workspace → Heard dictionary paths files workspace name
  | link {name : String} {location : Location} {target : Path} :
    files.get? location = some (.link target) → name ∈ target.parts →
    Heard dictionary paths files workspace name
  | path {name : String} {path : Path} : path ∈ paths → name ∈ path.parts →
    Heard dictionary paths files workspace name
  | rendered {name text part : String} : Heard dictionary paths files workspace name →
    dictionary.render name = .ok text → part ∈ (Path.ofText text).parts →
    Heard dictionary paths files workspace part

/-- What stands outside the workspace is heard of. -/
theorem among_heard_of_outside (stands : files.get? location ≠ none)
    (outside : within workspace location = false) :
    Among (Heard dictionary paths files workspace) location := by
  induction location with
  | nil => exact among_nil
  | cons name directory inductionHypothesis =>
    have different : name :: directory ≠ workspace := by
      rintro rfl
      rw [within_self] at outside
      cases outside
    refine among_cons.2 ⟨.standing stands different, inductionHypothesis ?_ ?_⟩
    · simp [files.get?_parent stands]
    · exact Bool.eq_false_iff.2 fun inside => by
        rw [within_parent inside] at outside
        cases outside

/-- What stands in the workspace has names there that are heard of. -/
theorem among_heard_of_inside {names : List String}
    (stands : files.get? (names ++ workspace) ≠ none) :
    Among (Heard dictionary paths files workspace) names := by
  induction names with
  | nil => exact among_nil
  | cons name rest inductionHypothesis =>
    have parent : files.get? (rest ++ workspace) = some .directory := files.get?_parent stands
    refine among_cons.2 ⟨.standing stands fun same => ?_, inductionHypothesis (by simp [parent])⟩
    have longer : (name :: (rest ++ workspace)).length = workspace.length :=
      congrArg List.length same
    rw [List.length_cons, List.length_append] at longer
    omega

/-- Only names of a list are heard of if all that stands has such names and they render to such
names, where there are no links. -/
theorem Heard.mem {names : List String} (dot : "." ∈ names)
    (home : ∀ name ∈ files.workingDirectory, name ∈ names) (linkless : files.linkless = true)
    (standing : ∀ location ∈ files.entries.keys, location ≠ workspace →
      ∀ name ∈ location.head?, name ∈ names)
    (path : ∀ path ∈ paths, ∀ part ∈ path.parts, part ∈ names)
    (renders : ∀ name ∈ names, ∀ text ∈ (dictionary.render name).toOption,
      ∀ part ∈ (Path.ofText text).parts, part ∈ names)
    (heard : Heard dictionary paths files workspace name) : name ∈ names := by
  induction heard with
  | dot => exact dot
  | home member => exact home _ member
  | standing stands different =>
    exact standing _ (Std.ExtTreeMap.mem_keys.2 (files.mem_entries stands)) different _ rfl
  | link isLink => exact absurd isLink (unlinked_of_linkless linkless _ _)
  | path member inPath => exact path _ member _ inPath
  | rendered _ rendering member known => exact renders _ known _ (by rw [rendering]; rfl) _ member

/-- What is told by the entries is the same in two trees at the root. -/
theorem tree_eq_of_keys {first second : FileSystem} {name other : String}
    (forth : ∀ location ∈ first.entries.keys, location.getLast? = some name →
      second.get? (location.dropLast ++ [other]) = first.get? location)
    (back : ∀ location ∈ second.entries.keys, location.getLast? = some other →
      first.get? (location.dropLast ++ [name]) = second.get? location) (names : List String) :
    second.get? (names ++ [other]) = first.get? (names ++ [name]) := by
  have isKey : ∀ {files : FileSystem} {last}, files.get? (names ++ [last]) ≠ none →
      names ++ [last] ∈ files.entries.keys := by
    intro files last stands
    obtain ⟨head, rest, same⟩ := List.exists_cons_of_ne_nil
      (List.append_ne_nil_of_right_ne_nil names (List.cons_ne_nil last []))
    rw [same] at stands ⊢
    exact Std.ExtTreeMap.mem_keys.2 (files.mem_entries stands)
  by_cases stands : first.get? (names ++ [name]) = none
  · by_contra different
    have stands' : second.get? (names ++ [other]) ≠ none := fun missing =>
      different (missing.trans stands.symm)
    have same := back _ (isKey stands') (by simp)
    rw [List.dropLast_concat] at same
    exact different same.symm
  · have same := forth _ (isKey stands) (by simp)
    rwa [List.dropLast_concat] at same

theorem placement_root_child (files : FileSystem) (isName : IsName name)
    (sayable : Sayable .root name) : files.placement (Path.root.child name) =
      .ok (some ⟨[], name, false, linkLimit⟩) := by
  refine placementFrom_eq_some_iff.2 ⟨sayable.1, ⟨[], Path.parts_child .root isName, ?_⟩, rfl,
    isName, sayable.2, ?_⟩
  · rw [follow_nil, start_child .root isName]
    rfl
  · rw [Path.getLast?_child .root isName.2.2.2, Option.some_beq_some]
    exact (beq_false_of_ne isName.1).symm

end FileSystem

namespace Exporter

open ExportAction

variable {exporter : Exporter} {name : String} {target : Path} {transfer : Transfer}
  {state : ExportState} {kernel : Kernel} {hardware descriptor : KernelDescriptor}
  {present after : ExportState}

/-! ### From the core on -/

variable (exporter) in
theorem run_fromCore_eq_ok_iff :
    (exporter.renderCore kernel hardware target .copy >>= fun _ =>
        exporter.keepWorkspace kernel target).run present = (.ok (), after) ↔
      ∃ rendered cleared kept,
        (TemplateAction.render ⟨hardware.fields⟩ .copy (exporter.project.templatePath coreSet)
          target).run present.files = (.ok (), rendered) ∧
        (removeTree (keptPath kernel target)).run rendered = (.ok (), cleared) ∧
        (overlay .copy exporter.workspace (keptPath kernel target)).run cleared = (.ok (), kept) ∧
        after = { present with files := kept } := by
  have steps : (exporter.renderCore kernel hardware target .copy >>= fun _ =>
      exporter.keepWorkspace kernel target) =
    onFiles (.template (some kernel.name)) (TemplateAction.render ⟨hardware.fields⟩ .copy
        (exporter.project.templatePath coreSet) target) >>= fun _ =>
      onFiles (.files (keptPath kernel target)) (removeTree (keptPath kernel target)) >>= fun _ =>
        onFiles (.files (keptPath kernel target))
          (overlay .copy exporter.workspace (keptPath kernel target)) := rfl
  simp only [steps, run_bind_eq_ok_iff, run_onFiles_eq_ok_iff]
  constructor
  · rintro ⟨_, _, ⟨rendered, rendering, rfl⟩, _, _, ⟨cleared, removal, rfl⟩, kept, laying, rfl⟩
    exact ⟨rendered, cleared, kept, rendering, removal, laying, rfl⟩
  · rintro ⟨rendered, cleared, kept, rendering, removal, laying, rfl⟩
    exact ⟨_, _, ⟨rendered, rendering, rfl⟩, _, _, ⟨cleared, removal, rfl⟩, kept, laying, rfl⟩

/-- An export with synthesis that comes to its core does what rendering the core and keeping the
workspace do, and then removes the workspace. -/
theorem ComesToCore.run
    (comes : exporter.ComesToCore name transfer state kernel hardware .copy present)
    (synthesized : kernel.source.isStructural = false) {directory : Option Path}
    {result : Except ExportError Unit}
    (ran : (exporter.renderCore kernel hardware
        (directory.getD (exporter.project.kernelExportPath name)) .copy >>= fun _ =>
      exporter.keepWorkspace kernel
        (directory.getD (exporter.project.kernelExportPath name))).run present = (result, after)) :
    (exporter.exportKernel name directory transfer).run state =
      (result.map fun _ => directory.getD (exporter.project.kernelExportPath name),
        { after with files := ((removeTree exporter.workspace).run after.files).2 }) := by
  cases comes with
  | structural _ structural =>
    rw [synthesized] at structural
    cases structural
  | synthesized finds _ description making synthesis =>
    have core : (exporter.exportCore exporter.renderCore kernel
        (directory.getD (exporter.project.kernelExportPath name)) transfer).run state =
        (result, { after with
          files := ((removeTree exporter.workspace).run after.files).2 }) := by
      rw [exportCore, if_neg (Bool.eq_false_iff.1 synthesized), exportSynthesized, run_bind,
        description]
      simp only []
      rw [run_withWorkspace, making]
      simp only []
      rw [exportFromWorkspace, run_bind, synthesis]
      simp only []
      rw [ran]
    rw [exportKernel, exporter.run_exportKernelWith state finds, run_bind, core]
    cases result <;> rfl

/-- An export with synthesis that succeeds comes to its core. -/
theorem exists_comesToCore (finds : exporter.Finds name kernel)
    (synthesized : kernel.source.isStructural = false) {directory : Option Path} {answer : Path}
    (ran : ((exporter.exportKernel name directory transfer).run state).1 = .ok answer) :
    ∃ hardware present,
      exporter.ComesToCore name transfer state kernel hardware .copy present := by
  have core : ((exporter.exportSynthesized exporter.renderCore kernel
      (directory.getD (exporter.project.kernelExportPath name))).run state).1 = .ok () := by
    rw [exportKernel, exporter.run_exportKernelWith state finds, run_bind, exportCore,
      if_neg (Bool.eq_false_iff.1 synthesized)] at ran
    split at ran
    · rename_i ended
      rw [ended]
    · cases ran
  rw [exportSynthesized, run_bind] at core
  rcases description : (exporter.describe kernel).run state with ⟨error | descriptor, described⟩
  · rw [description] at core
    cases core
  rw [description] at core
  simp only [] at core
  rw [run_withWorkspace] at core
  cases making : described.files.createDirectory exporter.workspace with
  | error failure =>
    rw [making] at core
    cases core
  | ok made =>
    rw [making] at core
    simp only [] at core
    rw [exportFromWorkspace, run_bind] at core
    rcases synthesis : (exporter.synthesize kernel descriptor).run { described with files := made }
      with ⟨error | hardware, present⟩
    · rw [synthesis] at core
      cases core
    · exact ⟨hardware, present, .synthesized finds synthesized description making synthesis⟩

/-- The hardware that synthesis answers is what it left in the workspace. -/
theorem hardware_of_synthesize
    (synthesis : (exporter.synthesize kernel descriptor).run state = (.ok hardware, present)) :
    ∃ listed, present.files.listFiles (outputPath exporter.workspace) = .ok listed ∧
      hardware = descriptor.withHardware (outputPath exporter.workspace) listed := by
  obtain ⟨_, rendered, -, rest⟩ := run_bind_eq_ok_iff.1 synthesis
  obtain ⟨_, called, -, collecting⟩ := run_bind_eq_ok_iff.1 rest
  have same : present = called := by
    rw [← exporter.run_collectHardware called descriptor, collecting]
  subst same
  rw [collectHardware, run_bind, run_get] at collecting
  simp only [] at collecting
  split at collecting
  · obtain ⟨listed, asked, listing, answering⟩ := run_bind_eq_ok_iff.1 collecting
    rw [ExportAction.run_ask] at listing
    obtain ⟨rfl, -⟩ := Prod.mk.inj answering |>.imp_left Except.ok.inj
    exact ⟨listed, mapError_eq_ok_iff.1 (Prod.mk.inj listing).1, rfl⟩
  · cases (Prod.mk.inj collecting).1

/-! ### Seclusion -/

/-- The paths that an export goes by from its core on, and that of the hardware as if it lay in the
directory that holds the workspace. -/
def pathsFromCore (exporter : Exporter) (kernel : Kernel) (target parent : Path) : List Path :=
  [target, exporter.project.templatePath coreSet, keptPath kernel target, outputPath parent]

/-- A name that an export does not come across from its core on, when its workspace has another
name. -/
def Unheard (exporter : Exporter) (kernel : Kernel) (target parent : Path) (workspace : Location)
    (hardware : KernelDescriptor) (files : FileSystem) (other : String) : Prop :=
  ¬Heard ⟨hardware.fields⟩ (exporter.pathsFromCore kernel target parent) files workspace other

/-- What an export needs of the files when synthesis has ended, so that its workspace is kept as it
is: the name of the workspace is its own, the workspace holds no links, the template set of cores
does not lead to the directory that holds it, and the path that it is kept at does not lead upwards
behind a name. -/
structure Secluded (exporter : Exporter) (kernel : Kernel) (target parent : Path) (site : Location)
    (workspace : String) (hardware : KernelDescriptor) (files : FileSystem) : Prop where
  unheard : exporter.Unheard kernel target parent (workspace :: site) hardware files workspace
  unlinked : ∀ names target, files.get? (names ++ workspace :: site) ≠ some (.link target)
  apart : files.NeverLeads (exporter.project.templatePath coreSet) site
  rises : (keptPath kernel target).RisesFirst

section Secluded

variable {parent : Path} {site : Location} {workspace other : String} {files : FileSystem}

/-- The workspace, and another name for it. -/
def Secluded.workspaces
    (secluded : exporter.Secluded kernel target parent site workspace hardware files)
    (isName : IsName workspace) (isNameOther : IsName other)
    (unheard : exporter.Unheard kernel target parent (workspace :: site) hardware files other)
    (sameSize : workspace.utf8ByteSize = other.utf8ByteSize) : Workspaces where
  known := Heard ⟨hardware.fields⟩ (exporter.pathsFromCore kernel target parent) files
    (workspace :: site)
  site := site
  first := workspace
  second := other
  base := files
  dot := .dot
  newFirst := secluded.unheard
  newSecond := unheard
  isNameFirst := isName
  isNameSecond := isNameOther
  sameSize := sameSize
  linked isLink := fun _ member => .link isLink member
  unlinked := secluded.unlinked

/-- What stands has names that are heard of, but for the workspace. -/
theorem lodges_heard (dictionary : Dictionary) (paths : List Path) (files : FileSystem)
    (site : Location) (workspace : String) :
    files.Lodges (Heard dictionary paths files (workspace :: site)) site workspace := by
  refine ⟨fun _ member => .home member, fun {location} stands => ?_⟩
  cases inside : within (workspace :: site) location with
  | false => exact .inl (among_heard_of_outside stands inside)
  | true =>
    obtain ⟨names, rfl⟩ := List.isSuffixOf_iff_suffix.1 inside
    exact .inr ⟨names, among_heard_of_inside stands, rfl⟩

end Secluded

/-- Hardware can be read in either workspace. -/
theorem readable_outputPath {workspaces : Workspaces} {parent : Path}
    (among : Among workspaces.known (outputPath parent).parts) :
    workspaces.Readable (outputPath (parent.child workspaces.first))
      (outputPath (parent.child workspaces.second)) := by
  have names : ∀ part ∈ ["a3_kernel", "sol", "syn", "vhdl"], IsName part := by decide
  rw [outputPath, Path.parts_foldl_child names, among_append] at among
  exact (Workspaces.readable_workspace among.1).foldl_child fun part member =>
    ⟨names part member, among.2 part member⟩

/-- What is rendered with the hardware in either workspace is the same. -/
theorem renders_hardware {workspaces : Workspaces} {parent : Path} (descriptor : KernelDescriptor)
    (listed : List String) (among : Among workspaces.known (outputPath parent).parts)
    (known : ∀ {name rendered}, workspaces.known name →
      (Dictionary.mk (descriptor.withHardware (outputPath (parent.child workspaces.first))
        listed).fields).render name = .ok rendered →
      Among workspaces.known (Path.ofText rendered).parts) :
    workspaces.Renders
      ⟨(descriptor.withHardware (outputPath (parent.child workspaces.first)) listed).fields⟩
      ⟨(descriptor.withHardware (outputPath (parent.child workspaces.second)) listed).fields⟩ where
  render := descriptor.render_withHardware listed _ _
  sources := by
    have written : ∀ path : Path, (outputPath path).segments ≠ [] := by
      intro path
      show (Path.child _ "vhdl").segments ≠ []
      rw [Path.segments_child _ (by decide)]
      simp
    rw [descriptor.sources_withHardware listed (written _),
      descriptor.sources_withHardware listed (written _)]
    exact .cons (readable_outputPath among) .nil
  known := known

/-! ### Workspaces that are kept -/

/-- The exporter with another workspace. -/
def inWorkspace (exporter : Exporter) (workspace : Path) : Exporter :=
  { exporter with workspace }

/-- When an export has come to its core nothing differs but what lies in its workspace, and the core
is rendered from the hardware there. -/
theorem ComesToCore.agreesOff
    (comes : exporter.ComesToCore name transfer state kernel hardware .copy present)
    (synthesized : kernel.source.isStructural = false) (stays : exporter.runner.StaysBelow)
    (inward : exporter.InwardWorkspace name state) :
    (∃ place, state.files.placement exporter.workspace = .ok (some place) ∧
      state.files.get? place.location = none ∧
      state.files.AgreesOff place.location present.files ∧
      present.files.get? place.location = some .directory) ∧
    ∃ descriptor described listed,
      (exporter.describe kernel).run state = (.ok descriptor, described) ∧
      present.files.listFiles (outputPath exporter.workspace) = .ok listed ∧
      hardware = descriptor.withHardware (outputPath exporter.workspace) listed := by
  cases comes with
  | structural _ structural =>
    rw [synthesized] at structural
    cases structural
  | synthesized finds _ description making synthesis =>
    obtain ⟨place, placed, missing, inWorkspace⟩ :=
      exists_workspace stays inward finds synthesized description making
    obtain ⟨off, standing⟩ := inWorkspace synthesis
    obtain ⟨listed, listing, same⟩ := hardware_of_synthesize synthesis
    exact ⟨⟨place, placed, missing, off, standing⟩, _, _, listed, description, listing, same⟩

/-- The paths of two names in a directory lead to these names in the same place. -/
theorem location_of_siblings {files : FileSystem} {parent : Path} {first second : String}
    {place other : Placement} (isName : IsName first) (isNameOther : IsName second)
    (placed : files.placement (parent.child first) = .ok (some place))
    (placedOther : files.placement (parent.child second) = .ok (some other)) :
    place.location = first :: place.directory ∧ other.location = second :: place.directory := by
  obtain ⟨-, ⟨front, parts, walk⟩, -⟩ := placementFrom_eq_some_iff.1 placed
  obtain ⟨-, ⟨frontOther, partsOther, walkOther⟩, -⟩ := placementFrom_eq_some_iff.1 placedOther
  obtain ⟨rfl, last⟩ := List.append_inj' ((Path.parts_child parent isName).symm.trans parts) rfl
  obtain ⟨rfl, lastOther⟩ :=
    List.append_inj' ((Path.parts_child parent isNameOther).symm.trans partsOther) rfl
  rw [start_child parent isName] at walk
  rw [start_child parent isNameOther, walk] at walkOther
  obtain ⟨directory, -⟩ := Prod.mk.inj (Except.ok.inj walkOther)
  exact ⟨by rw [Placement.location, (List.cons.inj last).1],
    by rw [Placement.location, directory, (List.cons.inj lastOther).1]⟩

/-- Two exports that have come to their cores with the same in workspaces of their own: if one of
them succeeds so does the other, and both leave the same files, in which the workspace is taken
over. -/
theorem takenOver_of_comes {workspace other : String} {parent answer : Path} {place : Placement}
    (way : Transfer) {directory : Option Path} {hardwareOther : KernelDescriptor}
    {presentOther : ExportState} (stays : exporter.runner.StaysBelow)
    (inward : exporter.InwardWorkspace name state)
    (inwardOther : (exporter.inWorkspace (parent.child other)).InwardWorkspace name state)
    (synthesized : kernel.source.isStructural = false)
    (named : exporter.workspace = parent.child workspace) (isName : IsName workspace)
    (isNameOther : IsName other) (sameSize : workspace.utf8ByteSize = other.utf8ByteSize)
    (placed : state.files.placement exporter.workspace = .ok (some place))
    (comes : exporter.ComesToCore name transfer state kernel hardware .copy present)
    (comesOther : (exporter.inWorkspace (parent.child other)).ComesToCore name way state kernel
      hardwareOther .copy presentOther)
    (secluded : exporter.Secluded kernel (directory.getD (exporter.project.kernelExportPath name))
      parent place.directory workspace hardware present.files)
    (unheard : exporter.Unheard kernel (directory.getD (exporter.project.kernelExportPath name))
      parent (workspace :: place.directory) hardware present.files other)
    (same : ∀ names, presentOther.files.get? (names ++ other :: place.directory) =
      present.files.get? (names ++ workspace :: place.directory))
    (ran : ((exporter.exportKernel name directory transfer).run state).1 = .ok answer) :
    ∃ files, TakenOver (workspace :: place.directory)
        (keptPath kernel (directory.getD (exporter.project.kernelExportPath name))) present.files
        files ∧
      ((exporter.exportKernel name directory transfer).run state).2.files = files ∧
      (((exporter.inWorkspace (parent.child other)).exportKernel name directory way).run state).1 =
        .ok answer ∧
      (((exporter.inWorkspace (parent.child other)).exportKernel name directory way).run
        state).2.files = files := by
  obtain ⟨⟨here, placedHere, missing, off, standing⟩, descriptor, described, listed, description,
    listing, fromHere⟩ := comes.agreesOff synthesized stays inward
  obtain ⟨⟨there, placedThere, missingThere, offThere, standingThere⟩, descriptorToo, describedToo,
    listedToo, descriptionToo, listingToo, fromThere⟩ :=
    comesOther.agreesOff synthesized stays inwardOther
  obtain rfl := Option.some.inj (Except.ok.inj (placed.symm.trans placedHere))
  rw [named] at placed
  obtain ⟨isHere, isThere⟩ := location_of_siblings isName isNameOther placed placedThere
  rw [isHere] at missing off standing
  rw [isThere] at offThere
  rw [named] at listing fromHere
  subst fromHere fromThere
  have sameDescription : (exporter.describe kernel).run state = (.ok descriptorToo, describedToo) :=
    descriptionToo
  obtain rfl := Except.ok.inj (Prod.mk.inj (description.symm.trans sameDescription)).1
  let workspaces := secluded.workspaces isName isNameOther unheard sameSize
  have twins : workspaces.Twins present.files presentOther.files :=
    Workspaces.twins_of_agreesOff (lodges_heard ..) off missing offThere same
  have heard : ∀ path ∈ exporter.pathsFromCore kernel
      (directory.getD (exporter.project.kernelExportPath name)) parent,
      Among workspaces.known path.parts :=
    fun path member part inPath => .path member inPath
  have inOutput := heard (outputPath parent) (by simp [pathsFromCore])
  obtain rfl : listedToo = listed := by
    have read := (readable_outputPath inOutput).listFiles twins
    exact Except.ok.inj (listingToo.symm.trans (read.trans listing))
  have renders := renders_hardware descriptor listedToo inOutput
    fun {name rendered} told rendering part member => Heard.rendered told rendering member
  have readable : workspaces.Readable (exporter.project.templatePath coreSet)
      (exporter.project.templatePath coreSet) :=
    Workspaces.readable_of_neverLeads (heard _ (by simp [pathsFromCore])) secluded.apart
  have inParent : Among workspaces.known parent.parts := by
    rw [outputPath, Path.parts_foldl_child (by decide), among_append] at inOutput
    exact inOutput.1
  -- The first export, and from it the other one.
  rcases core : (exporter.renderCore kernel _ _ .copy >>= fun _ =>
    exporter.keepWorkspace kernel _).run present with ⟨failure | _, after⟩
  · rw [comes.run synthesized core] at ran
    cases ran
  rw [comes.run synthesized core] at ran ⊢
  obtain ⟨rendered, cleared, kept, rendering, removal, laying, rfl⟩ :=
    exporter.run_fromCore_eq_ok_iff.1 core
  rw [named] at laying
  obtain ⟨files, takenOver, leaves, renderedToo, clearedToo, keptToo, renderingToo, removalToo,
    layingToo, leavesToo⟩ := twins.takenOver renders readable (heard _ List.mem_cons_self) inParent
      (heard (keptPath kernel _) (by simp [pathsFromCore])) (by decide) secluded.rises standing
      rendering removal laying
  have coreToo := (exporter.inWorkspace (parent.child other)).run_fromCore_eq_ok_iff.2
    ⟨renderedToo, clearedToo, keptToo, renderingToo, removalToo, layingToo, rfl⟩
  rw [comesOther.run synthesized coreToo]
  refine ⟨files, takenOver, ?_, ran, ?_⟩
  · show ((removeTree exporter.workspace).run kept).2 = files
    rw [named]
    exact congrArg Prod.snd leaves
  · exact congrArg Prod.snd leavesToo

/-- An export with synthesis that succeeds takes over its workspace as it was when synthesis ended:
the kept directory holds the same and nothing else, whatever stood there before, and nothing is left
of the workspace. All links stood before, and none mentions the workspace. The way in which sources
arrive makes no difference, nor does the name of the workspace: an export that comes to its core
with the same in a workspace of another name succeeds as well, and leaves the same files. -/
theorem exportKernel_takes_over_workspace {workspace : String} {parent answer : Path}
    {directory : Option Path} (stays : exporter.runner.StaysBelow)
    (ordinary : exporter.OrdinaryWorkspace name state) (finds : exporter.Finds name kernel)
    (synthesized : kernel.source.isStructural = false)
    (named : exporter.workspace = parent.child workspace) (isName : IsName workspace)
    (secluded : ∀ hardware present place,
      exporter.ComesToCore name transfer state kernel hardware .copy present →
      state.files.placement exporter.workspace = .ok (some place) →
      exporter.Secluded kernel (directory.getD (exporter.project.kernelExportPath name)) parent
        place.directory workspace hardware present.files)
    (ran : ((exporter.exportKernel name directory transfer).run state).1 = .ok answer) :
    let ended := (exporter.exportKernel name directory transfer).run state
    let target := directory.getD (exporter.project.kernelExportPath name)
    ∃ hardware present place,
      exporter.ComesToCore name transfer state kernel hardware .copy present ∧
      state.files.placement exporter.workspace = .ok (some place) ∧
      TakenOver place.location (keptPath kernel target) present.files ended.2.files ∧
      (∀ location linkTarget, ended.2.files.get? location = some (.link linkTarget) →
        state.files.get? location = some (.link linkTarget) ∧ workspace ∉ linkTarget.parts) ∧
      (∀ way, (exporter.exportKernel name directory way).run state = ended) ∧
      ∀ other way hardwareOther presentOther, IsName other →
        workspace.utf8ByteSize = other.utf8ByteSize →
        exporter.Unheard kernel target parent place.location hardware present.files other →
        (exporter.inWorkspace (parent.child other)).OrdinaryWorkspace name state →
        (exporter.inWorkspace (parent.child other)).ComesToCore name way state kernel hardwareOther
          .copy presentOther →
        (∀ names, presentOther.files.get? (names ++ other :: place.directory) =
          present.files.get? (names ++ place.location)) →
        let endedOther :=
          ((exporter.inWorkspace (parent.child other)).exportKernel name directory way).run state
        endedOther.1 = .ok answer ∧ endedOther.2.files = ended.2.files := by
  intro ended target
  obtain ⟨hardware, present, comes⟩ := exists_comesToCore finds synthesized ran
  obtain ⟨⟨place, placed, missing, off, standing⟩, -⟩ :=
    comes.agreesOff synthesized stays ordinary.inward
  have isSecluded := secluded hardware present place comes placed
  have written : place.location = workspace :: place.directory := by
    have childPlaced := placed
    rw [named] at childPlaced
    exact (location_of_siblings isName isName childPlaced childPlaced).1
  have self : exporter.inWorkspace (parent.child workspace) = exporter := by
    rw [inWorkspace, ← named]
  obtain ⟨files, takenOver, same, -⟩ := takenOver_of_comes transfer stays ordinary.inward
    (self ▸ ordinary.inward) synthesized named isName isName rfl placed comes (self ▸ comes)
    isSecluded isSecluded.unheard (fun _ => rfl) ran
  rw [← written] at takenOver
  have isTakenOver : TakenOver place.location (keptPath kernel target) present.files
    ended.2.files := same ▸ takenOver
  refine ⟨hardware, present, place, comes, placed, isTakenOver,
    fun location linkTarget isLink => ?_, fun way => ?_, fun other way hardwareOther presentOther
      isNameOther sameSize unheard ordinaryOther comesOther alike => ?_⟩
  · have stood := isTakenOver.linked isLink
    have outside : within place.location location = false := by
      refine Bool.eq_false_iff.2 fun inside => ?_
      obtain ⟨names, rfl⟩ := List.isSuffixOf_iff_suffix.1 inside
      rw [isTakenOver.gone] at isLink
      cases isLink
    exact ⟨by rw [← off.outside outside, stood],
      fun member => isSecluded.unheard (.link stood member)⟩
  · simp only [ended]
    rw [exportKernel, exporter.run_exportKernelWith state finds, exportKernel,
      exporter.run_exportKernelWith state finds, exportCore, exportCore,
      if_neg (Bool.eq_false_iff.1 synthesized), if_neg (Bool.eq_false_iff.1 synthesized)]
  · rw [written] at unheard alike
    obtain ⟨_, -, here, succeeds, there⟩ := takenOver_of_comes way stays ordinary.inward
      ordinaryOther.inward synthesized named isName isNameOther sameSize placed comes comesOther
      isSecluded unheard alike ran
    exact ⟨succeeds, there.trans here.symm⟩

/-! ### An export over an earlier one -/

/-- The descriptor that an export with synthesis comes to its core with, and the state then. -/
def coreState (exporter : Exporter) (kernel : Kernel) (state : ExportState) :
    Option (KernelDescriptor × ExportState) := do
  let described := (exporter.describe kernel).run state
  let descriptor ← described.1.toOption
  let made ← (described.2.files.createDirectory exporter.workspace).toOption
  let ended := (exporter.synthesize kernel descriptor).run { described.2 with files := made }
  let hardware ← ended.1.toOption
  some (hardware, ended.2)

theorem comesToCore_iff (finds : exporter.Finds name kernel)
    (synthesized : kernel.source.isStructural = false) :
    exporter.ComesToCore name transfer state kernel hardware .copy present ↔
      exporter.coreState kernel state = some (hardware, present) := by
  have isOk : ∀ {Failure Value : Type} {result : Except Failure Value} {value},
      result.toOption = some value ↔ result = .ok value := by
    intro Failure Value result value
    cases result <;> simp [Except.toOption]
  constructor
  · intro comes
    cases comes with
    | structural _ structural =>
      rw [synthesized] at structural
      cases structural
    | synthesized _ _ description making synthesis =>
      refine Option.bind_eq_some_iff.2 ⟨_, isOk.2 (congrArg Prod.fst description), ?_⟩
      rw [description]
      refine Option.bind_eq_some_iff.2 ⟨_, isOk.2 making, ?_⟩
      refine Option.bind_eq_some_iff.2 ⟨_, isOk.2 (congrArg Prod.fst synthesis), ?_⟩
      rw [synthesis]
  · intro found
    obtain ⟨descriptor, description, found⟩ := Option.bind_eq_some_iff.1 found
    obtain ⟨made, making, found⟩ := Option.bind_eq_some_iff.1 found
    obtain ⟨answer, synthesis, found⟩ := Option.bind_eq_some_iff.1 found
    obtain ⟨rfl, rfl⟩ := Prod.mk.inj (Option.some.inj found)
    exact .synthesized finds synthesized (Prod.ext (isOk.1 description) rfl) (isOk.1 making)
      (Prod.ext (isOk.1 synthesis) rfl)

/-- The export of the adder with a workspace of a name at the root. -/
def synthesizingIn (workspace : String) : Exporter :=
  synthesizing.inWorkspace (Path.root.child workspace)

/-- The files of the adder with an earlier export, which kept a file. -/
def earlierFiles : FileSystem :=
  synthesizingFiles
    |>.put [] "build.hw.adder" .directory
    |>.put ["build.hw.adder"] "a3_adder_v1_00_a" .directory
    |>.put ["a3_adder_v1_00_a", "build.hw.adder"] "hls" .directory
    |>.put ["hls", "a3_adder_v1_00_a", "build.hw.adder"] "stale" (.file "old".toUTF8)

/-- The names that come up in the export of the adder. -/
def adderNames : List String :=
  [".", "src", "a3_adder", "hls", "adder.cpp", "templates", "artico3_kernel_hls_build",
    "csynth.tcl", "artico3_kernel_hdl_pcore", "<<NAME>>.vhd", "adder.vhd", "build.hw.adder",
    "a3_adder_v1_00_a", "stale", "a3_kernel", "sol", "syn", "vhdl"]

theorem finds_adder (workspace : String) :
    (synthesizingIn workspace).Finds "adder" KernelDescriptor.adder := ⟨rfl, rfl⟩

theorem coreState_earlier : ∀ workspace ∈ ["work", "walk"],
    ∀ found ∈ (synthesizingIn workspace).coreState KernelDescriptor.adder { files := earlierFiles },
      found.2.files.linkless = true ∧ found.2.files.workingDirectory = [] ∧
      (∀ location ∈ found.2.files.entries.keys, location ≠ [workspace] →
        ∀ name ∈ location.head?, name ∈ adderNames) ∧
      ∀ name ∈ adderNames, ∀ text ∈ ((Dictionary.mk found.1.fields).render name).toOption,
        ∀ part ∈ (Path.ofText text).parts, part ∈ adderNames := by
  decide +kernel

theorem ordinaryWorkspace_earlier : ∀ workspace ∈ ["work", "walk"],
    (synthesizingIn workspace).OrdinaryWorkspace "adder" { files := earlierFiles } := by
  intro workspace member kernel descriptor described place _ _ _ placed directory name rendered
    entered met rendering
  have only : earlierFiles.names ["artico3_kernel_hls_build", "templates"] = ["csynth.tcl"] := by
    decide +kernel
  have plain : ∀ workspace ∈ ["work", "walk"], IsName workspace ∧ Sayable .root workspace ∧
      within [workspace] ["artico3_kernel_hls_build", "templates"] = false ∧
      within ["artico3_kernel_hls_build", "templates"] [workspace] = false := by
    decide
  obtain ⟨isName, sayable, apart⟩ := plain workspace member
  obtain rfl := Option.some.inj (Except.ok.inj
    ((placement_root_child earlierFiles isName sayable).symm.trans placed))
  obtain ⟨inSet, -⟩ := TemplateAction.MetIn.of_flat
    (by decide +kernel : TemplateAction.Flat earlierFiles adderSet
      ["artico3_kernel_hls_build", "templates"]) apart entered met
  rw [only, List.mem_singleton] at inSet
  rw [inSet, render_csynth] at rendering
  obtain rfl := Except.ok.inj rendering
  decide

theorem unheard_earlier {workspace : String} (member : workspace ∈ ["work", "walk"])
    (found : (hardware, present) ∈
      (synthesizingIn workspace).coreState KernelDescriptor.adder { files := earlierFiles }) :
    ∀ other ∉ adderNames, (synthesizingIn workspace).Unheard KernelDescriptor.adder
      synthesizingTarget .root [workspace] hardware present.files other := by
  obtain ⟨linkless, home, standing, renders⟩ := coreState_earlier workspace member _ found
  have paths : ∀ path ∈ (synthesizingIn workspace).pathsFromCore KernelDescriptor.adder
      synthesizingTarget .root, ∀ part ∈ path.parts, part ∈ adderNames := by
    show ∀ path ∈ synthesizing.pathsFromCore KernelDescriptor.adder synthesizingTarget .root, _
    decide +kernel
  have nowhere : ∀ name ∈ present.files.workingDirectory, name ∈ adderNames := by
    rw [show present.files.workingDirectory = [] from home]
    exact fun _ impossible => absurd impossible List.not_mem_nil
  exact fun other strange heard => strange (heard.mem (by decide) nowhere linkless standing paths
    renders)

theorem secluded_earlier {workspace : String} (member : workspace ∈ ["work", "walk"])
    (found : (hardware, present) ∈
      (synthesizingIn workspace).coreState KernelDescriptor.adder { files := earlierFiles }) :
    (synthesizingIn workspace).Secluded KernelDescriptor.adder synthesizingTarget .root [] workspace
      hardware present.files where
  unheard := by
    have strange : ∀ workspace ∈ ["work", "walk"], workspace ∉ adderNames := by decide
    exact unheard_earlier member found workspace (strange workspace member)
  unlinked _ := unlinked_of_linkless (coreState_earlier workspace member _ found).1 _
  apart := by
    obtain ⟨linkless, home, -⟩ := coreState_earlier workspace member _ found
    have set : (synthesizingIn workspace).project.templatePath coreSet =
      synthesizing.project.templatePath coreSet := rfl
    rw [set]
    refine neverLeads_of_linkless linkless (by decide) ?_
    rw [home]
    decide
  rises := by decide +kernel

/-- Both workspaces hold the same when synthesis has ended. -/
theorem tree_eq_earlier {first second : KernelDescriptor × ExportState}
    (here : first ∈
      (synthesizingIn "work").coreState KernelDescriptor.adder { files := earlierFiles })
    (there : second ∈
      (synthesizingIn "walk").coreState KernelDescriptor.adder { files := earlierFiles })
    (names : List String) :
    second.2.files.get? (names ++ ["walk"]) = first.2.files.get? (names ++ ["work"]) := by
  have keys : ∀ first ∈ (synthesizingIn "work").coreState KernelDescriptor.adder
        { files := earlierFiles },
      ∀ second ∈ (synthesizingIn "walk").coreState KernelDescriptor.adder { files := earlierFiles },
        (∀ location ∈ first.2.files.entries.keys, location.getLast? = some "work" →
          second.2.files.get? (location.dropLast ++ ["walk"]) = first.2.files.get? location) ∧
        ∀ location ∈ second.2.files.entries.keys, location.getLast? = some "walk" →
          first.2.files.get? (location.dropLast ++ ["work"]) = second.2.files.get? location := by
    decide +kernel
  obtain ⟨forth, back⟩ := keys first here second there
  exact tree_eq_of_keys forth back names

/-- An export over an earlier one keeps what is in the workspace and not what was kept before, and a
workspace of another name makes no difference. -/
theorem exportKernel_takes_over_workspace_adder :
    let state : ExportState := { files := earlierFiles }
    let ended := ((synthesizingIn "work").exportKernel "adder" none .link).run state
    let endedOther := ((synthesizingIn "walk").exportKernel "adder" none .copy).run state
    let kept : Location := ["hls", "a3_adder_v1_00_a", "build.hw.adder"]
    earlierFiles.get? ("stale" :: kept) = some (.file "old".toUTF8) ∧
    ended.1 = .ok synthesizingTarget ∧
    (∃ hardware present, (synthesizingIn "work").ComesToCore "adder" .link state
        KernelDescriptor.adder hardware .copy present ∧
      TakenOver ["work"] (keptPath KernelDescriptor.adder synthesizingTarget) present.files
        ended.2.files) ∧
    ended.2.files.get? ("stale" :: kept) = none ∧
    ended.2.files.get? ("csynth.tcl" :: kept) = some (.file "exit".toUTF8) ∧
    endedOther.1 = .ok synthesizingTarget ∧ endedOther.2.files = ended.2.files := by
  intro state ended endedOther kept
  obtain ⟨ran, gone, arrived⟩ : ended.1 = .ok synthesizingTarget ∧
      ended.2.files.get? ("stale" :: kept) = none ∧
      ended.2.files.get? ("csynth.tcl" :: kept) = some (.file "exit".toUTF8) := by
    decide +kernel
  have isWork : "work" ∈ ["work", "walk"] := by decide
  have isWalk : "walk" ∈ ["work", "walk"] := by decide
  have isPlaced : ∀ {place}, earlierFiles.placement (synthesizingIn "work").workspace =
      .ok (some place) → place = ⟨[], "work", false, linkLimit⟩ := fun placed =>
    (Option.some.inj (Except.ok.inj
      ((placement_root_child earlierFiles (by decide : IsName "work") (by decide)).symm.trans
        placed))).symm
  have stays : (synthesizingIn "work").runner.StaysBelow := staysBelow_leave _
  have named : (synthesizingIn "work").workspace = Path.root.child "work" := rfl
  have secluded : ∀ hardware present place,
      (synthesizingIn "work").ComesToCore "adder" .link state KernelDescriptor.adder hardware .copy
        present →
      earlierFiles.placement (synthesizingIn "work").workspace = .ok (some place) →
      (synthesizingIn "work").Secluded KernelDescriptor.adder ((none : Option Path).getD
          ((synthesizingIn "work").project.kernelExportPath "adder")) .root place.directory "work"
        hardware present.files := by
    intro hardware present place comes placed
    obtain rfl := isPlaced placed
    exact secluded_earlier isWork ((comesToCore_iff (finds_adder "work") rfl).1 comes)
  obtain ⟨hardware, present, place, comes, placed, takenOver, -, -, others⟩ :=
    exportKernel_takes_over_workspace stays (ordinaryWorkspace_earlier "work" isWork)
      (finds_adder "work") rfl named (by decide : IsName "work") secluded ran
  obtain rfl := isPlaced placed
  have found := (comesToCore_iff (finds_adder "work") rfl).1 comes
  obtain ⟨⟨hardwareOther, presentOther⟩, there⟩ : ∃ second,
      (synthesizingIn "walk").coreState KernelDescriptor.adder { files := earlierFiles } =
        some second := Option.isSome_iff_exists.1 (by decide +kernel)
  obtain ⟨succeeds, same⟩ := others "walk" .copy hardwareOther presentOther (by decide) (by decide)
    (unheard_earlier isWork found "walk" (by decide)) (ordinaryWorkspace_earlier "walk" isWalk)
    ((comesToCore_iff (finds_adder "walk") rfl).2 there)
    (tree_eq_earlier found there)
  exact ⟨by decide +kernel, ran, ⟨hardware, present, comes, takenOver⟩, gone, arrived, succeeds,
    same⟩

/-! ### Ways to keep something else -/

/-- Files with an earlier export in which a link leads to where a path leads back from. -/
def windingFiles : FileSystem :=
  synthesizingFiles
    |>.put [] "out" .directory
    |>.put ["out"] "y" .directory
    |>.put ["y", "out"] "z" .directory
    |>.put ["out"] "a3_adder_v1_00_a" .directory
    |>.put ["a3_adder_v1_00_a", "out"] "hls" .directory
    |>.put ["hls", "a3_adder_v1_00_a", "out"] "l" (.link { segments := ["..", "..", "y", "z"] })
    |>.put ["a3_adder_v1_00_a", "out"] "a3_adder_v1_00_a" .directory
    |>.put ["a3_adder_v1_00_a", "a3_adder_v1_00_a", "out"] "hls" .directory
    |>.put ["hls", "a3_adder_v1_00_a", "a3_adder_v1_00_a", "out"] "stale" (.file "old".toUTF8)

/-- A path that leads upwards behind the link. -/
def windingTarget : Path where
  segments := ["out", "a3_adder_v1_00_a", "hls", "l", "..", ".."]

/-- Files with a template set of cores that leads to the directory that holds workspaces. -/
def exposedFiles : FileSystem :=
  synthesizingFiles
    |>.put [] "tmp" .directory
    |>.put ["artico3_kernel_hdl_pcore", "templates"] "all" (.link { segments := ["", "tmp"] })

/-- The export from there with a workspace of a name in that directory. -/
def exportExposed (workspace : String) : Except ExportError Path × ExportState :=
  ((synthesizing.inWorkspace (Path.child { segments := ["", "tmp"] } workspace)).exportKernel
    "adder" none .copy).run { files := exposedFiles }

/-- A path that leads upwards behind a name may lead elsewhere when the directory that it led to was
removed, and a stale file is kept there. And a template set that leads to the directory that holds
the workspace makes the name of the workspace part of the core. -/
theorem stale_file_kept :
    (let ended := (synthesizing.exportKernel "adder" (some windingTarget) .copy).run
        { files := windingFiles }
      let kept := keptPath KernelDescriptor.adder windingTarget
      ended.1 = .ok windingTarget ∧
      windingFiles.resolve kept = .ok ["hls", "a3_adder_v1_00_a", "out"] ∧
      ended.2.files.resolve kept = .ok ["hls", "a3_adder_v1_00_a", "a3_adder_v1_00_a", "out"] ∧
      ended.2.files.get? ["stale", "hls", "a3_adder_v1_00_a", "a3_adder_v1_00_a", "out"] =
        some (.file "old".toUTF8) ∧
      (synthesizing.coreState KernelDescriptor.adder { files := windingFiles }).map
        (·.2.files.get? ["stale", "work"]) = some none) ∧
    (exportExposed "work").1 = .ok synthesizingTarget ∧
      (exportExposed "walk").1 = .ok synthesizingTarget ∧
      (exportExposed "work").2.files ≠ (exportExposed "walk").2.files := by
  have exposed : ∀ workspace ∈ ["work", "walk"],
      (exportExposed workspace).1 = .ok synthesizingTarget ∧
      (exportExposed workspace).2.files.get? ["work", "all", "build.hw.adder"] =
        if workspace = "work" then some .directory else none := by
    decide +kernel
  obtain ⟨ranWork, isDirectory⟩ := exposed "work" (by decide)
  obtain ⟨ranWalk, missing⟩ := exposed "walk" (by decide)
  refine ⟨by decide +kernel, ranWork, ranWalk, fun same => ?_⟩
  rw [← same, isDirectory] at missing
  cases missing

end Exporter

end KernelExport
