/-
This file says that hardware is synthesized alike on two file systems, of which one is what another
export has left of the other.

The workspace is made on both and holds the same on both, without links (`SameWorkspace`). It is
rendered from the same templates and sources, so the same arrives there; the tool goes by what it finds
in the workspace (`Runner.Reproducible`), and the hardware that it leaves is found on both.
-/

import KernelExport.Proofs.Separation

namespace KernelExport

open FileSystem FileAction

/-- What a tool comes to is told by what lies below the directory that it runs in. -/
def Runner.Reproducible (runner : Runner) : Prop :=
  ∀ ⦃command first second directory⦄, first.resolve command.directory = .ok directory →
    second.resolve command.directory = .ok directory →
    (∀ {location}, within directory location = true →
      second.get? location = first.get? location) →
    ((runner command).run second).1.toOption = ((runner command).run first).1.toOption ∧
      ∀ {location}, within directory location = true →
        ((runner command).run second).2.get? location = ((runner command).run first).2.get? location

/-- Where there are no links below the directory that a tool runs in, it leaves none there. -/
def Runner.LeavesNoLinks (runner : Runner) : Prop :=
  ∀ ⦃command files directory⦄, files.resolve command.directory = .ok directory →
    (∀ {location}, within directory location = true →
      ∀ target, files.get? location ≠ some (.link target)) →
    ∀ {location}, within directory location = true →
      ∀ target, ((runner command).run files).2.get? location ≠ some (.link target)

theorem ExportAction.alike_onFiles {Failure Result : Type}
    {relation : FileSystem → FileSystem → Prop} {meaning another : Failure → ExportError}
    {action counterpart : ExceptT Failure (StateM FileSystem) Result} {first second : ExportState}
    (alike : Alike relation action counterpart first.files second.files) :
    Alike (fun left right => relation left.files right.files) (onFiles meaning action)
      (onFiles another counterpart) first second := by
  refine .of_runs (run_onFiles ..) (run_onFiles ..) ?_ alike.states
  rcases alike.cases with ⟨value, after, later, ran, also, -⟩ |
    ⟨failure, different, after, later, ran, also, -⟩ <;> rw [ran, also] <;> rfl

/-- The same has come into a workspace in two file systems, without links, and nothing else has
changed. -/
structure SameWorkspace (workspace : Location) (first second left right : FileSystem) : Prop where
  changes : ChangesAlike (within workspace · = true) first second left right
  standing : left.get? workspace = some .directory
  unlinked : ∀ {location}, within workspace location = true →
    ∀ target, left.get? location ≠ some (.link target)

namespace Exporter

open ExportAction

variable {exporter : Exporter} {target : Path} {place : Placement} {shelf : Location}
  {files other : FileSystem}

variable (setting : exporter.Setting target place shelf files)
  (touched : DiffersIn (files.Touches target place.location) files other)
  (vacant : other.get? place.location = none)

include setting touched vacant

/-- A workspace is made on both. -/
theorem createDirectory_workspace : ∃ left right,
    files.createDirectory exporter.workspace = .ok left ∧
    other.createDirectory exporter.workspace = .ok right ∧
    SameWorkspace place.location files other left right := by
  have makes : ∀ {present : FileSystem}, present.placement exporter.workspace = .ok (some place) →
      present.get? place.location = none →
      present.createDirectory exporter.workspace =
        .ok (present.put place.directory place.name .directory) ∧
      DiffersIn (within place.location · = true) present
        (present.put place.directory place.name .directory) ∧
      ∀ location, within place.location location = true →
        (present.put place.directory place.name .directory).get? location =
          if location = place.location then some .directory else none := by
    intro present placed vacant
    obtain ⟨-, -, standing, isName, -⟩ := placementFrom_eq_some_iff.1 placed
    have free : present.Free place.directory place.name :=
      ⟨standing, by rw [← Placement.location, vacant]; simp, isName⟩
    refine ⟨by rw [createDirectory_of_placement placed, vacant],
      ⟨workingDirectory_put .., fun outside => get?_put_of_ne _ _ ?_⟩, fun location inside => ?_⟩
    · rintro rfl
      exact outside (within_self _)
    · split
      · rename_i here
        rw [here]
        exact get?_put_self _ free
      · rename_i apart
        rw [get?_put_of_ne _ _ apart, get?_eq_none_of_within inside vacant]
  obtain ⟨made, differs, found⟩ := makes (setting.workspace (.refl files)) setting.vacant
  obtain ⟨madeToo, differsToo, foundToo⟩ := makes (setting.workspace touched) vacant
  refine ⟨_, _, made, madeToo, ⟨differs, differsToo, fun inside => ?_⟩, ?_,
    fun inside target linked => ?_⟩
  · rw [found _ inside, foundToo _ inside]
  · rw [found _ (within_self _), if_pos rfl]
  · rw [found _ inside] at linked
    split at linked <;> cases linked

end Exporter

namespace SameWorkspace

open ExportAction Exporter

variable {exporter : Exporter} {target : Path} {place : Placement} {shelf : Location}
  {files other left right : FileSystem} {kernel : Kernel} {descriptor : KernelDescriptor}
  {first second : ExportState}

section Held

variable (setting : exporter.Setting target place shelf files)
  (touched : DiffersIn (files.Touches target place.location) files other)
  (same : SameWorkspace place.location files other left right)

include same

theorem standingRight : right.get? place.location = some .directory :=
  (same.changes.same (within_self _)).trans same.standing

theorem touchedLeft : DiffersIn (files.Touches target place.location) files left :=
  same.changes.onLeft.mono .inl

include touched

theorem touchedRight : DiffersIn (files.Touches target place.location) files right :=
  touched.trans (same.changes.onRight.mono .inl)

include setting

omit touched in
/-- The workspace is held by whatever has the same in it. -/
theorem holds {present : FileSystem}
    (reached : DiffersIn (files.Touches target place.location) files present)
    (kept : ∀ {location}, within place.location location = true →
      present.get? location = left.get? location) :
    present.Holds left exporter.workspace place.location := by
  have inside : ∀ names : List String, within place.location (names ++ place.location) = true :=
    fun names => within_append names _
  exact ⟨setting.opensAt_workspace reached ((kept (within_self _)).trans same.standing),
    same.standing, fun names => kept (inside names), fun names => same.unlinked (inside names)⟩

end Held

/-- Steps below the workspace go by names from there. -/
def tandem (setting : exporter.Setting target place shelf files)
    (touched : DiffersIn (files.Touches target place.location) files other)
    (same : SameWorkspace place.location files other left right) : Tandem where
  root := exporter.workspace
  site := place.location
  transfer := .copy
  first := left
  second := right
  askable := setting.askable_workspace
  opens differs := by
    have self : ¬Below place.location place.location := fun below => below.1 rfl
    have below : ∀ {location}, Below place.location location →
        files.Touches target place.location location := fun below => .inl below.2
    rcases differs with differs | differs
    · exact setting.opensAt_workspace (same.touchedLeft.trans (differs.mono below))
        ((differs.outside self).trans same.standing)
    · exact setting.opensAt_workspace ((same.touchedRight touched).trans (differs.mono below))
        ((differs.outside self).trans same.standingRight)
  standingFirst := same.standing
  standingSecond := same.standingRight

variable (setting : exporter.Setting target place shelf files)
  (touched : DiffersIn (files.Touches target place.location) files other)

theorem abreast (same : SameWorkspace place.location files other left right) :
    (same.tandem setting touched).Abreast place.location left right :=
  ⟨.refl left, .refl right, fun below => same.changes.same below.2,
    fun below linked => absurd linked (same.unlinked below.2 _), same.standing⟩

/-- After copies below it there is still the same in the workspace. -/
theorem of_abreast (same : SameWorkspace place.location files other left right)
    {after later : FileSystem}
    (abreast : (same.tandem setting touched).Abreast place.location after later) :
    SameWorkspace place.location files other after later :=
  ⟨same.changes.trans abreast.changesAlike, abreast.standing, abreast.linkless rfl⟩

theorem admits_tandem (same : SameWorkspace place.location files other left right)
    {present : FileSystem} (admitted : (same.tandem setting touched).Admits present) :
    DiffersIn (files.Touches target place.location) files present := by
  have below : ∀ {location}, Below place.location location →
      files.Touches target place.location location := fun below => .inl below.2
  rcases admitted with differs | differs
  · exact same.touchedLeft.trans (differs.mono below)
  · exact (same.touchedRight touched).trans (differs.mono below)

/-! ### Synthesis -/

section Synthesis

variable (same : SameWorkspace place.location files other first.files second.files)

include setting touched same

/-- The workspace is rendered alike. -/
theorem alike_renderWorkspace
    (renderable : Renderable (DiffersIn (files.Touches target place.location) files)
      ⟨descriptor.fields⟩ (exporter.project.templatePath synthesisSet))
    (sources : ∀ source ∈ (Dictionary.mk descriptor.fields).sources,
      Furnished (DiffersIn (files.Touches target place.location) files)
        (files.Touches target place.location) source) :
    Alike (fun left right => SameWorkspace place.location files other left.files right.files)
      (exporter.renderWorkspace kernel descriptor) (exporter.renderWorkspace kernel descriptor)
      first second := by
  have admits : ∀ ⦃present⦄, (same.tandem setting touched).Admits present →
      DiffersIn (files.Touches target place.location) files present :=
    fun _ => same.admits_tandem setting touched
  have alike : Alike ((same.tandem setting touched).Abreast place.location)
      (TemplateAction.render ⟨descriptor.fields⟩ .copy
        (exporter.project.templatePath synthesisSet) exporter.workspace)
      (TemplateAction.render ⟨descriptor.fields⟩ .copy
        (exporter.project.templatePath synthesisSet) exporter.workspace) first.files second.files :=
    Tandem.alike_render .root (same.abreast setting touched) (renderable.mono admits)
      fun source isSource => (sources source isSource).mono admits fun below => .inl below.2
  have renders : exporter.renderWorkspace kernel descriptor =
      onFiles (.template (some kernel.name)) (TemplateAction.render ⟨descriptor.fields⟩ .copy
        (exporter.project.templatePath synthesisSet) exporter.workspace) := rfl
  rw [renders]
  exact alike_onFiles (alike.mono (same.of_abreast setting touched))

/-- The tool comes to the same in the workspace. -/
theorem alike_runTool (stays : exporter.runner.StaysBelow)
    (reproducible : exporter.runner.Reproducible) (noLinks : exporter.runner.LeavesNoLinks) :
    Alike (fun left right => SameWorkspace place.location files other left.files right.files)
      (exporter.runTool .synthesis (.synthesis exporter.workspace))
      (exporter.runTool .synthesis (.synthesis exporter.workspace)) first second := by
  have leads : ∀ {present : FileSystem}, present.OpensAt exporter.workspace place.location →
      present.get? place.location = some .directory →
      present.resolve exporter.synthesisCommand.directory = .ok place.location := by
    intro present opens standing
    show present.resolve exporter.workspace = _
    rw [resolve_of_opensAt opens standing, setting.askable_workspace]
    rfl
  have onFirst := leads (setting.opensAt_workspace same.touchedLeft same.standing) same.standing
  have onSecond := leads (setting.opensAt_workspace (same.touchedRight touched) same.standingRight)
    same.standingRight
  obtain ⟨succeeds, alike⟩ := reproducible onFirst onSecond same.changes.same
  have changes : ∀ {present : FileSystem},
      present.resolve exporter.synthesisCommand.directory = .ok place.location →
      DiffersIn (within place.location · = true) present
          ((exporter.runner exporter.synthesisCommand).run present).2 ∧
        ((exporter.runner exporter.synthesisCommand).run present).2.get? place.location =
          present.get? place.location := by
    intro present leads
    obtain ⟨workingDirectory, outside⟩ := stays exporter.synthesisCommand present
    have kept : ∀ {location}, location = place.location ∨
        within place.location location = false →
        ((exporter.runner exporter.synthesisCommand).run present).2.get? location =
          present.get? location := by
      intro location apart
      refine outside location fun directory also => ?_
      obtain rfl := Except.ok.inj (leads.symm.trans also)
      exact apart
    exact ⟨⟨workingDirectory, fun outside => kept (.inr (Bool.eq_false_iff.2 outside))⟩,
      kept (.inl rfl)⟩
  refine .of_runs (exporter.run_runTool first _ _) (exporter.run_runTool second _ _) ?_ ?_
  · show (((exporter.runner exporter.synthesisCommand).run first.files).1.mapError _).toOption =
      (((exporter.runner exporter.synthesisCommand).run second.files).1.mapError _).toOption
    have toOption : ∀ {result : Except ToolError Unit},
        (result.mapError (.tool .synthesis : ToolError → ExportError)).toOption =
          result.toOption := by
      rintro (_ | _) <;> rfl
    rw [toOption, toOption, succeeds]
  · exact ⟨same.changes.trans ⟨(changes onFirst).1, (changes onSecond).1, alike⟩,
      (changes onFirst).2.trans same.standing, noLinks onFirst same.unlinked⟩

/-- The same hardware is found. -/
theorem alike_collectHardware :
    Alike (fun left right => SameWorkspace place.location files other left.files right.files)
      (exporter.collectHardware descriptor) (exporter.collectHardware descriptor) first second := by
  have names : ∀ name ∈ ["a3_kernel", "sol", "syn", "vhdl"], IsName name := by decide
  have onFirst := same.holds setting same.touchedLeft fun _ => rfl
  have onSecond := same.holds setting (same.touchedRight touched) same.changes.same
  refine Alike.get ?_
  have stands : second.files.isDirectory (outputPath exporter.workspace) =
      first.files.isDirectory (outputPath exporter.workspace) :=
    Holds.isDirectory_foldl_child names onFirst onSecond
  rw [stands]
  by_cases standing : first.files.isDirectory (outputPath exporter.workspace) = true
  · simp only [standing, if_true]
    have listing : second.files.listFiles (outputPath exporter.workspace) =
        first.files.listFiles (outputPath exporter.workspace) :=
      (Holds.foldl_child names onFirst standing onFirst).listFiles_eq
        (Holds.foldl_child names onFirst standing onSecond)
    refine Alike.bind (.of_runs (run_ask ..) (run_ask ..) (by rw [listing]) same)
      fun hardware after later _ _ same => ⟨rfl, same⟩
  · simp only [standing, if_false, Bool.false_eq_true]
    exact ⟨rfl, same⟩

/-- Synthesis answers the same hardware. -/
theorem alike_synthesize (stays : exporter.runner.StaysBelow)
    (reproducible : exporter.runner.Reproducible) (noLinks : exporter.runner.LeavesNoLinks)
    (renderable : Renderable (DiffersIn (files.Touches target place.location) files)
      ⟨descriptor.fields⟩ (exporter.project.templatePath synthesisSet))
    (sources : ∀ source ∈ (Dictionary.mk descriptor.fields).sources,
      Furnished (DiffersIn (files.Touches target place.location) files)
        (files.Touches target place.location) source) :
    Alike (fun left right => SameWorkspace place.location files other left.files right.files)
      (exporter.synthesize kernel descriptor) (exporter.synthesize kernel descriptor) first
      second := by
  refine Alike.bind (same.alike_renderWorkspace setting touched renderable sources)
    fun _ _ _ _ _ same => ?_
  refine Alike.bind (same.alike_runTool setting touched stays reproducible noLinks)
    fun _ _ _ _ _ same => ?_
  exact same.alike_collectHardware setting touched

end Synthesis

end SameWorkspace

end KernelExport
