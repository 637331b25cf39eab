/-
This file says that the export of a kernel comes to the same whether another kernel has been exported
into the same directory before or not.

Both exports read the same, so they describe the kernel alike, and its hardware is synthesized alike.
Then they render the same core, and keep the same workspace with it. Neither of them touches anything
else, and in the end nothing is left of the workspaces.
-/

import KernelExport.Proofs.TwinWorkspaces

namespace KernelExport

open FileSystem FileAction

namespace Exporter

open ExportAction

variable {exporter : Exporter} {name core : String} {target : Path} {transfer way : Transfer}
  {place : Placement} {shelf site : Location} {files opened other : FileSystem} {kernel : Kernel}
  {descriptor : KernelDescriptor} {state first second described present : ExportState}

/-! ### Descriptions -/

/-- Where the sources of a kernel are held, or are no directory, the same interface is declared. -/
theorem Declares.of_furnished {kind : FileSystem → Prop} {region : Location → Prop}
    {listed : List String} {interface : Interface} (isName : IsName kernel.name)
    (furnished : Furnished kind region (exporter.project.sourcePath kernel)) (ofKind : kind files)
    (also : kind other) (declares : exporter.Declares kernel files listed interface) :
    exporter.Declares kernel other listed interface := by
  obtain ⟨source, read, compiled⟩ := declares.compiled
  rcases furnished with ⟨base, location, holds, -⟩ | never
  · have onFirst := holds ofKind
    have onSecond := holds also
    have program : exporter.programPath kernel =
      (exporter.project.sourcePath kernel).child (Text.lowercase kernel.name ++ ".cpp") := rfl
    have same : other.readText (exporter.programPath kernel) =
        files.readText (exporter.programPath kernel) := by
      rw [readText, readText, program, onSecond.readFile_child (isName_program isName),
        onFirst.readFile_child (isName_program isName)]
    exact ⟨(onFirst.listFiles_eq onSecond).trans declares.listed, source, same.trans read, compiled⟩
  · exact absurd declares.listed (listFiles_ne_ok_of_isDirectory_eq_false (never ofKind) _)

/-- A kernel is described alike where the same is declared. -/
theorem alike_describe
    (same : ∀ listed interface, exporter.Declares kernel second.files listed interface ↔
      exporter.Declares kernel first.files listed interface) :
    Alike (fun left right => left.files = first.files ∧ right.files = second.files)
      (exporter.describe kernel) (exporter.describe kernel) first second := by
  rcases exporter.run_describe kernel first with ⟨listed, interface, declares, ran⟩ |
    ⟨error, undeclared, ran⟩
  · rcases exporter.run_describe kernel second with ⟨others, another, also, ranToo⟩ |
      ⟨error, undeclared, -⟩
    · have declaresToo := (same _ _).1 also
      obtain rfl := declares.unique declaresToo
      obtain rfl := Except.ok.inj (declares.listed.symm.trans declaresToo.listed)
      exact .of_runs ran ranToo rfl ⟨rfl, rfl⟩
    · exact absurd ((same _ _).2 declares) (undeclared _ _)
  · rcases exporter.run_describe kernel second with ⟨others, another, also, -⟩ |
      ⟨another, -, ranToo⟩
    · exact absurd ((same _ _).1 also) (undeclared _ _)
    · exact .of_runs ran ranToo rfl ⟨rfl, rfl⟩

/-- What is told about a kernel. -/
theorem name_of_describe
    (description : (exporter.describe kernel).run state = (.ok descriptor, described)) :
    descriptor.name = Text.lowercase kernel.name ∧
      (Dictionary.mk descriptor.fields).sources = [exporter.project.sourcePath kernel] := by
  rcases exporter.run_describe kernel state with ⟨listed, interface, -, ran⟩ | ⟨error, -, ran⟩
  · rw [description] at ran
    obtain rfl := Except.ok.inj (Prod.mk.inj ran).1
    have written : (exporter.project.sourcePath kernel).segments ≠ [] :=
      Path.segments_child_ne_nil _ _
    exact ⟨rfl, congrArg (fun path => [path]) (Path.ofText_text written)⟩
  · rw [description] at ran
    cases (Prod.mk.inj ran).1

theorem ComesToCore.named
    (comes : exporter.ComesToCore name transfer state kernel descriptor way present) :
    kernel.name = name ∧ descriptor.name = Text.lowercase name := by
  cases comes with
  | structural finds _ _ =>
    obtain ⟨-, rfl⟩ := Configuration.kernel?_eq_some finds.kernel
    exact ⟨rfl, rfl⟩
  | synthesized finds _ description _ synthesis =>
    obtain ⟨-, rfl⟩ := Configuration.kernel?_eq_some finds.kernel
    obtain ⟨listed, -, rfl⟩ := hardware_of_synthesize synthesis
    exact ⟨rfl, (name_of_describe description).1⟩

/-! ### Cores -/

/-- The core of a kernel is rendered alike. If that succeeds by copies, there is a core to go on
with. -/
theorem Setting.alike_renderCore (setting : exporter.Setting target place shelf files)
    (kernel : Kernel) (way : Transfer)
    (twin : TwinOpening target core first.files second.files opened (files.InCore target core))
    (touchedFirst : DiffersIn (files.Touches target place.location) files first.files)
    (touchedOpened : DiffersIn (files.Touches target place.location) files opened)
    (touchedSecond : DiffersIn (files.Touches target place.location) files second.files)
    (names : Dictionary.NamesIn ⟨descriptor.fields⟩ files shelf)
    (rendering : (Dictionary.mk descriptor.fields).render coreEntry = .ok core)
    (sources : ∀ source ∈ (Dictionary.mk descriptor.fields).sources, Furnished
      (fun present => DiffersIn (files.InCore target core) opened present ∨
        DiffersIn (files.InCore target core) second.files present)
      (files.InCore target core) source) :
    Alike (fun left right => ChangesAlike (files.InCore target core) opened second.files left.files
        right.files)
      (exporter.renderCore kernel descriptor target way)
      (exporter.renderCore kernel descriptor target way) first second ∧
    ∀ {after later}, way = .copy →
      (exporter.renderCore kernel descriptor target way).run first = (.ok (), after) →
      (exporter.renderCore kernel descriptor target way).run second = (.ok (), later) →
      ∃ site, files.InCore target core = (within (core :: site) · = true) ∧
        CoreSite target site core after.files later.files ∧ Sayable target core ∧
        after.files.get? (core :: site) = some .directory := by
  have renders : exporter.renderCore kernel descriptor target way =
      onFiles (.template (some kernel.name)) (TemplateAction.render ⟨descriptor.fields⟩ way
        (exporter.project.templatePath coreSet) target) := rfl
  have set : CoreSet (fun present => DiffersIn (files.InCore target core) opened present ∨
      DiffersIn (files.InCore target core) second.files present)
      (exporter.project.templatePath coreSet) files shelf :=
    setting.cores.mono fun _ differs => touched_of_inCore touchedOpened touchedSecond differs
  have stands : ∀ {present}, DiffersIn (files.Touches target place.location) files present →
      present.isDirectory (exporter.project.templatePath coreSet) = true := fun touched => by
    rw [(setting.cores.holds touched).isDirectory, setting.cores.askable, decide_eq_true rfl]
  obtain ⟨alike, copied⟩ := twin.alike_render way (set.isName names rendering) set
    (stands touchedFirst) (stands touchedSecond) names rendering sources
  rw [renders]
  refine ⟨alike_onFiles alike, fun copies ran also => ?_⟩
  obtain ⟨rendered, done, rfl⟩ := run_onFiles_eq_ok_iff.1 ran
  obtain ⟨renderedToo, doneToo, rfl⟩ := run_onFiles_eq_ok_iff.1 also
  exact copied copies done doneToo

/-- The workspace is kept alike with a core. -/
theorem alike_keepWorkspace {base : FileSystem}
    (coreSite : CoreSite target site core first.files second.files) (isName : IsName core)
    (sayable : Sayable target core) (standing : first.files.get? (core :: site) = some .directory)
    (isCore : core = (Core.ofKernel kernel.name).directory)
    (holds : ∀ ⦃present⦄, coreSite.Admits present → present.Holds base exporter.workspace shelf)
    (apart : ∀ names, ¬within (core :: site) (names ++ shelf) = true) :
    Alike (fun left right => ChangesAlike (within (core :: site) · = true) first.files second.files
        left.files right.files)
      (exporter.keepWorkspace kernel target) (exporter.keepWorkspace kernel target) first second := by
  have keeps : exporter.keepWorkspace kernel target =
      onFiles (.files (keptPath kernel target)) (removeTree (keptPath kernel target)) >>= fun _ =>
        onFiles (.files (keptPath kernel target))
          (overlay .copy exporter.workspace (keptPath kernel target)) := rfl
  have kept : keptPath kernel target = (target.child core).child "hls" := by rw [isCore]; rfl
  have isHls : IsName "hls" := by decide
  have begun : (coreSite.tandem .copy isName sayable standing).Abreast (core :: site) first.files
    second.files := coreSite.abreast isName sayable standing
  have removal := Tandem.alike_removeTree .root isHls begun
  rw [keeps, kept]
  refine Alike.mono (Alike.bind (alike_onFiles removal) fun _ _ _ _ _ abreast => ?_)
    fun abreast => Tandem.Abreast.changesAlike abreast
  exact alike_onFiles (coreSite.alike_overlay isName sayable standing isHls holds apart abreast)

/-! ### Removing the workspace -/

/-- A workspace that stands is removed with all that is in it. -/
theorem Setting.run_removeTree (setting : exporter.Setting target place shelf files)
    (touched : DiffersIn (files.Touches target place.location) files other)
    (standing : other.get? place.location = some .directory) :
    (removeTree exporter.workspace).run other = (.ok (), other.erase place.location) := by
  have off : ∀ {location}, within place.location location = false →
      (other.erase place.location).get? location = other.get? location := fun outside => by
    rw [get?_erase, if_neg fun gone => by rw [gone.2] at outside; cases outside]
  have erased : DiffersIn (files.Touches target place.location) files
      (other.erase place.location) :=
    touched.trans ⟨rfl, fun outside => off (Bool.eq_false_iff.2 fun inside => outside (.inl inside))⟩
  refine FileAction.run_removeTree (setting.workspace erased) ?_ ⟨rfl, fun outside => (off outside).symm⟩
    standing
  rw [get?_erase, if_pos ⟨List.cons_ne_nil _ _, within_self _⟩]

/-- Where a workspace has come and gone, what is left is what has changed besides. -/
theorem differsIn_erase {region : Location → Prop} {workspace : Location}
    (vacant : files.get? workspace = none)
    (lodged : DiffersIn (within workspace · = true) files opened)
    (later : DiffersIn region opened other) : DiffersIn region files (other.erase workspace) := by
  refine ⟨later.workingDirectory.trans lodged.workingDirectory, fun {location} outside => ?_⟩
  by_cases gone : location ≠ [] ∧ within workspace location = true
  · rw [get?_erase, if_pos gone, get?_eq_none_of_within gone.2 vacant]
  · rw [get?_erase, if_neg gone, later.outside outside]
    by_cases inside : within workspace location = true
    · obtain rfl : location = [] := by_contra fun named => gone ⟨named, inside⟩
      rw [get?_nil, get?_nil]
    · exact lodged.outside inside

/-- Where a workspace was all that has come, nothing is left. -/
theorem erase_eq {workspace : Location} (vacant : files.get? workspace = none)
    (lodged : DiffersIn (within workspace · = true) files opened) :
    opened.erase workspace = files := by
  have nowhere : DiffersIn (fun _ => False) files (opened.erase workspace) :=
    differsIn_erase vacant lodged (.refl opened)
  exact eq_of_differsIn_nowhere nowhere id

/-! ### From the core on -/

/-- The kernel of a name can be exported on its own: it has one step of a path for its name, what its
export reads is found whatever exports touch, what its templates render to are names, and its
workspace is clear of its core. -/
structure Provides (exporter : Exporter) (name : String) (target : Path) (transfer : Transfer)
    (place : Placement) (shelf : Location) (state : ExportState) : Prop where
  found : ∃ kernel, exporter.project.configuration.kernel? name = some kernel
  isName : IsName name
  clear : Clear state.files target place (Core.ofKernel name).directory
  sources : ∀ ⦃kernel⦄, exporter.Finds name kernel →
    Furnished (DiffersIn (state.files.Touches target place.location) state.files)
      (state.files.Touches target place.location) (exporter.project.sourcePath kernel)
  build : ∀ ⦃kernel descriptor described⦄, exporter.Finds name kernel →
    kernel.source.isStructural = false →
    (exporter.describe kernel).run state = (.ok descriptor, described) →
    Renderable (DiffersIn (state.files.Touches target place.location) state.files)
      ⟨descriptor.fields⟩ (exporter.project.templatePath synthesisSet)
  core : ∀ ⦃kernel descriptor way present⦄,
    exporter.ComesToCore name transfer state kernel descriptor way present →
    Dictionary.NamesIn ⟨descriptor.fields⟩ state.files shelf

/-- An export of the kernel of a name comes to its core. -/
def ReachesCore (exporter : Exporter) (name : String) (transfer : Transfer) (state : ExportState) :
    Prop :=
  ∃ kernel descriptor way present,
    exporter.ComesToCore name transfer state kernel descriptor way present

theorem ComesToCore.finds
    (comes : exporter.ComesToCore name transfer state kernel descriptor way present) :
    exporter.Finds name kernel := by
  cases comes with
  | structural finds => exact finds
  | synthesized finds => exact finds

theorem Finds.unique {other : Kernel} (finds : exporter.Finds name kernel)
    (others : exporter.Finds name other) : other = kernel :=
  Option.some.inj (others.kernel.symm.trans finds.kernel)

/-- The sources of a core that was synthesized are a tree of the workspace, so they are found
wherever the workspace is held. -/
theorem ComesToCore.furnished {kind : FileSystem → Prop} {region : Location → Prop}
    {location : Location}
    (comes : exporter.ComesToCore name transfer state kernel descriptor .copy present)
    (synthesized : kernel.source.isStructural = false)
    (stands : present.files.Holds present.files exporter.workspace location)
    (held : ∀ ⦃files⦄, kind files → files.Holds present.files exporter.workspace location)
    (beyond : ∀ inner, ¬region (inner ++ location)) :
    ∀ source ∈ (Dictionary.mk descriptor.fields).sources, Furnished kind region source := by
  have names : ∀ name ∈ ["a3_kernel", "sol", "syn", "vhdl"], IsName name := by decide
  cases comes with
  | structural _ structural =>
    rw [synthesized] at structural
    cases structural
  | synthesized _ _ _ _ synthesis =>
    obtain ⟨listed, listing, rfl⟩ := hardware_of_synthesize synthesis
    have written : (outputPath exporter.workspace).segments ≠ [] :=
      Path.segments_child_ne_nil _ "vhdl"
    rw [KernelDescriptor.sources_withHardware _ _ written]
    have standing : present.files.isDirectory (outputPath exporter.workspace) = true :=
      Bool.of_not_eq_false fun missing =>
        listFiles_ne_ok_of_isDirectory_eq_false missing listed listing
    exact List.forall_mem_singleton.2 (.of_foldl_child names stands standing held beyond)

/-- An export without synthesis comes to its core if the sources can be listed. -/
theorem reachesCore_iff_of_structural (finds : exporter.Finds name kernel)
    (structural : kernel.source.isStructural = true) :
    exporter.ReachesCore name transfer state ↔
      ∃ listed, state.files.listFiles (exporter.project.sourcePath kernel) = .ok listed := by
  refine ⟨fun ⟨other, descriptor, way, present, comes⟩ => ?_, fun ⟨listed, listing⟩ =>
    ⟨_, _, _, _, .structural finds structural listing⟩⟩
  obtain rfl := finds.unique comes.finds
  cases comes with
  | structural _ _ listing => exact ⟨_, listing⟩
  | synthesized _ synthesized =>
    rw [structural] at synthesized
    cases synthesized

/-- An export with synthesis comes to its core if hardware is synthesized. -/
theorem reachesCore_iff_of_synthesized (finds : exporter.Finds name kernel)
    (synthesized : kernel.source.isStructural = false) :
    exporter.ReachesCore name transfer state ↔ (exporter.coreState kernel state).isSome = true := by
  rw [Option.isSome_iff_exists]
  have comes : ∀ {hardware present},
      exporter.ComesToCore name transfer state kernel hardware .copy present ↔
        exporter.coreState kernel state = some (hardware, present) := comesToCore_iff finds synthesized
  refine ⟨fun ⟨other, descriptor, way, present, reached⟩ => ?_, fun ⟨(hardware, present), found⟩ =>
    ⟨_, _, _, _, comes.2 found⟩⟩
  obtain rfl := finds.unique reached.finds
  cases reached with
  | structural _ structural =>
    rw [synthesized] at structural
    cases structural
  | synthesized _ _ description making synthesis =>
    exact ⟨_, comes.1 (.synthesized finds synthesized description making synthesis)⟩

/-- How exports of a kernel from two states end: they stop before the core, and leave the files as
they are, or they come to the core, and what they change in it is the same. -/
inductive TwinEnds {Result : Type} (region : Location → Prop) (comes : Prop)
    (before opened other : FileSystem) (mine theirs : Except ExportError Result × ExportState) :
    Prop
  | stopped : ¬comes → mine.1.toOption = none → theirs.1.toOption = none →
    mine.2.files = before → theirs.2.files = other →
    TwinEnds region comes before opened other mine theirs
  | reached : comes → mine.1.toOption = theirs.1.toOption →
    ChangesAlike region opened other mine.2.files theirs.2.files →
    TwinEnds region comes before opened other mine theirs

section Twin

variable (setting : exporter.Setting target place shelf state.files)
  (provides : exporter.Provides name target transfer place shelf state)
  {another : ExportState}
  (apart : DiffersIn
    (state.files.Elsewhere target place.location (Core.ofKernel name).directory)
    (state.files.opening target) another.files)

include setting provides apart

omit setting provides in
/-- What has changed elsewhere has been touched. -/
theorem touched_of_apart :
    DiffersIn (state.files.Touches target place.location) state.files another.files :=
  (differsIn_opening state.files target place.location).trans
    (apart.mono fun elsewhere => .inr (.inl elsewhere.1))

/-- From the workspace on, the same core is rendered and the same is kept with it. -/
theorem alike_fromCore
    (comes : exporter.ComesToCore name transfer state kernel descriptor .copy present)
    (synthesized : kernel.source.isStructural = false)
    (same : SameWorkspace place.location state.files another.files present.files second.files) :
    Alike (fun left right => ChangesAlike (state.files.InCore target (Core.ofKernel name).directory)
        (present.files.opening target) second.files left.files right.files)
      (exporter.renderCore kernel descriptor target .copy >>= fun _ =>
        exporter.keepWorkspace kernel target)
      (exporter.renderCore kernel descriptor target .copy >>= fun _ =>
        exporter.keepWorkspace kernel target) present second := by
  have touched := touched_of_apart apart
  obtain ⟨opening, beside⟩ := setting.opening_beside same.changes.onLeft
  have touchedOpened := (differsIn_opening state.files target place.location).trans
    (opening.mono .inl)
  have touchedSecond := same.touchedRight touched
  have outside : ∀ {location}, within place.location location = true →
      ¬state.files.InCore target (Core.ofKernel name).directory location := by
    intro location inside inCore
    rw [provides.clear.not_within inCore] at inside
    cases inside
  have held : ∀ ⦃now⦄, DiffersIn (state.files.InCore target (Core.ofKernel name).directory)
        (present.files.opening target) now ∨
      DiffersIn (state.files.InCore target (Core.ofKernel name).directory) second.files now →
      now.Holds present.files exporter.workspace place.location := by
    intro now differs
    refine same.holds setting (touched_of_inCore touchedOpened touchedSecond differs) fun inside => ?_
    rcases differs with differs | differs
    · exact (differs.outside (outside inside)).trans (beside inside).2
    · exact (differs.outside (outside inside)).trans (same.changes.same inside)
  have beyond : ∀ inner, ¬state.files.InCore target (Core.ofKernel name).directory
      (inner ++ place.location) := fun inner => outside (within_append inner _)
  obtain ⟨rfl, isName⟩ := comes.named
  have sources := comes.furnished synthesized (same.holds setting same.touchedLeft fun _ => rfl) held
    beyond
  obtain ⟨alike, copied⟩ := setting.alike_renderCore kernel .copy
    (setting.twinOpening provides.clear same.changes.onLeft apart same.changes.onRight)
    same.touchedLeft touchedOpened touchedSecond (provides.core comes) (render_coreEntry isName)
    sources
  refine Alike.bind alike fun _ after later ran also changes => ?_
  obtain ⟨site, region, coreSite, sayable, standing⟩ := copied rfl ran also
  rw [region] at held beyond changes
  have isCore := setting.cores.isName (provides.core comes) (render_coreEntry isName)
  have kept := alike_keepWorkspace coreSite isCore sayable standing rfl
    (fun now admitted => held (admitted.imp changes.onLeft.trans changes.onRight.trans)) beyond
  rw [region]
  exact kept.mono changes.trans

/-! ### The export -/

omit provides in
/-- Nothing stands where the workspace is made. -/
theorem vacant_of_apart : another.files.get? place.location = none := by
  have here := within_self place.location
  have inWorkspace : ¬state.files.Elsewhere target place.location (Core.ofKernel name).directory
      place.location := fun elsewhere => by
    rw [elsewhere.2.1] at here
    cases here
  rw [apart.outside inWorkspace, ((setting.opening_beside (.refl _)).2 here).1, setting.vacant]

/-- The core is rendered alike from the sources of a kernel. -/
theorem alike_renderStructural (finds : exporter.Finds name kernel)
    (comes : exporter.ComesToCore name transfer state kernel descriptor transfer state)
    (sources : (Dictionary.mk descriptor.fields).sources = [exporter.project.sourcePath kernel]) :
    Alike (fun left right => ChangesAlike (state.files.InCore target (Core.ofKernel name).directory)
        (state.files.opening target) another.files left.files right.files)
      (exporter.renderCore kernel descriptor target transfer)
      (exporter.renderCore kernel descriptor target transfer) state another := by
  have opened := differsIn_opening state.files target place.location
  have touched := touched_of_apart apart
  have furnished := provides.sources finds
  obtain ⟨rfl, isName⟩ := comes.named
  refine (setting.alike_renderCore kernel transfer
    (setting.twinOpening provides.clear (.refl _) apart (.refl _)) (.refl _) opened touched
    (provides.core comes) (render_coreEntry isName) ?_).1
  rw [sources]
  exact List.forall_mem_singleton.2 (furnished.mono
    (fun _ differs => touched_of_inCore opened touched differs) InCore.touches)

/-- An export without synthesis ends alike. -/
theorem twinEnds_structural (finds : exporter.Finds name kernel)
    (structural : kernel.source.isStructural = true) :
    TwinEnds (state.files.InCore target (Core.ofKernel name).directory)
      (exporter.ReachesCore name transfer state) state.files (state.files.opening target)
      another.files
      ((exporter.exportStructural exporter.renderCore kernel target transfer).run state)
      ((exporter.exportStructural exporter.renderCore kernel target transfer).run another) := by
  have listed := (provides.sources finds).listFiles (.refl state.files) (touched_of_apart apart)
  have written : (exporter.project.sourcePath kernel).segments ≠ [] :=
    Path.segments_child_ne_nil _ _
  rw [exportStructural, run_bind, run_bind, ExportAction.run_ask, ExportAction.run_ask]
  rcases listing : state.files.listFiles (exporter.project.sourcePath kernel) with failure | found <;>
    rcases also : another.files.listFiles (exporter.project.sourcePath kernel) with other | others <;>
    rw [listing, also] at listed
  · refine .stopped ?_ rfl rfl rfl rfl
    rw [reachesCore_iff_of_structural finds structural]
    simp [listing]
  · cases listed
  · cases listed
  · obtain rfl := Option.some.inj listed
    have comes : exporter.ComesToCore name transfer state kernel _ transfer state :=
      .structural finds structural listing
    have alike := alike_renderStructural setting provides apart finds comes
      (congrArg (fun path => [path]) (Path.ofText_text written))
    exact .reached ⟨_, _, _, _, comes⟩ alike.result alike.states

/-- When the workspaces are removed, what is left is what has changed in the core. -/
theorem changesAlike_removeTree {mine theirs : FileSystem}
    (same : SameWorkspace place.location state.files another.files first.files second.files)
    (changes : ChangesAlike (state.files.InCore target (Core.ofKernel name).directory)
      (first.files.opening target) second.files mine theirs) :
    ChangesAlike (state.files.InCore target (Core.ofKernel name).directory)
      (state.files.opening target) another.files
      ((removeTree exporter.workspace).run mine).2 ((removeTree exporter.workspace).run theirs).2 := by
  have touched := touched_of_apart apart
  have vacant := vacant_of_apart setting apart
  obtain ⟨opening, beside⟩ := setting.opening_beside same.changes.onLeft
  have touchedOpened := (differsIn_opening state.files target place.location).trans
    (opening.mono .inl)
  have here := within_self place.location
  have outside : ¬state.files.InCore target (Core.ofKernel name).directory place.location :=
    fun inCore => by
      rw [provides.clear.not_within inCore] at here
      cases here
  have standing : mine.get? place.location = some .directory := by
    rw [changes.onLeft.outside outside, (beside here).2, same.standing]
  have standingToo : theirs.get? place.location = some .directory := by
    rw [changes.onRight.outside outside, same.standingRight]
  have vacantOpened : (state.files.opening target).get? place.location = none :=
    (beside here).1.trans setting.vacant
  rw [setting.run_removeTree (touchedOpened.trans (changes.onLeft.mono InCore.touches)) standing,
    setting.run_removeTree
      ((same.touchedRight touched).trans (changes.onRight.mono InCore.touches)) standingToo]
  refine ⟨differsIn_erase vacantOpened opening changes.onLeft,
    differsIn_erase vacant same.changes.onRight changes.onRight, fun {location} inside => ?_⟩
  have kept : ∀ {now : FileSystem}, (now.erase place.location).get? location = now.get? location :=
    fun {now} => by
      rw [get?_erase, if_neg fun gone => by rw [provides.clear.not_within inside] at gone; cases gone.2]
  rw [kept, kept, changes.same inside]

omit setting provides apart in
/-- An export with synthesis, once the kernel is described and the workspace is made. -/
theorem run_exportSynthesized {made : FileSystem} {hardware : Except ExportError KernelDescriptor}
    (description : (exporter.describe kernel).run state = (.ok descriptor, described))
    (making : described.files.createDirectory exporter.workspace = .ok made)
    (synthesis : (exporter.synthesize kernel descriptor).run { described with files := made } =
      (hardware, present)) :
    (exporter.exportSynthesized exporter.renderCore kernel target).run state =
      let ended := match hardware with
        | .ok hardware => (exporter.renderCore kernel hardware target .copy >>= fun _ =>
            exporter.keepWorkspace kernel target).run present
        | .error failure => (.error failure, present)
      (ended.1, { ended.2 with
        files := ((removeTree exporter.workspace).run ended.2.files).2 }) := by
  rw [exportSynthesized, run_bind, description]
  simp only []
  rw [run_withWorkspace, making]
  simp only []
  rw [exportFromWorkspace, run_bind, synthesis]
  cases hardware <;> rfl

/-- An export with synthesis ends alike. -/
theorem twinEnds_synthesized (stays : exporter.runner.StaysBelow)
    (reproducible : exporter.runner.Reproducible) (noLinks : exporter.runner.LeavesNoLinks)
    (finds : exporter.Finds name kernel) (synthesized : kernel.source.isStructural = false) :
    TwinEnds (state.files.InCore target (Core.ofKernel name).directory)
      (exporter.ReachesCore name transfer state) state.files (state.files.opening target)
      another.files
      ((exporter.exportSynthesized exporter.renderCore kernel target).run state)
      ((exporter.exportSynthesized exporter.renderCore kernel target).run another) := by
  have touched := touched_of_apart apart
  have vacant := vacant_of_apart setting apart
  have isName : IsName kernel.name := by
    rw [(Configuration.kernel?_eq_some finds.kernel).2]
    exact provides.isName
  have sources := provides.sources finds
  have declares : ∀ listed interface, exporter.Declares kernel another.files listed interface ↔
      exporter.Declares kernel state.files listed interface := fun listed interface =>
    ⟨.of_furnished isName sources touched (.refl _), .of_furnished isName sources (.refl _) touched⟩
  have reaches : exporter.ReachesCore name transfer state ↔ _ :=
    reachesCore_iff_of_synthesized finds synthesized
  rcases (alike_describe declares).cases with
    ⟨descriptor, described, describedToo, description, descriptionToo, files, filesToo⟩ |
    ⟨failure, other, described, describedToo, description, descriptionToo, files, filesToo⟩
  · obtain ⟨left, right, making, makingToo, same⟩ :=
      createDirectory_workspace setting touched vacant
    rw [← files] at making
    rw [← filesToo] at makingToo
    have only : (Dictionary.mk descriptor.fields).sources = [exporter.project.sourcePath kernel] :=
      (name_of_describe description).2
    have synthesis : Alike (fun left right =>
          SameWorkspace place.location state.files another.files left.files right.files)
        (exporter.synthesize kernel descriptor) (exporter.synthesize kernel descriptor)
        { described with files := left } { describedToo with files := right } :=
      SameWorkspace.alike_synthesize setting touched same stays reproducible noLinks
        (provides.build finds synthesized description)
        (by rw [only]; exact List.forall_mem_singleton.2 sources)
    rcases synthesis.cases with ⟨hardware, present, presentToo, ran, also, same⟩ |
      ⟨failure, other, present, presentToo, ran, also, same⟩
    · have comes : exporter.ComesToCore name transfer state kernel hardware .copy present :=
        .synthesized finds synthesized description making ran
      have alike := alike_fromCore setting provides apart comes synthesized same
      rw [run_exportSynthesized description making ran,
        run_exportSynthesized descriptionToo makingToo also]
      exact .reached ⟨_, _, _, _, comes⟩ alike.result
        (changesAlike_removeTree setting provides apart same alike.states)
    · rw [run_exportSynthesized description making ran,
        run_exportSynthesized descriptionToo makingToo also]
      refine .stopped ?_ rfl rfl ?_ ?_
      · rw [reaches]
        simp [coreState, description, making, ran, Except.toOption]
      · simp only []
        rw [setting.run_removeTree same.touchedLeft same.standing]
        exact erase_eq setting.vacant same.changes.onLeft
      · simp only []
        rw [setting.run_removeTree (same.touchedRight touched) same.standingRight]
        exact erase_eq vacant same.changes.onRight
  · rw [exportSynthesized, run_bind, run_bind, description, descriptionToo]
    refine .stopped ?_ rfl rfl files filesToo
    rw [reaches]
    simp [coreState, description, Except.toOption]

omit setting provides apart in
theorem TwinEnds.then_pure {Result Next : Type} {region : Location → Prop} {comes : Prop}
    {before opened other : FileSystem} {action : ExportAction Result}
    (ends : TwinEnds region comes before opened other (action.run first) (action.run second))
    (value : Next) :
    TwinEnds region comes before opened other ((action >>= fun _ => pure value).run first)
      ((action >>= fun _ => pure value).run second) := by
  have answers : ∀ state, (action >>= fun _ => pure value).run state =
      ((action.run state).1.map fun _ => value, (action.run state).2) := fun state => by
    rw [run_bind]
    rcases action.run state with ⟨_ | _, _⟩ <;> rfl
  have toOption : ∀ result : Except ExportError Result,
      (result.map fun _ => value).toOption = result.toOption.map fun _ => value := by
    rintro (_ | _) <;> rfl
  rw [answers, answers]
  cases ends with
  | stopped never none noneToo kept keptToo =>
    exact .stopped never (by rw [toOption, none]; rfl) (by rw [toOption, noneToo]; rfl) kept keptToo
  | reached comes same changes => exact .reached comes (by rw [toOption, toOption, same]) changes

/-- The exports of a kernel from two states end alike. -/
theorem twinEnds_exportKernel (stays : exporter.runner.StaysBelow)
    (reproducible : exporter.runner.Reproducible) (noLinks : exporter.runner.LeavesNoLinks) :
    TwinEnds (state.files.InCore target (Core.ofKernel name).directory)
      (exporter.ReachesCore name transfer state) state.files (state.files.opening target)
      another.files ((exporter.exportKernel name (some target) transfer).run state)
      ((exporter.exportKernel name (some target) transfer).run another) := by
  by_cases found : ∃ kernel, exporter.Finds name kernel
  · obtain ⟨kernel, finds⟩ := found
    have ran : ∀ state, (exporter.exportKernel name (some target) transfer).run state =
        (exporter.exportCore exporter.renderCore kernel target transfer >>= fun _ =>
          pure target).run state := fun state => exporter.run_exportKernelWith state finds ..
    rw [ran, ran]
    refine .then_pure ?_ target
    by_cases structural : kernel.source.isStructural = true
    · rw [exportCore, if_pos structural]
      exact twinEnds_structural setting provides apart finds structural
    · rw [exportCore, if_neg structural]
      exact twinEnds_synthesized setting provides apart stays reproducible noLinks finds
        (Bool.eq_false_iff.2 structural)
  · have missing := not_exists.1 found
    obtain ⟨failure, stops⟩ := exporter.stops_of_missing state missing
    obtain ⟨other, stopsToo⟩ := exporter.stops_of_missing another missing
    rw [exportKernel, stops.run, stopsToo.run]
    refine .stopped ?_ rfl rfl rfl rfl
    rintro ⟨kernel, _, _, _, comes⟩
    exact missing kernel comes.finds

end Twin

/-! ### Exports from the same files -/

section SameFiles

variable (same : first.files = second.files)

include same

theorem alike_onFiles_of_files {Failure Result : Type} (meaning : Failure → ExportError)
    (action : ExceptT Failure (StateM FileSystem) Result) :
    Alike (fun left right => left.files = right.files) (onFiles meaning action)
      (onFiles meaning action) first second :=
  alike_onFiles (by rw [same]; exact ⟨rfl, rfl⟩)

theorem alike_synthesize_of_files :
    Alike (fun left right => left.files = right.files) (exporter.synthesize kernel descriptor)
      (exporter.synthesize kernel descriptor) first second := by
  have renders : exporter.renderWorkspace kernel descriptor =
      onFiles (.template (some kernel.name)) (TemplateAction.render ⟨descriptor.fields⟩ .copy
        (exporter.project.templatePath synthesisSet) exporter.workspace) := rfl
  rw [synthesize, renders]
  refine Alike.bind (alike_onFiles_of_files same _ _) fun _ _ _ _ _ same => ?_
  refine Alike.bind (.of_runs (exporter.run_runTool ..) (exporter.run_runTool ..) ?_ ?_)
    fun _ _ _ _ _ same => Alike.get ?_
  · rw [same]
  · simp only [same]
  · rw [same]
    split
    · exact Alike.bind (alike_onFiles_of_files same _ _) fun _ _ _ _ _ same => ⟨rfl, same⟩
    · exact ⟨rfl, same⟩

theorem alike_withWorkspace_of_files {Result : Type} {action : ExportAction Result}
    (alike : ∀ {first second : ExportState}, first.files = second.files →
      Alike (fun left right => left.files = right.files) action action first second)
    (workspace : Path) :
    Alike (fun left right => left.files = right.files) (withWorkspace workspace action)
      (withWorkspace workspace action) first second := by
  have ran := run_withWorkspace workspace action first
  have also := run_withWorkspace workspace action second
  rw [← same] at also
  cases making : first.files.createDirectory workspace with
  | error failure =>
    rw [making] at ran also
    exact .of_runs ran also rfl same
  | ok made =>
    rw [making] at ran also
    have inner : Alike (fun left right => left.files = right.files) action action
      { first with files := made } { second with files := made } := alike rfl
    exact .of_runs ran also inner.result (by simp only [inner.states])

theorem alike_renderCore_of_files :
    Alike (fun left right => left.files = right.files)
      (exporter.renderCore kernel descriptor target way)
      (exporter.renderCore kernel descriptor target way) first second := by
  have renders : exporter.renderCore kernel descriptor target way =
      onFiles (.template (some kernel.name)) (TemplateAction.render ⟨descriptor.fields⟩ way
        (exporter.project.templatePath coreSet) target) := rfl
  rw [renders]
  exact alike_onFiles_of_files same _ _

theorem alike_keepWorkspace_of_files :
    Alike (fun left right => left.files = right.files)
      (exporter.keepWorkspace kernel target) (exporter.keepWorkspace kernel target) first second := by
  have keeps : exporter.keepWorkspace kernel target =
      onFiles (.files (keptPath kernel target)) (removeTree (keptPath kernel target)) >>= fun _ =>
        onFiles (.files (keptPath kernel target))
          (overlay .copy exporter.workspace (keptPath kernel target)) := rfl
  rw [keeps]
  exact Alike.bind (alike_onFiles_of_files same _ _)
    fun _ _ _ _ _ same => alike_onFiles_of_files same _ _

/-- What an export comes to is told by the files. -/
theorem alike_exportKernel_of_files (directory : Option Path) :
    Alike (fun left right => left.files = right.files) (exporter.exportKernel name directory transfer)
      (exporter.exportKernel name directory transfer) first second := by
  refine Alike.bind (.of_runs (exporter.run_checkTool _) (exporter.run_checkTool _) rfl same)
    fun _ _ _ _ _ same => ?_
  refine Alike.bind (.of_runs (exporter.run_kernelNamed _ _) (exporter.run_kernelNamed _ _) rfl same)
    fun kernel present now _ _ same => ?_
  refine Alike.bind ?_ fun _ _ _ _ _ same => ⟨rfl, same⟩
  rw [exportCore]
  split
  · rw [exportStructural]
    exact Alike.bind (alike_onFiles_of_files same _ _) fun _ _ _ _ _ same =>
      alike_renderCore_of_files same
  · rw [exportSynthesized]
    have described : Alike (fun left right => left.files = right.files) (exporter.describe kernel)
        (exporter.describe kernel) present now :=
      (alike_describe fun _ _ => by rw [same]).mono fun kept => kept.1.trans (same.trans kept.2.symm)
    refine Alike.bind described fun _ _ _ _ _ same =>
      alike_withWorkspace_of_files same (fun same => ?_) _
    rw [exportFromWorkspace]
    refine Alike.bind (alike_synthesize_of_files same) fun hardware _ _ _ _ same => ?_
    exact Alike.bind (alike_renderCore_of_files same) fun _ _ _ _ _ same =>
      alike_keepWorkspace_of_files same

end SameFiles

end Exporter

end KernelExport
