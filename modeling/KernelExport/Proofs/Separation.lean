/-
This file holds what keeps the exports of different kernels into one directory apart, and what it
means for opening that directory.

Exports touch their workspace, what lies below the directory that they export to, and directories that
are missing on the way there (`Touches`). The paths that they go by have to lead where they lead
whatever becomes of that (`Setting`, `Provides`). Then each export finds the directory alike, whether
another kernel has been exported before or not, and whether there is a workspace or not
(`Setting.twinOpening`).
-/

import KernelExport.Proofs.KeptWorkspace
import KernelExport.Proofs.Reopening
import KernelExport.Proofs.TwinCores

namespace KernelExport

open FileSystem FileAction

namespace FileSystem

/-- A location that exports into a directory may touch: it lies in their workspace or below the
directory, or it is that of a directory that is missing on the way there. -/
def Touches (files : FileSystem) (target : Path) (workspace location : Location) : Prop :=
  within workspace location = true ∨ files.InOutput target location ∨
    files.OnTheWay target location

/-- A location lies in a core, in the directory that a path opens. -/
def InCore (files : FileSystem) (target : Path) (core : String) (location : Location) : Prop :=
  ∃ opened site, files.Opens target opened site ∧ within (core :: site) location = true

/-- A location lies below the directory that a path opens, but neither in a core nor in a workspace. -/
def Elsewhere (files : FileSystem) (target : Path) (workspace : Location) (core : String)
    (location : Location) : Prop :=
  files.InOutput target location ∧ within workspace location = false ∧
    ¬files.InCore target core location

/-- The files once the directory for output is made, as far as that can be done. -/
def opening (files : FileSystem) (target : Path) : FileSystem :=
  ((createDirectories target).run files).2

variable {files opened before other : FileSystem} {target : Path} {core : String}
  {workspace site location : Location}

theorem Opens.inOutput_iff (opens : files.Opens target opened site) :
    files.InOutput target location ↔ Below site location := by
  refine ⟨fun ⟨others, another, again, below⟩ => ?_, fun below => ⟨opened, site, opens, below⟩⟩
  obtain ⟨rfl, rfl⟩ := opens.unique again
  exact below

theorem Opens.inCore_eq (opens : files.Opens target opened site) (core : String) :
    files.InCore target core = (within (core :: site) · = true) := by
  funext location
  refine propext ⟨fun ⟨others, another, again, inside⟩ => ?_, fun inside =>
    ⟨opened, site, opens, inside⟩⟩
  obtain ⟨rfl, rfl⟩ := opens.unique again
  exact inside

theorem InCore.inOutput (inCore : files.InCore target core location) :
    files.InOutput target location := by
  obtain ⟨opened, site, opens, inside⟩ := inCore
  exact ⟨opened, site, opens, (below_cons core (within_self site)).of_within inside⟩

theorem InCore.touches (inCore : files.InCore target core location) :
    files.Touches target workspace location :=
  .inr (.inl inCore.inOutput)

/-- What changes in a core is touched. -/
theorem touched_of_inCore (touched : DiffersIn (files.Touches target workspace) files before)
    (touchedToo : DiffersIn (files.Touches target workspace) files other) {present : FileSystem}
    (differs : DiffersIn (files.InCore target core) before present ∨
      DiffersIn (files.InCore target core) other present) :
    DiffersIn (files.Touches target workspace) files present :=
  differs.elim (fun differs => touched.trans (differs.mono InCore.touches))
    fun differs => touchedToo.trans (differs.mono InCore.touches)

theorem not_inOutput_of_fails {failure : FileError}
    (fails : (createDirectories target).run files = (.error failure, opened)) :
    ¬files.InOutput target location := by
  rintro ⟨others, site, opens, -⟩
  rw [opens.run] at fails
  cases fails

/-- What is made on the way to the directory is touched. -/
theorem differsIn_opening (files : FileSystem) (target : Path) (workspace : Location) :
    DiffersIn (files.Touches target workspace) files (files.opening target) := by
  have makes := makes_createDirectories target files
  refine ⟨makes.more.workingDirectory, fun {location} untouched => ?_⟩
  exact (makes.made location).resolve_right fun ⟨missing, _, onTheWay⟩ =>
    untouched (.inr (.inr ⟨missing, onTheWay⟩))

theorem eq_of_differsIn_nowhere {region : Location → Prop} (differs : DiffersIn region before other)
    (nowhere : ∀ {location}, ¬region location) : other = before :=
  ext_get? (fun _ => differs.outside nowhere) differs.workingDirectory

end FileSystem

namespace Exporter

/-- What exports into a directory find whatever they touch: the working directory, the place for a
workspace, the directory itself and the template set of cores. Nothing mentions the name of the
workspace, and there are no links below the directory. -/
structure Setting (exporter : Exporter) (target : Path) (place : Placement) (shelf : Location)
    (files : FileSystem) : Prop where
  home : files.get? files.workingDirectory = some .directory
  workspace : ∀ ⦃present⦄, DiffersIn (files.Touches target place.location) files present →
    present.placement exporter.workspace = .ok (some place)
  vacant : files.get? place.location = none
  unmentioned : files.Unmentioned place.name target
  opens : ∀ ⦃opened site⦄, files.Opens target opened site → ∀ ⦃present⦄,
    DiffersIn (fun location => within place.location location = true ∨ Below site location) opened
      present → present.OpensAt target site
  unlinked : ∀ ⦃location path⦄, files.InOutput target location →
    files.get? location ≠ some (.link path)
  cores : CoreSet (DiffersIn (files.Touches target place.location) files)
    (exporter.project.templatePath coreSet) files shelf

/-- The workspace neither lies in a core nor holds one. -/
def Clear (files : FileSystem) (target : Path) (place : Placement) (core : String) : Prop :=
  ∀ ⦃opened site⦄, files.Opens target opened site →
    within (core :: site) place.location = false ∧ within place.location (core :: site) = false

variable {exporter : Exporter} {target : Path} {place : Placement} {shelf : Location}
  {files opened before other : FileSystem} {core : String} {location : Location}

/-- No location lies in the workspace and in the core. -/
theorem Clear.not_within (clear : Clear files target place core)
    (inCore : files.InCore target core location) : within place.location location = false := by
  obtain ⟨opened, site, opens, inside⟩ := inCore
  exact not_within_of_apart (clear opens).symm inside

namespace Setting

variable (setting : exporter.Setting target place shelf files)

include setting

theorem standing {site : Location} (opens : files.Opens target opened site) :
    opened.get? site = some .directory := by
  by_cases none : target.parts = []
  · obtain ⟨left, walk⟩ := opens.opensAt.walk
    rw [none, follow_nil] at walk
    obtain ⟨rfl, -⟩ := Prod.mk.inj (Except.ok.inj walk)
    rw [start]
    split
    · rfl
    · rw [opens.makes.more.workingDirectory]
      exact opens.makes.more.entry setting.home
  · exact opens.opensAt.directory none

/-- The path of the workspace leads to it wherever it stands. -/
theorem opensAt_workspace (touched : DiffersIn (files.Touches target place.location) files other)
    (standing : other.get? place.location = some .directory) :
    other.OpensAt exporter.workspace place.location :=
  ⟨⟨place.links, follow_of_placement (setting.workspace touched) standing⟩, fun _ => standing⟩

theorem askable_workspace : expectPath exporter.workspace = .ok () :=
  (placementFrom_eq_some_iff.1 (setting.workspace (.refl files))).1

/-- Making the directory for output comes to the same beside a workspace. -/
theorem opening_beside (mine : DiffersIn (within place.location · = true) files before) :
    DiffersIn (within place.location · = true) (files.opening target) (before.opening target) ∧
      ∀ {location}, within place.location location = true →
        (files.opening target).get? location = files.get? location ∧
          (before.opening target).get? location = before.get? location :=
  (setting.unmentioned.run_createDirectories mine rfl rfl).2

/-- The directory for output is made once and for all. -/
theorem unmentioned_opening : (files.opening target).Unmentioned place.name target where
  isName := setting.unmentioned.isName
  home := by
    rw [(differsIn_opening files target place.location).workingDirectory]
    exact setting.unmentioned.home
  path := setting.unmentioned.path
  linked isLink := setting.unmentioned.linked ((makes_createDirectories target files).linked isLink)

/-- If the directory for output cannot be made, nothing more is made the second time. -/
theorem run_createDirectories_failed {failure : FileError} {present : FileSystem}
    (fails : (createDirectories target).run files = (.error failure, opened))
    (theirs : DiffersIn (within place.location · = true) opened present) :
    ∃ another, (createDirectories target).run present = (.error another, present) := by
  obtain ⟨again, ranAgain, same⟩ := run_createDirectories_twice fails
  have isOpened : files.opening target = opened := congrArg Prod.snd fails
  have unmentioned := setting.unmentioned_opening
  rw [isOpened] at unmentioned
  rcases ran : (createDirectories target).run present with ⟨result, after⟩
  obtain ⟨alike, differs, kept⟩ := unmentioned.run_createDirectories theirs ranAgain ran
  have unchanged : after = present := by
    refine ext_get? (fun location => ?_)
      (differs.workingDirectory.trans theirs.workingDirectory.symm)
    cases inside : within place.location location with
    | true => exact (kept inside).2
    | false =>
      have outside : ¬within place.location location = true := Bool.eq_false_iff.1 inside
      rw [differs.outside outside, theirs.outside outside]
  rw [same] at alike
  cases result with
  | ok _ => cases alike
  | error another => exact ⟨another, by rw [unchanged]⟩

/-- In the directory for output there is the same core whether there is a workspace or not, and
whether something has changed elsewhere in the directory or not. -/
theorem coreSite_of_opens {site : Location} {made present : FileSystem}
    (clear : Clear files target place core) (opens : files.Opens target opened site)
    (mine : DiffersIn (within place.location · = true) opened made)
    (apart : DiffersIn (files.Elsewhere target place.location core) opened other)
    (theirs : DiffersIn (within place.location · = true) other present) :
    CoreSite target site core made present := by
  have below : ∀ {location}, within (core :: site) location = true → Below site location :=
    fun inside => (below_cons core (within_self site)).of_within inside
  have off : ∀ {location}, within (core :: site) location = true →
      ¬within place.location location = true := fun inside =>
    Bool.eq_false_iff.1 (clear.not_within ⟨opened, site, opens, inside⟩)
  have notInside : ¬within place.location site = true :=
    fun inside => off (within_self _) (within_parent inside)
  have otherwise : DiffersIn (fun location =>
      within place.location location = true ∨ Below site location) opened present :=
    (apart.mono fun inside => .inr (opens.inOutput_iff.1 inside.1)).trans (theirs.mono .inl)
  refine ⟨fun differed => setting.opens opens ?_, ?_, ?_, fun inside => ?_,
    fun {location} inside path linked => ?_⟩
  · rcases differed with differed | differed
    · exact (mine.mono .inl).trans (differed.mono fun inside => .inr (below inside))
    · exact otherwise.trans (differed.mono fun inside => .inr (below inside))
  · rw [mine.outside notInside, setting.standing opens]
  · rw [theirs.outside notInside,
      apart.outside fun inside => (opens.inOutput_iff.1 inside.1).1 rfl, setting.standing opens]
  · rw [theirs.outside (off inside), mine.outside (off inside), apart.outside fun elsewhere =>
      elsewhere.2.2 ⟨opened, site, opens, inside⟩]
  · rw [mine.outside (off inside)] at linked
    exact setting.unlinked ⟨opened, site, opens, below inside⟩ (opens.makes.linked linked)

/-- Opening the directory for output comes to the same whether there is a workspace or not, and
whether something has changed elsewhere in the directory or not. -/
theorem twinOpening (clear : Clear files target place core) {present : FileSystem}
    (mine : DiffersIn (within place.location · = true) files before)
    (apart : DiffersIn (files.Elsewhere target place.location core) (files.opening target) other)
    (theirs : DiffersIn (within place.location · = true) other present) :
    TwinOpening target core before present (before.opening target) (files.InCore target core) := by
  rcases ran : (createDirectories target).run files with ⟨result, opened⟩
  rcases also : (createDirectories target).run before with ⟨another, made⟩
  obtain ⟨alike, differs, -⟩ := setting.unmentioned.run_createDirectories mine ran also
  have isOpened : files.opening target = opened := congrArg Prod.snd ran
  have isMade : before.opening target = made := congrArg Prod.snd also
  rw [isOpened] at apart
  rw [isMade]
  cases result with
  | error failure =>
    have nowhere : ∀ {location}, ¬files.InOutput target location := not_inOutput_of_fails ran
    obtain rfl := eq_of_differsIn_nowhere apart fun inside => nowhere inside.1
    obtain ⟨last, failsToo⟩ := setting.run_createDirectories_failed ran theirs
    have noCore : files.InCore target core = fun _ => False :=
      funext fun _ => eq_false fun inside => nowhere inside.inOutput
    cases another with
    | ok _ => cases alike
    | error first =>
      rw [noCore]
      exact .failed also failsToo
  | ok _ =>
    obtain ⟨site, opensAt⟩ := exists_opensAt_of_createDirectories ran
    have opens : files.Opens target opened site := ⟨ran, opensAt⟩
    cases another with
    | error _ => cases alike
    | ok _ =>
      have coreSite := setting.coreSite_of_opens clear opens differs apart theirs
      rw [opens.inCore_eq]
      exact .opened also (run_createDirectories_again (coreSite.opens (.inr (.refl present)))
        coreSite.standingSecond (expectPath_of_createDirectories ran)) coreSite

end Setting

end Exporter

end KernelExport
