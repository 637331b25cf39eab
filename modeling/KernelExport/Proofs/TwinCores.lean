/-
This file says that the core of a kernel comes out the same on two file systems in which the same
stands where it goes, whatever else stands there.

The template set of cores holds nothing but one directory, which is rendered to the directory of the
core (`CoreSet`). So all that is rendered lies there, and so does the workspace that is kept. The path
of the directory for output leads to it on both, whatever stands in the core (`CoreSite`).
-/

import KernelExport.Proofs.AbreastRuns
import KernelExport.Proofs.CoreNames

namespace KernelExport

open FileSystem FileAction

namespace FileSystem

/-- A path leads to a set of templates on all file systems of some kind: to a directory that holds
nothing but the one that is rendered to a core. -/
structure CoreSet (kind : FileSystem → Prop) (template : Path) (base : FileSystem)
    (shelf : Location) : Prop where
  askable : expectPath template = .ok ()
  holds : ∀ ⦃files⦄, kind files → files.Holds base template shelf
  names : base.names shelf = [coreEntry]
  directory : base.get? (coreEntry :: shelf) = some .directory

/-- A path leads to the same directory in two file systems, whatever stands in a core there. In both
the same stands in the core, and none of it is a link. -/
structure CoreSite (target : Path) (site : Location) (core : String) (first second : FileSystem) :
    Prop where
  opens : ∀ {files}, DiffersIn (within (core :: site) · = true) first files ∨
    DiffersIn (within (core :: site) · = true) second files → files.OpensAt target site
  standingFirst : first.get? site = some .directory
  standingSecond : second.get? site = some .directory
  same : ∀ {location}, within (core :: site) location = true →
    second.get? location = first.get? location
  unlinked : ∀ {location}, within (core :: site) location = true →
    ∀ target, first.get? location ≠ some (.link target)

variable {target template : Path} {site shelf : Location} {core : String}
  {first second left right base : FileSystem} {transfer : Transfer}

theorem CoreSet.mono {kind fewer : FileSystem → Prop} (set : CoreSet kind template base shelf)
    (among : ∀ ⦃files⦄, fewer files → kind files) : CoreSet fewer template base shelf :=
  ⟨set.askable, fun _ ofKind => set.holds (among ofKind), set.names, set.directory⟩

/-- The core has a name if what the names of the set render to are names. -/
theorem CoreSet.isName {kind : FileSystem → Prop} {dictionary : Dictionary}
    (set : CoreSet kind template base shelf) (names : dictionary.NamesIn base shelf)
    (rendering : dictionary.render coreEntry = .ok core) : IsName core := by
  have stands : base.get? (coreEntry :: [] ++ shelf) ≠ none := by simp [set.directory]
  exact names stands (by decide) rendering

namespace CoreSite

variable (coreSite : CoreSite target site core first second)

include coreSite

/-- Nothing has changed yet. -/
theorem changesAlike : ChangesAlike (within (core :: site) · = true) first second first second :=
  ⟨.refl first, .refl second, coreSite.same⟩

/-- What has changed in the core is still a core. -/
theorem of_changesAlike
    (changes : ChangesAlike (within (core :: site) · = true) first second left right)
    (unlinked : ∀ {location}, within (core :: site) location = true →
      ∀ target, left.get? location ≠ some (.link target)) :
    CoreSite target site core left right where
  opens differs := coreSite.opens (differs.imp changes.onLeft.trans changes.onRight.trans)
  standingFirst := by
    rw [changes.onLeft.outside (not_within_parent core site), coreSite.standingFirst]
  standingSecond := by
    rw [changes.onRight.outside (not_within_parent core site), coreSite.standingSecond]
  same := changes.same
  unlinked := unlinked

/-- Once the directory of the core stands, steps below it go by names from there. -/
def tandem (transfer : Transfer) (isName : IsName core) (sayable : Sayable target core)
    (standing : first.get? (core :: site) = some .directory) : Tandem where
  root := target.child core
  site := core :: site
  transfer := transfer
  first := first
  second := second
  askable := sayable.1
  opens differs := by
    rename_i files
    have found : files.get? (core :: site) = some .directory := by
      rcases differs with differs | differs <;> rw [differs.outside fun below => below.1 rfl]
      · exact standing
      · rw [coreSite.same (within_self _), standing]
    exact (coreSite.opens (differs.imp .of_below .of_below)).child isName
      (files.get?_parent (Option.ne_none_iff_exists'.2 ⟨_, found⟩)) sayable found
  standingFirst := standing
  standingSecond := (coreSite.same (within_self _)).trans standing

/-- The directory of the core is made in both, or in none of them. -/
theorem createDirectories_cases (isName : IsName core) :
    (∃ failure, (createDirectories (target.child core)).run first = (.error failure, first) ∧
      (createDirectories (target.child core)).run second = (.error failure, second)) ∨
    ∃ left right, (createDirectories (target.child core)).run first = (.ok (), left) ∧
      (createDirectories (target.child core)).run second = (.ok (), right) ∧
      ChangesAlike (within (core :: site) · = true) first second left right ∧
      CoreSite target site core left right ∧ Sayable target core ∧
      left.get? (core :: site) = some .directory := by
  have here := within_self (core :: site)
  have ran := run_createDirectories_child (coreSite.opens (.inl (.refl first))) isName
    coreSite.standingFirst fun target _ _ linked => absurd linked (coreSite.unlinked here target)
  have also := run_createDirectories_child (coreSite.opens (.inr (.refl second))) isName
    coreSite.standingSecond fun target _ _ linked =>
      absurd ((coreSite.same here).symm.trans linked) (coreSite.unlinked here target)
  rw [coreSite.same here] at also
  by_cases sayable : Sayable target core
  · rw [if_pos sayable] at ran also
    cases found : first.get? (core :: site) with
    | none =>
      rw [found] at ran also
      have free : first.Free site core := ⟨coreSite.standingFirst, by simp [found], isName⟩
      have freeToo : second.Free site core :=
        ⟨coreSite.standingSecond, by simp [coreSite.same here, found], isName⟩
      have elsewhere : ∀ {location}, ¬within (core :: site) location = true →
          location ≠ core :: site := by
        rintro location outside rfl
        exact outside here
      have changes : ChangesAlike (within (core :: site) · = true) first second
          (first.put site core .directory) (second.put site core .directory) := by
        refine ⟨⟨workingDirectory_put .., fun outside => get?_put_of_ne _ _ (elsewhere outside)⟩,
          ⟨workingDirectory_put .., fun outside => get?_put_of_ne _ _ (elsewhere outside)⟩,
          fun {location} inside => ?_⟩
        by_cases self : location = core :: site
        · rw [self, get?_put_self _ free, get?_put_self _ freeToo]
        · rw [get?_put_of_ne _ _ self, get?_put_of_ne _ _ self, coreSite.same inside]
      refine .inr ⟨_, _, ran, also, changes, coreSite.of_changesAlike changes
        fun {location} inside target linked => ?_, sayable, get?_put_self _ free⟩
      by_cases self : location = core :: site
      · rw [self, get?_put_self _ free] at linked
        cases linked
      · rw [get?_put_of_ne _ _ self] at linked
        exact coreSite.unlinked inside target linked
    | some entry =>
      rw [found] at ran also
      cases entry with
      | directory =>
        exact .inr ⟨first, second, ran, also, coreSite.changesAlike, coreSite, sayable, found⟩
      | file content => exact .inl ⟨_, ran, also⟩
      | link target => exact absurd found (coreSite.unlinked here target)
  · rw [if_neg sayable] at ran also
    exact .inl ⟨_, ran, also⟩

/-! ### Below the core -/

section Below

variable (isName : IsName core) (sayable : Sayable target core)
  (standing : first.get? (core :: site) = some .directory)

theorem abreast : (coreSite.tandem transfer isName sayable standing).Abreast (core :: site) first
    second :=
  ⟨.refl first, .refl second, fun below => coreSite.same below.2,
    fun below linked => absurd linked (coreSite.unlinked below.2 _), standing⟩

/-- After copies there is still a core. -/
theorem of_abreast
    (abreast : (coreSite.tandem .copy isName sayable standing).Abreast (core :: site) left right) :
    CoreSite target site core left right :=
  coreSite.of_changesAlike (abreast.changesAlike)
    fun inside => abreast.linkless rfl inside

/-- A tree that both sides hold is laid over a directory in the core. -/
theorem alike_overlay {source : Path} {name : String} (isNext : IsName name)
    (holds : ∀ ⦃files⦄, DiffersIn (within (core :: site) · = true) first files ∨
      DiffersIn (within (core :: site) · = true) second files → files.Holds base source shelf)
    (apart : ∀ names, ¬within (core :: site) (names ++ shelf) = true)
    (abreast : (coreSite.tandem .copy isName sayable standing).Abreast (core :: site) left right) :
    Alike ((coreSite.tandem .copy isName sayable standing).Abreast (core :: site))
      (overlay .copy source ((target.child core).child name))
      (overlay .copy source ((target.child core).child name)) left right := by
  have enters : (coreSite.tandem .copy isName sayable standing).Enters (target.child core)
    (core :: site) := .root
  have kind : ∀ ⦃files⦄, (coreSite.tandem .copy isName sayable standing).Admits files →
      files.Holds base source shelf := fun _ admitted => holds (admitted.imp .of_below .of_below)
  have outside : ∀ names, ¬Below (coreSite.tandem .copy isName sayable standing).site
      (names ++ shelf) := fun names below => apart names below.2
  exact Tandem.alike_overlayWithin pathLimit enters isNext abreast kind outside

end Below

/-! ### Rendering a core -/

/-- All that differs from one of two file systems in a core only. -/
def Admits (_ : CoreSite target site core first second) (files : FileSystem) : Prop :=
  DiffersIn (within (core :: site) · = true) first files ∨
    DiffersIn (within (core :: site) · = true) second files

theorem admits_of_tandem (inner : CoreSite target site core left right)
    (changes : ChangesAlike (within (core :: site) · = true) first second left right)
    (isName : IsName core) (sayable : Sayable target core)
    (standing : left.get? (core :: site) = some .directory) {files : FileSystem}
    (admitted : (inner.tandem transfer isName sayable standing).Admits files) :
    coreSite.Admits files :=
  admitted.imp (fun differs => changes.onLeft.trans differs.of_below)
    fun differs => changes.onRight.trans differs.of_below

end CoreSite

open TemplateAction in
/-- The set of a core is rendered as the one directory that it holds. -/
theorem CoreSet.run_renderEntries {kind : FileSystem → Prop} {files : FileSystem}
    {dictionary : Dictionary} (set : CoreSet kind template base shelf) (ofKind : kind files)
    (rendering : dictionary.render coreEntry = .ok core) (levels : Nat) :
    (renderEntries dictionary transfer levels template target).run files =
      if Sayable template coreEntry then
        (renderWithin dictionary transfer levels (template.child coreEntry) (target.child core)).run
          files
      else (.error (.files (template.child coreEntry) .nameTooLong), files) := by
  have holds := set.holds ofKind
  have isName : IsName coreEntry := by decide
  have read : files.readDirectory template = .ok [coreEntry] := by
    rw [holds.readDirectory, set.askable, set.names]
    rfl
  rw [renderEntries, run_bind, TemplateAction.onFiles, run_adapt, FileAction.run_ask, read]
  simp only [mapError_ok]
  rw [run_forM_singleton, if_neg (by decide), run_bind, run_meaning, rendering]
  simp only [mapError_ok]
  rw [run_bind, run_get]
  simp only [holds.isDirectory_child isName, set.directory, and_true]
  by_cases sayable : Sayable template coreEntry
  · simp only [sayable, decide_true, if_true]
    rfl
  · simp only [sayable, decide_false, Bool.false_eq_true, if_false]
    rw [renderFile, run_bind, TemplateAction.onFiles, run_adapt, FileAction.run_ask,
      holds.readFile_child isName, if_neg sayable]
    rfl

namespace CoreSite

variable (coreSite : CoreSite target site core first second)

open TemplateAction in
/-- The core is rendered alike. If that succeeds by copies, there is a core to go on with. -/
theorem alike_renderEntries {dictionary : Dictionary} (isName : IsName core)
    (set : CoreSet coreSite.Admits template base shelf) (names : dictionary.NamesIn base shelf)
    (rendering : dictionary.render coreEntry = .ok core)
    (sources : ∀ source ∈ dictionary.sources,
      Furnished coreSite.Admits (within (core :: site) · = true) source) (levels : Nat) :
    Alike (ChangesAlike (within (core :: site) · = true) first second)
        (renderEntries dictionary transfer (levels + 1) template target)
        (renderEntries dictionary transfer (levels + 1) template target) first second ∧
      ∀ {after later}, transfer = .copy →
        (renderEntries dictionary transfer (levels + 1) template target).run first =
          (.ok (), after) →
        (renderEntries dictionary transfer (levels + 1) template target).run second =
          (.ok (), later) →
        CoreSite target site core after later ∧ Sayable target core ∧
          after.get? (core :: site) = some .directory := by
  have admitsFirst : coreSite.Admits first := .inl (.refl first)
  have admitsSecond : coreSite.Admits second := .inr (.refl second)
  have onFirst : (renderEntries dictionary transfer (levels + 1) template target).run first = _ :=
    set.run_renderEntries admitsFirst rendering (levels + 1)
  have onSecond : (renderEntries dictionary transfer (levels + 1) template target).run second = _ :=
    set.run_renderEntries admitsSecond rendering (levels + 1)
  by_cases entered : Sayable template coreEntry
  · rw [if_pos entered, renderWithin_succ, run_bind, TemplateAction.onFiles, run_adapt] at onFirst
    rw [if_pos entered, renderWithin_succ, run_bind, TemplateAction.onFiles, run_adapt] at onSecond
    rcases coreSite.createDirectories_cases isName with ⟨failure, fails, failsToo⟩ |
      ⟨left, right, made, madeToo, changes, inner, sayable, standing⟩
    · rw [fails] at onFirst
      rw [failsToo] at onSecond
      exact ⟨.of_runs onFirst onSecond rfl coreSite.changesAlike,
        fun _ ran => by rw [onFirst] at ran; cases ran⟩
    · rw [made] at onFirst
      rw [madeToo] at onSecond
      simp only [mapError_ok] at onFirst onSecond
      have isEntry : IsName coreEntry := by decide
      have admits : ∀ ⦃files⦄, (inner.tandem transfer isName sayable standing).Admits files →
          coreSite.Admits files :=
        fun files => coreSite.admits_of_tandem inner changes isName sayable standing
      have inside : (inner.tandem transfer isName sayable standing).Abreast (core :: site) left
          right := inner.abreast isName sayable standing
      have alike : Alike ((inner.tandem transfer isName sayable standing).Abreast (core :: site))
          (renderEntries dictionary transfer levels (template.child coreEntry) (target.child core))
          (renderEntries dictionary transfer levels (template.child coreEntry) (target.child core))
          left right :=
        Tandem.alike_renderEntries levels .root inside
          (fun _ admitted => (set.holds (admits admitted)).child isEntry entered set.directory)
          (Tandem.namesIn_child names coreEntry)
          fun source isSource => (sources source isSource).mono admits fun below => below.2
      refine ⟨?_, fun copies ran also => ?_⟩
      · have whole := alike.mono fun abreast =>
          changes.trans (abreast.changesAlike)
        exact ⟨by rw [onFirst, onSecond]; exact whole.result,
          by rw [onFirst, onSecond]; exact whole.states⟩
      · subst copies
        rw [onFirst] at ran
        rw [onSecond] at also
        have last := alike.states
        rw [ran, also] at last
        exact ⟨inner.of_abreast isName sayable standing last, sayable, last.standing⟩
  · rw [if_neg entered] at onFirst onSecond
    exact ⟨.of_runs onFirst onSecond rfl coreSite.changesAlike,
      fun _ ran => by rw [onFirst] at ran; cases ran⟩

end CoreSite

/-! ### Opening the directory for output -/

/-- Opening a directory comes to the same on two file systems, of which the second one does not change
any more. If it succeeds the directory has a core on both; otherwise nothing is rendered there. -/
inductive TwinOpening (target : Path) (core : String) (before other : FileSystem) :
    FileSystem → (Location → Prop) → Prop
  | failed {failure another : FileError} {opened : FileSystem} :
    (createDirectories target).run before = (.error failure, opened) →
    (createDirectories target).run other = (.error another, other) →
    TwinOpening target core before other opened fun _ => False
  | opened {opened : FileSystem} {site : Location} :
    (createDirectories target).run before = (.ok (), opened) →
    (createDirectories target).run other = (.ok (), other) →
    CoreSite target site core opened other →
    TwinOpening target core before other opened (within (core :: site) · = true)

open TemplateAction in
/-- A core is rendered alike on two file systems. If that succeeds by copies, there is a core to go on
with. -/
theorem TwinOpening.alike_render {before other opened : FileSystem} {region : Location → Prop}
    {dictionary : Dictionary} (twin : TwinOpening target core before other opened region)
    (transfer : Transfer) (isName : IsName core)
    (set : CoreSet (fun files => DiffersIn region opened files ∨ DiffersIn region other files) template
      base shelf)
    (stands : before.isDirectory template = true) (standsToo : other.isDirectory template = true)
    (names : dictionary.NamesIn base shelf) (rendering : dictionary.render coreEntry = .ok core)
    (sources : ∀ source ∈ dictionary.sources, Furnished
      (fun files => DiffersIn region opened files ∨ DiffersIn region other files) region source) :
    Alike (ChangesAlike region opened other) (render dictionary transfer template target)
        (render dictionary transfer template target) before other ∧
      ∀ {after later}, transfer = .copy →
        (render dictionary transfer template target).run before = (.ok (), after) →
        (render dictionary transfer template target).run other = (.ok (), later) →
        ∃ site, region = (within (core :: site) · = true) ∧ CoreSite target site core after later ∧
          Sayable target core ∧ after.get? (core :: site) = some .directory := by
  have ran := run_render dictionary transfer template target before
  have also := run_render dictionary transfer template target other
  rw [if_pos stands] at ran
  rw [if_pos standsToo] at also
  cases twin with
  | failed fails failsToo =>
    rw [fails] at ran
    rw [failsToo] at also
    exact ⟨.of_runs ran also rfl ⟨.refl opened, .refl other, fun impossible => impossible.elim⟩,
      fun _ done => by rw [ran] at done; cases done⟩
  | @opened _ site opens opensToo coreSite =>
    rw [opens] at ran
    rw [opensToo] at also
    obtain ⟨alike, copied⟩ := coreSite.alike_renderEntries isName set names rendering sources
      (pathLimit - 2)
    refine ⟨⟨by rw [ran, also]; exact alike.result, by rw [ran, also]; exact alike.states⟩,
      fun copies done doneToo => ?_⟩
    rw [ran] at done
    rw [also] at doneToo
    exact ⟨site, rfl, copied copies done doneToo⟩

end FileSystem

end KernelExport
