/-
This file says that a template set that is rendered into a directory stays in it.

Names are templates too, so whether it does is up to the names: one that renders to `..` or to an
absolute path leaves the directory. `InwardNames` asks of the names that a template set has that
each renders to a path without a step upwards, if it renders to anything; `OrdinaryNames` asks that
it renders to a name. While the set is rendered it may be read through links that lead into the very
directory that it is rendered to, so the names are those that can be met in any files that differ
from the present ones in that place only (`MetIn`).
-/

import KernelExport.Proofs.Opening
import KernelExport.Template.Directory

namespace KernelExport

namespace TemplateAction

open FileSystem FileAction

/-- A name is met in a directory of templates, while the files at a location and below it may be
anything. -/
def MetIn (site : Location) (files : FileSystem) (directory : Path) (name : String) : Prop :=
  name ≠ sourcesMarker ∧ ∃ present names, files.AgreesOff site present ∧
    present.readDirectory directory = .ok names ∧ name ∈ names

/-- A directory is entered when a template set is rendered. -/
inductive Entered (site : Location) (files : FileSystem) (set : Path) : Path → Prop
  | set : Entered site files set set
  | child {directory : Path} {name : String} : Entered site files set directory →
    MetIn site files directory name → Entered site files set (directory.child name)

/-- What the names in a template set render to are names. -/
def OrdinaryNames (site : Location) (files : FileSystem) (set : Path) (dictionary : Dictionary) :
    Prop :=
  ∀ {directory name rendered}, Entered site files set directory →
    MetIn site files directory name → dictionary.render name = .ok rendered → IsName rendered

/-- The text is a path that goes on from a directory without a step upwards. -/
def Inward (text : String) : Prop :=
  (Path.ofText text).isAbsolute = false ∧ ".." ∉ (Path.ofText text).segments

instance (text : String) : Decidable (Inward text) :=
  inferInstanceAs (Decidable (_ ∧ _))

theorem Inward.parts {text : String} (inward : Inward text) : ".." ∉ (Path.ofText text).parts :=
  fun up => inward.2 (List.mem_filter.1 up).1

/-- What the names in a template set render to goes on from a directory without a step upwards. -/
def InwardNames (site : Location) (files : FileSystem) (set : Path) (dictionary : Dictionary) :
    Prop :=
  ∀ ⦃directory name rendered⦄, Entered site files set directory →
    MetIn site files directory name → dictionary.render name = .ok rendered → Inward rendered

theorem inward_of_isName {name : String} (isName : IsName name) : Inward name := by
  have segments := Path.segments_ofText isName.2.2.2
  refine ⟨by rw [Path.isAbsolute, segments], ?_⟩
  rw [segments, List.mem_singleton]
  exact Ne.symm isName.2.2.1

theorem OrdinaryNames.inward {site : Location} {files : FileSystem} {set : Path}
    {dictionary : Dictionary} (ordinary : OrdinaryNames site files set dictionary) :
    InwardNames site files set dictionary :=
  fun _ _ _ entered met rendering => inward_of_isName (ordinary entered met rendering)

variable {files base : FileSystem} {root path : Path} {site location : Location}
  {name : String} {dictionary : Dictionary}

/-- A path is written for a directory that holds files only, all with names that are not too
long. -/
structure Flat (files : FileSystem) (set : Path) (location : Location) : Prop where
  spells : Spells set location
  directory : files.get? location = some .directory
  child : ∀ name ∈ files.names location, Spells (set.child name) (name :: location) ∧
    (files.get? (name :: location)).any (· matches .file _) = true

instance (files : FileSystem) (set : Path) (location : Location) :
    Decidable (Flat files set location) :=
  decidable_of_iff (_ ∧ _ ∧ _) ⟨fun ⟨spells, directory, child⟩ => ⟨spells, directory, child⟩,
    fun flat => ⟨flat.spells, flat.directory, flat.child⟩⟩

section Flat

variable {set : Path} (flat : Flat files set location)
  (apart : within site location = false ∧ within location site = false)

include flat apart

/-- The names that are met in a template set of files only are those of the files. -/
theorem Flat.mem_names (met : MetIn site files set name) : name ∈ files.names location := by
  obtain ⟨-, present, names, agrees, read, member⟩ := met
  have same := agrees.outside apart.1
  have resolved := resolve_of_spells flat.spells
    (by simp [same, flat.directory] : present.get? location ≠ none)
    (by simp [same, flat.directory])
  obtain ⟨reached, resolution, read⟩ := bind_eq_ok_iff.1 read
  obtain rfl := Except.ok.inj (resolved.symm.trans resolution)
  obtain ⟨_, -, read⟩ := bind_eq_ok_iff.1 read
  obtain rfl := Except.ok.inj read
  have outside : within site (name :: location) = false :=
    not_within_of_apart apart (within_parent (within_self location))
  rwa [FileSystem.mem_names, agrees.outside outside, ← FileSystem.mem_names] at member

/-- Nothing is met in a file. -/
theorem Flat.not_metIn_child {other : String} (member : name ∈ files.names location) :
    ¬MetIn site files (set.child name) other := by
  rintro ⟨-, present, names, agrees, read, -⟩
  obtain ⟨spells, isFile⟩ := flat.child name member
  have outside : within site (name :: location) = false :=
    not_within_of_apart apart (within_parent (within_self location))
  obtain ⟨content, same⟩ : ∃ content, present.get? (name :: location) = some (.file content) := by
    obtain ⟨entry, found, isFile⟩ := (Option.any_eq_true _ _).1 isFile
    cases entry with
    | link _ | directory => cases isFile
    | file content => exact ⟨content, (agrees.outside outside).trans found⟩
  have resolved := resolve_of_spells spells
    (by simp [same] : present.get? (name :: location) ≠ none) (by simp [same])
  obtain ⟨reached, resolution, read⟩ := bind_eq_ok_iff.1 read
  obtain rfl := Except.ok.inj (resolved.symm.trans resolution)
  obtain ⟨_, expected, -⟩ := bind_eq_ok_iff.1 read
  rw [expectDirectory_eq_ok_iff, same] at expected
  cases expected

/-- In a template set of files only, nothing is met but the files. -/
theorem MetIn.of_flat {directory : Path} (entered : Entered site files set directory)
    (met : MetIn site files directory name) :
    name ∈ files.names location ∧ name ≠ sourcesMarker := by
  have shallow : ∀ {entered}, Entered site files set entered →
      entered = set ∨ ∃ name ∈ files.names location, entered = set.child name := by
    intro directory entered
    induction entered with
    | set => exact .inl rfl
    | child _ met inductionHypothesis =>
      rcases inductionHypothesis with rfl | ⟨above, member, rfl⟩
      · exact .inr ⟨_, flat.mem_names apart met, rfl⟩
      · exact absurd met (flat.not_metIn_child apart member)
  rcases shallow entered with rfl | ⟨above, member, rfl⟩
  · exact ⟨flat.mem_names apart met, met.1⟩
  · exact absurd met (flat.not_metIn_child apart member)

end Flat

/-- In a template set of files only, the names that need be looked at are those of the files. -/
theorem InwardNames.of_flat {set : Path} (flat : Flat files set location)
    (apart : within site location = false ∧ within location site = false)
    (inward : ∀ name ∈ files.names location, name ≠ sourcesMarker →
      ∀ rendered ∈ (dictionary.render name).toOption, Inward rendered) :
    InwardNames site files set dictionary := by
  intro directory name rendered entered met rendering
  obtain ⟨member, notMarker⟩ := MetIn.of_flat flat apart entered met
  exact inward name member notMarker rendered (by rw [rendering]; rfl)

theorem run_meaning (dictionary : Dictionary) (path : Path) (text : String) (files : FileSystem) :
    (meaning dictionary path text).run files =
      ((dictionary.render text).mapError (.ofFault path), files) := by
  rw [meaning]
  cases dictionary.render text <;> rfl

/-- What is done to a directory once it stands: the entries of the template directory are rendered
into it. -/
def renderEntries (dictionary : Dictionary) (transfer : Transfer) (levels : Nat)
    (template target : Path) : TemplateAction Unit := do
  (← onFiles template (ask (·.readDirectory template))).forM fun name => do
    if name = sourcesMarker then
      dictionary.sources.forM fun source => onFiles source (overlay transfer source target)
    else
      let inner := template.child name
      let output := target.join (.ofText (← meaning dictionary inner name))
      if (← get).isDirectory inner then renderWithin dictionary transfer levels inner output
      else renderFile dictionary inner output

theorem renderWithin_succ (dictionary : Dictionary) (transfer : Transfer) (levels : Nat)
    (template target : Path) :
    renderWithin dictionary transfer (levels + 1) template target =
      onFiles target (createDirectories target) >>= fun _ =>
        renderEntries dictionary transfer levels template target := rfl

theorem refills_onFiles {origin : Location → Prop} {present : FileSystem}
    {action : FileAction Unit} {concerned : Path}
    (refills : Refills origin files path action present) :
    Refills origin files path (onFiles concerned action) present := by
  refine ⟨fun failed => ?_, fun done => refills.done (run_adapt_eq_ok_iff.1 done)⟩
  rw [onFiles, run_adapt] at failed
  obtain ⟨result, rfl⟩ := Prod.mk.inj failed
  obtain ⟨failure, failed, -⟩ := mapError_eq_error_iff.1 result
  exact refills.failed (Prod.ext failed rfl)

section Guard

variable {origin : Location → Prop} {relation : FileSystem → FileSystem → Prop}
  {sound : FileSystem → Prop} {more : List String} [IsPreorder FileSystem relation]
  (guard : Guard (Below site) origin relation sound) (opens : base.OpensAt root site)
  (tame : Tame (Below site) base) (kept : relation base files) (holds : sound files)

include guard opens tame kept holds

theorem upholds_replaceFile (content : ByteArray) (prolongs : path.Prolongs root more)
    (inward : ".." ∉ more) (ends : path.segments.getLast? = some "" ∨ more ≠ []) :
    Upholds relation sound (replaceFile path content) files := by
  have enters := enters_below site more
  have writes : ∀ present, (∀ place target, present.placement path = .ok (some place) →
      place.slashed = false → present.get? place.location ≠ some (.link target)) →
      Refills origin files path (onFiles path (change (·.writeFile path content))) present :=
    fun present unlinked => refills_onFiles (refills_writeFile unlinked)
  refine Upholds.get ?_
  split
  · refine upholds_refill guard opens tame kept holds prolongs inward enters ends
      (vacates_removeFile files path) fun present ran => writes present fun place target placed _ => ?_
    rw [onFiles, run_adapt_eq_ok_iff, run_change] at ran
    cases removed : files.removeFile path with
    | error failure =>
      simp only [removed] at ran
      cases (Prod.mk.inj ran).1
    | ok changed =>
      simp only [removed] at ran
      obtain ⟨-, rfl⟩ := Prod.mk.inj ran
      rw [missing_of_removeFile removed placed]
      simp
  · rename_i unlinked
    show Upholds relation sound ((pure () : TemplateAction Unit) >>= fun _ =>
      onFiles path (change (·.writeFile path content))) files
    refine upholds_refill guard opens tame kept holds prolongs inward enters ends .kept
      fun present ran => ?_
    obtain ⟨-, rfl⟩ := Prod.mk.inj ran
    refine writes files fun place target placed unslashed linked => ?_
    exact unlinked target ((standing_eq_ok_iff placed unslashed).2 linked)

theorem upholds_renderFile (template : Path) (prolongs : path.Prolongs root more)
    (inward : ".." ∉ more) (ends : path.segments.getLast? = some "" ∨ more ≠ []) :
    Upholds relation sound (renderFile dictionary template path) files := by
  refine Upholds.bind (upholds_ask holds _).adapt fun content after _ reached holdsAfter => ?_
  have keptAfter := IsTrans.trans _ _ _ kept reached
  cases String.fromUTF8? content with
  | some text =>
    have means : Upholds relation sound (meaning dictionary template text) after :=
      Upholds.of_eq (by rw [run_meaning]) holdsAfter
    exact Upholds.bind means.map fun rendered present _ same holdsNow =>
      upholds_replaceFile guard opens tame (IsTrans.trans _ _ _ keptAfter same) holdsNow _ prolongs
        inward ends
  | none => exact upholds_replaceFile guard opens tame keptAfter holdsAfter content prolongs inward ends

/-- Rendering the entries of a template directory into one that lies below the site, or is at the
site, upholds what each step does. -/
theorem upholds_renderEntries {initial : FileSystem} {set : Path} {transfer : Transfer}
    {supply : Path → Prop} {levels : Nat} {template : Path}
    (inwardNames : InwardNames site initial set dictionary)
    (agrees : initial.AgreesOff site base)
    (supplies : transfer = .link → Supplies relation base origin supply ∧
      ∀ source ∈ dictionary.sources, supply source)
    (entered : Entered site initial set template)
    (prolongs : path.Prolongs root more) (inward : ".." ∉ more)
    (deeper : ∀ {template output more files}, Entered site initial set template →
      output.Prolongs root more → ".." ∉ more → relation base files → sound files →
      Upholds relation sound (renderWithin dictionary transfer levels template output) files) :
    Upholds relation sound (renderEntries dictionary transfer levels template path) files := by
  -- The names are read from the files as they are now, which may differ below the site.
  refine Upholds.bind (upholds_ask holds _).adapt fun names after asked _ _ => ?_
  rw [onFiles, run_adapt_eq_ok_iff, run_ask] at asked
  obtain ⟨read, rfl⟩ := Prod.mk.inj asked
  refine Upholds.forM holds fun name member present reached holdsNow => ?_
  have keptNow := IsTrans.trans _ _ _ kept reached
  split
  · -- The files of the sources are laid over the directory itself.
    refine Upholds.forM holdsNow fun source isSource now arrived holdsThen => Upholds.adapt ?_
    exact upholds_overlayWithin guard opens tame (IsTrans.trans _ _ _ keptNow arrived) holdsThen
      pathLimit prolongs inward (fun _ _ => enters_below site _)
      fun linked => ⟨(supplies linked).1, (supplies linked).2 source isSource⟩
  · rename_i notMarker
    refine Upholds.bind (Upholds.of_eq (by rw [run_meaning]) holdsNow)
      fun rendered now meant _ _ => ?_
    rw [run_meaning] at meant
    obtain ⟨rendering, rfl⟩ := Prod.mk.inj meant
    have met : MetIn site initial template name :=
      ⟨notMarker, files, names, agrees.trans (guard.changes kept).agreesOff, read, member⟩
    have goesIn := inwardNames entered met (mapError_eq_ok_iff.1 rendering)
    have isRelative := goesIn.1
    have written := Path.ofText_segments_ne_nil rendered
    have output := prolongs.join isRelative written
    have outputInward : ".." ∉ more ++ (Path.ofText rendered).parts := by
      rw [List.mem_append, not_or]
      exact ⟨inward, goesIn.parts⟩
    refine Upholds.get ?_
    split
    · exact deeper (entered.child met) output outputInward keptNow holdsNow
    · refine upholds_renderFile guard opens tame keptNow holdsNow _ output outputInward ?_
      rw [Path.getLast?_join isRelative written]
      obtain ⟨last, ended⟩ := Option.isSome_iff_exists.1 (List.getLast?_isSome.2 written)
      by_cases slashed : last = ""
      · exact .inl (by rw [ended, slashed])
      · refine .inr fun none => ?_
        have inParts : last ∈ (Path.ofText rendered).parts :=
          List.mem_filter.2 ⟨List.mem_of_getLast? ended, by simpa using slashed⟩
        rw [(List.append_eq_nil_iff.1 none).2] at inParts
        cases inParts

theorem upholds_renderWithin {initial : FileSystem} {set : Path} {transfer : Transfer}
    {supply : Path → Prop} (levels : Nat) {template : Path}
    (inwardNames : InwardNames site initial set dictionary)
    (agrees : initial.AgreesOff site base)
    (supplies : transfer = .link → Supplies relation base origin supply ∧
      ∀ source ∈ dictionary.sources, supply source)
    (entered : Entered site initial set template)
    (prolongs : path.Prolongs root more) (inward : ".." ∉ more) :
    Upholds relation sound (renderWithin dictionary transfer levels template path) files := by
  induction levels generalizing template path more files with
  | zero => exact Upholds.throw _
  | succ levels inductionHypothesis =>
    rw [renderWithin_succ]
    refine Upholds.bind (upholds_createDirectories guard opens tame kept holds prolongs inward
      (enters_below site _)).adapt fun _ opened _ reached stillHolds => ?_
    exact upholds_renderEntries guard opens tame (IsTrans.trans _ _ _ kept reached) stillHolds
      inwardNames agrees supplies entered prolongs inward
      fun entered output outputInward reachedLater holdsLater =>
        inductionHypothesis reachedLater holdsLater entered output outputInward

end Guard

/-- Rendering a template set into the directory that a path opens upholds what each step does. -/
theorem upholds_renderSet {origin : Location → Prop} {relation : FileSystem → FileSystem → Prop}
    {sound : FileSystem → Prop} [IsPreorder FileSystem relation] {set : Path} {transfer : Transfer}
    {supply : Path → Prop} (guard : Guard (Below site) origin relation sound)
    (opens : base.OpensAt root site) (holds : sound base)
    (inwardNames : InwardNames site base set dictionary)
    (supplies : transfer = .link → Supplies relation base origin supply ∧
      ∀ source ∈ dictionary.sources, supply source) (levels : Nat) :
    Upholds relation sound (renderEntries dictionary transfer levels set root) base := by
  have tame := guard.tame holds
  have agrees : base.AgreesOff site base := ⟨rfl, fun _ => rfl⟩
  refine upholds_renderEntries guard opens tame (Std.Refl.refl base) holds inwardNames agrees
    supplies .set (.refl root) List.not_mem_nil fun entered prolongs inward kept holdsNow => ?_
  exact upholds_renderWithin guard opens tame kept holdsNow levels inwardNames agrees supplies
    entered prolongs inward

/-- A rendering is what it comes to once its directory for output is open. -/
theorem run_render (dictionary : Dictionary) (transfer : Transfer) (template target : Path)
    (files : FileSystem) :
    (render dictionary transfer template target).run files =
      if files.isDirectory template then
        match (createDirectories target).run files with
        | (.ok (), opened) =>
          (renderEntries dictionary transfer (pathLimit - 1) template target).run opened
        | (.error failure, made) => (.error (.files target failure), made)
      else (.error (.notFound template), files) := by
  have whole : renderWithin dictionary transfer pathLimit template target =
      onFiles target (createDirectories target) >>= fun _ =>
        renderEntries dictionary transfer (pathLimit - 1) template target :=
    renderWithin_succ dictionary transfer (pathLimit - 1) template target
  rw [render, run_bind, run_get]
  simp only []
  split
  · rw [whole, run_bind, onFiles, run_adapt]
    rcases (createDirectories target).run files with ⟨failure | _, made⟩ <;> rfl
  · rfl

/-- A rendering fails at once if its template set is no directory, or once its directory for output
cannot be made; else that is opened and the entries of the template set are rendered into it. -/
theorem render_cases (dictionary : Dictionary) (transfer : Transfer) (template target : Path)
    (files : FileSystem) :
    (render dictionary transfer template target).run files = (.error (.notFound template), files) ∨
    (∃ failure made, (createDirectories target).run files = (.error failure, made) ∧
      (render dictionary transfer template target).run files =
        (.error (.files target failure), made)) ∨
    ∃ opened site, files.Opens target opened site ∧
      (render dictionary transfer template target).run files =
        (renderEntries dictionary transfer (pathLimit - 1) template target).run opened := by
  rw [run_render]
  split
  · rcases ran : (createDirectories target).run files with ⟨failure | _, made⟩
    · exact .inr (.inl ⟨failure, made, rfl, rfl⟩)
    · obtain ⟨site, opensAt⟩ := exists_opensAt_of_createDirectories ran
      exact .inr (.inr ⟨made, site, ⟨ran, opensAt⟩, rfl⟩)
  · exact .inl rfl

/-- Rendering a template set into a fresh directory, with copies of the sources, changes nothing but
below it and makes no link. -/
theorem overwrites_render_of_fresh {initial : FileSystem} {set : Path} {place : Placement}
    (fresh : files.Fresh root place)
    (inwardNames : InwardNames place.location initial set dictionary)
    (agrees : initial.AgreesOff place.location files) :
    Keeps (Overwrites (Below place.location) fun _ => False)
      (render dictionary .copy set root) files := by
  have guard := guard_settled (closed_below place.location) fun _ => False
  have settled := fresh.settled
  refine Keeps.get ?_
  split
  · exact (upholds_renderWithin guard fresh.opensAt settled.tame (.refl files) settled pathLimit
      inwardNames agrees supplies_of_copy .set (.refl root) List.not_mem_nil).keeps
  · exact Keeps.throw _

end TemplateAction

end KernelExport
