/-
This file says that laying trees over a directory and rendering templates into it come to the same
on two file systems in which the same stands below the directory.

The trees and templates are held by both sides, as they are whatever comes to stand below the
directory, so each loop goes through the same names on both. What a name renders to has to be a name,
so that it is made in the directory that it is rendered into.
-/

import KernelExport.Proofs.Abreast

namespace KernelExport

open FileSystem FileAction

/-- What the names in a tree render to are names. -/
def Dictionary.NamesIn (dictionary : Dictionary) (base : FileSystem) (tree : Location) : Prop :=
  ∀ {names name rendered}, base.get? (name :: names ++ tree) ≠ none →
    name ≠ TemplateAction.sourcesMarker → dictionary.render name = .ok rendered → IsName rendered

/-- A path leads to one set of templates on all file systems of some kind, of which the names render
to names, or to a directory on none of them. -/
def FileSystem.Renderable (kind : FileSystem → Prop) (dictionary : Dictionary) (template : Path) :
    Prop :=
  (∃ base shelf, (∀ ⦃files⦄, kind files → files.Holds base template shelf) ∧
    dictionary.NamesIn base shelf) ∨
  ∀ ⦃files⦄, kind files → files.isDirectory template = false

theorem FileSystem.Renderable.mono {kind fewer : FileSystem → Prop} {dictionary : Dictionary}
    {template : Path} (renderable : Renderable kind dictionary template)
    (among : ∀ ⦃files⦄, fewer files → kind files) : Renderable fewer dictionary template :=
  renderable.imp
    (fun ⟨base, shelf, holds, names⟩ => ⟨base, shelf, fun _ ofKind => holds (among ofKind), names⟩)
    fun never _ ofKind => never (among ofKind)

namespace Tandem

variable {tandem : Tandem} {path source : Path} {location shelf : Location} {name other : String}
  {left right base : FileSystem}

/-! ### Overlaying -/

/-- The directory is read on both sides alike, and its names are those in the base. -/
theorem alike_readDirectory {relation : FileSystem → FileSystem → Prop}
    (related : relation left right) (onLeft : left.Holds base source shelf)
    (onRight : right.Holds base source shelf) :
    Alike relation (ask (·.readDirectory source)) (ask (·.readDirectory source)) left right ∧
      ∀ {names after}, (ask (·.readDirectory source)).run left = (.ok names, after) →
        names = base.names shelf := by
  have ran : (ask (·.readDirectory source)).run left = _ := run_ask _ left
  have also : (ask (·.readDirectory source)).run right = _ := run_ask _ right
  rw [onLeft.readDirectory] at ran
  rw [onRight.readDirectory] at also
  refine ⟨.of_runs ran also rfl related, fun {names after} read => ?_⟩
  rw [ran] at read
  cases expected : expectPath source with
  | error failure =>
    rw [expected] at read
    cases (Prod.mk.inj read).1
  | ok _ =>
    rw [expected] at read
    exact (Except.ok.inj (Prod.mk.inj read).1).symm

/-- The entries of a tree that both sides hold are laid over a directory, if the directories among
them are. -/
theorem alike_overlayEntries_of {levels : Nat} (enters : tandem.Enters path location)
    (abreast : tandem.Abreast location left right)
    (kind : ∀ ⦃files⦄, tandem.Admits files → files.Holds base source shelf)
    (apart : ∀ names, ¬Below tandem.site (names ++ shelf))
    (deeper : ∀ {name left right}, IsName name → Sayable source name →
      base.get? (name :: shelf) = some .directory → tandem.Abreast location left right →
      Alike (tandem.Abreast location) (overlayWithin tandem.transfer levels (source.child name)
        (path.child name)) (overlayWithin tandem.transfer levels (source.child name) (path.child name))
        left right) :
    Alike (tandem.Abreast location) (overlayEntries tandem.transfer levels source path)
      (overlayEntries tandem.transfer levels source path) left right := by
  obtain ⟨alike, read⟩ := alike_readDirectory abreast (kind (.inl abreast.onLeft))
    (kind (.inr abreast.onRight))
  refine Alike.bind alike fun names after later ran _ abreast => ?_
  obtain rfl := read ran
  refine Alike.forM_same abreast fun name member left right abreast => Alike.get ?_
  have isName : IsName name := isName_of_mem_names member
  have onLeft := kind (.inl abreast.onLeft)
  rw [(kind (.inr abreast.onRight)).isDirectory_child isName, ← onLeft.isDirectory_child isName]
  rcases onLeft.child_cases member with ⟨directory, sayable, enters⟩ | ⟨_, _, plain, -⟩ | ⟨plain, -⟩
  · simp only [enters, if_true]
    exact deeper isName sayable directory abreast
  · simp only [plain, Bool.false_eq_true, if_false]
    exact alike_place enters isName abreast kind (apart [name]) member plain
  · simp only [plain, Bool.false_eq_true, if_false]
    exact alike_place enters isName abreast kind (apart [name]) member plain

theorem holds_child (kind : ∀ ⦃files⦄, tandem.Admits files → files.Holds base source shelf)
    (isName : IsName name) (sayable : Sayable source name)
    (directory : base.get? (name :: shelf) = some .directory) ⦃files : FileSystem⦄
    (admitted : tandem.Admits files) : files.Holds base (source.child name) (name :: shelf) :=
  (kind admitted).child isName sayable directory

theorem apart_child (apart : ∀ names, ¬Below tandem.site (names ++ shelf)) (name : String)
    (names : List String) : ¬Below tandem.site (names ++ name :: shelf) := by
  simpa using apart (names ++ [name])

/-- A tree that both sides hold is laid over a directory that is made for it. -/
theorem alike_overlayWithin (levels : Nat) (enters : tandem.Enters path location)
    (isName : IsName name) (abreast : tandem.Abreast location left right)
    (kind : ∀ ⦃files⦄, tandem.Admits files → files.Holds base source shelf)
    (apart : ∀ names, ¬Below tandem.site (names ++ shelf)) :
    Alike (tandem.Abreast location) (overlayWithin tandem.transfer levels source (path.child name))
      (overlayWithin tandem.transfer levels source (path.child name)) left right := by
  induction levels generalizing source shelf path location name left right with
  | zero => exact .throw abreast _ _
  | succ levels inductionHypothesis =>
    refine Alike.bind (alike_createDirectories enters isName abreast)
      fun _ after later ran _ again => ?_
    obtain ⟨deeper, there⟩ := enters_of_createDirectories enters isName abreast ran again
    have inner : Alike (tandem.Abreast (name :: location))
        (overlayEntries tandem.transfer levels source (path.child name))
        (overlayEntries tandem.transfer levels source (path.child name)) after later :=
      alike_overlayEntries_of deeper there kind apart fun isName sayable directory abreast =>
        inductionHypothesis deeper isName abreast (holds_child kind isName sayable directory)
          (apart_child apart _)
    exact inner.mono Abreast.parent

/-- Making a directory again that steps have entered changes nothing. -/
theorem alike_createDirectories_again (enters : tandem.Enters path location)
    (abreast : tandem.Abreast location left right) :
    Alike (tandem.Abreast location) (createDirectories path) (createDirectories path) left right :=
  .of_runs
    (run_createDirectories_again (opensAt_left enters abreast) abreast.standing
      (.inr enters.askable))
    (run_createDirectories_again (opensAt_right enters abreast)
      (abreast.standingRight enters.isInside) (.inr enters.askable))
    rfl abreast

/-- A tree that both sides hold, or what is a directory on neither of them, is laid over a directory
that stands. -/
theorem alike_overlay (enters : tandem.Enters path location)
    (abreast : tandem.Abreast location left right)
    (furnished : Furnished tandem.Admits (Below tandem.site) source) :
    Alike (tandem.Abreast location) (overlay tandem.transfer source path) (overlay tandem.transfer source path)
      left right := by
  have again := alike_createDirectories_again enters abreast
  refine Alike.bind again fun _ after later _ _ abreast => ?_
  rcases furnished with ⟨base, shelf, kind, apart⟩ | never
  · exact alike_overlayEntries_of enters abreast kind apart fun isName sayable directory abreast =>
      alike_overlayWithin _ enters isName abreast (holds_child kind isName sayable directory)
        (apart_child apart _)
  · have refused : ∀ {files}, tandem.Admits files → ∃ failure,
        (overlayEntries tandem.transfer (pathLimit - 1) source path).run files = (.error failure, files) := by
      intro files admitted
      cases read : files.readDirectory source with
      | error failure =>
        exact ⟨failure, by rw [overlayEntries, run_bind, run_ask, read]⟩
      | ok names =>
        have missing := never admitted
        rw [isDirectory_of_readDirectory read] at missing
        cases missing
    obtain ⟨_, ran⟩ := refused (.inl abreast.onLeft)
    obtain ⟨_, also⟩ := refused (.inr abreast.onRight)
    exact .of_runs ran also rfl abreast

/-! ### Rendering -/

section Rendering

open TemplateAction

variable {dictionary : Dictionary} {template : Path} {content : ByteArray}

theorem alike_onFiles {Result : Type} {relation : FileSystem → FileSystem → Prop}
    {action : FileAction Result} (concerned : Path) (alike : Alike relation action action left right) :
    Alike relation (TemplateAction.onFiles concerned action)
      (TemplateAction.onFiles concerned action) left right :=
  alike.adapt

/-- A file is written to a name that no link has. -/
theorem alike_writeFile (enters : tandem.Enters path location) (isName : IsName name)
    (abreast : tandem.Abreast location left right)
    (unlinked : Sayable path name → ∀ target, left.get? (name :: location) ≠ some (.link target)) :
    Alike (tandem.Abreast location)
      (TemplateAction.onFiles (path.child name) (change (·.writeFile (path.child name) content)))
      (TemplateAction.onFiles (path.child name) (change (·.writeFile (path.child name) content)))
      left right := by
  have same := abreast.same (enters.below_child name)
  have ran := run_writeFile_child (opensAt_left enters abreast) isName abreast.standing unlinked
    content
  have also := run_writeFile_child (opensAt_right enters abreast) isName
    (abreast.standingRight enters.isInside) (by rwa [same]) content
  rw [same, show right.closed (name :: location) = left.closed (name :: location) by
    rw [closed, closed, same]] at also
  by_cases sayable : Sayable path name
  · rw [if_pos sayable] at ran also
    by_cases directory : left.get? (name :: location) = some .directory
    · rw [if_pos directory] at ran also
      exact .of_runs ran also rfl abreast
    · rw [if_neg directory] at ran also
      by_cases closed : left.closed (name :: location) = true
      · rw [if_pos closed] at ran also
        exact .of_runs ran also rfl abreast
      · rw [if_neg closed] at ran also
        exact .of_runs ran also rfl
          (abreast.put enters.isInside isName directory fun _ impossible => by cases impossible)
  · rw [if_neg sayable] at ran also
    exact .of_runs ran also rfl abreast

theorem alike_replaceFile (enters : tandem.Enters path location) (isName : IsName name)
    (abreast : tandem.Abreast location left right) :
    Alike (tandem.Abreast location) (replaceFile (path.child name) content)
      (replaceFile (path.child name) content) left right := by
  have stands := standing_child (opensAt_left enters abreast) isName abreast.standing
  have standsRight := standing_child (opensAt_right enters abreast) isName
    (abreast.standingRight enters.isInside)
  rw [abreast.same (enters.below_child name)] at standsRight
  have standing : right.standing (path.child name) = left.standing (path.child name) :=
    standsRight.trans stands.symm
  have runs : ∀ files, (replaceFile (path.child name) content).run files = _ :=
    run_replaceFile (path.child name) content
  by_cases linked : ∃ target, left.standing (path.child name) = .ok (.link target)
  · obtain ⟨target, linked⟩ := linked
    have replaces : Alike (tandem.Abreast location)
        (TemplateAction.onFiles (path.child name) (change (·.removeFile (path.child name))) >>=
          fun _ => TemplateAction.onFiles (path.child name)
            (change (·.writeFile (path.child name) content)))
        (TemplateAction.onFiles (path.child name) (change (·.removeFile (path.child name))) >>=
          fun _ => TemplateAction.onFiles (path.child name)
            (change (·.writeFile (path.child name) content))) left right :=
      Alike.bind (alike_onFiles _ (alike_removeFile enters isName abreast))
        fun _ after later ran _ again => alike_writeFile enters isName again fun _ target => by
          rw [missing_of_removeFile_child enters isName abreast (run_adapt_eq_ok_iff.1 ran)]
          simp
    refine ⟨?_, ?_⟩ <;> rw [runs, runs, standing, linked]
    · exact replaces.result
    · exact replaces.states
  · have unlinked : Sayable path name →
        ∀ target, left.get? (name :: location) ≠ some (.link target) := by
      intro sayable target found
      rw [if_pos sayable, found] at stands
      exact linked ⟨target, stands⟩
    have writes : Alike _ (TemplateAction.onFiles _ (change (·.writeFile _ content))) _ left right :=
      alike_writeFile enters isName abreast unlinked
    refine ⟨?_, ?_⟩ <;> rw [runs, runs, standing] <;> split
    · exact absurd ⟨_, ‹_›⟩ linked
    · exact writes.result
    · exact absurd ⟨_, ‹_›⟩ linked
    · exact writes.states

/-- A template that both sides hold is rendered to a name. -/
theorem alike_renderFile (enters : tandem.Enters path location) (isName : IsName name)
    (abreast : tandem.Abreast location left right)
    (kind : ∀ ⦃files⦄, tandem.Admits files → files.Holds base template shelf)
    (isOther : IsName other) :
    Alike (tandem.Abreast location) (renderFile dictionary (template.child other) (path.child name))
      (renderFile dictionary (template.child other) (path.child name)) left right := by
  have same : right.readFile (template.child other) = left.readFile (template.child other) := by
    rw [(kind (.inr abreast.onRight)).readFile_child isOther,
      (kind (.inl abreast.onLeft)).readFile_child isOther]
  have reads : Alike (tandem.Abreast location) (ask (·.readFile (template.child other)))
      (ask (·.readFile (template.child other))) left right :=
    .of_runs (run_ask _ left) (run_ask _ right) (by rw [same]) abreast
  refine Alike.bind (alike_onFiles _ reads) fun content after later _ _ abreast => ?_
  cases String.fromUTF8? content with
  | none => exact alike_replaceFile enters isName abreast
  | some text =>
    have means : Alike (tandem.Abreast location)
        (String.toUTF8 <$> meaning dictionary (template.child other) text)
        (String.toUTF8 <$> meaning dictionary (template.child other) text) after later :=
      .map (.of_runs (run_meaning _ _ _ _) (run_meaning _ _ _ _) rfl abreast)
    exact Alike.bind means fun bytes _ _ _ _ abreast => alike_replaceFile enters isName abreast

/-- The templates that both sides hold in a directory are rendered into one that stands, if the
directories among them are. -/
theorem alike_renderEntries_of {levels : Nat} (enters : tandem.Enters path location)
    (abreast : tandem.Abreast location left right)
    (kind : ∀ ⦃files⦄, tandem.Admits files → files.Holds base template shelf)
    (names : dictionary.NamesIn base shelf)
    (sources : ∀ source ∈ dictionary.sources,
      Furnished tandem.Admits (Below tandem.site) source)
    (deeper : ∀ {name rendered left right}, IsName name → IsName rendered → Sayable template name →
      base.get? (name :: shelf) = some .directory → tandem.Abreast location left right →
      Alike (tandem.Abreast location)
        (renderWithin dictionary tandem.transfer levels (template.child name) (path.child rendered))
        (renderWithin dictionary tandem.transfer levels (template.child name) (path.child rendered))
        left right) :
    Alike (tandem.Abreast location) (renderEntries dictionary tandem.transfer levels template path)
      (renderEntries dictionary tandem.transfer levels template path) left right := by
  obtain ⟨alike, read⟩ := alike_readDirectory abreast (kind (.inl abreast.onLeft))
    (kind (.inr abreast.onRight))
  refine Alike.bind (alike_onFiles template alike) fun found after later ran _ abreast => ?_
  obtain rfl := read (run_adapt_eq_ok_iff.1 ran)
  refine Alike.forM_same abreast fun name member left right abreast => ?_
  by_cases marker : name = sourcesMarker
  · simp only [marker, if_true]
    exact Alike.forM_same abreast fun source isSource left right abreast =>
      alike_onFiles source (alike_overlay enters abreast (sources source isSource))
  · simp only [marker, if_false]
    have means : Alike (tandem.Abreast location) (meaning dictionary (template.child name) name)
        (meaning dictionary (template.child name) name) left right :=
      .of_runs (run_meaning _ _ _ _) (run_meaning _ _ _ _) rfl abreast
    refine Alike.bind means fun rendered left right ran _ abreast => Alike.get ?_
    rw [run_meaning] at ran
    have stands : base.get? (name :: [] ++ shelf) ≠ none :=
      Option.isSome_iff_ne_none.1 ((mem_names base shelf name).1 member)
    have isRendered : IsName rendered :=
      names stands marker (mapError_eq_ok_iff.1 (Prod.mk.inj ran).1)
    have isName : IsName name := isName_of_mem_names member
    have onLeft := kind (.inl abreast.onLeft)
    rw [(kind (.inr abreast.onRight)).isDirectory_child isName, ← onLeft.isDirectory_child isName]
    rcases onLeft.child_cases member with
      ⟨directory, sayable, isDirectory⟩ | ⟨_, _, plain, -⟩ | ⟨plain, -⟩
    · simp only [isDirectory, if_true]
      exact deeper isName isRendered sayable directory abreast
    · simp only [plain, Bool.false_eq_true, if_false]
      exact alike_renderFile enters isRendered abreast kind isName
    · simp only [plain, Bool.false_eq_true, if_false]
      exact alike_renderFile enters isRendered abreast kind isName

theorem namesIn_child (names : dictionary.NamesIn base shelf) (name : String) :
    dictionary.NamesIn base (name :: shelf) := by
  intro inner last _ stands
  have inside : base.get? (last :: (inner ++ [name]) ++ shelf) ≠ none := by simpa using stands
  exact names inside

/-- Templates that both sides hold are rendered into a directory that is made for them. -/
theorem alike_renderWithin (levels : Nat) (enters : tandem.Enters path location)
    (isName : IsName name) (abreast : tandem.Abreast location left right)
    (kind : ∀ ⦃files⦄, tandem.Admits files → files.Holds base template shelf)
    (names : dictionary.NamesIn base shelf)
    (sources : ∀ source ∈ dictionary.sources,
      Furnished tandem.Admits (Below tandem.site) source) :
    Alike (tandem.Abreast location)
      (renderWithin dictionary tandem.transfer levels template (path.child name))
      (renderWithin dictionary tandem.transfer levels template (path.child name)) left right := by
  induction levels generalizing template shelf path location name left right with
  | zero => exact .throw abreast _ _
  | succ levels inductionHypothesis =>
    refine Alike.bind (alike_onFiles _ (alike_createDirectories enters isName abreast))
      fun _ after later ran _ again => ?_
    obtain ⟨deeper, there⟩ := enters_of_createDirectories enters isName abreast
      (run_adapt_eq_ok_iff.1 ran) again
    have inner : Alike (tandem.Abreast (name :: location))
        (renderEntries dictionary tandem.transfer levels template (path.child name))
        (renderEntries dictionary tandem.transfer levels template (path.child name)) after later :=
      alike_renderEntries_of deeper there kind names sources
        fun isName isRendered sayable directory abreast => inductionHypothesis deeper isRendered
          abreast (holds_child kind isName sayable directory) (namesIn_child names _)
    exact inner.mono Abreast.parent

/-- Templates that both sides hold are rendered into a directory that stands. -/
theorem alike_renderEntries (levels : Nat) (enters : tandem.Enters path location)
    (abreast : tandem.Abreast location left right)
    (kind : ∀ ⦃files⦄, tandem.Admits files → files.Holds base template shelf)
    (names : dictionary.NamesIn base shelf)
    (sources : ∀ source ∈ dictionary.sources,
      Furnished tandem.Admits (Below tandem.site) source) :
    Alike (tandem.Abreast location) (renderEntries dictionary tandem.transfer levels template path)
      (renderEntries dictionary tandem.transfer levels template path) left right :=
  alike_renderEntries_of enters abreast kind names sources
    fun isName isRendered sayable directory abreast => alike_renderWithin levels enters isRendered
      abreast (holds_child kind isName sayable directory) (namesIn_child names _) sources

/-- A template set is rendered into a directory that stands. -/
theorem alike_render (enters : tandem.Enters path location)
    (abreast : tandem.Abreast location left right)
    (renderable : Renderable tandem.Admits dictionary template)
    (sources : ∀ source ∈ dictionary.sources,
      Furnished tandem.Admits (Below tandem.site) source) :
    Alike (tandem.Abreast location) (render dictionary tandem.transfer template path)
      (render dictionary tandem.transfer template path) left right := by
  refine Alike.get ?_
  rcases renderable with ⟨base, shelf, kind, names⟩ | never
  · rw [(kind (.inl abreast.onLeft)).isDirectory, (kind (.inr abreast.onRight)).isDirectory]
    split
    · refine Alike.bind (alike_onFiles _ (alike_createDirectories_again enters abreast))
        fun _ _ _ _ _ abreast => ?_
      exact alike_renderEntries _ enters abreast kind names sources
    · exact .throw abreast _ _
  · rw [never (.inl abreast.onLeft), never (.inr abreast.onRight)]
    exact .throw abreast _ _

end Rendering

end Tandem

end KernelExport
