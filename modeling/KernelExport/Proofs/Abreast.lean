/-
This file says that steps which write below one directory come to the same on two file systems in
which the same stands there, whatever else is different.

The path of the directory leads to it on both (`Tandem`), and steps go by names from there, through
directories (`Enters`). So each of them meets on both what stands under one name in one directory,
and puts the same there or takes it away. The links below the directory are those that sources have
arrived by: they lead to files elsewhere, which are no directories on either (`Abreast`). What is
read is held by both, or it is a directory on neither of them (`Furnished`).
-/

import KernelExport.Proofs.ReadTrees
import KernelExport.Proofs.Removal

namespace KernelExport

open FileSystem FileAction

/-- No directory lies in what is in it. -/
theorem FileSystem.not_within_parent (name : String) (location : Location) :
    ¬within (name :: location) location = true := by
  intro inside
  have shorter := (List.isSuffixOf_iff_suffix.1 inside).length_le
  rw [List.length_cons] at shorter
  omega

/-- What has a name in a directory is removed with all that is below it, but a file is not. The path
of the directory still leads there then. -/
theorem FileAction.run_removeTree_child {files : FileSystem} {path : Path} {location : Location}
    {name : String} (opens : files.OpensAt path location)
    (opensErased : (files.erase (name :: location)).OpensAt path location) (isName : IsName name)
    (standing : files.get? location = some .directory) :
    (removeTree (path.child name)).run files =
      if Sayable path name then
        match files.get? (name :: location) with
        | none => (.ok (), files)
        | some (.file _) => (.error .notDirectory, files)
        | some _ => (.ok (), files.erase (name :: location))
      else (.error .nameTooLong, files) := by
  have looked := standing_child opens isName standing
  by_cases sayable : Sayable path name
  · rw [if_pos sayable] at looked ⊢
    cases found : files.get? (name :: location) with
    | none =>
      rw [removeTree, run_tryCatch, run_removeAll_eq, looked, found]
      rfl
    | some entry =>
      cases entry with
      | file content =>
        rw [removeTree, run_tryCatch, run_removeAll_eq, looked, found]
        rfl
      | link target =>
        have removed := removeFile_child opens isName standing
        rw [if_pos sayable, found] at removed
        rw [removeTree, run_tryCatch, run_removeAll_eq, looked, found]
        simp only [run_change, removed]
      | directory =>
        have kept : (files.erase (name :: location)).get? location = some .directory := by
          rw [get?_erase, if_neg fun gone => not_within_parent name location gone.2, standing]
        obtain ⟨left, placed⟩ := opensErased.placement_child isName kept
        rw [if_pos sayable] at placed
        refine run_removeTree placed ?_ ⟨rfl, fun outside => ?_⟩ found
        · rw [get?_erase, if_pos ⟨by simp [Placement.location], within_self _⟩]
        · rw [get?_erase, if_neg fun inside => by
            rw [Placement.location, inside.2] at outside
            cases outside]
  · rw [if_neg sayable] at looked ⊢
    rw [removeTree, run_tryCatch, run_removeAll_eq, looked]
    rfl

/-- Two file systems with a directory that a path leads to, whatever stands below it. -/
structure Tandem where
  root : Path
  site : Location
  /-- How sources arrive there. -/
  transfer : Transfer
  first : FileSystem
  second : FileSystem
  askable : expectPath root = .ok ()
  opens : ∀ {files}, DiffersIn (Below site) first files ∨ DiffersIn (Below site) second files →
    files.OpensAt root site
  standingFirst : first.get? site = some .directory
  standingSecond : second.get? site = some .directory

namespace Tandem

variable (tandem : Tandem)

/-- A file system differs from one of the two only below the directory. -/
def Admits (files : FileSystem) : Prop :=
  DiffersIn (Below tandem.site) tandem.first files ∨
    DiffersIn (Below tandem.site) tandem.second files

/-- A path is that of names behind the directory, none of which is too long to be asked for. -/
inductive Enters : Path → Location → Prop
  | root : Enters tandem.root tandem.site
  | child {path : Path} {location : Location} {name : String} : Enters path location →
    IsName name → Sayable path name → Enters (path.child name) (name :: location)

/-- Sources arrive by links, and the path is that of a file which does not lie below the directory
and is the same on both sides. -/
def Outward (target : Path) : Prop :=
  tandem.transfer = .link ∧ ∃ origin content, target = pathOf origin ∧
    ¬Below tandem.site origin ∧ tandem.first.get? origin = some (.file content) ∧
    tandem.second.get? origin = some (.file content)

/-- Below the directory there stands the same on both sides, and nothing has changed elsewhere. The
links there lead outward. One of the directories there, or the directory itself, stands at a
location. -/
structure Abreast (location : Location) (left right : FileSystem) : Prop where
  onLeft : DiffersIn (Below tandem.site) tandem.first left
  onRight : DiffersIn (Below tandem.site) tandem.second right
  same : ∀ {inside}, Below tandem.site inside → right.get? inside = left.get? inside
  linked : ∀ {inside target}, Below tandem.site inside →
    left.get? inside = some (.link target) → tandem.Outward target
  standing : left.get? location = some .directory

variable {tandem} {path source : Path} {location shelf : Location} {name other : String}
  {left right base : FileSystem}

/-! ### Places below the directory -/

namespace Enters

variable (enters : tandem.Enters path location)

include enters

theorem isInside : within tandem.site location = true := by
  induction enters with
  | root => exact within_self tandem.site
  | child _ _ _ inductionHypothesis => exact within_parent inductionHypothesis

theorem below_child (name : String) : Below tandem.site (name :: location) :=
  below_cons name enters.isInside

theorem askable : expectPath path = .ok () := by
  cases enters with
  | root => exact tandem.askable
  | child _ _ sayable => exact sayable.1

/-- The path opens the directory that stands at the location. -/
theorem opensAt {files : FileSystem} (admitted : tandem.Admits files)
    (standing : files.get? location = some .directory) : files.OpensAt path location := by
  induction enters with
  | root => exact tandem.opens admitted
  | child _ isName sayable inductionHypothesis =>
    have parent := files.get?_parent (Option.ne_none_iff_exists'.2 ⟨_, standing⟩)
    exact (inductionHypothesis parent).child isName parent sayable standing

end Enters

namespace Abreast

theorem standingRight (abreast : tandem.Abreast location left right)
    (isInside : within tandem.site location = true) : right.get? location = some .directory := by
  by_cases here : location = tandem.site
  · rw [here, abreast.onRight.outside fun below => below.1 rfl, tandem.standingSecond]
  · rw [abreast.same ⟨here, isInside⟩, abreast.standing]

/-- If a directory stands under a name so does the one that it is in. -/
theorem parent (abreast : tandem.Abreast (name :: location) left right) :
    tandem.Abreast location left right :=
  { abreast with standing := left.get?_parent (Option.ne_none_iff_exists'.2 ⟨_, abreast.standing⟩) }

/-- Where sources arrive by copy there are no links. -/
theorem unlinked (abreast : tandem.Abreast location left right) (copies : tandem.transfer = .copy)
    {inside : Location} (below : Below tandem.site inside) (target : Path) :
    left.get? inside ≠ some (.link target) := by
  intro linked
  have links := (abreast.linked below linked).1
  rw [copies] at links
  cases links

/-- The links of the directory lead to no directory. -/
theorem harmless (abreast : tandem.Abreast location left right)
    (below : Below tandem.site (name :: location)) :
    left.Harmless (left.follow linkLimit location [name]) ∧
        right.Harmless (right.follow linkLimit location [name]) ∨
      ∀ target, left.get? (name :: location) ≠ some (.link target) := by
  by_cases linked : ∃ target, left.get? (name :: location) = some (.link target)
  · obtain ⟨target, linked⟩ := linked
    obtain ⟨-, origin, content, rfl, outside, file, also⟩ := abreast.linked below linked
    exact .inl ⟨harmless_link linked ((abreast.onLeft.outside outside).trans file),
      harmless_link ((abreast.same below).trans linked)
        ((abreast.onRight.outside outside).trans also)⟩
  · exact .inr (not_exists.1 linked)

/-- An entry is put under a name on both sides, in the place of anything but a directory. A link
leads outward. -/
theorem put (abreast : tandem.Abreast location left right)
    (isInside : within tandem.site location = true) (isName : IsName name)
    (plain : left.get? (name :: location) ≠ some .directory) {entry : Entry}
    (outward : ∀ target, entry = .link target → tandem.Outward target) :
    tandem.Abreast location (left.put location name entry) (right.put location name entry) := by
  have below : Below tandem.site (name :: location) := below_cons name isInside
  have free : left.Free location name := ⟨abreast.standing, plain, isName⟩
  have freeRight : right.Free location name :=
    ⟨abreast.standingRight isInside, by rwa [abreast.same below], isName⟩
  have elsewhere : ∀ {inside}, ¬Below tandem.site inside → inside ≠ name :: location := by
    rintro inside outside rfl
    exact outside below
  refine ⟨⟨?_, fun outside => ?_⟩, ⟨?_, fun outside => ?_⟩, fun {inside} isBelow => ?_,
    fun {inside target} isBelow linked => ?_, ?_⟩
  · rw [workingDirectory_put, abreast.onLeft.workingDirectory]
  · rw [get?_put_of_ne _ _ (elsewhere outside), abreast.onLeft.outside outside]
  · rw [workingDirectory_put, abreast.onRight.workingDirectory]
  · rw [get?_put_of_ne _ _ (elsewhere outside), abreast.onRight.outside outside]
  · by_cases here : inside = name :: location
    · rw [here, get?_put_self entry free, get?_put_self entry freeRight]
    · rw [get?_put_of_ne _ _ here, get?_put_of_ne _ _ here, abreast.same isBelow]
  · by_cases here : inside = name :: location
    · rw [here, get?_put_self entry free] at linked
      exact outward target (Option.some.inj linked)
    · rw [get?_put_of_ne _ _ here] at linked
      exact abreast.linked isBelow linked
  · rw [get?_put_of_ne _ _ (by simp), abreast.standing]

/-- What has a name is taken away on both sides. -/
theorem erase (abreast : tandem.Abreast location left right)
    (isInside : within tandem.site location = true) (name : String) :
    tandem.Abreast location (left.erase (name :: location)) (right.erase (name :: location)) := by
  have below : Below tandem.site (name :: location) := below_cons name isInside
  have kept : ∀ {inside}, ¬Below tandem.site inside →
      ¬(inside ≠ [] ∧ within (name :: location) inside = true) :=
    fun outside gone => outside (below.of_within gone.2)
  refine ⟨⟨?_, fun outside => ?_⟩, ⟨?_, fun outside => ?_⟩, fun {inside} isBelow => ?_,
    fun {inside target} isBelow linked => ?_, ?_⟩
  · rw [workingDirectory_erase, abreast.onLeft.workingDirectory]
  · rw [get?_erase, if_neg (kept outside), abreast.onLeft.outside outside]
  · rw [workingDirectory_erase, abreast.onRight.workingDirectory]
  · rw [get?_erase, if_neg (kept outside), abreast.onRight.outside outside]
  · rw [get?_erase, get?_erase, abreast.same isBelow]
  · rw [get?_erase] at linked
    split at linked
    · cases linked
    · exact abreast.linked isBelow linked
  · rw [get?_erase, if_neg fun gone => not_within_parent name location gone.2, abreast.standing]

/-- What has changed on both sides below the directory has changed in it. -/
theorem changesAlike (abreast : tandem.Abreast tandem.site left right) :
    ChangesAlike (within tandem.site · = true) tandem.first tandem.second left right := by
  refine ⟨abreast.onLeft.of_below, abreast.onRight.of_below, fun {location} inside => ?_⟩
  by_cases here : location = tandem.site
  · rw [here, abreast.standing, abreast.standingRight (within_self _)]
  · exact abreast.same ⟨here, inside⟩

/-- Copies leave no links in the directory. -/
theorem linkless (abreast : tandem.Abreast tandem.site left right)
    (copies : tandem.transfer = .copy) {inside : Location}
    (isInside : within tandem.site inside = true) (target : Path) :
    left.get? inside ≠ some (.link target) := by
  by_cases here : inside = tandem.site
  · rw [here, abreast.standing]
    simp
  · exact abreast.unlinked copies ⟨here, isInside⟩ target

end Abreast

/-! ### Steps at a name -/

section Child

variable (enters : tandem.Enters path location) (isName : IsName name)
  (abreast : tandem.Abreast location left right)

include enters abreast

theorem opensAt_left : left.OpensAt path location :=
  enters.opensAt (.inl abreast.onLeft) abreast.standing

theorem opensAt_right : right.OpensAt path location :=
  enters.opensAt (.inr abreast.onRight) (abreast.standingRight enters.isInside)

include isName

theorem alike_createDirectories :
    Alike (tandem.Abreast location) (createDirectories (path.child name))
      (createDirectories (path.child name)) left right := by
  have below := enters.below_child name
  have same := abreast.same below
  have isStanding := abreast.standingRight enters.isInside
  have harmless : (∀ target ending remaining, left.get? (name :: location) = some (.link target) →
        left.follow linkLimit location [name] = .ok (ending, remaining) →
        left.get? ending ≠ some .directory) ∧
      ∀ target ending remaining, right.get? (name :: location) = some (.link target) →
        right.follow linkLimit location [name] = .ok (ending, remaining) →
        right.get? ending ≠ some .directory := by
    rcases abreast.harmless below with ⟨harmless, also⟩ | unlinked
    · exact ⟨fun _ _ _ _ walk => harmless.2 _ _ walk, fun _ _ _ _ walk => also.2 _ _ walk⟩
    · exact ⟨fun target _ _ linked => absurd linked (unlinked target),
        fun target _ _ linked => absurd (same.symm.trans linked) (unlinked target)⟩
  have ran := run_createDirectories_child (opensAt_left enters abreast) isName abreast.standing
    harmless.1
  have also := run_createDirectories_child (opensAt_right enters abreast) isName isStanding
    harmless.2
  rw [same] at also
  by_cases sayable : Sayable path name
  · rw [if_pos sayable] at ran also
    cases found : left.get? (name :: location) with
    | none =>
      rw [found] at ran also
      exact .of_runs ran also rfl
        (abreast.put enters.isInside isName (by simp [found]) fun _ impossible => by cases impossible)
    | some entry =>
      rw [found] at ran also
      cases entry <;> exact .of_runs ran also rfl abreast
  · rw [if_neg sayable] at ran also
    exact .of_runs ran also rfl abreast

/-- Once a directory is made at a name, it stands there, and its path is one of those that steps go
by. -/
theorem enters_of_createDirectories {after later : FileSystem}
    (ran : (createDirectories (path.child name)).run left = (.ok (), after))
    (still : tandem.Abreast location after later) :
    tandem.Enters (path.child name) (name :: location) ∧
      tandem.Abreast (name :: location) after later := by
  have below := enters.below_child name
  have formula := run_createDirectories_child (opensAt_left enters abreast) isName abreast.standing
    fun target ending remaining linked walk => by
      rcases abreast.harmless below with ⟨harmless, -⟩ | unlinked
      · exact harmless.2 _ _ walk
      · exact absurd linked (unlinked target)
  by_cases sayable : Sayable path name
  · rw [if_pos sayable] at formula
    refine ⟨.child enters isName sayable, { still with standing := ?_ }⟩
    cases found : left.get? (name :: location) with
    | none =>
      rw [found, ran] at formula
      rw [(Prod.mk.inj formula).2]
      exact get?_put_self _ ⟨abreast.standing, by simp [found], isName⟩
    | some entry =>
      rw [found, ran] at formula
      cases entry with
      | directory => rw [(Prod.mk.inj formula).2, found]
      | file _ | link _ => cases (Prod.mk.inj formula).1
  · rw [if_neg sayable, ran] at formula
    cases (Prod.mk.inj formula).1

theorem alike_removeFile :
    Alike (tandem.Abreast location) (change (·.removeFile (path.child name)))
      (change (·.removeFile (path.child name))) left right := by
  have removed := removeFile_child (opensAt_left enters abreast) isName abreast.standing
  have also := removeFile_child (opensAt_right enters abreast) isName
    (abreast.standingRight enters.isInside)
  rw [abreast.same (enters.below_child name)] at also
  by_cases sayable : Sayable path name
  · rw [if_pos sayable] at removed also
    cases found : left.get? (name :: location) with
    | none =>
      rw [found] at removed also
      exact .of_runs (by rw [run_change, removed]) (by rw [run_change, also]) rfl abreast
    | some entry =>
      rw [found] at removed also
      cases entry with
      | directory =>
        exact .of_runs (by rw [run_change, removed]) (by rw [run_change, also]) rfl abreast
      | file _ | link _ =>
        exact .of_runs (by rw [run_change, removed]) (by rw [run_change, also]) rfl
          (abreast.erase enters.isInside name)
  · rw [if_neg sayable] at removed also
    exact .of_runs (by rw [run_change, removed]) (by rw [run_change, also]) rfl abreast

/-- Where a file or link was taken away nothing stands. -/
theorem missing_of_removeFile_child {after : FileSystem}
    (ran : (change (·.removeFile (path.child name))).run left = (.ok (), after)) :
    after.get? (name :: location) = none := by
  have removed := removeFile_child (opensAt_left enters abreast) isName abreast.standing
  rw [run_change, removed] at ran
  by_cases sayable : Sayable path name
  · rw [if_pos sayable] at ran
    cases found : left.get? (name :: location) with
    | none =>
      rw [found] at ran
      cases (Prod.mk.inj ran).1
    | some entry =>
      rw [found] at ran
      cases entry with
      | directory => cases (Prod.mk.inj ran).1
      | file _ | link _ =>
        rw [← (Prod.mk.inj ran).2]
        exact get?_erase_self (by simp [found])
  · rw [if_neg sayable] at ran
    cases (Prod.mk.inj ran).1

/-- Where nothing has a name, a source arrives on both sides, or on neither of them. -/
theorem alike_arrive (missing : Sayable path name → left.get? (name :: location) = none)
    (onLeft : left.Holds base source shelf) (onRight : right.Holds base source shelf)
    (apart : ¬Below tandem.site (other :: shelf)) (member : other ∈ base.names shelf)
    (plain : left.isDirectory (source.child other) = false) :
    Alike (tandem.Abreast location) (arrive tandem.transfer (source.child other) (path.child name))
      (arrive tandem.transfer (source.child other) (path.child name)) left right := by
  have missingRight : Sayable path name → right.get? (name :: location) = none :=
    fun sayable => (abreast.same (enters.below_child name)).trans (missing sayable)
  have isOther : IsName other := isName_of_mem_names member
  have resolvedLeft := onLeft.resolve_child isOther
  have resolvedRight := onRight.resolve_child isOther
  rcases onLeft.child_cases member with
    ⟨-, -, directory⟩ | ⟨content, found, -, resolved, stands⟩ | ⟨-, resolved⟩
  · rw [plain] at directory
    cases directory
  · have also : right.resolve (source.child other) = .ok (other :: shelf) := by
      rw [resolvedRight, ← resolvedLeft, resolved]
    have standsRight : right.get? (other :: shelf) = some (.file content) :=
      (onRight.same [other]).trans found
    have ran : (arrive tandem.transfer (source.child other) (path.child name)).run left = _ :=
      run_arrive_child (opensAt_left enters abreast) isName abreast.standing missing resolved stands
    have ranRight : (arrive tandem.transfer (source.child other) (path.child name)).run right = _ :=
      run_arrive_child (opensAt_right enters abreast) isName
        (abreast.standingRight enters.isInside) missingRight also standsRight
    by_cases sayable : Sayable path name
    · rw [if_pos sayable] at ran ranRight
      refine .of_runs ran ranRight rfl (abreast.put enters.isInside isName (by simp [missing sayable]) ?_)
      intro target linked
      cases arrival : tandem.transfer with
      | copy =>
        rw [arrival] at linked
        cases linked
      | link =>
        rw [arrival] at linked
        exact ⟨arrival, other :: shelf, content, (Entry.link.inj linked).symm, apart,
          (abreast.onLeft.outside apart).symm.trans stands,
          (abreast.onRight.outside apart).symm.trans standsRight⟩
    · rw [if_neg sayable] at ran ranRight
      exact .of_runs ran ranRight rfl abreast
  · have also : right.resolve (source.child other) = .error .nameTooLong := by
      rw [resolvedRight, ← resolvedLeft, resolved]
    have refused : ∀ {files : FileSystem},
        files.resolve (source.child other) = .error .nameTooLong →
        (arrive tandem.transfer (source.child other) (path.child name)).run files =
          (.error .nameTooLong, files) := by
      intro files failed
      cases tandem.transfer with
      | copy => simp only [arrive, run_change, copyFile, failed, bind, Except.bind]
      | link => simp only [arrive, run_bind, run_ask, canonical, failed, Except.map]
    exact .of_runs (refused resolved) (refused also) rfl abreast

/-- A file of a tree that both sides hold is placed. -/
theorem alike_place (kind : ∀ ⦃files⦄, tandem.Admits files → files.Holds base source shelf)
    (apart : ¬Below tandem.site (other :: shelf)) (member : other ∈ base.names shelf)
    (plain : left.isDirectory (source.child other) = false) :
    Alike (tandem.Abreast location) (place tandem.transfer (source.child other) (path.child name))
      (place tandem.transfer (source.child other) (path.child name)) left right := by
  have isOther : IsName other := isName_of_mem_names member
  have arrives : ∀ {left right}, tandem.Abreast location left right →
      (Sayable path name → left.get? (name :: location) = none) →
      left.isDirectory (source.child other) = false →
      Alike (tandem.Abreast location) (arrive tandem.transfer (source.child other) (path.child name))
        (arrive tandem.transfer (source.child other) (path.child name)) left right :=
    fun abreast missing plain => alike_arrive enters isName abreast missing
      (kind (.inl abreast.onLeft)) (kind (.inr abreast.onRight)) apart member plain
  have still : ∀ {files}, tandem.Admits files →
      files.isDirectory (source.child other) = false := by
    intro files admitted
    rw [(kind admitted).isDirectory_child isOther,
      ← (kind (.inl abreast.onLeft)).isDirectory_child isOther, plain]
  have stands := standing_child (opensAt_left enters abreast) isName abreast.standing
  have standsRight := standing_child (opensAt_right enters abreast) isName
    (abreast.standingRight enters.isInside)
  rw [abreast.same (enters.below_child name)] at standsRight
  have removes : Alike (tandem.Abreast location)
      (change (·.removeFile (path.child name)) >>= fun _ =>
        arrive tandem.transfer (source.child other) (path.child name))
      (change (·.removeFile (path.child name)) >>= fun _ =>
        arrive tandem.transfer (source.child other) (path.child name)) left right :=
    Alike.bind (alike_removeFile enters isName abreast) fun _ after later ran _ again =>
      arrives again (fun _ => missing_of_removeFile_child enters isName abreast ran)
        (still (.inl again.onLeft))
  have runs : ∀ files, (place tandem.transfer (source.child other) (path.child name)).run files = _ :=
    run_place tandem.transfer (source.child other) (path.child name)
  by_cases sayable : Sayable path name
  · rw [if_pos sayable] at stands standsRight
    cases found : left.get? (name :: location) with
    | none =>
      rw [found] at stands standsRight
      have same := arrives abreast (fun _ => found) plain
      refine ⟨?_, ?_⟩ <;> rw [runs, runs, stands, standsRight]
      · exact same.result
      · exact same.states
    | some entry =>
      rw [found] at stands standsRight
      refine ⟨?_, ?_⟩ <;> rw [runs, runs, stands, standsRight]
      · exact removes.result
      · exact removes.states
  · rw [if_neg sayable] at stands standsRight
    have same := arrives abreast (fun able => absurd able sayable) plain
    refine ⟨?_, ?_⟩ <;> rw [runs, runs, stands, standsRight]
    · exact same.result
    · exact same.states

/-- What has a name is removed on both sides with all that is below it. -/
theorem alike_removeTree :
    Alike (tandem.Abreast location) (removeTree (path.child name)) (removeTree (path.child name))
      left right := by
  have erased := abreast.erase enters.isInside name
  have ran := run_removeTree_child (opensAt_left enters abreast) (opensAt_left enters erased)
    isName abreast.standing
  have also := run_removeTree_child (opensAt_right enters abreast) (opensAt_right enters erased)
    isName (abreast.standingRight enters.isInside)
  rw [abreast.same (enters.below_child name)] at also
  by_cases sayable : Sayable path name
  · rw [if_pos sayable] at ran also
    cases found : left.get? (name :: location) with
    | none =>
      rw [found] at ran also
      exact .of_runs ran also rfl abreast
    | some entry =>
      rw [found] at ran also
      cases entry with
      | file _ => exact .of_runs ran also rfl abreast
      | directory | link _ => exact .of_runs ran also rfl erased
  · rw [if_neg sayable] at ran also
    exact .of_runs ran also rfl abreast

end Child

end Tandem

end KernelExport
