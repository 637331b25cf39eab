/-
This file says that an export does not depend on the name of its workspace.

Two file systems are twins if the same stands in both, but for a directory that has one name in the
first and another one in the second. Neither name is known: it stands for nothing else, no link and
no path mentions it. So what is asked or changed by paths of known names is the same in both
(`Concurs`), and what is read below the two directories is the same as well (`Readable`). Steps that
write by known paths, and read by such paths or below the directories, take twins to twins.

The directories themselves are never written to. What stands in them is what stood there in the
files that both runs started from, unless it is gone altogether.
-/

import KernelExport.Proofs.KnownNames
import KernelExport.Proofs.Scripts

namespace KernelExport

open FileSystem FileAction

/-- Two names for a workspace, which nothing else has. -/
structure Workspaces where
  known : String → Prop
  /-- The directory that the workspace is made in. -/
  site : Location
  first : String
  second : String
  /-- Files that the workspace stands in, under its first name. -/
  base : FileSystem
  dot : known "."
  newFirst : ¬known first
  newSecond : ¬known second
  isNameFirst : IsName first
  isNameSecond : IsName second
  sameSize : first.utf8ByteSize = second.utf8ByteSize
  linked : ∀ {location target}, base.get? location = some (.link target) → Among known target.parts
  unlinked : ∀ names target, base.get? (names ++ first :: site) ≠ some (.link target)

namespace FileSystem

/-- Whatever stands has known names, but for a directory of this name. -/
structure Lodges (known : String → Prop) (site : Location) (name : String) (files : FileSystem) :
    Prop where
  started : Among known files.workingDirectory
  standing : ∀ {location}, files.get? location ≠ none →
    Among known location ∨ ∃ names, Among known names ∧ location = names ++ name :: site

theorem get?_put (files : FileSystem) (directory : Location) (name : String) (entry : Entry)
    (location : Location) :
    (files.put directory name entry).get? location =
      if files.Free directory name ∧ location = name :: directory then some entry
      else files.get? location := by
  by_cases here : location = name :: directory
  · subst here
    by_cases free : files.Free directory name
    · rw [get?_put_self entry free, if_pos ⟨free, rfl⟩]
    · rw [if_neg fun both => free both.1, put, dif_neg free]
  · rw [get?_put_of_ne files entry here, if_neg fun both => here both.2]

variable {known : String → Prop} {site location directory names : Location} {name other : String}
  {files : FileSystem} {entry : Entry}

theorem not_among_behind (new : ¬known name) : ¬Among known (names ++ name :: site) :=
  fun among => new (among name (by simp))

/-- What lies behind a name that is not among some others lies below a location of those only if
the directory of the name does. -/
theorem within_behind (new : ¬known name) (among : Among known location) :
    within location (names ++ name :: site) = within location site := by
  rw [Bool.eq_iff_iff]
  refine ⟨fun inside => ?_, fun inside => ?_⟩
  · have behind : within (name :: site) (names ++ name :: site) = true :=
      within_append names _
    have split : within location (name :: site) = true := by
      rcases within_or_within inside behind with above | below
      · exact above
      · exact absurd (among.of_suffix (List.isSuffixOf_iff_suffix.1 below) name (by simp)) new
    rcases List.suffix_cons_iff.1 (List.isSuffixOf_iff_suffix.1 split) with rfl | above
    · exact absurd (among name (by simp)) new
    · exact List.isSuffixOf_iff_suffix.2 above
  · exact within_trans inside (List.isSuffixOf_iff_suffix.2
      ((List.suffix_cons name site).trans (List.suffix_append names _)))

/-- What stands in the directory has known names there. -/
theorem Lodges.among (lodges : files.Lodges known site name) (new : ¬known name)
    (stands : files.get? (names ++ name :: site) ≠ none) : Among known names := by
  rcases lodges.standing stands with among | ⟨others, among, same⟩
  · exact absurd among (not_among_behind new)
  · rwa [List.append_cancel_right same]

/-- In a directory of known names, and other than the one that holds the directory of the name,
whatever stands has a known name. -/
theorem Lodges.known_of_standing (lodges : files.Lodges known site name) (new : ¬known name)
    (among : Among known location) (apart : location ≠ site)
    (stands : files.get? (other :: location) ≠ none) : known other := by
  rcases lodges.standing stands with told | ⟨others, -, same⟩
  · exact (among_cons.1 told).1
  · cases others with
    | nil => exact absurd (List.cons.inj same).2 apart
    | cons _ rest => exact absurd ((List.cons.inj same).2 ▸ among) (not_among_behind new)

theorem Lodges.put (lodges : files.Lodges known site name)
    (among : Among known (other :: directory)) :
    (files.put directory other entry).Lodges known site name := by
  refine ⟨by rw [workingDirectory_put]; exact lodges.started, fun {location} stands => ?_⟩
  rw [get?_put] at stands
  split at stands
  · rename_i here
    exact .inl (here.2 ▸ among)
  · exact lodges.standing stands

theorem Lodges.of_fewer {fewer : FileSystem} (lodges : files.Lodges known site name)
    (workingDirectory : fewer.workingDirectory = files.workingDirectory)
    (stood : ∀ {location}, fewer.get? location ≠ none → files.get? location ≠ none) :
    fewer.Lodges known site name :=
  ⟨workingDirectory ▸ lodges.started, fun stands => lodges.standing (stood stands)⟩

end FileSystem

namespace Workspaces

variable (workspaces : Workspaces)

/-- The same stands in both file systems, but for the name of the workspace. There is no other link
than in the base, and the workspace is as it is there unless it is gone. -/
structure Twins (left right : FileSystem) : Prop where
  lodgesLeft : left.Lodges workspaces.known workspaces.site workspaces.first
  lodgesRight : right.Lodges workspaces.known workspaces.site workspaces.second
  workingDirectory : right.workingDirectory = left.workingDirectory
  home : left.workingDirectory = workspaces.base.workingDirectory
  outside : ∀ {location}, Among workspaces.known location → right.get? location = left.get? location
  inside : ∀ {names}, Among workspaces.known names →
    right.get? (names ++ workspaces.second :: workspaces.site) =
      left.get? (names ++ workspaces.first :: workspaces.site)
  kept : left.get? (workspaces.first :: workspaces.site) ≠ none → ∀ names,
    left.get? (names ++ workspaces.first :: workspaces.site) =
      workspaces.base.get? (names ++ workspaces.first :: workspaces.site)
  stood : ∀ {location target}, left.get? location = some (.link target) →
    workspaces.base.get? location = some (.link target)

/-- A location of known names for itself, or one in the workspace for the same in the other. -/
inductive Corresponds : Location → Location → Prop
  | outside {location : Location} : Among workspaces.known location →
    location ≠ workspaces.site → Corresponds location location
  | inside {names : List String} : Among workspaces.known names →
    Corresponds (names ++ workspaces.first :: workspaces.site)
      (names ++ workspaces.second :: workspaces.site)

variable {workspaces} {left right : FileSystem} {path source counterpart : Path}
  {directory location other : Location} {name : String} {entry : Entry}

/-! ### Twins -/

namespace Twins

theorem concurs (twins : workspaces.Twins left right) : Concurs workspaces.known left right where
  workingDirectory := twins.workingDirectory
  started := twins.lodgesLeft.started
  entry := twins.outside
  linked _ isLink := workspaces.linked (twins.stood isLink)
  dot := workspaces.dot

theorem unlinked (twins : workspaces.Twins left right) (names : List String) (target : Path) :
    left.get? (names ++ workspaces.first :: workspaces.site) ≠ some (.link target) :=
  fun isLink => workspaces.unlinked names target (twins.stood isLink)

theorem put (twins : workspaces.Twins left right)
    (among : Among workspaces.known (name :: directory))
    (notLink : ∀ target, entry ≠ .link target) :
    workspaces.Twins (left.put directory name entry) (right.put directory name entry) := by
  have free : right.Free directory name ↔ left.Free directory name := by
    rw [Free, Free, twins.outside among, twins.outside (among_cons.1 among).2]
  have apart : ∀ {names other}, ¬workspaces.known other →
      names ++ other :: workspaces.site ≠ name :: directory :=
    fun new same => not_among_behind new (same ▸ among)
  have elsewhere : ∀ names, (left.put directory name entry).get?
      (names ++ workspaces.first :: workspaces.site) =
        left.get? (names ++ workspaces.first :: workspaces.site) :=
    fun names => get?_put_of_ne left entry (apart workspaces.newFirst)
  refine ⟨twins.lodgesLeft.put among, twins.lodgesRight.put among, by simp [twins.workingDirectory],
    by simp [twins.home],
    fun told => ?_, fun told => ?_, fun stands names => ?_, fun isLink => ?_⟩
  · rw [get?_put, get?_put]
    simp only [free, twins.outside told]
  · rw [elsewhere, get?_put_of_ne right entry (apart workspaces.newSecond), twins.inside told]
  · rw [elsewhere names]
    exact twins.kept (elsewhere [] ▸ stands) names
  · rw [get?_put] at isLink
    split at isLink
    · exact absurd (Option.some.inj isLink) (notLink _)
    · exact twins.stood isLink

/-- Taking away what stands at some locations, which lie in the workspace either all or not at all,
keeps twins. -/
theorem of_fewer {fewer others : FileSystem} {takes : Location → Prop} [DecidablePred takes]
    (twins : workspaces.Twins left right)
    (workingDirectory : fewer.workingDirectory = left.workingDirectory)
    (alsoWorkingDirectory : others.workingDirectory = right.workingDirectory)
    (leaves : ∀ location, fewer.get? location = if takes location then none else left.get? location)
    (alsoLeaves : ∀ location,
      others.get? location = if takes location then none else right.get? location)
    (whole : (∀ names, takes (names ++ workspaces.first :: workspaces.site) ∧
        takes (names ++ workspaces.second :: workspaces.site)) ∨
      ∀ names, ¬takes (names ++ workspaces.first :: workspaces.site) ∧
        ¬takes (names ++ workspaces.second :: workspaces.site)) :
    workspaces.Twins fewer others := by
  refine ⟨twins.lodgesLeft.of_fewer workingDirectory fun stands => ?_,
    twins.lodgesRight.of_fewer alsoWorkingDirectory fun stands => ?_,
    by rw [workingDirectory, alsoWorkingDirectory, twins.workingDirectory],
    by rw [workingDirectory, twins.home],
    fun told => by rw [leaves, alsoLeaves, twins.outside told], fun {names} told => ?_,
    fun stands names => ?_, fun isLink => ?_⟩
  · rw [leaves] at stands
    split at stands
    · exact absurd rfl stands
    · exact stands
  · rw [alsoLeaves] at stands
    split at stands
    · exact absurd rfl stands
    · exact stands
  · rw [leaves, alsoLeaves]
    rcases whole with all | none
    · rw [if_pos (all names).1, if_pos (all names).2]
    · rw [if_neg (none names).1, if_neg (none names).2, twins.inside told]
  · rw [← List.nil_append (workspaces.first :: _), leaves] at stands
    rcases whole with all | none
    · rw [if_pos (all []).1] at stands
      exact absurd rfl stands
    · rw [if_neg (none []).1] at stands
      rw [leaves, if_neg (none names).1]
      exact twins.kept stands names
  · rw [leaves] at isLink
    split at isLink
    · cases isLink
    · exact twins.stood isLink

theorem erase (twins : workspaces.Twins left right) (among : Among workspaces.known location) :
    workspaces.Twins (left.erase location) (right.erase location) := by
  refine twins.of_fewer rfl rfl (get?_erase left location) (get?_erase right location) ?_
  cases inside : within location workspaces.site with
  | true =>
    refine .inl fun names => ?_
    rw [within_behind workspaces.newFirst among, within_behind workspaces.newSecond among, inside]
    simp
  | false =>
    refine .inr fun names => ?_
    rw [within_behind workspaces.newFirst among, within_behind workspaces.newSecond among, inside]
    simp

theorem eraseBelow (twins : workspaces.Twins left right) (among : Among workspaces.known location) :
    workspaces.Twins (left.eraseBelow location) (right.eraseBelow location) := by
  have apart : ∀ {names name}, ¬workspaces.known name →
      names ++ name :: workspaces.site ≠ location :=
    fun new same => not_among_behind new (same ▸ among)
  refine twins.of_fewer rfl rfl (get?_eraseBelow left location) (get?_eraseBelow right location) ?_
  cases inside : within location workspaces.site with
  | true =>
    refine .inl fun names => ?_
    rw [within_behind workspaces.newFirst among, within_behind workspaces.newSecond among, inside]
    simp [apart workspaces.newFirst, apart workspaces.newSecond]
  | false =>
    refine .inr fun names => ?_
    rw [within_behind workspaces.newFirst among, within_behind workspaces.newSecond among, inside]
    simp

end Twins

/-! ### What is read -/

/-- Two results correspond: both are the same failure, or both are values that correspond. -/
inductive Tallies {Failure First Second : Type} (corresponds : First → Second → Prop) :
    Except Failure First → Except Failure Second → Prop
  | ok {first : First} {second : Second} : corresponds first second →
    Tallies corresponds (.ok first) (.ok second)
  | error (failure : Failure) : Tallies corresponds (.error failure) (.error failure)

theorem Tallies.cases {Failure First Second : Type} {corresponds : First → Second → Prop}
    {result : Except Failure First} {counterpart : Except Failure Second}
    (tallies : Tallies corresponds result counterpart) :
    (∃ first second, result = .ok first ∧ counterpart = .ok second ∧ corresponds first second) ∨
      ∃ failure, result = .error failure ∧ counterpart = .error failure := by
  cases tallies with
  | ok both => exact .inl ⟨_, _, rfl, rfl, both⟩
  | error failure => exact .inr ⟨failure, rfl, rfl⟩

theorem Twins.get?_eq (twins : workspaces.Twins left right)
    (corresponds : workspaces.Corresponds location other) :
    right.get? other = left.get? location := by
  cases corresponds with
  | outside among _ => exact twins.outside among
  | inside among => exact twins.inside among

/-- Under the same name something stands either in both of two locations that correspond or in
none. -/
theorem Twins.entry_child (twins : workspaces.Twins left right)
    (corresponds : workspaces.Corresponds location other) (name : String) :
    (right.get? (name :: other)).isSome = (left.get? (name :: location)).isSome ∧
      (left.get? (name :: location) ≠ none → workspaces.known name) := by
  have same : workspaces.known name →
      right.get? (name :: other) = left.get? (name :: location) := by
    intro known
    cases corresponds with
    | outside among _ => exact twins.outside (among_cons.2 ⟨known, among⟩)
    | inside among => exact twins.inside (among_cons.2 ⟨known, among⟩)
  have inLeft : left.get? (name :: location) ≠ none → workspaces.known name := by
    intro stands
    cases corresponds with
    | outside among apart =>
      exact twins.lodgesLeft.known_of_standing workspaces.newFirst among apart stands
    | @inside names among =>
      have inside : left.get? (name :: names ++ workspaces.first :: workspaces.site) ≠ none :=
        stands
      exact (among_cons.1 (twins.lodgesLeft.among workspaces.newFirst inside)).1
  have inRight : right.get? (name :: other) ≠ none → workspaces.known name := by
    intro stands
    cases corresponds with
    | outside among apart =>
      exact twins.lodgesRight.known_of_standing workspaces.newSecond among apart stands
    | @inside names among =>
      have inside : right.get? (name :: names ++ workspaces.second :: workspaces.site) ≠ none :=
        stands
      exact (among_cons.1 (twins.lodgesRight.among workspaces.newSecond inside)).1
  refine ⟨?_, inLeft⟩
  by_cases known : workspaces.known name
  · rw [same known]
  · rw [not_imp_comm.1 inLeft known, not_imp_comm.1 inRight known]

variable (workspaces) in
/-- Two paths, and those of the same names behind them, lead to locations that correspond. -/
def Readable (source counterpart : Path) : Prop :=
  ∀ ⦃left right : FileSystem⦄, workspaces.Twins left right →
    ∀ names : List String, (∀ name ∈ names, IsName name ∧ workspaces.known name) →
      Tallies workspaces.Corresponds (left.resolve (names.foldl Path.child source))
        (right.resolve (names.foldl Path.child counterpart))

namespace Readable

theorem child (readable : workspaces.Readable source counterpart) (isName : IsName name)
    (known : workspaces.known name) :
    workspaces.Readable (source.child name) (counterpart.child name) :=
  fun _ _ twins names each => readable twins (name :: names) fun other member => by
    rcases List.mem_cons.1 member with rfl | further
    · exact ⟨isName, known⟩
    · exact each other further

theorem foldl_child {names : List String} (readable : workspaces.Readable source counterpart)
    (each : ∀ name ∈ names, IsName name ∧ workspaces.known name) :
    workspaces.Readable (names.foldl Path.child source) (names.foldl Path.child counterpart) := by
  induction names generalizing source counterpart with
  | nil => exact readable
  | cons name rest inductionHypothesis =>
    obtain ⟨⟨isName, known⟩, each⟩ := List.forall_mem_cons.1 each
    exact inductionHypothesis (readable.child isName known) each

variable (readable : workspaces.Readable source counterpart) (twins : workspaces.Twins left right)

include readable twins

theorem resolve :
    Tallies workspaces.Corresponds (left.resolve source) (right.resolve counterpart) :=
  readable twins [] fun _ member => absurd member List.not_mem_nil

theorem isDirectory : right.isDirectory counterpart = left.isDirectory source := by
  rw [FileSystem.isDirectory, FileSystem.isDirectory]
  rcases (readable.resolve twins).cases with
    ⟨location, other, leads, leadsToo, corresponds⟩ | ⟨failure, fails, failsToo⟩
  · simp only [leads, leadsToo, twins.get?_eq corresponds]
  · rw [fails, failsToo]

theorem readFile : right.readFile counterpart = left.readFile source := by
  rw [FileSystem.readFile, FileSystem.readFile]
  rcases (readable.resolve twins).cases with
    ⟨location, other, leads, leadsToo, corresponds⟩ | ⟨failure, fails, failsToo⟩
  · simp only [leads, leadsToo, bind, Except.bind, twins.get?_eq corresponds]
  · rw [fails, failsToo]
    rfl

theorem readDirectory : right.readDirectory counterpart = left.readDirectory source ∧
    ∀ {names}, left.readDirectory source = .ok names →
      ∀ name ∈ names, IsName name ∧ workspaces.known name := by
  rw [FileSystem.readDirectory, FileSystem.readDirectory]
  rcases (readable.resolve twins).cases with
    ⟨location, other, leads, leadsToo, corresponds⟩ | ⟨failure, fails, failsToo⟩
  · rw [leads, leadsToo]
    have same : right.names other = left.names location :=
      names_congr fun name => (twins.entry_child corresponds name).1
    refine ⟨?_, fun {names} read name member => ?_⟩
    · simp only [bind, Except.bind, expectDirectory, twins.get?_eq corresponds, same]
    · have read : (left.expectDirectory location).bind (fun _ => .ok (left.names location)) =
          .ok names := read
      obtain ⟨_, -, read⟩ := bind_eq_ok_iff.1 read
      obtain rfl := Except.ok.inj read
      have stands := Option.isSome_iff_ne_none.1 ((left.mem_names location name).1 member)
      exact ⟨left.isName_of_get? stands, (twins.entry_child corresponds name).2 stands⟩
  · rw [fails, failsToo]
    exact ⟨rfl, fun impossible => by cases impossible⟩

theorem filesWithin (levels : Nat) (above : List String) :
    right.filesWithin levels counterpart above = left.filesWithin levels source above := by
  induction levels generalizing source counterpart above with
  | zero => rfl
  | succ levels inductionHypothesis =>
    obtain ⟨same, named⟩ := readable.readDirectory twins
    rw [FileSystem.filesWithin, FileSystem.filesWithin, same]
    cases read : left.readDirectory source with
    | error failure => rfl
    | ok names =>
      have found := mapM_congr fun name member => show
          (if right.isDirectory (counterpart.child name) then
              right.filesWithin levels (counterpart.child name) (above ++ [name])
            else pure [above ++ [name]]) =
          if left.isDirectory (source.child name) then
            left.filesWithin levels (source.child name) (above ++ [name])
          else pure [above ++ [name]] by
        obtain ⟨isName, known⟩ := named read name member
        have inner := readable.child isName known
        rw [inner.isDirectory twins, inductionHypothesis inner]
      simp only [bind, Except.bind]
      exact congrArg (fun found => Except.bind found fun found => pure found.flatten) found

theorem listFiles : right.listFiles counterpart = left.listFiles source := by
  rw [FileSystem.listFiles, FileSystem.listFiles, readable.filesWithin twins]

end Readable

/-! ### What is changed -/

/-- Where two file systems concur a directory is made on both of them, or on neither. -/
theorem tallies_createDirectory {known : String → Prop} {relation : FileSystem → FileSystem → Prop}
    (concurs : Concurs known left right) (among : Among known path.parts)
    (made : ∀ place : Placement, Among known place.location →
      relation (left.put place.directory place.name .directory)
        (right.put place.directory place.name .directory)) :
    Tallies relation (left.createDirectory path) (right.createDirectory path) := by
  obtain ⟨same, there⟩ := concurs.placement among
  rw [FileSystem.createDirectory, FileSystem.createDirectory, same]
  cases placed : left.placement path with
  | error failure => exact .error failure
  | ok found =>
    cases found with
    | none => exact .error _
    | some place =>
      simp only [bind, Except.bind, concurs.entry (there placed)]
      cases left.get? place.location with
      | some _ => exact .error _
      | none => exact .ok (made place (there placed))

namespace Twins

variable (twins : workspaces.Twins left right) (among : Among workspaces.known path.parts)

include twins among

theorem createDirectory :
    Tallies workspaces.Twins (left.createDirectory path) (right.createDirectory path) :=
  tallies_createDirectory twins.concurs among fun _ there => twins.put there (by simp)

theorem writeFile (content : Content) :
    Tallies workspaces.Twins (left.writeFile path content) (right.writeFile path content) := by
  obtain ⟨same, there⟩ :=
    twins.concurs.writingPlace linkLimit twins.lodgesLeft.started among
  rw [FileSystem.writeFile, FileSystem.writeFile, twins.workingDirectory, same]
  cases placed : left.writingPlace linkLimit left.workingDirectory path with
  | error failure => exact .error failure
  | ok place =>
    have same : right.closed (place.2 :: place.1) = left.closed (place.2 :: place.1) := by
      rw [closed, closed, twins.outside (there placed)]
    simp only [bind, Except.bind, same]
    split
    · exact .error _
    · exact .ok (twins.put (there placed) (by simp))

theorem removeFile :
    Tallies workspaces.Twins (left.removeFile path) (right.removeFile path) := by
  obtain ⟨same, there⟩ := twins.concurs.placement among
  rw [FileSystem.removeFile, FileSystem.removeFile, same]
  cases placed : left.placement path with
  | error failure => exact .error failure
  | ok found =>
    cases found with
    | none => exact .error _
    | some place =>
      simp only [bind, Except.bind, twins.outside (there placed)]
      split
      · exact .error _
      · exact .error _
      · split
        · exact .error _
        · exact .ok (twins.erase (there placed))

theorem copyFile (readable : workspaces.Readable source counterpart) :
    Tallies workspaces.Twins (left.copyFile source path) (right.copyFile counterpart path) := by
  rw [FileSystem.copyFile, FileSystem.copyFile]
  rcases (readable.resolve twins).cases with
    ⟨location, other, leads, leadsToo, corresponds⟩ | ⟨failure, fails, failsToo⟩
  · rw [leads, leadsToo]
    simp only [bind, Except.bind, twins.get?_eq corresponds]
    split
    · exact twins.writeFile among _
    · exact .error _
  · rw [fails, failsToo]
    exact .error failure

end Twins

end Workspaces

end KernelExport
