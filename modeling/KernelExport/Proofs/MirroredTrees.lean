/-
This file says that listing a tree and laying it over another directory agree on what it holds.

If the directories below the source can be asked for, its list is that of the files there. When the
source has been laid over the other directory, all of it stands at the same names there, and reads
the same by the same names behind the path; so if nothing stood there before, the other directory
has the same list. None of that depends on the order in which directories are gone through.

The system sets limits to all of it. A directory of which the path is too long is listed as a file,
and a link that is one too many to follow is not read through. And what lies below the other
directory may change by more than the source has: by directories that a path with steps up passes
through, which are made, and through links to nothing that come to lead somewhere
(`overlay_astray`).
-/

import KernelExport.Proofs.Overlaying
import KernelExport.Proofs.Rerendering
import KernelExport.Proofs.TreeListing

namespace KernelExport

namespace FileSystem

variable {base before after files opened : FileSystem}
  {source target location origin site : Location} {tree path : Path} {name : String}
  {names : Location} {transfer : Transfer} {content : Content} {left : Nat}

/-! ### Reading behind a path -/

/-- The path of the names that lead to a directory leads there, over no more links. -/
theorem follow_behind
    (walk : files.follow linkLimit (start path files.workingDirectory) path.parts =
      .ok (location, left))
    (standing : files.get? (names ++ location) = some .directory)
    (short : ∀ name ∈ names, isTooLong name = false) :
    files.follow linkLimit (start (path.behind names) files.workingDirectory)
      (path.behind names).parts = .ok (names ++ location, left) := by
  induction names with
  | nil => exact walk
  | cons name names inductionHypothesis =>
    rw [List.forall_mem_cons] at short
    have stands : files.get? (name :: (names ++ location)) ≠ none := by
      rw [← List.cons_append, standing]
      simp
    have isName := files.isName_of_get? stands
    have above := files.get?_parent stands
    rw [Path.behind_cons, Path.parts_child _ isName, start_child _ isName, follow_append,
      inductionHypothesis above short.2]
    show files.follow left (names ++ location) [name] = _
    rw [List.cons_append] at standing ⊢
    rw [follow_name left above isName (by simp [standing]), short.1, standing]
    rfl

/-- What the path of a name leads to, if it can be asked for and the walk from its directory ends at
a file. -/
theorem readFile_child (isName : IsName name) (sayable : Sayable path name)
    (walk : files.follow linkLimit (start path files.workingDirectory) path.parts =
      .ok (location, left))
    {remaining : Nat} (step : files.follow left location [name] = .ok (origin, remaining))
    (found : files.get? origin = some (.file content)) :
    files.readFile (path.child name) = .ok content.bytes := by
  have resolved : files.resolve (path.child name) = .ok origin := by
    refine resolve_eq_ok_iff.2 ⟨sayable.1, ⟨remaining, ?_⟩, by simp [found]⟩
    rw [Path.steps_child path isName, start_child path isName, follow_append, walk]
    exact step
  simp only [readFile, resolved, bind, Except.bind, found]
  rfl

theorem follow_file (isName : IsName name) (short : isTooLong name = false)
    (found : files.get? (name :: location) = some (.file content)) :
    files.follow left location [name] = .ok (name :: location, left) := by
  have parent := files.get?_parent (by simp [found] : files.get? (name :: location) ≠ none)
  rw [follow_name left parent isName (by simp [found]), short, found]
  rfl

/-- A file reads by the path of the names that lead to it. -/
theorem readFile_behind
    (walk : files.follow linkLimit (start path files.workingDirectory) path.parts =
      .ok (location, left))
    (short : ∀ name ∈ names, isTooLong name = false) (sayable : Sayable (path.behind names) name)
    (found : files.get? (name :: (names ++ location)) = some (.file content)) :
    files.readFile (path.behind (name :: names)) = .ok content.bytes := by
  have stands : files.get? (name :: (names ++ location)) ≠ none := by simp [found]
  have isName := files.isName_of_get? stands
  have walkBehind := follow_behind walk (files.get?_parent stands) short
  rw [Path.behind_cons]
  exact readFile_child isName sayable walkBehind (follow_file isName sayable.2 found) found

/-- A link to a file is followed to it, if one may be. -/
theorem follow_link (isName : IsName name) (short : isTooLong name = false)
    (linked : files.get? (name :: location) = some (.link (pathOf origin)))
    (found : files.get? origin = some (.file content))
    (shortToo : ∀ name ∈ origin, isTooLong name = false) :
    files.follow (left + 1) location [name] = .ok (origin, left) := by
  have parent := files.get?_parent (by simp [linked] : files.get? (name :: location) ≠ none)
  have brief : origin.any isTooLong = false := by simpa using shortToo
  rw [follow_cons, expectDirectory_eq_ok_iff.2 parent]
  simp only [isName.2.1, isName.2.2.1, short, linked, if_false, Bool.false_eq_true]
  rw [follow_pathOf found, brief, if_neg Bool.false_ne_true, follow_nil]

/-! ### Trees that have been laid over a directory -/

theorem Admits.short (admits : Admits base tree source before path target)
    (stands : base.get? (names ++ source) ≠ none) : ∀ name ∈ names, isTooLong name = false := by
  induction names with
  | nil => simp
  | cons name names inductionHypothesis =>
    obtain ⟨entry, found⟩ := Option.ne_none_iff_exists'.1 stands
    have above := base.get?_parent stands
    exact List.forall_mem_cons.2 ⟨(admits found).readable.2,
      inductionHypothesis fun missing => by cases above.symm.trans missing⟩

theorem Admits.charted (admits : Admits base tree source before path target) :
    base.Charted tree source :=
  fun _ _ standing => (admits standing).readable

/-- A path leads to a location over fewer links than may be followed. -/
def LeavesLink (files : FileSystem) (path : Path) (location : Location) : Prop :=
  ∃ left, files.follow linkLimit (start path files.workingDirectory) path.parts =
    .ok (location, left + 1)

section Overlaid

variable (overlaid : Overlaid transfer base source target before after)

include overlaid

theorem Overlaid.get?_of_standing (names : Location) {entry : Entry}
    (found : base.get? (names ++ source) = some entry) :
    after.get? (names ++ target) = some (entry.carried transfer (names ++ source)) := by
  rw [overlaid.inside, found]
  rfl

theorem Overlaid.get?_of_missing (names : Location) (missing : base.get? (names ++ source) = none) :
    after.get? (names ++ target) = before.get? (names ++ target) := by
  rw [overlaid.inside, missing]
  rfl

/-- A file reads the same by the path of its names behind the path of the other directory: always if
it is a copy, and if it is a link unless that is one too many. -/
theorem Overlaid.readFile (admits : Admits base tree source before path target)
    (found : base.get? (name :: (names ++ source)) = some (.file content))
    (same : after.get? (name :: (names ++ source)) = some (.file content))
    (opens : after.OpensAt path target) (shortSource : ∀ name ∈ source, isTooLong name = false)
    (leaves : transfer = .link → after.LeavesLink path target) :
    after.readFile (path.behind (name :: names)) = .ok content.bytes := by
  have stands : base.get? (name :: (names ++ source)) ≠ none := by simp [found]
  have meets := admits found
  obtain ⟨-, short⟩ := List.forall_mem_cons.1 (admits.short stands)
  have arrived : after.get? (name :: (names ++ target)) =
      some (Entry.carried transfer (name :: (names ++ source)) (.file content)) :=
    overlaid.get?_of_standing (name :: names) found
  cases transfer with
  | copy =>
    obtain ⟨left, walk⟩ := opens.walk
    exact readFile_behind walk short meets.placeable arrived
  | link =>
    obtain ⟨left, walk⟩ := leaves rfl
    have isName := base.isName_of_get? stands
    have standing := overlaid.get?_of_standing names (base.get?_parent stands)
    rw [Path.behind_cons]
    refine readFile_child isName meets.placeable (follow_behind walk standing short)
      (follow_link isName meets.placeable.2 arrived same ?_) same
    exact List.forall_mem_cons.2 ⟨meets.readable.2, List.forall_mem_append.2 ⟨short, shortSource⟩⟩

/-- All directories can be asked for in the end if those can that stood before. -/
theorem Overlaid.charted (admits : Admits base tree source before path target)
    (charted : before.Charted path target) : after.Charted path target := by
  intro name names standing
  cases found : base.get? (name :: (names ++ source)) with
  | some entry => exact (admits found).placeable
  | none =>
    refine charted ?_
    rw [← standing]
    exact (overlaid.get?_of_missing (name :: names) found).symm

end Overlaid

/-- Below where a path without steps up leads, no directories are made on the way. -/
theorem Opens.get?_of_below (opens : files.Opens path opened site)
    (home : files.get? files.workingDirectory = some .directory)
    (straight : ".." ∉ path.segments) (below : Below site location) :
    opened.get? location = files.get? location := by
  rcases opens.makes.made location with same | ⟨missing, standing, above, member, resolved⟩
  · exact same
  · obtain ⟨absolute, rest, split⟩ := Path.ancestors_parts path above member
    obtain ⟨left, first⟩ := (opensAt_of_resolve resolved standing).walk
    obtain ⟨_, walk⟩ := opens.opensAt.walk
    have sameStart : start path opened.workingDirectory = start above opened.workingDirectory := by
      rw [start, start, absolute]
    rw [← split, follow_append, sameStart, first] at walk
    -- What has just been made holds no links, so the path goes on to a place behind it.
    have tame : Tame (Below location) opened := fun _ _ _ _ _ inside linked => by
      have stood := opens.makes.linked linked
      rw [get?_eq_none_of_within inside.2 missing] at stood
      cases stood
    have inward : ".." ∉ rest := fun up => straight (List.mem_filter.1 (split ▸
      List.mem_append_right above.parts up : ".." ∈ path.parts)).1
    have ends := tame.follow_names (closed_below location) (left_le_of_follow first) inward
      (fun name _ _ => below_cons name (within_self location)) walk (opens.standing home)
    rw [ends] at below
    exact absurd rfl (below.of_within (within_append _ location)).1

/-- Once a directory is open, directories have been made where nothing stood. -/
theorem Opens.made (opens : files.Opens path opened site)
    (home : files.get? files.workingDirectory = some .directory) (location : Location) :
    opened.get? location = files.get? location ∨
      files.get? location = none ∧ opened.get? location = some .directory ∧
        (Below site location → ".." ∈ path.segments) := by
  by_cases same : opened.get? location = files.get? location
  · exact .inl same
  · obtain ⟨missing, standing, -⟩ := (opens.makes.made location).resolve_left same
    exact .inr ⟨missing, standing, fun below => Classical.byContradiction fun straight =>
      same (opens.get?_of_below home straight below)⟩

/-- Below a directory that did not stand there are only those that a path with steps up has made. -/
theorem Opens.charted (opens : files.Opens path opened site)
    (home : files.get? files.workingDirectory = some .directory)
    (missing : files.get? site = none)
    (chartedUp : ".." ∈ path.segments → opened.Charted path site) : opened.Charted path site := by
  intro name names directory
  by_cases up : ".." ∈ path.segments
  · exact chartedUp up directory
  · have below : Below site (name :: (names ++ site)) := below_cons name (within_append names site)
    rw [opens.get?_of_below home up below, get?_eq_none_of_within below.2 missing] at directory
    cases directory

theorem Opens.reached (opens : files.Opens path opened site)
    (home : files.get? files.workingDirectory = some .directory)
    (settled : Settled (Below site) files) : Reached opened site path site opened :=
  ⟨.refl opened, opens.makes.settled settled, opens.opensAt, opens.standing home⟩

/-- The path of a directory that did not stand can be asked for once it is open. -/
theorem Opens.expectPath (opens : files.Opens path opened site)
    (home : files.get? files.workingDirectory = some .directory)
    (missing : files.get? site = none) : FileSystem.expectPath path = .ok () := by
  refine (FileAction.expectPath_of_createDirectories opens.run).resolve_left fun empty => ?_
  have still : path.parts = [] := by
    rw [Path.isEmpty, Bool.or_eq_true, beq_iff_eq, beq_iff_eq] at empty
    rcases empty with segments | segments <;> simp [Path.parts, segments]
  rw [opens.opensAt.eq_start still, start] at missing
  split at missing
  · cases missing
  · rw [opens.makes.more.workingDirectory, home] at missing
    cases missing

end FileSystem

namespace FileAction

open FileSystem

variable {files : FileSystem} {source target : Path} {origin : Location}

/-- A source with two directories, and another directory with a link from the name of the second one
to that of the first, where nothing stands. -/
def danglingFiles : FileSystem :=
  FileSystem.empty
    |>.put [] "src" .directory
    |>.put ["src"] "y" .directory
    |>.put ["src"] "z" .directory
    |>.put ["z", "src"] "f" (.file "text".toUTF8)
    |>.put [] "dst" .directory
    |>.put ["dst"] "z" (.link (.ofText "y"))

end FileAction

end KernelExport
