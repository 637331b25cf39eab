/-
This file says that what is laid over a directory stays in it.

Each step goes by a path that is written behind the path of the directory without a step upwards
(`Path.Prolongs`). The walk along such a path comes to the directory first, as it did before any of
the steps, and goes on by names from there. So the place that the path names lies below the
directory, if the links there lead to no directory (`location_of_placement`). Making the directories
on the way to it may only make what has been removed from below since
(`exists_arrival_of_createDirectory`).

What a step may be held to is left open: a relation between the states before and after it, which a
failure keeps as well, and a property of states, which a step upholds if it succeeds (`Guard`). For
the one that is used most, links that lead neither to a directory nor to nothing stay so
(`guard_settled`).
-/

import KernelExport.FileSystem.Tree
import KernelExport.Proofs.Arrivals

namespace KernelExport

namespace FileSystem

variable {files before after : FileSystem} {site location : Location} {name : String}

/-- Nothing differs between two file systems but at a location and below it. -/
structure AgreesOff (site : Location) (first second : FileSystem) : Prop where
  workingDirectory : second.workingDirectory = first.workingDirectory
  outside : ∀ {location}, within site location = false →
    second.get? location = first.get? location

/-- Where nothing stood at the location, nothing is lost. -/
theorem AgreesOff.extends (agrees : files.AgreesOff site after) (missing : files.get? site = none) :
    after.Extends files := by
  refine ⟨fun stands => ?_, agrees.workingDirectory⟩
  rename_i location entry
  cases inside : within site location with
  | false => rw [agrees.outside inside, stands]
  | true =>
    rw [get?_eq_none_of_within inside missing] at stands
    cases stands

theorem AgreesOff.trans {first second third : FileSystem} (earlier : first.AgreesOff site second)
    (later : second.AgreesOff site third) : first.AgreesOff site third where
  workingDirectory := later.workingDirectory.trans earlier.workingDirectory
  outside apart := (later.outside apart).trans (earlier.outside apart)

theorem Changes.agreesOff (changes : Changes (Below site) before after) :
    before.AgreesOff site after where
  workingDirectory := changes.workingDirectory
  outside apart := changes.outside fun below => by
    rw [below.2] at apart
    cases apart

/-! ### Places behind a path -/

/-- The first name among the steps enters the region from the site. -/
def Enters (region : Location → Prop) (site : Location) (steps : List String) : Prop :=
  ∀ name rest, steps.filter (· ≠ ".") = name :: rest → region (name :: site)

theorem enters_below (site : Location) (steps : List String) : Enters (Below site) site steps :=
  fun name _ _ => below_cons name (within_self site)

theorem Enters.of_prefix {region : Location → Prop} {steps more : List String}
    (enters : Enters region site more) (front : steps <+: more) : Enters region site steps := by
  obtain ⟨behind, rfl⟩ := front
  intro name rest shape
  exact enters name (rest ++ behind.filter (· ≠ ".")) (by rw [List.filter_append, shape]; rfl)

theorem prefix_or_beyond {Item : Type} {front first second : List Item}
    (along : front <+: first ++ second) :
    front <+: first ∨ ∃ rest, rest ≠ [] ∧ front = first ++ rest ∧ rest <+: second := by
  obtain ⟨behind, whole⟩ := along
  rcases List.append_eq_append_iff.1 whole with ⟨rest, same, -⟩ | ⟨rest, same, seconds⟩
  · exact .inl ⟨rest, same.symm⟩
  · by_cases none : rest = []
    · exact .inl ⟨[], by rw [same, none, List.append_nil, List.append_nil]⟩
    · exact .inr ⟨rest, none, same, behind, seconds.symm⟩

section Region

variable {region origin : Location → Prop} {base : FileSystem} {root path : Path}
  {more : List String}
  (opens : base.OpensAt root site) (tame : Tame region base) (changes : Changes region base files)

include opens tame changes

/-- A walk that goes on from a path still comes to where the path leads. -/
theorem exists_follow_of_opensAt {steps : List String} {ending : Location × Nat}
    (walk : files.follow linkLimit (start root files.workingDirectory) (root.parts ++ steps) =
      .ok ending) : ∃ remaining ≤ linkLimit, files.follow remaining site steps = .ok ending := by
  rw [follow_append] at walk
  obtain ⟨⟨reached, remaining⟩, first, second⟩ := bind_eq_ok_iff.1 walk
  obtain ⟨most, whole⟩ := opens.walk
  rw [← changes.workingDirectory] at whole
  have same : (reached, remaining) = (site, most) := by
    by_cases none : root.parts = []
    · rw [none, follow_nil] at first whole
      exact Except.ok.inj (first.symm.trans whole)
    · exact changes.follow_eq tame (Nat.le_refl _) whole (opens.directory none) first
  obtain ⟨rfl, rfl⟩ := Prod.mk.inj same
  exact ⟨remaining, left_le_of_follow first, second⟩

/-- A path that goes on behind the path of a directory names a place below it: where its names are
written. -/
theorem location_of_placement (closed : Closed region) (tameNow : Tame region files)
    (prolongs : path.Prolongs root more) (moves : more ≠ []) (inward : ".." ∉ more)
    (enters : Enters region site more) {place : Placement}
    (placed : files.placement path = .ok (some place)) :
    place.location = (more.filter (· ≠ ".")).reverse ++ site ∧ region place.location := by
  obtain ⟨-, ⟨front, written, walk⟩, standing, isName, -, -⟩ := placementFrom_eq_some_iff.1 placed
  obtain ⟨steps, last, rfl⟩ := (List.eq_nil_or_concat more).resolve_left moves
  rw [List.concat_eq_append] at *
  rw [prolongs.parts, ← List.append_assoc] at written
  obtain ⟨rfl, same⟩ := List.append_inj' written rfl
  obtain rfl : last = place.name := List.singleton_inj.1 same
  have start : start path files.workingDirectory = start root files.workingDirectory := by
    rw [FileSystem.start, FileSystem.start, prolongs.isAbsolute]
  rw [start] at walk
  obtain ⟨remaining, within, rest⟩ := exists_follow_of_opensAt opens tame changes walk
  have named : (steps ++ [place.name]).filter (· ≠ ".") =
      steps.filter (· ≠ ".") ++ [place.name] := by
    rw [List.filter_append]
    simp [isName.2.1]
  have first : Enters region site steps := enters.of_prefix (List.prefix_append _ _)
  have directory : place.directory = (steps.filter (· ≠ ".")).reverse ++ site :=
    tameNow.follow_names closed within (fun up => inward (List.mem_append_left _ up)) first rest
      standing
  have place_eq : place.location =
      ((steps ++ [place.name]).filter (· ≠ ".")).reverse ++ site := by
    rw [named, List.reverse_append, Placement.location, directory]
    rfl
  refine ⟨place_eq, ?_⟩
  rw [place_eq]
  obtain ⟨name, others, shape⟩ := List.exists_cons_of_ne_nil
    (by rw [named]; simp : (steps ++ [place.name]).filter (· ≠ ".") ≠ [])
  have inside := enters name others shape
  rw [shape, List.reverse_cons, List.append_assoc]
  exact closed.append others.reverse inside

/-- A directory that is made on the way to such a place has gone from below the site, or never stood
there. -/
theorem exists_arrival_of_createDirectory (closed : Closed region) (tameNow : Tame region files)
    (isAbsolute : path.isAbsolute = root.isAbsolute) (along : path.parts <+: root.parts ++ more)
    (inward : ".." ∉ more) (enters : Enters region site more)
    {changed : FileSystem} (made : files.createDirectory path = .ok changed) :
    ∃ directory name, Arrives region origin files directory name .directory ∧
      changed = files.put directory name .directory := by
  cases placed : files.placement path with
  | error failure =>
    rw [createDirectory, placed] at made
    cases made
  | ok found =>
    cases found with
    | none =>
      rw [createDirectory, placed] at made
      cases made
    | some place =>
      rw [createDirectory_of_placement placed] at made
      cases missing : files.get? place.location with
      | some entry => simp [missing] at made
      | none =>
        simp only [missing, Except.ok.injEq] at made
        obtain ⟨-, ⟨front, written, walk⟩, standing, isName, -, -⟩ :=
          placementFrom_eq_some_iff.1 placed
        have free : files.Free place.directory place.name :=
          ⟨standing, by rw [← Placement.location, missing]; simp, isName⟩
        suffices inside : region place.location from
          ⟨place.directory, place.name, ⟨free, inside, .directory missing⟩, made.symm⟩
        rcases prefix_or_beyond along with ⟨others, roots⟩ | ⟨steps, moves, parts, inMore⟩
        · -- The path ends on the way to the root, where something stood when that was opened.
          obtain ⟨most, whole⟩ := opens.walk
          have start : start root base.workingDirectory = start path files.workingDirectory := by
            rw [start, start, isAbsolute, changes.workingDirectory]
          rw [← roots, written, List.append_assoc, List.singleton_append, follow_append,
            start] at whole
          obtain ⟨⟨directory, left⟩, before, next⟩ := bind_eq_ok_iff.1 whole
          have stood := directory_of_follow next (by simp)
          have same := changes.follow_eq tame (Nat.le_refl _) before stood walk
          obtain ⟨rfl, -⟩ := Prod.mk.inj same
          refine Classical.byContradiction fun outside => ?_
          rw [changes.outside outside] at missing
          exact stands_of_follow next isName missing
        · have beyond : path.Prolongs root steps := ⟨isAbsolute, parts⟩
          exact (location_of_placement opens tame changes closed tameNow beyond moves
            (fun up => inward (inMore.subset up)) (enters.of_prefix inMore) placed).2

end Region

/-! ### Filling a place -/

/-- Where a slash is not behind the path, what stands there is what the path leads to itself. -/
theorem standing_of_unslashed {path : Path} {place : Placement}
    (placed : files.placement path = .ok (some place)) (unslashed : place.slashed = false) :
    files.standing path = match files.get? place.location with
      | some entry => .ok entry
      | none => .error .notFound := by
  rw [FileSystem.standing, placed]
  simp only [bind, Except.bind, unslashed, if_false, Bool.false_eq_true, pure, Except.pure]
  cases files.get? place.location <;> rfl

theorem standing_eq_ok_iff {path : Path} {place : Placement} {entry : Entry}
    (placed : files.placement path = .ok (some place)) (unslashed : place.slashed = false) :
    files.standing path = .ok entry ↔ files.get? place.location = some entry := by
  rw [standing_of_unslashed placed unslashed]
  cases files.get? place.location <;> simp

theorem missing_of_standing_eq_error {path : Path} {place : Placement} {failure : FileError}
    (placed : files.placement path = .ok (some place)) (unslashed : place.slashed = false)
    (failed : files.standing path = .error failure) : files.get? place.location = none := by
  rw [standing_of_unslashed placed unslashed] at failed
  split at failed
  · cases failed
  · assumption

/-- A file is written where its path leads, if that is no link. -/
theorem placement_of_writeFile {path : Path} {content : Content} {changed : FileSystem}
    (written : files.writeFile path content = .ok changed)
    (unlinked : ∀ place target, files.placement path = .ok (some place) → place.slashed = false →
      files.get? place.location ≠ some (.link target)) :
    ∃ place, files.placement path = .ok (some place) ∧ place.slashed = false ∧
      files.get? place.location ≠ some .directory ∧
      changed = files.put place.directory place.name (.file content) := by
  obtain ⟨⟨directory, name⟩, found, stored⟩ := bind_eq_ok_iff.1 written
  simp only [] at stored
  split at stored
  · cases stored
  obtain rfl := Except.ok.inj stored
  cases placed : files.placement path with
  | error failure =>
    rw [placement] at placed
    rw [writingPlace, placed] at found
    cases found
  | ok answer =>
    rw [placement] at placed
    cases answer with
    | none =>
      rw [writingPlace, placed] at found
      cases found
    | some place =>
      cases slashed : place.slashed with
      | true =>
        rw [writingPlace, placed] at found
        simp [bind, Except.bind, slashed, throw, throwThe, MonadExceptOf.throw] at found
      | false =>
        rw [writingPlace_of_placementFrom placed slashed
          fun target => unlinked place target placed slashed] at found
        split at found
        · cases found
        · rename_i plain
          obtain ⟨rfl, rfl⟩ := Prod.mk.inj (Except.ok.inj found)
          exact ⟨place, rfl, slashed, plain, rfl⟩

theorem placement_of_createLink {path target : Path} {changed : FileSystem}
    (made : files.createLink target path = .ok changed) :
    ∃ place, files.placement path = .ok (some place) ∧ place.slashed = false ∧
      files.get? place.location = none ∧
      changed = files.put place.directory place.name (.link target) := by
  obtain ⟨found, placed, made⟩ := bind_eq_ok_iff.1 made
  cases found with
  | none => cases made
  | some place =>
    cases missing : files.get? place.location with
    | some entry =>
      simp only [missing] at made
      cases made
    | none =>
      simp only [missing] at made
      cases slashed : place.slashed with
      | true =>
        simp only [slashed, if_true] at made
        cases made
      | false =>
        simp only [slashed, if_false, Bool.false_eq_true] at made
        exact ⟨place, placed, slashed, missing, (Except.ok.inj made).symm⟩

theorem placement_of_removeFile {path : Path} {changed : FileSystem}
    (removed : files.removeFile path = .ok changed) :
    ∃ place, files.placement path = .ok (some place) ∧ place.slashed = false ∧
      files.get? place.location ≠ some .directory ∧ changed = files.erase place.location := by
  obtain ⟨found, placed, made⟩ := bind_eq_ok_iff.1 removed
  cases found with
  | none => cases made
  | some place =>
    cases stands : files.get? place.location with
    | none =>
      simp only [stands] at made
      cases made
    | some entry =>
      simp only [stands] at made
      cases entry with
      | directory => cases made
      | file _ | link _ =>
        cases slashed : place.slashed with
        | true =>
          simp only [slashed, if_true] at made
          cases made
        | false =>
          simp only [slashed, if_false, Bool.false_eq_true] at made
          exact ⟨place, placed, slashed, by simp [stands], (Except.ok.inj made).symm⟩

/-- A file or link may have been taken away from where a path leads. -/
inductive Vacates (files : FileSystem) (path : Path) : FileSystem → Prop
  | kept : Vacates files path files
  | erased {place : Placement} : files.placement path = .ok (some place) →
    place.slashed = false → files.get? place.location ≠ some .directory →
    Vacates files path (files.erase place.location)

theorem Vacates.extends {path : Path} {present : FileSystem}
    (vacates : Vacates files path present) : files.Extends present := by
  cases vacates with
  | kept => exact ⟨id, rfl⟩
  | erased => exact extends_erase files _

/-- Steps put an entry where a path leads, if they succeed, and change nothing if they fail. The
entry fits into other files, which nothing but that place was taken away from. -/
structure Refills {Failure : Type} (origin : Location → Prop) (files : FileSystem) (path : Path)
    (action : ExceptT Failure (StateM FileSystem) Unit) (present : FileSystem) : Prop where
  failed : ∀ {failure after}, action.run present = (.error failure, after) → after = present
  done : ∀ {after}, action.run present = (.ok (), after) → ∃ place entry,
    present.placement path = .ok (some place) ∧ place.slashed = false ∧
    present.get? place.location ≠ some .directory ∧ Fits origin files place.location entry ∧
    after = present.put place.directory place.name entry

/-- Where a place is refilled that was vacated, the entry might as well have come at once. -/
theorem Refills.arrival {Failure : Type} {origin : Location → Prop} {path : Path}
    {action : ExceptT Failure (StateM FileSystem) Unit} {present after : FileSystem}
    (refills : Refills origin files path action present) (vacates : Vacates files path present)
    (ran : action.run present = (.ok (), after)) : ∃ place entry,
      files.placement path = .ok (some place) ∧ place.slashed = false ∧
        files.Free place.directory place.name ∧ Fits origin files place.location entry ∧
        after = files.put place.directory place.name entry := by
  obtain ⟨place, entry, placed, unslashed, plain, fits, rfl⟩ := refills.done ran
  have before := vacates.extends.placement placed
  obtain ⟨-, -, standing, isName, -, -⟩ := placementFrom_eq_some_iff.1 before
  cases vacates with
  | kept => exact ⟨place, entry, placed, unslashed, ⟨standing, plain, isName⟩, fits, rfl⟩
  | erased placedBefore _ plainBefore =>
    obtain rfl := Option.some.inj (Except.ok.inj (before.symm.trans placedBefore))
    have free : files.Free place.directory place.name := ⟨standing, plainBefore, isName⟩
    exact ⟨place, entry, before, unslashed, free, fits, put_erase free entry⟩

/-! ### What steps are held to -/

/-- What steps in a region are held to: a relation between the states before and after them, which
allows what arrives there and what is taken away, and a property of states under which the links of
the region lead to no directory, and which stays when something arrives. -/
structure Guard (region origin : Location → Prop) (relation : FileSystem → FileSystem → Prop)
    (sound : FileSystem → Prop) : Prop where
  closed : Closed region
  changes : ∀ {before after}, relation before after → Changes region before after
  tame : ∀ {files}, sound files → Tame region files
  put : ∀ {files directory name entry}, sound files →
    Arrives region origin files directory name entry →
    relation files (files.put directory name entry) ∧ sound (files.put directory name entry)
  erase : ∀ {files location}, sound files → region location →
    files.get? location ≠ some .directory → relation files (files.erase location)

/-- Links that lead neither to a directory nor to nothing stay so. -/
theorem guard_settled {region : Location → Prop} (closed : Closed region)
    (origin : Location → Prop) : Guard region origin (Overwrites region origin) (Settled region) where
  closed := closed
  changes := Overwrites.changes
  tame := Settled.tame
  put settled arrives := ⟨.put arrives, settled.put arrives⟩
  erase _ := .erase

/-- A supply of sources from which links are made: what is read from one of them is one too, and a
file that one leads to is at a location of the origin. -/
structure Supplies (relation : FileSystem → FileSystem → Prop) (base : FileSystem)
    (origin : Location → Prop) (supply : Path → Prop) : Prop where
  child : ∀ {source name}, supply source → expectPath source = .ok () → IsName name →
    supply (source.child name)
  file : ∀ {source present location content}, supply source → relation base present →
    present.resolve source = .ok location → present.get? location = some (.file content) →
    origin location

/-- Where any link may lead, no source need be looked at. -/
theorem supplies_all (relation : FileSystem → FileSystem → Prop) (base : FileSystem) :
    Supplies relation base (fun _ => True) fun _ => True :=
  ⟨fun _ _ _ => trivial, fun _ _ _ _ => trivial⟩

/-- Copies are made from anywhere. -/
theorem supplies_of_copy {relation : FileSystem → FileSystem → Prop} {base : FileSystem}
    {origin : Location → Prop} {supplied : Prop} (linked : Transfer.copy = .link) :
    Supplies relation base origin (fun _ => True) ∧ supplied := by
  cases linked

/-! ### A fresh directory -/

/-- A path names a directory that nothing stands in. -/
structure Fresh (files : FileSystem) (path : Path) (place : Placement) : Prop where
  placement : files.placement path = .ok (some place)
  directory : files.get? place.location = some .directory
  empty : ∀ {location}, within place.location location = true → location ≠ place.location →
    files.get? location = none

/-- A directory that was just made is fresh, and nothing else has changed. -/
theorem exists_fresh_of_createDirectory {path : Path} {made : FileSystem}
    (done : files.createDirectory path = .ok made) : ∃ place,
    files.placement path = .ok (some place) ∧ files.get? place.location = none ∧
      made = files.put place.directory place.name .directory ∧ made.Fresh path place := by
  cases placed : files.placement path with
  | error failure =>
    rw [createDirectory, placed] at done
    cases done
  | ok found =>
    cases found with
    | none =>
      rw [createDirectory, placed] at done
      cases done
    | some place =>
      rw [createDirectory_of_placement placed] at done
      obtain ⟨-, -, standing, isName, -⟩ := placementFrom_eq_some_iff.1 placed
      cases missing : files.get? place.location with
      | some entry => simp [missing] at done
      | none =>
        simp only [missing, Except.ok.injEq] at done
        subst done
        have free : files.Free place.directory place.name :=
          ⟨standing, by rw [← Placement.location, missing]; simp, isName⟩
        -- Nothing stood where the directory is made, so the path leads there as before.
        have kept : ∀ {location entry}, files.get? location = some entry →
            (files.put place.directory place.name .directory).get? location = some entry := by
          intro location entry stands
          rw [get?_put_of_ne files .directory, stands]
          rintro rfl
          rw [Placement.location] at missing
          rw [missing] at stands
          cases stands
        refine ⟨place, rfl, missing, rfl, ?_, get?_put_self .directory free, ?_⟩
        · exact Extends.placement ⟨kept, workingDirectory_put ..⟩ placed
        · intro location inside different
          rw [get?_put_of_ne files .directory different]
          exact get?_eq_none_of_within inside missing

/-- The path of a fresh directory leads to it, and there are no links in it. -/
theorem Fresh.opensAt {path : Path} {place : Placement} (fresh : files.Fresh path place) :
    files.OpensAt path place.location where
  walk := ⟨place.links, follow_of_placement fresh.placement fresh.directory⟩
  directory _ := fresh.directory

/-- What comes below a fresh directory takes nothing away. -/
theorem Fresh.extends {path : Path} {place : Placement} (fresh : files.Fresh path place)
    (changes : Changes (Below place.location) files after) : after.Extends files := by
  refine ⟨fun {location entry} stands => ?_, changes.workingDirectory⟩
  rw [changes.outside, stands]
  intro below
  rw [fresh.empty below.2 below.1] at stands
  cases stands

theorem Fresh.settled {path : Path} {place : Placement} (fresh : files.Fresh path place) :
    Settled (Below place.location) files := by
  intro name directory target below linked
  rw [fresh.empty below.2 below.1] at linked
  cases linked

end FileSystem

namespace FileAction

open FileSystem

variable {files base : FileSystem} {root path : Path} {site : Location} {name : String}

theorem run_ask {Result : Type} (question : FileSystem → Except FileError Result)
    (files : FileSystem) : (ask question).run files = (question files, files) := by
  rw [ask, run_bind, run_get]
  cases answer : question files <;> simp only [answer] <;> rfl

theorem run_change (operation : FileSystem → Except FileError FileSystem) (files : FileSystem) :
    (change operation).run files = match operation files with
      | .ok changed => (.ok (), changed)
      | .error failure => (.error failure, files) := by
  rw [change, run_bind, run_get]
  cases answer : operation files <;> simp only [answer] <;> rfl

theorem upholds_ask {Result : Type} {relation : FileSystem → FileSystem → Prop}
    [IsPreorder FileSystem relation] {sound : FileSystem → Prop} (holds : sound files)
    (question : FileSystem → Except FileError Result) :
    Upholds relation sound (ask question) files :=
  Upholds.of_eq (by rw [run_ask]) holds

theorem readDirectory_eq_ok {names : List String} (read : files.readDirectory path = .ok names) :
    expectPath path = .ok () ∧ ∀ name ∈ names, IsName name := by
  obtain ⟨directory, resolved, read⟩ := bind_eq_ok_iff.1 read
  obtain ⟨_, -, read⟩ := bind_eq_ok_iff.1 read
  obtain rfl := Except.ok.inj read
  refine ⟨(resolve_eq_ok_iff.1 resolved).1, fun name member => ?_⟩
  have stands := (files.mem_names directory name).1 member
  exact files.isName_of_get? (Option.isSome_iff_ne_none.1 stands)

/-- Taking away what stands where a path leads vacates the place. -/
theorem vacates_removeFile (files : FileSystem) (path : Path) :
    Vacates files path ((change (·.removeFile path)).run files).2 := by
  rw [run_change]
  cases removed : files.removeFile path with
  | error failure => exact .kept
  | ok changed =>
    obtain ⟨place, placed, unslashed, plain, rfl⟩ := placement_of_removeFile removed
    exact .erased placed unslashed plain

/-- Nothing is left where a file or link was taken away. -/
theorem missing_of_removeFile {present : FileSystem} {place : Placement}
    (removed : files.removeFile path = .ok present)
    (placed : present.placement path = .ok (some place)) : present.get? place.location = none := by
  obtain ⟨other, placedBefore, -, plain, rfl⟩ := placement_of_removeFile removed
  have before := (extends_erase files other.location).placement placed
  obtain rfl := Option.some.inj (Except.ok.inj (before.symm.trans placedBefore))
  exact get?_erase_self plain

theorem refills_change {origin : Location → Prop} {present : FileSystem}
    {operation : FileSystem → Except FileError FileSystem}
    (puts : ∀ changed, operation present = .ok changed → ∃ place entry,
      present.placement path = .ok (some place) ∧ place.slashed = false ∧
      present.get? place.location ≠ some .directory ∧ Fits origin files place.location entry ∧
      changed = present.put place.directory place.name entry) :
    Refills origin files path (change operation) present := by
  constructor
  · intro failure after failed
    rw [run_change] at failed
    cases answer : operation present with
    | error other =>
      simp only [answer] at failed
      exact (Prod.mk.inj failed).2.symm
    | ok changed =>
      simp only [answer] at failed
      cases (Prod.mk.inj failed).1
  · intro after done
    rw [run_change] at done
    cases answer : operation present with
    | error other =>
      simp only [answer] at done
      cases (Prod.mk.inj done).1
    | ok changed =>
      simp only [answer] at done
      obtain ⟨-, rfl⟩ := Prod.mk.inj done
      exact puts changed answer

theorem refills_ask {origin : Location → Prop} {present : FileSystem} {Result : Type}
    {question : FileSystem → Except FileError Result} {next : Result → FileAction Unit}
    (answered : ∀ value, question present = .ok value →
      Refills origin files path (next value) present) :
    Refills origin files path (ask question >>= next) present := by
  cases answer : question present with
  | error failure =>
    have ran : (ask question >>= next).run present = (.error failure, present) := by
      rw [run_bind, run_ask, answer]
    refine ⟨fun failed => ?_, fun done => ?_⟩
    · rw [ran] at failed
      exact (Prod.mk.inj failed).2.symm
    · rw [ran] at done
      cases (Prod.mk.inj done).1
  | ok value =>
    have ran : (ask question >>= next).run present = (next value).run present := by
      rw [run_bind, run_ask, answer]
    refine ⟨fun failed => ?_, fun done => ?_⟩
    · exact (answered value answer).failed (ran ▸ failed)
    · exact (answered value answer).done (ran ▸ done)

/-- A file that is written where no link stands refills the place. -/
theorem refills_writeFile {origin : Location → Prop} {present : FileSystem} {content : Content}
    (unlinked : ∀ place target, present.placement path = .ok (some place) → place.slashed = false →
      present.get? place.location ≠ some (.link target)) :
    Refills origin files path (change (·.writeFile path content)) present := by
  refine refills_change fun changed written => ?_
  obtain ⟨place, placed, unslashed, plain, rfl⟩ := placement_of_writeFile written unlinked
  exact ⟨place, _, placed, unslashed, plain, .file content, rfl⟩

/-- Directories are made one by one, and each that is made upholds what is asked. -/
theorem upholds_createFirst {relation : FileSystem → FileSystem → Prop}
    [IsPreorder FileSystem relation] {sound : FileSystem → Prop} {paths : List Path}
    (holds : sound files)
    (makes : ∀ path ∈ paths, ∀ present, relation files present → sound present →
      ∀ changed, present.createDirectory path = .ok changed →
        relation present changed ∧ sound changed) :
    Upholds relation sound (createFirst paths) files := by
  have stands : ∀ (path : Path) (failure : FileError) present, sound present →
      Upholds relation sound (do
        if (← MonadState.get).isDirectory path then pure () else throw failure : FileAction Unit)
        present := by
    intro path failure present stillHolds
    refine Upholds.get ?_
    split
    · exact Upholds.pure () stillHolds
    · exact Upholds.throw failure
  induction paths with
  | nil => exact Upholds.throw _
  | cons path above inductionHypothesis =>
    have makesHere := makes path List.mem_cons_self
    rw [createFirst]
    split
    · exact Upholds.pure () holds
    · refine Upholds.get ?_
      cases made : files.createDirectory path with
      | ok changed =>
        obtain ⟨changes, stillHolds⟩ := makesHere files (Std.Refl.refl files) holds changed made
        exact Upholds.set changes stillHolds
      | error failure =>
        cases failure with
        | notFound =>
          have first : Upholds relation sound (createFirst above) files :=
            inductionHypothesis fun other member => makes other (List.mem_cons_of_mem path member)
          refine Upholds.bind first fun _ present _ reached stillHolds => Upholds.get ?_
          cases again : present.createDirectory path with
          | ok changed =>
            obtain ⟨changes, holdsAgain⟩ := makesHere present reached stillHolds changed again
            exact Upholds.set changes holdsAgain
          | error failure => exact stands path failure present stillHolds
        | _ => exact stands path _ files holds

/-- What is done to place a file once there is room for it. -/
def arrive (transfer : Transfer) (source target : Path) : FileAction Unit :=
  match transfer with
  | .copy => change (·.copyFile source target)
  | .link => do
    let absolute ← ask (·.canonical source)
    change (·.createLink absolute target)

/-- Where nothing stands a file arrives, as a copy or as a link. -/
theorem refills_arrive {origin : Location → Prop} {files present : FileSystem} {path source : Path}
    {transfer : Transfer} (plain : files.isDirectory source = false)
    (supplied : transfer = .link → ∀ location content, files.resolve source = .ok location →
      files.get? location = some (.file content) → origin location)
    (more : files.Extends present)
    (vacant : ∀ place, present.placement path = .ok (some place) → place.slashed = false →
      present.get? place.location = none) :
    Refills origin files path (arrive transfer source path) present := by
  cases transfer with
  | copy =>
    refine refills_change fun changed copied => ?_
    obtain ⟨location, -, copied⟩ := bind_eq_ok_iff.1 copied
    split at copied
    · obtain ⟨place, placed, unslashed, plain, rfl⟩ := placement_of_writeFile copied
        fun place target placed unslashed => by simp [vacant place placed unslashed]
      exact ⟨place, _, placed, unslashed, plain, .file _, rfl⟩
    · cases copied
  | link =>
    refine refills_ask fun absolute canonical => refills_change fun changed made => ?_
    obtain ⟨place, placed, unslashed, missing, rfl⟩ := placement_of_createLink made
    -- The source is a file, and it is not at the place, where nothing stands.
    cases resolved : present.resolve source with
    | error failure =>
      rw [FileSystem.canonical, resolved] at canonical
      cases canonical
    | ok location =>
      rw [FileSystem.canonical, resolved] at canonical
      obtain rfl := Except.ok.inj canonical
      obtain ⟨-, ⟨left, walk⟩, stands⟩ := resolve_eq_ok_iff.1 resolved
      have before := more.resolve resolved
      have file : ∃ content, files.get? location = some (.file content) := by
        obtain ⟨entry, found, unlinked⟩ := standing_of_follow walk source.steps_ne_nil
        have foundBefore := more.entry found
        cases entry with
        | file content => exact ⟨content, foundBefore⟩
        | link target => exact absurd rfl (unlinked target)
        | directory => simp [isDirectory, before, foundBefore] at plain
      obtain ⟨content, file⟩ := file
      refine ⟨place, _, placed, unslashed, by simp [missing], .link ?_ file
        (supplied rfl location content before file), rfl⟩
      rintro rfl
      exact stands missing

section Guard

variable {region origin : Location → Prop} {relation : FileSystem → FileSystem → Prop}
  {sound : FileSystem → Prop} {more : List String} [IsPreorder FileSystem relation]
  (guard : Guard region origin relation sound) (opens : base.OpensAt root site)
  (tame : Tame region base) (kept : relation base files) (holds : sound files)

include guard opens tame kept holds

/-- Directories on the way to a place below the site are made as they may arrive. -/
theorem upholds_createDirectories (prolongs : path.Prolongs root more) (inward : ".." ∉ more)
    (enters : Enters region site more) :
    Upholds relation sound (createDirectories path) files := by
  refine upholds_createFirst holds fun above member present reached stillHolds changed made => ?_
  obtain ⟨isAbsolute, front⟩ := path.ancestors_parts above member
  obtain ⟨directory, name, arrives, rfl⟩ := exists_arrival_of_createDirectory opens tame
    (guard.changes (IsTrans.trans _ _ _ kept reached)) guard.closed (guard.tame stillHolds)
    (isAbsolute.trans prolongs.isAbsolute) (prolongs.parts ▸ front) inward enters made
  exact guard.put stillHolds arrives

omit [IsPreorder FileSystem relation] in
/-- The place of a path that a file or link is written to lies in the region. -/
theorem region_of_unslashed (prolongs : path.Prolongs root more) (inward : ".." ∉ more)
    (enters : Enters region site more)
    (ends : path.segments.getLast? = some "" ∨ more ≠ []) {place : Placement}
    (placed : files.placement path = .ok (some place)) (unslashed : place.slashed = false) :
    region place.location := by
  have moves : more ≠ [] := by
    refine ends.resolve_left fun slashed => ?_
    obtain ⟨-, -, -, -, -, same⟩ := placementFrom_eq_some_iff.1 placed
    rw [unslashed, slashed] at same
    cases same
  exact (location_of_placement opens tame (guard.changes kept) guard.closed (guard.tame holds)
    prolongs moves inward enters placed).2

/-- A file or link is taken away and another entry is put in its place. -/
theorem upholds_refill {Failure : Type} {first second : ExceptT Failure (StateM FileSystem) Unit}
    (prolongs : path.Prolongs root more) (inward : ".." ∉ more) (enters : Enters region site more)
    (ends : path.segments.getLast? = some "" ∨ more ≠ [])
    (vacates : Vacates files path (first.run files).2)
    (refills : ∀ present, first.run files = (.ok (), present) →
      Refills origin files path second present) :
    Upholds relation sound (first >>= fun _ => second) files := by
  have inside : ∀ {place}, files.placement path = .ok (some place) → place.slashed = false →
      region place.location :=
    region_of_unslashed guard opens tame kept holds prolongs inward enters ends
  have vacated : ∀ {present}, Vacates files path present → relation files present := by
    intro present vacates
    cases vacates with
    | kept => exact Std.Refl.refl files
    | erased placed unslashed plain => exact guard.erase holds (inside placed unslashed) plain
  rcases ran : first.run files with ⟨failure | _, present⟩
  · rw [ran] at vacates
    exact .of_run (by rw [run_bind, ran]) (vacated vacates) fun _ failed => by cases failed
  · rw [ran] at vacates
    have whole : (first >>= fun _ => second).run files = second.run present := by
      rw [run_bind, ran]
    have refill := refills present ran
    rcases again : second.run present with ⟨failure | _, after⟩
    · obtain rfl := refill.failed again
      exact .of_run (whole.trans again) (vacated vacates) fun _ failed => by cases failed
    · obtain ⟨place, entry, placed, unslashed, free, fits, rfl⟩ := refill.arrival vacates again
      obtain ⟨changes, stillHolds⟩ := guard.put holds ⟨free, inside placed unslashed, fits⟩
      exact .of_run (whole.trans again) changes fun _ _ => stillHolds

/-- A file that is placed, as a copy or as a link, arrives where its path leads. -/
theorem upholds_place {transfer : Transfer} {source : Path} (prolongs : path.Prolongs root more)
    (inward : ".." ∉ more) (enters : Enters region site more) (moves : more ≠ [])
    (plain : files.isDirectory source = false)
    (supplied : transfer = .link → ∀ location content, files.resolve source = .ok location →
      files.get? location = some (.file content) → origin location) :
    Upholds relation sound (place transfer source path) files := by
  refine Upholds.get ?_
  have refills : ∀ present, files.Extends present →
      (∀ place, present.placement path = .ok (some place) → place.slashed = false →
        present.get? place.location = none) →
      Refills origin files path (arrive transfer source path) present :=
    fun present more vacant => refills_arrive plain supplied more vacant
  cases standing : files.standing path with
  | error failure =>
    show Upholds relation sound (pure () >>= fun _ => _) files
    refine upholds_refill guard opens tame kept holds prolongs inward enters (.inr moves) .kept
      fun present ran => ?_
    obtain ⟨-, rfl⟩ := Prod.mk.inj ran
    exact refills files ⟨id, rfl⟩ fun place placed unslashed =>
      missing_of_standing_eq_error placed unslashed standing
  | ok entry =>
    refine upholds_refill guard opens tame kept holds prolongs inward enters (.inr moves)
      (vacates_removeFile files path) fun present ran => ?_
    have vacates := vacates_removeFile files path
    rw [ran] at vacates
    refine refills present vacates.extends fun place placed _ => ?_
    rw [run_change] at ran
    cases removed : files.removeFile path with
    | error failure =>
      simp only [removed] at ran
      cases (Prod.mk.inj ran).1
    | ok changed =>
      simp only [removed] at ran
      obtain ⟨-, rfl⟩ := Prod.mk.inj ran
      exact missing_of_removeFile removed placed

/-- What is laid over a directory arrives below it. -/
theorem upholds_overlayWithin {transfer : Transfer} (levels : Nat) {source : Path}
    {supply : Path → Prop} (prolongs : path.Prolongs root more) (inward : ".." ∉ more)
    (enters : ∀ names, (∀ name ∈ names, IsName name) → Enters region site (more ++ names))
    (supplies : transfer = .link → Supplies relation base origin supply ∧ supply source) :
    Upholds relation sound (overlayWithin transfer levels source path) files := by
  induction levels generalizing source path more files with
  | zero => exact Upholds.throw _
  | succ levels inductionHypothesis =>
    have entersHere : Enters region site more := by simpa using enters [] (by simp)
    refine Upholds.bind (upholds_createDirectories guard opens tame kept holds prolongs inward
      entersHere) fun _ opened _ reached stillHolds => ?_
    refine Upholds.bind (upholds_ask stillHolds _) fun names after asked _ holdsAfter => ?_
    rw [run_ask] at asked
    obtain ⟨read, rfl⟩ := Prod.mk.inj asked
    obtain ⟨expected, named⟩ := readDirectory_eq_ok read
    refine Upholds.forM stillHolds fun name member present arrived holdsNow => ?_
    have isName := named name member
    have keptNow := IsTrans.trans _ _ _ kept (IsTrans.trans _ _ _ reached arrived)
    have inwardName : ".." ∉ more ++ [name] := by
      simp [inward, Ne.symm isName.2.2.1]
    have suppliesChild : transfer = .link →
        Supplies relation base origin supply ∧ supply (source.child name) := fun linked =>
      ⟨(supplies linked).1, (supplies linked).1.child (supplies linked).2 expected isName⟩
    refine Upholds.get ?_
    cases deeper : present.isDirectory (source.child name) with
    | true =>
      refine inductionHypothesis keptNow holdsNow (prolongs.child isName) inwardName
        (fun names allNames => ?_) suppliesChild
      rw [List.append_assoc]
      exact enters (name :: names) (List.forall_mem_cons.2 ⟨isName, allNames⟩)
    | false =>
      refine upholds_place guard opens tame keptNow holdsNow (prolongs.child isName) inwardName
        (enters [name] (by simpa using isName)) (by simp) deeper fun linked location content => ?_
      exact (supplies linked).1.file (suppliesChild linked).2 keptNow

end Guard

end FileAction

end KernelExport
