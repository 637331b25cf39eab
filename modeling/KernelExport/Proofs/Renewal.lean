/-
This file says that nothing of a tree that was removed is found in the directory that is made in its
place.

Once a tree has been removed its path leads to no directory, whatever the path leads through.
Making directories along the path then makes the last one anew, so nothing stands in it. That takes
one assumption: no step upwards stands behind a name in the path (`RisesFirst`). If one does, the
directory may be made on the way to where the path leads in the end, or what the path leads through
may be made in another place than it stood before.
-/

import KernelExport.Proofs.Placing
import KernelExport.Proofs.Removal

namespace KernelExport

/-- All steps upwards in the path stand in front of its names. -/
def Path.RisesFirst (path : Path) : Prop :=
  path.parts.Pairwise fun earlier later => later = ".." → earlier = "." ∨ earlier = ".."

instance (path : Path) : Decidable path.RisesFirst :=
  inferInstanceAs (Decidable (List.Pairwise _ _))

namespace FileSystem

variable {files present after opened : FileSystem} {path above : Path} {place : Placement}
  {location : Location}

/-- A path to a directory that ends in a name leads to where something has that name. -/
theorem exists_placement_of_isDirectory {before : List String} {last : String}
    (parts : path.parts = before ++ [last]) (isName : IsName last)
    (stands : files.isDirectory path = true) :
    ∃ place, files.placement path = .ok (some place) ∧ files.get? place.location ≠ none := by
  obtain ⟨site, opensAt, resolved⟩ := opensAt_of_isDirectory stands
  obtain ⟨expected, -⟩ := resolve_eq_ok_iff.1 resolved
  obtain ⟨left, walk⟩ := opensAt.walk
  rw [parts, follow_append] at walk
  obtain ⟨⟨directory, links⟩, first, second⟩ := bind_eq_ok_iff.1 walk
  have standing := directory_of_follow second (by simp)
  have found := stands_of_follow second isName
  have short : isTooLong last = false := by
    cases long : isTooLong last with
    | false => rfl
    | true =>
      have failed := (Follows.tooLong links directory last [] (expectDirectory_eq_ok_iff.2 standing)
        isName.2.1 isName.2.2.1 long).eq
      have step : files.follow links directory [last] = .ok (site, left) := second
      rw [failed] at step
      cases step
  exact ⟨⟨directory, last, path.segments.getLast? == some "", links⟩,
    placementFrom_eq_some_iff.2 ⟨expected, ⟨before, parts, first⟩, standing, isName, short, rfl⟩,
    found⟩

/-! ### Fresh directories -/

/-- A path behind one to a fresh directory, that does not lead upwards from there, leads to no
directory. -/
theorem Fresh.not_isDirectory (fresh : files.Fresh above place)
    (absolute : above.isAbsolute = path.isAbsolute) {stays more : List String} {last : String}
    (parts : path.parts = above.parts ++ stays ++ last :: more)
    (still : ∀ part ∈ stays, part = ".") (moves : last ≠ ".") (downwards : last ≠ "..") :
    files.isDirectory path = false := by
  rw [← Bool.not_eq_true]
  intro stands
  obtain ⟨site, opensAt, -⟩ := opensAt_of_isDirectory stands
  obtain ⟨left, walk⟩ := opensAt.walk
  have inPath : last ∈ path.parts := by
    rw [parts]
    simp
  obtain ⟨inSegments, solid⟩ := List.mem_filter.1 inPath
  have isName : IsName last :=
    ⟨by simpa using solid, moves, downwards, path.slashless last inSegments⟩
  have begins : start path files.workingDirectory = start above files.workingDirectory := by
    rw [start, start, absolute]
  rw [parts, begins, List.append_assoc, follow_append,
    follow_of_placement fresh.placement fresh.directory] at walk
  have onwards : files.follow place.links place.location (stays ++ last :: more) =
    .ok (site, left) := walk
  -- The steps that stay end where they start.
  have stayed : ∀ {steps : List String}, (∀ part ∈ steps, part = ".") →
      files.follow place.links place.location steps = .ok (place.location, place.links) := by
    intro steps each
    induction steps with
    | nil => exact follow_nil ..
    | cons step rest inductionHypothesis =>
      obtain ⟨isDot, eachRest⟩ := List.forall_mem_cons.1 each
      subst isDot
      exact (Follows.dot _ _ _ (expectDirectory_eq_ok_iff.2 fresh.directory)
        (follows_iff.2 (inductionHypothesis eachRest))).eq
  rw [follow_append, stayed still] at onwards
  exact stands_of_follow onwards isName
    (fresh.empty (within_parent (within_self _)) (ne_of_within last (within_self _)))

end FileSystem

namespace FileAction

open FileSystem

variable {files present after opened : FileSystem} {path source : Path} {place : Placement}
  {location : Location}

/-- Where the steps upwards in a path stand in front, a directory that is made along it, and did not
stand before, is fresh. -/
theorem fresh_of_createDirectories (rises : path.RisesFirst)
    (ran : (createDirectories path).run files = (.ok (), opened)) :
    path.isEmpty = true ∧ opened = files ∨ files.isDirectory path = true ∨
      ∃ place, opened.Fresh path place := by
  induction path using Path.ancestors.induct generalizing files opened with
  | case1 path none =>
    rw [createDirectories, Path.ancestors, none] at ran
    rcases createFirst_cases ran with empty | made | ⟨stands, -⟩ | ⟨_, impossible, -⟩
    · exact .inl empty
    · obtain ⟨place, -, -, -, fresh⟩ := exists_fresh_of_createDirectory made
      exact .inr (.inr ⟨place, fresh⟩)
    · exact .inr (.inl stands)
    · cases impossible
  | case2 path above isParent inductionHypothesis =>
    rw [createDirectories, Path.ancestors, isParent] at ran
    obtain ⟨absolute, front⟩ := Path.parent?_parts isParent
    rcases createFirst_cases ran with empty | made | ⟨stands, -⟩ | ⟨present, first, second⟩
    · exact .inl empty
    · obtain ⟨place, -, -, -, fresh⟩ := exists_fresh_of_createDirectory made
      exact .inr (.inr ⟨place, fresh⟩)
    · exact .inr (.inl stands)
    · rcases second with made | ⟨stands, rfl⟩
      · obtain ⟨place, -, -, -, fresh⟩ := exists_fresh_of_createDirectory made
        exact .inr (.inr ⟨place, fresh⟩)
      · refine .inr (.inl ?_)
        rcases inductionHypothesis (rises.sublist front.sublist) first with
          ⟨-, rfl⟩ | stood | ⟨place, fresh⟩
        · exact stands
        · obtain rfl : files = opened :=
            (Prod.mk.inj ((run_createDirectories_of_isDirectory stood).symm.trans first)).2
          exact stands
        · obtain ⟨-, ⟨before, partsAbove, -⟩, -, isName, -⟩ :=
            placementFrom_eq_some_iff.1 fresh.placement
          rcases Path.parent?_rest isParent with empty | ⟨stays, last, more, parts, still, moves⟩
          · rw [Path.isEmpty, Bool.or_eq_true, beq_iff_eq, beq_iff_eq] at empty
            rcases empty with segments | segments <;> simp [Path.parts, segments] at partsAbove
          · have downwards : last ≠ ".." := by
              rintro rfl
              have order : path.parts.Pairwise _ := rises
              rw [parts, partsAbove, List.pairwise_append] at order
              have behind := order.2.2 place.name (by simp) ".." List.mem_cons_self rfl
              exact behind.elim isName.2.1 isName.2.2.1
            rw [fresh.not_isDirectory absolute parts still moves downwards] at stands
            cases stands

/-! ### Removed trees -/

/-- Where a directory went once it was empty, or something else was missing, nothing is left. -/
theorem missing_of_emptied {result : Except FileError Unit}
    (ran : emptied path location files = (result, after))
    (ended : result = .ok () ∨ result = .error .notFound)
    (placed : after.placement path = .ok (some place)) :
    after.get? place.location = none := by
  rw [emptied] at ran
  split at ran
  · rename_i failure failed
    obtain ⟨-, rfl⟩ := Prod.mk.inj ran
    rw [failed] at placed
    cases placed
  · rename_i nowhere
    obtain ⟨-, rfl⟩ := Prod.mk.inj ran
    rw [nowhere] at placed
    cases placed
  · rename_i other placedBefore
    split at ran
    · rename_i here
      obtain ⟨-, rfl⟩ := Prod.mk.inj ran
      have stillPlaced := (extends_erase files location).placement placed
      obtain rfl := Option.some.inj (Except.ok.inj (stillPlaced.symm.trans placedBefore))
      rw [get?_erase, if_pos]
      exact ⟨List.cons_ne_nil _ _, by rw [here, within_self]⟩
    · obtain ⟨rfl, rfl⟩ := Prod.mk.inj ran
      obtain rfl := Option.some.inj (Except.ok.inj (placed.symm.trans placedBefore))
      by_contra stands
      rcases ended with impossible | impossible <;> simp [stands] at impossible

/-- Where a tree was removed, or there was none, nothing is left. -/
theorem missing_of_removeAll {result : Except FileError Unit}
    (ran : (removeAll path).run files = (result, after))
    (ended : result = .ok () ∨ result = .error .notFound)
    (placed : after.placement path = .ok (some place)) (unslashed : place.slashed = false) :
    after.get? place.location = none := by
  rw [run_removeAll_eq] at ran
  split at ran
  · rename_i failure failed
    obtain ⟨-, rfl⟩ := Prod.mk.inj ran
    exact missing_of_standing_eq_error placed unslashed failed
  · obtain ⟨rfl, -⟩ := Prod.mk.inj ran
    rcases ended with impossible | impossible <;> cases impossible
  · rename_i target linked
    rw [run_change] at ran
    cases removed : files.removeFile path with
    | ok changed =>
      rw [removed] at ran
      obtain ⟨-, rfl⟩ := Prod.mk.inj ran
      exact missing_of_removeFile removed placed
    | error failure =>
      rw [removed] at ran
      obtain ⟨-, rfl⟩ := Prod.mk.inj ran
      rw [removeFile_of_placement placed, (standing_eq_ok_iff placed unslashed).1 linked] at removed
      simp [unslashed] at removed
  · rename_i standing
    split at ran
    · rename_i failure unresolved
      obtain ⟨-, rfl⟩ := Prod.mk.inj ran
      have found := (standing_eq_ok_iff placed unslashed).1 standing
      rw [resolve_of_placement placed found] at unresolved
      cases unresolved
    · exact missing_of_emptied ran ended placed

/-- Once a tree has been removed, its path leads to no directory. -/
theorem not_isDirectory_of_removeTree {before : List String} {last : String}
    (parts : path.parts = before ++ [last]) (isName : IsName last)
    (unslashed : path.segments.getLast? ≠ some "")
    (ran : (removeTree path).run files = (.ok (), after)) : after.isDirectory path = false := by
  rw [← Bool.not_eq_true]
  intro stands
  obtain ⟨place, placed, found⟩ := exists_placement_of_isDirectory parts isName stands
  have plain : place.slashed = false := by
    obtain ⟨-, -, -, -, -, slashed⟩ := placementFrom_eq_some_iff.1 placed
    rw [slashed]
    simpa using unslashed
  rw [removeTree, run_tryCatch] at ran
  rcases removal : (removeAll path).run files with ⟨failure | _, left⟩
  · rw [removal] at ran
    cases failure with
    | notFound =>
      obtain ⟨-, rfl⟩ := Prod.mk.inj ran
      exact found (missing_of_removeAll removal (.inr rfl) placed plain)
    | _ => cases (Prod.mk.inj ran).1
  · rw [removal] at ran
    obtain ⟨-, rfl⟩ := Prod.mk.inj ran
    exact found (missing_of_removeAll removal (.inl rfl) placed plain)

end FileAction

end KernelExport
