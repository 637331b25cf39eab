/-
This file says what removing a tree takes away: what stands at one location and below it, and at
most an empty directory is left there (`Clears`).

The path of a tree is walked three times while it is removed, the last time when nothing stands
below its location any more, so that it may not lead there again. It does for a directory that was
made in files from before, if nothing has changed since but at its location and below: each walk
goes through what stood then. Removing it brings those files back.
-/

import KernelExport.Proofs.Confinement

namespace KernelExport

namespace FileSystem

variable {initial files : FileSystem} {place : Placement}

/-- Nothing but what stood before is left without a location and all below it. -/
theorem erase_eraseBelow (agrees : initial.AgreesOff place.location files)
    (missing : initial.get? place.location = none) :
    (files.eraseBelow place.location).erase place.location = initial := by
  refine ext_get? (fun location => ?_) agrees.workingDirectory
  rw [get?_erase, get?_eraseBelow]
  by_cases root : location = []
  · simp [root]
  · cases inside : within place.location location with
    | false => simp [agrees.outside inside]
    | true => simp [root, get?_eq_none_of_within inside missing]

theorem standing_of_placement {path : Path} (placed : files.placement path = .ok (some place))
    (standing : files.get? place.location = some .directory) :
    files.standing path = .ok .directory := by
  have resolved := resolve_of_placement placed standing
  rw [FileSystem.standing, placed]
  cases slashed : place.slashed <;>
    simp [bind, Except.bind, pure, Except.pure, slashed, resolved, standing]

/-- Nothing stands at a location or below it any more but perhaps a directory that stood there, and
nothing else has changed. -/
structure Clears (location : Location) (before after : FileSystem) : Prop where
  workingDirectory : after.workingDirectory = before.workingDirectory
  outside : ∀ {other}, within location other = false → after.get? other = before.get? other
  inside : ∀ {other}, within location other = true → after.get? other = none ∨
    after.get? other = some .directory ∧ before.get? other = some .directory

theorem Clears.eraseBelow {location : Location} (standing : files.get? location = some .directory) :
    Clears location files (files.eraseBelow location) := by
  refine ⟨rfl, fun outside => ?_, fun {other} inside => ?_⟩
  · rw [get?_eraseBelow, if_neg (by simp [outside])]
  · rw [get?_eraseBelow]
    split
    · exact .inl rfl
    · rename_i kept
      have same : other = location ∨ other = [] := by
        simpa only [inside, ne_eq, and_true, Classical.not_and_iff_not_or_not,
          Classical.not_not] using kept
      rcases same with rfl | rfl
      · exact .inr ⟨standing, standing⟩
      · exact .inr ⟨rfl, rfl⟩

theorem clears_erase (files : FileSystem) (location : Location) :
    Clears location files (files.erase location) := by
  refine ⟨rfl, fun outside => ?_, fun {other} inside => ?_⟩
  · rw [get?_erase, if_neg (by simp [outside])]
  · rw [get?_erase]
    split
    · exact .inl rfl
    · rename_i kept
      have root : other = [] := by simpa [inside] using kept
      subst root
      exact .inr ⟨rfl, rfl⟩

theorem Clears.erase {location : Location} {cleared : FileSystem}
    (clears : Clears location files cleared) : Clears location files (cleared.erase location) := by
  have more := clears_erase cleared location
  refine ⟨clears.workingDirectory, fun outside => (more.outside outside).trans
    (clears.outside outside), fun inside => ?_⟩
  rcases more.inside inside with gone | ⟨standing, stood⟩
  · exact .inl gone
  · exact (clears.inside inside).imp (fun gone => by rw [gone] at stood; cases stood)
      fun both => ⟨standing, both.2⟩

/-- A path whose last part is a name leads to a name or nowhere. -/
theorem placement_ne_none {path : Path} {before : List String} {last : String}
    (parts : path.parts = before ++ [last]) (isName : IsName last) :
    files.placement path ≠ .ok none := by
  intro placed
  rw [placement, placementFrom_of_parts _ _ parts] at placed
  obtain ⟨_, -, placed⟩ := bind_eq_ok_iff.1 placed
  obtain ⟨_, -, placed⟩ := bind_eq_ok_iff.1 placed
  obtain ⟨_, -, placed⟩ := bind_eq_ok_iff.1 placed
  rw [if_neg (by simp [isName.2.1, isName.2.2.1])] at placed
  split at placed <;> cases placed

/-- Where no link has the last name of a path, the path leads to the name. -/
theorem eq_of_resolve_of_placement {path : Path} {location : Location}
    (placed : files.placement path = .ok (some place))
    (unlinked : ∀ target, files.get? place.location ≠ some (.link target))
    (resolved : files.resolve path = .ok location) : location = place.location := by
  obtain ⟨-, ⟨before, written, walk⟩, standing, isName, short, -⟩ :=
    placementFrom_eq_some_iff.1 placed
  obtain ⟨-, ⟨left, whole⟩, -⟩ := resolve_eq_ok_iff.1 resolved
  have toName : ∀ {reached remaining},
      files.follow linkLimit (start path files.workingDirectory) path.parts =
        .ok (reached, remaining) → reached = place.location := by
    intro reached remaining parts
    rw [written, follow_append, walk] at parts
    have step : files.follow place.links place.directory [place.name] = .ok (reached, remaining) :=
      parts
    rw [follow_name _ standing isName unlinked, if_neg (by simp [short])] at step
    split at step
    · cases step
    · exact (Prod.mk.inj (Except.ok.inj step)).1.symm
  rcases path.steps_eq with steps | steps
  · rw [steps] at whole
    exact toName whole
  · rw [steps, follow_append] at whole
    obtain ⟨⟨reached, remaining⟩, first, last⟩ := bind_eq_ok_iff.1 whole
    have directory := directory_of_follow last (by simp)
    have same : files.follow remaining reached ["."] = .ok (location, left) := last
    rw [follow_dot remaining directory] at same
    rw [← (Prod.mk.inj (Except.ok.inj same)).1]
    exact toName first

end FileSystem

namespace FileAction

open FileSystem

variable {initial files : FileSystem} {root : Path} {place : Placement}

/-- What stands at a path is told by its place, if that is a name that no link has when a slash is
behind it. -/
theorem exists_placement_of_standing {path : Path} {before : List String} {last : String}
    {entry : Entry} (parts : path.parts = before ++ [last]) (isName : IsName last)
    (unlinked : ∀ place target, files.placement path = .ok (some place) → place.slashed = true →
      files.get? place.location ≠ some (.link target))
    (stands : files.standing path = .ok entry) :
    ∃ place, files.placement path = .ok (some place) ∧ files.get? place.location = some entry ∧
      (∀ target, entry = .link target → place.slashed = false) := by
  have whole := stands
  obtain ⟨found, placed, stands⟩ := bind_eq_ok_iff.1 stands
  cases found with
  | none => exact absurd placed (placement_ne_none parts isName)
  | some place =>
    cases slashed : place.slashed with
    | false =>
      exact ⟨place, placed, (standing_eq_ok_iff placed slashed).1 whole, fun _ _ => slashed⟩
    | true =>
      simp only [slashed, if_true] at stands
      obtain ⟨location, leads, stands⟩ := bind_eq_ok_iff.1 stands
      obtain rfl := eq_of_resolve_of_placement placed
        (fun target => unlinked place target placed slashed) leads
      cases found : files.get? place.location with
      | none =>
        simp only [found] at stands
        cases stands
      | some other =>
        simp only [found] at stands
        obtain rfl := Except.ok.inj stands
        refine ⟨place, placed, found, fun target linked => ?_⟩
        exact absurd (linked ▸ found) (unlinked place target placed slashed)

/-- What comes of a directory that a path led to, once all below it is gone: it goes as well, if the
path leads to it still. -/
def emptied (path : Path) (location : Location) (files : FileSystem) :
    Except FileError Unit × FileSystem :=
  match files.placement path with
  | .error failure => (.error failure, files)
  | .ok none =>
    (.error (if path.segments.getLast? = some ".." then .notEmpty else .invalidArgument), files)
  | .ok (some place) =>
    if place.location = location then (.ok (), files.erase location)
    else (.error (if (files.get? place.location).isNone then .notFound else .notDirectory), files)

/-- What is removed is told by what stands at the path. -/
theorem run_removeAll_eq (path : Path) (files : FileSystem) :
    (removeAll path).run files =
      match files.standing path with
      | .error failure => (.error failure, files)
      | .ok (.file _) => (.error .notDirectory, files)
      | .ok (.link _) => (change (·.removeFile path)).run files
      | .ok .directory =>
        match files.resolve path with
        | .error failure => (.error failure, files)
        | .ok location => emptied path location (files.eraseBelow location) := by
  rw [removeAll, run_bind, run_ask]
  cases files.standing path with
  | error failure => rfl
  | ok entry =>
    cases entry with
    | file _ | link _ => rfl
    | directory =>
      simp only []
      rw [run_bind, run_ask]
      cases files.resolve path with
      | error failure => rfl
      | ok location =>
        simp only []
        rw [run_bind, run_modify]
        simp only []
        rw [run_bind, run_ask, emptied]
        cases (files.eraseBelow location).placement path with
        | error failure => rfl
        | ok answer =>
          cases answer with
          | none => rfl
          | some place =>
            simp only []
            split
            · rw [run_modify]
            · rw [run_bind, run_get]
              simp only []
              split <;> rfl

theorem emptied_files (path : Path) (location : Location) (files : FileSystem) :
    (emptied path location files).2 = files ∨
      (emptied path location files).2 = files.erase location := by
  rw [emptied]
  split
  · exact .inl rfl
  · exact .inl rfl
  · split
    · exact .inr rfl
    · exact .inl rfl

/-- Removing what a path leads to fails and changes nothing, and if that is for want of something
nothing stands there; or it clears the place that the path leads to. -/
theorem run_removeAll_cases {path : Path} {before : List String} {last : String}
    (parts : path.parts = before ++ [last]) (isName : IsName last)
    (unlinked : ∀ place target, files.placement path = .ok (some place) → place.slashed = true →
      files.get? place.location ≠ some (.link target)) :
    (∃ failure, (removeAll path).run files = (.error failure, files) ∧
      (failure = .notFound → files.standing path = .error .notFound)) ∨
    ∃ place, files.placement path = .ok (some place) ∧
      Clears place.location files ((removeAll path).run files).2 := by
  rw [run_removeAll_eq]
  cases stands : files.standing path with
  | error failure => exact .inl ⟨failure, rfl, fun missing => by rw [missing]⟩
  | ok entry =>
    obtain ⟨place, placed, found, unslashed⟩ :=
      exists_placement_of_standing parts isName unlinked stands
    cases entry with
    | file content => exact .inl ⟨.notDirectory, rfl, fun other => by cases other⟩
    | link target =>
      have removed : files.removeFile path = .ok (files.erase place.location) := by
        rw [removeFile_of_placement placed, found]
        simp [unslashed target rfl]
      simp only [run_change, removed]
      exact .inr ⟨place, placed, clears_erase files place.location⟩
    | directory =>
      refine .inr ⟨place, placed, ?_⟩
      have clears := Clears.eraseBelow found
      simp only [resolve_of_placement placed found]
      rcases emptied_files path place.location (files.eraseBelow place.location) with same | erased
      · rwa [same]
      · rw [erased]
        exact clears.erase

/-- Removing a tree changes nothing, and succeeds then only if nothing stands where the path leads;
or it clears the place that the path leads to. -/
theorem run_removeTree_cases {path : Path} {before : List String} {last : String}
    (parts : path.parts = before ++ [last]) (isName : IsName last)
    (unlinked : ∀ place target, files.placement path = .ok (some place) → place.slashed = true →
      files.get? place.location ≠ some (.link target)) :
    (∃ result, (removeTree path).run files = (result, files) ∧
      (result = .ok () → files.standing path = .error .notFound)) ∨
    ∃ place, files.placement path = .ok (some place) ∧
      Clears place.location files ((removeTree path).run files).2 := by
  rw [removeTree, run_tryCatch]
  rcases run_removeAll_cases parts isName unlinked with ⟨failure, ran, missing⟩ | ⟨place, placed, clears⟩
  · rw [ran]
    cases failure with
    | notFound => exact .inl ⟨.ok (), rfl, fun _ => missing rfl⟩
    | _ => exact .inl ⟨_, rfl, fun impossible => by cases impossible⟩
  · refine .inr ⟨place, placed, ?_⟩
    rcases ran : (removeAll path).run files with ⟨failure | _, after⟩
    · rw [ran] at clears
      cases failure <;> exact clears
    · rwa [ran] at clears

theorem run_removeAll (placed : initial.placement root = .ok (some place))
    (missing : initial.get? place.location = none)
    (agrees : initial.AgreesOff place.location files)
    (standing : files.get? place.location = some .directory) :
    (removeAll root).run files = (.ok (), initial) := by
  have now := (agrees.extends missing).placement placed
  have rest : initial.AgreesOff place.location (files.eraseBelow place.location) := by
    refine ⟨agrees.workingDirectory, fun outside => ?_⟩
    rw [get?_eraseBelow, if_neg (by simp [outside]), agrees.outside outside]
  have stillPlaced := (rest.extends missing).placement placed
  rw [run_removeAll_eq, standing_of_placement now standing]
  simp only [resolve_of_placement now standing]
  rw [emptied, stillPlaced]
  simp only [if_true]
  rw [erase_eraseBelow agrees missing]

/-- Removing a directory that was made since brings back the files from before. -/
theorem run_removeTree (placed : initial.placement root = .ok (some place))
    (missing : initial.get? place.location = none)
    (agrees : initial.AgreesOff place.location files)
    (standing : files.get? place.location = some .directory) :
    (removeTree root).run files = (.ok (), initial) := by
  rw [removeTree, run_tryCatch, run_removeAll placed missing agrees standing]

end FileAction

end KernelExport
