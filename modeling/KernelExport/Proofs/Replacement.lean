/-
This file says that nothing changes but a tree when it is replaced by a copy of another one.

No link arrives with a copy (`Trims`). So where a tree was cleared, the copy arrives below directories
only, whatever the links elsewhere lead to by then: some of them may have led into the tree and lead
to nothing any more, which is why what was known about links before the tree was cleared is used for
the walk to it and not for what lies in it.
-/

import KernelExport.Proofs.OutputDirectory
import KernelExport.Proofs.Removal

namespace KernelExport

namespace FileSystem

variable {files before after : FileSystem} {site location : Location}

/-! ### No more links -/

/-- Nothing has changed but in the region, and every link stood before. -/
structure Trims (region : Location → Prop) (before after : FileSystem) : Prop where
  workingDirectory : after.workingDirectory = before.workingDirectory
  outside : ∀ {location}, ¬region location → after.get? location = before.get? location
  linked : ∀ {location target}, after.get? location = some (.link target) →
    before.get? location = some (.link target)

section Region

variable {region : Location → Prop}

instance : IsPreorder FileSystem (Trims region) where
  refl _ := ⟨rfl, fun _ => rfl, id⟩
  trans _ _ _ first second :=
    ⟨second.workingDirectory.trans first.workingDirectory,
      fun outside => (second.outside outside).trans (first.outside outside),
      fun linked => first.linked (second.linked linked)⟩

theorem Trims.trans {first second third : FileSystem} (earlier : Trims region first second)
    (later : Trims region second third) : Trims region first third :=
  IsTrans.trans first second third earlier later

theorem Trims.changes (trims : Trims region before after) : Changes region before after where
  workingDirectory := trims.workingDirectory
  outside := trims.outside
  linked linked standing := by
    rw [trims.linked linked] at standing
    cases standing

theorem Trims.mono {wider : Location → Prop} (trims : Trims region before after)
    (included : ∀ {location}, region location → wider location) : Trims wider before after where
  workingDirectory := trims.workingDirectory
  outside apart := trims.outside fun inside => apart (included inside)
  linked := trims.linked

theorem Overwrites.trims (overwrites : Overwrites region (fun _ => False) before after) :
    Trims region before after where
  workingDirectory := overwrites.workingDirectory
  outside := overwrites.outside
  linked linked := (overwrites.linked linked).resolve_right fun ⟨_, _, impossible⟩ => impossible

theorem Clears.unlinked (clears : Clears site before after) (inside : within site location = true)
    (target : Path) : after.get? location ≠ some (.link target) := by
  intro linked
  rcases clears.inside inside with gone | ⟨standing, -⟩
  · rw [linked] at gone
    cases gone
  · rw [linked] at standing
    cases standing

theorem Clears.trims (clears : Clears site before after) :
    Trims (fun location => within site location = true) before after where
  workingDirectory := clears.workingDirectory
  outside outside := clears.outside (by simpa using outside)
  linked {location target} linked := by
    cases inside : within site location with
    | false => rw [← clears.outside inside, linked]
    | true => exact absurd linked (clears.unlinked inside target)

/-- Where no link stands none arrives with copies. -/
theorem guard_trims (closed : Closed region) :
    Guard region (fun _ => False) (Trims region)
      fun files => ∀ location target, region location → files.get? location ≠ some (.link target) where
  closed := closed
  changes := Trims.changes
  tame unlinked := fun name directory target _ _ inside linked =>
    absurd linked (unlinked (name :: directory) target inside)
  put {files directory name entry} unlinked arrives := by
    have trims : Trims region files (files.put directory name entry) := (Overwrites.put arrives).trims
    exact ⟨trims, fun location target inside linked =>
      unlinked location target inside (trims.linked linked)⟩
  erase _ inside plain := (Overwrites.erase inside plain).trims

end Region

end FileSystem

namespace FileAction

open FileSystem

variable {files : FileSystem} {root directory source : Path} {site : Location}
  {more : List String} {name : String}

/-- A copy that is laid where a name was cleared changes nothing but what has the name and what lies
below it. -/
theorem trims_overlay_of_clears {location : Location} {cleared : FileSystem}
    (opens : files.OpensAt directory location) (isName : IsName name)
    (tame : Tame (fun other => within (name :: location) other = true) files)
    (clears : Clears (name :: location) files cleared) :
    Trims (fun other => within (name :: location) other = true) cleared
      ((overlay .copy source (directory.child name)).run cleared).2 := by
  have enters : ∀ names, Enters (fun other => within (name :: location) other = true) location
      ([name] ++ names) := by
    intro names first rest shape
    rw [List.singleton_append, List.filter_cons_of_pos (by simp [isName.2.1])] at shape
    rw [← (List.cons.inj shape).1]
    exact within_self (name :: location)
  have unlinked : ∀ other target, within (name :: location) other = true →
      cleared.get? other ≠ some (.link target) := fun _ target inside =>
    clears.unlinked inside target
  exact (upholds_overlayWithin (guard_trims (closed_within (name :: location))) opens tame
    clears.trims unlinked pathLimit ((Path.Prolongs.refl directory).child isName)
    (by simp [Ne.symm isName.2.2.1]) (fun names _ => enters names) supplies_of_copy).keeps

/-- A tree that has a name in a directory below a site, or at the site, is removed, and a copy of
another tree is laid in its place: nothing has changed then but below the site, and no link has come,
whether that has succeeded or not. -/
theorem trims_replace (opens : files.OpensAt root site) (settled : Settled (Below site) files)
    (prolongs : directory.Prolongs root more) (inward : ".." ∉ more) (isName : IsName name) :
    let removed := (removeTree (directory.child name)).run files
    Trims (Below site) files removed.2 ∧
      (removed.1 = .ok () →
        Trims (Below site) files ((overlay .copy source (directory.child name)).run removed.2).2) := by
  intro removed
  have parts := Path.parts_child directory isName
  have unslashed : ∀ place, files.placement (directory.child name) = .ok (some place) →
      place.slashed = false := by
    intro place placed
    obtain ⟨-, -, -, -, -, slashed⟩ := placementFrom_eq_some_iff.1 placed
    rw [slashed, Path.getLast?_child directory isName.2.2.2, Option.some_beq_some]
    exact beq_false_of_ne isName.1
  have inwardChild : ".." ∉ more ++ [name] := by
    simp [inward, Ne.symm isName.2.2.1]
  have removal := run_removeTree_cases parts isName fun (place : Placement) target
      (placed : files.placement (directory.child name) = .ok (some place)) slashed => by
    rw [unslashed place placed] at slashed
    cases slashed
  rcases removal with ⟨result, ran, -⟩ | ⟨place, placed, clears⟩
  · -- Nothing was removed, so the links are as harmless as they were.
    have guard := guard_settled (closed_below site) fun _ => False
    have lays : Keeps (Overwrites (Below site) fun _ => False)
        (overlay .copy source (directory.child name)) files :=
      (upholds_overlayWithin guard opens settled.tame (.refl files) settled pathLimit
        (prolongs.child isName) inwardChild (fun _ _ => enters_below site _) supplies_of_copy).keeps
    simp only [removed, ran]
    exact ⟨Std.Refl.refl files, fun _ => Overwrites.trims lays⟩
  · -- The copy arrives in a place without links.
    obtain ⟨-, ⟨front, written, walk⟩, standing, -, -, -⟩ := placementFrom_eq_some_iff.1 placed
    obtain ⟨same, last⟩ := List.append_inj' (parts.symm.trans written) rfl
    obtain ⟨rfl, -⟩ := List.cons.inj last
    rw [← same, start_child directory isName] at walk
    have unchanged : Changes (Below site) files files := Trims.changes (Std.Refl.refl files)
    have inside : Below site place.location := (location_of_placement opens settled.tame unchanged
      (closed_below site) settled.tame (prolongs.child isName) (by simp) inwardChild
      (enters_below site _) placed).2
    have below : ∀ {location}, within place.location location = true → Below site location :=
      inside.of_within
    have opensHere : files.OpensAt directory place.directory :=
      ⟨⟨place.links, walk⟩, fun _ => standing⟩
    have tame : Tame (fun location => within place.location location = true) files :=
      fun _ _ _ _ _ inside linked walk => settled.tame (below inside) linked walk
    have lays : Trims (fun location => within place.location location = true) removed.2
        ((overlay .copy source (directory.child place.name)).run removed.2).2 :=
      trims_overlay_of_clears opensHere isName tame clears
    exact ⟨clears.trims.mono below, fun _ => (clears.trims.trans lays).mono below⟩

end FileAction

end KernelExport
