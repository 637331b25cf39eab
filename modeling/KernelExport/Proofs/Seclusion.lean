/-
This file says how a workspace is kept and how it is removed: what is kept is a copy of all of it,
in which nothing of an earlier copy is left, and once it is removed nothing of it stands any more.

The path of a workspace leads to it as long as it stands, whatever has changed on the way there, for
its name stands nowhere else (`Lodges.placement_of_isDirectory`). So it is the workspace that is
copied and the workspace that is removed. What is left then has known names only, and is the same on
twins.
-/

import KernelExport.Proofs.Copying
import KernelExport.Proofs.Legible
import KernelExport.Proofs.Renewal

namespace KernelExport

open FileSystem FileAction

namespace FileSystem

variable {known : String → Prop} {site location : Location} {name : String} {files : FileSystem}
  {parent : Path}

/-- Without the directory of the name the same stands at locations of known names. -/
theorem Concurs.erase (concurs : Concurs known files files) (site : Location) (new : ¬known name) :
    Concurs known files (files.erase (name :: site)) where
  workingDirectory := rfl
  started := concurs.started
  entry told := by
    rw [get?_erase, if_neg (by simp [not_within_of_among new told])]
  linked := concurs.linked
  dot := concurs.dot

section Lodges

variable (lodges : files.Lodges known site name) (concurs : Concurs known files files)
  (new : ¬known name) (isName : IsName name) (among : Among known parent.parts)

include lodges concurs new isName among

/-- A path that ends in the name leads to the directory of the name, or to no directory. -/
theorem Lodges.placement_of_isDirectory (stands : files.isDirectory (parent.child name) = true) :
    ∃ links, files.placement (parent.child name) = .ok (some ⟨site, name, false, links⟩) ∧
      files.get? (name :: site) ≠ none := by
  obtain ⟨⟨directory, last, slashed, links⟩, placed, found⟩ :=
    exists_placement_of_isDirectory (Path.parts_child parent isName) isName stands
  obtain ⟨-, ⟨front, parts, walk⟩, -, -, -, ends⟩ := placementFrom_eq_some_iff.1 placed
  obtain ⟨rfl, same⟩ := List.append_inj' ((Path.parts_child parent isName).symm.trans parts) rfl
  obtain rfl : name = last := (List.cons.inj same).1
  obtain rfl : slashed = false := by
    rw [Path.getLast?_child parent isName.2.2.2, Option.some_beq_some] at ends
    exact ends.trans (beq_false_of_ne isName.1)
  have told : Among known directory :=
    (concurs.follow _ (among_start (parent.child name) lodges.started) among).2 walk
  obtain rfl : directory = site := by
    rcases lodges.standing found with known | ⟨names, inside, same⟩
    · exact absurd (among_cons.1 known).1 new
    · cases names with
      | nil => exact (List.cons.inj same).2
      | cons other rest =>
        obtain rfl : name = other := (List.cons.inj same).1
        exact absurd (among_cons.1 inside).1 new
  exact ⟨links, placed, found⟩

/-- Removing the directory of the name by its path takes away all of it and nothing else. -/
theorem Lodges.run_removeTree (stands : files.isDirectory (parent.child name) = true)
    (standing : files.get? (name :: site) = some .directory) :
    (removeTree (parent.child name)).run files = (.ok (), files.erase (name :: site)) := by
  obtain ⟨links, placed, -⟩ := lodges.placement_of_isDirectory concurs new isName among stands
  -- Without the directory its path leads to where it stood.
  have without := concurs.erase site new
  obtain ⟨expected, ⟨front, parts, walk⟩, directory, rest⟩ := placementFrom_eq_some_iff.1 placed
  obtain ⟨rfl, -⟩ := List.append_inj' ((Path.parts_child parent isName).symm.trans parts) rfl
  obtain ⟨same, told⟩ := without.follow linkLimit
    (among_start (parent.child name) lodges.started) among
  have placedWithout : (files.erase (name :: site)).placement (parent.child name) =
      .ok (some ⟨site, name, false, links⟩) :=
    placementFrom_eq_some_iff.2
      ⟨expected, ⟨_, parts, same.trans walk⟩, (without.entry (told walk)).trans directory, rest⟩
  refine FileAction.run_removeTree placedWithout ?_ ⟨rfl, fun {other} outside => ?_⟩ standing
  · show (files.erase (name :: site)).get? (name :: site) = none
    rw [get?_erase, if_pos ⟨List.cons_ne_nil _ _, within_self _⟩]
  · have outside : within (name :: site) other = false := outside
    rw [get?_erase, if_neg (by simp [outside])]

end Lodges

end FileSystem

/-- A tree has been taken over to where a path leads: there stands a copy of it and nothing else,
nothing is left of the tree, and no link has come. -/
structure FileSystem.TakenOver (tree : Location) (kept : Path) (before after : FileSystem) :
    Prop where
  copied : ∃ location, after.resolve kept = .ok location ∧
    ∀ names, after.get? (names ++ location) = before.get? (names ++ tree)
  gone : ∀ names, after.get? (names ++ tree) = none
  linked : ∀ {location target}, after.get? location = some (.link target) →
    before.get? location = some (.link target)

namespace Workspaces

variable {workspaces : Workspaces} {left right : FileSystem} {parent kept : Path}

/-- Files are twins if all that differs since they were the same lies in workspaces of their own,
and what lies there is the same. -/
theorem twins_of_agreesOff {initial : FileSystem}
    (lodges : workspaces.base.Lodges workspaces.known workspaces.site workspaces.first)
    (off : initial.AgreesOff (workspaces.first :: workspaces.site) workspaces.base)
    (missing : initial.get? (workspaces.first :: workspaces.site) = none)
    (offRight : initial.AgreesOff (workspaces.second :: workspaces.site) right)
    (same : ∀ names, right.get? (names ++ workspaces.second :: workspaces.site) =
      workspaces.base.get? (names ++ workspaces.first :: workspaces.site)) :
    workspaces.Twins workspaces.base right where
  lodgesLeft := lodges
  lodgesRight := by
    refine ⟨?_, fun {location} stands => ?_⟩
    · rw [offRight.workingDirectory, ← off.workingDirectory]
      exact lodges.started
    · cases inside : within (workspaces.second :: workspaces.site) location with
      | true =>
        obtain ⟨names, rfl⟩ := List.isSuffixOf_iff_suffix.1 inside
        rw [same] at stands
        exact .inr ⟨names, lodges.among workspaces.newFirst stands, rfl⟩
      | false =>
        rw [offRight.outside inside] at stands
        have outside : within (workspaces.first :: workspaces.site) location = false :=
          Bool.eq_false_iff.2 fun inside => stands (get?_eq_none_of_within inside missing)
        rw [← off.outside outside] at stands
        rcases lodges.standing stands with told | ⟨names, -, rfl⟩
        · exact .inl told
        · rw [Bool.eq_false_iff] at outside
          exact absurd (within_append names _) outside
  workingDirectory := offRight.workingDirectory.trans off.workingDirectory.symm
  home := rfl
  outside told := by
    rw [offRight.outside (not_within_of_among workspaces.newSecond told),
      off.outside (not_within_of_among workspaces.newFirst told)]
  inside _ := same _
  kept _ _ := rfl
  stood isLink := isLink

namespace Twins

theorem concurs_right (twins : workspaces.Twins left right) :
    Concurs workspaces.known right right where
  workingDirectory := rfl
  started := twins.lodgesRight.started
  entry _ := rfl
  linked told isLink := workspaces.linked (twins.stood (twins.outside told ▸ isLink))
  dot := workspaces.dot

theorem concurs_left (twins : workspaces.Twins left right) :
    Concurs workspaces.known left left where
  workingDirectory := rfl
  started := twins.lodgesLeft.started
  entry _ := rfl
  linked _ isLink := workspaces.linked (twins.stood isLink)
  dot := workspaces.dot

/-- Without the two workspaces twins are the same. -/
theorem erase_eq (twins : workspaces.Twins left right) :
    right.erase (workspaces.second :: workspaces.site) =
      left.erase (workspaces.first :: workspaces.site) := by
  have erased : ∀ {files : FileSystem} {name},
      files.Lodges workspaces.known workspaces.site name → ¬workspaces.known name →
      ∀ location, (Among workspaces.known location →
          (files.erase (name :: workspaces.site)).get? location = files.get? location) ∧
        (¬Among workspaces.known location →
          (files.erase (name :: workspaces.site)).get? location = none) := by
    intro files name lodges new location
    rw [get?_erase]
    refine ⟨fun told => if_neg (by simp [not_within_of_among new told]), fun strange => ?_⟩
    · split
      · rfl
      · rename_i outside
        by_contra stands
        rcases lodges.standing stands with told | ⟨names, -, rfl⟩
        · exact strange told
        · exact outside ⟨by simp, within_append names _⟩
  refine ext_get? (fun location => ?_) twins.workingDirectory
  have leftErased := erased twins.lodgesLeft workspaces.newFirst location
  have rightErased := erased twins.lodgesRight workspaces.newSecond location
  by_cases told : Among workspaces.known location
  · rw [leftErased.1 told, rightErased.1 told, twins.outside told]
  · rw [leftErased.2 told, rightErased.2 told]

/-- Removing the workspaces by their paths leaves the same. -/
theorem run_removeTree (twins : workspaces.Twins left right)
    (among : Among workspaces.known parent.parts)
    (stands : left.isDirectory (parent.child workspaces.first) = true)
    (standing : left.get? (workspaces.first :: workspaces.site) = some .directory) :
    (removeTree (parent.child workspaces.first)).run left =
        (.ok (), left.erase (workspaces.first :: workspaces.site)) ∧
      (removeTree (parent.child workspaces.second)).run right =
        (.ok (), left.erase (workspaces.first :: workspaces.site)) := by
  refine ⟨twins.lodgesLeft.run_removeTree twins.concurs_left workspaces.newFirst
    workspaces.isNameFirst among stands standing, ?_⟩
  rw [← twins.erase_eq]
  refine twins.lodgesRight.run_removeTree twins.concurs_right workspaces.newSecond
    workspaces.isNameSecond among ?_ ?_
  · rw [(readable_workspace among).isDirectory twins, stands]
  · rw [← standing]
    have none : Among workspaces.known [] := among_nil
    exact twins.inside none

end Twins

/-! ### Keeping a workspace -/

section Keeping

variable {cleared opened after : FileSystem} {directory : Path} {last : String} {place : Placement}

/-- Where a fresh directory has known names, the workspace is a shelf for it as long as its path
leads to a directory. -/
theorem Twins.shelf (twins : workspaces.Twins opened right)
    (among : Among workspaces.known parent.parts) (told : Among workspaces.known kept.parts)
    (standing : workspaces.base.get? (workspaces.first :: workspaces.site) = some .directory)
    (fresh : opened.Fresh kept place)
    (stands : opened.isDirectory (parent.child workspaces.first) = true) :
    opened.Shelf place.location (parent.child workspaces.first)
      (workspaces.first :: workspaces.site) := by
  obtain ⟨links, placed, found⟩ := twins.lodgesLeft.placement_of_isDirectory twins.concurs_left
    workspaces.newFirst workspaces.isNameFirst among stands
  have standingNow : opened.get? (workspaces.first :: workspaces.site) = some .directory :=
    (twins.kept found []).trans standing
  have known : Among workspaces.known place.location :=
    (twins.concurs.placement told).2 fresh.placement
  refine ⟨⟨⟨links, follow_of_placement placed standingNow⟩, fun _ => standingNow⟩, standingNow,
    ⟨Bool.eq_false_iff.2 fun inside => ?_, Bool.eq_false_iff.2 fun inside => ?_⟩,
    fun {location} inside target => ?_⟩
  · have different : workspaces.first :: workspaces.site ≠ place.location := by
      intro same
      exact workspaces.newFirst (among_cons.1 (same ▸ known)).1
    rw [fresh.empty inside different] at standingNow
    cases standingNow
  · rw [not_within_of_among workspaces.newFirst known] at inside
    cases inside
  · obtain ⟨names, rfl⟩ := List.isSuffixOf_iff_suffix.1 inside
    exact twins.unlinked names target

/-- When a tree was removed and the workspace is laid in its place, the path of the tree leads to a
copy of the workspace, and the path of the workspace leads to it still. -/
theorem Twins.exists_copy (twins : workspaces.Twins left right)
    (among : Among workspaces.known parent.parts)
    (told : Among workspaces.known (directory.child last).parts) (isName : IsName last)
    (rises : (directory.child last).RisesFirst)
    (standing : workspaces.base.get? (workspaces.first :: workspaces.site) = some .directory)
    (removal : (removeTree (directory.child last)).run left = (.ok (), cleared))
    (laying : (overlay .copy (parent.child workspaces.first) (directory.child last)).run cleared =
      (.ok (), after)) :
    (∃ location, Among workspaces.known location ∧
      within location (workspaces.first :: workspaces.site) = false ∧
      after.resolve (directory.child last) = .ok location ∧ ∀ names,
        after.get? (names ++ location) =
          workspaces.base.get? (names ++ workspaces.first :: workspaces.site)) ∧
    after.isDirectory (parent.child workspaces.first) = true ∧
    after.get? (workspaces.first :: workspaces.site) = some .directory := by
  have nowhere : cleared.isDirectory (directory.child last) = false := by
    refine not_isDirectory_of_removeTree (Path.parts_child directory isName) isName ?_ removal
    rw [Path.getLast?_child directory isName.2.2.2]
    simpa using isName.1
  have removed := (alike_removeTree twins told).states
  rw [removal] at removed
  rw [overlay, show pathLimit = pathLimit - 1 + 1 from rfl, overlayWithin_succ] at laying
  obtain ⟨_, opened, making, laying⟩ := run_bind_eq_ok_iff.1 laying
  have made := (alike_createDirectories removed told).states
  rw [making] at made
  rcases fresh_of_createDirectories rises making with ⟨empty, -⟩ | stood | ⟨place, fresh⟩
  · rw [Path.isEmpty_child directory isName] at empty
    cases empty
  · rw [nowhere] at stood
    cases stood
  · have stands : opened.isDirectory (parent.child workspaces.first) = true := by
      obtain ⟨names, present, read, -⟩ := run_bind_eq_ok_iff.1 laying
      rw [run_ask] at read
      exact isDirectory_of_readDirectory (Prod.mk.inj read).1
    have shelf := made.shelf among told standing fresh stands
    have empty : ∀ {location}, Below place.location location → opened.get? location = none :=
      fun below => fresh.empty below.2 below.1
    have copies := copies_overlayEntries fresh.settled.tame shelf (within_self place.location)
      ⟨.refl opened, fresh.settled, fresh.opensAt, fresh.directory⟩ empty laying
    have more := copies.extends empty
    have found : opened.get? (workspaces.first :: workspaces.site) ≠ none := by
      simp [shelf.standing]
    refine ⟨⟨place.location, (made.concurs.placement told).2 fresh.placement, shelf.apart.1,
      more.resolve (resolve_of_placement fresh.placement fresh.directory), fun names => ?_⟩, ?_,
      more.entry shelf.standing⟩
    · rw [copies.tree shelf.standing fresh.directory]
      exact made.kept found names
    · obtain ⟨location, -, resolved⟩ := opensAt_of_isDirectory stands
      rw [isDirectory] at stands ⊢
      rw [more.resolve resolved]
      rw [resolved] at stands
      rw [beq_iff_eq] at stands ⊢
      exact more.entry stands

/-- When a core was rendered next, a tree was removed and the workspace laid in its place, the
workspace is taken over once it is removed. The same can be done on twins, and leaves the same. -/
theorem Twins.takenOver (twins : workspaces.Twins left right)
    {dictionary another : Dictionary} {template target : Path} {rendered : FileSystem}
    (renders : workspaces.Renders dictionary another)
    (readable : workspaces.Readable template template)
    (amongTarget : Among workspaces.known target.parts)
    (among : Among workspaces.known parent.parts)
    (told : Among workspaces.known (directory.child last).parts) (isName : IsName last)
    (rises : (directory.child last).RisesFirst)
    (standing : workspaces.base.get? (workspaces.first :: workspaces.site) = some .directory)
    (rendering : (TemplateAction.render dictionary .copy template target).run left =
      (.ok (), rendered))
    (removal : (removeTree (directory.child last)).run rendered = (.ok (), cleared))
    (laying : (overlay .copy (parent.child workspaces.first) (directory.child last)).run cleared =
      (.ok (), after)) :
    ∃ files, TakenOver (workspaces.first :: workspaces.site) (directory.child last) workspaces.base
        files ∧
      (removeTree (parent.child workspaces.first)).run after = (.ok (), files) ∧
      ∃ renderedToo clearedToo afterToo,
        (TemplateAction.render another .copy template target).run right = (.ok (), renderedToo) ∧
        (removeTree (directory.child last)).run renderedToo = (.ok (), clearedToo) ∧
        (overlay .copy (parent.child workspaces.second) (directory.child last)).run clearedToo =
          (.ok (), afterToo) ∧
        (removeTree (parent.child workspaces.second)).run afterToo = (.ok (), files) := by
  obtain ⟨renderedToo, renderingToo, twinsRendered⟩ :=
    (alike_render twins renders readable amongTarget).of_ok rendering
  obtain ⟨clearedToo, removalToo, twinsCleared⟩ :=
    (alike_removeTree twinsRendered told).of_ok removal
  obtain ⟨afterToo, layingToo, twinsAfter⟩ := (alike_overlayWithin twinsCleared pathLimit
    (readable_workspace among) told).of_ok laying
  obtain ⟨⟨location, known, apart, resolved, copied⟩, stands, standingNow⟩ :=
    twinsRendered.exists_copy among told isName rises standing removal laying
  obtain ⟨leaves, leavesToo⟩ := twinsAfter.run_removeTree among stands standingNow
  have without := twinsAfter.concurs_left.erase workspaces.site workspaces.newFirst
  refine ⟨_, ⟨⟨location, ?_, fun names => ?_⟩, fun names => ?_, fun {location target} isLink => ?_⟩,
    leaves, renderedToo, clearedToo, afterToo, renderingToo, removalToo, layingToo, leavesToo⟩
  · rw [(without.resolve told).1, resolved]
  · rw [get?_erase, if_neg, copied]
    rintro ⟨-, inside⟩
    have isSuffix : within location (names ++ location) = true :=
      within_append names location
    rcases within_or_within inside isSuffix with inside | inside
    · rw [not_within_of_among workspaces.newFirst known] at inside
      cases inside
    · rw [apart] at inside
      cases inside
  · rw [get?_erase, if_pos]
    exact ⟨by simp, within_append names _⟩
  · rw [get?_erase] at isLink
    split at isLink
    · cases isLink
    · exact twinsAfter.stood isLink

end Keeping

end Workspaces

end KernelExport
