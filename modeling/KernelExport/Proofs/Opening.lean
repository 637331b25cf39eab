/-
This file says what opening a directory for output comes to: making it, with all directories on the
way to it, unless they stand.

Directories come where nothing stood, each where the path or one of its ancestors leads, and nothing
else changes (`Makes`); that holds too when the directory cannot be made in the end. When it can,
the path leads to a directory from then on (`Opens`).

Where a path leads may depend on what else was made before it is opened. It does not, if all that
differs lies in a region where no link leads to a directory (`OpensAt.unique`).
-/

import KernelExport.Proofs.Confinement

namespace KernelExport

namespace FileSystem

variable {files before after opened : FileSystem} {path : Path} {site location : Location}
  {paths : List Path}

/-! ### Directories on the way -/

/-- Nothing differs but directories that were made where paths lead. -/
structure Makes (paths : List Path) (before after : FileSystem) : Prop where
  more : after.Extends before
  made : ∀ location, after.get? location = before.get? location ∨
    before.get? location = none ∧ after.get? location = some .directory ∧
      ∃ path ∈ paths, after.resolve path = .ok location

instance : IsPreorder FileSystem (Makes paths) where
  refl _ := ⟨⟨id, rfl⟩, fun _ => .inl rfl⟩
  trans first second third earlier later := by
    refine ⟨⟨fun stands => later.more.entry (earlier.more.entry stands),
      later.more.workingDirectory.trans earlier.more.workingDirectory⟩, fun location => ?_⟩
    rcases earlier.made location with same | ⟨missing, standing, path, member, resolved⟩
    · rw [← same]
      exact later.made location
    · exact .inr ⟨missing, later.more.entry standing, path, member, later.more.resolve resolved⟩

/-- A link stood before directories were made. -/
theorem Makes.linked (makes : Makes paths before after) {target : Path}
    (linked : after.get? location = some (.link target)) :
    before.get? location = some (.link target) := by
  rcases makes.made location with same | ⟨-, standing, -⟩
  · rw [← same, linked]
  · rw [linked] at standing
    cases standing

theorem Makes.settled {region : Location → Prop} (makes : Makes paths before after)
    (settled : Settled region before) : Settled region after :=
  settled.of_extends makes.more makes.linked

/-! ### Where a path leads -/

theorem opensAt_of_isDirectory (stands : files.isDirectory path = true) :
    ∃ site, files.OpensAt path site ∧ files.resolve path = .ok site := by
  rw [isDirectory] at stands
  split at stands
  · rename_i location resolved
    have directory : files.get? location = some .directory := eq_of_beq stands
    obtain ⟨-, ⟨left, walk⟩, -⟩ := resolve_eq_ok_iff.1 resolved
    refine ⟨location, ⟨?_, fun _ => directory⟩, resolved⟩
    rcases path.steps_eq with same | dotted
    · exact ⟨left, by rw [← same, walk]⟩
    · rw [dotted, follow_append] at walk
      obtain ⟨⟨reached, remaining⟩, first, last⟩ := bind_eq_ok_iff.1 walk
      have standing := directory_of_follow last (by simp)
      simp only [follow_dot remaining standing, Except.ok.injEq, Prod.mk.injEq] at last
      obtain ⟨rfl, rfl⟩ := last
      exact ⟨remaining, first⟩
  · cases stands

theorem isDirectory_of_resolve (resolved : files.resolve path = .ok location)
    (standing : files.get? location = some .directory) : files.isDirectory path = true := by
  rw [isDirectory, resolved]
  exact beq_iff_eq.2 standing

theorem opensAt_of_resolve (resolved : files.resolve path = .ok location)
    (standing : files.get? location = some .directory) : files.OpensAt path location := by
  obtain ⟨site, opens, same⟩ := opensAt_of_isDirectory (isDirectory_of_resolve resolved standing)
  rwa [Except.ok.inj (resolved.symm.trans same)]

theorem isDirectory_of_readDirectory {names : List String}
    (read : files.readDirectory path = .ok names) : files.isDirectory path = true := by
  obtain ⟨location, resolved, read⟩ := bind_eq_ok_iff.1 read
  obtain ⟨_, expected, -⟩ := bind_eq_ok_iff.1 read
  rw [isDirectory, resolved]
  exact beq_iff_eq.2 (expectDirectory_eq_ok_iff.1 expected)

/-- A path without parts leads to where walks along it start. -/
theorem OpensAt.eq_start (opens : before.OpensAt path site) (still : path.parts = []) :
    site = start path before.workingDirectory := by
  obtain ⟨left, walk⟩ := opens.walk
  rw [still, follow_nil] at walk
  exact (Prod.mk.inj (Except.ok.inj walk)).1.symm

/-- A path that opens at a directory does so when the region has been written to. -/
theorem OpensAt.of_overwrites {region origin : Location → Prop} (opens : before.OpensAt path site)
    (tame : Tame region before) (overwrites : Overwrites region origin before after) :
    after.OpensAt path site := by
  obtain ⟨left, walk⟩ := opens.walk
  rw [← overwrites.workingDirectory] at walk
  refine ⟨⟨left, ?_⟩, fun moves => overwrites.directory (opens.directory moves)⟩
  by_cases none : path.parts = []
  · rw [none, follow_nil] at walk ⊢
    exact walk
  · exact overwrites.follow tame (Nat.le_refl _) walk (opens.directory none)

/-- Where a path opens does not depend on what lies in a region where no link leads to a
directory. -/
theorem OpensAt.unique {region : Location → Prop} {other : Location}
    (first : before.OpensAt path site) (second : after.OpensAt path other)
    (workingDirectory : after.workingDirectory = before.workingDirectory)
    (outside : ∀ {location}, ¬region location → after.get? location = before.get? location)
    (tameBefore : Tame region before) (tameAfter : Tame region after) : other = site := by
  by_cases still : path.parts = []
  · rw [first.eq_start still, second.eq_start still, workingDirectory]
  · obtain ⟨_, walk⟩ := first.walk
    obtain ⟨_, again⟩ := second.walk
    rw [workingDirectory] at again
    have same := tameBefore.follow_unique tameAfter outside (Nat.le_refl _) walk
      (first.directory still) again (second.directory still)
    exact (Prod.mk.inj same).1

end FileSystem

open FileSystem

namespace FileAction

variable {files opened : FileSystem} {target : Path}

theorem makes_createDirectories (target : Path) (files : FileSystem) :
    Makes target.ancestors files ((createDirectories target).run files).2 := by
  suffices upholds : Upholds (Makes target.ancestors) (fun _ => True) (createDirectories target)
      files from upholds.keeps
  refine upholds_createFirst trivial fun above member present _ _ changed made => ⟨?_, trivial⟩
  obtain ⟨place, -, missing, rfl, fresh⟩ := exists_fresh_of_createDirectory made
  obtain ⟨-, -, standing, isName, -⟩ := placementFrom_eq_some_iff.1 fresh.placement
  refine ⟨⟨fun {location entry} stands => ?_, workingDirectory_put ..⟩, fun location => ?_⟩
  · rw [get?_put_of_ne present .directory, stands]
    rintro rfl
    rw [Placement.location, stands] at missing
    cases missing
  · by_cases here : location = place.location
    · subst here
      exact .inr ⟨missing, fresh.directory, above, member,
        resolve_of_placement fresh.placement fresh.directory⟩
    · exact .inl (get?_put_of_ne present .directory here)

/-- The first of some directories is made, or it stands: from the beginning or once those above it
are made. -/
theorem createFirst_cases {above : List Path}
    (ran : (createFirst (target :: above)).run files = (.ok (), opened)) :
    target.isEmpty = true ∧ opened = files ∨
      files.createDirectory target = .ok opened ∨
      files.isDirectory target = true ∧ opened = files ∨
      ∃ present, (createFirst above).run files = (.ok (), present) ∧
        (present.createDirectory target = .ok opened ∨
          present.isDirectory target = true ∧ opened = present) := by
  have stands : ∀ (failure : FileError) (present : FileSystem),
      (do if (← get).isDirectory target then pure () else throw failure : FileAction Unit).run
        present = (.ok (), opened) → present.isDirectory target = true ∧ opened = present := by
    intro failure present ran
    rw [run_bind, run_get] at ran
    simp only [] at ran
    split at ran
    · rename_i standing
      exact ⟨standing, (Prod.mk.inj ran).2.symm⟩
    · cases ran
  rw [createFirst] at ran
  split at ran
  · rename_i empty
    exact .inl ⟨empty, (Prod.mk.inj ran).2.symm⟩
  · rw [run_bind, run_get] at ran
    simp only [] at ran
    split at ran
    · rename_i changed made
      obtain ⟨-, rfl⟩ := Prod.mk.inj ran
      exact .inr (.inl made)
    · obtain ⟨_, present, first, ran⟩ := run_bind_eq_ok_iff.1 ran
      refine .inr (.inr (.inr ⟨present, first, ?_⟩))
      rw [run_bind, run_get] at ran
      simp only [] at ran
      split at ran
      · rename_i changed made
        obtain ⟨-, rfl⟩ := Prod.mk.inj ran
        exact .inl made
      · exact .inr (stands _ present ran)
    · exact .inr (.inr (.inl (stands _ files ran)))

/-- Directories are made for a path that is empty, or the last of them is made, or it stands. -/
theorem createDirectories_cases (ran : (createDirectories target).run files = (.ok (), opened)) :
    target.isEmpty = true ∧ opened = files ∨
      (∃ present : FileSystem, present.createDirectory target = .ok opened) ∨
      opened.isDirectory target = true := by
  obtain ⟨above, ancestors⟩ := target.exists_ancestors
  rw [createDirectories, ancestors] at ran
  rcases createFirst_cases ran with empty | made | ⟨stands, rfl⟩ |
    ⟨present, -, made | ⟨stands, rfl⟩⟩
  · exact .inl empty
  · exact .inr (.inl ⟨files, made⟩)
  · exact .inr (.inr stands)
  · exact .inr (.inl ⟨present, made⟩)
  · exact .inr (.inr stands)

theorem exists_opensAt_of_createDirectories
    (ran : (createDirectories target).run files = (.ok (), opened)) :
    ∃ site, opened.OpensAt target site := by
  rcases createDirectories_cases ran with ⟨empty, rfl⟩ | ⟨present, made⟩ | standing
  · have none : target.parts = [] := by
      rw [Path.isEmpty, Bool.or_eq_true, beq_iff_eq, beq_iff_eq] at empty
      rcases empty with segments | segments <;> simp [Path.parts, segments]
    exact ⟨_, ⟨⟨linkLimit, by rw [none, follow_nil]⟩, fun some => absurd none some⟩⟩
  · obtain ⟨place, -, -, -, fresh⟩ := exists_fresh_of_createDirectory made
    exact ⟨place.location, fresh.opensAt⟩
  · obtain ⟨site, opensAt, -⟩ := opensAt_of_isDirectory standing
    exact ⟨site, opensAt⟩

/-- No directory is made for a path that is too long to be asked for. -/
theorem expectPath_of_createDirectories
    (ran : (createDirectories target).run files = (.ok (), opened)) :
    target.isEmpty = true ∨ expectPath target = .ok () := by
  rcases createDirectories_cases ran with ⟨empty, -⟩ | ⟨present, made⟩ | standing
  · exact .inl empty
  · obtain ⟨place, placed, -⟩ := exists_fresh_of_createDirectory made
    exact .inr (placementFrom_eq_some_iff.1 placed).1
  · obtain ⟨site, -, resolved⟩ := opensAt_of_isDirectory standing
    exact .inr (resolve_eq_ok_iff.1 resolved).1

end FileAction

namespace FileSystem

variable {files opened : FileSystem} {path : Path} {site : Location}

/-- Making a directory where a path leads, and all directories on the way, succeeds, and the path
leads to a location from then on. -/
structure Opens (files : FileSystem) (path : Path) (opened : FileSystem) (site : Location) :
    Prop where
  run : (FileAction.createDirectories path).run files = (.ok (), opened)
  opensAt : opened.OpensAt path site

theorem Opens.of_run {made : FileSystem} {left : Nat}
    (ran : (FileAction.createDirectories path).run files = (.ok (), made))
    (walk : made.follow linkLimit (start path made.workingDirectory) path.parts = .ok (site, left))
    (standing : made.get? site = some .directory) : files.Opens path made site :=
  ⟨ran, ⟨left, walk⟩, fun _ => standing⟩

theorem Opens.unique {others : FileSystem} {other : Location}
    (first : files.Opens path opened site) (second : files.Opens path others other) :
    others = opened ∧ other = site := by
  obtain rfl : others = opened := (Prod.mk.inj (second.run.symm.trans first.run)).2
  have tame : Tame (fun _ => False) others := fun _ _ _ _ _ impossible => impossible.elim
  exact ⟨rfl, first.opensAt.unique second.opensAt rfl (fun _ => rfl) tame tame⟩

theorem Opens.makes (opens : files.Opens path opened site) : Makes path.ancestors files opened := by
  have makes := FileAction.makes_createDirectories path files
  rwa [opens.run] at makes

end FileSystem

end KernelExport
