/-
This file says that laying a tree over a directory in which nothing stands copies the tree
(`Copies`).

All there is in the tree has come to the same names in the directory (`Overlaid`). As nothing stood
there, nothing else does now; and what has come as a copy is the same in both places.
-/

import KernelExport.Proofs.Overlaying

namespace KernelExport

/-- What comes as a copy is the same. -/
theorem Entry.carried_copy (location : Location) : Entry.carried .copy location = id := by
  funext entry
  cases entry <;> rfl

namespace FileSystem

variable {base before after : FileSystem} {target source : Location} {names : List String}

theorem below_behind (inner : List String) (name : String) (directory : Location) :
    Below directory (inner ++ name :: directory) :=
  (below_cons name (within_self directory)).of_within (within_append inner _)

/-! ### Copies -/

/-- Under some names there stands in a directory what stands in another one. Nothing stands there
under other names, and nothing else has changed. -/
structure Copies (source target : Location) (names : List String) (before after : FileSystem) :
    Prop where
  workingDirectory : after.workingDirectory = before.workingDirectory
  outside : ∀ {location}, ¬Below target location → after.get? location = before.get? location
  copied : ∀ {name}, name ∈ names → ∀ inner,
    after.get? (inner ++ name :: target) = before.get? (inner ++ name :: source)
  others : ∀ {name}, name ∉ names → ∀ inner, after.get? (inner ++ name :: target) = none

/-- What has come to a directory in which nothing stood is a copy. -/
theorem Overlaid.copies (overlaid : Overlaid .copy base source target before after)
    (empty : ∀ {location}, Below target location → before.get? location = none)
    (standing : base.get? source = some .directory)
    (standingTarget : before.get? target = some .directory)
    (same : ∀ inner : Location, before.get? (inner ++ source) = base.get? (inner ++ source)) :
    Copies source target (base.names source) before after := by
  have below : ∀ (inner : Location) (name : String),
      after.get? (inner ++ name :: target) = base.get? (inner ++ name :: source) := by
    intro inner name
    have inside := overlaid.inside (inner ++ [name])
    simpa [Entry.carried_copy, empty (below_behind inner name target)] using inside
  refine ⟨overlaid.workingDirectory, fun {location} apart => ?_, fun {name} _ inner => ?_,
    fun {name} missing inner => ?_⟩
  · by_cases here : location = target
    · have inside := overlaid.inside []
      rw [List.nil_append, List.nil_append, standing] at inside
      rw [here, inside, standingTarget]
      rfl
    · exact overlaid.outside (Bool.eq_false_iff.2 fun inside => apart ⟨here, inside⟩)
  · rw [below]
    simpa using (same (inner ++ [name])).symm
  · rw [mem_names, Option.not_isSome_iff_eq_none] at missing
    rw [below, get?_eq_none_of_within (within_append inner _) missing]

/-- A directory of which all names are copied is the same in both places. -/
theorem Copies.tree (copies : Copies source target (before.names source) before after)
    (standing : before.get? source = some .directory)
    (standingTarget : before.get? target = some .directory) (names : List String) :
    after.get? (names ++ target) = before.get? (names ++ source) := by
  rcases List.eq_nil_or_concat names with rfl | ⟨inner, name, rfl⟩
  · rw [List.nil_append, List.nil_append, copies.outside fun below => below.1 rfl, standingTarget,
      standing]
  · rw [List.concat_eq_append, List.append_assoc, List.append_assoc, List.singleton_append,
      List.singleton_append]
    by_cases member : name ∈ before.names source
    · exact copies.copied member inner
    · rw [copies.others member]
      rw [mem_names, Option.not_isSome_iff_eq_none] at member
      exact (get?_eq_none_of_within (within_append inner _) member).symm

/-- A copy in a directory in which nothing stood takes nothing away. -/
theorem Copies.extends (copies : Copies source target names before after)
    (empty : ∀ {location}, Below target location → before.get? location = none) :
    after.Extends before := by
  refine ⟨fun {location entry} stands => ?_, copies.workingDirectory⟩
  rw [copies.outside, stands]
  intro below
  rw [empty below] at stands
  cases stands

end FileSystem

namespace FileAction

open FileSystem

variable {base before after : FileSystem} {site source target : Location} {path tree : Path}

theorem overlayEntriesBy_increasing (transfer : Transfer) (levels : Nat) (source target : Path) :
    overlayEntriesBy .increasing transfer levels source target =
      overlayEntries transfer levels source target := by
  unfold overlayEntriesBy overlayEntries overlayEntryBy
  simp only [readDirectoryBy_increasing, overlayWithinBy_increasing]

/-- A shelf that is laid over a directory in which nothing stands is copied into it. -/
theorem copies_overlayEntries (tame : Tame (Below site) base) (shelf : base.Shelf site tree source)
    (isInside : within site target = true) (start : Reached base site path target before)
    (empty : ∀ {location}, Below target location → before.get? location = none)
    (ran : (overlayEntries .copy (pathLimit - 1) tree path).run before = (.ok (), after)) :
    Copies source target (base.names source) before after := by
  have expected : expectPath tree = .ok () := by
    obtain ⟨found, asked, read, -⟩ := run_bind_eq_ok_iff.1 ran
    rw [run_ask] at read
    exact (readDirectory_eq_ok (Prod.mk.inj read).1).1
  have bounds := bounds_of_expectPath expected
  have achieves : Achieves (Admits base tree source before path target)
      (Overlaid .copy base source target before)
      ((overlayEntriesBy .increasing .copy (pathLimit - 1) tree path).run before) :=
    achieves_overlayEntriesBy tame isInside shelf start expected (by omega)
  rw [overlayEntriesBy_increasing, ran] at achieves
  cases achieves with
  | achieved _ overlaid =>
    exact overlaid.copies empty shelf.standing start.standing fun inner =>
      start.overwrites.outside (shelf.not_below (within_append inner source))

end FileAction

end KernelExport
