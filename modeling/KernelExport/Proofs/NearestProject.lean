/-
This file says which directory is taken for the root of a project: of the directory that the search
starts from and those above it, the one with the most components that holds a configuration file.
It also says that the search ends.

The search goes from a directory to its parent, turn by turn (`Climbs`). The directories above a path
are told without parents, by the text of the path alone (`LiesAbove`): one is where the path starts,
the others are written up to its components. Two directories above one path are told apart by the
number of their components, so those above a path are its parent and those above its parent, and
what one turn of the search leaves out is only the directory it has looked into.
-/

import KernelExport.Project.Basic
import KernelExport.Proofs.Paths

namespace KernelExport

namespace Path

/-! ### The directories above a path -/

/-- Where the path starts: the root directory, or the directory that relative paths start from. -/
def origin (path : Path) : Path :=
  if path.isAbsolute then root else empty

/-- The directory stands above what the path names: it is where the path starts, or what is written
up to one of its components but the last. -/
structure LiesAbove (above path : Path) : Prop where
  fewer : above.depth < path.depth
  written : above = path.origin ∨ above.segments <+: path.segments ∧ above.EndsInComponent

/-- The directory is the one that the path names, or lies above it. -/
def Encloses (directory path : Path) : Prop :=
  directory = path ∨ directory.LiesAbove path

theorem eq_of_segments {first second : Path} (same : first.segments = second.segments) :
    first = second := by
  cases first
  cases second
  congr

@[simp] theorem depth_origin (path : Path) : path.origin.depth = 0 := by
  rw [origin]
  split <;> rfl

theorem isAbsolute_origin (path : Path) : path.origin.isAbsolute = path.isAbsolute := by
  rw [origin]
  split
  · rename_i absolute
    rw [absolute]
    rfl
  · rename_i relative
    rw [Bool.eq_false_iff.2 relative]
    rfl

theorem origin_congr {first second : Path} (same : first.isAbsolute = second.isAbsolute) :
    first.origin = second.origin := by
  rw [origin, origin, same]

/-- Behind segments that name something, each component is one more. -/
theorem depth_of_segments {path front : Path} {more : List String}
    (named : front.segments ≠ []) (written : path.segments = front.segments ++ more) :
    path.depth = front.depth + (more.filter (!isFiller ·)).length := by
  obtain ⟨head, rest, segments⟩ := List.exists_cons_of_ne_nil named
  rw [segments, List.cons_append] at written
  simp only [depth, segments, written, List.filter_append, List.length_append]
  omega

theorem EndsInComponent.segments_ne_nil {path : Path} (ends : path.EndsInComponent) :
    path.segments ≠ [] := by
  intro none
  have named := ends.named
  rw [depth, none] at named
  cases named

/-- Two fronts of one path with as many components are the same, as neither has fillers behind. -/
theorem EndsInComponent.eq_of_depth {first second : Path} (ends : second.EndsInComponent)
    (named : first.segments ≠ []) (isFront : first.segments <+: second.segments)
    (deep : second.depth ≤ first.depth) : first = second := by
  obtain ⟨more, written⟩ := isFront
  have count := depth_of_segments named written.symm
  cases atEnd : more.getLast? with
  | none =>
    refine eq_of_segments ?_
    rw [← written, List.getLast?_eq_none_iff.1 atEnd, List.append_nil]
  | some last =>
    have component : isFiller last = false := by
      refine ends.tight last ?_
      rw [← written, List.tail_append_of_ne_nil named, List.getLast?_append, atEnd]
      rfl
    have isMore : last ∈ more.filter (!isFiller ·) :=
      List.mem_filter.2 ⟨List.mem_of_getLast? atEnd, by rw [component]; rfl⟩
    have := List.length_pos_of_mem isMore
    omega

namespace LiesAbove

variable {above below path : Path}

theorem isAbsolute (liesAbove : above.LiesAbove path) : above.isAbsolute = path.isAbsolute := by
  obtain rfl | ⟨isFront, ends⟩ := liesAbove.written
  · exact isAbsolute_origin path
  · exact isAbsolute_of_isFront isFront ends.named

theorem trans (first : above.LiesAbove below) (second : below.LiesAbove path) :
    above.LiesAbove path := by
  refine ⟨Nat.lt_trans first.fewer second.fewer, ?_⟩
  obtain isOrigin | ⟨isFront, ends⟩ := first.written
  · exact .inl (isOrigin.trans (origin_congr second.isAbsolute))
  · obtain rfl | ⟨isLonger, -⟩ := second.written
    · exact absurd first.fewer (by simp)
    · exact .inr ⟨isFront.trans isLonger, ends⟩

/-- Of two directories above one path, the one with fewer components lies above the other. -/
theorem of_fewer (first : above.LiesAbove path) (second : below.LiesAbove path)
    (fewer : above.depth < below.depth) : above.LiesAbove below := by
  refine ⟨fewer, ?_⟩
  obtain isOrigin | ⟨isFront, ends⟩ := first.written
  · exact .inl (isOrigin.trans (origin_congr second.isAbsolute.symm))
  · obtain rfl | ⟨isLonger, endsToo⟩ := second.written
    · exact absurd fewer (by simp)
    · refine .inr ⟨?_, ends⟩
      obtain inFront | behind := List.prefix_or_prefix_of_prefix isFront isLonger
      · exact inFront
      · obtain rfl := ends.eq_of_depth endsToo.segments_ne_nil behind (Nat.le_of_lt fewer)
        exact List.prefix_rfl

/-- Directories above one path are told apart by the number of their components. -/
theorem eq_of_depth (first : above.LiesAbove path) (second : below.LiesAbove path)
    (same : above.depth = below.depth) : above = below := by
  obtain rfl | ⟨isFront, ends⟩ := first.written
  · obtain rfl | ⟨-, endsToo⟩ := second.written
    · rfl
    · exact absurd endsToo.named (by simp [← same])
  · obtain rfl | ⟨isLonger, endsToo⟩ := second.written
    · exact absurd ends.named (by simp [same])
    · obtain inFront | behind := List.prefix_or_prefix_of_prefix isFront isLonger
      · exact endsToo.eq_of_depth ends.segments_ne_nil inFront same.ge
      · exact (ends.eq_of_depth endsToo.segments_ne_nil behind same.le).symm

end LiesAbove

/-! ### Parents -/

theorem parent?_eq_none_iff {path : Path} : path.parent? = none ↔ path.depth = 0 := by
  constructor
  · intro isEnd
    obtain ⟨segments⟩ := path
    cases segments with
    | nil => rfl
    | cons head rest =>
      simp only [parent?] at isEnd
      split at isEnd
      · rename_i none
        split at isEnd
        · rename_i absolute
          have fillers := filter_length_dropWhile rest.reverse
          rw [none, List.filter_reverse, List.length_reverse] at fillers
          simp [depth, absolute, ← fillers]
        · cases isEnd
      · split at isEnd <;> cases isEnd
  · intro ended
    cases isParent : path.parent? with
    | none => rfl
    | some above =>
      have fewer := depth_lt_of_parent? isParent
      omega

theorem filter_isFiller {segments : List String}
    (fillers : ∀ segment ∈ segments, isFiller segment = true) :
    segments.filter (!isFiller ·) = [] :=
  List.filter_eq_nil_iff.2 fun segment member => by rw [fillers segment member]; decide

/-- The parent of a path is the directory above it with one component fewer. -/
theorem liesAbove_of_parent? {path above : Path} (isParent : path.parent? = some above) :
    above.LiesAbove path ∧ above.depth + 1 = path.depth := by
  have starts : above.origin = path.origin := origin_congr (parent?_parts isParent).1
  obtain ⟨only, ends, written, named, fillers, rfl⟩ |
    ⟨front, stays, last, ends, written, areStays, component, areEnds, start⟩ :=
    parent?_cases isParent
  · have deep : path.depth = 1 := by simp [depth, written, named, filter_isFiller fillers]
    exact ⟨⟨by rw [deep]; exact Nat.one_pos, .inl starts⟩, deep.symm⟩
  · have count : ((stays ++ last :: ends).filter (!isFiller ·)).length = 1 := by
      simp [filter_isFiller areStays, filter_isFiller areEnds, component]
    rw [List.append_assoc] at written
    obtain ⟨rfl, rfl⟩ | ⟨rfl, endsInComponent⟩ := start
    · have deep : path.depth = 1 := by
        rw [depth, written, List.singleton_append]
        exact count
      exact ⟨⟨by rw [deep]; exact Nat.one_pos, .inl starts⟩, deep.symm⟩
    · have deep := depth_of_segments endsInComponent.segments_ne_nil written
      rw [count] at deep
      refine ⟨⟨deep ▸ Nat.lt_succ_self _, .inr ⟨?_, endsInComponent⟩⟩, deep.symm⟩
      rw [written]
      exact List.prefix_append _ _

example : (ofText "/a").LiesAbove (ofText "/a//./b/") :=
  ⟨by decide, .inr ⟨by decide, by decide, by decide⟩⟩

/-- The directories that enclose a path are the path and those that enclose its parent. -/
theorem encloses_iff_of_parent? {path above : Path} (isParent : path.parent? = some above)
    (directory : Path) : directory.Encloses path ↔ directory = path ∨ directory.Encloses above := by
  obtain ⟨parentAbove, deep⟩ := liesAbove_of_parent? isParent
  refine or_congr_right ⟨fun liesAbove => ?_, ?_⟩
  · obtain less | same := Nat.lt_or_eq_of_le (Nat.le_of_lt_succ (deep ▸ liesAbove.fewer))
    · exact .inr (liesAbove.of_fewer parentAbove less)
    · exact .inl (liesAbove.eq_of_depth parentAbove same)
  · rintro (rfl | liesAbove)
    · exact parentAbove
    · exact liesAbove.trans parentAbove

theorem encloses_iff_of_parent?_eq_none {path : Path} (isEnd : path.parent? = none)
    (directory : Path) : directory.Encloses path ↔ directory = path := by
  refine ⟨?_, .inl⟩
  rintro (same | liesAbove)
  · exact same
  · exact absurd liesAbove.fewer (by rw [parent?_eq_none_iff.1 isEnd]; exact Nat.not_lt_zero _)

end Path

namespace Project

/-! ### The search -/

/-- The search goes up from a directory, in so many turns, and ends with the directory it has
found or with none. -/
inductive Climbs (files : FileSystem) : Nat → Path → Option Path → Prop
  | found {directory : Path} (holds : files.isFile (directory.child fileName) = true) :
      Climbs files 1 directory (some directory)
  | above {directory parent : Path} {turns : Nat} {result : Option Path}
      (lacks : files.isFile (directory.child fileName) = false)
      (isParent : directory.parent? = some parent) (rest : Climbs files turns parent result) :
      Climbs files (turns + 1) directory result
  | ended {directory : Path} (lacks : files.isFile (directory.child fileName) = false)
      (isEnd : directory.parent? = none) : Climbs files 1 directory none

/-- The directory has the most components of those, among the starting directory and the ones above
it, that hold a configuration file. -/
structure IsNearest (files : FileSystem) (start directory : Path) : Prop where
  encloses : directory.Encloses start
  holds : files.isFile (directory.child fileName) = true
  nearest : ∀ other : Path, other.Encloses start → files.isFile (other.child fileName) = true →
    other.depth ≤ directory.depth

/-- No directory above the starting one, nor that one, holds a configuration file. -/
def NoneEncloses (files : FileSystem) (start : Path) : Prop :=
  ∀ directory : Path, directory.Encloses start → files.isFile (directory.child fileName) = false

variable {files : FileSystem} {start directory : Path}

/-- The search ends, after a turn for each component and one more at most, with the first of the
ancestors that holds a configuration file. -/
theorem climbs_find? (files : FileSystem) (start : Path) : ∃ turns ≤ start.depth + 1,
    Climbs files turns start
      (start.ancestors.find? fun directory => files.isFile (directory.child fileName)) := by
  induction start using Path.ancestors.induct with
  | case1 directory isEnd =>
    rw [Path.ancestors, isEnd]
    refine ⟨1, Nat.le_add_left _ _, ?_⟩
    cases stands : files.isFile (directory.child fileName) with
    | true => simpa [stands] using Climbs.found stands
    | false => simpa [stands] using Climbs.ended stands isEnd
  | case2 directory parent isParent inductionHypothesis =>
    rw [Path.ancestors, isParent]
    cases stands : files.isFile (directory.child fileName) with
    | true => exact ⟨1, Nat.le_add_left _ _, by simpa [stands] using Climbs.found stands⟩
    | false =>
      obtain ⟨turns, bound, climbs⟩ := inductionHypothesis
      have fewer := Path.depth_lt_of_parent? isParent
      exact ⟨turns + 1, by omega, by simpa [stands] using Climbs.above stands isParent climbs⟩

/-- A search that is not over passes a directory that holds no configuration file, so what is
nearest from the parent is nearest from there. -/
theorem isNearest_of_parent {parent : Path} (lacks : files.isFile (start.child fileName) = false)
    (isParent : start.parent? = some parent) (isNearest : IsNearest files parent directory) :
    IsNearest files start directory where
  encloses := (Path.encloses_iff_of_parent? isParent directory).2 (.inr isNearest.encloses)
  holds := isNearest.holds
  nearest other encloses holds := by
    obtain rfl | further := (Path.encloses_iff_of_parent? isParent other).1 encloses
    · rw [lacks] at holds
      cases holds
    · exact isNearest.nearest other further holds

theorem noneEncloses_of_parent {parent : Path}
    (lacks : files.isFile (start.child fileName) = false) (isParent : start.parent? = some parent)
    (none : NoneEncloses files parent) : NoneEncloses files start := by
  intro other encloses
  obtain rfl | further := (Path.encloses_iff_of_parent? isParent other).1 encloses
  · exact lacks
  · exact none other further

theorem isNearest_of_holds (holds : files.isFile (start.child fileName) = true) :
    IsNearest files start start where
  encloses := .inl rfl
  holds := holds
  nearest other encloses _ := by
    obtain rfl | liesAbove := encloses
    · exact Nat.le_refl _
    · exact Nat.le_of_lt liesAbove.fewer

/-- What the search ends with is the nearest directory, or there is none. -/
theorem Climbs.sound {turns : Nat} {result : Option Path} (climbs : Climbs files turns start result) :
    match result with
    | some directory => IsNearest files start directory
    | none => NoneEncloses files start := by
  induction climbs with
  | found holds => exact isNearest_of_holds holds
  | @above directory parent turns result lacks isParent _ inductionHypothesis =>
    cases result with
    | some found => exact isNearest_of_parent lacks isParent inductionHypothesis
    | none => exact noneEncloses_of_parent lacks isParent inductionHypothesis
  | @ended directory lacks isEnd =>
    intro other encloses
    obtain rfl := (Path.encloses_iff_of_parent?_eq_none isEnd other).1 encloses
    exact lacks

theorem IsNearest.unique {first second : Path} (isNearest : IsNearest files start first)
    (isToo : IsNearest files start second) : first = second := by
  have same : first.depth = second.depth :=
    Nat.le_antisymm (isToo.nearest first isNearest.encloses isNearest.holds)
      (isNearest.nearest second isToo.encloses isToo.holds)
  obtain rfl | firstAbove := isNearest.encloses
  · obtain rfl | secondAbove := isToo.encloses
    · rfl
    · exact absurd secondAbove.fewer (by simp [same])
  · obtain rfl | secondAbove := isToo.encloses
    · exact absurd firstAbove.fewer (by simp [same])
    · exact firstAbove.eq_of_depth secondAbove same

theorem NoneEncloses.not_isNearest (none : NoneEncloses files start) :
    ¬IsNearest files start directory := by
  intro isNearest
  have lacks := none directory isNearest.encloses
  rw [isNearest.holds] at lacks
  cases lacks

/-- The search ends from every directory. It finds the enclosing directory that holds a
configuration file and has the most components of these, and fails, with the directory that it
started from, exactly if no enclosing directory holds one. -/
theorem findRoot_nearest (files : FileSystem) (start : Path) :
    (∃ turns ≤ start.depth + 1, ∃ result, Climbs files turns start result ∧
      findRoot files start = result.elim (.error (.notFound start.text)) .ok) ∧
    (∀ directory, findRoot files start = .ok directory ↔ IsNearest files start directory) ∧
    (∀ failure, findRoot files start = .error failure ↔
      failure = .notFound start.text ∧ NoneEncloses files start) := by
  obtain ⟨turns, bound, climbs⟩ := climbs_find? files start
  have sound := climbs.sound
  rw [findRoot]
  generalize start.ancestors.find? _ = result at climbs sound
  refine ⟨⟨turns, bound, result, climbs, by cases result <;> rfl⟩, ?_, ?_⟩
  · intro directory
    cases result with
    | some found =>
      constructor
      · rintro ⟨⟩
        exact sound
      · intro isNearest
        exact congrArg Except.ok (sound.unique isNearest)
    | none =>
      constructor
      · rintro ⟨⟩
      · intro isNearest
        exact absurd isNearest sound.not_isNearest
  · intro failure
    cases result with
    | some found =>
      constructor
      · rintro ⟨⟩
      · rintro ⟨-, none⟩
        exact absurd sound none.not_isNearest
    | none =>
      constructor
      · rintro ⟨⟩
        exact ⟨rfl, sound⟩
      · rintro ⟨rfl, -⟩
        rfl

end Project

end KernelExport
