/-
This file says where the walks along paths end.

Two things make walks predictable. A walk that succeeds only asks for what stands, so it succeeds
in the same way on every file system where the same stands and perhaps more (`Extends`); the walk
to a directory therefore need not be looked at again while other files come and go. And the path
of a name in a directory is the path of the directory with one more step, so its walk is the walk
to the directory and a step to the name (`parts_child`, `follow_name`).
-/

import KernelExport.Proofs.Paths
import KernelExport.Proofs.Steps

namespace KernelExport

namespace FileSystem

variable {files later : FileSystem} {path : Path} {location : Location} {name : String}

theorem expectDirectory_eq_ok_iff :
    files.expectDirectory location = .ok () ↔ files.get? location = some .directory := by
  rw [expectDirectory]
  split <;> simp_all

/-! ### Single steps -/

/-- The step from a directory to a name in it that is no link. -/
theorem follow_name (links : Nat) (directory : files.get? location = some .directory)
    (isName : IsName name)
    (unlinked : ∀ target, files.get? (name :: location) ≠ some (.link target)) :
    files.follow links location [name] =
      if isTooLong name then .error .nameTooLong
      else if files.get? (name :: location) = none then .error .notFound
      else .ok (name :: location, links) := by
  rw [follow_cons, expectDirectory_eq_ok_iff.2 directory]
  simp only [isName.2.1, isName.2.2.1, if_false]
  split
  · rfl
  · cases stands : files.get? (name :: location) with
    | none => rfl
    | some entry =>
      cases entry with
      | link target => exact absurd stands (unlinked target)
      | file _ | directory => rw [if_neg (by simp), follow_nil]

/-- The step from a directory to itself. -/
theorem follow_dot (links : Nat) (directory : files.get? location = some .directory) :
    files.follow links location ["."] = .ok (location, links) := by
  rw [follow_cons, expectDirectory_eq_ok_iff.2 directory]
  simp [follow_nil]

/-! ### Endings -/

/-- What stands, stands in a directory; the root directory stands in itself. -/
theorem get?_tail (stands : files.get? location ≠ none) :
    files.get? location.tail = some .directory := by
  cases location with
  | nil => rfl
  | cons name parent => exact files.get?_parent stands

theorem left_le_of_follow {links left : Nat} {steps : List String} {ending : Location}
    (walk : files.follow links location steps = .ok (ending, left)) : left ≤ links := by
  have rules := follows_iff.2 walk
  clear walk
  generalize ended : Except.ok (ending, left) = result at rules
  induction rules with
  | ended => simp_all
  | blocked | tooLong | missing | exhausted => cases ended
  | dot _ _ _ _ _ inductionHypothesis | up _ _ _ _ _ inductionHypothesis =>
    exact inductionHypothesis ended
  | link _ _ _ _ _ _ _ _ _ _ _ inductionHypothesis =>
    exact Nat.le_succ_of_le (inductionHypothesis ended)
  | name _ _ _ _ _ _ _ _ _ _ _ _ inductionHypothesis => exact inductionHypothesis ended

/-- With leave to follow more links, a walk that succeeds ends where it did. -/
theorem follow_add {links left : Nat} {steps : List String} {ending : Location}
    (walk : files.follow links location steps = .ok (ending, left)) (more : Nat) :
    files.follow (links + more) location steps = .ok (ending, left + more) := by
  have rules := follows_iff.2 walk
  clear walk
  generalize ended : Except.ok (ending, left) = result at rules
  induction rules with
  | ended links here =>
    obtain ⟨rfl, rfl⟩ := Prod.mk.inj (Except.ok.inj ended)
    rw [follow_nil]
  | blocked | tooLong | missing | exhausted => cases ended
  | dot links here rest standing _ inductionHypothesis =>
    exact (Follows.dot _ _ _ standing (follows_iff.2 (inductionHypothesis ended))).eq
  | up links here rest standing _ inductionHypothesis =>
    exact (Follows.up _ _ _ standing (follows_iff.2 (inductionHypothesis ended))).eq
  | link left here step rest target standing notDot notUp short linked _ inductionHypothesis =>
    rw [Nat.add_right_comm]
    exact (Follows.link _ _ _ _ target standing notDot notUp short linked
      (follows_iff.2 (inductionHypothesis ended))).eq
  | name links here step rest entry standing notDot notUp short found notLink _
      inductionHypothesis =>
    exact (Follows.name _ _ _ _ entry standing notDot notUp short found notLink
      (follows_iff.2 (inductionHypothesis ended))).eq

/-- A walk takes a step only from a directory. -/
theorem directory_of_follow {links : Nat} {steps : List String} {ending : Location × Nat}
    (walk : files.follow links location steps = .ok ending) (moves : steps ≠ []) :
    files.get? location = some .directory := by
  obtain ⟨step, rest, rfl⟩ := List.exists_cons_of_ne_nil moves
  rw [follow_cons] at walk
  cases standing : files.expectDirectory location with
  | error failure => simp [standing] at walk
  | ok _ => exact expectDirectory_eq_ok_iff.1 standing

/-- A walk takes a name only where something stands. -/
theorem stands_of_follow {links : Nat} {rest : List String} {ending : Location × Nat}
    (walk : files.follow links location (name :: rest) = .ok ending) (isName : IsName name) :
    files.get? (name :: location) ≠ none := by
  intro missing
  have standing := expectDirectory_eq_ok_iff.2 (directory_of_follow walk (by simp))
  rw [follow_cons, standing] at walk
  simp only [isName.2.1, isName.2.2.1, missing, if_false] at walk
  split at walk <;> cases walk

/-- A walk to a directory comes from one. -/
theorem directory_of_follow_directory {links left : Nat} {steps : List String} {ending : Location}
    (walk : files.follow links location steps = .ok (ending, left))
    (standing : files.get? ending = some .directory) : files.get? location = some .directory := by
  by_cases none : steps = []
  · rw [none, follow_nil] at walk
    obtain ⟨rfl, -⟩ := Prod.mk.inj (Except.ok.inj walk)
    exact standing
  · exact directory_of_follow walk none

/-- Where a walk ends after a step something stands that is no link. -/
theorem standing_of_follow {links left : Nat} {steps : List String} {ending : Location}
    (walk : files.follow links location steps = .ok (ending, left)) (moves : steps ≠ []) :
    ∃ entry, files.get? ending = some entry ∧ ∀ target, entry ≠ .link target := by
  have starts := directory_of_follow walk moves
  suffices ends : ∀ {here}, (∃ entry, files.get? here = some entry ∧
      ∀ target, entry ≠ Entry.link target) → files.follow links here steps = .ok (ending, left) →
      ∃ entry, files.get? ending = some entry ∧ ∀ target, entry ≠ .link target from
    ends ⟨_, starts, by simp⟩ walk
  clear walk starts moves
  intro here stands walk
  have rules := follows_iff.2 walk
  clear walk
  generalize ended : Except.ok (ending, left) = result at rules
  induction rules with
  | ended links here =>
    obtain ⟨rfl, rfl⟩ := Prod.mk.inj (Except.ok.inj ended)
    exact stands
  | blocked | tooLong | missing | exhausted => cases ended
  | dot links here rest standing _ inductionHypothesis => exact inductionHypothesis stands ended
  | up links here rest standing _ inductionHypothesis =>
    have directory := expectDirectory_eq_ok_iff.1 standing
    exact inductionHypothesis ⟨.directory, get?_tail (by simp [directory]), by simp⟩ ended
  | link left here step rest target standing notDot notUp short linked _ inductionHypothesis =>
    refine inductionHypothesis ⟨.directory, ?_, by simp⟩ ended
    rw [start]
    split
    · rfl
    · exact expectDirectory_eq_ok_iff.1 standing
  | name links here step rest entry standing notDot notUp short found notLink _
      inductionHypothesis =>
    exact inductionHypothesis ⟨entry, found, notLink⟩ ended

/-- The last part of a path is the name that it leads to, and the parts before it lead to the
directory of the name. -/
theorem placementFrom_of_parts (links : Nat) (here : Location) {before : List String}
    {last : String} (parts : path.parts = before ++ [last]) :
    files.placementFrom links here path = (expectPath path).bind fun _ =>
      (files.follow links (start path here) before).bind fun (directory, left) =>
        (files.expectDirectory directory).bind fun _ =>
          if last = "." ∨ last = ".." then .ok none
          else if isTooLong last then .error .nameTooLong
          else .ok (some ⟨directory, last, path.segments.getLast? == some "", left⟩) := by
  have reversed : (path.segments.filter (· ≠ "")).reverse = last :: before.reverse := by
    show path.parts.reverse = _
    rw [parts, List.reverse_concat]
  rw [placementFrom]
  simp only [reversed, List.reverse_reverse]
  rfl

/-- A path that leads to a name in a directory has the name as its last part, and the parts before
it lead to the directory. -/
theorem placementFrom_eq_some_iff {links : Nat} {here : Location} {place : Placement} :
    files.placementFrom links here path = .ok (some place) ↔
      expectPath path = .ok () ∧
      (∃ before, path.parts = before ++ [place.name] ∧
        files.follow links (start path here) before = .ok (place.directory, place.links)) ∧
      files.get? place.directory = some .directory ∧ IsName place.name ∧
      isTooLong place.name = false ∧ place.slashed = (path.segments.getLast? == some "") := by
  constructor
  · intro placed
    cases parts : path.parts.reverse with
    | nil =>
      have reversed : (path.segments.filter (· ≠ "")).reverse = [] := parts
      rw [placementFrom] at placed
      simp only [reversed] at placed
      obtain ⟨_, _, placed⟩ := bind_eq_ok_iff.1 placed
      cases placed
    | cons last others =>
      have written : path.parts = others.reverse ++ [last] := by
        rw [← List.reverse_reverse path.parts, parts, List.reverse_cons]
      have inPath : last ∈ path.parts := written ▸ List.mem_append_right _ List.mem_cons_self
      obtain ⟨inSegments, solid⟩ := List.mem_filter.1 inPath
      rw [placementFrom_of_parts links here written] at placed
      obtain ⟨_, expected, placed⟩ := bind_eq_ok_iff.1 placed
      obtain ⟨⟨directory, left⟩, walk, placed⟩ := bind_eq_ok_iff.1 placed
      obtain ⟨_, stands, placed⟩ := bind_eq_ok_iff.1 placed
      split at placed
      · cases placed
      · rename_i ordinary
        split at placed
        · cases placed
        · rename_i short
          obtain rfl := Option.some.inj (Except.ok.inj placed)
          rw [not_or] at ordinary
          exact ⟨expected, ⟨_, written, walk⟩, expectDirectory_eq_ok_iff.1 stands,
            ⟨by simpa using solid, ordinary.1, ordinary.2, path.slashless last inSegments⟩,
            by simpa using short, rfl⟩
  · rintro ⟨expected, ⟨before, written, walk⟩, stands, isName, short, slashed⟩
    rw [placementFrom_of_parts links here written, expected, walk]
    simp only [Except.bind, expectDirectory_eq_ok_iff.2 stands]
    rw [if_neg (by simp [isName.2.1, isName.2.2.1]), if_neg (by simp [short]), ← slashed]

/-- The walk along a path that names a directory ends there. -/
theorem follow_of_placement {place : Placement} (placed : files.placement path = .ok (some place))
    (standing : files.get? place.location = some .directory) :
    files.follow linkLimit (start path files.workingDirectory) path.parts =
      .ok (place.location, place.links) := by
  obtain ⟨-, ⟨before, written, walk⟩, directory, isName, short, -⟩ :=
    placementFrom_eq_some_iff.1 placed
  rw [written, follow_append, walk]
  show files.follow place.links place.directory [place.name] = _
  rw [follow_name place.links directory isName, if_neg (by simp [short]), if_neg]
  · rfl
  · rw [← Placement.location, standing]
    simp
  · intro target linked
    rw [← Placement.location, standing] at linked
    cases linked

/-- A path leads to where its walk ends, if something stands there. -/
theorem resolve_eq_ok_iff {ending : Location} :
    files.resolve path = .ok ending ↔ expectPath path = .ok () ∧
      (∃ left, files.follow linkLimit (start path files.workingDirectory) path.steps =
        .ok (ending, left)) ∧ files.get? ending ≠ none := by
  rw [resolve, bind_eq_ok_iff]
  constructor
  · rintro ⟨_, expected, resolved⟩
    obtain ⟨⟨location, left⟩, walk, resolved⟩ := bind_eq_ok_iff.1 resolved
    cases stands : files.get? location with
    | none =>
      simp only [stands] at resolved
      cases resolved
    | some entry =>
      simp only [stands] at resolved
      obtain rfl := Except.ok.inj resolved
      exact ⟨expected, ⟨left, walk⟩, by simp [stands]⟩
  · rintro ⟨expected, ⟨left, walk⟩, stands⟩
    refine ⟨(), expected, bind_eq_ok_iff.2 ⟨(ending, left), walk, ?_⟩⟩
    obtain ⟨entry, stands⟩ := Option.ne_none_iff_exists'.1 stands
    simp only [stands]
    rfl

/-- A path that names a directory leads to it, with a slash behind it or without one. -/
theorem resolve_of_placement {place : Placement} (placed : files.placement path = .ok (some place))
    (standing : files.get? place.location = some .directory) :
    files.resolve path = .ok place.location := by
  have walk := follow_of_placement placed standing
  refine resolve_eq_ok_iff.2
    ⟨(placementFrom_eq_some_iff.1 placed).1, ⟨place.links, ?_⟩, by rw [standing]; simp⟩
  rcases path.steps_eq with steps | steps
  · rw [steps, walk]
  · rw [steps, follow_append, walk]
    exact follow_dot place.links standing

/-! ### More files -/

/-- All that stands on one file system stands on another one, and relative paths start at the same
location. -/
structure Extends (later files : FileSystem) : Prop where
  entry : ∀ {location entry}, files.get? location = some entry →
    later.get? location = some entry
  workingDirectory : later.workingDirectory = files.workingDirectory

/-- A walk that does not fail for want of anything asks for nothing but what stands. -/
theorem Extends.follow_eq (more : later.Extends files) {links : Nat} {steps : List String}
    (grounded : files.follow links location steps ≠ .error .notFound) :
    later.follow links location steps = files.follow links location steps := by
  have expects : ∀ {here}, files.expectDirectory here ≠ .error .notFound →
      later.expectDirectory here = files.expectDirectory here := by
    intro here stands
    rw [expectDirectory, expectDirectory]
    cases standing : files.get? here with
    | none => simp [expectDirectory, standing] at stands
    | some entry => rw [more.entry standing]
  have enters : ∀ {here}, files.expectDirectory here = .ok () →
      later.expectDirectory here = .ok () := fun standing =>
    (expects (by simp [standing])).trans standing
  have rules := files.follows links location steps
  generalize files.follow links location steps = result at rules grounded
  induction rules with
  | ended links here => exact later.follow_nil links here
  | blocked links here step rest failure failed =>
    have same := expects (by rw [failed]; simpa using grounded)
    exact (Follows.blocked _ _ _ _ _ (same.trans failed)).eq
  | dot links here rest standing _ inductionHypothesis =>
    exact (Follows.dot _ _ _ (enters standing) (follows_iff.2 (inductionHypothesis grounded))).eq
  | up links here rest standing _ inductionHypothesis =>
    exact (Follows.up _ _ _ (enters standing) (follows_iff.2 (inductionHypothesis grounded))).eq
  | tooLong links here step rest standing notDot notUp long =>
    exact (Follows.tooLong _ _ _ _ (enters standing) notDot notUp long).eq
  | missing => exact absurd rfl grounded
  | exhausted here step rest target standing notDot notUp short linked =>
    exact (Follows.exhausted _ _ _ target (enters standing) notDot notUp short
      (more.entry linked)).eq
  | link left here step rest target standing notDot notUp short linked _ inductionHypothesis =>
    exact (Follows.link _ _ _ _ target (enters standing) notDot notUp short (more.entry linked)
      (follows_iff.2 (inductionHypothesis grounded))).eq
  | name links here step rest entry standing notDot notUp short found notLink _
      inductionHypothesis =>
    exact (Follows.name _ _ _ _ entry (enters standing) notDot notUp short (more.entry found)
      notLink (follows_iff.2 (inductionHypothesis grounded))).eq

theorem Extends.follow (more : later.Extends files) {links : Nat} {steps : List String}
    {ending : Location × Nat} (walk : files.follow links location steps = .ok ending) :
    later.follow links location steps = .ok ending := by
  rw [more.follow_eq (by rw [walk]; simp), walk]

theorem Extends.placement (more : later.Extends files) {place : Placement}
    (placed : files.placement path = .ok (some place)) :
    later.placement path = .ok (some place) := by
  obtain ⟨expected, ⟨before, written, walk⟩, standing, rest⟩ := placementFrom_eq_some_iff.1 placed
  refine placementFrom_eq_some_iff.2
    ⟨expected, ⟨before, written, ?_⟩, more.entry standing, rest⟩
  rw [more.workingDirectory]
  exact more.follow walk

theorem Extends.resolve (more : later.Extends files) {ending : Location}
    (resolved : files.resolve path = .ok ending) : later.resolve path = .ok ending := by
  obtain ⟨expected, ⟨left, walk⟩, stands⟩ := resolve_eq_ok_iff.1 resolved
  obtain ⟨entry, stands⟩ := Option.ne_none_iff_exists'.1 stands
  refine resolve_eq_ok_iff.2 ⟨expected, ⟨left, ?_⟩, by rw [more.entry stands]; simp⟩
  rw [more.workingDirectory]
  exact more.follow walk

/-! ### Operations on names -/

theorem createDirectory_of_placement {place : Placement}
    (placed : files.placement path = .ok (some place)) :
    files.createDirectory path = match files.get? place.location with
      | some _ => .error .alreadyExists
      | none => .ok (files.put place.directory place.name .directory) := by
  rw [createDirectory, placed]
  rfl

theorem removeFile_of_placement {place : Placement}
    (placed : files.placement path = .ok (some place)) :
    files.removeFile path = match files.get? place.location with
      | none => .error .notFound
      | some .directory => .error .isDirectory
      | some _ =>
        if place.slashed then .error .notDirectory else .ok (files.erase place.location) := by
  rw [removeFile, placed]
  rfl

/-- Where no link has the name and no slash is behind it, bytes go to the name itself. -/
theorem writingPlace_of_placementFrom {links : Nat} {here : Location} {place : Placement}
    (placed : files.placementFrom links here path = .ok (some place))
    (unslashed : place.slashed = false)
    (unlinked : ∀ target, files.get? place.location ≠ some (.link target)) :
    files.writingPlace links here path = match files.get? place.location with
      | some .directory => .error .isDirectory
      | _ => .ok (place.directory, place.name) := by
  rw [writingPlace, placed]
  simp only [bind, Except.bind, unslashed]
  cases stands : files.get? place.location with
  | none => rfl
  | some entry =>
    cases entry with
    | link target => exact absurd stands (unlinked target)
    | file _ | directory => rfl

/-! ### Names in directories -/

/-- A path leads to the directory at a location. The path without parts leads to where walks along
it start, be it a directory or not. -/
structure OpensAt (files : FileSystem) (path : Path) (site : Location) : Prop where
  walk : ∃ left, files.follow linkLimit (start path files.workingDirectory) path.parts =
    .ok (site, left)
  directory : path.parts ≠ [] → files.get? site = some .directory

theorem start_child (path : Path) (isName : IsName name) (here : Location) :
    start (path.child name) here = start path here := by
  rw [start, Path.isAbsolute_child path isName, start]

theorem expectPath_child (path : Path) (isName : IsName name) :
    expectPath (path.child name) = .error .nameTooLong ∨
      expectPath (path.child name) = .ok () := by
  rw [expectPath, Path.isEmpty_child path isName, if_neg Bool.false_ne_true]
  split
  · exact .inl rfl
  · exact .inr rfl

/-- A path that can be asked for has a text, which is not too long. -/
theorem bounds_of_expectPath (expected : expectPath path = .ok ()) :
    0 < path.text.utf8ByteSize ∧ path.text.utf8ByteSize ≤ pathLimit := by
  rw [expectPath] at expected
  split at expected
  · cases expected
  · rename_i written
    split at expected
    · cases expected
    · rename_i short
      refine ⟨Nat.pos_of_ne_zero fun none => written ?_, Nat.le_of_not_lt short⟩
      have text := String.utf8ByteSize_eq_zero_iff.1 none
      have whole : path.segments = [] ∨ path.segments = [""] := by
        refine or_iff_not_imp_left.2 fun some => ?_
        rw [← Path.ofText_text some, text]
        decide
      simpa [Path.isEmpty] using whole

/-- Neither a name nor the path that ends in it is too long to be asked for. -/
def Sayable (path : Path) (name : String) : Prop :=
  expectPath (path.child name) = .ok () ∧ isTooLong name = false

instance (path : Path) (name : String) : Decidable (Sayable path name) :=
  inferInstanceAs (Decidable (_ ∧ _))

theorem resolve_of_opensAt (opens : files.OpensAt path location)
    (standing : files.get? location = some .directory) :
    files.resolve path = (expectPath path).map fun _ => location := by
  obtain ⟨left, walk⟩ := opens.walk
  have whole : files.follow linkLimit (start path files.workingDirectory) path.steps =
      .ok (location, left) := by
    rcases path.steps_eq with same | dotted
    · rw [same, walk]
    · rw [dotted, follow_append, walk]
      exact follow_dot left standing
  rw [FileSystem.resolve, whole]
  cases expectPath path with
  | error failure => rfl
  | ok _ =>
    simp only [bind, Except.bind, standing]
    rfl

theorem readDirectory_of_opensAt (opens : files.OpensAt path location)
    (standing : files.get? location = some .directory) :
    files.readDirectory path = (expectPath path).map fun _ => files.names location := by
  rw [readDirectory, resolve_of_opensAt opens standing]
  cases expectPath path with
  | error failure => rfl
  | ok _ =>
    simp only [Except.map, bind, Except.bind, expectDirectory_eq_ok_iff.2 standing]
    rfl

theorem names_of_readDirectory {found : List String} (read : files.readDirectory path = .ok found)
    (opens : files.OpensAt path location) (standing : files.get? location = some .directory) :
    found = files.names location := by
  rw [readDirectory_of_opensAt opens standing] at read
  cases expected : expectPath path with
  | error failure =>
    rw [expected] at read
    cases read
  | ok _ =>
    rw [expected] at read
    exact (Except.ok.inj read).symm

namespace OpensAt

variable (opens : files.OpensAt path location) (isName : IsName name)

include opens isName

theorem follow_child : ∃ left ≤ linkLimit,
    files.follow linkLimit (start (path.child name) files.workingDirectory)
      (path.child name).steps = files.follow left location [name] := by
  obtain ⟨left, walk⟩ := opens.walk
  refine ⟨left, left_le_of_follow walk, ?_⟩
  rw [Path.steps_child path isName, start_child path isName, follow_append, walk]
  rfl

variable (standing : files.get? location = some .directory)

include standing

/-- The path of a name in a directory names the place of the name there. -/
theorem placement_child : ∃ left, files.placement (path.child name) =
    if Sayable path name then .ok (some ⟨location, name, false, left⟩) else .error .nameTooLong := by
  obtain ⟨left, walk⟩ := opens.walk
  have unslashed : ((path.child name).segments.getLast? == some "") = false := by
    rw [Path.getLast?_child path isName.2.2.2]
    simp [isName.1]
  refine ⟨left, ?_⟩
  rw [placement, placementFrom_of_parts _ _ (Path.parts_child path isName),
    start_child path isName, unslashed, walk]
  rcases expectPath_child path isName with tooLong | expected
  · rw [tooLong, if_neg (by simp [Sayable, tooLong])]
    rfl
  · rw [expected]
    simp only [Except.bind, expectDirectory_eq_ok_iff.2 standing, Sayable, expected, true_and]
    rw [if_neg (by simp [isName.2.1, isName.2.2.1])]
    cases isTooLong name <;> simp

/-- The place that such a path names is the name in the directory. -/
theorem eq_of_placement_child {place : Placement}
    (placed : files.placement (path.child name) = .ok (some place)) :
    place.directory = location ∧ place.name = name := by
  obtain ⟨left, child⟩ := placement_child opens isName standing
  rw [placed] at child
  split at child
  · obtain rfl := Option.some.inj (Except.ok.inj child)
    exact ⟨rfl, rfl⟩
  · cases child

/-- The path of a name leads to where the name stands, unless a link has the name. -/
theorem resolve_child (unlinked : ∀ target, files.get? (name :: location) ≠ some (.link target)) :
    files.resolve (path.child name) =
      if Sayable path name then
        if files.get? (name :: location) = none then .error .notFound else .ok (name :: location)
      else .error .nameTooLong := by
  obtain ⟨left, -, walk⟩ := opens.follow_child isName
  rw [resolve, walk, follow_name left standing isName unlinked]
  rcases expectPath_child path isName with tooLong | expected
  · have unsayable : ¬Sayable path name := by simp [Sayable, tooLong]
    rw [tooLong, if_neg unsayable]
    rfl
  · simp only [expected, Sayable, true_and]
    cases isTooLong name with
    | true => rfl
    | false =>
      cases stands : files.get? (name :: location) with
      | none => rfl
      | some entry => simp [bind, Except.bind, stands, pure, Except.pure]

/-- The path of a name leads to a directory if that has the name, and otherwise not, unless a link
of the name leads to one. -/
theorem isDirectory_child (harmless : ∀ target ending left,
      files.get? (name :: location) = some (.link target) →
      files.follow linkLimit location [name] = .ok (ending, left) →
      files.get? ending ≠ some .directory) :
    files.isDirectory (path.child name) =
      decide (Sayable path name ∧ files.get? (name :: location) = some .directory) := by
  by_cases linked : ∃ target, files.get? (name :: location) = some (.link target)
  · obtain ⟨target, linked⟩ := linked
    have no : files.isDirectory (path.child name) = false := by
      rw [isDirectory]
      split
      · rename_i ending resolved
        obtain ⟨-, ⟨remaining, whole⟩, -⟩ := resolve_eq_ok_iff.1 resolved
        obtain ⟨left, within, walk⟩ := opens.follow_child isName
        have most := follow_add (walk.symm.trans whole) (linkLimit - left)
        rw [Nat.add_sub_cancel' within] at most
        exact beq_false_of_ne (harmless target ending _ linked most)
      · rfl
    rw [no, linked]
    simp
  · rw [isDirectory, opens.resolve_child isName standing (not_exists.1 linked)]
    by_cases sayable : Sayable path name
    · cases stands : files.get? (name :: location) with
      | none => simp [sayable]
      | some entry => cases entry <;> simp [sayable, stands]
    · simp [sayable]

/-- A directory in a directory is opened by the path of its name. -/
theorem child (sayable : Sayable path name)
    (directory : files.get? (name :: location) = some .directory) :
    files.OpensAt (path.child name) (name :: location) := by
  obtain ⟨left, walk⟩ := opens.walk
  refine ⟨⟨left, ?_⟩, fun _ => directory⟩
  rw [Path.parts_child path isName, start_child path isName, follow_append, walk]
  show files.follow left location [name] = _
  rw [follow_name left standing isName (by simp [directory]), sayable.2, directory]
  rfl

end OpensAt

end FileSystem

end KernelExport
