/-
This file says what can be read alike whatever the name of a workspace is: the workspace itself, by
its path and by the paths of names behind it, and a template set, unless it leads to the directory
that holds the workspace. There the name would be met.

Texts mean the same too, though the dictionary of a kernel names the directory in the workspace
where its hardware lies: that is in a list of texts, and a template can neither splice such a list
nor repeat a block for it.
-/

import KernelExport.Proofs.OutermostScope
import KernelExport.Proofs.TwinRuns

namespace KernelExport

open FileSystem

namespace FileSystem

/-- In no files that have no other links do a path and those of names behind it lead to a
location. -/
def NeverLeads (files : FileSystem) (path : Path) (location : Location) : Prop :=
  ∀ present : FileSystem, present.workingDirectory = files.workingDirectory →
    (∀ {linked target}, present.get? linked = some (.link target) →
      files.get? linked = some (.link target)) →
    ∀ names : List String, (∀ name ∈ names, IsName name) →
      present.resolve (names.foldl Path.child path) ≠ .ok location

variable {files : FileSystem} {path : Path} {site location ending : Location}

/-- Where there are no links, a walk by names ends where they are written. -/
theorem follow_names_of_unlinked
    (unlinked : ∀ location target, files.get? location ≠ some (.link target)) {links left : Nat}
    {steps : List String} (named : ∀ step ∈ steps, step = "." ∨ IsName step)
    (walk : files.follow links location steps = .ok (ending, left)) :
    ending = (steps.filter (· ≠ ".")).reverse ++ location := by
  induction steps generalizing location with
  | nil =>
    rw [follow_nil] at walk
    obtain ⟨rfl, -⟩ := Prod.mk.inj (Except.ok.inj walk)
    rfl
  | cons step rest inductionHypothesis =>
    obtain ⟨kind, namedRest⟩ := List.forall_mem_cons.1 named
    rw [follow_cons] at walk
    split at walk
    · cases walk
    · rcases kind with rfl | isName
      · rw [if_pos rfl] at walk
        rw [inductionHypothesis namedRest walk]
        simp
      · rw [if_neg isName.2.1, if_neg isName.2.2.1] at walk
        split at walk
        · cases walk
        · cases found : files.get? (step :: location) with
          | none =>
            rw [found] at walk
            cases walk
          | some entry =>
            cases entry with
            | link target => exact absurd found (unlinked _ target)
            | file _ | directory =>
              rw [found] at walk
              rw [inductionHypothesis namedRest walk]
              simp [isName.2.1]

/-- Where there are no links, a path of names leads to no location that does not lie where the names
are written. -/
theorem neverLeads_of_linkless (linkless : files.linkless = true)
    (named : ∀ part ∈ path.parts, IsName part)
    (apart : within (path.parts.reverse ++ start path files.workingDirectory) site = false) :
    files.NeverLeads path site := by
  intro present home stood names isName resolved
  have unlinked : ∀ location target, present.get? location ≠ some (.link target) :=
    fun location target isLink => unlinked_of_linkless linkless location target (stood isLink)
  obtain ⟨-, ⟨left, walk⟩, -⟩ := resolve_eq_ok_iff.1 resolved
  have parts : (names.foldl Path.child path).parts = path.parts ++ names :=
    Path.parts_foldl_child isName
  have written : ∀ part ∈ path.parts ++ names, IsName part := by
    intro part member
    rcases List.mem_append.1 member with inPath | inNames
    · exact named part inPath
    · exact isName part inNames
  have solid : (path.parts ++ names).filter (· ≠ ".") = path.parts ++ names :=
    List.filter_eq_self.2 fun part member => by simpa using (written part member).2.1
  have ended : site = (path.parts ++ names).reverse ++ start path files.workingDirectory := by
    have begins : start (names.foldl Path.child path) present.workingDirectory =
        start path files.workingDirectory := by
      rw [start, Path.isAbsolute_foldl_child isName, home, start]
    rw [begins] at walk
    rcases (names.foldl Path.child path).steps_eq with same | dotted
    · rw [same, parts] at walk
      rw [follow_names_of_unlinked unlinked (fun part member => .inr (written part member)) walk,
        solid]
    · rw [dotted, parts] at walk
      have each : ∀ part ∈ path.parts ++ names ++ ["."], part = "." ∨ IsName part := by
        intro part member
        rcases List.mem_append.1 member with inParts | isDot
        · exact .inr (written part inParts)
        · exact .inl (List.mem_singleton.1 isDot)
      rw [follow_names_of_unlinked unlinked each walk, List.filter_append, solid]
      simp
  rw [ended, List.reverse_append, List.append_assoc, within_append] at apart
  cases apart

end FileSystem

namespace Workspaces

variable {workspaces : Workspaces} {left right : FileSystem} {path : Path} {location : Location}

/-! ### Paths that can be read -/

/-- A path of known names can be read if it never leads to the directory that holds the
workspace. -/
theorem readable_of_neverLeads (among : Among workspaces.known path.parts)
    (never : workspaces.base.NeverLeads path workspaces.site) : workspaces.Readable path path := by
  intro left right twins names each
  have named : ∀ name ∈ names, IsName name := fun name member => (each name member).1
  have told : Among workspaces.known (names.foldl Path.child path).parts := by
    rw [Path.parts_foldl_child named, among_append]
    exact ⟨among, fun name member => (each name member).2⟩
  obtain ⟨same, there⟩ := twins.concurs.resolve told
  rw [same]
  cases resolved : left.resolve (names.foldl Path.child path) with
  | error failure => exact .error failure
  | ok location =>
    refine .ok (.outside (there resolved) ?_)
    rintro rfl
    exact never left twins.home twins.stood names named resolved

/-- The walks along names into the workspace correspond. -/
theorem tallies_follow_inside (twins : workspaces.Twins left right) (links : Nat)
    {walked names : List String} (among : Among workspaces.known walked)
    (each : ∀ name ∈ names, IsName name ∧ workspaces.known name) :
    Tallies (fun ending other => other.2 = ending.2 ∧ workspaces.Corresponds ending.1 other.1)
      (left.follow links (walked ++ workspaces.first :: workspaces.site) names)
      (right.follow links (walked ++ workspaces.second :: workspaces.site) names) := by
  induction names generalizing walked with
  | nil =>
    rw [follow_nil, follow_nil]
    exact .ok ⟨rfl, .inside among⟩
  | cons name rest inductionHypothesis =>
    obtain ⟨⟨isName, known⟩, each⟩ := List.forall_mem_cons.1 each
    have deeper : Among workspaces.known (name :: walked) := among_cons.2 ⟨known, among⟩
    have same : right.get? (name :: (walked ++ workspaces.second :: workspaces.site)) =
        left.get? (name :: (walked ++ workspaces.first :: workspaces.site)) := twins.inside deeper
    have unlinked : ∀ target, left.get? (name :: (walked ++ workspaces.first :: workspaces.site)) ≠
        some (.link target) := twins.unlinked (name :: walked)
    rw [follow_cons, follow_cons]
    simp only [expectDirectory, twins.inside among, same, isName.2.1, isName.2.2.1, if_false]
    split
    · exact .error _
    · split
      · exact .error _
      · cases found : left.get? (name :: (walked ++ workspaces.first :: workspaces.site)) with
        | none => exact .error _
        | some entry =>
          cases entry with
          | link target => exact absurd found (unlinked target)
          | file _ | directory => exact inductionHypothesis deeper each

/-- The walks over the name of the workspace correspond from any location of known names. -/
theorem tallies_follow_workspace (twins : workspaces.Twins left right) (links : Nat)
    {names : List String} (among : Among workspaces.known location)
    (each : ∀ name ∈ names, IsName name ∧ workspaces.known name) :
    Tallies (fun ending other => other.2 = ending.2 ∧ workspaces.Corresponds ending.1 other.1)
      (left.follow links location (workspaces.first :: names))
      (right.follow links location (workspaces.second :: names)) := by
  have long : isTooLong workspaces.second = isTooLong workspaces.first := by
    rw [isTooLong, isTooLong, workspaces.sameSize]
  have ordinary := workspaces.isNameFirst
  have ordinaryToo := workspaces.isNameSecond
  rw [follow_cons, follow_cons]
  simp only [expectDirectory, twins.outside among, long, ordinary.2.1, ordinary.2.2.1,
    ordinaryToo.2.1, ordinaryToo.2.2.1, if_false]
  split
  · exact .error _
  · split
    · exact .error _
    · by_cases here : location = workspaces.site
      · subst here
        have none : Among workspaces.known [] := among_nil
        have same : right.get? (workspaces.second :: workspaces.site) =
          left.get? (workspaces.first :: workspaces.site) := twins.inside none
        rw [same]
        cases found : left.get? (workspaces.first :: workspaces.site) with
        | none => exact .error _
        | some entry =>
          cases entry with
          | link target => exact absurd found (twins.unlinked [] target)
          | file _ | directory =>
            exact tallies_follow_inside twins links none each
      · have missing : left.get? (workspaces.first :: location) = none := by
          by_contra stands
          exact workspaces.newFirst
            (twins.lodgesLeft.known_of_standing workspaces.newFirst among here stands)
        have missingToo : right.get? (workspaces.second :: location) = none := by
          by_contra stands
          exact workspaces.newSecond
            (twins.lodgesRight.known_of_standing workspaces.newSecond among here stands)
        rw [missing, missingToo]
        exact .error _

/-- The workspace can be read by a path to the directory that holds it. -/
theorem readable_workspace (among : Among workspaces.known path.parts) :
    workspaces.Readable (path.child workspaces.first) (path.child workspaces.second) := by
  intro left right twins names each
  have named : ∀ name ∈ names, IsName name := fun name member => (each name member).1
  have first := workspaces.isNameFirst
  have second := workspaces.isNameSecond
  have empty : ∀ {name}, IsName name →
      (names.foldl Path.child (path.child name)).isEmpty = false := by
    intro name isName
    rcases List.eq_nil_or_concat names with rfl | ⟨front, last, rfl⟩
    · exact Path.isEmpty_child path isName
    · rw [List.concat_eq_append] at named ⊢
      rw [Path.foldl_child_concat]
      exact Path.isEmpty_child _ (named last (by simp))
  have expected : expectPath (names.foldl Path.child (path.child workspaces.second)) =
      expectPath (names.foldl Path.child (path.child workspaces.first)) := by
    rw [expectPath, expectPath, empty first, empty second,
      Path.utf8ByteSize_foldl_child first second workspaces.sameSize named]
  have starts : ∀ {name here}, IsName name →
      start (names.foldl Path.child (path.child name)) here = start path here := by
    intro name here isName
    rw [start, Path.isAbsolute_foldl_child named, Path.isAbsolute_child path isName, start]
  rw [resolve, resolve, expected, starts first, starts second, twins.workingDirectory,
    Path.steps_foldl_child first named, Path.steps_foldl_child second named, follow_append,
    follow_append]
  obtain ⟨same, there⟩ := twins.concurs.follow linkLimit
    (among_start path twins.lodgesLeft.started) among
  rw [same]
  cases expectPath (names.foldl Path.child (path.child workspaces.first)) with
  | error failure => exact .error failure
  | ok _ =>
    cases walk : left.follow linkLimit (start path left.workingDirectory) path.parts with
    | error failure => exact .error failure
    | ok ending =>
      simp only [bind, Except.bind]
      rcases (tallies_follow_workspace twins ending.2 (there walk) each).cases with
        ⟨⟨location, left⟩, ⟨other, right⟩, walks, walksToo, -, corresponds⟩ |
          ⟨failure, fails, failsToo⟩
      · simp only [walks, walksToo, twins.get?_eq corresponds]
        split
        · exact .ok corresponds
        · exact .error _
      · rw [fails, failsToo]
        exact .error failure

end Workspaces

/-! ### Dictionaries -/

namespace Template

/-- The scopes know the same names, and templates cannot tell apart what they know under one. -/
def Matches (first second : Scope) : Prop :=
  List.Forall₂ (fun field other => field.1 = other.1 ∧ Indistinct field.2 other.2) first second

theorem Matches.refl (scope : Scope) : Matches scope scope :=
  List.forall₂_same.2 fun field _ => ⟨rfl, .same field.2⟩

variable {first second : Scope}

theorem Matches.agreeOn (alike : Matches first second) (key : String) :
    AgreeOn first second key := by
  unfold AgreeOn
  induction alike with
  | nil => exact .none
  | @cons field other rest more both _ inductionHypothesis =>
    obtain ⟨name, value⟩ := field
    obtain ⟨same, indistinct⟩ := both
    obtain ⟨_, counterpart⟩ := other
    obtain rfl : name = _ := same
    rw [List.lookup_cons, List.lookup_cons]
    cases key == name with
    | true => exact .some indistinct
    | false => exact inductionHypothesis

end Template

namespace KernelDescriptor

variable (descriptor : KernelDescriptor) (files : List String)

/-- Descriptors with the same hardware in different directories match. -/
theorem matches_withHardware (directory other : Path) :
    Template.Matches (descriptor.withHardware directory files).fields
      (descriptor.withHardware other files).fields := by
  have rest := Template.Matches.refl
  refine List.rel_append (List.rel_append (List.rel_append (List.rel_append (List.rel_append ?_
    (rest _)) (rest _)) (rest _)) (rest _)) (rest _)
  refine .cons ⟨rfl, .same _⟩ (.cons ⟨rfl, .same _⟩ (.cons ⟨rfl, .same _⟩ (.cons ⟨rfl, .same _⟩
    (.cons ⟨rfl, .same _⟩ (.cons ⟨rfl, ?_⟩ .nil)))))
  exact .texts directory.text other.text [] []

/-- The directory of the hardware makes no difference to what a text means. -/
theorem render_withHardware (directory other : Path) (text : String) :
    (Dictionary.mk (descriptor.withHardware other files).fields).render text =
      (Dictionary.mk (descriptor.withHardware directory files).fields).render text :=
  Template.renderText_congr
    (fun _ _ key _ => (descriptor.matches_withHardware files directory other).agreeOn key) []

theorem sources_withHardware {directory : Path} (written : directory.segments ≠ []) :
    (Dictionary.mk (descriptor.withHardware directory files).fields).sources = [directory] := by
  have listed : (Dictionary.mk (descriptor.withHardware directory files).fields).sources =
    [Path.ofText directory.text] := rfl
  rw [listed, Path.ofText_text written]

end KernelDescriptor

end KernelExport
