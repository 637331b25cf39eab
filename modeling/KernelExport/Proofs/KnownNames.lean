/-
This file says that what is never named is never met: two file systems in which the same stands
wherever one gets by a set of known names are the same to every path that is made of those names.

Where something stands under another name, as a directory that was just made under a name of its
own does, such a path leads neither to it nor into it. That is so whatever links stand on the way,
since the names in them are known too.
-/

import KernelExport.Proofs.Opening

namespace KernelExport

namespace FileSystem

/-- All of the names are known. -/
def Among (known : String → Prop) (names : List String) : Prop :=
  ∀ name ∈ names, known name

/-- The same stands at every location of known names, and no link there names anything else. -/
structure Concurs (known : String → Prop) (first second : FileSystem) : Prop where
  workingDirectory : second.workingDirectory = first.workingDirectory
  started : Among known first.workingDirectory
  entry : ∀ {location}, Among known location → second.get? location = first.get? location
  linked : ∀ {location target}, Among known location →
    first.get? location = some (.link target) → Among known target.parts
  dot : known "."

variable {known : String → Prop} {first second : FileSystem} {path : Path} {name : String}
  {location directory names more : List String}

@[simp] theorem among_nil : Among known [] :=
  fun _ member => absurd member List.not_mem_nil

@[simp] theorem among_cons : Among known (name :: names) ↔ known name ∧ Among known names :=
  List.forall_mem_cons

@[simp] theorem among_append : Among known (names ++ more) ↔ Among known names ∧ Among known more :=
  List.forall_mem_append

theorem Among.tail (among : Among known names) : Among known names.tail :=
  fun name member => among name (List.mem_of_mem_tail member)

theorem Among.of_prefix (among : Among known more) (front : names <+: more) : Among known names :=
  fun name member => among name (front.sublist.mem member)

theorem Among.of_suffix (among : Among known more) (back : names <:+ more) : Among known names :=
  fun name member => among name (back.sublist.mem member)

theorem among_steps (dot : known ".") (among : Among known path.parts) :
    Among known path.steps := by
  rcases path.steps_eq with same | dotted
  · rwa [same]
  · rw [dotted, among_append]
    exact ⟨among, by simpa using dot⟩

theorem among_child (isName : IsName name) :
    Among known (path.child name).parts ↔ Among known path.parts ∧ known name := by
  rw [Path.parts_child path isName, among_append, among_cons]
  simp

theorem among_start (path : Path) (among : Among known location) :
    Among known (start path location) := by
  rw [start]
  split
  · exact among_nil
  · exact among

theorem not_within_of_among (new : ¬known name) (told : Among known location) :
    within (name :: directory) location = false :=
  Bool.eq_false_iff.2 fun inside =>
    new (told.of_suffix (List.isSuffixOf_iff_suffix.1 inside) name List.mem_cons_self)

namespace Concurs

theorem expectDirectory (concurs : Concurs known first second) (among : Among known location) :
    second.expectDirectory location = first.expectDirectory location := by
  rw [FileSystem.expectDirectory, FileSystem.expectDirectory, concurs.entry among]

/-- A walk along known names ends at a location of known names, and ends there on both. -/
theorem follow (concurs : Concurs known first second) (links : Nat) {steps : List String}
    (here : Among known location) (among : Among known steps) :
    second.follow links location steps = first.follow links location steps ∧
      ∀ {ending left}, first.follow links location steps = .ok (ending, left) →
        Among known ending := by
  suffices ends : second.follow links location steps = first.follow links location steps ∧
      ∀ ending left, first.follow links location steps = .ok (ending, left) →
        Among known ending from ⟨ends.1, fun walk => ends.2 _ _ walk⟩
  have enters : ∀ {here}, Among known here → first.expectDirectory here = .ok () →
      second.expectDirectory here = .ok () :=
    fun among standing => (concurs.expectDirectory among).trans standing
  have rules := first.follows links location steps
  generalize first.follow links location steps = result at rules
  induction rules with
  | ended links location =>
    refine ⟨second.follow_nil links location, fun ending left same => ?_⟩
    obtain ⟨rfl, -⟩ := Prod.mk.inj (Except.ok.inj same)
    exact here
  | blocked links location step rest failure failed =>
    exact ⟨(Follows.blocked _ _ _ _ _ ((concurs.expectDirectory here).trans failed)).eq,
      fun _ _ impossible => by cases impossible⟩
  | dot links location rest standing _ inductionHypothesis =>
    obtain ⟨same, ends⟩ := inductionHypothesis here (among_cons.1 among).2
    exact ⟨(Follows.dot _ _ _ (enters here standing) (follows_iff.2 same)).eq, ends⟩
  | up links location rest standing _ inductionHypothesis =>
    obtain ⟨same, ends⟩ := inductionHypothesis here.tail (among_cons.1 among).2
    exact ⟨(Follows.up _ _ _ (enters here standing) (follows_iff.2 same)).eq, ends⟩
  | tooLong links location step rest standing notDot notUp long =>
    exact ⟨(Follows.tooLong _ _ _ _ (enters here standing) notDot notUp long).eq,
      fun _ _ impossible => by cases impossible⟩
  | missing links location step rest standing notDot notUp short missing =>
    have deeper : Among known (step :: location) := among_cons.2 ⟨(among_cons.1 among).1, here⟩
    exact ⟨(Follows.missing _ _ _ _ (enters here standing) notDot notUp short
      ((concurs.entry deeper).trans missing)).eq, fun _ _ impossible => by cases impossible⟩
  | exhausted location step rest target standing notDot notUp short linked =>
    have deeper : Among known (step :: location) := among_cons.2 ⟨(among_cons.1 among).1, here⟩
    exact ⟨(Follows.exhausted _ _ _ target (enters here standing) notDot notUp short
      ((concurs.entry deeper).trans linked)).eq, fun _ _ impossible => by cases impossible⟩
  | link left location step rest target standing notDot notUp short linked _ inductionHypothesis =>
    have deeper : Among known (step :: location) := among_cons.2 ⟨(among_cons.1 among).1, here⟩
    have onwards : Among known (target.steps ++ rest) := among_append.2
      ⟨among_steps concurs.dot (concurs.linked deeper linked), (among_cons.1 among).2⟩
    obtain ⟨same, ends⟩ := inductionHypothesis (among_start target here) onwards
    exact ⟨(Follows.link _ _ _ _ target (enters here standing) notDot notUp short
      ((concurs.entry deeper).trans linked) (follows_iff.2 same)).eq, ends⟩
  | name links location step rest entry standing notDot notUp short found notLink _
      inductionHypothesis =>
    have deeper : Among known (step :: location) := among_cons.2 ⟨(among_cons.1 among).1, here⟩
    obtain ⟨same, ends⟩ := inductionHypothesis deeper (among_cons.1 among).2
    exact ⟨(Follows.name _ _ _ _ entry (enters here standing) notDot notUp short
      ((concurs.entry deeper).trans found) notLink (follows_iff.2 same)).eq, ends⟩

theorem placementFrom (concurs : Concurs known first second) (links : Nat)
    (here : Among known location) (among : Among known path.parts) :
    second.placementFrom links location path = first.placementFrom links location path ∧
      ∀ {place}, first.placementFrom links location path = .ok (some place) →
        Among known place.location := by
  have starts := among_start path here
  refine ⟨?_, fun {place} placed => ?_⟩
  · rcases List.eq_nil_or_concat path.parts with noParts | ⟨before, last, parts⟩
    · have reversed : (path.segments.filter (· ≠ "")).reverse = [] :=
        List.reverse_eq_nil_iff.2 noParts
      rw [FileSystem.placementFrom, FileSystem.placementFrom]
      simp only [reversed]
    · rw [List.concat_eq_append] at parts
      have front : Among known before := (among_append.1 (parts ▸ among)).1
      obtain ⟨same, ends⟩ := concurs.follow links starts front
      rw [placementFrom_of_parts _ _ parts, placementFrom_of_parts _ _ parts, same]
      cases walk : first.follow links (start path location) before with
      | error failure => rfl
      | ok ending => simp only [Except.bind, concurs.expectDirectory (ends walk)]
  · obtain ⟨-, ⟨before, parts, walk⟩, -⟩ := placementFrom_eq_some_iff.1 placed
    rw [parts, among_append, among_cons] at among
    exact among_cons.2 ⟨among.2.1, (concurs.follow _ starts among.1).2 walk⟩

theorem placement (concurs : Concurs known first second) (among : Among known path.parts) :
    second.placement path = first.placement path ∧
      ∀ {place}, first.placement path = .ok (some place) → Among known place.location := by
  rw [FileSystem.placement, FileSystem.placement, concurs.workingDirectory]
  exact concurs.placementFrom linkLimit concurs.started among

theorem resolve (concurs : Concurs known first second) (among : Among known path.parts) :
    second.resolve path = first.resolve path ∧
      ∀ {ending}, first.resolve path = .ok ending → Among known ending := by
  obtain ⟨same, ends⟩ := concurs.follow linkLimit
    (among_start path concurs.started) (among_steps concurs.dot among)
  refine ⟨?_, fun resolved => ?_⟩
  · rw [FileSystem.resolve, FileSystem.resolve, concurs.workingDirectory, same]
    cases walk : first.follow linkLimit (start path first.workingDirectory) path.steps with
    | error failure => rfl
    | ok ending => simp only [bind, Except.bind, concurs.entry (ends walk)]
  · obtain ⟨-, ⟨left, walk⟩, -⟩ := resolve_eq_ok_iff.1 resolved
    exact ends walk

theorem isDirectory (concurs : Concurs known first second) (among : Among known path.parts) :
    second.isDirectory path = first.isDirectory path := by
  obtain ⟨same, ends⟩ := concurs.resolve among
  rw [FileSystem.isDirectory, FileSystem.isDirectory, same]
  cases resolved : first.resolve path with
  | error failure => rfl
  | ok ending => simp only [concurs.entry (ends resolved)]

theorem standing (concurs : Concurs known first second) (among : Among known path.parts) :
    second.standing path = first.standing path := by
  obtain ⟨same, ends⟩ := concurs.resolve among
  obtain ⟨samePlace, endsThere⟩ := concurs.placement among
  rw [FileSystem.standing, FileSystem.standing, same, samePlace]
  cases placed : first.placement path with
  | error failure => rfl
  | ok found =>
    cases found with
    | none => rfl
    | some place =>
      simp only [bind, Except.bind]
      cases place.slashed with
      | false => simp only [Bool.false_eq_true, if_false, pure, Except.pure,
          concurs.entry (endsThere placed)]
      | true =>
        simp only [if_true]
        cases resolved : first.resolve path with
        | error failure => rfl
        | ok ending => simp only [concurs.entry (ends resolved)]

theorem writingPlace (concurs : Concurs known first second) (links : Nat)
    (here : Among known location) (among : Among known path.parts) :
    second.writingPlace links location path = first.writingPlace links location path ∧
      ∀ {directory name}, first.writingPlace links location path = .ok (directory, name) →
        Among known (name :: directory) := by
  induction links using Nat.strongRecOn generalizing location path with
  | ind links inductionHypothesis =>
    obtain ⟨same, ends⟩ := concurs.placementFrom links here among
    rw [FileSystem.writingPlace, same, FileSystem.writingPlace]
    cases placed : first.placementFrom links location path with
    | error failure => exact ⟨rfl, fun impossible => by cases impossible⟩
    | ok found =>
      cases found with
      | none => exact ⟨rfl, fun impossible => by cases impossible⟩
      | some place =>
        simp only [bind, Except.bind]
        have there := ends placed
        rw [concurs.entry there]
        split
        · exact ⟨rfl, fun impossible => by cases impossible⟩
        · split
          · exact ⟨rfl, fun impossible => by cases impossible⟩
          · rename_i target linked
            split
            · exact ⟨rfl, fun impossible => by cases impossible⟩
            · exact ⟨rfl, fun impossible => by cases impossible⟩
            · exact inductionHypothesis _ (by omega) (among_cons.1 there).2
                (concurs.linked there linked)
          · refine ⟨rfl, fun same => ?_⟩
            obtain ⟨rfl, rfl⟩ := Prod.mk.inj (Except.ok.inj same)
            exact there

end Concurs

end FileSystem

end KernelExport
