/-
This file says what steps on a state come to, for steps that may fail and keep what was done
before they failed.

A run of steps is a pair of a result and a state. The equations say it for each way to put steps
together. `Keeps` is what is proved about long runs: the state at the end stands in a relation to
the state at the start. For a relation that is reflexive and transitive it is enough to look at
each step (`Keeps.bind`), also where the run ends in failure. `Upholds` says besides that a run that
succeeds comes to a state with a property; steps after a failure are not taken, so the property may
be used for each step. `Alike` is about two runs, each from a state of its own.
-/

import Mathlib.Data.List.Forall2
import Mathlib.Order.Defs.Unbundled

namespace KernelExport

variable {Failure Other State Result Next : Type}

instance decidableEqExcept [DecidableEq Failure] [DecidableEq Result] :
    DecidableEq (Except Failure Result)
  | .ok first, .ok second => decidable_of_iff (first = second) ⟨congrArg Except.ok, Except.ok.inj⟩
  | .error first, .error second =>
    decidable_of_iff (first = second) ⟨congrArg Except.error, Except.error.inj⟩
  | .ok _, .error _ => isFalse nofun
  | .error _, .ok _ => isFalse nofun

/-- Steps in turn that leave no state succeed when each of them does. -/
theorem bind_eq_ok_iff {first : Except Failure Result} {next : Result → Except Failure Next}
    {value : Next} :
    first >>= next = .ok value ↔ ∃ middle, first = .ok middle ∧ next middle = .ok value := by
  constructor
  · intro done
    cases first with
    | error failure => cases done
    | ok middle => exact ⟨middle, rfl, done⟩
  · rintro ⟨middle, rfl, done⟩
    exact done

/-- They fail where the first of them does, or else where the next ones do. -/
theorem bind_eq_error_iff {first : Except Failure Result} {next : Result → Except Failure Next}
    {failure : Failure} : first >>= next = .error failure ↔
      first = .error failure ∨ ∃ middle, first = .ok middle ∧ next middle = .error failure := by
  constructor
  · intro failed
    cases first with
    | error earlier => exact .inl (congrArg Except.error (Except.error.inj failed))
    | ok middle => exact .inr ⟨middle, rfl, failed⟩
  · rintro (rfl | ⟨middle, rfl, failed⟩)
    · rfl
    · exact failed

theorem mapM_congr {Item : Type} {items : List Item} {first second : Item → Except Failure Result}
    (same : ∀ item ∈ items, second item = first item) : items.mapM second = items.mapM first := by
  induction items with
  | nil => rfl
  | cons item rest inductionHypothesis =>
    obtain ⟨here, further⟩ := List.forall_mem_cons.1 same
    rw [List.mapM_cons, List.mapM_cons, here, inductionHypothesis further]

/-- Steps that succeed wherever others do, with the same results, do so along a list. -/
theorem mapM_of_ok {Item : Type} {items : List Item} {first second : Item → Except Failure Result}
    {results : List Result}
    (each : ∀ item ∈ items, ∀ result, first item = .ok result → second item = .ok result)
    (done : items.mapM first = .ok results) : items.mapM second = .ok results := by
  induction items generalizing results with
  | nil => exact done
  | cons item rest inductionHypothesis =>
    obtain ⟨here, further⟩ := List.forall_mem_cons.1 each
    rw [List.mapM_cons] at done ⊢
    obtain ⟨result, doneHere, others⟩ := bind_eq_ok_iff.1 done
    obtain ⟨behind, doneBehind, whole⟩ := bind_eq_ok_iff.1 others
    exact bind_eq_ok_iff.2 ⟨result, here result doneHere,
      bind_eq_ok_iff.2 ⟨behind, inductionHypothesis further doneBehind, whole⟩⟩

/-- A loop that goes on with what it remembers fails at the first item for which its step fails: those in
front of it are passed. -/
theorem loop_eq_error_iff {Memory Item : Type} {loop : Memory → List Item → Except Failure Unit}
    {step : Memory → Item → Except Failure Unit} {remember : Memory → Item → Memory}
    (ends : ∀ memory, loop memory [] = .ok ())
    (turns : ∀ memory item rest,
      loop memory (item :: rest) = step memory item >>= fun _ => loop (remember memory item) rest)
    {memory : Memory} {items : List Item} {failure : Failure} :
    loop memory items = .error failure ↔ ∃ earlier item later, items = earlier ++ item :: later ∧
      loop memory earlier = .ok () ∧ step (earlier.foldl remember memory) item = .error failure := by
  induction items generalizing memory with
  | nil => simp [ends]
  | cons item rest inductionHypothesis =>
    rw [turns, bind_eq_error_iff]
    constructor
    · rintro (failed | ⟨_, passed, failed⟩)
      · exact ⟨[], item, rest, rfl, ends memory, failed⟩
      · obtain ⟨earlier, other, later, rfl, passedAll, failed⟩ := inductionHypothesis.1 failed
        refine ⟨item :: earlier, other, later, rfl, ?_, failed⟩
        rw [turns]
        exact bind_eq_ok_iff.2 ⟨(), passed, passedAll⟩
    · rintro ⟨_ | ⟨first, earlier⟩, other, later, divided, passed, failed⟩
      · obtain ⟨rfl, rfl⟩ := List.cons.inj divided
        exact .inl failed
      · obtain ⟨rfl, rfl⟩ := List.cons.inj divided
        rw [turns] at passed
        obtain ⟨_, passedFirst, passedOthers⟩ := bind_eq_ok_iff.1 passed
        exact .inr ⟨(), passedFirst,
          inductionHypothesis.2 ⟨earlier, other, later, rfl, passedOthers, failed⟩⟩

@[simp] theorem mapError_ok (meaning : Failure → Other) (value : Result) :
    (Except.ok value).mapError meaning = .ok value := rfl

@[simp] theorem mapError_error (meaning : Failure → Other) (failure : Failure) :
    (Except.error failure : Except Failure Result).mapError meaning = .error (meaning failure) :=
  rfl

theorem mapError_eq_ok_iff {result : Except Failure Result} {meaning : Failure → Other}
    {value : Result} : result.mapError meaning = .ok value ↔ result = .ok value := by
  cases result <;> simp

theorem mapError_eq_error_iff {result : Except Failure Result} {meaning : Failure → Other}
    {other : Other} :
    result.mapError meaning = .error other ↔ ∃ failure, result = .error failure ∧
      meaning failure = other := by
  cases result <;> simp

/-! ### Runs -/

theorem run_get (before : State) :
    (get : ExceptT Failure (StateM State) State).run before = (.ok before, before) := rfl

theorem run_modify (change : State → State) (before : State) :
    (modify change : ExceptT Failure (StateM State) Unit).run before = (.ok (), change before) :=
  rfl

theorem run_bind (action : ExceptT Failure (StateM State) Result)
    (next : Result → ExceptT Failure (StateM State) Next) (before : State) :
    (action >>= next).run before =
      match action.run before with
      | (.ok value, after) => (next value).run after
      | (.error failure, after) => (.error failure, after) := by
  show (ExceptT.bindCont next (action.run before).1 (action.run before).2) = _
  rcases action.run before with ⟨_ | _, _⟩ <;> rfl

/-- Steps in turn succeed when each of them does. -/
theorem run_bind_eq_ok_iff {action : ExceptT Failure (StateM State) Result}
    {next : Result → ExceptT Failure (StateM State) Next} {before after : State} {value : Next} :
    (action >>= next).run before = (.ok value, after) ↔
      ∃ middle present, action.run before = (.ok middle, present) ∧
        (next middle).run present = (.ok value, after) := by
  rw [run_bind]
  constructor
  · intro done
    split at done
    · rename_i middle present ran
      exact ⟨middle, present, ran, done⟩
    · cases done
  · rintro ⟨middle, present, ran, done⟩
    rwa [ran]

theorem run_forM_singleton {Item : Type} (item : Item)
    (step : Item → ExceptT Failure (StateM State) Unit) (before : State) :
    ([item].forM step).run before = (step item).run before := by
  show (step item >>= fun _ => pure ()).run before = _
  rw [run_bind]
  rcases (step item).run before with ⟨_ | _, _⟩ <;> rfl

theorem run_tryCatch (action : ExceptT Failure (StateM State) Result)
    (handler : Failure → ExceptT Failure (StateM State) Result) (before : State) :
    (tryCatch action handler).run before =
      match action.run before with
      | (.ok value, after) => (.ok value, after)
      | (.error failure, after) => (handler failure).run after := by
  show (match (action.run before).1 with
    | .ok value => pure (.ok value)
    | .error failure => (handler failure).run : StateM State (Except Failure Result))
      (action.run before).2 = _
  rcases action.run before with ⟨_ | _, _⟩ <;> rfl

theorem run_adapt (meaning : Failure → Other) (action : ExceptT Failure (StateM State) Result)
    (before : State) :
    (ExceptT.adapt meaning action).run before =
      ((action.run before).1.mapError meaning, (action.run before).2) := rfl

theorem run_adapt_eq_ok_iff {meaning : Failure → Other}
    {action : ExceptT Failure (StateM State) Result} {before after : State} {value : Result} :
    (ExceptT.adapt meaning action).run before = (.ok value, after) ↔
      action.run before = (.ok value, after) := by
  rw [run_adapt]
  constructor
  · intro ran
    obtain ⟨result, rfl⟩ := Prod.mk.inj ran
    exact Prod.ext (mapError_eq_ok_iff.1 result) rfl
  · intro ran
    rw [ran]
    rfl

/-! ### What runs keep -/

/-- The state at the end of a run stands in a relation to the state at its start, whether the run
ends in success or in failure. -/
def Keeps (relation : State → State → Prop) (action : ExceptT Failure (StateM State) Result)
    (before : State) : Prop :=
  relation before (action.run before).2

namespace Keeps

variable {relation : State → State → Prop}
variable {action : ExceptT Failure (StateM State) Result} {before : State}

/-- Steps that look at the state first. -/
theorem get {next : State → ExceptT Failure (StateM State) Result}
    (kept : Keeps relation (next before) before) :
    Keeps relation (MonadState.get >>= next) before := by
  rw [Keeps, run_bind]
  exact kept

theorem adapt {meaning : Failure → Other} (kept : Keeps relation action before) :
    Keeps relation (ExceptT.adapt meaning action) before := kept

variable [IsPreorder State relation]

/-- A run that leaves the state as it is keeps every preorder. -/
theorem of_eq (same : (action.run before).2 = before) : Keeps relation action before := by
  rw [Keeps, same]
  exact Std.Refl.refl before

theorem pure (value : Result) :
    Keeps relation (pure value : ExceptT Failure (StateM State) Result) before :=
  of_eq rfl

theorem throw (failure : Failure) :
    Keeps relation (throw failure : ExceptT Failure (StateM State) Result) before :=
  of_eq rfl

/-- The steps that come next need only be looked at where the first ones end in success. -/
theorem bind {next : Result → ExceptT Failure (StateM State) Next}
    (first : Keeps relation action before)
    (second : ∀ value after, action.run before = (.ok value, after) → relation before after →
      Keeps relation (next value) after) :
    Keeps relation (action >>= next) before := by
  rw [Keeps, run_bind]
  rw [Keeps] at first
  rcases run : action.run before with ⟨failure | value, after⟩
  · rwa [run] at first
  · rw [run] at first
    exact IsTrans.trans _ _ _ first (second value after run first)

end Keeps

/-! ### What successful runs uphold -/

/-- However a run ends, the states before and after it stand in a relation; and if it succeeds, the
state after it has a property, which a failure may break. -/
structure Upholds (relation : State → State → Prop) (sound : State → Prop)
    (action : ExceptT Failure (StateM State) Result) (before : State) : Prop where
  keeps : Keeps relation action before
  sound : ∀ {value after}, action.run before = (.ok value, after) → sound after

namespace Upholds

variable {relation : State → State → Prop} {sound : State → Prop}
variable {action : ExceptT Failure (StateM State) Result} {before : State}

theorem get {next : State → ExceptT Failure (StateM State) Result}
    (upholds : Upholds relation sound (next before) before) :
    Upholds relation sound (MonadState.get >>= next) before := by
  refine ⟨Keeps.get upholds.keeps, fun {value after} ran => ?_⟩
  have same : (next before).run before = (.ok value, after) := by rwa [run_bind] at ran
  exact upholds.sound same

theorem adapt {meaning : Failure → Other} (upholds : Upholds relation sound action before) :
    Upholds relation sound (ExceptT.adapt meaning action) before :=
  ⟨upholds.keeps.adapt, fun ran => upholds.sound (run_adapt_eq_ok_iff.1 ran)⟩

variable [IsPreorder State relation]

omit [IsPreorder State relation] in
/-- What a run comes to is told by its result and its last state. -/
theorem of_run {result : Except Failure Result} {after : State}
    (ran : action.run before = (result, after)) (kept : relation before after)
    (holds : ∀ value, result = .ok value → sound after) :
    Upholds relation sound action before := by
  refine ⟨by rwa [Keeps, ran], fun {value ended} again => ?_⟩
  rw [ran] at again
  obtain ⟨rfl, rfl⟩ := Prod.mk.inj again
  exact holds value rfl

theorem of_eq (same : (action.run before).2 = before) (holds : sound before) :
    Upholds relation sound action before := by
  refine ⟨Keeps.of_eq same, fun ran => ?_⟩
  rw [ran] at same
  obtain rfl : _ = before := same
  exact holds

theorem pure (value : Result) (holds : sound before) :
    Upholds relation sound (pure value : ExceptT Failure (StateM State) Result) before :=
  of_eq rfl holds

theorem throw (failure : Failure) :
    Upholds relation sound (throw failure : ExceptT Failure (StateM State) Result) before :=
  ⟨Keeps.throw failure, fun ran => by cases ran⟩

omit [IsPreorder State relation] in
theorem set {after : State} (kept : relation before after) (holds : sound after) :
    Upholds relation sound (set after : ExceptT Failure (StateM State) PUnit) before := by
  refine ⟨kept, fun ran => ?_⟩
  obtain ⟨-, rfl⟩ := Prod.mk.inj ran
  exact holds

/-- The steps that come next need only be looked at where the first ones end in success, in a state
of which more or something else may be known. -/
theorem bind {known : State → Prop} {next : Result → ExceptT Failure (StateM State) Next}
    (first : Upholds relation known action before)
    (second : ∀ value after, action.run before = (.ok value, after) → relation before after →
      known after → Upholds relation sound (next value) after) :
    Upholds relation sound (action >>= next) before := by
  refine ⟨Keeps.bind first.keeps fun value after ran kept =>
    (second value after ran kept (first.sound ran)).keeps, fun ran => ?_⟩
  rw [run_bind] at ran
  split at ran
  · rename_i value middle firstRan
    have kept : relation before middle := by
      have keeps := first.keeps
      rwa [Keeps, firstRan] at keeps
    exact (second value middle firstRan kept (first.sound firstRan)).sound ran
  · cases ran

theorem map {function : Result → Next} (upholds : Upholds relation sound action before) :
    Upholds relation sound (function <$> action) before := by
  rw [← bind_pure_comp]
  exact bind upholds fun _ _ _ _ holds => pure _ holds

/-- A loop upholds what each of its steps upholds, from any state that the loop can have come to. -/
theorem forM {Item : Type} {items : List Item} {step : Item → ExceptT Failure (StateM State) Unit}
    (holds : sound before)
    (each : ∀ item ∈ items, ∀ present, relation before present → sound present →
      Upholds relation sound (step item) present) :
    Upholds relation sound (items.forM step) before := by
  induction items generalizing before with
  | nil => exact pure () holds
  | cons first rest inductionHypothesis =>
    have upheld := each first List.mem_cons_self before (Std.Refl.refl before) holds
    show Upholds relation sound (step first >>= fun _ => rest.forM step) before
    exact bind upheld fun _ _ _ begun stillHolds => inductionHypothesis stillHolds
      fun item member present reached =>
        each item (List.mem_cons_of_mem first member) present (IsTrans.trans _ _ _ begun reached)

end Upholds

/-! ### Two runs -/

/-- Two runs end alike: both fail, or both succeed with the same result. The states that they end
in stand in a relation, whether they succeed or fail. -/
structure Alike (relation : State → State → Prop)
    (first second : ExceptT Failure (StateM State) Result) (before other : State) : Prop where
  result : (first.run before).1.toOption = (second.run other).1.toOption
  states : relation (first.run before).2 (second.run other).2

namespace Alike

variable {relation : State → State → Prop}
variable {first second : ExceptT Failure (StateM State) Result} {before other : State}

theorem pure (related : relation before other) (value : Result) :
    Alike relation (pure value : ExceptT Failure (StateM State) Result) (pure value) before other :=
  ⟨rfl, related⟩

theorem throw (related : relation before other) (failure another : Failure) :
    Alike relation (throw failure : ExceptT Failure (StateM State) Result) (throw another) before
      other :=
  ⟨rfl, related⟩

theorem set {after later : State} (related : relation after later) :
    Alike relation (set after : ExceptT Failure (StateM State) PUnit) (set later) before other :=
  ⟨rfl, related⟩

/-- Steps that look at the states first. -/
theorem get {next following : State → ExceptT Failure (StateM State) Result}
    (alike : Alike relation (next before) (following other) before other) :
    Alike relation (MonadState.get >>= next) (MonadState.get >>= following) before other := by
  refine ⟨?_, ?_⟩ <;> rw [run_bind, run_bind]
  · exact alike.result
  · exact alike.states

/-- Either both runs succeed with one result or both fail. -/
theorem cases (alike : Alike relation first second before other) :
    (∃ value after later, first.run before = (.ok value, after) ∧
      second.run other = (.ok value, later) ∧ relation after later) ∨
    ∃ failure another after later, first.run before = (.error failure, after) ∧
      second.run other = (.error another, later) ∧ relation after later := by
  obtain ⟨same, related⟩ := alike
  generalize first.run before = ended at same related
  generalize second.run other = endedToo at same related
  rcases ended with ⟨failure | value, after⟩ <;> rcases endedToo with ⟨another | answer, later⟩
  · exact .inr ⟨_, _, _, _, rfl, rfl, related⟩
  · cases same
  · cases same
  · obtain rfl := Option.some.inj same
    exact .inl ⟨_, _, _, rfl, rfl, related⟩

/-- If the first run succeeds so does the second one, with the same result. -/
theorem of_ok {value : Result} {after : State} (alike : Alike relation first second before other)
    (ran : first.run before = (.ok value, after)) :
    ∃ later, second.run other = (.ok value, later) ∧ relation after later := by
  rcases alike.cases with ⟨answer, ended, later, same, also, related⟩ |
    ⟨failure, _, ended, _, same, -⟩
  · obtain ⟨result, rfl⟩ := Prod.mk.inj (ran.symm.trans same)
    obtain rfl := Except.ok.inj result
    exact ⟨later, also, related⟩
  · cases (Prod.mk.inj (ran.symm.trans same)).1

theorem adapt {meaning another : Failure → Other} (alike : Alike relation first second before other) :
    Alike relation (ExceptT.adapt meaning first) (ExceptT.adapt another second) before other := by
  refine ⟨?_, alike.states⟩
  rw [run_adapt, run_adapt]
  rcases alike.cases with ⟨value, after, later, ran, also, -⟩ |
    ⟨failure, different, after, later, ran, also, -⟩ <;> rw [ran, also] <;> rfl

theorem bind {next following : Result → ExceptT Failure (StateM State) Next}
    (begun : Alike relation first second before other)
    (goesOn : ∀ value after later, first.run before = (.ok value, after) →
      second.run other = (.ok value, later) → relation after later →
      Alike relation (next value) (following value) after later) :
    Alike relation (first >>= next) (second >>= following) before other := by
  rcases begun.cases with ⟨value, after, later, ran, also, related⟩ |
    ⟨failure, another, after, later, ran, also, related⟩
  · obtain ⟨result, states⟩ := goesOn value after later ran also related
    refine ⟨?_, ?_⟩ <;> rw [run_bind, run_bind, ran, also]
    · exact result
    · exact states
  · refine ⟨?_, ?_⟩ <;> rw [run_bind, run_bind, ran, also]
    · rfl
    · exact related

theorem map {function : Result → Next} (alike : Alike relation first second before other) :
    Alike relation (function <$> first) (function <$> second) before other := by
  rw [← bind_pure_comp, ← bind_pure_comp]
  exact bind alike fun _ _ _ _ _ related => pure related _

/-- Runs of which it is known what they come to. -/
theorem of_runs {result another : Except Failure Result} {after later : State}
    (ran : first.run before = (result, after)) (also : second.run other = (another, later))
    (same : result.toOption = another.toOption) (related : relation after later) :
    Alike relation first second before other := by
  refine ⟨?_, ?_⟩ <;> rw [ran, also]
  · exact same
  · exact related

theorem mono {weaker : State → State → Prop} (alike : Alike relation first second before other)
    (implied : ∀ {after later}, relation after later → weaker after later) :
    Alike weaker first second before other :=
  ⟨alike.result, implied alike.states⟩

/-- Loops over items that correspond end alike if their steps do. -/
theorem forM {Item : Type} {corresponds : Item → Item → Prop} {items others : List Item}
    {step another : Item → ExceptT Failure (StateM State) Unit} (related : relation before other)
    (matched : List.Forall₂ corresponds items others)
    (each : ∀ {item counterpart present now}, corresponds item counterpart → relation present now →
      Alike relation (step item) (another counterpart) present now) :
    Alike relation (items.forM step) (others.forM another) before other := by
  induction matched generalizing before other with
  | nil => exact pure related ()
  | cons corresponding _ inductionHypothesis =>
    exact bind (each corresponding related) fun _ _ _ _ _ stillRelated =>
      inductionHypothesis stillRelated

/-- Two loops over the same items. -/
theorem forM_same {Item : Type} {items : List Item}
    {step another : Item → ExceptT Failure (StateM State) Unit} (related : relation before other)
    (each : ∀ item ∈ items, ∀ present now, relation present now →
      Alike relation (step item) (another item) present now) :
    Alike relation (items.forM step) (items.forM another) before other := by
  have matched : List.Forall₂ (fun item counterpart => item = counterpart ∧ item ∈ items)
      items items := List.forall₂_same.2 fun _ member => ⟨rfl, member⟩
  refine forM related matched ?_
  rintro item _ present now ⟨rfl, member⟩ related
  exact each item member present now related

end Alike

end KernelExport
