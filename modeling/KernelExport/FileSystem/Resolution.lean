/-
This file says where a path leads.

A path is walked step by step from the root or from the working directory. Each step needs a
directory to start from; `..` goes to the directory that holds the present one, and a symbolic
link is walked in its place, from the directory that holds it. At most `linkLimit` links are
walked for one path, so a walk ends on every file system: each step either uses up a link or a
step of the path (`follow`).

Whatever makes or removes an entry does not follow the last step of its path. For those the last
step is left as a name in a directory, which is what `placement` answers.
-/

import KernelExport.FileSystem.Basic
import KernelExport.FileSystem.Error

namespace KernelExport.FileSystem

/-- The greatest number of symbolic links that the walk along one path follows. -/
def linkLimit : Nat := 40

def pathLimit : Nat := 4095

def nameLimit : Nat := 255

/-- Whether a name has more bytes than the system takes. -/
def isTooLong (name : String) : Bool :=
  nameLimit < name.utf8ByteSize

/-- The location that the walk along a path starts from, with `here` for a relative one. -/
def start (path : Path) (here : Location) : Location :=
  if path.isAbsolute then [] else here

def expectDirectory (files : FileSystem) (location : Location) : Except FileError Unit :=
  match files.get? location with
  | some .directory => .ok ()
  | some _ => .error .notDirectory
  | none => .error .notFound

/-- Walks steps from a location as long as they meet no link. The walk from a link on is left to
`jump`, which is given the location and the steps that it goes on with. -/
def followFrom (files : FileSystem) (links : Nat)
    (jump : Location → List String → Except FileError (Location × Nat)) :
    (here : Location) → List String → Except FileError (Location × Nat)
  | here, [] => .ok (here, links)
  | here, step :: rest =>
    match files.expectDirectory here with
    | .error failure => .error failure
    | .ok () =>
      if step = "." then files.followFrom links jump here rest
      else if step = ".." then files.followFrom links jump here.tail rest
      else if isTooLong step then .error .nameTooLong
      else match files.get? (step :: here) with
        | none => .error .notFound
        | some (.link target) => jump (start target here) (target.steps ++ rest)
        | some _ => files.followFrom links jump (step :: here) rest

/-- Walks steps from a location, with leave to follow so many links, and answers where the walk
ends and how many links it might still follow. Something stands there, and it is no link. -/
def follow (files : FileSystem) :
    (links : Nat) → (here : Location) → List String → Except FileError (Location × Nat)
  | 0 => files.followFrom 0 fun _ _ => .error .tooManyLinks
  | left + 1 => files.followFrom (left + 1) (files.follow left)

theorem follow_nil (files : FileSystem) (links : Nat) (here : Location) :
    files.follow links here [] = .ok (here, links) := by
  cases links <;> rfl

/-- What the first step of a walk does. -/
theorem follow_cons (files : FileSystem) (links : Nat) (here : Location) (step : String)
    (rest : List String) :
    files.follow links here (step :: rest) =
      match files.expectDirectory here with
      | .error failure => .error failure
      | .ok () =>
        if step = "." then files.follow links here rest
        else if step = ".." then files.follow links here.tail rest
        else if isTooLong step then .error .nameTooLong
        else match files.get? (step :: here) with
          | none => .error .notFound
          | some (.link target) =>
            match links with
            | 0 => .error .tooManyLinks
            | left + 1 => files.follow left (start target here) (target.steps ++ rest)
          | some _ => files.follow links (step :: here) rest := by
  cases links <;> rfl

-- Walks are told by these two equations; their definition need not be looked at again.
attribute [irreducible] follow

/-- The walk along steps, with leave to follow so many links, comes to a result. There is one rule
for each way to take a step. -/
inductive Follows (files : FileSystem) :
    (links : Nat) → (here : Location) → List String → Except FileError (Location × Nat) → Prop
  | ended (links : Nat) (here : Location) : Follows files links here [] (.ok (here, links))
  | blocked (links : Nat) (here : Location) (step : String) (rest : List String)
    (failure : FileError) : files.expectDirectory here = .error failure →
    Follows files links here (step :: rest) (.error failure)
  | dot {result : Except FileError (Location × Nat)} (links : Nat) (here : Location)
    (rest : List String) : files.expectDirectory here = .ok () →
    Follows files links here rest result → Follows files links here ("." :: rest) result
  | up {result : Except FileError (Location × Nat)} (links : Nat) (here : Location)
    (rest : List String) : files.expectDirectory here = .ok () →
    Follows files links here.tail rest result → Follows files links here (".." :: rest) result
  | tooLong (links : Nat) (here : Location) (step : String) (rest : List String) :
    files.expectDirectory here = .ok () → step ≠ "." → step ≠ ".." → isTooLong step = true →
    Follows files links here (step :: rest) (.error .nameTooLong)
  | missing (links : Nat) (here : Location) (step : String) (rest : List String) :
    files.expectDirectory here = .ok () → step ≠ "." → step ≠ ".." → isTooLong step = false →
    files.get? (step :: here) = none → Follows files links here (step :: rest) (.error .notFound)
  | exhausted (here : Location) (step : String) (rest : List String) (target : Path) :
    files.expectDirectory here = .ok () → step ≠ "." → step ≠ ".." → isTooLong step = false →
    files.get? (step :: here) = some (.link target) →
    Follows files 0 here (step :: rest) (.error .tooManyLinks)
  | link {result : Except FileError (Location × Nat)} (left : Nat) (here : Location)
    (step : String) (rest : List String) (target : Path) :
    files.expectDirectory here = .ok () → step ≠ "." → step ≠ ".." → isTooLong step = false →
    files.get? (step :: here) = some (.link target) →
    Follows files left (start target here) (target.steps ++ rest) result →
    Follows files (left + 1) here (step :: rest) result
  | name {result : Except FileError (Location × Nat)} (links : Nat) (here : Location)
    (step : String) (rest : List String) (entry : Entry) :
    files.expectDirectory here = .ok () → step ≠ "." → step ≠ ".." → isTooLong step = false →
    files.get? (step :: here) = some entry → (∀ target, entry ≠ .link target) →
    Follows files links (step :: here) rest result → Follows files links here (step :: rest) result

/-- The walks that follow so many links go by the rules if those do that follow one link less. -/
theorem follows_of_left (files : FileSystem) (links : Nat) (here : Location) (steps : List String)
    (fewer : ∀ left, links = left + 1 → ∀ here steps,
      Follows files left here steps (files.follow left here steps)) :
    Follows files links here steps (files.follow links here steps) := by
  induction steps generalizing here with
  | nil =>
    rw [follow_nil]
    exact .ended links here
  | cons step rest inductionHypothesis =>
    rw [follow_cons]
    cases standing : files.expectDirectory here with
    | error failure => exact .blocked links here step rest failure standing
    | ok _ =>
      by_cases isDot : step = "."
      · subst isDot
        exact .dot links here rest standing (inductionHypothesis here)
      · by_cases isUp : step = ".."
        · subst isUp
          exact .up links here rest standing (inductionHypothesis here.tail)
        · simp only [isDot, isUp, if_false]
          cases long : isTooLong step with
          | true => exact .tooLong links here step rest standing isDot isUp long
          | false =>
            cases found : files.get? (step :: here) with
            | none => exact .missing links here step rest standing isDot isUp long found
            | some entry =>
              cases entry with
              | link target =>
                cases links with
                | zero => exact .exhausted here step rest target standing isDot isUp long found
                | succ left =>
                  exact .link left here step rest target standing isDot isUp long found
                    (fewer left rfl _ _)
              | file _ | directory =>
                exact .name links here step rest _ standing isDot isUp long found (by simp)
                  (inductionHypothesis (step :: here))

/-- Every walk comes to its result by the rules, so what the rules keep holds of all walks. -/
theorem follows (files : FileSystem) (links : Nat) (here : Location) (steps : List String) :
    Follows files links here steps (files.follow links here steps) := by
  induction links generalizing here steps with
  | zero => exact files.follows_of_left 0 here steps fun left impossible => by cases impossible
  | succ links inductionHypothesis =>
    refine files.follows_of_left (links + 1) here steps fun left same => ?_
    obtain rfl := Nat.succ.inj same
    exact inductionHypothesis

/-- What comes from the rules is what the walk answers. -/
theorem Follows.eq {files : FileSystem} {links : Nat} {here : Location} {steps : List String}
    {result : Except FileError (Location × Nat)} (rules : Follows files links here steps result) :
    files.follow links here steps = result := by
  induction rules with
  | ended links here => exact files.follow_nil links here
  | blocked links here step rest failure blocked => rw [follow_cons, blocked]
  | dot links here rest standing _ inductionHypothesis
  | up links here rest standing _ inductionHypothesis =>
    rw [follow_cons, standing]
    exact inductionHypothesis
  | tooLong links here step rest standing notDot notUp long =>
    rw [follow_cons, standing]
    simp only [notDot, notUp, long, if_false, if_true]
  | missing links here step rest standing notDot notUp short missing =>
    rw [follow_cons, standing]
    simp only [notDot, notUp, short, missing, if_false, Bool.false_eq_true]
  | exhausted here step rest target standing notDot notUp short linked =>
    rw [follow_cons, standing]
    simp only [notDot, notUp, short, linked, if_false, Bool.false_eq_true]
  | link left here step rest target standing notDot notUp short linked _ inductionHypothesis =>
    rw [follow_cons, standing]
    simp only [notDot, notUp, short, linked, if_false, Bool.false_eq_true]
    exact inductionHypothesis
  | name links here step rest entry standing notDot notUp short found notLink _
      inductionHypothesis =>
    rw [follow_cons, standing]
    cases entry with
    | link target => exact absurd rfl (notLink target)
    | file _ | directory =>
      simp only [notDot, notUp, short, found, if_false, Bool.false_eq_true]
      exact inductionHypothesis

theorem follows_iff {files : FileSystem} {links : Nat} {here : Location} {steps : List String}
    {result : Except FileError (Location × Nat)} :
    Follows files links here steps result ↔ files.follow links here steps = result :=
  ⟨Follows.eq, fun same => same ▸ files.follows links here steps⟩

/-- A walk along two stretches is the walk along the second from where the first one ends. -/
theorem follow_append (files : FileSystem) (links : Nat) (here : Location)
    (first second : List String) :
    files.follow links here (first ++ second) =
      (files.follow links here first).bind fun (location, left) =>
        files.follow left location second := by
  have rules := files.follows links here first
  generalize files.follow links here first = result at rules
  induction rules with
  | ended links here => rfl
  | blocked links here step rest failure blocked => exact (Follows.blocked _ _ _ _ _ blocked).eq
  | dot links here rest standing _ inductionHypothesis =>
    exact (Follows.dot _ _ _ standing (follows_iff.2 inductionHypothesis)).eq
  | up links here rest standing _ inductionHypothesis =>
    exact (Follows.up _ _ _ standing (follows_iff.2 inductionHypothesis)).eq
  | tooLong links here step rest standing notDot notUp long =>
    exact (Follows.tooLong _ _ _ _ standing notDot notUp long).eq
  | missing links here step rest standing notDot notUp short missing =>
    exact (Follows.missing _ _ _ _ standing notDot notUp short missing).eq
  | exhausted here step rest target standing notDot notUp short linked =>
    exact (Follows.exhausted _ _ _ target standing notDot notUp short linked).eq
  | link left here step rest target standing notDot notUp short linked _ inductionHypothesis =>
    rw [List.append_assoc] at inductionHypothesis
    exact (Follows.link _ _ _ _ target standing notDot notUp short linked
      (follows_iff.2 inductionHypothesis)).eq
  | name links here step rest entry standing notDot notUp short found notLink _
      inductionHypothesis =>
    exact (Follows.name _ _ _ _ entry standing notDot notUp short found notLink
      (follows_iff.2 inductionHypothesis)).eq

/-- Refuses a path that is empty or longer than the system takes. -/
def expectPath (path : Path) : Except FileError Unit :=
  if path.isEmpty then .error .notFound
  else if pathLimit < path.text.utf8ByteSize then .error .nameTooLong
  else .ok ()

/-- The location that a path leads to when every link is followed. -/
def resolve (files : FileSystem) (path : Path) : Except FileError Location := do
  expectPath path
  let (location, _) ← files.follow linkLimit (start path files.workingDirectory) path.steps
  match files.get? location with
  | some _ => pure location
  | none => throw .notFound

/-! ### The last step -/

/-- A name in a directory, as the last step of a path leads to it. -/
structure Placement where
  directory : Location
  name : String
  /-- Whether a slash is written behind the name. -/
  slashed : Bool
  /-- How many links might still be followed. -/
  links : Nat

/-- The location that the name has in its directory. -/
def Placement.location (place : Placement) : Location :=
  place.name :: place.directory

/-- The directory and the name that a path leads to from `here` when its last step is not
followed. A path that ends in a step to a directory itself, as `/`, `.` and `..` do, has none. -/
def placementFrom (files : FileSystem) (links : Nat) (here : Location) (path : Path) :
    Except FileError (Option Placement) := do
  expectPath path
  match (path.segments.filter (· ≠ "")).reverse with
  | [] => pure none
  | last :: before =>
    let (directory, left) ← files.follow links (start path here) before.reverse
    files.expectDirectory directory
    if last = "." ∨ last = ".." then pure none
    else if isTooLong last then throw .nameTooLong
    else pure (some ⟨directory, last, path.segments.getLast? == some "", left⟩)

/-- The directory and the name that a path leads to when its last step is not followed. -/
def placement (files : FileSystem) (path : Path) : Except FileError (Option Placement) :=
  files.placementFrom linkLimit files.workingDirectory path

/-- Where the bytes written to a path go: the place it names, or the one that the links there
lead to. The last of those need not stand yet, but no directory may. -/
def writingPlace (files : FileSystem) (links : Nat) (here : Location) (path : Path) :
    Except FileError (Location × String) := do
  match ← files.placementFrom links here path with
  | none => throw .isDirectory
  | some place =>
    if place.slashed then throw .isDirectory
    else match files.get? place.location with
      | some .directory => throw .isDirectory
      | some (.link target) =>
        match links, place.links with
        | 0, _ => throw .tooManyLinks
        | _, 0 => throw .tooManyLinks
        | most + 1, left + 1 => files.writingPlace (min most left) place.directory target
      | _ => pure (place.directory, place.name)
termination_by links
decreasing_by omega

end KernelExport.FileSystem
