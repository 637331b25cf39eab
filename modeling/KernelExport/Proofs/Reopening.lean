/-
This file says that opening a directory for output comes to the same when it is done again, and when
a workspace has been made in the meantime.

Where directories could be made for a path, the path leads to one, so nothing more is made the second
time. Where they could not, neither the path nor what stands in its way has changed after the first
time: each directory on the way was made or stood, up to the one that could not be made.

A workspace has a name of its own, which neither the path nor a link mentions (`Unmentioned`). So the
path leads neither to it nor into it, and directories are made on both sides of it (`Beside`).
-/

import KernelExport.Proofs.ReadTrees
import KernelExport.Proofs.TwinRuns

namespace KernelExport

open FileSystem

namespace FileAction

variable {files after : FileSystem} {path above : Path} {failure : FileError}

/-! ### The second time -/

/-- The parent of a path that can be asked for can be asked for too. -/
theorem expectPath_parent? (isParent : path.parent? = some above) (named : above.isEmpty = false)
    (expected : expectPath path = .ok ()) : expectPath above = .ok () := by
  rw [expectPath] at expected ⊢
  split at expected
  · cases expected
  · split at expected
    · cases expected
    · rename_i short
      rw [if_neg (by simp [named]), if_neg fun long =>
        short (Nat.lt_of_lt_of_le long (Path.utf8ByteSize_parent?_le isParent))]

/-- Where a walk goes on from the steps of a path, or ends there at a directory, the path leads to a
directory. -/
theorem exists_opensAt_of_follow {start : Location} {rest : List String} {ending : Location × Nat}
    (begins : FileSystem.start path files.workingDirectory = start)
    (walk : files.follow linkLimit start (path.parts ++ rest) = .ok ending)
    (ends : rest = [] → files.get? ending.1 = some .directory) :
    ∃ site, files.OpensAt path site ∧ files.get? site = some .directory := by
  rw [follow_append] at walk
  obtain ⟨⟨site, remaining⟩, first, second⟩ := bind_eq_ok_iff.1 walk
  have standing : files.get? site = some .directory := by
    by_cases none : rest = []
    · subst none
      simp only [follow_nil] at second
      obtain rfl := Except.ok.inj second
      exact ends rfl
    · exact directory_of_follow second none
  exact ⟨site, ⟨⟨remaining, begins ▸ first⟩, fun _ => standing⟩, standing⟩

/-- If a path leads to a directory, or if one can be made there, then its parent leads to one. -/
theorem isDirectory_of_parent? (isParent : path.parent? = some above)
    (possible : files.isDirectory path = true ∨ ∃ changed, files.createDirectory path = .ok changed) :
    above.isEmpty = true ∨ files.isDirectory above = true := by
  rcases Path.parent?_rest isParent with empty | ⟨stays, last, more, parts, -⟩
  · exact .inl empty
  · by_cases empty : above.isEmpty = true
    · exact .inl empty
    · obtain ⟨expected, rest, ending, walk, ends⟩ : expectPath path = .ok () ∧ ∃ rest ending,
          files.follow linkLimit (start path files.workingDirectory) (above.parts ++ rest) =
            .ok ending ∧ (rest = [] → files.get? ending.1 = some .directory) := by
        rcases possible with stands | ⟨changed, made⟩
        · obtain ⟨site, opensAt, resolved⟩ := opensAt_of_isDirectory stands
          obtain ⟨left, walk⟩ := opensAt.walk
          refine ⟨(resolve_eq_ok_iff.1 resolved).1, stays ++ last :: more, (site, left), ?_, by simp⟩
          rw [← List.append_assoc, ← parts, walk]
        · obtain ⟨place, placed, -⟩ := exists_fresh_of_createDirectory made
          obtain ⟨expected, ⟨before, written, walk⟩, standing, -⟩ := placementFrom_eq_some_iff.1 placed
          have front : before = above.parts ++ (stays ++ (last :: more).dropLast) := by
            have same := congrArg List.dropLast (written.symm.trans parts)
            rw [List.dropLast_concat, List.dropLast_append_of_ne_nil (by simp)] at same
            rw [same, List.append_assoc]
          exact ⟨expected, _, (place.directory, place.links), front ▸ walk, fun _ => standing⟩
      have begins : start above files.workingDirectory = start path files.workingDirectory := by
        rw [start, start, (Path.parent?_parts isParent).1]
      obtain ⟨site, opensAt, standing⟩ := exists_opensAt_of_follow begins walk ends
      right
      rw [isDirectory, resolve_of_opensAt opensAt standing,
        expectPath_parent? isParent (Bool.eq_false_iff.2 empty) expected]
      simp [Except.map, standing]

/-- What is done where a directory could not be made: nothing, if one stands. -/
def unlessStanding (path : Path) (failure : FileError) (files : FileSystem) :
    Except FileError Unit × FileSystem :=
  if files.isDirectory path then (.ok (), files) else (.error failure, files)

/-- Making directories is told by the first of them and by what it comes to for the others. -/
theorem run_createFirst_cons (path : Path) (above : List Path) (files : FileSystem) :
    (createFirst (path :: above)).run files =
      if path.isEmpty then (.ok (), files)
      else match files.createDirectory path with
        | .ok changed => (.ok (), changed)
        | .error .notFound =>
          match (createFirst above).run files with
          | (.error failure, present) => (.error failure, present)
          | (.ok _, present) =>
            match present.createDirectory path with
            | .ok changed => (.ok (), changed)
            | .error failure => unlessStanding path failure present
        | .error failure => unlessStanding path failure files := by
  have stands : ∀ failure (present : FileSystem),
      (do if (← get).isDirectory path then pure () else throw failure : FileAction Unit).run
        present = unlessStanding path failure present := by
    intro failure present
    rw [run_bind, run_get, unlessStanding]
    simp only []
    split <;> rfl
  rw [createFirst]
  split
  · rfl
  · rw [run_bind, run_get]
    simp only []
    cases files.createDirectory path with
    | ok changed => rfl
    | error failure =>
      cases failure with
      | notFound =>
        rw [run_bind]
        rcases (createFirst above).run files with ⟨failure | _, present⟩
        · rfl
        · simp only []
          rw [run_bind, run_get]
          simp only []
          cases present.createDirectory path with
          | ok changed => rfl
          | error failure => exact stands failure present
      | _ => exact stands _ files

/-- Where directories could be made, none is made the second time. -/
theorem run_createDirectories_of_ok
    (ran : (createDirectories path).run files = (.ok (), after)) :
    (createDirectories path).run after = (.ok (), after) := by
  rcases createDirectories_cases ran with ⟨empty, -⟩ | ⟨present, made⟩ | standing
  · obtain ⟨above, ancestors⟩ := path.exists_ancestors
    rw [createDirectories, ancestors, run_createFirst_cons, if_pos empty]
  · obtain ⟨place, -, -, -, fresh⟩ := exists_fresh_of_createDirectory made
    refine run_createDirectories_of_isDirectory ?_
    rw [isDirectory, resolve_of_placement fresh.placement fresh.directory]
    simp [fresh.directory]
  · exact run_createDirectories_of_isDirectory standing

theorem unlessStanding_eq_error_iff {other : FileError} :
    unlessStanding path failure files = (.error other, after) ↔
      files.isDirectory path = false ∧ other = failure ∧ after = files := by
  rw [unlessStanding]
  cases files.isDirectory path <;> simp [eq_comm]

/-- Where a directory does not stand and cannot be made, nothing changes, if making what it should
stand in changes nothing, or does not help. -/
theorem run_createFirst_of_impossible {rest : List Path} (named : path.isEmpty = false)
    (missing : files.isDirectory path = false)
    (impossible : ∀ changed, files.createDirectory path ≠ .ok changed)
    (onward : files.createDirectory path = .error .notFound →
      ∃ result, (createFirst rest).run files = (result, files)) :
    ∃ failure, (createFirst (path :: rest)).run files = (.error failure, files) := by
  rw [run_createFirst_cons, if_neg (by simp [named])]
  cases failed : files.createDirectory path with
  | ok changed => exact absurd failed (impossible changed)
  | error failure =>
    have refused : unlessStanding path failure files = (.error failure, files) :=
      unlessStanding_eq_error_iff.2 ⟨missing, rfl, rfl⟩
    cases failure with
    | notFound =>
      obtain ⟨stops | _, ran⟩ := onward failed
      · exact ⟨stops, by simp only [ran]⟩
      · exact ⟨.notFound, by simp only [ran, failed, refused]⟩
    | _ => exact ⟨_, refused⟩

/-- Where a directory could not be made, it does not stand and still cannot be made, and nothing more
is made the second time, if it is so for what stands in its way. -/
theorem run_createFirst_again {rest : List Path}
    (again : ∀ {files after}, (createFirst rest).run files = (.ok (), after) →
      (createFirst rest).run after = (.ok (), after))
    (blocked : ∀ {files failure after}, files.createDirectory path = .error .notFound →
      (createFirst rest).run files = (.error failure, after) →
      after.isDirectory path = false ∧ (∀ changed, after.createDirectory path ≠ .ok changed) ∧
        ∃ another, (createFirst rest).run after = (.error another, after))
    (ran : (createFirst (path :: rest)).run files = (.error failure, after)) :
    path.isEmpty = false ∧ after.isDirectory path = false ∧
      (∀ changed, after.createDirectory path ≠ .ok changed) ∧
      ∃ another, (createFirst (path :: rest)).run after = (.error another, after) := by
  rw [run_createFirst_cons] at ran
  split at ran
  · cases (Prod.mk.inj ran).1
  · rename_i named
    have named : path.isEmpty = false := Bool.eq_false_iff.2 named
    -- It is enough to look at the state that was come to.
    suffices stuck : after.isDirectory path = false ∧
        (∀ changed, after.createDirectory path ≠ .ok changed) ∧
        (after.createDirectory path = .error .notFound →
          ∃ result, (createFirst rest).run after = (result, after)) by
      obtain ⟨missing, impossible, onward⟩ := stuck
      exact ⟨named, missing, impossible,
        run_createFirst_of_impossible named missing impossible onward⟩
    cases made : files.createDirectory path with
    | ok changed =>
      rw [made] at ran
      cases (Prod.mk.inj ran).1
    | error other =>
      rw [made] at ran
      cases other with
      | notFound =>
        simp only [] at ran
        rcases onward : (createFirst rest).run files with ⟨stops | _, present⟩
        · rw [onward] at ran
          obtain ⟨-, rfl⟩ := Prod.mk.inj ran
          obtain ⟨missing, impossible, another, stopsAgain⟩ := blocked made onward
          exact ⟨missing, impossible, fun _ => ⟨_, stopsAgain⟩⟩
        · rw [onward] at ran
          simp only [] at ran
          cases failed : present.createDirectory path with
          | ok changed =>
            rw [failed] at ran
            cases (Prod.mk.inj ran).1
          | error other =>
            rw [failed] at ran
            obtain ⟨missing, rfl, rfl⟩ := unlessStanding_eq_error_iff.1 ran
            exact ⟨missing, by simp [failed], fun _ => ⟨_, again onward⟩⟩
      | _ =>
        obtain ⟨missing, rfl, rfl⟩ := unlessStanding_eq_error_iff.1 ran
        exact ⟨missing, by simp [made], fun notFound => by simp [made] at notFound⟩

/-- Where directories could not be made, none is made the second time. -/
theorem run_createDirectories_of_error (path : Path) : ∀ {files after failure},
    (createDirectories path).run files = (.error failure, after) →
    path.isEmpty = false ∧ after.isDirectory path = false ∧
      (∀ changed, after.createDirectory path ≠ .ok changed) ∧
      ∃ another, (createDirectories path).run after = (.error another, after) := by
  induction path using Path.ancestors.induct with
  | case1 path none =>
    intro files after failure ran
    have ancestors : path.ancestors = [path] := by
      rw [Path.ancestors]
      split
      · rfl
      · rename_i above isParent
        rw [none] at isParent
        cases isParent
    rw [createDirectories, ancestors] at ran ⊢
    refine run_createFirst_again (fun done => by cases (Prod.mk.inj done).1)
      (fun {files _ after} missing stops => ?_) ran
    obtain ⟨-, rfl⟩ := Prod.mk.inj stops
    refine ⟨Bool.eq_false_iff.2 fun stands => ?_, by simp [missing], ⟨_, rfl⟩⟩
    obtain ⟨failure, other, failed⟩ := createDirectory_of_isDirectory stands
    rw [missing] at failed
    exact other (Except.error.inj failed).symm
  | case2 path above isParent inductionHypothesis =>
    intro files after failure ran
    have ancestors : path.ancestors = path :: above.ancestors := by
      rw [Path.ancestors]
      split
      · rename_i none
        rw [isParent] at none
        cases none
      · rename_i other isOther
        rw [isParent] at isOther
        rw [Option.some.inj isOther]
    rw [createDirectories, ancestors] at ran ⊢
    refine run_createFirst_again (fun done => run_createDirectories_of_ok done)
      (fun {files _ after} _ stops => ?_) ran
    obtain ⟨some, missing, -, again⟩ := inductionHypothesis stops
    have nowhere : ¬(after.isDirectory path = true ∨
        ∃ changed, after.createDirectory path = .ok changed) := by
      intro possible
      rcases isDirectory_of_parent? isParent possible with empty | stands
      · rw [some] at empty
        cases empty
      · rw [missing] at stands
        cases stands
    exact ⟨Bool.eq_false_iff.2 fun stands => nowhere (.inl stands),
      fun changed made => nowhere (.inr ⟨changed, made⟩), again⟩

/-- Making directories again ends as it did, and changes nothing. -/
theorem run_createDirectories_twice {result : Except FileError Unit}
    (ran : (createDirectories path).run files = (result, after)) :
    ∃ again, (createDirectories path).run after = (again, after) ∧
      again.toOption = result.toOption := by
  cases result with
  | ok _ => exact ⟨.ok (), run_createDirectories_of_ok ran, rfl⟩
  | error failure =>
    obtain ⟨-, -, -, another, again⟩ := run_createDirectories_of_error path ran
    exact ⟨.error another, again, rfl⟩

end FileAction

/-! ### Beside a workspace -/

namespace FileSystem

/-- A name is none of those that a path or a link goes by. -/
structure Unmentioned (name : String) (path : Path) (files : FileSystem) : Prop where
  isName : IsName name
  home : name ∉ files.workingDirectory
  path : name ∉ path.parts
  linked : ∀ {location target}, files.get? location = some (.link target) → name ∉ target.parts

/-- Two file systems concur, and what is not known is in each of them as it was. -/
structure Beside (known : String → Prop) (first second left right : FileSystem) : Prop where
  concurs : Concurs known left right
  onLeft : ∀ {location}, ¬Among known location → left.get? location = first.get? location
  onRight : ∀ {location}, ¬Among known location → right.get? location = second.get? location

variable {known : String → Prop} {first second left right files lodged : FileSystem} {path : Path}
  {name : String} {site directory location : Location}

theorem among_ne {names : List String} : Among (· ≠ name) names ↔ name ∉ names :=
  ⟨fun among member => among name member rfl, fun absent _ member same => absent (same ▸ member)⟩

theorem not_among_of_within (inside : within (name :: site) location = true) :
    ¬Among (· ≠ name) location := fun told => by
  rw [not_within_of_among (fun different => different rfl) told] at inside
  cases inside

theorem Concurs.putDirectory (concurs : Concurs known left right)
    (among : Among known (name :: directory)) :
    Concurs known (left.put directory name .directory) (right.put directory name .directory) := by
  have free : right.Free directory name ↔ left.Free directory name := by
    rw [Free, Free, concurs.entry among, concurs.entry (among_cons.1 among).2]
  refine ⟨by simp [concurs.workingDirectory], by simpa using concurs.started, fun told => ?_,
    fun told linked => ?_, concurs.dot⟩
  · rw [get?_put, get?_put]
    simp only [free, concurs.entry told]
  · rw [get?_put] at linked
    split at linked
    · cases linked
    · exact concurs.linked told linked

theorem Beside.putDirectory (beside : Beside known first second left right)
    (among : Among known (name :: directory)) :
    Beside known first second (left.put directory name .directory)
      (right.put directory name .directory) := by
  have apart : ∀ {location}, ¬Among known location → location ≠ name :: directory := by
    rintro location unknown rfl
    exact unknown among
  exact ⟨beside.concurs.putDirectory among,
    fun unknown => by rw [get?_put_of_ne _ _ (apart unknown), beside.onLeft unknown],
    fun unknown => by rw [get?_put_of_ne _ _ (apart unknown), beside.onRight unknown]⟩

theorem Beside.createDirectory (beside : Beside known first second left right)
    (among : Among known path.parts) :
    Workspaces.Tallies (Beside known first second) (left.createDirectory path)
      (right.createDirectory path) :=
  Workspaces.tallies_createDirectory beside.concurs among fun _ there => beside.putDirectory there

theorem Beside.alike_createDirectories (beside : Beside known first second left right)
    (among : Among known path.parts) :
    Alike (Beside known first second) (FileAction.createDirectories path)
      (FileAction.createDirectories path) left right :=
  FileAction.alike_createFirst beside fun above member {_ _} beside =>
    have told := among.of_prefix (path.ancestors_parts above member).2
    ⟨beside.concurs.isDirectory told, beside.createDirectory told⟩

/-- Without what has the name all names are known. -/
theorem Unmentioned.beside (unmentioned : Unmentioned name path files)
    (differs : DiffersIn (within (name :: site) · = true) files lodged) :
    Beside (· ≠ name) files lodged files lodged := by
  refine ⟨⟨differs.workingDirectory, among_ne.2 unmentioned.home, fun told => ?_,
    fun _ linked => among_ne.2 (unmentioned.linked linked), ?_⟩, fun _ => rfl, fun _ => rfl⟩
  · exact differs.outside fun inside => not_among_of_within inside told
  · exact fun same => unmentioned.isName.2.1 same.symm

/-- Making directories comes to the same beside a workspace, which stays as it is. -/
theorem Unmentioned.run_createDirectories (unmentioned : Unmentioned name path files)
    (differs : DiffersIn (within (name :: site) · = true) files lodged) {opened after : FileSystem}
    {result another : Except FileError Unit}
    (ran : (FileAction.createDirectories path).run files = (result, opened))
    (also : (FileAction.createDirectories path).run lodged = (another, after)) :
    another.toOption = result.toOption ∧
      DiffersIn (within (name :: site) · = true) opened after ∧
      ∀ {location}, within (name :: site) location = true →
        opened.get? location = files.get? location ∧ after.get? location = lodged.get? location := by
  obtain ⟨same, beside⟩ := (unmentioned.beside differs).alike_createDirectories
    (among_ne.2 unmentioned.path)
  rw [ran, also] at same beside
  refine ⟨same.symm, ⟨beside.concurs.workingDirectory, fun {location} outside => ?_⟩,
    fun {location} inside => ?_⟩
  · by_cases told : Among (· ≠ name) location
    · exact beside.concurs.entry told
    · rw [beside.onRight told, beside.onLeft told, differs.outside outside]
  · have unknown := not_among_of_within inside
    exact ⟨beside.onLeft unknown, beside.onRight unknown⟩

end FileSystem

end KernelExport
