/-
This file says that a tree reads the same wherever it is the same.

A file system holds a tree of another one when a path leads to where the tree is, the same stands
there and below, and none of it is a link (`Holds`). What is read by that path, or by the paths of
names behind it, is then told by the other file system alone. So whatever holds one tree reads the
same, however much else is different. What an export reads is held by all file systems that it can
come to, or it is no directory on any of them (`Furnished`).
-/

import KernelExport.Proofs.Scripts

namespace KernelExport

namespace FileSystem

variable {base files other : FileSystem} {path : Path} {location : Location} {name : String}
  {region wider : Location → Prop}

/-- Nothing differs but in the region. -/
structure DiffersIn (region : Location → Prop) (before after : FileSystem) : Prop where
  workingDirectory : after.workingDirectory = before.workingDirectory
  outside : ∀ {location}, ¬region location → after.get? location = before.get? location

instance : IsPreorder FileSystem (DiffersIn region) where
  refl _ := ⟨rfl, fun _ => rfl⟩
  trans _ _ _ first second := ⟨second.workingDirectory.trans first.workingDirectory,
    fun outside => (second.outside outside).trans (first.outside outside)⟩

theorem DiffersIn.refl (files : FileSystem) : DiffersIn region files files :=
  Std.Refl.refl files

theorem DiffersIn.trans {first second third : FileSystem} (earlier : DiffersIn region first second)
    (later : DiffersIn region second third) : DiffersIn region first third :=
  IsTrans.trans _ _ _ earlier later

theorem DiffersIn.mono (differs : DiffersIn region files other)
    (included : ∀ {location}, region location → wider location) : DiffersIn wider files other :=
  ⟨differs.workingDirectory, fun outside => differs.outside fun inside => outside (included inside)⟩

/-- What changes below a directory changes in it. -/
theorem DiffersIn.of_below (differs : DiffersIn (Below location) files other) :
    DiffersIn (within location · = true) files other :=
  differs.mono fun below => below.2

/-- Two file systems have changed in a region and nowhere else, and there they are the same now. -/
structure ChangesAlike (region : Location → Prop) (first second left right : FileSystem) : Prop where
  onLeft : DiffersIn region first left
  onRight : DiffersIn region second right
  same : ∀ {location}, region location → right.get? location = left.get? location

theorem ChangesAlike.trans {first second left right third fourth : FileSystem}
    (earlier : ChangesAlike region first second left right)
    (later : ChangesAlike region left right third fourth) :
    ChangesAlike region first second third fourth :=
  ⟨earlier.onLeft.trans later.onLeft, earlier.onRight.trans later.onRight, later.same⟩

/-- Changes in regions that are apart come to the same in either order. -/
theorem ChangesAlike.eq_of_apart {start one two oneThenTwo twoThenOne : FileSystem}
    {regionOne regionTwo : Location → Prop}
    (apart : ∀ {location}, regionOne location → ¬regionTwo location)
    (later : ChangesAlike regionTwo start one two oneThenTwo)
    (laterToo : ChangesAlike regionOne start two one twoThenOne) : oneThenTwo = twoThenOne := by
  refine ext_get? (fun location => ?_) ?_
  · by_cases inOne : regionOne location
    · rw [later.onRight.outside (apart inOne), laterToo.same inOne]
    · rw [laterToo.onRight.outside inOne]
      by_cases inTwo : regionTwo location
      · exact later.same inTwo
      · rw [later.onRight.outside inTwo, laterToo.onLeft.outside inOne,
          later.onLeft.outside inTwo]
  · rw [later.onRight.workingDirectory, laterToo.onLeft.workingDirectory,
      laterToo.onRight.workingDirectory, later.onLeft.workingDirectory]

/-! ### Trees that are held -/

theorem isName_of_mem_names (member : name ∈ files.names location) : IsName name :=
  files.isName_of_get? (Option.isSome_iff_ne_none.1 ((mem_names files location name).1 member))

/-- A path leads to a directory of the base, in which the same stands as there, and no links. -/
structure Holds (files base : FileSystem) (path : Path) (location : Location) : Prop where
  opens : files.OpensAt path location
  standing : base.get? location = some .directory
  same : ∀ names, files.get? (names ++ location) = base.get? (names ++ location)
  unlinked : ∀ names target, base.get? (names ++ location) ≠ some (.link target)

/-- A path that is spelled out leads to the directory that stands there. -/
theorem opensAt_of_spells (spells : Spells path location)
    (standing : files.get? location = some .directory) : files.OpensAt path location :=
  opensAt_of_resolve (resolve_of_spells spells (by simp [standing]) (by simp [standing])) standing

/-- A path is spelled out, and nothing there has changed. -/
theorem Holds.of_spells (spells : Spells path location)
    (standing : base.get? location = some .directory)
    (unlinked : ∀ names target, base.get? (names ++ location) ≠ some (.link target))
    (differs : DiffersIn region base files) (apart : ∀ names, ¬region (names ++ location)) :
    files.Holds base path location where
  opens := opensAt_of_spells spells ((differs.outside (apart [])).trans standing)
  standing := standing
  same names := differs.outside (apart names)
  unlinked := unlinked

namespace Holds

variable (holds : files.Holds base path location)

include holds

theorem directory : files.get? location = some .directory :=
  (holds.same []).trans holds.standing

theorem child (isName : IsName name) (sayable : Sayable path name)
    (directory : base.get? (name :: location) = some .directory) :
    files.Holds base (path.child name) (name :: location) where
  opens := holds.opens.child isName holds.directory sayable
    ((holds.same [name]).trans directory)
  standing := directory
  same names := by simpa using holds.same (names ++ [name])
  unlinked names := by simpa using holds.unlinked (names ++ [name])

theorem readDirectory :
    files.readDirectory path = (expectPath path).map fun _ => base.names location := by
  have standing := holds.directory
  have same : files.names location = base.names location :=
    names_congr fun name => congrArg Option.isSome (holds.same [name])
  rw [readDirectory_of_opensAt holds.opens standing, same]

theorem isDirectory :
    files.isDirectory path = decide (expectPath path = .ok ()) := by
  have standing := holds.directory
  rw [FileSystem.isDirectory, resolve_of_opensAt holds.opens standing]
  cases expectPath path with
  | error failure => rfl
  | ok _ => simpa [Except.map] using standing

theorem resolve_child (isName : IsName name) :
    files.resolve (path.child name) =
      if Sayable path name then
        if base.get? (name :: location) = none then .error .notFound else .ok (name :: location)
      else .error .nameTooLong := by
  have found : files.get? (name :: location) = base.get? (name :: location) := holds.same [name]
  rw [holds.opens.resolve_child isName holds.directory
    (by rw [found]; exact holds.unlinked [name]), found]

theorem isDirectory_child (isName : IsName name) :
    files.isDirectory (path.child name) =
      decide (Sayable path name ∧ base.get? (name :: location) = some .directory) := by
  have found : files.get? (name :: location) = base.get? (name :: location) := holds.same [name]
  rw [holds.opens.isDirectory_child isName holds.directory
    (fun target _ _ linked => absurd (found.symm.trans linked) (holds.unlinked [name] target)),
    found]

theorem readFile_child (isName : IsName name) :
    files.readFile (path.child name) =
      if Sayable path name then
        match base.get? (name :: location) with
        | some (.file content) => .ok content.bytes
        | some _ => .error .isDirectory
        | none => .error .notFound
      else .error .nameTooLong := by
  have found : files.get? (name :: location) = base.get? (name :: location) := holds.same [name]
  rw [readFile, holds.resolve_child isName]
  by_cases sayable : Sayable path name
  · simp only [sayable, if_true]
    cases stands : base.get? (name :: location) with
    | none => rfl
    | some entry =>
      simp only [reduceCtorEq, if_false, bind, Except.bind, found, stands]
      cases entry <;> rfl
  · simp only [sayable, if_false]
    rfl

/-- What stands under a name is found there: a directory, which is held too, or a file, unless the
name or its path is too long to be asked for. -/
theorem child_cases (member : name ∈ base.names location) :
    (base.get? (name :: location) = some .directory ∧ Sayable path name ∧
      files.isDirectory (path.child name) = true) ∨
    (∃ content, base.get? (name :: location) = some (.file content) ∧
      files.isDirectory (path.child name) = false ∧
      files.resolve (path.child name) = .ok (name :: location) ∧
      files.get? (name :: location) = some (.file content)) ∨
    files.isDirectory (path.child name) = false ∧
      files.resolve (path.child name) = .error .nameTooLong := by
  obtain ⟨entry, found⟩ := Option.isSome_iff_exists.1 ((mem_names base location name).1 member)
  have isName : IsName name := isName_of_mem_names member
  rw [holds.isDirectory_child isName, holds.resolve_child isName]
  by_cases sayable : Sayable path name
  · cases entry with
    | directory => exact .inl ⟨found, sayable, by simp [sayable, found]⟩
    | file content =>
      exact .inr (.inl ⟨content, found, by simp [found], by simp [sayable, found],
        (holds.same [name]).trans found⟩)
    | link target => exact absurd found (holds.unlinked [name] target)
  · exact .inr (.inr ⟨by simp [sayable], by simp [sayable]⟩)

end Holds

/-- What holds a directory is one, for the path of a name. -/
theorem isDirectory_child_of_child (isName : IsName name) (isNext : IsName next)
    (stands : files.isDirectory ((path.child name).child next) = true) :
    files.isDirectory (path.child name) = true := by
  obtain ⟨site, -, resolved⟩ := opensAt_of_isDirectory stands
  obtain ⟨expected, ⟨left, walk⟩, -⟩ := resolve_eq_ok_iff.1 resolved
  rw [Path.steps_child _ isNext, start_child _ isNext, follow_append] at walk
  obtain ⟨⟨middle, remaining⟩, first, last⟩ := bind_eq_ok_iff.1 walk
  have standing := directory_of_follow last (by simp)
  have askable : expectPath (path.child name) = .ok () := by
    refine (expectPath_child path isName).resolve_left fun tooLong => ?_
    have segments : ((path.child name).child next).segments = (path.child name).segments ++ [next] := by
      rw [Path.segments_child _ isNext.2.2.2, if_neg]
      simpa [Path.getLast?_child path isName.2.2.2] using isName.1
    rw [expectPath, Path.isEmpty_child _ isNext, if_neg Bool.false_ne_true, Path.text, segments]
      at expected
    rw [expectPath, Path.isEmpty_child _ isName, if_neg Bool.false_ne_true, Path.text] at tooLong
    have longer := Path.utf8ByteSize_intercalate_append_le (path.child name).segments [next]
    split at tooLong
    · rename_i long
      rw [if_pos (Nat.lt_of_lt_of_le long longer)] at expected
      cases expected
    · cases tooLong
  have opens : files.OpensAt (path.child name) middle := ⟨⟨remaining, first⟩, fun _ => standing⟩
  rw [isDirectory, resolve_of_opensAt opens standing, askable]
  simp [Except.map, standing]

theorem isDirectory_child_of_foldl {names : List String} (isName : IsName name)
    (named : ∀ name ∈ names, IsName name)
    (stands : files.isDirectory (names.foldl Path.child (path.child name)) = true) :
    files.isDirectory (path.child name) = true := by
  induction names generalizing path name with
  | nil => exact stands
  | cons next rest inductionHypothesis =>
    obtain ⟨isNext, named⟩ := List.forall_mem_cons.1 named
    exact isDirectory_child_of_child isName isNext (inductionHypothesis isNext named stands)

/-- What is held by a path is held by those of names behind it that lead to directories. -/
theorem Holds.foldl_child {names : List String} (named : ∀ name ∈ names, IsName name)
    (holds : files.Holds base path location)
    (stands : files.isDirectory (names.foldl Path.child path) = true)
    (also : other.Holds base path location) :
    other.Holds base (names.foldl Path.child path) (names.reverse ++ location) := by
  induction names generalizing path location with
  | nil => exact also
  | cons name rest inductionHypothesis =>
    obtain ⟨isName, named⟩ := List.forall_mem_cons.1 named
    have here := isDirectory_child_of_foldl isName named stands
    rw [holds.isDirectory_child isName, decide_eq_true_eq] at here
    have deeper := inductionHypothesis named (holds.child isName here.1 here.2) stands
      (also.child isName here.1 here.2)
    simpa using deeper

/-- The paths of names behind one by which a tree is held lead to the same directories. -/
theorem Holds.isDirectory_foldl_child {names : List String} (named : ∀ name ∈ names, IsName name)
    (first : files.Holds base path location) (second : other.Holds base path location) :
    other.isDirectory (names.foldl Path.child path) =
      files.isDirectory (names.foldl Path.child path) := by
  have implies : ∀ {files other : FileSystem}, files.Holds base path location →
      other.Holds base path location → files.isDirectory (names.foldl Path.child path) = true →
      other.isDirectory (names.foldl Path.child path) = true := by
    intro files other first second stands
    have onFirst := Holds.foldl_child named first stands first
    have onSecond := Holds.foldl_child named first stands second
    rw [onFirst.isDirectory] at stands
    rwa [onSecond.isDirectory]
  exact Bool.eq_iff_iff.2 ⟨implies second first, implies first second⟩

/-- The files below a tree that is held are the same wherever it is. -/
theorem Holds.filesWithin_eq (levels : Nat) (above : List String)
    (first : files.Holds base path location) (second : other.Holds base path location) :
    other.filesWithin levels path above = files.filesWithin levels path above := by
  induction levels generalizing path location above with
  | zero => rfl
  | succ levels inductionHypothesis =>
    rw [filesWithin, filesWithin, second.readDirectory, first.readDirectory]
    cases expectPath path with
    | error failure => rfl
    | ok _ =>
      simp only [Except.map, bind, Except.bind]
      refine congrArg (fun found => Except.bind found fun found => .ok found.flatten)
        (mapM_congr fun name member => ?_)
      have isName := isName_of_mem_names member
      rw [second.isDirectory_child isName, first.isDirectory_child isName]
      by_cases inner : Sayable path name ∧ base.get? (name :: location) = some .directory
      · simp only [inner, and_self, decide_true, if_true]
        exact inductionHypothesis _ (first.child isName inner.1 inner.2)
          (second.child isName inner.1 inner.2)
      · simp only [inner, decide_false, Bool.false_eq_true, if_false]

theorem Holds.listFiles_eq (first : files.Holds base path location)
    (second : other.Holds base path location) : other.listFiles path = files.listFiles path := by
  rw [listFiles, listFiles, first.filesWithin_eq _ _ second]

theorem listFiles_ne_ok_of_isDirectory_eq_false (missing : files.isDirectory path = false)
    (found : List String) : files.listFiles path ≠ .ok found := by
  intro listed
  obtain ⟨inner, within, -⟩ := bind_eq_ok_iff.1 listed
  obtain ⟨names, read, -⟩ := bind_eq_ok_iff.1 within
  rw [isDirectory_of_readDirectory read] at missing
  cases missing

/-! ### What is there to be read -/

/-- A path leads to one tree, which lies outside a region, on all file systems of some kind, or to a
directory on none of them. -/
def Furnished (kind : FileSystem → Prop) (region : Location → Prop) (path : Path) : Prop :=
  (∃ base location, (∀ ⦃files⦄, kind files → files.Holds base path location) ∧
    ∀ names, ¬region (names ++ location)) ∨
  ∀ ⦃files⦄, kind files → files.isDirectory path = false

theorem Furnished.mono {kind fewer : FileSystem → Prop} (furnished : Furnished kind wider path)
    (among : ∀ ⦃files⦄, fewer files → kind files)
    (included : ∀ {location}, region location → wider location) : Furnished fewer region path :=
  furnished.imp
    (fun ⟨base, location, holds, apart⟩ =>
      ⟨base, location, fun _ ofKind => holds (among ofKind), fun names inside =>
        apart names (included inside)⟩)
    fun never _ ofKind => never (among ofKind)

/-- Where a tree is held the directories in it can be read. -/
theorem Furnished.of_foldl_child {kind : FileSystem → Prop} {names : List String}
    (named : ∀ name ∈ names, IsName name) (holds : files.Holds base path location)
    (stands : files.isDirectory (names.foldl Path.child path) = true)
    (held : ∀ ⦃other⦄, kind other → other.Holds base path location)
    (apart : ∀ inner, ¬region (inner ++ location)) :
    Furnished kind region (names.foldl Path.child path) :=
  .inl ⟨base, names.reverse ++ location,
    fun _ ofKind => Holds.foldl_child named holds stands (held ofKind),
    fun inner inside => apart (inner ++ names.reverse) (by rwa [List.append_assoc])⟩

theorem Furnished.listFiles {kind : FileSystem → Prop} (furnished : Furnished kind region path)
    (first : kind files) (second : kind other) :
    (other.listFiles path).toOption = (files.listFiles path).toOption := by
  rcases furnished with ⟨base, location, holds, -⟩ | never
  · rw [(holds first).listFiles_eq (holds second)]
  · have none : ∀ {files : FileSystem}, files.isDirectory path = false →
        (files.listFiles path).toOption = none := by
      intro files missing
      cases listed : files.listFiles path with
      | error failure => rfl
      | ok found => exact absurd listed (listFiles_ne_ok_of_isDirectory_eq_false missing found)
    rw [none (never first), none (never second)]

end FileSystem

end KernelExport
