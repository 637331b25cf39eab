/-
This file holds the file system as plain data: a finite map from locations to what stands there.

A location is the list of names that lead to it from the root directory, innermost first, so the
directory of `name :: directory` is `directory`, and everything below a directory has its location
as a suffix. An entry is a file with what it holds, a symbolic link with the path written in it, or a
directory. The root directory always stands, and whatever else stands, stands in a directory under
a name that a path can have as a step (`IsName`): the type carries that, and the three ways to
change a file system keep it.

What a process may do is decided by one thing: a file may be closed to writing, and its copies are
then. Files can always be read and taken away, and directories entered and changed.

The map is extensional: two file systems with the same entry at every location, and the same
working directory, are equal (`FileSystem.ext_get?`). The laws below say what storing and
erasing do to the entry at any location; nothing else need be known about the map.
-/

import Std.Data.ExtTreeMap
import KernelExport.Path

namespace KernelExport

/-- Where something stands: the names that lead to it from the root directory, innermost first. -/
abbrev Location := List String

/-- What a file holds, and whether it is closed to writing. -/
structure Content where
  bytes : ByteArray
  readOnly : Bool := false

namespace Content

/-- Bytes that are written make a file that can be written again. -/
instance : Coe ByteArray Content := ⟨fun bytes => { bytes }⟩

def empty : Content := ByteArray.empty

instance : Inhabited Content := ⟨empty⟩

theorem data_inj {content other : Content} :
    content.bytes.data = other.bytes.data ∧ content.readOnly = other.readOnly ↔
      content = other := by
  obtain ⟨⟨_⟩, _⟩ := content
  obtain ⟨⟨_⟩, _⟩ := other
  simp

instance : DecidableEq Content := fun _ _ => decidable_of_decidable_of_iff data_inj

end Content

/-- What can stand at a location. -/
inductive Entry where
  /-- A file. -/
  | file (content : Content)
  /-- A symbolic link and the path written in it. -/
  | link (target : Path)
  /-- A directory. What it holds stands at the locations below its own. -/
  | directory
  deriving Inhabited

instance : DecidableEq Entry
  | .file content, .file other =>
    decidable_of_decidable_of_iff (Iff.of_eq (Entry.file.injEq content other)).symm
  | .link target, .link other =>
    decidable_of_decidable_of_iff (Iff.of_eq (Entry.link.injEq target other)).symm
  | .directory, .directory => .isTrue rfl
  | .file _, .link _ | .file _, .directory | .link _, .file _ | .link _, .directory
  | .directory, .file _ | .directory, .link _ => .isFalse nofun

/-- Whether an entry is a file that is closed to writing. -/
def Entry.closed : Entry → Bool
  | .file content => content.readOnly
  | .link _ | .directory => false

/-- A name is not empty, it is none of the steps `.` and `..`, and it holds no slash. -/
def IsName (name : String) : Prop :=
  name ≠ "" ∧ name ≠ "." ∧ name ≠ ".." ∧ hasSlash name = false

instance (name : String) : Decidable (IsName name) :=
  inferInstanceAs (Decidable (_ ∧ _))

/-- The entries of every location but the root, and the directory that relative paths start
from. -/
structure FileSystem where
  entries : Std.ExtTreeMap Location Entry
  workingDirectory : Location
  /-- The root is no entry of the map. -/
  rootless : [] ∉ entries
  /-- What stands, stands in a directory. -/
  grounded : ∀ name directory, name :: directory ∈ entries →
    directory = [] ∨ entries[directory]? = some .directory
  /-- What stands has a name. -/
  named : ∀ name directory, name :: directory ∈ entries → IsName name

namespace FileSystem

/-- A file system that holds the root directory only, which is the working directory. -/
def empty : FileSystem where
  entries := ∅
  workingDirectory := []
  rootless := Std.ExtTreeMap.not_mem_empty
  grounded := fun _ _ member => absurd member Std.ExtTreeMap.not_mem_empty
  named := fun _ _ member => absurd member Std.ExtTreeMap.not_mem_empty

instance : Inhabited FileSystem := ⟨empty⟩

/-- What stands at a location. -/
def get? (files : FileSystem) : Location → Option Entry
  | [] => some .directory
  | location => files.entries[location]?

/-- Whether a location is a directory's own or lies below it. -/
def within (directory location : Location) : Bool :=
  directory.isSuffixOf location

/-- The names of what stands in a directory, in increasing order. -/
def names (files : FileSystem) (directory : Location) : List String :=
  files.entries.keys.filterMap fun
    | [] => none
    | name :: parent => if parent = directory then some name else none

@[simp] theorem get?_nil (files : FileSystem) : files.get? [] = some .directory := rfl

theorem get?_cons (files : FileSystem) (name : String) (directory : Location) :
    files.get? (name :: directory) = files.entries[name :: directory]? := rfl

theorem mem_entries (files : FileSystem) {name : String} {directory : Location}
    (stands : files.get? (name :: directory) ≠ none) : name :: directory ∈ files.entries := by
  rw [get?_cons] at stands
  exact Std.ExtTreeMap.mem_iff_isSome_getElem?.2 (Option.isSome_iff_ne_none.2 stands)

/-- What stands has a name. -/
theorem isName_of_get? (files : FileSystem) {name : String} {directory : Location}
    (stands : files.get? (name :: directory) ≠ none) : IsName name :=
  files.named name directory (files.mem_entries stands)

/-- What stands, stands in a directory. -/
theorem get?_parent (files : FileSystem) {name : String} {directory : Location}
    (stands : files.get? (name :: directory) ≠ none) :
    files.get? directory = some .directory := by
  have member := files.mem_entries stands
  rcases files.grounded name directory member with rfl | grounded
  · rfl
  · cases directory with
    | nil => rfl
    | cons _ _ => exact grounded

/-- File systems are equal when the same stands at every location and the working directory is
the same. -/
theorem ext_get? {first second : FileSystem}
    (entries : ∀ location, first.get? location = second.get? location)
    (workingDirectory : first.workingDirectory = second.workingDirectory) : first = second := by
  obtain ⟨firstEntries, _, firstRootless, _, _⟩ := first
  obtain ⟨secondEntries, _, secondRootless, _, _⟩ := second
  obtain rfl := workingDirectory
  have same : firstEntries = secondEntries := by
    refine Std.ExtTreeMap.ext_getElem? fun location => ?_
    cases location with
    | nil =>
      rw [Std.ExtTreeMap.getElem?_eq_none firstRootless,
        Std.ExtTreeMap.getElem?_eq_none secondRootless]
    | cons name parent => exact entries (name :: parent)
  subst same
  rfl

/-- The names of a directory are those at which something stands in it. -/
theorem mem_names (files : FileSystem) (directory : Location) (name : String) :
    name ∈ files.names directory ↔ (files.get? (name :: directory)).isSome := by
  simp only [names, List.mem_filterMap, Std.ExtTreeMap.mem_keys, get?_cons]
  constructor
  · rintro ⟨location, member, equation⟩
    cases location with
    | nil => simp at equation
    | cons first parent =>
      simp only [Option.ite_none_right_eq_some, Option.some.injEq] at equation
      obtain ⟨rfl, rfl⟩ := equation
      simpa using member
  · intro stands
    exact ⟨name :: directory, by simpa using stands, by simp⟩

/-! ### Storing -/

/-- Whether an entry can be stored under a name: in a directory, and not over another
directory. -/
def Free (files : FileSystem) (directory : Location) (name : String) : Prop :=
  files.get? directory = some .directory ∧ files.get? (name :: directory) ≠ some .directory ∧
    IsName name

instance (files : FileSystem) (directory : Location) (name : String) :
    Decidable (files.Free directory name) :=
  inferInstanceAs (Decidable (_ ∧ _))

/-- Stores an entry under a name in a directory, in the place of a file or link that stood there.
Where that cannot be, nothing changes. -/
def put (files : FileSystem) (directory : Location) (name : String) (entry : Entry) :
    FileSystem :=
  if free : files.Free directory name then
    { files with
      entries := files.entries.insert (name :: directory) entry
      rootless := by simpa using files.rootless
      grounded := by
        intro other parent member
        have parentKept : ∀ location, location ≠ name :: directory →
            (files.entries.insert (name :: directory) entry)[location]? =
              files.entries[location]? := fun location different => by
          simp [Std.ExtTreeMap.getElem?_insert, Ne.symm different]
        have standing : ∀ location, files.get? location = some .directory →
            location = [] ∨ files.entries[location]? = some .directory := by
          intro location stands
          cases location with
          | nil => exact .inl rfl
          | cons _ _ => exact .inr stands
        have shorter : directory ≠ name :: directory := fun same => by
          simpa using congrArg List.length same
        rcases Std.ExtTreeMap.mem_insert.1 member with same | member
        · obtain ⟨_, rfl⟩ := List.cons.inj (Std.LawfulEqOrd.eq_of_compare same)
          exact (standing _ free.1).imp id fun stands => (parentKept _ shorter).trans stands
        · refine (files.grounded other parent member).imp id fun stands => ?_
          refine (parentKept _ ?_).trans stands
          rintro rfl
          exact free.2.1 stands
      named := by
        intro other parent member
        rcases Std.ExtTreeMap.mem_insert.1 member with same | member
        · obtain ⟨rfl, -⟩ := List.cons.inj (Std.LawfulEqOrd.eq_of_compare same)
          exact free.2.2
        · exact files.named other parent member }
  else files

theorem get?_put_self {files : FileSystem} {directory : Location} {name : String}
    (entry : Entry) (free : files.Free directory name) :
    (files.put directory name entry).get? (name :: directory) = some entry := by
  simp [put, free, get?]

theorem get?_put_of_ne (files : FileSystem) {directory other : Location} {name : String}
    (entry : Entry) (different : other ≠ name :: directory) :
    (files.put directory name entry).get? other = files.get? other := by
  unfold put
  split
  · cases other with
    | nil => rfl
    | cons first parent =>
      have kept : compare (name :: directory) (first :: parent) ≠ .eq := fun same =>
        different (Std.LawfulEqOrd.eq_of_compare same).symm
      simp only [get?, Std.ExtTreeMap.getElem?_insert, if_neg kept]
  · rfl

@[simp] theorem workingDirectory_put (files : FileSystem) (directory : Location) (name : String)
    (entry : Entry) : (files.put directory name entry).workingDirectory =
      files.workingDirectory := by
  unfold put
  split <;> rfl

/-! ### Erasing -/

/-- Keeps the entries whose location is in a set that has the directory of each location it
has. -/
def restrict (files : FileSystem) (keeps : Location → Bool)
    (closed : ∀ name directory, keeps (name :: directory) = true →
      directory = [] ∨ keeps directory = true) : FileSystem :=
  { files with
    entries := files.entries.filter fun location _ => keeps location
    rootless := fun member => files.rootless (Std.ExtTreeMap.mem_of_mem_filter member)
    grounded := by
      intro name directory member
      have stands := Std.ExtTreeMap.mem_of_mem_filter member
      have kept : keeps (name :: directory) = true := by
        obtain ⟨inside, kept⟩ := Std.ExtTreeMap.mem_filter.1 member
        simpa using kept
      rcases closed name directory kept with rfl | keptParent
      · exact .inl rfl
      · refine (files.grounded name directory stands).imp id fun parent => ?_
        simp [parent, keptParent]
    named := fun name directory member =>
      files.named name directory (Std.ExtTreeMap.mem_of_mem_filter member) }

theorem get?_restrict (files : FileSystem) (keeps : Location → Bool)
    (closed : ∀ name directory, keeps (name :: directory) = true →
      directory = [] ∨ keeps directory = true) (location : Location) :
    (files.restrict keeps closed).get? location =
      if location = [] ∨ keeps location = true then files.get? location else none := by
  cases location with
  | nil => simp
  | cons name directory =>
    cases kept : keeps (name :: directory) <;>
      cases stands : files.entries[name :: directory]? <;>
      simp [get?, restrict, kept, stands]

theorem within_parent {directory : Location} {name : String} {parent : Location}
    (inside : within directory parent = true) : within directory (name :: parent) = true := by
  simp only [within, List.isSuffixOf_iff_suffix] at inside ⊢
  exact inside.trans (List.suffix_cons name parent)

/-- Takes away what stands at a location and all that stands below it. -/
def erase (files : FileSystem) (gone : Location) : FileSystem :=
  files.restrict (!within gone ·) fun name directory kept => .inr (by
    cases inside : within gone directory with
    | false => rfl
    | true => simp [within_parent inside] at kept)

/-- Takes away all that stands below a directory, and keeps the directory. -/
def eraseBelow (files : FileSystem) (directory : Location) : FileSystem :=
  files.restrict (fun location => location == directory || !within directory location)
    fun name parent kept => .inr (by
      cases inside : within directory parent with
      | false => simp
      | true =>
        simp only [within_parent inside, Bool.not_true, Bool.or_false, beq_iff_eq] at kept
        subst kept
        exact absurd (List.isSuffixOf_iff_suffix.1 inside).length_le
          (by rw [List.length_cons]; omega))

/-- Erasing takes away exactly what stands at a location other than the root or below it. -/
theorem get?_erase (files : FileSystem) (gone location : Location) :
    (files.erase gone).get? location =
      if location ≠ [] ∧ within gone location = true then none else files.get? location := by
  cases location with
  | nil => simp
  | cons name directory =>
    cases inside : within gone (name :: directory) <;> simp [erase, get?_restrict, inside]

/-- Erasing below a directory takes away exactly what lies below it. -/
theorem get?_eraseBelow (files : FileSystem) (directory location : Location) :
    (files.eraseBelow directory).get? location =
      if location ≠ directory ∧ location ≠ [] ∧ within directory location = true then none
      else files.get? location := by
  cases location with
  | nil => simp
  | cons name parent =>
    by_cases same : name :: parent = directory
    · simp [eraseBelow, get?_restrict, same]
    · cases inside : within directory (name :: parent) <;>
        simp [eraseBelow, get?_restrict, inside, same]

@[simp] theorem workingDirectory_erase (files : FileSystem) (gone : Location) :
    (files.erase gone).workingDirectory = files.workingDirectory := rfl

@[simp] theorem workingDirectory_eraseBelow (files : FileSystem) (directory : Location) :
    (files.eraseBelow directory).workingDirectory = files.workingDirectory := rfl

end FileSystem

end KernelExport
