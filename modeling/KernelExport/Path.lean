/-
This file holds paths as they are written: a path is the list of segments between its slashes, so
no segment holds a slash; the type carries that.

Nothing is normalised, so the text of a path is the text it was made from: `a//b/./c/` has six
segments, and two of them, the empty one and the dot, are fillers that name no directory. An
absolute path is one whose first segment is empty, and the empty path is the one empty segment.
The reading of a path does look past fillers: its parent, its ancestors and the text without the
extension of its last component are those of the components it names.
-/

import KernelExport.Text.Blank

namespace KernelExport

def hasSlash (text : String) : Bool :=
  text.toList.contains '/'

/-- A path, as the segments between its slashes. -/
structure Path where
  segments : List String
  slashless : ∀ segment ∈ segments, hasSlash segment = false := by decide
  deriving DecidableEq, Repr

namespace Path

def ofText (text : String) : Path where
  segments := (Text.split '/' text.toList).map String.ofList
  slashless := by
    intro segment member
    obtain ⟨piece, inText, rfl⟩ := List.mem_map.1 member
    have separated := Text.not_isSeparator_of_mem_pieces inText
    rw [hasSlash, String.toList_ofList, List.contains_eq_mem, decide_eq_false_iff_not]
    exact fun inPiece => absurd (separated '/' inPiece) (by decide)

def text (path : Path) : String :=
  "/".intercalate path.segments

def root : Path where
  segments := ["", ""]

/-- The path that names nothing, from which relative paths start. -/
def empty : Path where
  segments := [""]

instance : Inhabited Path := ⟨empty⟩

/-- The path of one name in the directory that relative paths start from. -/
def ofName (name : String) : Path := ofText name

def isAbsolute (path : Path) : Bool :=
  match path.segments with
  | first :: _ :: _ => first == ""
  | _ => false

def isEmpty (path : Path) : Bool :=
  path.segments == [] || path.segments == [""]

/-- The second path read from the directory that the first one names. An absolute path stands
for itself; a relative one is written behind the first, after a slash unless there is one. -/
def join (directory path : Path) : Path :=
  if path.isAbsolute then path
  else {
    segments := (if directory.segments.getLast? = some "" then directory.segments.dropLast
      else directory.segments) ++ path.segments
    slashless := by
      intro segment member
      rcases List.mem_append.1 member with inDirectory | inPath
      · refine directory.slashless segment ?_
        split at inDirectory
        · exact (List.dropLast_sublist _).mem inDirectory
        · exact inDirectory
      · exact path.slashless segment inPath }

/-- The path in a directory that names something of this name. -/
def child (directory : Path) (name : String) : Path :=
  directory.join (ofName name)

def withSuffix (path : Path) (suffix : String) : Path :=
  ofText (path.text ++ suffix)

/-! ### Components -/

/-- A segment that names no component: one between two slashes, or a dot. -/
def isFiller (segment : String) : Bool :=
  segment == "" || segment == "."

/-- The steps that lead along the path, in order: the segments that are not empty. A slash at the
end is a last step to the directory itself. -/
def steps (path : Path) : List String :=
  match path.segments.reverse with
  | [] => ["."]
  | last :: before =>
    before.reverse.filter (· ≠ "") ++ [if last = "" then "." else last]

/-- The path of the directory that holds what the path names, with no fillers behind it. The root
directory and the empty path have none. -/
def parent? (path : Path) : Option Path :=
  match isPath : path.segments with
  | [] => none
  | head :: rest =>
    match isRest : rest.reverse.dropWhile isFiller with
    | [] => if head = "" then none else some empty
    | last :: before =>
      if head = "" ∧ before.dropWhile isFiller = [] then some root
      else some {
        segments := head :: (before.dropWhile isFiller).reverse
        slashless := by
          intro segment member
          refine path.slashless segment ?_
          rw [isPath]
          refine List.mem_cons.2 ((List.mem_cons.1 member).imp_right fun kept => ?_)
          have inBefore := (List.dropWhile_sublist isFiller).mem (List.mem_reverse.1 kept)
          have inRest := (List.dropWhile_sublist isFiller).mem
            (isRest ▸ List.mem_cons_of_mem last inBefore)
          exact List.mem_reverse.1 inRest }

/-- The number of components that the path names below where it starts. -/
def depth (path : Path) : Nat :=
  match path.segments with
  | [] => 0
  | head :: rest => (rest.filter (!isFiller ·)).length + if head = "" then 0 else 1

theorem filter_length_dropWhile (segments : List String) :
    ((segments.dropWhile isFiller).filter (!isFiller ·)).length =
      (segments.filter (!isFiller ·)).length := by
  induction segments with
  | nil => rfl
  | cons segment rest inductionHypothesis =>
    by_cases filler : isFiller segment <;> simp [filler, inductionHypothesis]

/-- A parent lies less deep. -/
theorem depth_lt_of_parent? {path above : Path} (isParent : path.parent? = some above) :
    above.depth < path.depth := by
  obtain ⟨segments⟩ := path
  cases segments with
  | nil => simp [parent?] at isParent
  | cons head rest =>
    have count : (rest.filter (!isFiller ·)).length =
        ((rest.reverse.dropWhile isFiller).filter (!isFiller ·)).length := by
      rw [filter_length_dropWhile, List.filter_reverse, List.length_reverse]
    simp only [parent?] at isParent
    split at isParent
    · split at isParent
      · simp at isParent
      · rename_i named
        obtain rfl := Option.some.inj isParent
        simp only [depth, empty, List.filter_nil, List.length_nil]
        split <;> simp_all
    · rename_i last before equation
      have notFiller : isFiller last = false := by
        have := List.head?_dropWhile_not isFiller rest.reverse
        rw [equation] at this
        simpa using this
      have fewer : ((before.dropWhile isFiller).filter (!isFiller ·)).length <
          (rest.filter (!isFiller ·)).length := by
        rw [count, equation, filter_length_dropWhile]
        simp [notFiller]
      split at isParent
      · rename_i atRoot
        obtain rfl := Option.some.inj isParent
        simp only [depth, root]
        have : 0 < (rest.filter (!isFiller ·)).length := by omega
        simp_all [isFiller]
      · obtain rfl := Option.some.inj isParent
        simp only [depth]
        rw [List.filter_reverse, List.length_reverse]
        omega

/-- The path and every directory above it that the text names, nearest first. -/
def ancestors (path : Path) : List Path :=
  match _isParent : path.parent? with
  | none => [path]
  | some above => path :: ancestors above
termination_by path.depth
decreasing_by exact depth_lt_of_parent? ‹_›

/-! ### Extensions -/

/-- A name up to its last dot; a name that starts with its only dot is all stem. -/
def stem (name : String) : String :=
  let front := ((name.toList.reverse.dropWhile (· ≠ '.')).drop 1).reverse
  if front = [] then name else String.ofList front

theorem hasSlash_stem {name : String} (slashless : hasSlash name = false) :
    hasSlash (stem name) = false := by
  rw [stem]
  split
  · exact slashless
  · rw [hasSlash, List.contains_eq_mem, decide_eq_false_iff_not] at slashless ⊢
    rw [String.toList_ofList]
    intro inFront
    have inDropped := (List.drop_sublist 1 _).mem (List.mem_reverse.1 inFront)
    have inReversed := (List.dropWhile_sublist (· ≠ '.')).mem inDropped
    exact slashless (List.mem_reverse.1 inReversed)

/-- What the last name of a path is without its extension. Two dots and an extension at the very
end leave the two dots: without the extension they are the step to the directory above, and that
step has no dot to lose. -/
def trimmedName (atEnd : Bool) (name : String) : String :=
  if atEnd && stem name == "." then ".." else stem name

theorem hasSlash_trimmedName {name : String} (atEnd : Bool) (slashless : hasSlash name = false) :
    hasSlash (trimmedName atEnd name) = false := by
  rw [trimmedName]
  split
  · decide
  · exact hasSlash_stem slashless

/-- The path with the extension of its last component taken off, and nothing behind it. A path
that ends in no name stays as it is. -/
def trimExtension (path : Path) : Path :=
  match isPath : path.segments with
  | [] => path
  | head :: rest =>
    let atEnd := !path.segments.getLast?.any isFiller
    match isRest : rest.reverse.dropWhile isFiller with
    | [] =>
      if isFiller head || head = ".." then path
      else {
        segments := [trimmedName atEnd head]
        slashless := by
          intro segment member
          rw [List.mem_singleton.1 member]
          exact hasSlash_trimmedName atEnd (path.slashless head (isPath ▸ List.mem_cons_self)) }
    | last :: before =>
      if last = ".." then path
      else {
        segments := head :: before.reverse ++ [trimmedName atEnd last]
        slashless := by
          have fromRest : ∀ segment ∈ last :: before, hasSlash segment = false := by
            intro segment member
            have inRest := (List.dropWhile_sublist isFiller).mem (isRest ▸ member)
            exact path.slashless segment
              (isPath ▸ List.mem_cons_of_mem head (List.mem_reverse.1 inRest))
          intro segment member
          rcases List.mem_append.1 member with front | final
          · rcases List.mem_cons.1 front with rfl | kept
            · exact path.slashless _ (isPath ▸ List.mem_cons_self)
            · exact fromRest segment (List.mem_cons_of_mem last (List.mem_reverse.1 kept))
          · rw [List.mem_singleton.1 final]
            exact hasSlash_trimmedName atEnd (fromRest last List.mem_cons_self) }

end Path

end KernelExport
