/-
This file says which steps are written in a path, and which are written behind those of another
path.

A walk takes the segments of a path that are not empty, its parts; and what is read from a
directory, as the path of a name in it is, has the parts of the directory and then its own
(`Prolongs`). The ancestors of a path are written with parts from the front of its own, so the
parts of a path and of all that has to stand on the way to it are told by the same list.
-/

import KernelExport.FileSystem.Action
import KernelExport.Proofs.Words
import Mathlib.Data.List.TakeWhile

namespace KernelExport

namespace Path

/-! ### Parts -/

/-- The segments of a path that are steps of its walk. -/
def parts (path : Path) : List String :=
  path.segments.filter (· ≠ "")

theorem segments_ofText {name : String} (slashless : hasSlash name = false) :
    (ofText name).segments = [name] := by
  have ordinary : ∀ character ∈ name.toList, (character == '/') = false := by
    intro character member
    rw [hasSlash, List.contains_eq_mem, decide_eq_false_iff_not] at slashless
    refine beq_false_of_ne ?_
    rintro rfl
    exact slashless member
  show (Text.split '/' name.toList).map String.ofList = [name]
  rw [Text.split, Text.pieces_of_not_isSeparator ordinary, List.map_singleton, String.ofList_toList]

/-- A text of segments between slashes is read as a path of these segments. -/
theorem segments_ofText_intercalate {segments : List String} (written : segments ≠ [])
    (slashless : ∀ segment ∈ segments, hasSlash segment = false) :
    (ofText ("/".intercalate segments)).segments = segments := by
  have ordinary : ∀ part ∈ segments.map String.toList, '/' ∉ part := by
    intro part member
    obtain ⟨segment, inSegments, rfl⟩ := List.mem_map.1 member
    have plain := slashless segment inSegments
    rwa [hasSlash, List.contains_eq_mem, decide_eq_false_iff_not] at plain
  show (Text.split '/' ("/".intercalate segments).toList).map String.ofList = segments
  rw [String.toList_intercalate]
  show (Text.split '/' (['/'].intercalate _)).map String.ofList = segments
  rw [Text.split_intercalate (by simpa using written) ordinary, List.map_map]
  simp [Function.comp_def]

/-- The path that is written as names behind slashes has the names as its parts. -/
theorem segments_ofText_names {names : List String} (written : names ≠ [])
    (slashless : ∀ name ∈ names, hasSlash name = false) :
    (ofText ("/" ++ "/".intercalate names)).segments = "" :: names := by
  have text : "/" ++ "/".intercalate names = "/".intercalate ("" :: names) := by
    rw [String.intercalate_cons_of_ne_nil written, String.empty_append]
  rw [text]
  refine segments_ofText_intercalate (List.cons_ne_nil _ _) (List.forall_mem_cons.2 ⟨?_, slashless⟩)
  decide

/-- The text of a path is read as the path, if it has any segments. -/
theorem ofText_text {path : Path} (written : path.segments ≠ []) : ofText path.text = path := by
  have same : (ofText path.text).segments = path.segments :=
    segments_ofText_intercalate written path.slashless
  generalize ofText path.text = other at same
  obtain ⟨segments, slashless⟩ := path
  obtain ⟨others, _⟩ := other
  cases same
  rfl

/-- What is written behind a directory that a path is read from. -/
theorem segments_join {path relative : Path} (isRelative : relative.isAbsolute = false) :
    (path.join relative).segments = (if path.segments.getLast? = some "" then path.segments.dropLast
      else path.segments) ++ relative.segments := by
  rw [join, if_neg (by rw [isRelative]; decide)]

theorem parts_join {path relative : Path} (isRelative : relative.isAbsolute = false) :
    (path.join relative).parts = path.parts ++ relative.parts := by
  rw [parts, segments_join isRelative, List.filter_append, parts, parts]
  congr 1
  split
  · rename_i slashed
    obtain ⟨front, segments⟩ := List.getLast?_eq_some_iff.1 slashed
    rw [segments, List.dropLast_concat, List.filter_append]
    simp
  · rfl

theorem isAbsolute_join {path relative : Path} (isRelative : relative.isAbsolute = false)
    (written : relative.segments ≠ []) : (path.join relative).isAbsolute = path.isAbsolute := by
  obtain ⟨first, others, segments⟩ := List.exists_cons_of_ne_nil written
  have relativeFirst : others ≠ [] → first ≠ "" := by
    intro someOthers empty
    obtain ⟨second, rest, rfl⟩ := List.exists_cons_of_ne_nil someOthers
    simp [isAbsolute, segments, empty] at isRelative
  rw [isAbsolute, segments_join isRelative, segments, isAbsolute]
  match path.segments with
  | [] => cases others <;> simp_all
  | [first] => by_cases filler : first = "" <;> cases others <;> simp_all
  | [first, second] => by_cases filler : second = "" <;> simp [filler]
  | first :: second :: third :: rest =>
    by_cases slashed : (first :: second :: third :: rest).getLast? = some ""
    · rw [if_pos slashed]
      rfl
    · rw [if_neg slashed]
      rfl

theorem isAbsolute_ofName {name : String} (slashless : hasSlash name = false) :
    (ofName name).isAbsolute = false := by
  rw [ofName, isAbsolute, segments_ofText slashless]

/-- The path of a name in a directory has the segments of the directory and the name. One slash
behind the directory is the one that the name stands behind. -/
theorem segments_child (path : Path) {name : String} (slashless : hasSlash name = false) :
    (path.child name).segments = (if path.segments.getLast? = some "" then path.segments.dropLast
      else path.segments) ++ [name] := by
  rw [child, segments_join (isAbsolute_ofName slashless), ofName, segments_ofText slashless]

theorem getLast?_child (path : Path) {name : String} (slashless : hasSlash name = false) :
    (path.child name).segments.getLast? = some name := by
  rw [segments_child path slashless, List.getLast?_concat]

theorem parts_child (path : Path) {name : String} (isName : IsName name) :
    (path.child name).parts = path.parts ++ [name] := by
  have solid : (ofName name).parts = [name] := by
    rw [ofName, parts, segments_ofText isName.2.2.2]
    simp [isName.1]
  rw [child, parts_join (isAbsolute_ofName isName.2.2.2), solid]

theorem isAbsolute_child (path : Path) {name : String} (isName : IsName name) :
    (path.child name).isAbsolute = path.isAbsolute := by
  have written : (ofName name).segments ≠ [] := by
    rw [ofName, segments_ofText isName.2.2.2]
    simp
  exact isAbsolute_join (isAbsolute_ofName isName.2.2.2) written

theorem isEmpty_child (path : Path) {name : String} (isName : IsName name) :
    (path.child name).isEmpty = false := by
  have last := getLast?_child path isName.2.2.2
  rw [isEmpty, Bool.or_eq_false_iff, beq_eq_false_iff_ne, beq_eq_false_iff_ne]
  constructor <;> intro segments <;> rw [segments] at last
  · cases last
  · exact isName.1 (Option.some.inj last).symm

theorem steps_child (path : Path) {name : String} (isName : IsName name) :
    (path.child name).steps = path.parts ++ [name] := by
  have parts := parts_child path isName
  rw [Path.parts, segments_child path isName.2.2.2] at parts
  rw [steps, segments_child path isName.2.2.2]
  simp_all [isName.1]

/-- A slash behind a path is a step to the directory itself. -/
theorem steps_eq (path : Path) :
    path.steps = path.parts ∨ path.steps = path.parts ++ ["."] := by
  cases segments : path.segments.reverse with
  | nil =>
    have none : path.segments = [] := List.reverse_eq_nil_iff.1 segments
    exact .inr (by simp [steps, parts, none])
  | cons last before =>
    have written : path.segments = before.reverse ++ [last] := by
      rw [← List.reverse_reverse path.segments, segments, List.reverse_cons]
    by_cases slashed : last = ""
    · exact .inr (by simp [steps, parts, written, slashed])
    · exact .inl (by simp [steps, parts, written, slashed])

theorem steps_ne_nil (path : Path) : path.steps ≠ [] := by
  rw [steps]
  split <;> simp

/-! ### Names behind a path -/

section Names

variable {path : Path} {names : List String}

theorem foldl_child_concat (path : Path) (names : List String) (last : String) :
    (names ++ [last]).foldl child path = (names.foldl child path).child last := by
  rw [List.foldl_append]
  rfl

/-- The path of names behind a path, of which the last comes first as in locations. -/
def behind (path : Path) (names : List String) : Path :=
  names.reverse.foldl child path

theorem behind_cons (path : Path) (name : String) (names : List String) :
    path.behind (name :: names) = (path.behind names).child name := by
  rw [behind, List.reverse_cons, foldl_child_concat]
  rfl

theorem behind_child (path : Path) (name : String) (names : List String) :
    (path.child name).behind names = path.behind (names ++ [name]) := by
  rw [behind, behind, List.reverse_append]
  rfl

theorem parts_foldl_child (named : ∀ name ∈ names, IsName name) :
    (names.foldl child path).parts = path.parts ++ names := by
  induction names generalizing path with
  | nil => rw [List.foldl_nil, List.append_nil]
  | cons name rest inductionHypothesis =>
    rw [List.foldl_cons, inductionHypothesis (List.forall_mem_cons.1 named).2,
      parts_child path (List.forall_mem_cons.1 named).1, List.append_assoc]
    rfl

theorem isAbsolute_foldl_child (named : ∀ name ∈ names, IsName name) :
    (names.foldl child path).isAbsolute = path.isAbsolute := by
  induction names generalizing path with
  | nil => rfl
  | cons name rest inductionHypothesis =>
    rw [List.foldl_cons, inductionHypothesis (List.forall_mem_cons.1 named).2,
      isAbsolute_child path (List.forall_mem_cons.1 named).1]

/-- Behind a name there is no slash, so all steps are parts. -/
theorem steps_foldl_child {name : String} (isName : IsName name)
    (named : ∀ name ∈ names, IsName name) :
    (names.foldl child (path.child name)).steps = path.parts ++ name :: names := by
  rcases List.eq_nil_or_concat names with rfl | ⟨front, last, rfl⟩
  · rw [List.foldl_nil, steps_child path isName]
  · rw [List.concat_eq_append] at named ⊢
    obtain ⟨front, last⟩ := List.forall_mem_append.1 named
    rw [foldl_child_concat, steps_child _ (last _ List.mem_cons_self), parts_foldl_child front,
      parts_child path isName]
    simp

theorem utf8ByteSize_intercalate {names others : List String}
    (sizes : names.map String.utf8ByteSize = others.map String.utf8ByteSize) :
    ("/".intercalate names).utf8ByteSize = ("/".intercalate others).utf8ByteSize := by
  induction names generalizing others with
  | nil =>
    rw [List.map_nil, eq_comm, List.map_eq_nil_iff] at sizes
    rw [sizes]
  | cons name rest inductionHypothesis =>
    cases others with
    | nil => cases sizes
    | cons other more =>
      obtain ⟨size, sizes⟩ := List.cons.inj sizes
      have tail := inductionHypothesis sizes
      by_cases none : rest = []
      · subst none
        rw [List.map_nil, eq_comm, List.map_eq_nil_iff] at sizes
        simp [sizes, size]
      · have some : more ≠ [] := by
          rintro rfl
          exact none (List.map_eq_nil_iff.1 sizes)
        simp only [String.intercalate_cons_of_ne_nil none, String.intercalate_cons_of_ne_nil some,
          String.utf8ByteSize_append, size, tail]

/-- Names of one size make paths of one size. -/
theorem utf8ByteSize_foldl_child {name other : String} (isName : IsName name)
    (isNameToo : IsName other) (size : name.utf8ByteSize = other.utf8ByteSize)
    (named : ∀ name ∈ names, IsName name) :
    (names.foldl child (path.child name)).text.utf8ByteSize =
      (names.foldl child (path.child other)).text.utf8ByteSize := by
  refine utf8ByteSize_intercalate ?_
  have sized : ∀ {first second : Path}, first.segments ≠ [] → first.segments.getLast? ≠ some "" →
      second.segments.getLast? ≠ some "" →
      first.segments.map String.utf8ByteSize = second.segments.map String.utf8ByteSize →
      (names.foldl child first).segments.map String.utf8ByteSize =
        (names.foldl child second).segments.map String.utf8ByteSize := by
    intro first second written ends endsToo sizes
    induction names generalizing first second with
    | nil => exact sizes
    | cons next rest inductionHypothesis =>
      obtain ⟨isNext, named⟩ := List.forall_mem_cons.1 named
      have segments : ∀ {path : Path}, path.segments.getLast? ≠ some "" →
          (path.child next).segments = path.segments ++ [next] := by
        intro path ends
        rw [segments_child path isNext.2.2.2, if_neg ends]
      refine inductionHypothesis named ?_ ?_ ?_ ?_
      · simp [segments ends]
      · simpa [segments ends] using isNext.1
      · simpa [segments endsToo] using isNext.1
      · rw [segments ends, segments endsToo, List.map_append, List.map_append, sizes]
  refine sized ?_ ?_ ?_ ?_
  · simp [segments_child path isName.2.2.2]
  · simpa [getLast?_child path isName.2.2.2] using isName.1
  · simpa [getLast?_child path isNameToo.2.2.2] using isNameToo.1
  · rw [segments_child path isName.2.2.2, segments_child path isNameToo.2.2.2]
    simp [size]

end Names

/-! ### Ancestors -/

theorem isAbsolute_of_cons {path : Path} {head : String} {rest : List String}
    (segments : path.segments = head :: rest) (named : head ≠ "") : path.isAbsolute = false := by
  rw [isAbsolute, segments]
  cases rest <;> simp [named]

/-- The path names a component and is written up to it, with no fillers behind. -/
structure EndsInComponent (path : Path) : Prop where
  named : 0 < path.depth
  tight : ∀ last ∈ path.segments.tail.getLast?, isFiller last = false

/-- Segments with a component, from behind: fillers, the last component, fillers again, and what is
kept of them. -/
theorem exists_of_dropWhile_isFiller {segments before : List String} {last : String}
    (behind : segments.reverse.dropWhile isFiller = last :: before) : ∃ stays ends,
      segments = (before.dropWhile isFiller).reverse ++ stays ++ last :: ends ∧
        (∀ segment ∈ stays, isFiller segment = true) ∧ isFiller last = false ∧
        ∀ segment ∈ ends, isFiller segment = true := by
  have inReverse : ∀ {segments : List String} {segment : String},
      segment ∈ (segments.takeWhile isFiller).reverse → isFiller segment = true :=
    fun member => List.mem_takeWhile_imp (List.mem_reverse.1 member)
  refine ⟨(before.takeWhile isFiller).reverse, (segments.reverse.takeWhile isFiller).reverse, ?_,
    fun _ => inReverse, ?_, fun _ => inReverse⟩
  · rw [← List.reverse_append, List.takeWhile_append_dropWhile]
    have whole : segments.reverse.takeWhile isFiller ++ last :: before = segments.reverse :=
      behind ▸ List.takeWhile_append_dropWhile
    have again := congrArg List.reverse whole
    rw [List.reverse_append, List.reverse_cons, List.reverse_reverse, List.append_assoc,
      List.singleton_append] at again
    exact again.symm
  · have stops := List.head?_dropWhile_not isFiller segments.reverse
    rwa [behind] at stops

/-- A path is its parent with the last component behind it, fillers before and behind that left out;
the parent of a path that names one component is where the path starts. -/
theorem parent?_cases {path above : Path} (isParent : path.parent? = some above) :
    (∃ only ends, path.segments = only :: ends ∧ only ≠ "" ∧
      (∀ segment ∈ ends, isFiller segment = true) ∧ above = empty) ∨
    ∃ front stays last ends, path.segments = front ++ stays ++ last :: ends ∧
      (∀ segment ∈ stays, isFiller segment = true) ∧ isFiller last = false ∧
      (∀ segment ∈ ends, isFiller segment = true) ∧
      (front = [""] ∧ above = root ∨ front = above.segments ∧ above.EndsInComponent) := by
  obtain ⟨segments⟩ := path
  cases segments with
  | nil => simp [parent?] at isParent
  | cons head rest =>
    simp only [parent?] at isParent
    split at isParent
    · rename_i none
      split at isParent
      · cases isParent
      · rename_i named
        obtain rfl := Option.some.inj isParent
        refine .inl ⟨head, rest, rfl, named, fun segment member => ?_, rfl⟩
        exact List.dropWhile_eq_nil_iff.1 none segment (List.mem_reverse.2 member)
    · rename_i last before behind
      obtain ⟨stays, ends, written, areStays, component, areEnds⟩ :=
        exists_of_dropWhile_isFiller behind
      split at isParent
      · rename_i atRoot
        obtain rfl := Option.some.inj isParent
        refine .inr ⟨[""], stays, last, ends, ?_, areStays, component, areEnds, .inl ⟨rfl, rfl⟩⟩
        rw [atRoot.2] at written
        exact atRoot.1 ▸ congrArg (head :: ·) written
      · rename_i notRoot
        obtain rfl := Option.some.inj isParent
        have tight : ∀ segment ∈ (before.dropWhile isFiller).head?, isFiller segment = false := by
          intro segment atHead
          have stops := List.head?_dropWhile_not isFiller before
          rwa [Option.mem_def.1 atHead] at stops
        refine .inr ⟨head :: (before.dropWhile isFiller).reverse, stays, last, ends,
          congrArg (head :: ·) written, areStays, component, areEnds, .inr ⟨rfl, ?_, ?_⟩⟩
        · by_cases relative : head = ""
          · obtain ⟨first, more, kept⟩ :=
              List.exists_cons_of_ne_nil fun none => notRoot ⟨relative, none⟩
            have named := tight first (by rw [kept]; rfl)
            simp [depth, relative, kept, named]
          · simp [depth, relative]
        · intro segment atEnd
          exact tight segment (by rwa [← List.getLast?_reverse])

/-- What is written up to a component starts where the whole path does. -/
theorem isAbsolute_of_isFront {path front : Path} (isFront : front.segments <+: path.segments)
    (named : 0 < front.depth) : front.isAbsolute = path.isAbsolute := by
  obtain ⟨more, whole⟩ := isFront
  obtain ⟨segments⟩ := front
  match segments with
  | [] => cases named
  | [only] =>
    have solid : only ≠ "" := by
      rintro rfl
      cases named
    rw [isAbsolute_of_cons whole.symm solid, isAbsolute_of_cons rfl solid]
  | first :: second :: rest =>
    rw [isAbsolute, isAbsolute, ← whole]
    rfl

/-- A parent is written with parts from the front of the path. -/
theorem parent?_parts {path above : Path} (isParent : path.parent? = some above) :
    above.isAbsolute = path.isAbsolute ∧ above.parts <+: path.parts := by
  obtain ⟨only, ends, written, named, -, rfl⟩ |
    ⟨front, stays, last, ends, written, -, -, -, ⟨rfl, rfl⟩ | ⟨rfl, component⟩⟩ :=
    parent?_cases isParent
  · exact ⟨(isAbsolute_of_cons written named).symm, List.nil_prefix⟩
  · refine ⟨?_, List.nil_prefix⟩
    rw [isAbsolute, isAbsolute, written]
    cases stays <;> rfl
  · have isFront : above.segments <+: path.segments := by
      rw [written, List.append_assoc]
      exact List.prefix_append _ _
    exact ⟨isAbsolute_of_isFront isFront component.named, isFront.filter _⟩

/-- Behind the parts of a parent, and steps that stay, the next part leads further. -/
theorem parent?_rest {path above : Path} (isParent : path.parent? = some above) :
    above.isEmpty = true ∨ ∃ stays last more, path.parts = above.parts ++ stays ++ last :: more ∧
      (∀ part ∈ stays, part = ".") ∧ last ≠ "." := by
  obtain ⟨only, ends, -, -, -, rfl⟩ |
    ⟨front, stays, last, ends, written, areStays, component, -, start⟩ := parent?_cases isParent
  · exact .inl rfl
  · have frontParts : front.filter (· ≠ "") = above.parts := by
      obtain ⟨rfl, rfl⟩ | ⟨rfl, -⟩ := start <;> rfl
    simp only [isFiller, Bool.or_eq_false_iff, beq_eq_false_iff_ne, ne_eq] at component
    refine .inr ⟨stays.filter (· ≠ ""), last, ends.filter (· ≠ ""), ?_, ?_, component.2⟩
    · rw [parts, written, List.filter_append, List.filter_append, frontParts,
        List.filter_cons_of_pos (by simpa using component.1)]
    · intro part member
      obtain ⟨isStay, solid⟩ := List.mem_filter.1 member
      simpa [isFiller, (by simpa using solid : part ≠ "")] using areStays part isStay

theorem utf8ByteSize_intercalate_append_le (front behind : List String) :
    ("/".intercalate front).utf8ByteSize ≤ ("/".intercalate (front ++ behind)).utf8ByteSize := by
  induction front with
  | nil => simp
  | cons name rest inductionHypothesis =>
    by_cases none : rest = []
    · subst none
      by_cases ends : behind = []
      · simp [ends]
      · rw [List.singleton_append, String.intercalate_cons_of_ne_nil ends]
        simp only [String.intercalate_singleton, String.utf8ByteSize_append]
        omega
    · rw [List.cons_append, String.intercalate_cons_of_ne_nil none,
        String.intercalate_cons_of_ne_nil (by simp [none])]
      simp only [String.utf8ByteSize_append]
      omega

/-- The text of a parent is no longer than that of the path. -/
theorem utf8ByteSize_parent?_le {path above : Path} (isParent : path.parent? = some above) :
    above.text.utf8ByteSize ≤ path.text.utf8ByteSize := by
  obtain ⟨only, ends, -, -, -, rfl⟩ |
    ⟨front, stays, last, ends, written, -, -, -, ⟨rfl, rfl⟩ | ⟨rfl, -⟩⟩ := parent?_cases isParent
  · exact Nat.zero_le _
  · have behind : stays ++ last :: ends ≠ [] := by simp
    rw [text, text, written, List.append_assoc, List.singleton_append,
      String.intercalate_cons_of_ne_nil behind]
    simp only [root, String.intercalate_cons_of_ne_nil (List.cons_ne_nil "" []),
      String.utf8ByteSize_append, String.intercalate_singleton, String.utf8ByteSize_empty]
    omega
  · rw [text, text, written, List.append_assoc]
    exact utf8ByteSize_intercalate_append_le above.segments _

theorem utf8ByteSize_intercalate_concat {front : List String} (some : front ≠ [])
    (last : String) : ("/".intercalate (front ++ [last])).utf8ByteSize =
      ("/".intercalate front).utf8ByteSize + 1 + last.utf8ByteSize := by
  induction front with
  | nil => exact absurd rfl some
  | cons name rest inductionHypothesis =>
    rw [List.cons_append, String.intercalate_cons_of_ne_nil (by simp)]
    by_cases none : rest = []
    · subst none
      simp [String.utf8ByteSize_append]
      rfl
    · rw [String.intercalate_cons_of_ne_nil none]
      simp only [String.utf8ByteSize_append, inductionHypothesis none]
      omega

/-- The text of a name behind a path is longer than that of the path. -/
theorem utf8ByteSize_lt_child (path : Path) {name : String} (isName : IsName name) :
    path.text.utf8ByteSize < (path.child name).text.utf8ByteSize := by
  have size : 0 < name.utf8ByteSize := Nat.pos_of_ne_zero fun none =>
    isName.1 (String.utf8ByteSize_eq_zero_iff.1 none)
  rw [text, text, segments_child path isName.2.2.2]
  split
  · rename_i slashed
    obtain ⟨front, ends⟩ := List.getLast?_eq_some_iff.1 slashed
    rw [ends, List.dropLast_concat]
    by_cases none : front = []
    · subst none
      simpa using size
    · rw [utf8ByteSize_intercalate_concat none, utf8ByteSize_intercalate_concat none,
        String.utf8ByteSize_empty]
      omega
  · by_cases none : path.segments = []
    · rw [none]
      simpa using size
    · rw [utf8ByteSize_intercalate_concat none]
      omega

theorem ancestors_parts (path : Path) : ∀ above ∈ path.ancestors,
    above.isAbsolute = path.isAbsolute ∧ above.parts <+: path.parts := by
  induction path using ancestors.induct with
  | case1 path none =>
    intro above member
    rw [ancestors, none] at member
    obtain rfl := List.mem_singleton.1 member
    exact ⟨rfl, List.prefix_rfl⟩
  | case2 path parent isParent inductionHypothesis =>
    intro above member
    rw [ancestors, isParent] at member
    rcases List.mem_cons.1 member with rfl | further
    · exact ⟨rfl, List.prefix_rfl⟩
    · obtain ⟨absolute, front⟩ := inductionHypothesis above further
      obtain ⟨parentAbsolute, parentFront⟩ := parent?_parts isParent
      exact ⟨absolute.trans parentAbsolute, front.trans parentFront⟩

theorem exists_ancestors (path : Path) : ∃ above, path.ancestors = path :: above := by
  rw [ancestors]
  split
  · exact ⟨[], rfl⟩
  · exact ⟨_, rfl⟩

/-! ### Paths behind a path -/

/-- The path is written with more parts behind those of another path. -/
structure Prolongs (path root : Path) (more : List String) : Prop where
  isAbsolute : path.isAbsolute = root.isAbsolute
  parts : path.parts = root.parts ++ more

theorem Prolongs.refl (path : Path) : path.Prolongs path [] :=
  ⟨rfl, (List.append_nil _).symm⟩

theorem ofText_segments_ne_nil (text : String) : (ofText text).segments ≠ [] := by
  show (Text.split '/' text.toList).map String.ofList ≠ []
  rw [ne_eq, List.map_eq_nil_iff]
  exact Text.pieces_ne_nil _ _

theorem segments_child_ne_nil (path : Path) (name : String) : (path.child name).segments ≠ [] := by
  have named : (ofName name).segments ≠ [] := ofText_segments_ne_nil name
  rw [child, join]
  split
  · exact named
  · exact List.append_ne_nil_of_right_ne_nil _ named

theorem Prolongs.join {path root relative : Path} {more : List String}
    (prolongs : path.Prolongs root more) (isRelative : relative.isAbsolute = false)
    (written : relative.segments ≠ []) :
    (path.join relative).Prolongs root (more ++ relative.parts) where
  isAbsolute := (isAbsolute_join isRelative written).trans prolongs.isAbsolute
  parts := by rw [parts_join isRelative, prolongs.parts, List.append_assoc]

theorem getLast?_join {path relative : Path} (isRelative : relative.isAbsolute = false)
    (written : relative.segments ≠ []) :
    (path.join relative).segments.getLast? = relative.segments.getLast? := by
  obtain ⟨last, ended⟩ := Option.isSome_iff_exists.1 (List.getLast?_isSome.2 written)
  rw [segments_join isRelative, List.getLast?_append, ended, Option.some_or]

theorem Prolongs.child {path root : Path} {more : List String} {name : String}
    (prolongs : path.Prolongs root more) (isName : IsName name) :
    (path.child name).Prolongs root (more ++ [name]) where
  isAbsolute := (isAbsolute_child path isName).trans prolongs.isAbsolute
  parts := by rw [parts_child path isName, prolongs.parts, List.append_assoc]

end Path

end KernelExport
