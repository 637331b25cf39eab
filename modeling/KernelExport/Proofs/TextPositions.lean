/-
This file says that lines and columns name the places of a text: each place has a position of its own,
the order of the positions is that of the places, and a position leads back to its place.

A place is a boundary between characters (`boundaries`). Behind a line feed comes the first column of
the next line, and behind any other character the next column of the same line (`counted_concat`), so
positions grow along a text. The way back passes the lines in front first and then the characters in
front of the column (`offsetIn`). Offsets that are no boundaries have no position of their own, and take
that of the last boundary that they have reached.

All of that is said of numbers without bound first (`counted`). With 32 bits for them it holds of a text
whose lines and columns they tell (`Fits`), as of each with less than `2 ^ 32 - 1` bytes. In a text of
one more, all of them line feeds, they do not tell the last line (`ofOffset_lineFeeds`).
-/

import KernelExport.Diagnostic.Position
import Mathlib.Data.List.DropRight
import Mathlib.Data.Prod.Lex
import Mathlib.Order.Bounds.Basic

namespace KernelExport.Position

open Text

/-! ### The order of positions -/

/-- Positions come one behind another as their lines do, and on one line as their columns do. -/
instance : PartialOrder Position :=
  PartialOrder.lift (fun position => toLex (position.line, position.column))
    fun position other same => by
      cases position
      cases other
      simpa using same

theorem lt_iff {position other : Position} : position < other ↔
    position.line < other.line ∨
      position.line = other.line ∧ position.column < other.column :=
  Prod.Lex.toLex_lt_toLex

/-! ### Along a text -/

/-- The position behind a text by numbers that have no bound. -/
def counted (text : List Char) : Position where
  line := text.count '\n' + 1
  column := (text.reverse.takeWhile (· ≠ '\n')).length + 1

theorem number_of_lt {count : Nat} (small : count + 1 < UInt32.size) : number count = count + 1 := by
  rw [number, UInt32.toNat_add, UInt32.toNat_ofNat', UInt32.toNat_one]
  unfold UInt32.size at small
  omega

theorem behind_eq_counted {text : List Char} (line : (counted text).line < UInt32.size)
    (column : (counted text).column < UInt32.size) : behind text = counted text := by
  rw [behind, number_of_lt line, number_of_lt column, counted]

/-- One more character: a line feed starts the next line, and any other character takes a column. -/
theorem counted_concat (front : List Char) (character : Char) :
    counted (front ++ [character]) =
      if character = '\n' then ⟨(counted front).line + 1, 1⟩
      else ⟨(counted front).line, (counted front).column + 1⟩ := by
  split_ifs with feed
  · simp [counted, feed]
  · simp [counted, feed]

theorem counted_lt_counted_concat (front : List Char) (character : Char) :
    counted front < counted (front ++ [character]) := by
  rw [counted_concat, lt_iff]
  split_ifs
  · exact Or.inl (Nat.lt_succ_self _)
  · exact Or.inr ⟨rfl, Nat.lt_succ_self _⟩

theorem counted_lt_counted_append (front : List Char) {more : List Char} (someMore : more ≠ []) :
    counted front < counted (front ++ more) := by
  induction more generalizing front with
  | nil => exact absurd rfl someMore
  | cons character rest inductionHypothesis =>
    have next := counted_lt_counted_concat front character
    rw [List.append_cons]
    by_cases last : rest = []
    · rwa [last, List.append_nil]
    · exact next.trans (inductionHypothesis _ last)

/-! ### Back from a position -/

/-- What is left of a text when so many lines are passed. -/
def passLines : (lines : Nat) → List Char → List Char
  | 0, text => text
  | _ + 1, [] => []
  | lines + 1, character :: rest =>
    if character = '\n' then passLines lines rest else passLines (lines + 1) rest

/-- The offset to which one gets from the start of the line by walking over the characters in front of
the column. -/
def offsetIn (text : String) (position : Position) : Nat :=
  let rest := passLines (position.line - 1) text.toList
  (text.utf8ByteSize - byteSize rest) + byteSize (rest.take (position.column - 1))

/-- Passing the lines of a text that ends with a line feed leaves what stands behind the text. -/
theorem passLines_append {lines : List Char} (rest : List Char)
    (fed : ∀ someLine : lines ≠ [], lines.getLast someLine = '\n') :
    passLines (lines.count '\n') (lines ++ rest) = rest := by
  induction lines with
  | nil => rw [List.count_nil, List.nil_append, passLines]
  | cons character others inductionHypothesis =>
    have othersFed : ∀ someLine : others ≠ [], others.getLast someLine = '\n' := fun someLine =>
      (List.getLast_cons someLine).symm.trans (fed (List.cons_ne_nil _ _))
    have passed := inductionHypothesis othersFed
    by_cases feed : character = '\n'
    · rw [feed, List.count_cons_self, List.cons_append, passLines, if_pos rfl, passed]
    · have someLine : others ≠ [] := by
        rintro rfl
        exact feed (fed (List.cons_ne_nil _ _))
      have member : '\n' ∈ others := othersFed someLine ▸ List.getLast_mem someLine
      obtain ⟨count, counted⟩ :=
        Nat.exists_eq_add_one_of_ne_zero (List.count_pos_iff.2 member).ne'
      rw [List.count_cons_of_ne feed, counted, List.cons_append, passLines, if_neg feed, ← counted,
        passed]

/-- A position walks back over the text that it is behind. -/
theorem offsetIn_counted {text : String} {front back : List Char}
    (parted : text.toList = front ++ back) : offsetIn text (counted front) = byteSize front := by
  let lines := front.rdropWhile (· ≠ '\n')
  let line := front.rtakeWhile (· ≠ '\n')
  have frontIs : front = lines ++ line := (List.rdropWhile_append_rtakeWhile).symm
  have fed : ∀ someLine : lines ≠ [], lines.getLast someLine = '\n' := fun someLine => by
    have kept := List.rdropWhile_last_not (· ≠ '\n') front someLine
    rwa [decide_eq_true_eq, not_not] at kept
  have lineIs : (counted front).line - 1 = lines.count '\n' := by
    have feedless : '\n' ∉ line := fun member => by
      simpa using List.mem_rtakeWhile_imp member
    rw [counted, Nat.add_sub_cancel, congrArg (List.count '\n') frontIs, List.count_append,
      List.count_eq_zero_of_not_mem feedless, Nat.add_zero]
  have columnIs : (counted front).column - 1 = line.length := by
    rw [counted, Nat.add_sub_cancel, ← List.length_reverse]
    rfl
  have restIs : passLines (lines.count '\n') text.toList = line ++ back := by
    rw [parted, frontIs, List.append_assoc, passLines_append _ fed]
  have size : text.utf8ByteSize = byteSize lines + byteSize (line ++ back) := by
    rw [utf8ByteSize_eq, parted, frontIs, List.append_assoc, byteSize_append]
  rw [offsetIn, lineIs, columnIs, restIs, List.take_left, size, Nat.add_sub_cancel, frontIs,
    byteSize_append]

/-! ### Boundaries -/

/-- The boundaries between characters, from the start of the text up to its end. -/
def boundaries (text : String) : Set Nat :=
  {offset | (⟨offset⟩ : String.Pos.Raw).IsValid text}

variable {text : String} {offset : Nat}

theorem mem_boundaries_iff : offset ∈ boundaries text ↔
    ∃ front back, text.toList = front ++ back ∧ byteSize front = offset := by
  rw [boundaries, Set.mem_ofPred_eq, String.Pos.Raw.isValid_iff_exists_append]
  constructor
  · rintro ⟨front, back, rfl, place⟩
    refine ⟨front.toList, back.toList, String.toList_append .., ?_⟩
    rw [← utf8ByteSize_ofList, String.ofList_toList]
    exact (congrArg String.Pos.Raw.byteIdx place).symm
  · rintro ⟨front, back, parted, rfl⟩
    refine ⟨String.ofList front, String.ofList back, ?_, ?_⟩
    · rw [← String.ofList_append, ← parted, String.ofList_toList]
    · rw [← utf8ByteSize_ofList]
      rfl

theorem end_mem_boundaries (text : String) : text.utf8ByteSize ∈ boundaries text :=
  mem_boundaries_iff.2 ⟨text.toList, [], (List.append_nil _).symm, (utf8ByteSize_eq text).symm⟩

theorem le_of_mem_boundaries (isBoundary : offset ∈ boundaries text) :
    offset ≤ text.utf8ByteSize := by
  obtain ⟨front, back, parted, rfl⟩ := mem_boundaries_iff.1 isBoundary
  rw [utf8ByteSize_eq, parted, byteSize_append]
  exact Nat.le_add_right _ _

/-! ### The characters in front of an offset -/

theorem charactersBefore_isFront (offset : Nat) (text : List Char) :
    charactersBefore offset text <+: text := by
  induction text generalizing offset with
  | nil => exact List.prefix_refl _
  | cons character rest inductionHypothesis =>
    rw [charactersBefore]
    split_ifs
    · exact (List.prefix_cons_inj character).2 (inductionHypothesis _)
    · exact List.nil_prefix

theorem byteSize_charactersBefore_le (offset : Nat) (text : List Char) :
    byteSize (charactersBefore offset text) ≤ offset := by
  induction text generalizing offset with
  | nil => exact Nat.zero_le _
  | cons character rest inductionHypothesis =>
    rw [charactersBefore]
    split_ifs with reached
    · have shorter := inductionHypothesis (offset - character.utf8Size)
      rw [byteSize_cons]
      omega
    · exact Nat.zero_le _

theorem charactersBefore_prefix_of_le {offset later : Nat} (text : List Char) (le : offset ≤ later) :
    charactersBefore offset text <+: charactersBefore later text := by
  induction text generalizing offset later with
  | nil => exact List.prefix_refl _
  | cons character rest inductionHypothesis =>
    rw [charactersBefore]
    split_ifs with reached
    · rw [charactersBefore, if_pos (reached.trans le)]
      exact (List.prefix_cons_inj character).2 (inductionHypothesis (Nat.sub_le_sub_right le _))
    · exact List.nil_prefix

/-- On a boundary these are all the characters in front. -/
theorem charactersBefore_append (front back : List Char) :
    charactersBefore (byteSize front) (front ++ back) = front := by
  induction front with
  | nil =>
    cases back with
    | nil => rfl
    | cons character rest =>
      rw [byteSize_nil, List.nil_append, charactersBefore, if_neg]
      exact Nat.not_le.2 character.utf8Size_pos
  | cons character rest inductionHypothesis =>
    rw [byteSize_cons, List.cons_append, charactersBefore, if_pos (Nat.le_add_right _ _),
      Nat.add_sub_cancel_left, inductionHypothesis]

theorem ofOffset_append {front back : List Char} (parted : text.toList = front ++ back) :
    ofOffset text (byteSize front) = behind front := by
  rw [ofOffset, parted, charactersBefore_append]

/-- The boundary that an offset stands for is the last one that it has reached. -/
theorem isGreatest_floor (text : String) (offset : Nat) :
    IsGreatest {boundary ∈ boundaries text | boundary ≤ offset}
      (byteSize (charactersBefore offset text.toList)) := by
  obtain ⟨back, parted⟩ := charactersBefore_isFront offset text.toList
  refine ⟨⟨mem_boundaries_iff.2 ⟨_, back, parted.symm, rfl⟩,
    byteSize_charactersBefore_le _ _⟩, ?_⟩
  rintro boundary ⟨isBoundary, le⟩
  obtain ⟨front, rest, partedToo, rfl⟩ := mem_boundaries_iff.1 isBoundary
  obtain ⟨more, longer⟩ := charactersBefore_prefix_of_le text.toList le
  rw [partedToo, charactersBefore_append, ← partedToo] at longer
  rw [← longer, byteSize_append]
  exact Nat.le_add_right _ _

theorem ofOffset_floor (text : String) (offset : Nat) :
    ofOffset text offset = ofOffset text (byteSize (charactersBefore offset text.toList)) := by
  obtain ⟨back, parted⟩ := charactersBefore_isFront offset text.toList
  rw [ofOffset_append parted.symm, ofOffset]

/-! ### Positions of offsets -/

theorem ofOffset_of_le (beyond : text.utf8ByteSize ≤ offset) :
    ofOffset text offset = ofOffset text text.utf8ByteSize := by
  have last : IsGreatest {boundary ∈ boundaries text | boundary ≤ offset} text.utf8ByteSize :=
    ⟨⟨end_mem_boundaries text, beyond⟩, fun _ boundary => le_of_mem_boundaries boundary.1⟩
  rw [ofOffset_floor, (isGreatest_floor text offset).unique last]

/-- In all of the text 32 bits tell the line and the column. -/
def Fits (text : String) : Prop :=
  ∀ front, front <+: text.toList →
    (counted front).line < UInt32.size ∧ (counted front).column < UInt32.size

theorem fits_of_short (short : text.utf8ByteSize + 1 < UInt32.size) : Fits text := by
  intro front isFront
  have length : front.length ≤ text.utf8ByteSize :=
    calc front.length
      _ ≤ text.toList.length := isFront.length_le
      _ ≤ byteSize text.toList := length_le_byteSize _
      _ = text.utf8ByteSize := (utf8ByteSize_eq text).symm
  have lines : front.count '\n' ≤ front.length := List.count_le_length
  have columns : (front.reverse.takeWhile (· ≠ '\n')).length ≤ front.length :=
    (List.takeWhile_sublist _).length_le.trans_eq List.length_reverse
  rw [counted]
  dsimp only
  omega

section Fits

variable (fits : Fits text)

include fits

theorem ofOffset_eq_counted (offset : Nat) :
    ofOffset text offset = counted (charactersBefore offset text.toList) := by
  obtain ⟨line, column⟩ := fits _ (charactersBefore_isFront offset text.toList)
  exact behind_eq_counted line column

theorem ofOffset_boundary {front back : List Char} (parted : text.toList = front ++ back) :
    ofOffset text (byteSize front) = counted front := by
  rw [ofOffset_eq_counted fits, parted, charactersBefore_append]

theorem strictMonoOn_ofOffset : StrictMonoOn (ofOffset text) (boundaries text) := by
  intro offset isBoundary later isBoundaryToo less
  obtain ⟨front, back, parted, rfl⟩ := mem_boundaries_iff.1 isBoundary
  obtain ⟨longer, rest, partedToo, rfl⟩ := mem_boundaries_iff.1 isBoundaryToo
  obtain ⟨more, rfl⟩ : front <+: longer := by
    have before := charactersBefore_prefix_of_le text.toList less.le
    rwa [parted, charactersBefore_append, ← parted, partedToo, charactersBefore_append] at before
  rw [ofOffset_boundary fits parted, ofOffset_boundary fits partedToo]
  refine counted_lt_counted_append front ?_
  rintro rfl
  rw [List.append_nil] at less
  exact lt_irrefl _ less

theorem offsetIn_ofOffset (isBoundary : offset ∈ boundaries text) :
    offsetIn text (ofOffset text offset) = offset := by
  obtain ⟨front, back, parted, rfl⟩ := mem_boundaries_iff.1 isBoundary
  rw [ofOffset_boundary fits parted, offsetIn_counted parted]

end Fits

/-- Every offset in a text whose lines and columns 32 bits tell has a position. On the boundaries of
the text positions are different and in the order of the boundaries, and lead back to them. Other
offsets have the position of the last boundary that they have reached, which is the end of the text for
those beyond it. -/
theorem ofOffset_faithful (text : String) (fits : Fits text) :
    StrictMonoOn (ofOffset text) (boundaries text) ∧
    Set.InjOn (ofOffset text) (boundaries text) ∧
    (∀ offset ∈ boundaries text, offsetIn text (ofOffset text offset) = offset) ∧
    (∀ offset, ∃ boundary, IsGreatest {boundary ∈ boundaries text | boundary ≤ offset} boundary ∧
      ofOffset text offset = ofOffset text boundary) ∧
    (∀ offset, text.utf8ByteSize ≤ offset →
      ofOffset text offset = ofOffset text text.utf8ByteSize) ∧
    ∀ offset, ofOffset text offset = counted (charactersBefore offset text.toList) :=
  ⟨strictMonoOn_ofOffset fits, (strictMonoOn_ofOffset fits).injOn, fun _ => offsetIn_ofOffset fits,
    fun offset => ⟨_, isGreatest_floor text offset, ofOffset_floor text offset⟩,
    fun _ => ofOffset_of_le, ofOffset_eq_counted fits⟩

theorem ofOffset_faithful_accented :
    (Fits "é\nb" ∧ 2 ∈ boundaries "é\nb" ∧ 3 ∈ boundaries "é\nb" ∧
      "é\nb".utf8ByteSize ≤ 9) ∧
    ofOffset "é\nb" 2 < ofOffset "é\nb" 3 ∧ offsetIn "é\nb" (ofOffset "é\nb" 3) = 3 ∧
    ofOffset "é\nb" 9 = ofOffset "é\nb" 4 := by
  have fits : Fits "é\nb" := fits_of_short (by decide)
  have behindLetter : 2 ∈ boundaries "é\nb" := mem_boundaries_iff.2 ⟨['é'], ['\n', 'b'], rfl, rfl⟩
  have behindFeed : 3 ∈ boundaries "é\nb" := mem_boundaries_iff.2 ⟨['é', '\n'], ['b'], rfl, rfl⟩
  have beyond : "é\nb".utf8ByteSize ≤ 9 := by decide
  obtain ⟨increasing, -, walksBack, -, atEnd, -⟩ := ofOffset_faithful "é\nb" fits
  exact ⟨⟨fits, behindLetter, behindFeed, beyond⟩, increasing behindLetter behindFeed (by decide),
    walksBack 3 behindFeed, atEnd 9 beyond⟩

/-! ### A text with too many lines -/

theorem byteSize_replicate_feed (count : Nat) : byteSize (List.replicate count '\n') = count := by
  induction count with
  | zero => rfl
  | succ count inductionHypothesis =>
    rw [List.replicate_succ, byteSize_cons, inductionHypothesis]
    exact Nat.add_comm ..

/-- In a text of line feeds each offset is behind as many of them. -/
theorem ofOffset_replicate_feed {count offset : Nat} (inside : offset ≤ count) :
    offset ∈ boundaries (String.ofList (List.replicate count '\n')) ∧
      ofOffset (String.ofList (List.replicate count '\n')) offset = ⟨number offset, 1⟩ := by
  have parted : (String.ofList (List.replicate count '\n')).toList =
      List.replicate offset '\n' ++ List.replicate (count - offset) '\n' := by
    rw [String.toList_ofList, List.replicate_append_replicate, Nat.add_sub_cancel' inside]
  have place := byteSize_replicate_feed offset
  refine ⟨mem_boundaries_iff.2 ⟨_, _, parted, place⟩, ?_⟩
  have position := ofOffset_append parted
  rw [place] at position
  have lastLine : (List.replicate offset '\n').takeWhile (· ≠ '\n') = [] := by
    cases offset <;> simp [List.replicate_succ]
  rw [position, behind, List.count_replicate_self, List.reverse_replicate, lastLine]
  rfl

/-- Behind `UInt32.size - 1` line feeds the line is not told: its number is less than that of the line
in front of it. -/
theorem ofOffset_lineFeeds :
    let text := String.ofList (List.replicate (UInt32.size - 1) '\n')
    text.utf8ByteSize < UInt32.size ∧
    (UInt32.size - 2 ∈ boundaries text ∧ UInt32.size - 1 ∈ boundaries text) ∧
    ofOffset text (UInt32.size - 2) = ⟨UInt32.size - 1, 1⟩ ∧
    ofOffset text (UInt32.size - 1) = ⟨0, 1⟩ ∧
    ¬StrictMonoOn (ofOffset text) (boundaries text) := by
  intro text
  obtain ⟨isPlace, next⟩ := ofOffset_replicate_feed (by decide : UInt32.size - 2 ≤ UInt32.size - 1)
  obtain ⟨isEnd, last⟩ := ofOffset_replicate_feed (Nat.le_refl (UInt32.size - 1))
  have size : text.utf8ByteSize = UInt32.size - 1 := by
    rw [utf8ByteSize_eq, String.toList_ofList, byteSize_replicate_feed]
  refine ⟨by rw [size]; decide, ⟨isPlace, isEnd⟩, next, last, fun increasing => ?_⟩
  have less := increasing isPlace isEnd (by decide)
  rw [next, last, lt_iff] at less
  revert less
  decide

end KernelExport.Position
