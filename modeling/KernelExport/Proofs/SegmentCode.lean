/-
This file finds the segments of a source behind the characters of its code.

Blanking keeps the size of every segment (`byteSize_codeOf`), and outside comments it leaves nothing
but code and quotes that is not blank. So a character of the code that is neither a blank nor a quote
is a segment of its own, and the segments fall into those in front of it and those behind it
(`exists_of_codeOf_eq`). In this way the parts that reading makes of the code, its words, its
parentheses and what stands between its commas, are parts of the segments.

What reading passes over as blanks is then made of blanks and comments (`takeWhile_codeOf`). Literals
are not passed over: the quote in front of them stays.
-/

import KernelExport.Proofs.Interiors

namespace KernelExport.SourceText

open Text

/-! ### Segments and their code -/

/-- What the segments become when their source is blanked. -/
def codeOf (segments : List Segment) : List Char :=
  segments.flatMap Segment.blanked

@[simp] theorem codeOf_nil : codeOf [] = [] := rfl

@[simp] theorem codeOf_cons (segment : Segment) (rest : List Segment) :
    codeOf (segment :: rest) = segment.blanked ++ codeOf rest := rfl

@[simp] theorem codeOf_append (first second : List Segment) :
    codeOf (first ++ second) = codeOf first ++ codeOf second :=
  List.flatMap_append

@[simp] theorem codeOf_map_code (word : List Char) : codeOf (word.map .code) = word := by
  induction word with
  | nil => rfl
  | cons character word inductionHypothesis =>
    rw [List.map_cons, codeOf_cons, inductionHypothesis]
    rfl

/-- The number of bytes that the segments take in their source. -/
def size (segments : List Segment) : Nat :=
  byteSize (segments.flatMap Segment.text)

@[simp] theorem size_append (first second : List Segment) :
    size (first ++ second) = size first + size second := by
  simp [size]

theorem byteSize_blankedText (text : List Char) : byteSize (blankedText text) = byteSize text := by
  induction text with
  | nil => rfl
  | cons character text inductionHypothesis =>
    rw [blankedText_cons, byteSize_append, byteSize_blanked, inductionHypothesis, byteSize_cons]

theorem Mark.byteSize_blanked (mark : Mark) : byteSize mark.blanked = byteSize mark.text := by
  cases mark <;> rfl

/-- A blanked source has the offsets of the source. -/
theorem byteSize_codeOf (segments : List Segment) : byteSize (codeOf segments) = size segments := by
  induction segments with
  | nil => rfl
  | cons segment rest inductionHypothesis =>
    have closingSize : byteSize (segment.closing.elim [] Mark.blanked) =
        byteSize (segment.closing.elim [] Mark.text) := by
      cases segment.closing with
      | none => rfl
      | some mark => exact mark.byteSize_blanked
    rw [codeOf_cons, byteSize_append, inductionHypothesis, Segment.blanked_eq, byteSize_append,
      byteSize_append, Mark.byteSize_blanked, byteSize_blankedText, closingSize, size, size,
      List.flatMap_cons, byteSize_append, Segment.text, byteSize_append, byteSize_append]

theorem Segment.blanked_ne_nil (segment : Segment) : segment.blanked ≠ [] := by
  cases segment <;> exact List.cons_ne_nil _ _

theorem eq_nil_of_codeOf_eq_nil {segments : List Segment} (none : codeOf segments = []) :
    segments = [] := by
  cases segments with
  | nil => rfl
  | cons segment rest => exact absurd (List.append_eq_nil_iff.1 none).1 segment.blanked_ne_nil

/-- Two fronts of the same segments with one code are the same. -/
theorem eq_of_codeOf_eq {first second firstRest secondRest : List Segment}
    (same : first ++ firstRest = second ++ secondRest) (sameCode : codeOf first = codeOf second) :
    first = second := by
  rcases List.append_eq_append_iff.1 same with ⟨more, rfl, -⟩ | ⟨more, rfl, -⟩
  · rw [codeOf_append, List.self_eq_append_right] at sameCode
    rw [eq_nil_of_codeOf_eq_nil sameCode, List.append_nil]
  · rw [codeOf_append, List.append_right_eq_self] at sameCode
    rw [eq_nil_of_codeOf_eq_nil sameCode, List.append_nil]

/-! ### What is left of segments -/

/-- The literals among the segments stand between quotes. -/
def Quoted (segments : List Segment) : Prop :=
  ∀ ⦃quote : Char⦄ ⦃inside : List Char⦄ ⦃closed : Bool⦄,
    .literal quote inside closed ∈ segments → isQuote quote = true

theorem Divides.quoted {segments : List Segment} {source : List Char}
    (divides : Divides segments source) : Quoted segments :=
  fun _ _ _ member => divides.isQuote_of_mem member

theorem Quoted.sublist {segments part : List Segment} (quoted : Quoted segments)
    (isPart : part.Sublist segments) : Quoted part :=
  fun _ _ _ member => quoted (isPart.subset member)

theorem Quoted.tail {segment : Segment} {rest : List Segment} (quoted : Quoted (segment :: rest)) :
    Quoted rest :=
  quoted.sublist (List.sublist_cons_self segment rest)

/-- The character is neither a blank nor a quote. -/
structure Bare (character : Char) : Prop where
  notBlank : isBlank character = false
  notQuote : isQuote character = false

theorem isBlank_of_mem_blankedText {text : List Char} {character : Char}
    (member : character ∈ blankedText text) : isBlank character = true := by
  obtain ⟨original, -, inBlanked⟩ := List.mem_flatMap.1 member
  rw [blanked] at inBlanked
  split at inBlanked
  · rw [List.mem_singleton.1 inBlanked]
    rfl
  · rw [List.eq_of_mem_replicate inBlanked]
    rfl

/-- A bare character of the code is a segment of its own. -/
theorem eq_code_of_mem_blanked {segment : Segment} {character : Char} (quoted : Quoted [segment])
    (bare : Bare character) (member : character ∈ segment.blanked) : segment = .code character := by
  have notBlanked : ∀ {text}, character ∉ blankedText text := by
    intro text inText
    have blank := isBlank_of_mem_blankedText inText
    rw [bare.notBlank] at blank
    cases blank
  have notSpace : character ≠ ' ' := by
    rintro rfl
    exact absurd bare.notBlank (by decide)
  cases segment with
  | code other => rw [List.mem_singleton.1 member]
  | lineComment inside => simp [Segment.blanked, notSpace, notBlanked] at member
  | blockComment inside closed =>
    cases closed <;> simp [Segment.blanked, notSpace, notBlanked] at member
  | literal quote inside closed =>
    have notQuote : character ≠ quote := by
      rintro rfl
      have isQuote := quoted List.mem_cons_self
      rw [bare.notQuote] at isQuote
      cases isQuote
    cases closed <;> simp [Segment.blanked, notQuote, notBlanked] at member

/-- What stands around a bare character of the code is the code of what stands around it among the
segments. -/
theorem exists_of_codeOf_eq {segments : List Segment} {front back : List Char} {character : Char}
    (quoted : Quoted segments) (bare : Bare character)
    (same : codeOf segments = front ++ character :: back) :
    ∃ earlier later, segments = earlier ++ .code character :: later ∧ codeOf earlier = front ∧
      codeOf later = back := by
  induction segments generalizing front with
  | nil => simp at same
  | cons segment rest inductionHypothesis =>
    rw [codeOf_cons] at same
    by_cases here : segment = .code character ∧ front = []
    · obtain ⟨rfl, rfl⟩ := here
      exact ⟨[], rest, rfl, rfl, (List.cons.inj same).2⟩
    · obtain ⟨more, rfl, restCode⟩ : ∃ more, front = segment.blanked ++ more ∧
          codeOf rest = more ++ character :: back := by
        by_cases member : character ∈ segment.blanked
        · obtain rfl := eq_code_of_mem_blanked
            (quoted.sublist (List.singleton_sublist.2 List.mem_cons_self)) bare member
          cases front with
          | nil => exact absurd ⟨rfl, rfl⟩ here
          | cons first front =>
            obtain ⟨rfl, restCode⟩ := List.cons.inj same
            exact ⟨front, rfl, restCode⟩
        · exact exists_of_append_eq member same
      obtain ⟨earlier, later, rfl, rfl, laterCode⟩ := inductionHypothesis quoted.tail restCode
      exact ⟨segment :: earlier, later, rfl, rfl, laterCode⟩

/-- A text of bare characters at the front of the code stands at the front of the segments. -/
theorem exists_of_codeOf_eq_append {word back : List Char} {segments : List Segment}
    (quoted : Quoted segments) (bare : ∀ character ∈ word, Bare character)
    (same : codeOf segments = word ++ back) :
    ∃ later, segments = word.map .code ++ later ∧ codeOf later = back := by
  induction word generalizing segments with
  | nil => exact ⟨segments, rfl, same⟩
  | cons character word inductionHypothesis =>
    obtain ⟨earlier, later, rfl, none, laterCode⟩ : ∃ earlier later,
        segments = earlier ++ .code character :: later ∧ codeOf earlier = [] ∧
          codeOf later = word ++ back :=
      exists_of_codeOf_eq quoted (bare character List.mem_cons_self) same
    obtain rfl := eq_nil_of_codeOf_eq_nil none
    obtain ⟨behind, rfl, behindCode⟩ := inductionHypothesis quoted.tail
      (fun other member => bare other (List.mem_cons_of_mem _ member)) laterCode
    exact ⟨behind, rfl, behindCode⟩

/-- A bare character stands in the code when it is a segment. -/
theorem mem_codeOf_iff {segments : List Segment} {character : Char} (quoted : Quoted segments)
    (bare : Bare character) : character ∈ codeOf segments ↔ .code character ∈ segments := by
  constructor
  · intro member
    obtain ⟨segment, inSegments, inBlanked⟩ := List.mem_flatMap.1 member
    rwa [← eq_code_of_mem_blanked
      (quoted.sublist (List.singleton_sublist.2 inSegments)) bare inBlanked]
  · intro member
    exact List.mem_flatMap.2 ⟨_, member, List.mem_cons_self⟩

/-- When a bare character ends the code, it is the last of the segments. -/
theorem getLast?_codeOf {segments : List Segment} {character : Char} (quoted : Quoted segments)
    (bare : Bare character) :
    (codeOf segments).getLast? = some character ↔ segments.getLast? = some (.code character) := by
  rcases List.eq_nil_or_concat segments with rfl | ⟨front, last, rfl⟩
  · simp
  · have lastCode : (codeOf (front.concat last)).getLast? = last.blanked.getLast? := by
      rw [List.concat_eq_append, codeOf_append, codeOf_cons, codeOf_nil, List.append_nil,
        List.getLast?_append_of_ne_nil _ last.blanked_ne_nil]
    rw [lastCode, List.concat_eq_append, List.getLast?_concat, Option.some.injEq]
    constructor
    · intro ends
      refine eq_code_of_mem_blanked (quoted.sublist ?_) bare (List.mem_of_getLast? ends)
      exact List.singleton_sublist.2 (by simp)
    · rintro rfl
      rfl

/-! ### What is passed over -/

/-- The segment is a comment, or a blank outside comments and literals. -/
def Segment.isPassed : Segment → Bool
  | .code character => isBlank character
  | .lineComment _ | .blockComment _ _ => true
  | .literal _ _ _ => false

theorem Segment.blank_blanked {segment : Segment} (passed : segment.isPassed = true) :
    Blank segment.blanked := by
  intro character member
  cases segment with
  | code other =>
    rw [List.mem_singleton.1 member]
    exact passed
  | lineComment inside =>
    simp only [Segment.blanked, List.mem_cons] at member
    rcases member with rfl | rfl | inInside
    · rfl
    · rfl
    · exact isBlank_of_mem_blankedText inInside
  | blockComment inside closed =>
    simp only [Segment.blanked, List.mem_cons, List.mem_append] at member
    rcases member with rfl | rfl | inInside | inClosing
    · rfl
    · rfl
    · exact isBlank_of_mem_blankedText inInside
    · cases closed with
      | true => rw [List.eq_of_mem_replicate (n := 2) inClosing]; rfl
      | false => exact absurd inClosing List.not_mem_nil
  | literal quote inside closed => cases passed

/-- A segment that is not passed over starts with a character that is no blank, and it does so in
the code as well. -/
theorem Segment.exists_of_not_isPassed {segment : Segment} (quoted : Quoted [segment])
    (shown : segment.isPassed = false) : ∃ character behind blankedBehind,
      isBlank character = false ∧ segment.text = character :: behind ∧
      segment.blanked = character :: blankedBehind := by
  cases segment with
  | code character => exact ⟨character, [], [], shown, rfl, rfl⟩
  | lineComment inside => cases shown
  | blockComment inside closed => cases shown
  | literal quote inside closed =>
    refine ⟨quote, _, _, ?_, rfl, rfl⟩
    rcases isQuote_iff.1 (quoted List.mem_cons_self) with rfl | rfl <;> rfl

/-- The blanks at the front of the code are the code of the segments that are passed over. -/
theorem takeWhile_codeOf {segments : List Segment} (quoted : Quoted segments) :
    (codeOf segments).takeWhile isBlank = codeOf (segments.takeWhile Segment.isPassed) := by
  induction segments with
  | nil => rfl
  | cons segment rest inductionHypothesis =>
    cases passed : segment.isPassed with
    | true =>
      rw [List.takeWhile_cons_of_pos passed, codeOf_cons, codeOf_cons,
        List.takeWhile_append_of_pos (Segment.blank_blanked passed), inductionHypothesis quoted.tail]
    | false =>
      obtain ⟨character, -, behind, notBlank, -, blanked⟩ := Segment.exists_of_not_isPassed
        (quoted.sublist (List.singleton_sublist.2 List.mem_cons_self)) passed
      rw [List.takeWhile_cons_of_neg (by simp [passed]), codeOf_cons, blanked, List.cons_append,
        List.takeWhile_cons_of_neg (by simp [notBlank]), codeOf_nil]

/-- The code of segments is blank when all of them are passed over. -/
theorem blank_codeOf_iff {segments : List Segment} (quoted : Quoted segments) :
    Blank (codeOf segments) ↔ ∀ segment ∈ segments, segment.isPassed = true := by
  constructor
  · intro blank segment member
    cases passed : segment.isPassed with
    | true => rfl
    | false =>
      obtain ⟨character, -, behind, notBlank, -, blanked⟩ := Segment.exists_of_not_isPassed
        (quoted.sublist (List.singleton_sublist.2 member)) passed
      have isBlank := blank character (List.mem_flatMap.2
        ⟨segment, member, by rw [blanked]; exact List.mem_cons_self⟩)
      rw [notBlank] at isBlank
      cases isBlank
  · intro passed character member
    obtain ⟨segment, inSegments, inBlanked⟩ := List.mem_flatMap.1 member
    exact Segment.blank_blanked (passed segment inSegments) character inBlanked

/-! ### What stands between separators -/

/-- The code is cut at a bare character where the segments are. -/
theorem split_codeOf {segments : List Segment} {separator : Char} (quoted : Quoted segments)
    (bare : Bare separator) : Text.split separator (codeOf segments) =
      (segments.splitOn (.code separator)).map codeOf := by
  induction segments with
  | nil => rfl
  | cons segment rest inductionHypothesis =>
    have restSplit := inductionHypothesis quoted.tail
    rw [List.splitOn] at restSplit ⊢
    rw [List.splitOnP_cons_eq_if_modifyHead, codeOf_cons]
    by_cases separates : segment = .code separator
    · subst separates
      rw [if_pos (by simp), List.map_cons, ← restSplit]
      exact Text.split_append_cons separator [] (codeOf rest)
    · rw [if_neg (by simpa using separates), Text.split, pieces_append, ← Text.split, restSplit]
      · cases List.splitOnP (· == Segment.code separator) rest <;> rfl
      · intro character member
        refine beq_false_of_ne ?_
        rintro rfl
        exact separates (eq_code_of_mem_blanked
          (quoted.sublist (List.singleton_sublist.2 List.mem_cons_self)) bare member)

end KernelExport.SourceText
