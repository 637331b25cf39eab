/-
This file says that what stands inside comments and literals has no part in the declaration that is
read.

What stands outside is told by marks (`Mark`): the characters of code, and what opens and closes
comments and literals. Two sources that take the same number of bytes, and have the same marks and
line feeds at the same byte offsets, can differ in nothing but what stands inside comments and
literals; they are blanked to one text, so the same is read from both, be it a declaration or a fault,
with every offset (`read_eq_of_marks`).

The offsets of the marks tell how many bytes each inside takes, since another mark stands behind it,
unless it goes on to the end of the source. So the segments of the two sources correspond one by one
(`blanked_eq_of_marks`), and the blanked inside depends on nothing but its size and its line feeds
(`blankedText_eq`).
-/

import KernelExport.Proofs.Segments

namespace KernelExport

open Text

namespace SourceText

/-! ### Line feeds -/

/-- The byte offsets of the line feeds in a text that stands at a byte offset. -/
def lineFeeds (offset : Nat) : List Char → List Nat
  | [] => []
  | character :: rest =>
    (if character = '\n' then [offset] else []) ++ lineFeeds (offset + character.utf8Size) rest

theorem lineFeeds_append (offset : Nat) (first second : List Char) :
    lineFeeds offset (first ++ second) =
      lineFeeds offset first ++ lineFeeds (offset + byteSize first) second := by
  induction first generalizing offset with
  | nil => rfl
  | cons character first inductionHypothesis =>
    rw [List.cons_append, lineFeeds, inductionHypothesis, lineFeeds, byteSize_cons, Nat.add_assoc,
      List.append_assoc]

/-- The line feeds of a text lie within it. -/
theorem bounds_of_mem_lineFeeds {offset place : Nat} {text : List Char}
    (member : place ∈ lineFeeds offset text) : offset ≤ place ∧ place < offset + byteSize text := by
  induction text generalizing offset with
  | nil => simp [lineFeeds] at member
  | cons character text inductionHypothesis =>
    have positive := character.utf8Size_pos
    rw [byteSize_cons]
    rcases List.mem_append.1 member with here | later
    · split at here
      · obtain rfl := List.mem_singleton.1 here
        omega
      · exact absurd here List.not_mem_nil
    · have bounds := inductionHypothesis later
      omega

/-- The line feeds of two texts of one size can be told from those of what follows. -/
theorem lineFeeds_cancel {offset : Nat} {first second rest other : List Char}
    (size : byteSize first = byteSize second)
    (same : lineFeeds offset (first ++ rest) = lineFeeds offset (second ++ other)) :
    lineFeeds offset first = lineFeeds offset second ∧
      lineFeeds (offset + byteSize first) rest = lineFeeds (offset + byteSize second) other := by
  have front : ∀ text behind : List Char, byteSize text = byteSize first →
      (lineFeeds offset (text ++ behind)).filter (· < offset + byteSize first) =
        lineFeeds offset text := by
    intro text behind sameSize
    rw [lineFeeds_append, List.filter_append, List.filter_eq_self.2, List.filter_eq_nil_iff.2,
      List.append_nil]
    · intro place member
      have bounds := bounds_of_mem_lineFeeds member
      simp only [decide_eq_true_eq]
      omega
    · intro place member
      have bounds := bounds_of_mem_lineFeeds member
      simp only [decide_eq_true_eq]
      omega
  have fronts : lineFeeds offset first = lineFeeds offset second := by
    rw [← front first rest rfl, ← front second other size.symm, same]
  refine ⟨fronts, ?_⟩
  rw [lineFeeds_append, lineFeeds_append, fronts] at same
  exact List.append_cancel_left same

/-- A blanked text holds line feeds where they stood, and spaces otherwise. -/
theorem getElem?_blankedText (offset : Nat) (text : List Char) (position : Nat) :
    (blankedText text)[position]? = if position < byteSize text then
      some (if offset + position ∈ lineFeeds offset text then '\n' else ' ') else none := by
  induction text generalizing offset position with
  | nil => simp
  | cons character text inductionHypothesis =>
    have later : ∀ place ∈ lineFeeds (offset + character.utf8Size) text,
        offset + character.utf8Size ≤ place := fun place member => (bounds_of_mem_lineFeeds member).1
    by_cases lineFeed : character = '\n'
    · subst lineFeed
      have one : Char.utf8Size '\n' = 1 := rfl
      cases position with
      | zero => simp [blanked, lineFeeds, one]
      | succ position =>
        have shifted : offset + (position + 1) = offset + 1 + position := by omega
        simp only [blankedText_cons, blanked, if_true, List.singleton_append,
          List.getElem?_cons_succ, byteSize_cons, one, lineFeeds, List.mem_cons,
          inductionHypothesis (offset + 1), shifted]
        simp only [show ¬ offset + 1 + position = offset by omega, false_or,
          show position + 1 < 1 + byteSize text ↔ position < byteSize text by omega]
    · by_cases inside : position < character.utf8Size
      · have notLater : offset + position ∉ lineFeeds (offset + character.utf8Size) text :=
          fun member => absurd (later _ member) (by omega)
        simp [blanked, lineFeeds, lineFeed, inside, notLater, List.getElem?_append]
        omega
      · have shifted : offset + character.utf8Size + (position - character.utf8Size) =
          offset + position := by omega
        simp only [blankedText_cons, blanked, if_neg lineFeed, lineFeeds, List.nil_append,
          byteSize_cons, List.getElem?_append, List.length_replicate, if_neg inside,
          inductionHypothesis (offset + character.utf8Size), shifted,
          show position - character.utf8Size < byteSize text ↔
            position < character.utf8Size + byteSize text by omega]

/-- What is left of an inside when it is blanked is its size and its line feeds. -/
theorem blankedText_eq {offset : Nat} {first second : List Char}
    (size : byteSize first = byteSize second)
    (same : lineFeeds offset first = lineFeeds offset second) :
    blankedText first = blankedText second := by
  refine List.ext_getElem? fun position => ?_
  rw [getElem?_blankedText offset, getElem?_blankedText offset, size, same]

/-! ### Marks -/

/-- What a source holds outside comments and literals, their delimiters included. -/
inductive Mark where
  | code (character : Char)
  | lineComment
  | blockComment
  | blockCommentEnd
  | literal (quote : Char)
  | literalEnd (quote : Char)
  deriving DecidableEq, Repr

/-- A mark as it is written. -/
def Mark.text : Mark → List Char
  | .code character => [character]
  | .lineComment => ['/', '/']
  | .blockComment => ['/', '*']
  | .blockCommentEnd => ['*', '/']
  | .literal quote | .literalEnd quote => [quote]

/-- A mark as it is blanked: those of comments become spaces. -/
def Mark.blanked : Mark → List Char
  | .code character => [character]
  | .lineComment | .blockComment | .blockCommentEnd => [' ', ' ']
  | .literal quote | .literalEnd quote => [quote]

/-- The mark closes a comment or a literal. -/
def Mark.Closes : Mark → Prop
  | .blockCommentEnd | .literalEnd _ => True
  | _ => False

namespace Segment

/-- The mark at the front of a segment. -/
def opening : Segment → Mark
  | .code character => .code character
  | .lineComment _ => .lineComment
  | .blockComment _ _ => .blockComment
  | .literal quote _ _ => .literal quote

/-- What stands inside the comment or the literal. -/
def inside : Segment → List Char
  | .code _ => []
  | .lineComment inside | .blockComment inside _ | .literal _ inside _ => inside

/-- The mark at the end of a segment, if it is closed by one. -/
def closing : Segment → Option Mark
  | .blockComment _ true => some .blockCommentEnd
  | .literal quote _ true => some (.literalEnd quote)
  | _ => none

/-- A segment as it is written. -/
def text (segment : Segment) : List Char :=
  segment.opening.text ++ (segment.inside ++ segment.closing.elim [] Mark.text)

theorem blanked_eq (segment : Segment) : segment.blanked =
    segment.opening.blanked ++ (blankedText segment.inside ++ segment.closing.elim [] Mark.blanked) := by
  match segment with
  | .code _ => rfl
  | .lineComment _ => simp [Segment.blanked, opening, inside, closing, Mark.blanked]
  | .blockComment _ true | .blockComment _ false => rfl
  | .literal _ _ true | .literal _ _ false => rfl

theorem not_closes_opening (segment : Segment) : ¬ segment.opening.Closes := by
  cases segment <;> exact id

theorem closes_of_closing {segment : Segment} {mark : Mark} (closed : segment.closing = some mark) :
    mark.Closes := by
  match segment with
  | .code _ | .lineComment _ | .blockComment _ false | .literal _ _ false => cases closed
  | .blockComment _ true | .literal _ _ true =>
    obtain rfl := Option.some.inj closed
    trivial

end Segment

/-- The segments of a source, one behind the other, are the source. -/
theorem text_of_divides {segments : List Segment} {source : List Char}
    (divides : Divides segments source) : source = segments.flatMap Segment.text := by
  induction divides with
  | nil => rfl
  | code _ _ _ inductionHypothesis | lineComment _ _ _ inductionHypothesis
  | blockComment _ _ inductionHypothesis | literal _ _ _ inductionHypothesis
  | openLiteral _ _ _ _ inductionHypothesis =>
    rw [List.flatMap_cons, ← inductionHypothesis]
    simp [Segment.text, Segment.opening, Segment.inside, Segment.closing, Mark.text]
  | openComment | unfinished =>
    simp [Segment.text, Segment.opening, Segment.inside, Segment.closing, Mark.text]

/-- The marks of segments with their byte offsets, when the first segment starts at an offset. -/
def marks (offset : Nat) : List Segment → List (Nat × Mark)
  | [] => []
  | segment :: rest =>
    let ending := offset + byteSize segment.opening.text + byteSize segment.inside
    (offset, segment.opening) :: (segment.closing.toList.map (ending, ·) ++
      marks (ending + byteSize (segment.closing.elim [] Mark.text)) rest)

/-- Segments do not start with a mark that closes. -/
theorem marks_ne_closing {offset place : Nat} {mark : Mark} (closes : mark.Closes)
    (segments : List Segment) (others : List (Nat × Mark)) :
    marks offset segments ≠ (place, mark) :: others := by
  intro same
  cases segments with
  | nil => cases same
  | cons segment rest =>
    obtain ⟨rfl, rfl⟩ := Prod.mk.inj (List.cons.inj same).1
    exact segment.not_closes_opening closes

/-- Where the marks of two segments agree with those of what follows, or end with the sources, the
insides are of one size and the segments are closed alike. -/
theorem inside_of_marks {offset : Nat} {segment counterpart : Segment} {rest others : List Segment}
    (sameMarks : marks offset (segment :: rest) = marks offset (counterpart :: others))
    (sameSize : byteSize ((segment :: rest).flatMap Segment.text) =
      byteSize ((counterpart :: others).flatMap Segment.text)) :
    segment.opening = counterpart.opening ∧
      byteSize segment.inside = byteSize counterpart.inside ∧
      segment.closing = counterpart.closing := by
  simp only [marks, List.cons.injEq, Prod.mk.injEq, true_and] at sameMarks
  obtain ⟨sameOpening, sameRest⟩ := sameMarks
  simp only [List.flatMap_cons, byteSize_append, Segment.text, sameOpening] at sameSize
  rw [sameOpening] at sameRest
  cases closing : segment.closing with
  | some mark =>
    have closes := Segment.closes_of_closing closing
    cases otherClosing : counterpart.closing with
    | none =>
      simp only [closing, otherClosing, Option.toList, List.map_nil, List.nil_append, List.map_cons,
        List.cons_append] at sameRest
      exact absurd sameRest.symm (marks_ne_closing closes _ _)
    | some other =>
      simp only [closing, otherClosing, Option.toList, List.map_nil, List.nil_append, List.map_cons,
        List.cons_append, List.cons.injEq, Prod.mk.injEq] at sameRest
      exact ⟨sameOpening, by omega, by rw [sameRest.1.2]⟩
  | none =>
    cases otherClosing : counterpart.closing with
    | some other =>
      simp only [closing, otherClosing, Option.toList, List.map_nil, List.nil_append, List.map_cons,
        List.cons_append] at sameRest
      exact absurd sameRest (marks_ne_closing (Segment.closes_of_closing otherClosing) _ _)
    | none =>
      simp only [closing, otherClosing, Option.toList, List.map_nil, List.nil_append,
        Option.elim_none, byteSize_nil] at sameRest sameSize
      refine ⟨sameOpening, ?_, rfl⟩
      -- The next mark tells where the inside ends, or it goes on to the end of the source.
      cases rest with
      | nil =>
        cases others with
        | nil => simpa using sameSize
        | cons next more => cases sameRest
      | cons next more =>
        cases others with
        | nil => cases sameRest
        | cons other others =>
          have sameOffset := (Prod.mk.inj (List.cons.inj sameRest).1).1
          omega

/-- Segments with the same marks and line feeds at the same offsets become the same when they are
blanked. -/
theorem blanked_eq_of_marks {offset : Nat} {segments others : List Segment}
    (sameMarks : marks offset segments = marks offset others)
    (sameLineFeeds : lineFeeds offset (segments.flatMap Segment.text) =
      lineFeeds offset (others.flatMap Segment.text))
    (sameSize : byteSize (segments.flatMap Segment.text) = byteSize (others.flatMap Segment.text)) :
    segments.flatMap Segment.blanked = others.flatMap Segment.blanked := by
  induction segments generalizing offset others with
  | nil =>
    cases others with
    | nil => rfl
    | cons _ _ => cases sameMarks
  | cons segment rest inductionHypothesis =>
    cases others with
    | nil => cases sameMarks
    | cons counterpart others =>
      obtain ⟨sameOpening, sameInside, sameClosing⟩ := inside_of_marks sameMarks sameSize
      have sameLength : byteSize segment.text = byteSize counterpart.text := by
        simp only [Segment.text, byteSize_append, sameOpening, sameInside, sameClosing]
      rw [List.flatMap_cons, List.flatMap_cons] at sameLineFeeds
      obtain ⟨within, behind⟩ := lineFeeds_cancel sameLength sameLineFeeds
      have blankedInside : blankedText segment.inside = blankedText counterpart.inside := by
        rw [Segment.text, Segment.text, sameOpening] at within
        exact blankedText_eq sameInside (lineFeeds_cancel sameInside (lineFeeds_cancel rfl within).2).1
      rw [List.flatMap_cons, List.flatMap_cons, Segment.blanked_eq, Segment.blanked_eq counterpart,
        sameOpening, blankedInside, sameClosing]
      congr 1
      have marksBehind : marks (offset + byteSize counterpart.text) rest =
          marks (offset + byteSize counterpart.text) others := by
        simp only [marks, List.cons.injEq, sameOpening, sameInside, sameClosing, true_and,
          List.append_cancel_left_eq] at sameMarks
        simpa only [Segment.text, byteSize_append, ← Nat.add_assoc] using sameMarks
      refine inductionHypothesis marksBehind ?_ ?_
      · rwa [sameLength] at behind
      · rw [List.flatMap_cons, List.flatMap_cons, byteSize_append, byteSize_append, sameLength]
          at sameSize
        omega

end SourceText

namespace Declaration

open SourceText

/-- What stands inside comments and literals has no part in what is read. -/
theorem read_eq_of_marks {first second : String} {segments others : List Segment}
    (divides : Divides segments first.toList) (otherDivides : Divides others second.toList)
    (sameMarks : marks 0 segments = marks 0 others)
    (sameLineFeeds : lineFeeds 0 first.toList = lineFeeds 0 second.toList)
    (sameSize : byteSize first.toList = byteSize second.toList) : read first = read second := by
  have sameCode : blank first.toList = blank second.toList := by
    rw [blank_of_divides divides, blank_of_divides otherDivides]
    rw [text_of_divides divides, text_of_divides otherDivides] at sameLineFeeds sameSize
    exact blanked_eq_of_marks sameMarks sameLineFeeds sameSize
  rw [read, read, sameCode]

/-- The characters of a source with a literal, a comment and a comment to the end of the line. -/
def crowdedText (literal comment line : String) : List Char :=
  "s = ".toList ++ '\x22' :: (literal.toList ++ '\x22' :: ("; ".toList ++
    '/' :: '*' :: (comment.toList ++ '*' :: '/' :: (" A3_KERNEL(a3in_t a) ".toList ++
      '/' :: '/' :: (line.toList ++ ['\n'])))))

def crowded (literal comment line : String) : String :=
  String.ofList (crowdedText literal comment line)

theorem toList_crowded (literal comment line : String) :
    (crowded literal comment line).toList = crowdedText literal comment line :=
  String.toList_ofList

theorem divides_crowded {literal comment line : String} (inside : Inside '\x22' literal.toList)
    (unclosed : Unclosed comment.toList) (oneLine : '\n' ∉ line.toList) :
    Divides ("s = ".toList.map .code ++ .literal '\x22' literal.toList true ::
      ("; ".toList.map .code ++ .blockComment comment.toList true ::
        (" A3_KERNEL(a3in_t a) ".toList.map .code ++ [.lineComment line.toList, .code '\n'])))
      (crowded literal comment line).toList := by
  have lineEnd : Divides [.code '\n'] ['\n'] :=
    .code rfl (fun slash => absurd slash (by decide)) .nil
  have declared := (Divides.lineComment oneLine (startsLine_cons.2 rfl) lineEnd).behind
    (by decide : " A3_KERNEL(a3in_t a) ".toList.all isPlain = true)
  have commented := (Divides.blockComment unclosed declared).behind
    (by decide : "; ".toList.all isPlain = true)
  rw [toList_crowded]
  exact (Divides.literal rfl inside commented).behind (by decide : "s = ".toList.all isPlain = true)

/-- Quotes, parentheses, the openings of comments and a declaration may stand inside. -/
theorem read_eq_of_marks_crowded :
    read (crowded "é)\\\"" " A3_KERNEL( " " b,") =
      read (crowded "//(/*" "/*** \"',()**" "é\"") := by
  have first : Inside '\x22' "é)\\\"".toList :=
    .plain (by decide) (by decide) (by decide)
      (.plain (by decide) (by decide) (by decide) (.escape .nil))
  have second : Inside '\x22' "//(/*".toList :=
    .plain (by decide) (by decide) (by decide) (.plain (by decide) (by decide) (by decide)
      (.plain (by decide) (by decide) (by decide) (.plain (by decide) (by decide) (by decide)
        (.plain (by decide) (by decide) (by decide) .nil))))
  refine read_eq_of_marks
    (divides_crowded first (by decide +kernel : Unclosed " A3_KERNEL( ".toList)
      (by decide : '\n' ∉ " b,".toList))
    (divides_crowded second (by decide +kernel : Unclosed "/*** \"',()**".toList)
      (by decide : '\n' ∉ "é\"".toList))
    (by decide +kernel) ?_ ?_ <;> rw [toList_crowded, toList_crowded]
  · decide +kernel
  · decide +kernel

end Declaration

end KernelExport
