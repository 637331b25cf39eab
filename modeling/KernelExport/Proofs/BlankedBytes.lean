/-
This file says which bytes of a source are blanked.

A comment is blanked with its marks, and of a literal what stands between its quotes
(`Segment.hidden`); so the bytes that are blanked lie in ranges, one for each segment
(`hiddenRanges`). In these every byte becomes a space, but for line feeds, and all other bytes stay
what they are (`getElem?_encode_codeOf`). No byte is added or taken away: a character becomes as many
spaces as it takes bytes, and none of its bytes is that of a line feed unless it is one itself
(`lineFeed_mem_encode_iff`).
-/

import KernelExport.Proofs.ByteOrder
import KernelExport.Proofs.Divisions
import KernelExport.Proofs.SegmentCode

namespace KernelExport.SourceText

open Text

/-! ### The bytes of blanked characters -/

/-- The bytes of a text in UTF-8. -/
def encode (text : List Char) : List UInt8 :=
  text.flatMap String.utf8EncodeChar

@[simp] theorem encode_append (first second : List Char) :
    encode (first ++ second) = encode first ++ encode second :=
  List.flatMap_append

theorem encode_cons (character : Char) (rest : List Char) :
    encode (character :: rest) = String.utf8EncodeChar character ++ encode rest := rfl

theorem length_encode (text : List Char) : (encode text).length = byteSize text := by
  induction text with
  | nil => rfl
  | cons character rest inductionHypothesis =>
    rw [encode_cons, List.length_append, inductionHypothesis, String.length_utf8EncodeChar,
      byteSize_cons]

/-- The byte of a line feed is part of no other character. -/
theorem lineFeed_mem_encode_iff {character : Char} :
    '\n'.toUInt8 ∈ String.utf8EncodeChar character ↔ character = '\n' := by
  constructor
  · intro member
    have bound : character.val.toNat < 0x110000 := character.valid.elim (by omega) (by omega)
    have isFeed : character.val.toNat = 10 := by
      have feed : '\n'.toUInt8.toNat = 10 := rfl
      simp only [String.utf8EncodeChar] at member
      generalize character.val.toNat = code at *
      split_ifs at member
      -- The bytes of a character that takes several are not less than 128.
      all_goals
        simp only [List.mem_cons, List.not_mem_nil, or_false, ← UInt8.toNat_inj,
          UInt8.toNat_ofNat', feed] at member
        omega
    exact Char.ext (UInt32.toNat_inj.1 isFeed)
  · rintro rfl
    decide

/-- What a byte becomes that is blanked. -/
def blankedByte (byte : UInt8) : UInt8 :=
  if byte = '\n'.toUInt8 then byte else ' '.toUInt8

theorem encode_blanked (character : Char) :
    encode (blanked character) = (String.utf8EncodeChar character).map blankedByte := by
  rw [blanked]
  split
  · rename_i lineFeed
    rw [lineFeed]
    rfl
  · rename_i other
    have space : String.utf8EncodeChar ' ' = [' '.toUInt8] := rfl
    have spaces : encode (List.replicate character.utf8Size ' ') =
        List.replicate character.utf8Size ' '.toUInt8 := by
      rw [encode, List.flatMap_replicate, space]
      simp
    rw [spaces, eq_comm, List.eq_replicate_iff, List.length_map, String.length_utf8EncodeChar]
    refine ⟨rfl, fun byte member => ?_⟩
    obtain ⟨original, inCode, rfl⟩ := List.mem_map.1 member
    rw [blankedByte, if_neg]
    rintro rfl
    exact other (lineFeed_mem_encode_iff.1 inCode)

theorem encode_blankedText (text : List Char) :
    encode (blankedText text) = (encode text).map blankedByte := by
  induction text with
  | nil => rfl
  | cons character rest inductionHypothesis =>
    rw [blankedText_cons, encode_append, encode_blanked, inductionHypothesis, encode_cons,
      List.map_append]

/-! ### The bytes of blanked segments -/

namespace Segment

/-- What stands in front of the hidden part of a segment. -/
def front : Segment → List Char
  | .code character => [character]
  | .literal quote _ _ => [quote]
  | .lineComment _ | .blockComment _ _ => []

/-- The part of a segment that is blanked: a comment with its marks, or the inside of a literal. -/
def hidden : Segment → List Char
  | .code _ => []
  | .literal _ inside _ => inside
  | .lineComment inside => '/' :: '/' :: inside
  | .blockComment inside closed => '/' :: '*' :: (inside ++ if closed then ['*', '/'] else [])

/-- What stands behind the hidden part of a segment. -/
def back : Segment → List Char
  | .literal quote _ true => [quote]
  | _ => []

theorem text_eq (segment : Segment) :
    segment.text = segment.front ++ (segment.hidden ++ segment.back) := by
  match segment with
  | .code _ | .lineComment _ | .blockComment _ true | .blockComment _ false
  | .literal _ _ true | .literal _ _ false =>
    simp [text, opening, inside, closing, Mark.text, front, hidden, back]

theorem blanked_eq_hidden (segment : Segment) :
    segment.blanked = segment.front ++ (blankedText segment.hidden ++ segment.back) := by
  have slash : SourceText.blanked '/' = [' '] := rfl
  have star : SourceText.blanked '*' = [' '] := rfl
  match segment with
  | .code _ | .lineComment _ | .blockComment _ true | .blockComment _ false
  | .literal _ _ true | .literal _ _ false =>
    simp [Segment.blanked, front, hidden, back, slash, star]

theorem byteSize_blanked_eq (segment : Segment) :
    byteSize segment.blanked = byteSize segment.text := by
  rw [blanked_eq_hidden, text_eq]
  simp only [byteSize_append, byteSize_blankedText]

/-- Of the bytes of a segment those of its hidden part are blanked. -/
theorem getElem?_encode_blanked (segment : Segment) (place : Nat) :
    (encode segment.blanked)[place]? = (encode segment.text)[place]?.map fun byte =>
      if byteSize segment.front ≤ place ∧ place < byteSize segment.front + byteSize segment.hidden
      then blankedByte byte else byte := by
  rw [blanked_eq_hidden, text_eq]
  simp only [encode_append, encode_blankedText, List.getElem?_append, List.length_map,
    length_encode, List.getElem?_map]
  by_cases inFront : place < byteSize segment.front
  · simp [if_pos inFront, Nat.not_le.2 inFront]
  · rw [if_neg inFront, if_neg inFront]
    by_cases inHidden : place - byteSize segment.front < byteSize segment.hidden
    · have covered : byteSize segment.front ≤ place ∧
          place < byteSize segment.front + byteSize segment.hidden := by omega
      simp only [if_pos inHidden, if_pos covered]
    · have behind : ¬(byteSize segment.front ≤ place ∧
          place < byteSize segment.front + byteSize segment.hidden) := by omega
      simp only [if_neg inHidden, if_neg behind, Option.map_id']

end Segment

/-- The ranges of the byte offsets that are blanked, one for each segment, when the first segment
starts at a byte offset: from the first number up to but not including the second. -/
def hiddenRanges (offset : Nat) : List Segment → List (Nat × Nat)
  | [] => []
  | segment :: rest =>
    let start := offset + byteSize segment.front
    (start, start + byteSize segment.hidden) :: hiddenRanges (offset + byteSize segment.text) rest

/-- One of the ranges holds the offset. -/
def Covers (ranges : List (Nat × Nat)) (place : Nat) : Prop :=
  ∃ range ∈ ranges, range.1 ≤ place ∧ place < range.2

instance (ranges : List (Nat × Nat)) (place : Nat) : Decidable (Covers ranges place) :=
  inferInstanceAs (Decidable (∃ range ∈ ranges, _))

theorem covers_cons {range : Nat × Nat} {ranges : List (Nat × Nat)} {place : Nat} :
    Covers (range :: ranges) place ↔ range.1 ≤ place ∧ place < range.2 ∨ Covers ranges place := by
  simp [Covers]

theorem le_of_covers {offset place : Nat} {segments : List Segment}
    (covers : Covers (hiddenRanges offset segments) place) : offset ≤ place := by
  induction segments generalizing offset with
  | nil =>
    obtain ⟨_, member, -⟩ := covers
    cases member
  | cons segment rest inductionHypothesis =>
    rcases covers_cons.1 covers with ⟨starts, -⟩ | later
    · exact (Nat.le_add_right _ _).trans starts
    · exact (Nat.le_add_right _ _).trans (inductionHypothesis later)

/-- Of the bytes of segments those in the hidden ranges are blanked. -/
theorem getElem?_encode_codeOf (offset : Nat) (segments : List Segment) (place : Nat) :
    (encode (codeOf segments))[place]? =
      (encode (segments.flatMap Segment.text))[place]?.map fun byte =>
        if Covers (hiddenRanges offset segments) (offset + place) then blankedByte byte else byte := by
  induction segments generalizing offset place with
  | nil => rfl
  | cons segment rest inductionHypothesis =>
    have size : byteSize segment.text =
        byteSize segment.front + (byteSize segment.hidden + byteSize segment.back) := by
      rw [segment.text_eq, byteSize_append, byteSize_append]
    rw [codeOf_cons, List.flatMap_cons, encode_append, encode_append]
    by_cases inSegment : place < byteSize segment.text
    · have notLater : ¬Covers (hiddenRanges (offset + byteSize segment.text) rest)
          (offset + place) := fun later => absurd (le_of_covers later) (by omega)
      rw [List.getElem?_append_left (by rwa [length_encode, segment.byteSize_blanked_eq]),
        List.getElem?_append_left (by rwa [length_encode]), segment.getElem?_encode_blanked]
      simp only [hiddenRanges, covers_cons, notLater, or_false, Nat.add_le_add_iff_left,
        Nat.add_assoc, Nat.add_lt_add_iff_left]
    · have notHere : ¬(offset + byteSize segment.front ≤ offset + place ∧
          offset + place < offset + byteSize segment.front + byteSize segment.hidden) := by omega
      have shifted : offset + byteSize segment.text + (place - byteSize segment.text) =
          offset + place := by omega
      rw [List.getElem?_append_right (by rw [length_encode, segment.byteSize_blanked_eq]; omega),
        List.getElem?_append_right (by rw [length_encode]; omega), length_encode, length_encode,
        segment.byteSize_blanked_eq, inductionHypothesis (offset + byteSize segment.text), shifted]
      simp only [hiddenRanges, covers_cons, notHere, false_or]

/-! ### The bytes of blanked sources -/

/-- The bytes of a source that has been blanked. -/
def codeBytes (source : String) : List UInt8 :=
  bytes (String.ofList (blank source.toList))

section Divided

variable {segments : List Segment} {source : String} (divides : Divides segments source.toList)

include divides

theorem codeBytes_eq : codeBytes source = encode (codeOf segments) := by
  rw [codeBytes, bytes_eq_flatMap, String.toList_ofList, blank_of_divides divides]
  rfl

theorem bytes_eq : bytes source = encode (segments.flatMap Segment.text) := by
  rw [bytes_eq_flatMap, text_of_divides divides]
  rfl

theorem length_codeBytes : (codeBytes source).length = (bytes source).length := by
  rw [codeBytes_eq divides, bytes_eq divides, length_encode, length_encode, byteSize_codeOf, size]

theorem getElem?_codeBytes (place : Nat) :
    (codeBytes source)[place]? = (bytes source)[place]?.map fun byte =>
      if Covers (hiddenRanges 0 segments) place ∧ byte ≠ '\n'.toUInt8 then ' '.toUInt8 else byte := by
  rw [codeBytes_eq divides, bytes_eq divides, getElem?_encode_codeOf 0, Nat.zero_add]
  congr 1
  funext byte
  by_cases covered : Covers (hiddenRanges 0 segments) place <;>
    by_cases lineFeed : byte = '\n'.toUInt8 <;> simp [blankedByte, covered, lineFeed]

theorem lineFeed_codeBytes_iff (place : Nat) :
    (codeBytes source)[place]? = some '\n'.toUInt8 ↔ (bytes source)[place]? = some '\n'.toUInt8 := by
  have space : ' '.toUInt8 ≠ '\n'.toUInt8 := by decide
  rw [getElem?_codeBytes divides]
  cases (bytes source)[place]? with
  | none => rfl
  | some byte =>
    rw [Option.map_some, Option.some.injEq, Option.some.injEq]
    split
    · rename_i becomesSpace
      exact iff_of_false space becomesSpace.2
    · rfl

theorem codeBytes_eq_or_space (place : Nat) :
    (codeBytes source)[place]? = (bytes source)[place]? ∨
      (codeBytes source)[place]? = some ' '.toUInt8 := by
  rw [getElem?_codeBytes divides]
  cases (bytes source)[place]? with
  | none => exact .inl rfl
  | some byte =>
    rw [Option.map_some]
    split
    · exact .inr rfl
    · exact .inl rfl

end Divided

/-- Every source is divided into segments in one way, and blanking keeps every byte in its place: of the
bytes in the hidden ranges of the segments each becomes a space, unless it is a line feed, and all
others stay what they are. -/
theorem codeBytes_of_divides (source : String) :
    (∃! segments, Divides segments source.toList) ∧
    ∀ segments, Divides segments source.toList →
      (codeBytes source).length = (bytes source).length ∧
      (∀ place : Nat, (codeBytes source)[place]? = (bytes source)[place]? ∨
        (codeBytes source)[place]? = some ' '.toUInt8) ∧
      (∀ place : Nat, (codeBytes source)[place]? = some '\n'.toUInt8 ↔
        (bytes source)[place]? = some '\n'.toUInt8) ∧
      ∀ place : Nat, (codeBytes source)[place]? = (bytes source)[place]?.map fun byte =>
        if Covers (hiddenRanges 0 segments) place ∧ byte ≠ '\n'.toUInt8 then ' '.toUInt8
        else byte :=
  ⟨existsUnique_divides source.toList, fun _ divides =>
    ⟨length_codeBytes divides, codeBytes_eq_or_space divides, lineFeed_codeBytes_iff divides,
      getElem?_codeBytes divides⟩⟩

/-- In a literal with an escaped quote the second byte of a letter becomes a space and the quote that
closes it stays; in a comment over two lines the line feed stays and the mark that closes it does not. -/
theorem codeBytes_of_divides_crowded :
    let source := Declaration.crowded "\\\"é" "*\n" "é"
    (codeBytes source)[8]? = some ' '.toUInt8 ∧ (codeBytes source)[9]? = some '\x22'.toUInt8 ∧
      (codeBytes source)[15]? = some '\n'.toUInt8 ∧ (codeBytes source)[17]? = some ' '.toUInt8 := by
  intro source
  have inside : Inside '\x22' "\\\"é".toList :=
    .escape (.plain (by decide) (by decide) (by decide) .nil)
  have divides := Declaration.divides_crowded inside (by decide +kernel : Unclosed "*\n".toList)
    (by decide : '\n' ∉ "é".toList)
  obtain ⟨-, -, -, each⟩ := (codeBytes_of_divides source).2 _ divides
  have characters : ∀ place : Nat, (bytes source)[place]? =
      ((Declaration.crowdedText "\\\"é" "*\n" "é").flatMap String.utf8EncodeChar)[place]? := by
    intro place
    rw [bytes_eq_flatMap, Declaration.toList_crowded]
  refine ⟨?_, ?_, ?_, ?_⟩ <;> rw [each, characters] <;> decide +kernel

end KernelExport.SourceText
