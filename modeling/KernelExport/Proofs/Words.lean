/-
This file says how a text falls into words. Everything about `words` follows from what a blank
does to the pieces of a text: it ends one piece and starts the next, so a text cut at a blank has
the words of both parts. The main statement is `words_eq_pair_iff`: a text has exactly two words
when blanks may stand around them and have to stand between them.
-/

import KernelExport.Text.Blank

namespace KernelExport.Text

/-- Every character of the text is blank. -/
def Blank (text : List Char) : Prop := ∀ character ∈ text, isBlank character = true

instance (text : List Char) : Decidable (Blank text) :=
  List.decidableBAll (fun character => isBlank character = true) text

/-- The text is a word: it is not empty, and none of its characters is blank. -/
def Solid (text : List Char) : Prop := text ≠ [] ∧ ∀ character ∈ text, isBlank character = false

theorem blank_nil : Blank [] := fun _ member => absurd member List.not_mem_nil

theorem blank_cons {character : Char} {rest : List Char} :
    Blank (character :: rest) ↔ isBlank character = true ∧ Blank rest := by
  simp [Blank]

theorem blank_takeWhile (text : List Char) : Blank (text.takeWhile isBlank) := by
  intro character member
  exact List.all_eq_true.1 List.all_takeWhile character member

/-- What continues an identifier has a code between those of `0` and `z`. -/
theorem toNat_of_continuesIdentifier {character : Char}
    (continues : continuesIdentifier character = true) :
    48 ≤ character.toNat ∧ character.toNat ≤ 122 := by
  change ((decide (65 ≤ character.val ∧ character.val ≤ 90) ||
      (97 ≤ character.val && character.val ≤ 122)) ||
    (48 ≤ character.val && character.val ≤ 57)) || character == '_' at continues
  simp only [Bool.or_eq_true, Bool.and_eq_true, decide_eq_true_eq, beq_iff_eq,
    UInt32.le_iff_toNat_le] at continues
  change (((65 ≤ character.toNat ∧ character.toNat ≤ 90) ∨
    (97 ≤ character.toNat ∧ character.toNat ≤ 122)) ∨
    (48 ≤ character.toNat ∧ character.toNat ≤ 57)) ∨ character = '_' at continues
  rcases continues with ((upper | lower) | digit) | rfl
  · omega
  · omega
  · omega
  · decide

/-- An identifier holds no blank. -/
theorem isBlank_of_continuesIdentifier {character : Char}
    (continues : continuesIdentifier character = true) : isBlank character = false := by
  obtain ⟨least, most⟩ := toNat_of_continuesIdentifier continues
  simp only [isBlank, Bool.or_eq_false_iff, Bool.and_eq_false_iff, decide_eq_false_iff_not,
    beq_eq_false_iff_ne, ne_eq]
  omega

theorem continuesIdentifier_of_starts {character : Char}
    (starts : startsIdentifier character = true) : continuesIdentifier character = true := by
  simp only [startsIdentifier, continuesIdentifier, Char.isAlphanum, Bool.or_eq_true] at starts ⊢
  exact starts.imp_left Or.inl

theorem continuesIdentifier_of_isIdentifier {name : List Char}
    (identifier : isIdentifier name = true) :
    ∀ character ∈ name, continuesIdentifier character = true := by
  cases name with
  | nil => exact fun _ member => absurd member List.not_mem_nil
  | cons first rest =>
    simp only [isIdentifier, Bool.and_eq_true, List.all_eq_true] at identifier
    intro character member
    rcases List.mem_cons.1 member with rfl | member
    · exact continuesIdentifier_of_starts identifier.1
    · exact identifier.2 character member

theorem not_mem_of_isIdentifier {name : List Char} (identifier : isIdentifier name = true)
    {character : Char} (other : continuesIdentifier character = false) : character ∉ name := by
  intro member
  rw [continuesIdentifier_of_isIdentifier identifier character member] at other
  cases other

/-- Identifiers are words. -/
theorem solid_of_isIdentifier {name : List Char} (identifier : isIdentifier name = true) :
    Solid name := by
  refine ⟨?_, fun character member => isBlank_of_continuesIdentifier
    (continuesIdentifier_of_isIdentifier identifier character member)⟩
  rintro rfl
  cases identifier

/-! ### Pieces -/

theorem pieces_append_cons {isSeparator : Char → Bool} {separator : Char}
    (separates : isSeparator separator = true) (first second : List Char) :
    pieces isSeparator (first ++ separator :: second) =
      pieces isSeparator first ++ pieces isSeparator second := by
  induction first with
  | nil => simp [pieces, separates]
  | cons character rest inductionHypothesis =>
    by_cases ends : isSeparator character = true
    · simp [pieces, ends, inductionHypothesis]
    · rw [List.cons_append, pieces, if_neg ends, inductionHypothesis, pieces, if_neg ends]
      cases equation : pieces isSeparator rest with
      | nil => exact absurd equation (pieces_ne_nil isSeparator rest)
      | cons piece others => rfl

/-- In front of a text without separators the first of the pieces gets longer. -/
theorem pieces_append {isSeparator : Char → Bool} {front : List Char}
    (ordinary : ∀ character ∈ front, isSeparator character = false) (text : List Char) :
    pieces isSeparator (front ++ text) = (pieces isSeparator text).modifyHead (front ++ ·) := by
  induction front with
  | nil => cases equal : pieces isSeparator text <;> simp [equal]
  | cons character front inductionHypothesis =>
    have here := ordinary character List.mem_cons_self
    rw [List.cons_append, pieces, if_neg (by simp [here]), inductionHypothesis fun other member =>
      ordinary other (List.mem_cons_of_mem _ member)]
    cases equal : pieces isSeparator text with
    | nil => exact absurd equal (pieces_ne_nil isSeparator text)
    | cons piece others => rfl

theorem pieces_of_not_isSeparator {isSeparator : Char → Bool} {text : List Char}
    (ordinary : ∀ character ∈ text, isSeparator character = false) :
    pieces isSeparator text = [text] := by
  induction text with
  | nil => rfl
  | cons character rest inductionHypothesis =>
    rw [pieces, if_neg (by simp [ordinary character List.mem_cons_self]),
      inductionHypothesis fun other member => ordinary other (List.mem_cons_of_mem _ member)]

theorem split_append_cons (separator : Char) (first second : List Char) :
    split separator (first ++ separator :: second) =
      split separator first ++ split separator second :=
  @pieces_append_cons (· == separator) separator (beq_self_eq_true separator) first second

/-- Pieces that hold no separator are what their joined text is cut into. -/
theorem split_intercalate {separator : Char} {parts : List (List Char)} (written : parts ≠ [])
    (ordinary : ∀ part ∈ parts, separator ∉ part) :
    split separator ([separator].intercalate parts) = parts := by
  have alone : ∀ part ∈ parts, split separator part = [part] := by
    intro part member
    refine pieces_of_not_isSeparator fun character inPart => beq_false_of_ne ?_
    rintro rfl
    exact ordinary part member inPart
  induction parts with
  | nil => exact absurd rfl written
  | cons first rest inductionHypothesis =>
    cases rest with
    | nil => rw [List.intercalate_singleton, alone first List.mem_cons_self]
    | cons second others =>
      rw [List.intercalate_cons_cons, List.append_assoc, List.singleton_append, split_append_cons,
        alone first List.mem_cons_self, inductionHypothesis (List.cons_ne_nil _ _)
          (fun part member => ordinary part (List.mem_cons_of_mem first member))
          (fun part member => alone part (List.mem_cons_of_mem first member)),
        List.singleton_append]

/-- A character of a text separates pieces or stands in one. -/
theorem mem_pieces_of_mem {isSeparator : Char → Bool} {text : List Char} {character : Char}
    (member : character ∈ text) :
    isSeparator character = true ∨ ∃ piece ∈ pieces isSeparator text, character ∈ piece := by
  induction text with
  | nil => cases member
  | cons first rest inductionHypothesis =>
    by_cases separates : isSeparator first = true
    · rcases List.mem_cons.1 member with rfl | later
      · exact .inl separates
      · refine (inductionHypothesis later).imp_right ?_
        rintro ⟨piece, inRest, inPiece⟩
        exact ⟨piece, by simp [pieces, separates, inRest], inPiece⟩
    · rw [pieces, if_neg separates]
      cases equation : pieces isSeparator rest with
      | nil => exact absurd equation (pieces_ne_nil isSeparator rest)
      | cons head others =>
        rcases List.mem_cons.1 member with rfl | later
        · exact .inr ⟨_, List.mem_cons_self, List.mem_cons_self⟩
        · refine (inductionHypothesis later).imp_right ?_
          rintro ⟨piece, inRest, inPiece⟩
          rw [equation] at inRest
          rcases List.mem_cons.1 inRest with rfl | inOthers
          · exact ⟨_, List.mem_cons_self, List.mem_cons_of_mem _ inPiece⟩
          · exact ⟨piece, List.mem_cons_of_mem _ inOthers, inPiece⟩

/-! ### Words -/

/-- A text cut at a blank has the words of both parts. -/
theorem words_append_cons {blank : Char} (isBlank : isBlank blank = true)
    (first second : List Char) :
    words (first ++ blank :: second) = words first ++ words second := by
  unfold words
  rw [pieces_append_cons isBlank, List.filter_append]

theorem words_cons_blank {blank : Char} (isBlank : isBlank blank = true) (text : List Char) :
    words (blank :: text) = words text :=
  words_append_cons isBlank [] text

theorem words_blank_append {blanks : List Char} (blank : Blank blanks) (text : List Char) :
    words (blanks ++ text) = words text := by
  induction blanks with
  | nil => rfl
  | cons first rest inductionHypothesis =>
    rw [List.cons_append, words_cons_blank (blank_cons.1 blank).1,
      inductionHypothesis (blank_cons.1 blank).2]

theorem words_of_blank {blanks : List Char} (blank : Blank blanks) : words blanks = [] := by
  rw [← List.append_nil blanks, words_blank_append blank]
  rfl

theorem words_append_blank (text : List Char) {blanks : List Char} (blank : Blank blanks) :
    words (text ++ blanks) = words text := by
  cases blanks with
  | nil => rw [List.append_nil]
  | cons first rest =>
    rw [words_append_cons (blank_cons.1 blank).1, words_of_blank (blank_cons.1 blank).2,
      List.append_nil]

theorem words_of_solid {word : List Char} (solid : Solid word) : words word = [word] := by
  rw [words, pieces_of_not_isSeparator solid.2]
  simp [solid.1]

/-- The first word of a text, with a blank behind it if the text goes on there. -/
theorem words_solid_append {word behind : List Char} (solid : Solid word)
    (ends : ∀ character ∈ behind.head?, isBlank character = true) :
    words (word ++ behind) = word :: words behind := by
  cases behind with
  | nil =>
    rw [List.append_nil, words_of_solid solid]
    rfl
  | cons blank rest =>
    rw [words_append_cons (ends blank rfl), words_of_solid solid, words_cons_blank (ends blank rfl)]
    rfl

/-- A text is blank, or it holds a first word. -/
theorem blank_or_exists_word (text : List Char) : Blank text ∨ ∃ front word behind,
    text = front ++ word ++ behind ∧ Blank front ∧ Solid word ∧
      ∀ character ∈ behind.head?, isBlank character = true := by
  induction text with
  | nil => exact .inl blank_nil
  | cons first rest inductionHypothesis =>
    by_cases blank : isBlank first = true
    · rcases inductionHypothesis with allBlank | ⟨front, word, behind, rfl, frontBlank, found⟩
      · exact .inl (blank_cons.2 ⟨blank, allBlank⟩)
      · exact .inr ⟨first :: front, word, behind, rfl, blank_cons.2 ⟨blank, frontBlank⟩, found⟩
    · refine .inr ⟨[], first :: rest.takeWhile (!isBlank ·), rest.dropWhile (!isBlank ·), ?_,
        blank_nil, ⟨List.cons_ne_nil _ _, ?_⟩, ?_⟩
      · rw [List.nil_append, List.cons_append, List.takeWhile_append_dropWhile]
      · intro character member
        rcases List.mem_cons.1 member with rfl | later
        · simpa using blank
        · simpa using List.all_eq_true.1 List.all_takeWhile character later
      · intro character atHead
        have stops := List.head?_dropWhile_not (!isBlank ·) rest
        rw [Option.mem_def.1 atHead] at stops
        simpa using stops

/-- A text with a word starts with blanks, the word, and a blank if it goes on. -/
theorem exists_of_words_eq_cons {text word : List Char} {others : List (List Char)}
    (equal : words text = word :: others) : ∃ front behind, text = front ++ word ++ behind ∧
      Blank front ∧ Solid word ∧ (∀ character ∈ behind.head?, isBlank character = true) ∧
      words behind = others := by
  rcases blank_or_exists_word text with blank | ⟨front, first, behind, rfl, blank, solid, ends⟩
  · rw [words_of_blank blank] at equal
    cases equal
  · rw [List.append_assoc, words_blank_append blank, words_solid_append solid ends] at equal
    obtain ⟨rfl, rfl⟩ := List.cons.inj equal
    exact ⟨front, behind, rfl, blank, solid, ends, rfl⟩

/-- A text without words is blank. -/
theorem blank_of_words_eq_nil {text : List Char} (none : words text = []) : Blank text := by
  rcases blank_or_exists_word text with blank | ⟨front, word, behind, rfl, blank, solid, ends⟩
  · exact blank
  · rw [List.append_assoc, words_blank_append blank, words_solid_append solid ends] at none
    cases none

/-- A text has two words when it is the words with blanks between them, and perhaps around
them. -/
theorem words_eq_pair_iff {text first second : List Char} : words text = [first, second] ↔
    ∃ front between back, text = front ++ first ++ between ++ second ++ back ∧ Blank front ∧
      Solid first ∧ Blank between ∧ between ≠ [] ∧ Solid second ∧ Blank back := by
  constructor
  · intro equal
    obtain ⟨front, behind, rfl, frontBlank, firstSolid, firstEnds, rest⟩ :=
      exists_of_words_eq_cons equal
    obtain ⟨between, back, rfl, betweenBlank, secondSolid, -, none⟩ := exists_of_words_eq_cons rest
    refine ⟨front, between, back, by simp only [List.append_assoc], frontBlank, firstSolid,
      betweenBlank, ?_, secondSolid, blank_of_words_eq_nil none⟩
    -- Without a blank between them the first word would go on with the second.
    rintro rfl
    obtain ⟨start, more, rfl⟩ := List.exists_cons_of_ne_nil secondSolid.1
    have ended := firstEnds start rfl
    rw [secondSolid.2 start List.mem_cons_self] at ended
    cases ended
  · rintro ⟨front, between, back, rfl, frontBlank, firstSolid, betweenBlank, apart, secondSolid,
      backBlank⟩
    obtain ⟨blank, more, rfl⟩ := List.exists_cons_of_ne_nil apart
    simp only [List.append_assoc]
    rw [words_blank_append frontBlank, words_solid_append firstSolid, words_blank_append betweenBlank,
      words_append_blank second backBlank, words_of_solid secondSolid]
    intro character atHead
    obtain rfl := Option.mem_some.1 atHead
    exact (blank_cons.1 betweenBlank).1

/-! ### Trimming -/

theorem words_trim (text : List Char) : words (trim text) = words text := by
  have start : words (trimStart text) = words text := by
    rw [trimStart, ← words_blank_append (blank_takeWhile text), List.takeWhile_append_dropWhile]
  have finish : ∀ other, words (trimEnd other) = words other := by
    intro other
    have whole : trimEnd other ++ (other.reverse.takeWhile isBlank).reverse = other := by
      rw [trimEnd, ← List.reverse_append, List.takeWhile_append_dropWhile, List.reverse_reverse]
    have blank : Blank (other.reverse.takeWhile isBlank).reverse := fun character member =>
      blank_takeWhile _ character (List.mem_reverse.1 member)
    rw [← words_append_blank (trimEnd other) blank, whole]
  rw [trim, finish, start]

/-- Trimming takes the blanks off around a text that starts and ends without one. -/
theorem trim_of_solid {front first middle last back : List Char} (frontBlank : Blank front)
    (firstSolid : Solid first) (lastSolid : Solid last) (backBlank : Blank back) :
    trim (front ++ (first ++ middle ++ last) ++ back) = first ++ middle ++ last := by
  have keepsStart : ∀ blanks word rest, Blank blanks → Solid word →
      (blanks ++ (word ++ rest)).dropWhile isBlank = word ++ rest := by
    intro blanks word rest blank solid
    obtain ⟨start, more, rfl⟩ := List.exists_cons_of_ne_nil solid.1
    rw [List.dropWhile_append_of_pos blank, List.cons_append,
      List.dropWhile_cons_of_neg (by simp [solid.2 start List.mem_cons_self])]
  have reversed : ∀ {text : List Char}, Blank text → Blank text.reverse :=
    fun blank character member => blank character (List.mem_reverse.1 member)
  have lastReversed : Solid last.reverse :=
    ⟨by simpa using lastSolid.1,
      fun character member => lastSolid.2 character (List.mem_reverse.1 member)⟩
  rw [trim, trimStart, List.append_assoc, List.append_assoc, List.append_assoc,
    keepsStart front first _ frontBlank firstSolid, trimEnd]
  simp only [List.reverse_append, List.append_assoc]
  rw [keepsStart back.reverse last.reverse _ (reversed backBlank) lastReversed]
  simp

end KernelExport.Text
