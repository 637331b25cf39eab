/-
This file says what the layout of an argument list has to do with the declaration that is read.

Line breaks inside an argument are dropped before its words are looked for, and any other blank
holds words apart. So a run of blanks between two words may be exchanged for every other run that
holds more than line breaks; but a role tag and a name with a line break alone between them grow
together, and so do the halves of a word that is broken over two lines (`read_relayout`). Beside a
parenthesis, a comma or another blank there is nothing to hold apart, and any run will do.

Only the argument list may change between the two sources, and nothing in it may be blanked. What
stands in front of the opening parenthesis is then blanked as before whatever follows it
(`blankFrom_opening`), the list itself is not blanked, and the rest is read as code again.
-/

import KernelExport.Proofs.Grammar

namespace KernelExport

open Text

namespace SourceText

/-! ### Blanking literals -/

theorem blankFrom_literal_end {quote character : Char} (ends : character = quote ∨ character = '\n')
    (rest : List Char) :
    blankFrom (.literal quote) (character :: rest) = character :: blankFrom .code rest := by
  rw [blankFrom.eq_def]
  simp only [if_pos ends]

theorem blankFrom_literal_escape {quote : Char} (inside : ¬('\\' = quote ∨ '\\' = '\n'))
    (escaped : Char) (rest : List Char) :
    blankFrom (.literal quote) ('\\' :: escaped :: rest) =
      blanked '\\' ++ blanked escaped ++ blankFrom (.literal quote) rest := by
  rw [blankFrom.eq_def]
  simp only [if_neg inside, if_true]

theorem blankFrom_literal_inside {quote character : Char}
    (inside : ¬(character = quote ∨ character = '\n')) (plain : character ≠ '\\')
    (rest : List Char) :
    blankFrom (.literal quote) (character :: rest) =
      blanked character ++ blankFrom (.literal quote) rest := by
  rw [blankFrom.eq_def]
  simp only [if_neg inside, if_neg plain]

/-! ### Blanking around a parenthesis -/

theorem byteSize_blanked (character : Char) : byteSize (blanked character) = character.utf8Size := by
  have spaces : ∀ count, byteSize (List.replicate count ' ') = count := by
    intro count
    induction count with
    | zero => rfl
    | succ count inductionHypothesis =>
      have space : Char.utf8Size ' ' = 1 := rfl
      rw [List.replicate_succ, byteSize_cons, inductionHypothesis, space, Nat.add_comm]
  rw [blanked]
  split
  · rename_i lineFeed
    rw [lineFeed]
    rfl
  · exact spaces _

theorem byteSize_eq_blanked (character : Char) :
    byteSize [character] = byteSize (blanked character) := by
  rw [byteSize_blanked, byteSize_cons]
  rfl

theorem opening_not_mem_blanked (character : Char) : '(' ∉ blanked character := by
  rw [blanked]
  split
  · decide
  · intro member
    exact absurd (List.eq_of_mem_replicate member) (by decide)

/-- A character behind a text in which it does not stand comes after all of that text. -/
theorem exists_of_append_eq {stop : Char} {text rest before after : List Char} (none : stop ∉ text)
    (same : text ++ rest = before ++ stop :: after) :
    ∃ more, before = text ++ more ∧ rest = more ++ stop :: after := by
  rcases List.append_eq_append_iff.1 same with ⟨more, equal, restIs⟩ | ⟨more, equal, restIs⟩
  · exact ⟨more, equal, restIs⟩
  · cases more with
    | nil => exact ⟨[], by simpa using equal.symm, by simpa using restIs.symm⟩
    | cons first others =>
      obtain ⟨rfl, -⟩ := List.cons.inj restIs
      exact absurd (equal ▸ List.mem_append_right _ List.mem_cons_self) none

/-- What a parenthesis follows starts in the same way whatever follows the parenthesis. -/
theorem exists_cons_of_append_eq {front other rest : List Char} {first : Char}
    (starts : front ++ '(' :: other = first :: rest) (behind : List Char) :
    ∃ more, front ++ '(' :: behind = first :: more := by
  cases front with
  | nil =>
    obtain ⟨rfl, -⟩ := List.cons.inj starts
    exact ⟨behind, rfl⟩
  | cons character front =>
    obtain ⟨rfl, -⟩ := List.cons.inj starts
    exact ⟨front ++ '(' :: behind, rfl⟩

/-- What stands in front of a parenthesis is blanked in the same way whatever follows it, and what
follows it is read as code. -/
def OpensInCode (region : Region) (source before after : List Char) : Prop :=
  ∃ front behind, source = front ++ '(' :: behind ∧ byteSize front = byteSize before ∧
    after = blankFrom .code behind ∧
    ∀ other, blankFrom region (front ++ '(' :: other) = before ++ '(' :: blankFrom .code other

/-- With more in front that is blanked whatever follows the parenthesis, it opens in code as well. -/
theorem OpensInCode.behind {region next : Region} {rest before after : List Char}
    (opens : OpensInCode next rest before after) (consumed spaces : List Char)
    (size : byteSize consumed = byteSize spaces)
    (continues : ∀ front behind other, rest = front ++ '(' :: behind →
      blankFrom region (consumed ++ (front ++ '(' :: other)) =
        spaces ++ blankFrom next (front ++ '(' :: other)) :
    OpensInCode region (consumed ++ rest) (spaces ++ before) after := by
  obtain ⟨front, behind, rfl, sameSize, afterIs, whatever⟩ := opens
  refine ⟨consumed ++ front, behind, by rw [List.append_assoc],
    by rw [byteSize_append, byteSize_append, size, sameSize], afterIs, fun other => ?_⟩
  rw [List.append_assoc, continues front behind other rfl, whatever, List.append_assoc]

/-- No parenthesis stands among the spaces in front, so it is one of the rest. -/
theorem OpensInCode.behind_blanked {region next : Region} {rest before after : List Char}
    (consumed spaces : List Char) (none : '(' ∉ spaces)
    (size : byteSize consumed = byteSize spaces)
    (blanks : spaces ++ blankFrom next rest = before ++ '(' :: after)
    (opens : ∀ {more}, blankFrom next rest = more ++ '(' :: after →
      OpensInCode next rest more after)
    (continues : ∀ front behind other, rest = front ++ '(' :: behind →
      blankFrom region (consumed ++ (front ++ '(' :: other)) =
        spaces ++ blankFrom next (front ++ '(' :: other)) :
    OpensInCode region (consumed ++ rest) before after := by
  obtain ⟨more, rfl, restBlanks⟩ := exists_of_append_eq none blanks
  exact (opens restBlanks).behind consumed spaces size continues

/-- A parenthesis that is left when a source is blanked opens in code. -/
theorem blankFrom_opening {region : Region} {source before after : List Char}
    (blanks : blankFrom region source = before ++ '(' :: after) :
    OpensInCode region source before after := by
  fun_induction blankFrom region source generalizing before with
  | case1 => simp at blanks
  | case2 rest inductionHypothesis =>
    exact .behind_blanked ['/', '/'] [' ', ' '] (by decide) rfl blanks inductionHypothesis
      fun _ _ _ _ => by simp [blankFrom]
  | case3 rest inductionHypothesis =>
    exact .behind_blanked ['/', '*'] [' ', ' '] (by decide) rfl blanks inductionHypothesis
      fun _ _ _ _ => by simp [blankFrom]
  | case4 character rest notLine notBlock inductionHypothesis =>
    cases before with
    | nil =>
      obtain ⟨rfl, rfl⟩ := List.cons.inj blanks
      exact ⟨[], rest, rfl, rfl, rfl, fun other => by simp [blankFrom, isQuote]⟩
    | cons first before =>
      obtain ⟨rfl, restBlanks⟩ := List.cons.inj blanks
      refine (inductionHypothesis restBlanks).behind [character] [character] rfl
        fun front behind other same => ?_
      rw [List.singleton_append, blankFrom, List.singleton_append]
      · intro more slash starts
        obtain ⟨_, again⟩ := exists_cons_of_append_eq starts behind
        exact notLine _ slash (same.trans again)
      · intro more slash starts
        obtain ⟨_, again⟩ := exists_cons_of_append_eq starts behind
        exact notBlock _ slash (same.trans again)
  | case5 character rest inductionHypothesis =>
    exact .behind_blanked [character] _ (opening_not_mem_blanked character)
      (byteSize_eq_blanked character) blanks inductionHypothesis
      fun _ _ _ _ => by rw [List.singleton_append, blankFrom]
  | case6 rest inductionHypothesis =>
    exact .behind_blanked ['*', '/'] [' ', ' '] (by decide) rfl blanks inductionHypothesis
      fun _ _ _ _ => by simp [blankFrom]
  | case7 character rest notEnd inductionHypothesis =>
    refine .behind_blanked [character] _ (opening_not_mem_blanked character)
      (byteSize_eq_blanked character) blanks inductionHypothesis fun front behind other same => ?_
    rw [List.singleton_append, blankFrom]
    intro more star starts
    obtain ⟨_, again⟩ := exists_cons_of_append_eq starts behind
    exact notEnd _ star (same.trans again)
  | case8 quote character rest ends inductionHypothesis =>
    cases before with
    | nil =>
      obtain ⟨rfl, rfl⟩ := List.cons.inj blanks
      exact ⟨[], rest, rfl, rfl, rfl, fun other => blankFrom_literal_end ends other⟩
    | cons first before =>
      obtain ⟨rfl, restBlanks⟩ := List.cons.inj blanks
      exact (inductionHypothesis restBlanks).behind [character] [character] rfl
        fun _ _ _ _ => blankFrom_literal_end ends _
  | case9 quote inside =>
    have member : '(' ∈ blanked '\\' := blanks ▸ List.mem_append_right _ List.mem_cons_self
    exact absurd member (opening_not_mem_blanked _)
  | case10 quote escaped rest inside inductionHypothesis =>
    have size : byteSize ['\\', escaped] = byteSize (blanked '\\' ++ blanked escaped) := by
      rw [byteSize_append, ← byteSize_eq_blanked, ← byteSize_eq_blanked]
      rfl
    exact .behind_blanked ['\\', escaped] _ (by simp [opening_not_mem_blanked]) size blanks
      inductionHypothesis fun _ _ _ _ => blankFrom_literal_escape inside ..
  | case11 quote character rest inside plain inductionHypothesis =>
    exact .behind_blanked [character] _ (opening_not_mem_blanked character)
      (byteSize_eq_blanked character) blanks inductionHypothesis
      fun _ _ _ _ => blankFrom_literal_inside inside plain _

end SourceText

namespace Text

/-! ### Cutting and words -/

/-- A text is the piece behind its last separator, or it ends in one. -/
theorem exists_last_piece (isSeparator : Char → Bool) (text : List Char) : ∃ last,
    (∀ character ∈ last, isSeparator character = false) ∧
    (text = last ∨ ∃ before separator, text = before ++ separator :: last ∧
      isSeparator separator = true) := by
  induction text with
  | nil => exact ⟨[], by simp, .inl rfl⟩
  | cons character rest inductionHypothesis =>
    obtain ⟨last, ordinary, rfl | ⟨before, separator, rfl, separates⟩⟩ := inductionHypothesis
    · by_cases here : isSeparator character = true
      · exact ⟨rest, ordinary, .inr ⟨[], character, rfl, here⟩⟩
      · refine ⟨character :: rest, ?_, .inl rfl⟩
        exact List.forall_mem_cons.2 ⟨Bool.eq_false_iff.2 here, ordinary⟩
    · exact ⟨last, ordinary, .inr ⟨character :: before, separator, rfl, separates⟩⟩

/-- A text is the piece before its first separator, or it starts with one. -/
theorem exists_first_piece (isSeparator : Char → Bool) (text : List Char) : ∃ first,
    (∀ character ∈ first, isSeparator character = false) ∧
    (text = first ∨ ∃ separator after, text = first ++ separator :: after ∧
      isSeparator separator = true) := by
  induction text with
  | nil => exact ⟨[], by simp, .inl rfl⟩
  | cons character rest inductionHypothesis =>
    by_cases here : isSeparator character = true
    · exact ⟨[], by simp, .inr ⟨character, rest, rfl, here⟩⟩
    · obtain ⟨first, ordinary, whole⟩ := inductionHypothesis
      refine ⟨character :: first,
        List.forall_mem_cons.2 ⟨Bool.eq_false_iff.2 here, ordinary⟩, ?_⟩
      rcases whole with rfl | ⟨separator, after, rfl, separates⟩
      · exact .inl rfl
      · exact .inr ⟨separator, after, rfl, separates⟩

/-- Where one of two texts has a blank at the seam, no word goes over it. -/
theorem words_append_of_blank {first second : List Char}
    (apart : (∀ character ∈ first.getLast?, isBlank character = true) ∨
      ∀ character ∈ second.head?, isBlank character = true) :
    words (first ++ second) = words first ++ words second := by
  rcases apart with ends | starts
  · rcases List.eq_nil_or_concat first with rfl | ⟨front, last, rfl⟩
    · rfl
    · have blank : isBlank last = true := ends last (by simp)
      rw [List.concat_eq_append, List.append_assoc, List.singleton_append, words_append_cons blank,
        words_append_blank front (blank_cons.2 ⟨blank, blank_nil⟩)]
  · cases second with
    | nil => rw [List.append_nil, words_of_blank blank_nil, List.append_nil]
    | cons head rest =>
      rw [words_append_cons (starts head rfl), words_cons_blank (starts head rfl)]

theorem words_append_blanks_append {blanks : List Char} (blank : Blank blanks) (some : blanks ≠ [])
    (first second : List Char) :
    words (first ++ blanks ++ second) = words first ++ words second := by
  rw [List.append_assoc, words_append_of_blank, words_blank_append blank]
  obtain ⟨head, rest, rfl⟩ := List.exists_cons_of_ne_nil some
  refine .inr fun character atHead => ?_
  obtain rfl := Option.mem_some.1 atHead
  exact (blank_cons.1 blank).1

/-- A text that ends in a word. -/
theorem exists_last_word {text : List Char} {last : Char} (ends : text.getLast? = some last)
    (solid : isBlank last = false) : ∃ front word, text = front ++ word ∧ Solid word ∧
      ∀ character ∈ front.getLast?, isBlank character = true := by
  obtain ⟨start, rfl⟩ := List.getLast?_eq_some_iff.1 ends
  rcases blank_or_exists_word (start ++ [last]).reverse with
    blank | ⟨front, word, behind, reversed, frontBlank, wordSolid, wordEnds⟩
  · have lastBlank := blank last (by simp)
    rw [solid] at lastBlank
    cases lastBlank
  · rw [List.reverse_concat] at reversed
    cases front with
    | cons first others =>
      obtain ⟨rfl, -⟩ := List.cons.inj reversed
      have firstBlank := (blank_cons.1 frontBlank).1
      rw [solid] at firstBlank
      cases firstBlank
    | nil =>
      refine ⟨behind.reverse, word.reverse, ?_, ⟨by simpa using wordSolid.1, ?_⟩, ?_⟩
      · rw [← List.reverse_append, ← List.nil_append word, ← reversed]
        simp
      · exact fun character member => wordSolid.2 character (List.mem_reverse.1 member)
      · rwa [List.getLast?_reverse]

/-- Words that meet at the seam of two texts grow together. -/
theorem length_words_append {first second : List Char} {last head : Char}
    (ends : first.getLast? = some last) (starts : second.head? = some head)
    (lastSolid : isBlank last = false) (headSolid : isBlank head = false) :
    (words (first ++ second)).length + 1 = (words first ++ words second).length := by
  obtain ⟨front, word, rfl, wordSolid, frontEnds⟩ := exists_last_word ends lastSolid
  rcases blank_or_exists_word second with blank | ⟨blanks, other, behind, rfl, blank, otherSolid, otherEnds⟩
  · rw [blank head (List.mem_of_mem_head? starts)] at headSolid
    cases headSolid
  · cases blanks with
    | cons first others =>
      rw [List.cons_append, List.cons_append, List.head?_cons, Option.some.injEq] at starts
      rw [← starts, (blank_cons.1 blank).1] at headSolid
      cases headSolid
    | nil =>
      have both : Solid (word ++ other) := by
        refine ⟨by simp [wordSolid.1], fun character member => ?_⟩
        exact (List.mem_append.1 member).elim (wordSolid.2 character) (otherSolid.2 character)
      have joined : front ++ word ++ ([] ++ other ++ behind) = front ++ (word ++ other ++ behind) := by
        simp
      rw [joined, words_append_of_blank (.inl frontEnds), words_append_of_blank (.inl frontEnds),
        words_solid_append both otherEnds, List.nil_append, words_solid_append otherSolid otherEnds,
        words_of_solid wordSolid]
      simp
      omega

end Text

namespace Declaration

/-! ### Sources with another list -/

/-- A source with `list` between the parentheses of its declaration. -/
def sourceWith (opening list closing : List Char) : String :=
  String.ofList (opening ++ list ++ ')' :: closing)

/-- The only declaration of a source has its list behind `opening`, and nothing in the list is
blanked: it holds no comment. -/
structure Encloses (opening list closing : List Char) : Prop where
  site : ∃ site after, onlySite (SourceText.blank (sourceWith opening list closing).toList) =
    .ok site ∧ site.opening + 1 = byteSize opening ∧ site.rest = list ++ ')' :: after
  unclosed : ')' ∉ list

/-- Of what stands in an argument list nothing is blanked. -/
theorem blankFrom_listed {list : List Char} (listed : ∀ character ∈ list, isListed character = true)
    (closing : List Char) :
    SourceText.blankFrom .code (list ++ ')' :: closing) =
      list ++ ')' :: SourceText.blankFrom .code closing := by
  induction list with
  | nil => simp [SourceText.blankFrom, SourceText.isQuote]
  | cons character rest inductionHypothesis =>
    obtain ⟨here, restListed⟩ := List.forall_mem_cons.1 listed
    have unquoted : SourceText.isQuote character = false := by
      rw [SourceText.isQuote, Bool.or_eq_false_iff, beq_eq_false_iff_ne, beq_eq_false_iff_ne]
      constructor <;> rintro rfl <;> exact absurd here (by decide)
    have noSlash : character ≠ '/' := by
      rintro rfl
      exact absurd here (by decide)
    rw [List.cons_append, SourceText.blankFrom, unquoted, if_neg Bool.false_ne_true,
      inductionHypothesis restListed, List.cons_append]
    · exact fun _ slash _ => absurd slash noSlash
    · exact fun _ slash _ => absurd slash noSlash

/-- With another list, the declaring word stands where it stood, or behind the list as far from it
as before. -/
theorem DeclaredAt.relisted {front changed after before gap rest : List Char}
    (declared : DeclaredAt (front ++ '(' :: (changed ++ ')' :: after)) before gap rest)
    (unnested : '(' ∉ changed) (list : List Char) : ∃ other otherRest,
      DeclaredAt (front ++ '(' :: (list ++ ')' :: after)) other gap otherRest ∧
      (other = before ∨ front.length < other.length) := by
  obtain ⟨text, alone, blank⟩ := declared
  have closingless : ')' ∉ keyword ++ gap := by
    rw [List.mem_append, not_or]
    exact ⟨by decide, fun inGap => absurd (blank ')' inGap) (by decide)⟩
  rcases List.append_eq_append_iff.1 text with ⟨more, whole, behind⟩ | ⟨more, whole, behind⟩
  · cases more with
    | nil =>
      rw [List.append_nil] at whole
      exact ⟨before, list ++ ')' :: after, ⟨by rw [whole], alone, blank⟩, .inl rfl⟩
    | cons first others =>
      -- The parenthesis of this place lies behind the list, and so does the word.
      obtain ⟨rfl, behind⟩ := List.cons.inj behind
      have inList : '(' ∉ changed ++ [')'] := by simp [unnested]
      have shape : (changed ++ [')']) ++ after = others ++ '(' :: rest := by simpa using behind
      obtain ⟨later, rfl, rfl⟩ := SourceText.exists_of_append_eq inList shape
      have place : before ++ (keyword ++ gap) =
          (front ++ '(' :: changed) ++ ')' :: later := by
        simpa using whole
      rcases List.append_eq_append_iff.1 place with ⟨inner, _, reached⟩ | ⟨inner, same, reached⟩
      · exact absurd (reached ▸ List.mem_append_right _ List.mem_cons_self) closingless
      · cases inner with
        | nil =>
          exact absurd (reached.symm ▸ List.mem_cons_self : ')' ∈ keyword ++ gap) closingless
        | cons closing inner =>
          obtain ⟨rfl, rfl⟩ := List.cons.inj reached
          refine ⟨front ++ '(' :: (list ++ ')' :: inner), rest, ⟨by simp, ?_, blank⟩, .inr ?_⟩
          · rw [same] at alone
            simpa [List.getLast?_append, List.getLast?_cons] using alone
          · simp
  · cases more with
    | nil =>
      rw [List.append_nil] at whole
      exact ⟨before, list ++ ')' :: after, ⟨by rw [whole], alone, blank⟩, .inl rfl⟩
    | cons first others =>
      obtain ⟨rfl, -⟩ := List.cons.inj behind
      refine ⟨before, others ++ '(' :: (list ++ ')' :: after), ⟨?_, alone, blank⟩, .inl rfl⟩
      rw [whole]
      simp

/-- What an accepted source says of its argument list: where the list stands, that it is the only
one, and what its arguments declare. -/
structure Lists (opening list closing before gap after : List Char) (declaration : Declaration) :
    Prop where
  declared : DeclaredAt (SourceText.blank (sourceWith opening list closing).toList) before gap
    (list ++ ')' :: after)
  unique : ∀ other otherGap otherRest,
    DeclaredAt (SourceText.blank (sourceWith opening list closing).toList) other otherGap otherRest →
      other = before
  place : byteSize opening = byteSize before + byteSize keyword + byteSize gap + 1
  offset : declaration.offset = byteSize before
  declares : List.Forall₂ (fun argument token => Declares argument token.1 token.2)
    (Text.split ',' list) declaration.tokens
  distinct : (declaration.tokens.map Prod.snd).Nodup

theorem exists_lists {opening list closing : List Char} {declaration : Declaration}
    (encloses : Encloses opening list closing)
    (accepted : read (sourceWith opening list closing) = .ok declaration) :
    ∃ before gap after, Lists opening list closing before gap after declaration := by
  obtain ⟨⟨site, after, siteRead, openingIs, rest⟩, unclosed⟩ := encloses
  obtain ⟨again, inside, result, siteAgain, listRead, argumentsRead, rfl⟩ :=
    read_eq_ok_iff.1 accepted
  obtain rfl := Except.ok.inj (siteRead.symm.trans siteAgain)
  obtain ⟨behind, insideRest, insideUnclosed, -, -⟩ := body_eq_ok_iff.1 listRead
  have same : inside = list := by
    rw [← takeWhile_append_stop insideUnclosed behind, ← insideRest, rest,
      takeWhile_append_stop unclosed]
  subst same
  obtain ⟨before, gap, declared, unique, offset, place⟩ := onlySite_eq_ok_iff.1 siteRead
  obtain ⟨declares, -, distinct, -⟩ := declares_of_readArguments argumentsRead
  rw [rest] at declared
  refine ⟨before, gap, after, declared, unique, by omega, offset, ?_, ?_⟩
  · rw [tokens, List.map_map, List.forall₂_map_right_iff]
    exact declares
  · rw [tokens, List.map_map, List.map_map]
    exact distinct

/-- What stands around the list is blanked as before when the list is exchanged. -/
theorem Lists.blank_relisted {opening list closing before gap after : List Char}
    {declaration : Declaration} (lists : Lists opening list closing before gap after declaration)
    {changed : List Char} (listed : ∀ character ∈ changed, isListed character = true) :
    SourceText.blank (sourceWith opening changed closing).toList =
      (before ++ keyword ++ gap) ++ '(' :: (changed ++ ')' :: after) := by
  have blanks := lists.declared.text
  rw [sourceWith, String.toList_ofList, SourceText.blank] at blanks ⊢
  obtain ⟨front, behind, source, size, afterIs, whatever⟩ := SourceText.blankFrom_opening blanks
  -- The parenthesis is the last character of `opening`, since both are behind as many bytes.
  have openingIs : opening = front ++ ['('] := by
    have whole : opening ++ (list ++ ')' :: closing) = (front ++ ['(']) ++ behind := by
      simpa using source
    refine eq_of_append_eq_append whole ?_
    have parenthesis : Char.utf8Size '(' = 1 := rfl
    simp only [byteSize_append, byteSize_cons, byteSize_nil, size, lists.place, parenthesis]
  subst openingIs
  have behindIs : behind = list ++ ')' :: closing := by
    simpa using source.symm
  have unchanged := (listed_of_declares lists.declares).1
  rw [behindIs, blankFrom_listed unchanged] at afterIs
  have afterSame : after = SourceText.blankFrom .code closing := by
    simpa using afterIs
  have shape : front ++ ['('] ++ changed ++ ')' :: closing =
      front ++ '(' :: (changed ++ ')' :: closing) := by simp
  rw [shape, whatever, blankFrom_listed listed, ← afterSame]

/-- With another list that may stand there, the source is read from the arguments of that list. -/
theorem Lists.read_relisted {opening list closing before gap after : List Char}
    {declaration : Declaration} (lists : Lists opening list closing before gap after declaration)
    {changed : List Char} (listed : ∀ character ∈ changed, isListed character = true)
    (notBlank : ¬ Blank changed) :
    read (sourceWith opening changed closing) =
      (readArguments (byteSize opening) [] (Text.split ',' changed)).map fun result =>
        ⟨result.map Prod.fst, result.map Prod.snd, declaration.offset⟩ := by
  have code := lists.blank_relisted listed
  have original := lists.blank_relisted (listed_of_declares lists.declares).1
  have unnested : '(' ∉ changed := not_mem_of_isListed listed (by decide)
  have unclosed : ')' ∉ changed := not_mem_of_isListed listed (by decide)
  let site : Site := ⟨byteSize before, byteSize before + byteSize keyword + byteSize gap,
    changed ++ ')' :: after⟩
  have siteRead : onlySite (SourceText.blank (sourceWith opening changed closing).toList) =
      .ok site := by
    refine onlySite_eq_ok_iff.2
      ⟨before, gap, ⟨code, lists.declared.alone, lists.declared.blank⟩, ?_, rfl, rfl⟩
    intro other otherGap otherRest declared
    rw [code] at declared
    obtain ⟨place, placeRest, placed, same | longer⟩ := declared.relisted unnested list
    · rw [← original] at placed
      rw [← same, lists.unique _ _ _ placed]
    · rw [← original] at placed
      rw [lists.unique _ _ _ placed] at longer
      simp only [List.length_append] at longer
      omega
  have listRead : body site = .ok changed :=
    body_eq_ok_iff.2 ⟨after, rfl, unclosed, unnested, notBlank⟩
  have opens : site.opening + 1 = byteSize opening := lists.place.symm
  rw [read, siteRead]
  show (body site >>= fun inside => _) = _
  rw [listRead, ← opens, lists.offset]
  show (readArguments (site.opening + 1) [] (Text.split ',' changed) >>= fun result => _) = _
  cases readArguments (site.opening + 1) [] (Text.split ',' changed) <;> rfl

/-! ### Arguments with another run of blanks -/

/-- Words stand on both sides of a place in an argument list, line breaks left out. -/
def Abuts (front behind : List Char) : Prop :=
  ∃ last ∈ (withoutBreaks front).getLast?, ∃ head ∈ (withoutBreaks behind).head?,
    continuesIdentifier last = true ∧ continuesIdentifier head = true

/-- The run is made of line breaks alone. -/
def OnlyBreaks (run : List Char) : Prop :=
  withoutBreaks run = []

instance (run : List Char) : Decidable (OnlyBreaks run) :=
  inferInstanceAs (Decidable (withoutBreaks run = []))

theorem withoutBreaks_append (first second : List Char) :
    withoutBreaks (first ++ second) = withoutBreaks first ++ withoutBreaks second :=
  List.filter_append _ _

theorem words_of_onlyBreaks {run : List Char} (breaks : OnlyBreaks run) (front behind : List Char) :
    words (withoutBreaks (front ++ run ++ behind)) =
      words (withoutBreaks front ++ withoutBreaks behind) := by
  rw [withoutBreaks_append, withoutBreaks_append, breaks, List.append_nil]

theorem words_of_not_onlyBreaks {run : List Char} (blank : Blank run) (more : ¬OnlyBreaks run)
    (front behind : List Char) :
    words (withoutBreaks (front ++ run ++ behind)) =
      words (withoutBreaks front) ++ words (withoutBreaks behind) := by
  have stillBlank : Blank (withoutBreaks run) :=
    fun character member => blank character (List.mem_of_mem_filter member)
  rw [withoutBreaks_append, withoutBreaks_append, words_append_blanks_append stillBlank more]

section Abuts

variable {front behind : List Char}
  (frontWords : ∀ character ∈ front, isBlank character = true ∨ continuesIdentifier character = true)
  (behindWords :
    ∀ character ∈ behind, isBlank character = true ∨ continuesIdentifier character = true)

include frontWords behindWords

theorem words_of_not_abuts (apart : ¬Abuts front behind) :
    words (withoutBreaks front ++ withoutBreaks behind) =
      words (withoutBreaks front) ++ words (withoutBreaks behind) := by
  refine words_append_of_blank ?_
  by_cases ends : ∀ character ∈ (withoutBreaks front).getLast?, isBlank character = true
  · exact .inl ends
  · refine .inr fun head atHead => ?_
    simp only [not_forall] at ends
    obtain ⟨last, atEnd, notBlank⟩ := ends
    have lastGoesOn := (frontWords last (List.mem_of_mem_filter
      (List.mem_of_mem_getLast? atEnd))).resolve_left notBlank
    refine (behindWords head (List.mem_of_mem_filter (List.mem_of_mem_head? atHead))).resolve_right
      fun headGoesOn => apart ⟨last, atEnd, head, atHead, lastGoesOn, headGoesOn⟩

omit frontWords behindWords in
theorem length_words_of_abuts (abuts : Abuts front behind) :
    (words (withoutBreaks front ++ withoutBreaks behind)).length + 1 =
      (words (withoutBreaks front) ++ words (withoutBreaks behind)).length := by
  obtain ⟨last, atEnd, head, atHead, lastGoesOn, headGoesOn⟩ := abuts
  exact length_words_append atEnd atHead (isBlank_of_continuesIdentifier lastGoesOn)
    (isBlank_of_continuesIdentifier headGoesOn)

/-- Another run of blanks leaves the words of an argument as they are, unless one of the runs holds
words apart and the other does not. -/
theorem words_exchange {old new : List Char} (oldBlank : Blank old) (newBlank : Blank new)
    (alike : (OnlyBreaks old ↔ OnlyBreaks new) ∨ ¬Abuts front behind) :
    words (withoutBreaks (front ++ new ++ behind)) =
      words (withoutBreaks (front ++ old ++ behind)) := by
  by_cases oldBreaks : OnlyBreaks old <;> by_cases newBreaks : OnlyBreaks new
  · rw [words_of_onlyBreaks newBreaks, words_of_onlyBreaks oldBreaks]
  · have apart := alike.resolve_left fun same => newBreaks (same.1 oldBreaks)
    rw [words_of_not_onlyBreaks newBlank newBreaks, words_of_onlyBreaks oldBreaks,
      words_of_not_abuts frontWords behindWords apart]
  · have apart := alike.resolve_left fun same => oldBreaks (same.2 newBreaks)
    rw [words_of_onlyBreaks newBreaks, words_of_not_onlyBreaks oldBlank oldBreaks,
      words_of_not_abuts frontWords behindWords apart]
  · rw [words_of_not_onlyBreaks newBlank newBreaks, words_of_not_onlyBreaks oldBlank oldBreaks]

omit frontWords behindWords in
/-- Otherwise the number of words changes. -/
theorem length_words_exchange {old new : List Char} (oldBlank : Blank old) (newBlank : Blank new)
    (differ : ¬(OnlyBreaks old ↔ OnlyBreaks new)) (abuts : Abuts front behind) :
    (words (withoutBreaks (front ++ new ++ behind))).length ≠
      (words (withoutBreaks (front ++ old ++ behind))).length := by
  have grows := length_words_of_abuts abuts
  by_cases oldBreaks : OnlyBreaks old <;> by_cases newBreaks : OnlyBreaks new
  · exact absurd (iff_of_true oldBreaks newBreaks) differ
  · rw [words_of_not_onlyBreaks newBlank newBreaks, words_of_onlyBreaks oldBreaks]
    omega
  · rw [words_of_onlyBreaks newBreaks, words_of_not_onlyBreaks oldBlank oldBreaks]
    omega
  · exact absurd (iff_of_false oldBreaks newBreaks) differ

end Abuts

/-- A list goes on with the argument behind its last comma. A comma is no part of a word, so the
word at the end is that of this argument. -/
theorem exists_split_last (front : List Char) : ∃ earlier start,
    (∀ rest, Text.split ',' (front ++ rest) = earlier ++ Text.split ',' (start ++ rest)) ∧
    (∀ character ∈ start, character ≠ ',' ∧ character ∈ front) ∧
    ∀ last, continuesIdentifier last = true →
      (last ∈ (withoutBreaks start).getLast? ↔ last ∈ (withoutBreaks front).getLast?) := by
  obtain ⟨start, ordinary, rfl | ⟨before, comma, rfl, separates⟩⟩ :=
    exists_last_piece (· == ',') front
  · exact ⟨[], front, fun _ => rfl,
      fun character member => ⟨beq_eq_false_iff_ne.1 (ordinary character member), member⟩,
      fun _ _ => Iff.rfl⟩
  · obtain rfl : comma = ',' := by simpa using separates
    refine ⟨Text.split ',' before, start, fun rest => ?_, fun character member =>
      ⟨beq_eq_false_iff_ne.1 (ordinary character member), by simp [member]⟩, fun last goesOn => ?_⟩
    · rw [List.append_assoc, List.cons_append, split_append_cons]
    · have notComma : ',' ≠ last := by
        rintro rfl
        cases goesOn
      have shape : withoutBreaks (before ++ ',' :: start) =
          withoutBreaks before ++ ',' :: withoutBreaks start := by
        rw [withoutBreaks_append]
        rfl
      rw [shape, List.getLast?_append, List.getLast?_cons]
      cases (withoutBreaks start).getLast? <;> simp [notComma]

/-- An argument goes on up to the first comma of a list. -/
theorem exists_split_first (behind : List Char) : ∃ finish later,
    (∀ lead : List Char, (∀ character ∈ lead, character ≠ ',') →
      Text.split ',' (lead ++ behind) = (lead ++ finish) :: later) ∧
    (∀ character ∈ finish, character ≠ ',' ∧ character ∈ behind) ∧
    ∀ head, continuesIdentifier head = true →
      (head ∈ (withoutBreaks finish).head? ↔ head ∈ (withoutBreaks behind).head?) := by
  obtain ⟨finish, ordinary, whole⟩ := exists_first_piece (· == ',') behind
  have alone : ∀ lead : List Char, (∀ character ∈ lead, character ≠ ',') →
      Text.split ',' (lead ++ finish) = [lead ++ finish] := by
    intro lead commaless
    refine pieces_of_not_isSeparator fun character member => ?_
    rcases List.mem_append.1 member with inLead | inFinish
    · exact beq_false_of_ne (commaless character inLead)
    · exact ordinary character inFinish
  rcases whole with rfl | ⟨comma, after, rfl, separates⟩
  · exact ⟨behind, [], alone,
      fun character member => ⟨beq_eq_false_iff_ne.1 (ordinary character member), member⟩,
      fun _ _ => Iff.rfl⟩
  · obtain rfl : comma = ',' := by simpa using separates
    refine ⟨finish, Text.split ',' after, fun lead commaless => ?_, fun character member =>
      ⟨beq_eq_false_iff_ne.1 (ordinary character member), by simp [member]⟩, fun head goesOn => ?_⟩
    · rw [← List.append_assoc, split_append_cons, alone lead commaless, List.singleton_append]
    · have notComma : ',' ≠ head := by
        rintro rfl
        cases goesOn
      have shape : withoutBreaks (finish ++ ',' :: after) =
          withoutBreaks finish ++ ',' :: withoutBreaks after := by
        rw [withoutBreaks_append]
        rfl
      rw [shape, List.head?_append]
      cases (withoutBreaks finish).head? <;> simp [notComma]

/-! ### Reading with one argument exchanged -/

theorem Declares.unique {argument : List Char} {role other : Role} {name another : String}
    (first : Declares argument role name) (second : Declares argument other another) :
    (role, name) = (other, another) := by
  have same := (declares_iff_words.1 first).1.symm.trans (declares_iff_words.1 second).1
  obtain ⟨tag, rest⟩ := List.cons.inj same
  obtain ⟨nameSame, -⟩ := List.cons.inj rest
  have roleSame := Role.ofTag?_tag role
  rw [String.toList_injective tag, Role.ofTag?_tag, Option.some.injEq] at roleSame
  rw [roleSame, String.toList_injective nameSame]

/-- An argument that declares the same ports may stand in the place of another one. -/
theorem forall₂_exchange {earlier later : List (List Char)} {argument changed : List Char}
    {tokens : List (Role × String)}
    (declares : List.Forall₂ (fun argument token => Declares argument token.1 token.2)
      (earlier ++ argument :: later) tokens)
    (same : ∀ role name, Declares argument role name → Declares changed role name) :
    List.Forall₂ (fun argument token => Declares argument token.1 token.2)
      (earlier ++ changed :: later) tokens := by
  induction earlier generalizing tokens with
  | nil =>
    cases declares with
    | cons here rest => exact .cons (same _ _ here) rest
  | cons first others inductionHypothesis =>
    cases declares with
    | cons here rest => exact .cons here (inductionHypothesis rest)

/-- The first argument that has not two words is told to be malformed. -/
theorem readArguments_malformed {offset : Nat} {taken : List String}
    {earlier later : List (List Char)} {argument changed : List Char}
    {tokens : List (Role × String)}
    (declares : List.Forall₂ (fun argument token => Declares argument token.1 token.2)
      (earlier ++ argument :: later) tokens)
    (distinct : (tokens.map Prod.snd).Nodup) (free : ∀ name ∈ tokens.map Prod.snd, name ∉ taken)
    (malformed : (words (withoutBreaks changed)).length ≠ 2) : ∃ normal place,
      readArguments offset taken (earlier ++ changed :: later) =
        .error (.malformedArgument normal place) := by
  induction earlier generalizing tokens offset taken with
  | nil =>
    refine ⟨String.ofList (normalize changed), offset + byteSize (changed.takeWhile isBlank), ?_⟩
    rw [List.nil_append, readArguments, readPort]
    split
    · rename_i tag name equal
      rw [words_normalize] at equal
      simp [equal] at malformed
    · rfl
  | cons first others inductionHypothesis =>
    cases declares with
    | @cons _ token _ rest here declaresRest =>
      obtain ⟨untaken, restDistinct, restFree⟩ := nodup_free_cons_iff.1 ⟨distinct, free⟩
      obtain ⟨normal, place, failed⟩ : ∃ normal place,
          readArguments (offset + byteSize first + 1) (token.2 :: taken)
            (others ++ changed :: later) = .error (.malformedArgument normal place) :=
        inductionHypothesis declaresRest restDistinct restFree
      refine ⟨normal, place, ?_⟩
      have portRead : readPort (normalize first) (offset + byteSize (first.takeWhile isBlank)) =
          .ok ⟨token.1, token.2, _⟩ := readPort_normalize_eq_ok_iff.2 ⟨here, rfl⟩
      rw [List.cons_append, readArguments]
      simp [portRead, failed, bind, Except.bind, untaken]

/-- What is read of arguments that declare ports are these ports. -/
theorem map_of_readArguments {offset : Nat} {taken : List String} {arguments : List (List Char)}
    {tokens : List (Role × String)} {result : List (String × Port)}
    (declares : List.Forall₂ (fun argument token => Declares argument token.1 token.2) arguments
      tokens)
    (read : readArguments offset taken arguments = .ok result) :
    result.map (fun entry => (entry.2.role, entry.2.name)) = tokens := by
  have again : List.Forall₂ (fun argument token => Declares argument token.1 token.2) arguments
      (result.map fun entry => (entry.2.role, entry.2.name)) := by
    rw [List.forall₂_map_right_iff]
    exact (declares_of_readArguments read).1
  have unique : Relator.RightUnique
      fun (argument : List Char) (token : Role × String) => Declares argument token.1 token.2 :=
    fun _ _ _ first second => first.unique second
  exact List.right_unique_forall₂' unique again declares

/-- The list around a run of blanks: the run stands inside one argument, and what is next to it in
the list is next to it in the argument. -/
theorem exists_argument_around (front behind : List Char) : ∃ earlier start finish later,
    (∀ run, Blank run →
      Text.split ',' (front ++ run ++ behind) = earlier ++ (start ++ run ++ finish) :: later) ∧
    (∀ character ∈ start, character ≠ ',' ∧ character ∈ front) ∧
    (∀ character ∈ finish, character ≠ ',' ∧ character ∈ behind) ∧
    (Abuts start finish ↔ Abuts front behind) := by
  obtain ⟨earlier, start, frontSplit, startPart, startEnd⟩ := exists_split_last front
  obtain ⟨finish, later, behindSplit, finishPart, finishHead⟩ := exists_split_first behind
  refine ⟨earlier, start, finish, later, fun run blank => ?_, startPart, finishPart, ?_⟩
  · have commaless : ∀ character ∈ start ++ run, character ≠ ',' := by
      intro character member
      rcases List.mem_append.1 member with inStart | inRun
      · exact (startPart character inStart).1
      · rintro rfl
        exact absurd (blank ',' inRun) (by decide)
    rw [List.append_assoc, frontSplit, ← List.append_assoc, behindSplit _ commaless]
  · constructor
    · rintro ⟨last, atEnd, head, atHead, lastGoesOn, headGoesOn⟩
      exact ⟨last, (startEnd last lastGoesOn).1 atEnd, head, (finishHead head headGoesOn).1 atHead,
        lastGoesOn, headGoesOn⟩
    · rintro ⟨last, atEnd, head, atHead, lastGoesOn, headGoesOn⟩
      exact ⟨last, (startEnd last lastGoesOn).2 atEnd, head, (finishHead head headGoesOn).2 atHead,
        lastGoesOn, headGoesOn⟩

/-- A run of blanks in the argument list of an accepted source may be exchanged for another one. The
new source declares the same ports, unless words stand on both sides of the run and one of the two
runs is made of line breaks alone while the other is not; then it is not accepted. -/
theorem read_relayout {opening front old new behind closing : List Char} {declaration : Declaration}
    (encloses : Encloses opening (front ++ old ++ behind) closing)
    (accepted : read (sourceWith opening (front ++ old ++ behind) closing) = .ok declaration)
    (oldBlank : Blank old) (newBlank : Blank new) :
    ((OnlyBreaks old ↔ OnlyBreaks new) ∨ ¬Abuts front behind → ∃ other,
      read (sourceWith opening (front ++ new ++ behind) closing) = .ok other ∧
        other.tokens = declaration.tokens ∧ other.names = declaration.names) ∧
    (¬(OnlyBreaks old ↔ OnlyBreaks new) ∧ Abuts front behind → ∃ argument offset,
      read (sourceWith opening (front ++ new ++ behind) closing) =
        .error (.malformedArgument argument offset)) := by
  obtain ⟨before, gap, after, lists⟩ := exists_lists encloses accepted
  obtain ⟨listed, notBlank⟩ := listed_of_declares lists.declares
  have newListed : ∀ character ∈ front ++ new ++ behind, isListed character = true := by
    intro character member
    simp only [List.mem_append] at member
    rcases member with (inFront | inNew) | inBehind
    · exact listed character (by simp [inFront])
    · rw [isListed, newBlank character inNew, Bool.true_or, Bool.true_or]
    · exact listed character (by simp [inBehind])
  have newNotBlank : ¬Blank (front ++ new ++ behind) := by
    intro blank
    refine notBlank fun character member => ?_
    simp only [List.mem_append] at member
    rcases member with (inFront | inOld) | inBehind
    · exact blank character (by simp [inFront])
    · exact oldBlank character inOld
    · exact blank character (by simp [inBehind])
  rw [lists.read_relisted newListed newNotBlank]
  obtain ⟨earlier, start, finish, later, split, startPart, finishPart, abuts⟩ :=
    exists_argument_around front behind
  have declares := lists.declares
  rw [split old oldBlank] at declares
  rw [split new newBlank, ← abuts]
  have inWords : ∀ character ∈ front ++ old ++ behind, character ≠ ',' →
      isBlank character = true ∨ continuesIdentifier character = true := by
    intro character member notComma
    simpa [isListed, notComma] using listed character member
  have startWords : ∀ character ∈ start,
      isBlank character = true ∨ continuesIdentifier character = true := fun character member =>
    inWords character (by simp [(startPart character member).2]) (startPart character member).1
  have finishWords : ∀ character ∈ finish,
      isBlank character = true ∨ continuesIdentifier character = true := fun character member =>
    inWords character (by simp [(finishPart character member).2]) (finishPart character member).1
  constructor
  · intro alike
    have sameWords := words_exchange startWords finishWords oldBlank newBlank alike
    have newDeclares := forall₂_exchange declares fun role name declared => by
      rw [declares_iff_words, sameWords]
      exact declares_iff_words.1 declared
    obtain ⟨result, resultRead⟩ :=
      exists_readArguments newDeclares lists.distinct fun _ _ => List.not_mem_nil
    have sameTokens := map_of_readArguments newDeclares resultRead
    let other : Declaration := ⟨result.map Prod.fst, result.map Prod.snd, declaration.offset⟩
    have otherTokens : other.tokens = declaration.tokens := by
      rw [tokens, List.map_map]
      exact sameTokens
    refine ⟨other, ?_, otherTokens, by rw [names_eq, names_eq, otherTokens]⟩
    rw [resultRead]
    rfl
  · rintro ⟨differ, abut⟩
    obtain ⟨argument, token, declared⟩ : ∃ role name, Declares (start ++ old ++ finish) role name :=
      exists_declares_of_mem declares _ (by simp)
    have oldWords : (words (withoutBreaks (start ++ old ++ finish))).length = 2 := by
      rw [(declares_iff_words.1 declared).1]
      rfl
    have malformed := length_words_exchange oldBlank newBlank differ abut
    rw [oldWords] at malformed
    obtain ⟨normal, place, failed⟩ : ∃ normal place,
        readArguments (byteSize opening) [] (earlier ++ (start ++ new ++ finish) :: later) =
          .error (.malformedArgument normal place) :=
      readArguments_malformed declares lists.distinct (fun _ _ => List.not_mem_nil) malformed
    refine ⟨normal, place, ?_⟩
    rw [failed]
    rfl

/-- A space exchanged for a tab and a line break, and for a line break alone. -/
theorem read_relayout_tab : ∃ other, read "A3_KERNEL(a3in_t\t\na)" = .ok other ∧
    other.tokens = [(.input, "a")] ∧ other.names = "a" ∧ ∃ argument offset,
      read "A3_KERNEL(a3in_t\na)" = .error (.malformedArgument argument offset) := by
  let opening := "A3_KERNEL(".toList
  have encloses : Encloses opening ("a3in_t".toList ++ [' '] ++ ['a']) [] :=
    ⟨⟨⟨0, 9, "a3in_t a)".toList⟩, [], by decide, by decide, by decide⟩, by decide⟩
  have accepted : read (sourceWith opening ("a3in_t".toList ++ [' '] ++ ['a']) []) =
      .ok ⟨["a3in_t a"], [⟨.input, "a", 10⟩], 0⟩ := by decide
  have space : Blank [' '] := by decide
  have abuts : Abuts "a3in_t".toList ['a'] :=
    ⟨'t', by decide, 'a', by decide, by decide, by decide⟩
  obtain ⟨other, otherRead, tokens, names⟩ :=
    (read_relayout encloses accepted space (by decide : Blank ['\t', '\n'])).1
      (.inl (iff_of_false (by decide) (by decide)))
  refine ⟨other, otherRead, tokens, names, ?_⟩
  exact (read_relayout encloses accepted space (by decide : Blank ['\n'])).2
    ⟨fun same => absurd (same.2 (by decide)) (by decide), abuts⟩

/-- A line break may not stand for the space of an argument. -/
theorem read_broken_argument :
    read "A3_KERNEL(a3in_t a)" = .ok ⟨["a3in_t a"], [⟨.input, "a", 10⟩], 0⟩ ∧
    read "A3_KERNEL(a3in_t\na)" = .error (.malformedArgument "a3in_ta" 10) := by
  decide

end Declaration

end KernelExport
