/-
This file says what a tag means in the middle of a template: what the texts around it mean on their
own, with the value of the key or with the turns of the block between them.

The scanner takes the `<` of a text in pairs. Behind a text that ends in an even number of them a
tag is read as one, whatever the text is otherwise: tags that are not finished stay so, since no tag
holds a `<`. Behind an odd number the last `<` of the text is taken with the first of the tag, and
the tag is copied as it is written.
-/

import KernelExport.Proofs.Blocks
import KernelExport.Proofs.Words
import Mathlib.Algebra.Group.Nat.Even
import Mathlib.Data.List.DropRight

namespace KernelExport.Template

variable {earlier later : List Token} {template rest : Template} {tag : Tag} {character : Char}
  {content front back behind : List Char}

/-! ### Tokens that meet -/

/-- The tokens with one more in front. A text that meets a text is one text with it. -/
def Token.before : Token → List Token → List Token
  | .text content, tokens => content.foldr Token.push tokens
  | .tag tag, tokens => .tag tag :: tokens

/-- Tokens in front of others. -/
def join (tokens later : List Token) : List Token :=
  tokens.foldr Token.before later

theorem join_push (character : Char) (tokens later : List Token) :
    join (Token.push character tokens) later = Token.push character (join tokens later) := by
  match tokens with
  | [] => rfl
  | .text _ :: _ => rfl
  | .tag _ :: _ => rfl

theorem join_pushes (content : List Char) (tokens later : List Token) :
    join (content.foldr Token.push tokens) later = content.foldr Token.push (join tokens later) := by
  induction content with
  | nil => rfl
  | cons character content inductionHypothesis =>
    rw [List.foldr_cons, join_push, inductionHypothesis, List.foldr_cons]

theorem join_join (tokens next later : List Token) :
    join (join tokens next) later = join tokens (join next later) := by
  induction tokens with
  | nil => rfl
  | cons token tokens inductionHypothesis =>
    cases token with
    | text content =>
      exact (join_pushes content _ later).trans
        (congrArg (fun joined => content.foldr Token.push joined) inductionHypothesis)
    | tag tag => exact congrArg (Token.tag tag :: ·) inductionHypothesis

/-- A tag keeps the texts in front of it and behind it apart. -/
theorem join_tag (tokens later : List Token) (tag : Tag) :
    join tokens (.tag tag :: later) = join tokens [] ++ .tag tag :: later := by
  have push : ∀ character (front : List Token),
      Token.push character (front ++ .tag tag :: later) =
        Token.push character front ++ .tag tag :: later := by
    intro character front
    match front with
    | [] => rfl
    | .text _ :: _ => rfl
    | .tag _ :: _ => rfl
  have pushes : ∀ (content : List Char) (front : List Token),
      content.foldr Token.push (front ++ .tag tag :: later) =
        content.foldr Token.push front ++ .tag tag :: later := by
    intro content front
    induction content with
    | nil => rfl
    | cons character content same => rw [List.foldr_cons, same, push, List.foldr_cons]
  induction tokens with
  | nil => rfl
  | cons token tokens inductionHypothesis =>
    cases token with
    | text content =>
      show content.foldr Token.push (join tokens _) = content.foldr Token.push (join tokens []) ++ _
      rw [inductionHypothesis, pushes]
    | tag other => exact congrArg (Token.tag other :: ·) inductionHypothesis

/-- Text in front of a template, character by character. -/
theorem Reads.pushes (reads : Reads earlier template) (content : List Char) :
    ∃ pushed, Reads (content.foldr Token.push earlier) pushed ∧ ∀ scopes,
      pushed.render scopes = (Template.text (String.ofList content) template).render scopes := by
  induction content with
  | nil =>
    refine ⟨template, reads, fun scopes => ?_⟩
    simp only [render, String.ofList_nil, String.empty_append, bind_pure]
  | cons character content inductionHypothesis =>
    obtain ⟨pushed, readsPushed, same⟩ := inductionHypothesis
    have meets : ∀ scopes, (Template.text (String.ofList [character]) pushed).render scopes =
        (Template.text (String.ofList (character :: content)) template).render scopes := by
      intro scopes
      simp only [render, same, bind_assoc, pure_bind, ← String.append_assoc, ← String.ofList_append]
      rfl
    rw [List.foldr_cons]
    generalize content.foldr Token.push earlier = others at readsPushed
    cases readsPushed with
    | done => exact ⟨_, .text .done, meets⟩
    | value reads => exact ⟨_, .text (.value reads), meets⟩
    | generate readsBody reads => exact ⟨_, .text (.generate readsBody reads), meets⟩
    | text reads =>
      refine ⟨_, .text reads, fun scopes => ?_⟩
      rw [← meets]
      simp only [render, bind_assoc, pure_bind, ← String.append_assoc, ← String.ofList_append]
      rfl

/-- Templates that meet are a template with the meaning of the two. -/
theorem Reads.join (reads : Reads earlier template) (readsLater : Reads later rest) :
    ∃ joined, Reads (join earlier later) joined ∧
      ∀ scopes, joined.render scopes = (template.append rest).render scopes := by
  induction reads generalizing later rest with
  | done => exact ⟨rest, readsLater, fun _ => rfl⟩
  | text _ inductionHypothesis =>
    obtain ⟨joined, readsJoined, same⟩ := inductionHypothesis readsLater
    obtain ⟨pushed, readsPushed, samePushed⟩ := readsJoined.pushes _
    refine ⟨pushed, readsPushed, fun scopes => ?_⟩
    simp only [samePushed, Template.append, render, same]
  | value _ inductionHypothesis =>
    obtain ⟨joined, readsJoined, same⟩ := inductionHypothesis readsLater
    refine ⟨_, .value readsJoined, fun scopes => ?_⟩
    simp only [Template.append, render, same]
  | @generate key inner behind _ _ _ _ bodyHypothesis inductionHypothesis =>
    obtain ⟨body, readsBody, sameBody⟩ := bodyHypothesis .done
    obtain ⟨joined, readsJoined, same⟩ := inductionHypothesis readsLater
    refine ⟨.generate key body joined, ?_, fun scopes => ?_⟩
    · have inside : Template.join (inner ++ .tag .endGenerate :: behind) later =
          Template.join inner [] ++ .tag .endGenerate :: Template.join behind later :=
        List.foldr_append.trans (join_tag ..)
      show Reads (.tag (.generate key) :: Template.join (inner ++ .tag .endGenerate :: behind) later) _
      rw [inside]
      exact .generate readsBody readsJoined
    · simp only [Template.append, render, same, sameBody, append_done]

/-! ### Tags -/

/-- No tag holds a `<`. -/
theorem ofContent?_eq_none (member : '<' ∈ content) : Tag.ofContent? content = none := by
  have notEnd : content ≠ Tag.endContent := by
    rintro rfl
    exact absurd member (by decide)
  rw [Tag.ofContent?, if_neg notEnd]
  split
  · rename_i isPrefix
    obtain ⟨key, rfl⟩ := List.isPrefixOf_iff_prefix.1 isPrefix
    rw [List.drop_left]
    have inKey : '<' ∈ key := (List.mem_append.1 member).resolve_left (by decide)
    exact if_neg fun isIdentifier => Text.not_mem_of_isIdentifier isIdentifier (by decide) inKey
  · exact if_neg fun isIdentifier => Text.not_mem_of_isIdentifier isIdentifier (by decide) member

/-- A key that a tag can name. -/
structure Key where
  name : String
  isIdentifier : Text.isIdentifier name.toList = true

/-- The tags that a template can hold: they are read as they are written, and only their end
closes them. -/
structure Tag.Proper (tag : Tag) : Prop where
  read : Tag.ofContent? tag.content = some tag
  inLine : '\n' ∉ tag.content
  unclosed : '>' ∉ tag.content

theorem Tag.Proper.unopened (proper : tag.Proper) : '<' ∉ tag.content := by
  intro member
  have none := ofContent?_eq_none member
  rw [proper.read] at none
  cases none

theorem Tag.proper_value (key : Key) : (Tag.value key.name).Proper := by
  have other : ∀ {character}, Text.continuesIdentifier character = false →
      character ∉ key.name.toList := Text.not_mem_of_isIdentifier key.isIdentifier
  refine ⟨?_, other (by decide), other (by decide)⟩
  have notEnd : key.name.toList ≠ endContent := by
    intro same
    exact other (by decide : Text.continuesIdentifier ' ' = false) (same ▸ by decide)
  have notGenerate : ¬ generateContent.isPrefixOf key.name.toList := by
    intro isPrefix
    exact other (by decide : Text.continuesIdentifier ' ' = false)
      ((List.isPrefixOf_iff_prefix.1 isPrefix).subset (by decide))
  rw [content, ofContent?, if_neg notEnd, if_neg notGenerate, if_pos key.isIdentifier,
    String.ofList_toList]

theorem Tag.proper_generate (key : Key) : (Tag.generate key.name).Proper := by
  have other : ∀ {character}, Text.continuesIdentifier character = false →
      character ∉ key.name.toList := Text.not_mem_of_isIdentifier key.isIdentifier
  refine ⟨?_, ?_, ?_⟩
  · have notEnd : generateContent ++ key.name.toList ≠ endContent := by
      intro same
      cases same
    rw [content, ofContent?, if_neg notEnd, if_pos (List.isPrefixOf_iff_prefix.2 ⟨_, rfl⟩),
      List.drop_left]
    exact (if_pos key.isIdentifier).trans (by rw [String.ofList_toList])
  · exact fun member => (List.mem_append.1 member).elim (by decide) (other (by decide))
  · exact fun member => (List.mem_append.1 member).elim (by decide) (other (by decide))

theorem Tag.proper_endGenerate : Tag.endGenerate.Proper :=
  ⟨by decide, by decide, by decide⟩

/-! ### Where tags close -/

theorem cutAtClose_cons (other : ¬ (character = '>' ∧ back.head? = some '>')) :
    cutAtClose (character :: back) =
      (cutAtClose back).map fun (before, behind) => (character :: before, behind) := by
  rw [cutAtClose]
  rintro rest rfl rfl
  exact other ⟨rfl, rfl⟩

/-- What is closed is closed there whatever follows. -/
theorem cutAtClose_append (back : List Char) (cut : cutAtClose front = some (content, behind)) :
    cutAtClose (front ++ back) = some (content, behind ++ back) := by
  fun_induction cutAtClose front generalizing content with
  | case1 rest =>
    cases cut
    rfl
  | case2 character rest notClose inductionHypothesis =>
    obtain ⟨⟨before, later⟩, found, same⟩ := Option.map_eq_some_iff.1 cut
    cases same
    rw [List.cons_append, cutAtClose_cons, inductionHypothesis found]
    · rfl
    · rintro ⟨rfl, closes⟩
      cases rest with
      | nil => cases found
      | cons next rest => exact notClose rest rfl (by cases closes; rfl)
  | case3 => cases cut

/-- What is not closed before a `<` holds it when it is. -/
theorem mem_of_cutAtClose (unclosed : cutAtClose front = none)
    (cut : cutAtClose (front ++ '<' :: back) = some (content, behind)) : '<' ∈ content := by
  fun_induction cutAtClose front generalizing content with
  | case1 rest => cases unclosed
  | case2 character rest notClose inductionHypothesis =>
    have notClosed : cutAtClose rest = none := Option.map_eq_none_iff.1 unclosed
    rw [List.cons_append, cutAtClose_cons] at cut
    · obtain ⟨⟨before, later⟩, found, same⟩ := Option.map_eq_some_iff.1 cut
      cases same
      exact List.mem_cons_of_mem _ (inductionHypothesis notClosed found)
    · rintro ⟨rfl, closes⟩
      cases rest with
      | nil => cases closes
      | cons next rest => exact notClose rest rfl (by cases closes; rfl)
  | case3 =>
    rw [List.nil_append, cutAtClose_cons (by simp)] at cut
    obtain ⟨_, _, same⟩ := Option.map_eq_some_iff.1 cut
    cases same
    exact List.mem_cons_self

theorem eq_of_cutAtClose (cut : cutAtClose front = some (content, behind)) :
    front = content ++ '>' :: '>' :: behind := by
  fun_induction cutAtClose front generalizing content with
  | case1 rest =>
    cases cut
    rfl
  | case2 character rest notClose inductionHypothesis =>
    obtain ⟨⟨before, later⟩, found, same⟩ := Option.map_eq_some_iff.1 cut
    cases same
    rw [inductionHypothesis found, List.cons_append]
  | case3 => cases cut

theorem cutAtClose_written (unclosed : '>' ∉ content) (back : List Char) :
    cutAtClose (content ++ '>' :: '>' :: back) = some (content, back) := by
  induction content with
  | nil => rfl
  | cons character content inductionHypothesis =>
    rw [List.mem_cons, not_or] at unclosed
    rw [List.cons_append, cutAtClose_cons (fun closes => unclosed.1 closes.1.symm),
      inductionHypothesis unclosed.2]
    rfl

theorem tagAt_eq_some_iff : tagAt front = some (tag, behind) ↔ ∃ content,
    cutAtClose front = some (content, behind) ∧ '\n' ∉ content ∧ Tag.ofContent? content = some tag := by
  constructor
  · intro found
    unfold tagAt at found
    split at found
    · cases found
    · rename_i content later cut
      split at found
      · cases found
      · rename_i inLine
        obtain ⟨_, read, same⟩ := Option.map_eq_some_iff.1 found
        cases same
        exact ⟨content, cut, inLine, read⟩
  · rintro ⟨content, cut, inLine, read⟩
    rw [tagAt, cut]
    exact (if_neg inLine).trans (by rw [read]; rfl)

/-- A tag is found whatever follows it. -/
theorem tagAt_append (back : List Char) (found : tagAt front = some (tag, behind)) :
    tagAt (front ++ back) = some (tag, behind ++ back) := by
  obtain ⟨content, cut, rest⟩ := tagAt_eq_some_iff.1 found
  exact tagAt_eq_some_iff.2 ⟨content, cutAtClose_append back cut, rest⟩

/-- Where there is no tag, none comes to be by a `<` that follows. -/
theorem tagAt_append_eq_none (back : List Char) (none : tagAt front = none) :
    tagAt (front ++ '<' :: back) = Option.none := by
  refine Option.eq_none_iff_forall_ne_some.2 ?_
  rintro ⟨tag, behind⟩ found
  obtain ⟨content, cut, inLine, read⟩ := tagAt_eq_some_iff.1 found
  cases earlier : cutAtClose front with
  | none =>
    rw [ofContent?_eq_none (mem_of_cutAtClose earlier cut)] at read
    cases read
  | some parts =>
    obtain ⟨before, later⟩ := parts
    rw [cutAtClose_append _ earlier] at cut
    cases cut
    rw [tagAt_eq_some_iff.2 ⟨content, earlier, inLine, read⟩] at none
    cases none

theorem tagAt_written (proper : tag.Proper) (back : List Char) :
    tagAt (tag.content ++ '>' :: '>' :: back) = some (tag, back) :=
  tagAt_eq_some_iff.2 ⟨_, cutAtClose_written proper.unclosed back, proper.inLine, proper.read⟩

/-! ### The scanner -/

theorem tokens_of_tagAt (found : tagAt front = some (tag, behind)) :
    tokens ('<' :: '<' :: front) = .tag tag :: tokens behind := by
  rw [tokens]
  split
  · rename_i other later same
    rw [found] at same
    cases same
    rfl
  · rename_i none
    rw [found] at none
    cases none

theorem tokens_of_tagAt_none (none : tagAt front = Option.none) :
    tokens ('<' :: '<' :: front) = Token.push '<' (Token.push '<' (tokens front)) := by
  rw [tokens]
  split
  · rename_i found
    rw [none] at found
    cases found
  · rfl

theorem tokens_cons (single : ¬ (character = '<' ∧ front.head? = some '<')) :
    tokens (character :: front) = Token.push character (tokens front) := by
  rw [tokens]
  rintro rest rfl rfl
  exact single ⟨rfl, rfl⟩

theorem tokens_written (proper : tag.Proper) (back : List Char) :
    tokens (tag.written ++ back) = .tag tag :: tokens back := by
  rw [Tag.written, List.append_assoc, List.append_assoc]
  exact tokens_of_tagAt (tagAt_written proper back)

/-- A text without `<` is copied. -/
theorem tokens_plain (plain : '<' ∉ content) (back : List Char) :
    tokens (content ++ back) = content.foldr Token.push (tokens back) := by
  induction content with
  | nil => rfl
  | cons character content inductionHypothesis =>
    rw [List.mem_cons, not_or] at plain
    rw [List.cons_append, tokens_cons (fun single => plain.1 single.1.symm),
      inductionHypothesis plain.2, List.foldr_cons]

/-- Whether a `<` is left over when those at the end of a text are taken in pairs. -/
def leavesOne (text : List Char) : Bool :=
  text.foldl (fun left character => character == '<' && !left) false

theorem leavesOne_concat (text : List Char) (character : Char) :
    leavesOne (text ++ [character]) = (character == '<' && !leavesOne text) := by
  rw [leavesOne, List.foldl_append]
  rfl

theorem leavesOne_append (text : List Char) {character : Char} (other : character ≠ '<')
    (back : List Char) : leavesOne (text ++ character :: back) = leavesOne back := by
  rw [leavesOne, List.foldl_append, List.foldl_cons, beq_eq_false_iff_ne.2 other]
  rfl

theorem leavesOne_eq (text : List Char) :
    leavesOne text = decide (¬ Even (text.rtakeWhile (· == '<')).length) := by
  induction text using List.reverseRecOn with
  | nil => rfl
  | append_singleton text character inductionHypothesis =>
    rw [leavesOne_concat, List.rtakeWhile_concat, inductionHypothesis]
    split
    · rename_i opens
      simp only [opens, Bool.true_and, List.length_append, List.length_singleton, Nat.even_add_one,
        decide_not, Bool.not_not]
    · rename_i other
      simp [other]

/-- A text whose `<` are taken in pairs is read as it is on its own, with a `<` behind it. -/
theorem tokens_append (paired : leavesOne front = false) (back : List Char) :
    tokens (front ++ '<' :: back) = join (tokens front) (tokens ('<' :: back)) := by
  fun_induction tokens front with
  | case1 rest tag behind found inductionHypothesis =>
    obtain ⟨content, cut, -⟩ := tagAt_eq_some_iff.1 found
    have pairedBehind : leavesOne behind = false := by
      rw [eq_of_cutAtClose cut] at paired
      have other : '>' ≠ '<' := by decide
      exact (leavesOne_append [] other behind).symm.trans
        ((leavesOne_append ('<' :: '<' :: content) other ('>' :: behind)).symm.trans paired)
    rw [List.cons_append, List.cons_append, tokens_of_tagAt (tagAt_append _ found),
      inductionHypothesis pairedBehind]
    rfl
  | case2 rest found inductionHypothesis =>
    rw [List.cons_append, List.cons_append,
      tokens_of_tagAt_none (tagAt_append_eq_none back found), inductionHypothesis paired, join_push,
      join_push]
  | case3 character rest notPair inductionHypothesis =>
    have single : ¬ (character = '<' ∧ rest.head? = some '<') := by
      rintro ⟨rfl, opens⟩
      obtain ⟨later, rfl⟩ := List.head?_eq_some_iff.1 opens
      exact notPair later rfl rfl
    -- The last `<` of the text would be left over.
    have notLast : ¬ (character = '<' ∧ (rest ++ '<' :: back).head? = some '<') := by
      rintro ⟨rfl, opens⟩
      cases rest with
      | nil => cases paired
      | cons next rest => exact single ⟨rfl, opens⟩
    have pairedRest : leavesOne rest = false := by
      by_cases opens : character = '<'
      · subst opens
        cases rest with
        | nil => rfl
        | cons next rest =>
          have other : next ≠ '<' := fun same => single ⟨rfl, congrArg some same⟩
          rw [show '<' :: next :: rest = ['<'] ++ next :: rest from rfl,
            leavesOne_append _ other] at paired
          exact (leavesOne_append [] other rest).trans paired
      · exact (leavesOne_append [] opens rest).symm.trans paired
    rw [List.cons_append, tokens_cons notLast, inductionHypothesis pairedRest, join_push]
  | case4 => rfl

theorem written_eq (tag : Tag) : tag.written = '<' :: '<' :: (tag.content ++ ['>', '>']) := rfl

/-- A tag counts behind a text whose `<` are taken in pairs. -/
theorem tokens_append_written (proper : tag.Proper) (paired : leavesOne front = false)
    (back : List Char) :
    tokens (front ++ (tag.written ++ back)) = join (tokens front) (.tag tag :: tokens back) := by
  rw [← tokens_written proper, written_eq, List.cons_append, tokens_append paired]

/-- A tag is copied behind a text that leaves a `<` over. -/
theorem tokens_append_copied (proper : tag.Proper) (left : leavesOne front = true)
    (back : List Char) :
    tokens (front ++ (tag.written ++ back)) =
      join (tokens front) (tag.written.foldr Token.push (tokens back)) := by
  cases front using List.reverseRecOn with
  | nil => cases left
  | append_singleton before last =>
    rw [leavesOne_concat, Bool.and_eq_true, beq_iff_eq, Bool.not_eq_true'] at left
    obtain ⟨rfl, paired⟩ := left
    have plain : '<' ∉ tag.content ++ ['>', '>'] := fun member =>
      proper.unopened ((List.mem_append.1 member).resolve_right (by decide))
    -- The `<` that is left over is taken with the first of the tag, and there is no tag at them.
    have noTag : tagAt ('<' :: (tag.content ++ ['>', '>'] ++ back)) = none :=
      tagAt_append_eq_none _ (rfl : tagAt [] = none)
    have single : ¬ ('<' = '<' ∧ (tag.content ++ ['>', '>'] ++ back).head? = some '<') := by
      rintro ⟨-, opens⟩
      refine plain (List.mem_of_mem_head? ?_)
      rwa [List.head?_append_of_ne_nil _ (by simp)] at opens
    have copied : tokens ('<' :: (tag.written ++ back)) =
        Token.push '<' (tag.written.foldr Token.push (tokens back)) := by
      rw [written_eq, List.cons_append, List.cons_append, tokens_of_tagAt_none noTag,
        tokens_cons single, tokens_plain plain]
      rfl
    have alone : tokens ['<'] = Token.push '<' [] := by
      rw [tokens_cons (by simp), tokens]
    rw [List.append_assoc, List.singleton_append, tokens_append paired, copied,
      tokens_append paired, alone, join_join, join_push]
    rfl

/-! ### Texts with a tag between them -/

variable {scopes : List Scope} {pre body post : String}

theorem toList_written_value (key : Key) :
    ("<<" ++ key.name ++ ">>").toList = (Tag.value key.name).written := by
  simp [Tag.written, Tag.content]

theorem read_eq_ok_iff {text : String} :
    read text = .ok template ↔ Reads (tokens text.toList) template :=
  ofTokens_eq_ok_iff

theorem renderText_of_reads {text : String} (reads : Reads (tokens text.toList) template)
    (scopes : List Scope) : renderText text scopes = template.render scopes := by
  rw [renderText, read_eq_ok_iff.2 reads]
  rfl

theorem exists_reads_of_renderText {text written : String}
    (renders : renderText text scopes = .ok written) :
    ∃ template, Reads (tokens text.toList) template ∧ template.render scopes = .ok written := by
  cases reading : read text with
  | error =>
    rw [renderText, reading] at renders
    cases renders
  | ok template =>
    have reads := read_eq_ok_iff.1 reading
    exact ⟨template, reads, (renderText_of_reads reads scopes).symm.trans renders⟩

/-- A text that is read as one template in front of another means what the two mean. -/
theorem renderText_of_join {text : String} (reads : Reads earlier template)
    (readsLater : Reads later rest) (joins : tokens text.toList = join earlier later)
    (scopes : List Scope) : renderText text scopes = (do
      let front ← template.render scopes
      let back ← rest.render scopes
      pure (front ++ back)) := by
  obtain ⟨joined, readsJoined, same⟩ := reads.join readsLater
  rw [renderText_of_reads (joins ▸ readsJoined), same, render_append]

/-- A text with the name of a key in a tag between two others means what they mean, with the text of
the key's value between them, if the `<` at the end of the text in front are taken in pairs. A `<`
that is left over there takes one from the tag, and the tag is copied. -/
theorem renderText_value (key : Key) {value : Value} {front text back : String}
    (known : lookup? scopes key.name = some value) (scalar : value.scalarText? = some text)
    (rendersFront : renderText pre scopes = .ok front)
    (rendersBack : renderText post scopes = .ok back) :
    renderText (pre ++ ("<<" ++ key.name ++ ">>") ++ post) scopes =
      .ok (front ++ (if Even (pre.toList.rtakeWhile (· == '<')).length then text
        else "<<" ++ key.name ++ ">>") ++ back) := by
  obtain ⟨before, readsFront, meansFront⟩ := exists_reads_of_renderText rendersFront
  obtain ⟨behind, readsBack, meansBack⟩ := exists_reads_of_renderText rendersBack
  have proper := Tag.proper_value key
  have whole : (pre ++ ("<<" ++ key.name ++ ">>") ++ post).toList =
      pre.toList ++ ((Tag.value key.name).written ++ post.toList) := by
    rw [String.toList_append, String.toList_append, toList_written_value, List.append_assoc]
  have odd := leavesOne_eq pre.toList
  split
  · rename_i paired
    have means : valueText scopes key.name = .ok text := by
      rw [valueText, known]
      simp only [scalar]
    rw [renderText_of_join readsFront (.value readsBack)
      (whole ▸ tokens_append_written proper (by simpa [paired] using odd) _)]
    simp only [render, meansFront, means, meansBack]
    exact congrArg Except.ok String.append_assoc.symm
  · rename_i left
    obtain ⟨copied, readsCopied, meansCopied⟩ := readsBack.pushes (Tag.value key.name).written
    rw [renderText_of_join readsFront readsCopied
      (whole ▸ tokens_append_copied proper (by simpa [left] using odd) _), meansCopied,
      ← toList_written_value, String.ofList_toList]
    simp only [render, meansFront, meansBack]
    exact congrArg Except.ok String.append_assoc.symm

/-- Behind a shift operator the value of a key is written. -/
theorem renderText_value_shifted :
    let scopes := [[("K", Value.text "<<K>>")]]
    lookup? scopes "K" = some (.text "<<K>>") ∧ (Value.text "<<K>>").scalarText? = some "<<K>>" ∧
      renderText "x <<" scopes = .ok "x <<" ∧ renderText ";" scopes = .ok ";" ∧
      renderText ("x <<" ++ ("<<" ++ "K" ++ ">>") ++ ";") scopes = .ok ("x <<" ++ "<<K>>" ++ ";") := by
  intro scopes
  have scalar : (Value.text "<<K>>").scalarText? = some "<<K>>" := rfl
  have front : renderText "x <<" scopes = .ok "x <<" := by decide +kernel
  have back : renderText ";" scopes = .ok ";" := by decide +kernel
  refine ⟨rfl, scalar, front, back, ?_⟩
  rw [renderText_value ⟨"K", by decide⟩ rfl scalar front back, if_pos (by decide)]

/-- Behind a single `<` the value is not written. -/
theorem renderText_value_copied :
    let scopes := [[("K", Value.text "v")]]
    renderText "<" scopes = .ok "<" ∧ renderText "" scopes = .ok "" ∧
      renderText ("<" ++ ("<<" ++ "K" ++ ">>") ++ "") scopes = .ok "<<<K>>" ∧
      renderText ("<" ++ ("<<" ++ "K" ++ ">>") ++ "") scopes ≠ .ok ("<" ++ "v" ++ "") := by
  decide +kernel

theorem leavesOne_of_getLast? {text : List Char} (ends : text.getLast? ≠ some '<') :
    leavesOne text = false := by
  cases text using List.reverseRecOn with
  | nil => rfl
  | append_singleton text character =>
    rw [List.getLast?_concat] at ends
    rw [leavesOne_concat, beq_eq_false_iff_ne.2 fun same => ends (congrArg some same)]
    rfl

theorem toList_written_generate (key : Key) :
    ("<<generate for " ++ key.name ++ ">>").toList = (Tag.generate key.name).written := by
  have opens : "<<generate for ".toList = ['<', '<'] ++ Tag.generateContent := by decide
  have closes : ">>".toList = ['>', '>'] := by decide
  rw [String.toList_append, String.toList_append, opens, closes, List.append_assoc ['<', '<']]
  rfl

/-- A block between two texts means what the text in front means, then what its body means in the
scope of each record inside the scopes around it, and then what the text behind means. The first of
these that means nothing decides the fault. -/
theorem renderText_generate (key : Key) {entries : List Scope} {before inner behind : Template}
    (known : lookup? scopes key.name = some (.list (entries.map .record)))
    (readsPre : read pre = .ok before) (readsBody : read body = .ok inner)
    (readsPost : read post = .ok behind) (preEnds : pre.toList.getLast? ≠ some '<')
    (bodyEnds : body.toList.getLast? ≠ some '<') :
    renderText (pre ++ ("<<generate for " ++ key.name ++ ">>") ++ body ++ "<<end generate>>" ++ post)
        scopes = (do
      let front ← renderText pre scopes
      let turns ← entries.mapM fun entry => renderText body (entry :: scopes)
      let back ← renderText post scopes
      pure (front ++ String.join turns ++ back)) := by
  rw [read_eq_ok_iff] at readsPre readsBody readsPost
  obtain ⟨content, readsContent, same⟩ := readsBody.join .done
  -- The tags are read behind the texts in front of them, and keep the body apart.
  have written : "<<end generate>>".toList = Tag.endGenerate.written := by decide
  have whole : tokens (pre ++ ("<<generate for " ++ key.name ++ ">>") ++ body ++
      "<<end generate>>" ++ post).toList = join (tokens pre.toList) (.tag (.generate key.name) ::
        (join (tokens body.toList) [] ++ .tag .endGenerate :: tokens post.toList)) := by
    rw [String.toList_append, String.toList_append, String.toList_append, String.toList_append,
      toList_written_generate, written, List.append_assoc, List.append_assoc, List.append_assoc,
      tokens_append_written (Tag.proper_generate key) (leavesOne_of_getLast? preEnds),
      tokens_append_written Tag.proper_endGenerate (leavesOne_of_getLast? bodyEnds),
      join_tag (tokens body.toList)]
  have turns : ((entries.map Value.record).mapM fun item => do
      let scope ← itemScope key.name item
      content.render (scope :: scopes)) =
      entries.mapM fun entry => renderText body (entry :: scopes) := by
    rw [List.mapM_map]
    refine congrArg (entries.mapM ·) (funext fun entry => ?_)
    rw [renderText_of_reads readsBody, ← append_done inner, ← same]
    rfl
  have items : listItems scopes key.name = .ok (entries.map Value.record) := by
    rw [listItems, known]
  rw [renderText_of_join readsPre (.generate readsContent readsPost) whole,
    renderText_of_reads readsPre, renderText_of_reads readsPost, ← turns]
  simp only [render, items, bind_assoc, pure_bind, String.append_assoc]
  rfl

/-- In a block inside a block the key of the inner records hides that of the outer one, and is
known behind the inner block no more. -/
theorem renderText_generate_nested :
    let scopes : List Scope :=
      [[("K", .list [.record [("x", .text "1"), ("L", .list [.record [("x", .text "2")]])]])]]
    let body := "<<generate for L>><<x>><<end generate>><<x>>"
    ∃ before inner behind, read "a" = .ok before ∧ read body = .ok inner ∧ read "b" = .ok behind ∧
      renderText ("a" ++ ("<<generate for " ++ "K" ++ ">>") ++ body ++ "<<end generate>>" ++ "b")
        scopes = .ok "a21b" := by
  intro scopes body
  have readsPre : read "a" = .ok (.text "a" .done) := by decide +kernel
  have readsBody : read body =
      .ok (.generate "L" (.value "x" .done) (.value "x" .done)) := by decide +kernel
  have readsPost : read "b" = .ok (.text "b" .done) := by decide +kernel
  refine ⟨_, _, _, readsPre, readsBody, readsPost, ?_⟩
  have known : lookup? scopes "K" = some (.list
      ([[("x", .text "1"), ("L", .list [.record [("x", .text "2")]])]].map Value.record)) := rfl
  rw [renderText_generate ⟨"K", by decide⟩ known readsPre readsBody readsPost (by decide)
    (by decide +kernel)]
  decide +kernel

end KernelExport.Template
