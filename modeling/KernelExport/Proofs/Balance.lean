/-
This file says which texts are templates, by the tags in them alone: those whose blocks are
balanced.

The tags of a text are found from left to right (`Scans`). No prefix of them may end more blocks
than it opens, and as many blocks must end as open. The reader puts tokens together from the last to
the first, so it is not told how many blocks are open; what it holds after the tokens of a text is
how far a prefix of their tags goes below zero at worst, and the last block that stays open
(`Tallies`).
-/

import KernelExport.Proofs.Splicing
import KernelExport.Proofs.Steps

namespace KernelExport.Template

variable {tags before inner : List Tag} {tag : Tag} {tokens : List Token} {assembly : Assembly}
  {character : Char} {content behind : List Char} {key : String}

/-! ### The tags of a text -/

/-- The tags that are found in a text from left to right. At each `<<` a tag counts if it is written
there, and the search goes on behind it; if none is written there it goes on behind the `<<`. -/
inductive Scans : List Char → List Tag → Prop where
  | done : Scans [] []
  | other {character : Char} {rest : List Char} {tags : List Tag}
      (single : ¬ (character = '<' ∧ rest.head? = some '<')) (scans : Scans rest tags) :
      Scans (character :: rest) tags
  | tag {tag : Tag} {behind : List Char} {tags : List Tag}
      (proper : tag.Proper) (scans : Scans behind tags) :
      Scans (tag.written ++ behind) (tag :: tags)
  | copied {rest : List Char} {tags : List Tag}
      (noTag : ∀ tag : Tag, tag.Proper → ¬ tag.written <+: '<' :: '<' :: rest)
      (scans : Scans rest tags) : Scans ('<' :: '<' :: rest) tags

/-- The tags among tokens. -/
def tagsOf (tokens : List Token) : List Tag :=
  tokens.filterMap fun
    | .text _ => none
    | .tag tag => some tag

@[simp] theorem tagsOf_tag (tag : Tag) (tokens : List Token) :
    tagsOf (.tag tag :: tokens) = tag :: tagsOf tokens := rfl

@[simp] theorem tagsOf_append (tokens later : List Token) :
    tagsOf (tokens ++ later) = tagsOf tokens ++ tagsOf later := List.filterMap_append

@[simp] theorem tagsOf_push (character : Char) (tokens : List Token) :
    tagsOf (Token.push character tokens) = tagsOf tokens := by
  match tokens with
  | [] => rfl
  | .text _ :: _ => rfl
  | .tag _ :: _ => rfl

/-- What is read as a tag is the content of that tag. -/
theorem proper_of_ofContent? (read : Tag.ofContent? content = some tag) :
    tag.content = content ∧ tag.Proper := by
  unfold Tag.ofContent? at read
  split at read
  · rename_i isEnd
    cases read
    exact ⟨isEnd.symm, Tag.proper_endGenerate⟩
  split at read
  · rename_i isPrefix
    obtain ⟨name, rfl⟩ := List.isPrefixOf_iff_prefix.1 isPrefix
    simp only [List.drop_left] at read
    split at read
    · rename_i isIdentifier
      cases read
      refine ⟨?_, Tag.proper_generate ⟨String.ofList name, by rwa [String.toList_ofList]⟩⟩
      rw [Tag.content, String.toList_ofList]
    · cases read
  · split at read
    · rename_i isIdentifier
      cases read
      exact ⟨String.toList_ofList,
        Tag.proper_value ⟨String.ofList content, by rwa [String.toList_ofList]⟩⟩
    · cases read

theorem proper_of_tagAt {text : List Char} (found : tagAt text = some (tag, behind)) :
    tag.Proper ∧ tag.written ++ behind = '<' :: '<' :: text := by
  obtain ⟨content, cut, -, read⟩ := tagAt_eq_some_iff.1 found
  obtain ⟨rfl, proper⟩ := proper_of_ofContent? read
  rw [eq_of_cutAtClose cut]
  exact ⟨proper, by simp [Tag.written]⟩

/-- There is no tag exactly where none is written. -/
theorem tagAt_eq_none_iff {text : List Char} : tagAt text = none ↔
    ∀ tag : Tag, tag.Proper → ¬ tag.written <+: '<' :: '<' :: text := by
  constructor
  · rintro none tag proper ⟨behind, same⟩
    rw [written_eq, List.cons_append, List.cons_append, List.cons.injEq, List.cons.injEq] at same
    have found : tagAt text = some (tag, behind) := by
      rw [← same.2.2, List.append_assoc]
      exact tagAt_written proper behind
    rw [none] at found
    cases found
  · intro noTag
    refine Option.eq_none_iff_forall_ne_some.2 ?_
    rintro ⟨tag, behind⟩ found
    obtain ⟨proper, written⟩ := proper_of_tagAt found
    exact noTag tag proper ⟨behind, written⟩

/-- The tokens of a text hold the tags that are found in it, and no other tags are. -/
theorem scans_iff {text : List Char} : Scans text tags ↔ tags = tagsOf (Template.tokens text) := by
  constructor
  · intro scans
    induction scans with
    | done => rw [Template.tokens]; rfl
    | other single _ same => rw [tokens_cons single, tagsOf_push, same]
    | tag proper _ same => rw [tokens_written proper, tagsOf_tag, same]
    | copied noTag _ same =>
      rw [tokens_of_tagAt_none (tagAt_eq_none_iff.2 noTag), tagsOf_push, tagsOf_push, same]
  · rintro rfl
    fun_induction Template.tokens text with
    | case1 rest tag behind found scans =>
      obtain ⟨proper, written⟩ := proper_of_tagAt found
      exact written ▸ .tag proper scans
    | case2 rest none scans =>
      rw [tagsOf_push, tagsOf_push]
      exact .copied (tagAt_eq_none_iff.1 none) scans
    | case3 character rest notPair scans =>
      rw [tagsOf_push]
      refine .other ?_ scans
      rintro ⟨rfl, opens⟩
      obtain ⟨later, rfl⟩ := List.head?_eq_some_iff.1 opens
      exact notPair later rfl rfl
    | case4 => exact .done

/-! ### Blocks that open and end -/

/-- How many blocks open in tags. -/
def opened (tags : List Tag) : Nat :=
  tags.countP (· matches .generate _)

/-- How many blocks end in tags. -/
def ended (tags : List Tag) : Nat :=
  tags.countP (· matches .endGenerate)

/-- Some prefix of the tags ends more blocks than it opens. -/
def Strays (tags : List Tag) : Prop :=
  ∃ front, front <+: tags ∧ opened front < ended front

/-- No prefix of the tags ends more blocks than it opens, and as many blocks end as open. -/
def Balanced (tags : List Tag) : Prop :=
  ¬ Strays tags ∧ opened tags = ended tags

/-- The block for the key is the innermost of those that are open behind the tags: all that open
behind it end. -/
def LeavesOpen (tags : List Tag) (key : String) : Prop :=
  ∃ before inner, tags = before ++ .generate key :: inner ∧ Balanced inner

@[simp] theorem opened_nil : opened [] = 0 := rfl

@[simp] theorem ended_nil : ended [] = 0 := rfl

@[simp] theorem opened_append (tags later : List Tag) :
    opened (tags ++ later) = opened tags + opened later := List.countP_append

@[simp] theorem ended_append (tags later : List Tag) :
    ended (tags ++ later) = ended tags + ended later := List.countP_append

@[simp] theorem opened_value (key : String) (tags : List Tag) :
    opened (.value key :: tags) = opened tags := List.countP_cons_of_neg nofun

@[simp] theorem ended_value (key : String) (tags : List Tag) :
    ended (.value key :: tags) = ended tags := List.countP_cons_of_neg nofun

@[simp] theorem opened_generate (key : String) (tags : List Tag) :
    opened (.generate key :: tags) = opened tags + 1 := List.countP_cons_of_pos rfl

@[simp] theorem ended_generate (key : String) (tags : List Tag) :
    ended (.generate key :: tags) = ended tags := List.countP_cons_of_neg nofun

@[simp] theorem opened_endGenerate (tags : List Tag) :
    opened (.endGenerate :: tags) = opened tags := List.countP_cons_of_neg nofun

@[simp] theorem ended_endGenerate (tags : List Tag) :
    ended (.endGenerate :: tags) = ended tags + 1 := List.countP_cons_of_pos rfl

theorem ended_le_of_not_strays (standing : ¬ Strays tags) {front : List Tag}
    (isPrefix : front <+: tags) : ended front ≤ opened front :=
  not_lt.1 fun more => standing ⟨front, isPrefix, more⟩

/-- Where a block stays open and none ends that is not, more blocks open than end. -/
theorem LeavesOpen.ended_lt (leaves : LeavesOpen tags key) (standing : ¬ Strays tags) :
    ended tags < opened tags := by
  obtain ⟨before, inner, rfl, -, same⟩ := leaves
  have least := ended_le_of_not_strays standing (List.prefix_append before _)
  simp only [opened_append, ended_append, opened_generate, ended_generate]
  omega

/-- Only one block is the innermost. -/
theorem LeavesOpen.eq {other : String} (leaves : LeavesOpen tags key)
    (leavesOther : LeavesOpen tags other) : key = other := by
  -- If one of the blocks stood inside the other, it would be one that opens there and does not end.
  have notInside : ∀ {first : String} {front inner : List Tag},
      Balanced (front ++ .generate first :: inner) → ¬ Balanced inner := by
    rintro first front inner ⟨standing, same⟩ ⟨-, sameInner⟩
    have least := ended_le_of_not_strays standing (List.prefix_append front _)
    simp only [opened_append, ended_append, opened_generate, ended_generate] at same
    omega
  obtain ⟨before, inner, rfl, balanced⟩ := leaves
  obtain ⟨beforeOther, innerOther, same, balancedOther⟩ := leavesOther
  rcases List.append_eq_append_iff.1 same with ⟨between, -, rest⟩ | ⟨between, -, rest⟩
  · cases between with
    | nil =>
      cases rest
      rfl
    | cons _ between =>
      obtain ⟨-, rfl⟩ := List.cons.inj rest
      exact absurd balancedOther (notInside balanced)
  · cases between with
    | nil =>
      cases rest
      rfl
    | cons _ between =>
      obtain ⟨-, rfl⟩ := List.cons.inj rest
      exact absurd balanced (notInside balancedOther)

/-! ### What the reader holds -/

/-- What has been put together tells of the tags it was put together from how far a prefix of them
goes below zero at worst, and the innermost block that stays open. -/
structure Tallies (tags : List Tag) (assembly : Assembly) : Prop where
  most : ∀ front, front <+: tags → ended front ≤ opened front + assembly.waiting.length
  reached : ∃ front, front <+: tags ∧ ended front = opened front + assembly.waiting.length
  level : assembly.unended = none → ended tags = opened tags + assembly.waiting.length
  unended : ∀ key, assembly.unended = some key → LeavesOpen tags key

theorem LeavesOpen.cons (tag : Tag) (leaves : LeavesOpen tags key) :
    LeavesOpen (tag :: tags) key := by
  obtain ⟨before, inner, rfl, balanced⟩ := leaves
  exact ⟨tag :: before, inner, rfl, balanced⟩

theorem Tallies.strays_iff (tallies : Tallies tags assembly) :
    Strays tags ↔ assembly.waiting ≠ [] := by
  rw [← List.length_pos_iff]
  constructor
  · rintro ⟨front, isPrefix, more⟩
    have most := tallies.most front isPrefix
    omega
  · intro waits
    obtain ⟨front, isPrefix, same⟩ := tallies.reached
    exact ⟨front, isPrefix, by omega⟩

theorem Tallies.balanced (tallies : Tallies tags assembly) (noneWaits : assembly.waiting = [])
    (noneOpen : assembly.unended = none) : Balanced tags := by
  refine ⟨fun strays => tallies.strays_iff.1 strays noneWaits, ?_⟩
  have level := tallies.level noneOpen
  rw [noneWaits] at level
  exact level.symm

/-- A tag in front keeps the tallies if as many ends wait as it leaves. -/
theorem Tallies.shift {next : Assembly} (tallies : Tallies tags assembly)
    (unended : next.unended = assembly.unended)
    (evens : ∀ front, ended (tag :: front) + (opened front + assembly.waiting.length) =
      ended front + (opened (tag :: front) + next.waiting.length)) :
    Tallies (tag :: tags) next := by
  refine ⟨fun front isPrefix => ?_, ?_, fun noneOpen => ?_, fun key isOpen => ?_⟩
  · rcases List.prefix_cons_iff.1 isPrefix with rfl | ⟨front, rfl, shorter⟩
    · exact Nat.zero_le _
    · have most := tallies.most front shorter
      have even := evens front
      omega
  · obtain ⟨front, isPrefix, reached⟩ := tallies.reached
    have even := evens front
    exact ⟨tag :: front, (List.prefix_cons_inj tag).2 isPrefix, by omega⟩
  · have level := tallies.level (unended ▸ noneOpen)
    have even := evens tags
    omega
  · exact (tallies.unended key (unended ▸ isOpen)).cons tag

/-- A block for which no end waits stays open, unless one behind it does. -/
theorem Tallies.open {current : Template} {unended : Option String}
    (tallies : Tallies tags ⟨current, [], unended⟩) (key : String) :
    Tallies (.generate key :: tags) ⟨current, [], unended.or (some key)⟩ := by
  refine ⟨fun front isPrefix => ?_, ⟨[], List.nil_prefix, rfl⟩, fun noneOpen => ?_, ?_⟩
  · rcases List.prefix_cons_iff.1 isPrefix with rfl | ⟨front, rfl, shorter⟩
    · exact Nat.zero_le _
    · have most := tallies.most front shorter
      rw [ended_generate, opened_generate]
      exact Nat.le_succ_of_le most
  · cases unended <;> cases noneOpen
  · intro other isOpen
    cases unended with
    | none =>
      cases isOpen
      exact ⟨[], tags, rfl, tallies.balanced rfl rfl⟩
    | some inside =>
      cases isOpen
      exact (tallies.unended other rfl).cons _

/-- One more tag in front keeps the tallies. -/
theorem Tallies.add (tallies : Tallies tags assembly) (tag : Tag) :
    Tallies (tag :: tags) (assembly.add (.tag tag)) := by
  obtain ⟨current, waiting, unended⟩ := assembly
  match tag, waiting with
  | .value key, waiting =>
    refine tallies.shift rfl fun front => ?_
    rw [ended_value, opened_value]
    rfl
  | .endGenerate, waiting =>
    refine tallies.shift rfl fun front => ?_
    rw [ended_endGenerate, opened_endGenerate]
    exact Nat.succ_add_eq_add_succ _ _
  | .generate key, rest :: waiting =>
    refine tallies.shift rfl fun front => ?_
    rw [ended_generate, opened_generate]
    exact congrArg (ended front + ·) (Nat.succ_add_eq_add_succ _ _).symm
  | .generate key, [] => exact tallies.open key

theorem tallies_assemble (tokens : List Token) :
    Tallies (tagsOf tokens) (assemble tokens {}) := by
  induction tokens with
  | nil =>
    refine ⟨?_, ⟨[], List.nil_prefix, rfl⟩, fun _ => rfl, nofun⟩
    intro front isPrefix
    cases List.prefix_nil.1 isPrefix
    exact Nat.le_refl 0
  | cons token tokens tallies =>
    match token with
    | .text _ => exact ⟨tallies.most, tallies.reached, tallies.level, tallies.unended⟩
    | .tag tag => exact tallies.add tag

/-- How reading tokens ends is told by their tags. -/
theorem ofTokens_cases (tokens : List Token) :
    ofTokens tokens = .error .strayEnd ∧ Strays (tagsOf tokens) ∨
    (∃ key, ofTokens tokens = .error (.unterminated key) ∧ ¬ Strays (tagsOf tokens) ∧
      LeavesOpen (tagsOf tokens) key) ∨
    ∃ template, ofTokens tokens = .ok template ∧ Balanced (tagsOf tokens) := by
  have tallies := tallies_assemble tokens
  rw [ofTokens_eq]
  generalize assemble tokens {} = assembly at tallies
  obtain ⟨current, waiting, unended⟩ := assembly
  match waiting, unended with
  | _ :: _, _ => exact .inl ⟨rfl, tallies.strays_iff.2 (List.cons_ne_nil _ _)⟩
  | [], some key =>
    exact .inr (.inl ⟨key, rfl, fun strays => tallies.strays_iff.1 strays rfl,
      tallies.unended key rfl⟩)
  | [], none => exact .inr (.inr ⟨current, rfl, tallies.balanced rfl rfl⟩)

theorem ofTokens_eq_ok_iff_balanced :
    (∃ template, ofTokens tokens = .ok template) ↔ Balanced (tagsOf tokens) := by
  rcases ofTokens_cases tokens with
    ⟨read, strays⟩ | ⟨key, read, standing, isOpen⟩ | ⟨template, read, balanced⟩
  · rw [read]
    exact ⟨nofun, fun balanced => absurd strays balanced.1⟩
  · rw [read]
    exact ⟨nofun, fun balanced => absurd balanced.2 (isOpen.ended_lt standing).ne'⟩
  · exact ⟨fun _ => balanced, fun _ => ⟨template, read⟩⟩

theorem ofTokens_eq_strayEnd_iff :
    ofTokens tokens = .error .strayEnd ↔ Strays (tagsOf tokens) := by
  rcases ofTokens_cases tokens with
    ⟨read, strays⟩ | ⟨key, read, standing, isOpen⟩ | ⟨template, read, balanced⟩
  · exact ⟨fun _ => strays, fun _ => read⟩
  · rw [read]
    exact ⟨nofun, fun strays => absurd strays standing⟩
  · rw [read]
    exact ⟨nofun, fun strays => absurd strays balanced.1⟩

theorem ofTokens_eq_unterminated_iff : ofTokens tokens = .error (.unterminated key) ↔
    ¬ Strays (tagsOf tokens) ∧ LeavesOpen (tagsOf tokens) key := by
  rcases ofTokens_cases tokens with
    ⟨read, strays⟩ | ⟨other, read, standing, isOpen⟩ | ⟨template, read, balanced⟩
  · rw [read]
    exact ⟨nofun, fun isKey => absurd strays isKey.1⟩
  · rw [read]
    constructor
    · intro same
      cases same
      exact ⟨standing, isOpen⟩
    · rintro ⟨-, isKey⟩
      rw [isOpen.eq isKey]
  · rw [read]
    exact ⟨nofun, fun isKey => absurd balanced.2 (isKey.2.ended_lt isKey.1).ne'⟩

/-! ### What rendering adds -/

/-- A fault of the blocks of a text, which is there whatever the scopes. -/
inductive Fault.OfBlocks : Fault → Prop where
  | strayEnd : OfBlocks .strayEnd
  | unterminated (key : String) : OfBlocks (.unterminated key)

/-- If the result is a failure, then by no fault of blocks. -/
def BlocksInOrder {Result : Type} (result : Except Fault Result) : Prop :=
  ∀ fault, result = .error fault → ¬ fault.OfBlocks

section BlocksInOrder

variable {Result Next Item : Type}

theorem blocksInOrder_ok (result : Result) : BlocksInOrder (.ok result) := nofun

theorem BlocksInOrder.bind {first : Except Fault Result} {next : Result → Except Fault Next}
    (order : BlocksInOrder first) (others : ∀ result, BlocksInOrder (next result)) :
    BlocksInOrder (first >>= next) := by
  intro fault failed
  rcases bind_eq_error_iff.1 failed with firstFailed | ⟨result, -, nextFailed⟩
  · exact order fault firstFailed
  · exact others result fault nextFailed

theorem blocksInOrder_mapM {turn : Item → Except Fault Result} (each : ∀ item, BlocksInOrder (turn item))
    (items : List Item) : BlocksInOrder (items.mapM turn) := by
  induction items with
  | nil => exact blocksInOrder_ok []
  | cons item items inductionHypothesis =>
    rw [List.mapM_cons]
    exact (each item).bind fun _ => inductionHypothesis.bind fun _ => blocksInOrder_ok _

end BlocksInOrder

theorem blocksInOrder_valueText (scopes : List Scope) (key : String) :
    BlocksInOrder (valueText scopes key) := by
  intro fault failed
  unfold valueText at failed
  split at failed
  · cases failed
    nofun
  split at failed
  all_goals
    cases failed
    try nofun

theorem blocksInOrder_listItems (scopes : List Scope) (key : String) :
    BlocksInOrder (listItems scopes key) := by
  intro fault failed
  unfold listItems at failed
  split at failed
  all_goals
    cases failed
    try nofun

theorem blocksInOrder_itemScope (key : String) (item : Value) : BlocksInOrder (itemScope key item) := by
  intro fault failed
  unfold itemScope at failed
  split at failed
  all_goals
    cases failed
    try nofun

/-- A template has its blocks in order, so what it is rendered to does not fail by them. -/
theorem blocksInOrder_render (template : Template) (scopes : List Scope) :
    BlocksInOrder (template.render scopes) := by
  induction template generalizing scopes with
  | done => exact blocksInOrder_ok ""
  | text content rest inductionHypothesis =>
    exact (inductionHypothesis scopes).bind fun _ => blocksInOrder_ok _
  | value key rest inductionHypothesis =>
    exact (blocksInOrder_valueText scopes key).bind fun _ =>
      (inductionHypothesis scopes).bind fun _ => blocksInOrder_ok _
  | generate key body rest bodyHypothesis inductionHypothesis =>
    refine (blocksInOrder_listItems scopes key).bind fun items => ?_
    have turns := blocksInOrder_mapM (fun item => (blocksInOrder_itemScope key item).bind
      fun scope => bodyHypothesis (scope :: scopes)) items
    exact turns.bind fun _ => (inductionHypothesis scopes).bind fun _ => blocksInOrder_ok _

/-- A text that is rendered has the faults of blocks with which it is read, and no others. -/
theorem renderText_eq_error_iff {text : String} {fault : Fault} (ofBlocks : fault.OfBlocks)
    (scopes : List Scope) : renderText text scopes = .error fault ↔ read text = .error fault := by
  refine bind_eq_error_iff.trans (or_iff_left ?_)
  rintro ⟨template, -, failed⟩
  exact blocksInOrder_render template scopes fault failed ofBlocks

/-- Whether a text is a template is told by the tags that are found in it from left to right:
exactly if they are balanced. If some prefix of them ends more blocks than it opens the fault is the
end that strays; otherwise, if blocks stay open, it is that the innermost of these is not ended. The
scopes in which the text is rendered have no part in this. -/
theorem read_blocks (text : String) : ∃ tags,
    (∀ others, Scans text.toList others ↔ others = tags) ∧
    ((∃ template, read text = .ok template) ↔ Balanced tags) ∧
    (read text = .error .strayEnd ↔ Strays tags) ∧
    (∀ key, read text = .error (.unterminated key) ↔ ¬ Strays tags ∧ LeavesOpen tags key) ∧
    (¬ Strays tags → ended tags < opened tags → ∃ key, read text = .error (.unterminated key)) ∧
    ∀ scopes fault, fault.OfBlocks →
      (renderText text scopes = .error fault ↔ read text = .error fault) := by
  refine ⟨tagsOf (tokens text.toList), fun others => scans_iff, ofTokens_eq_ok_iff_balanced,
    ofTokens_eq_strayEnd_iff, fun key => ofTokens_eq_unterminated_iff, fun standing less => ?_,
    fun scopes fault ofBlocks => renderText_eq_error_iff ofBlocks scopes⟩
  rcases ofTokens_cases (tokens text.toList) with
    ⟨-, strays⟩ | ⟨key, read, -⟩ | ⟨template, -, balanced⟩
  · exact absurd strays standing
  · exact ⟨key, read⟩
  · exact absurd balanced.2 less.ne'

/-- A block that ends before it opens strays, though as many end as open. -/
example : read "<<end generate>><<generate for A>>" = .error .strayEnd := by
  decide +kernel

end KernelExport.Template
