/-
This file says what becomes of a declaration when the lines of its source end in a carriage return
and a line feed.

In code the carriage return stays, and reading drops it with the line feed. Inside comments and
literals it is blanked, so there the code gets a space in front of the line feed (`Widens`). That
space does no harm where the code has a space before it already: runs of blanks are squeezed
(`normalize_widens`). Behind the mark of a comment there always is one. Two sources are left:

* A backslash in a literal takes the line feed with it, but of the two characters it takes the
  carriage return alone; the literal then ends with its line, and what follows is read in another way.
* Where a literal opens right at the end of its line, the quote gets a space behind it. The argument
  that holds the quote declares no port with it or without it, but what is wrong with it may be
  called by another name.

Where neither stands in a source, the same is read from both (`read_withReturns`).
-/

import KernelExport.Proofs.Segments

namespace KernelExport

/-! ### Parallel results -/

/-- Both results are values that correspond, or faults that do. -/
def Parallel {Fault Other Result Counterpart : Type} (sameFault : Fault → Other → Prop)
    (sameValue : Result → Counterpart → Prop) : Except Fault Result → Except Other Counterpart → Prop
  | .ok value, .ok counterpart => sameValue value counterpart
  | .error fault, .error other => sameFault fault other
  | _, _ => False

theorem Parallel.bind {Fault Other Result Counterpart Next Following : Type}
    {sameFault : Fault → Other → Prop} {sameValue : Result → Counterpart → Prop}
    {sameNext : Next → Following → Prop}
    {first : Except Fault Result} {second : Except Other Counterpart}
    {next : Result → Except Fault Next} {following : Counterpart → Except Other Following}
    (parallel : Parallel sameFault sameValue first second)
    (goesOn : ∀ value counterpart, sameValue value counterpart →
      Parallel sameFault sameNext (next value) (following counterpart)) :
    Parallel sameFault sameNext (first >>= next) (second >>= following) := by
  match first, second, parallel with
  | .ok value, .ok counterpart, same => exact goesOn value counterpart same
  | .error _, .error _, same => exact same

theorem Parallel.mono {Fault Other Result Counterpart : Type}
    {sameFault alikeFault : Fault → Other → Prop} {sameValue : Result → Counterpart → Prop}
    {first : Except Fault Result} {second : Except Other Counterpart}
    (parallel : Parallel sameFault sameValue first second)
    (weaker : ∀ {fault other}, sameFault fault other → alikeFault fault other) :
    Parallel alikeFault sameValue first second := by
  match first, second, parallel with
  | .ok _, .ok _, same => exact same
  | .error _, .error _, same => exact weaker same

/-- Both faults are of one kind. -/
def DeclarationError.SameKind (first second : DeclarationError) : Prop :=
  first.ctorIdx = second.ctorIdx

/-- The fault is that an argument is not a role tag and an identifier. -/
def DeclarationError.OfArgument : DeclarationError → Prop
  | .malformedArgument _ _ | .unknownRole _ _ | .invalidName _ _ => True
  | _ => False

/-- Both faults are of one kind, or each is one of an argument. -/
def DeclarationError.Alike (first second : DeclarationError) : Prop :=
  first.SameKind second ∨ first.OfArgument ∧ second.OfArgument

open Text

namespace Text

/-- The text with a carriage return in front of each line feed. -/
def withReturns (text : List Char) : List Char :=
  text.flatMap fun character => if character = '\n' then ['\r', '\n'] else [character]

theorem withReturns_append (first second : List Char) :
    withReturns (first ++ second) = withReturns first ++ withReturns second :=
  List.flatMap_append

@[simp] theorem withReturns_lineFeed (rest : List Char) :
    withReturns ('\n' :: rest) = '\r' :: '\n' :: withReturns rest := rfl

theorem withReturns_cons {character : Char} (other : character ≠ '\n') (rest : List Char) :
    withReturns (character :: rest) = character :: withReturns rest := by
  rw [withReturns, List.flatMap_cons, if_neg other]
  rfl

theorem withReturns_of_oneLine {line : List Char} (oneLine : '\n' ∉ line) :
    withReturns line = line := by
  induction line with
  | nil => rfl
  | cons character line inductionHypothesis =>
    rw [List.mem_cons, not_or] at oneLine
    rw [withReturns_cons (Ne.symm oneLine.1), inductionHypothesis oneLine.2]

/-- The first character stays, unless it is a line feed. -/
theorem head?_withReturns {text : List Char} {character : Char}
    (starts : character ∈ (withReturns text).head?) : character = '\r' ∨ character ∈ text.head? := by
  cases text with
  | nil => cases starts
  | cons first rest =>
    by_cases lineFeed : first = '\n'
    · subst lineFeed
      exact .inl (Option.some.inj starts).symm
    · rw [withReturns_cons lineFeed] at starts
      exact .inr starts

end Text

namespace SourceText

/-! ### Wider line ends -/

/-- The second code is the first with a blank in front of each line feed. It is a carriage return,
or a space where a wide character comes before it. `wide` says whether the character read last, line
feeds left out, is a wide one. -/
inductive Widens (isWide : Char → Bool) : (wide : Bool) → List Char → List Char → Prop where
  | nil {wide : Bool} : Widens isWide wide [] []
  | keep {wide : Bool} {character : Char} {rest other : List Char} (notLineFeed : character ≠ '\n')
    (widens : Widens isWide (isWide character) rest other) :
    Widens isWide wide (character :: rest) (character :: other)
  | turn {wide : Bool} {rest other : List Char} (widens : Widens isWide wide rest other) :
    Widens isWide wide ('\n' :: rest) ('\r' :: '\n' :: other)
  | widen {rest other : List Char} (widens : Widens isWide true rest other) :
    Widens isWide true ('\n' :: rest) (' ' :: '\n' :: other)

variable {isWide : Char → Bool} {wide : Bool} {code other : List Char}

theorem Widens.mono (widens : Widens isWide wide code other) : Widens isWide true code other := by
  induction widens with
  | nil => exact .nil
  | keep notLineFeed widens _ => exact .keep notLineFeed widens
  | turn _ inductionHypothesis => exact .turn inductionHypothesis
  | widen widens _ => exact .widen widens

theorem Widens.of_false (widens : Widens isWide false code other) : Widens isWide wide code other := by
  cases wide with
  | false => exact widens
  | true => exact widens.mono

/-- Which characters of other codes are wide does not matter. -/
theorem Widens.of_agree {isOther : Char → Bool} (widens : Widens isWide wide code other)
    (agree : ∀ character ∈ code, isWide character = isOther character) :
    Widens isOther wide code other := by
  induction widens with
  | nil => exact .nil
  | keep notLineFeed _ inductionHypothesis =>
    obtain ⟨same, agree⟩ := List.forall_mem_cons.1 agree
    exact .keep notLineFeed (same ▸ inductionHypothesis agree)
  | turn _ inductionHypothesis => exact .turn (inductionHypothesis (List.forall_mem_cons.1 agree).2)
  | widen _ inductionHypothesis => exact .widen (inductionHypothesis (List.forall_mem_cons.1 agree).2)

/-- A space may stand for the carriage return behind a wide character. -/
theorem Widens.widened (widens : Widens isWide wide ('\n' :: code) ('\r' :: '\n' :: other)) :
    Widens isWide true ('\n' :: code) (' ' :: '\n' :: other) := by
  cases widens with
  | turn widens => exact .widen widens.mono

/-- What is blanked inside a comment is all spaces, so wider line ends stand behind spaces. -/
theorem Widens.behind_comment (space : isWide ' ' = true) (inside : List Char)
    (widens : Widens isWide true code other) :
    Widens isWide true (blankedText inside ++ code) (blankedText (withReturns inside) ++ other) := by
  have spaces : ∀ count {first second}, Widens isWide true first second →
      Widens isWide true (List.replicate count ' ' ++ first)
        (List.replicate count ' ' ++ second) := by
    intro count first second widens
    induction count with
    | zero => exact widens
    | succ count inductionHypothesis => exact .keep (by decide) (by rwa [space])
  induction inside with
  | nil => exact widens
  | cons character inside inductionHypothesis =>
    by_cases lineFeed : character = '\n'
    · subst lineFeed
      exact .widen inductionHypothesis
    · rw [withReturns_cons lineFeed, blankedText_cons, blankedText_cons, blanked, if_neg lineFeed,
        List.append_assoc, List.append_assoc]
      exact spaces _ inductionHypothesis

/-- What is blanked inside a literal on one line stays, and all that follows stands behind a space,
if anything stands inside. -/
theorem Widens.behind_literal (space : isWide ' ' = true) {inside : List Char}
    (oneLine : '\n' ∉ inside) (widens : Widens isWide (wide || !inside.isEmpty) code other) :
    Widens isWide wide (blankedText inside ++ code) (blankedText inside ++ other) := by
  cases inside with
  | nil => simpa using widens
  | cons character inside =>
    have several : Widens isWide true (blankedText (character :: inside) ++ code)
        (blankedText (character :: inside) ++ other) := by
      have behind := Widens.behind_comment space (character :: inside)
        (by simpa using widens : Widens isWide true code other)
      rwa [withReturns_of_oneLine oneLine] at behind
    -- The first character is blanked to at least one space, which is kept.
    rw [List.mem_cons, not_or] at oneLine
    obtain ⟨count, size⟩ := Nat.exists_eq_add_of_lt character.utf8Size_pos
    rw [blankedText_cons, blanked, if_neg (Ne.symm oneLine.1), size, Nat.zero_add,
      List.replicate_succ] at several ⊢
    cases several with
    | keep notLineFeed widens => exact .keep notLineFeed widens

theorem Unclosed.withReturns {inside : List Char} (unclosed : Unclosed inside) :
    Unclosed (withReturns inside) := by
  induction inside with
  | nil => exact unclosed_nil
  | cons character inside inductionHypothesis =>
    have rest : Unclosed inside := fun closed => unclosed (List.infix_cons closed)
    by_cases lineFeed : character = '\n'
    · subst lineFeed
      exact ((inductionHypothesis rest).cons (by simp)).cons (by simp)
    · rw [withReturns_cons lineFeed]
      refine (inductionHypothesis rest).cons fun star next member slash => ?_
      subst slash
      rcases head?_withReturns member with wrong | starts
      · exact absurd wrong (by decide)
      · obtain ⟨behind, rfl⟩ := List.head?_eq_some_iff.1 starts
        exact unclosed ⟨[], behind, by simp [star]⟩

theorem Unopened.withReturns {character : Char} {rest : List Char}
    (unopened : Unopened character rest) : Unopened character (withReturns rest) := by
  intro slash next member
  rcases head?_withReturns member with rfl | starts
  · decide
  · exact unopened slash next starts

/-- In no literal a backslash takes a line feed. -/
def BreaksUnescaped (segments : List Segment) : Prop :=
  ∀ quote inside closed, .literal quote inside closed ∈ segments → '\n' ∉ inside

/-- The quotes of the literals that open at the end of a line have this property. -/
def OpensAtLineEnd (segments : List Segment) (property : Char → Prop) : Prop :=
  ∀ before quote after, segments = before ++ .literal quote [] false :: after →
    after = [] ∨ property quote

theorem BreaksUnescaped.tail {segment : Segment} {segments : List Segment}
    (unescaped : BreaksUnescaped (segment :: segments)) : BreaksUnescaped segments :=
  fun quote inside closed member => unescaped quote inside closed (List.mem_cons_of_mem _ member)

theorem OpensAtLineEnd.tail {segment : Segment} {segments : List Segment} {property : Char → Prop}
    (opens : OpensAtLineEnd (segment :: segments) property) : OpensAtLineEnd segments property :=
  fun before quote after same => opens (segment :: before) quote after (by rw [same]; rfl)

theorem blankFrom_literal_return {quote : Char} (quoted : isQuote quote = true) (rest : List Char) :
    blankFrom (.literal quote) ('\r' :: '\n' :: rest) = ' ' :: '\n' :: blankFrom .code rest := by
  have inside : ¬('\r' = quote ∨ '\r' = '\n') := by
    rcases isQuote_iff.1 quoted with rfl | rfl <;> decide
  rw [blankFrom_literal_inside inside (by decide), blankFrom_literal_end (.inr rfl)]
  rfl

theorem ne_lineFeed_of_isQuote {quote : Char} (quoted : isQuote quote = true) : quote ≠ '\n' := by
  rintro rfl
  exact absurd quoted (by decide)

/-- A region that ends with its line leaves wider line ends behind a wide character. -/
theorem Widens.at_line_end {region : Region} {rest : List Char} (ends : StartsLine rest)
    (nothing : blankFrom region [] = [])
    (leaves : ∀ after,
      blankFrom region ('\r' :: '\n' :: after) = ' ' :: '\n' :: blankFrom .code after)
    (behind : Widens isWide false (blankFrom .code rest) (blankFrom .code (withReturns rest))) :
    Widens isWide true (blankFrom .code rest) (blankFrom region (withReturns rest)) := by
  cases rest with
  | nil =>
    rw [show withReturns [] = [] from rfl, nothing]
    exact .nil
  | cons character rest =>
    obtain rfl := startsLine_cons.1 ends
    rw [withReturns_lineFeed, leaves]
    exact behind.widened

/-! One step for each kind of segment: what stands in front of a rest whose line ends are wider. -/

section Segment

variable {rest : List Char}
  (behind : Widens isWide false (blankFrom .code rest) (blankFrom .code (withReturns rest)))

include behind

theorem Widens.character {character : Char} (unquoted : isQuote character = false)
    (unopened : Unopened character rest) :
    Widens isWide false (blankFrom .code (character :: rest))
      (blankFrom .code (withReturns (character :: rest))) := by
  rw [blankFrom_code unquoted unopened]
  by_cases lineFeed : character = '\n'
  · subst lineFeed
    exact .turn behind
  · rw [withReturns_cons lineFeed, blankFrom_code unquoted unopened.withReturns]
    exact .keep lineFeed behind.of_false

theorem Widens.lineComment (space : isWide ' ' = true) {inside : List Char}
    (oneLine : '\n' ∉ inside) (ends : StartsLine rest) :
    Widens isWide false (blankFrom .code ('/' :: '/' :: (inside ++ rest)))
      (blankFrom .code (withReturns ('/' :: '/' :: (inside ++ rest)))) := by
  have line : withReturns ('/' :: '/' :: (inside ++ rest)) =
      '/' :: '/' :: (inside ++ withReturns rest) := by
    rw [withReturns_cons (by decide), withReturns_cons (by decide), withReturns_append,
      withReturns_of_oneLine oneLine]
  have ending : Widens isWide true (blankFrom .code rest)
      (blankFrom .lineComment (withReturns rest)) :=
    behind.at_line_end ends rfl fun _ => rfl
  have commented := Widens.behind_comment space inside ending
  rw [withReturns_of_oneLine oneLine] at commented
  rw [line, blankFrom, blankFrom_lineComment oneLine, blankFrom_lineComment_of_startsLine ends,
    blankFrom, blankFrom_lineComment oneLine]
  exact .keep (by decide) (.keep (by decide) (by rwa [space]))

theorem Widens.blockComment (space : isWide ' ' = true) {inside : List Char}
    (unclosed : Unclosed inside) :
    Widens isWide false (blankFrom .code ('/' :: '*' :: (inside ++ '*' :: '/' :: rest)))
      (blankFrom .code (withReturns ('/' :: '*' :: (inside ++ '*' :: '/' :: rest)))) := by
  have comment : withReturns ('/' :: '*' :: (inside ++ '*' :: '/' :: rest)) =
      '/' :: '*' :: (withReturns inside ++ '*' :: '/' :: withReturns rest) := by
    rw [withReturns_cons (by decide), withReturns_cons (by decide), withReturns_append,
      withReturns_cons (by decide), withReturns_cons (by decide)]
  rw [comment, blankFrom, blankFrom, blankFrom_blockComment (unclosed.ne_slash (by simp)),
    blankFrom_blockComment (unclosed.withReturns.ne_slash (by simp)), blankFrom, blankFrom]
  refine .keep (by decide) (.keep (by decide) ?_)
  rw [space]
  exact Widens.behind_comment space inside
    (.keep (by decide) (.keep (by decide) behind.of_false))

theorem Widens.literal (space : isWide ' ' = true) {quote : Char} {inside : List Char}
    (quoted : isQuote quote = true) (holds : Inside quote inside) (oneLine : '\n' ∉ inside) :
    Widens isWide false (blankFrom .code (quote :: (inside ++ quote :: rest)))
      (blankFrom .code (withReturns (quote :: (inside ++ quote :: rest)))) := by
  have notLineFeed := ne_lineFeed_of_isQuote quoted
  rw [withReturns_cons notLineFeed, withReturns_append, withReturns_of_oneLine oneLine,
    withReturns_cons notLineFeed, blankFrom_quote quoted, blankFrom_quote quoted,
    blankFrom_literal quoted holds, blankFrom_literal quoted holds,
    blankFrom_literal_end (.inl rfl), blankFrom_literal_end (.inl rfl)]
  exact .keep notLineFeed (.behind_literal space oneLine (.keep notLineFeed behind.of_false))

/-- A literal that ends with its line needs a wide character in front of the line end: its quote, or
what it holds. -/
theorem Widens.openLiteral (space : isWide ' ' = true) {quote : Char} {inside : List Char}
    (quoted : isQuote quote = true) (holds : Inside quote inside) (oneLine : '\n' ∉ inside)
    (ends : StartsLine rest) (wideBefore : rest ≠ [] → inside = [] → isWide quote = true) :
    Widens isWide false (blankFrom .code (quote :: (inside ++ rest)))
      (blankFrom .code (withReturns (quote :: (inside ++ rest)))) := by
  have notLineFeed := ne_lineFeed_of_isQuote quoted
  rw [withReturns_cons notLineFeed, withReturns_append, withReturns_of_oneLine oneLine,
    blankFrom_quote quoted, blankFrom_quote quoted, blankFrom_literal quoted holds,
    blankFrom_literal quoted holds, blankFrom_literal_of_startsLine ends]
  refine .keep notLineFeed (.behind_literal space oneLine ?_)
  by_cases last : rest = []
  · subst last
    exact .nil
  · have isBehindWide : (isWide quote || !inside.isEmpty) = true := by
      cases inside with
      | nil => simp [wideBefore last rfl]
      | cons _ _ => simp
    rw [isBehindWide]
    exact behind.at_line_end ends (blankFrom_literal_of_startsLine startsLine_nil)
      (blankFrom_literal_return quoted)

end Segment

theorem Widens.openComment (space : isWide ' ' = true) {inside : List Char}
    (unclosed : Unclosed inside) :
    Widens isWide false (blankFrom .code ('/' :: '*' :: inside))
      (blankFrom .code (withReturns ('/' :: '*' :: inside))) := by
  have behind := Widens.behind_comment space inside (Widens.nil : Widens isWide true [] [])
  rw [List.append_nil, List.append_nil] at behind
  rw [withReturns_cons (by decide), withReturns_cons (by decide), blankFrom, blankFrom,
    blankFrom_unclosed unclosed, blankFrom_unclosed unclosed.withReturns]
  exact .keep (by decide) (.keep (by decide) (by rwa [space]))

theorem Widens.unfinished (space : isWide ' ' = true) {quote : Char} {inside : List Char}
    (quoted : isQuote quote = true) (holds : Inside quote inside)
    (oneLine : '\n' ∉ inside ++ ['\\']) :
    Widens isWide false (blankFrom .code (quote :: (inside ++ ['\\'])))
      (blankFrom .code (withReturns (quote :: (inside ++ ['\\'])))) := by
  have notLineFeed := ne_lineFeed_of_isQuote quoted
  have blanks : blankFrom (.literal quote) (inside ++ ['\\']) =
      blankedText (inside ++ ['\\']) ++ [] := by
    rw [blankFrom_literal quoted holds]
    rcases isQuote_iff.1 quoted with rfl | rfl <;> simp [blankFrom]
  rw [withReturns_cons notLineFeed, withReturns_of_oneLine oneLine, blankFrom_quote quoted, blanks]
  exact .keep notLineFeed (.behind_literal space oneLine .nil)

/-- With carriage returns in front of its line feeds, a source has a code with wider line ends. -/
theorem widens_blank (space : isWide ' ' = true) {segments : List Segment} {source : List Char}
    (divides : Divides segments source) (unescaped : BreaksUnescaped segments)
    (opens : OpensAtLineEnd segments (isWide · = true)) :
    Widens isWide false (blank source) (blank (withReturns source)) := by
  unfold blank
  induction divides with
  | nil => exact .nil
  | code unquoted unopened _ inductionHypothesis =>
    exact (inductionHypothesis unescaped.tail opens.tail).character unquoted unopened
  | lineComment oneLine ends _ inductionHypothesis =>
    exact (inductionHypothesis unescaped.tail opens.tail).lineComment space oneLine ends
  | blockComment unclosed _ inductionHypothesis =>
    exact (inductionHypothesis unescaped.tail opens.tail).blockComment space unclosed
  | openComment unclosed => exact .openComment space unclosed
  | literal quoted holds _ inductionHypothesis =>
    exact (inductionHypothesis unescaped.tail opens.tail).literal space quoted holds
      (unescaped _ _ _ List.mem_cons_self)
  | @openLiteral quote inside segments rest quoted holds ends divides inductionHypothesis =>
    refine (inductionHypothesis unescaped.tail opens.tail).openLiteral space quoted holds
      (unescaped _ _ _ List.mem_cons_self) ends ?_
    rintro more rfl
    refine (opens [] quote segments rfl).resolve_left fun last => more ?_
    subst last
    cases divides
    rfl
  | unfinished quoted holds =>
    exact .unfinished space quoted holds (unescaped _ _ _ List.mem_cons_self)

/-! ### What wider line ends leave as it is -/

theorem Widens.mem_iff (widens : Widens isWide wide code other) {character : Char}
    (notReturn : character ≠ '\r') (notSpace : character ≠ ' ') :
    character ∈ other ↔ character ∈ code := by
  induction widens with
  | nil => rfl
  | keep _ _ inductionHypothesis => simp only [List.mem_cons, inductionHypothesis]
  | turn _ inductionHypothesis | widen _ inductionHypothesis =>
    simp only [List.mem_cons, inductionHypothesis, notReturn, notSpace, false_or]

theorem Widens.blank_iff (widens : Widens isWide wide code other) : Blank other ↔ Blank code := by
  induction widens with
  | nil => rfl
  | keep _ _ inductionHypothesis => rw [blank_cons, blank_cons, inductionHypothesis]
  | turn _ inductionHypothesis | widen _ inductionHypothesis =>
    rw [blank_cons, blank_cons, blank_cons, inductionHypothesis]
    simp only [(by decide : isBlank '\n' = true), (by decide : isBlank '\r' = true),
      (by decide : isBlank ' ' = true), true_and]

/-- What starts with a word on one line does so with wider line ends. -/
theorem Widens.behind_word {word behind : List Char} (oneLine : '\n' ∉ word)
    (widens : Widens isWide wide (word ++ behind) other) : ∃ otherBehind wideBehind,
      other = word ++ otherBehind ∧ Widens isWide wideBehind behind otherBehind := by
  induction word generalizing wide other with
  | nil => exact ⟨other, wide, rfl, widens⟩
  | cons character word inductionHypothesis =>
    rw [List.mem_cons, not_or] at oneLine
    cases widens with
    | keep _ widens =>
      obtain ⟨otherBehind, wideBehind, rfl, behinds⟩ := inductionHypothesis oneLine.2 widens
      exact ⟨otherBehind, wideBehind, rfl, behinds⟩
    | turn | widen => exact absurd rfl oneLine.1

/-- What starts with a word with wider line ends did so before. -/
theorem Widens.of_word {word otherBehind : List Char} (noReturn : '\r' ∉ word) (noSpace : ' ' ∉ word)
    (widens : Widens isWide wide code (word ++ otherBehind)) : ∃ behind wideBehind,
      code = word ++ behind ∧ Widens isWide wideBehind behind otherBehind := by
  induction word generalizing wide code with
  | nil => exact ⟨code, wide, rfl, widens⟩
  | cons character word inductionHypothesis =>
    rw [List.mem_cons, not_or] at noReturn noSpace
    rw [List.cons_append] at widens
    generalize whole : word ++ otherBehind = further at widens
    cases widens with
    | keep _ widens =>
      subst whole
      obtain ⟨behind, wideBehind, rfl, behinds⟩ := inductionHypothesis noReturn.2 noSpace.2 widens
      exact ⟨behind, wideBehind, rfl, behinds⟩
    | turn => exact absurd rfl noReturn.1
    | widen => exact absurd rfl noSpace.1

/-- Codes are cut at a character. -/
theorem Widens.cut {front rest : List Char} {character : Char} (notLineFeed : character ≠ '\n')
    (widens : Widens isWide wide (front ++ character :: rest) other) : ∃ otherFront otherRest,
      other = otherFront ++ character :: otherRest ∧ Widens isWide wide front otherFront ∧
        Widens isWide (isWide character) rest otherRest := by
  generalize same : front ++ character :: rest = whole at widens
  induction widens generalizing front with
  | nil => simp at same
  | keep notBreak widens inductionHypothesis =>
    cases front with
    | nil =>
      obtain ⟨rfl, rfl⟩ := List.cons.inj same
      exact ⟨[], _, rfl, .nil, widens⟩
    | cons first front =>
      obtain ⟨rfl, further⟩ := List.cons.inj same
      obtain ⟨otherFront, otherRest, rfl, fronts, rests⟩ := inductionHypothesis further
      exact ⟨_ :: otherFront, otherRest, rfl, .keep notBreak fronts, rests⟩
  | turn _ inductionHypothesis | widen _ inductionHypothesis =>
    cases front with
    | nil => exact absurd (List.cons.inj same).1 notLineFeed
    | cons first front =>
      obtain ⟨rfl, further⟩ := List.cons.inj same
      obtain ⟨otherFront, otherRest, rfl, fronts, rests⟩ := inductionHypothesis further
      exact ⟨_ :: _ :: otherFront, otherRest, rfl, by constructor; exact fronts, rests⟩

/-- The code with the wider line ends is cut at a character that is not new. -/
theorem Widens.uncut {front rest : List Char} {character : Char} (notLineFeed : character ≠ '\n')
    (notReturn : character ≠ '\r') (notSpace : character ≠ ' ')
    (widens : Widens isWide wide code (front ++ character :: rest)) : ∃ codeFront codeRest,
      code = codeFront ++ character :: codeRest ∧ Widens isWide wide codeFront front ∧
        Widens isWide (isWide character) codeRest rest := by
  generalize same : front ++ character :: rest = whole at widens
  induction widens generalizing front with
  | nil => simp at same
  | keep notBreak widens inductionHypothesis =>
    cases front with
    | nil =>
      obtain ⟨rfl, rfl⟩ := List.cons.inj same
      exact ⟨[], _, rfl, .nil, widens⟩
    | cons first front =>
      obtain ⟨rfl, further⟩ := List.cons.inj same
      obtain ⟨codeFront, codeRest, rfl, fronts, rests⟩ := inductionHypothesis further
      exact ⟨_ :: codeFront, codeRest, rfl, .keep notBreak fronts, rests⟩
  | turn _ inductionHypothesis | widen _ inductionHypothesis =>
    match front with
    | [] => exact absurd (List.cons.inj same).1 (by assumption)
    | [first] => exact absurd (List.cons.inj (List.cons.inj same).2).1 notLineFeed
    | first :: second :: front =>
      simp only [List.cons_append, List.cons.injEq] at same
      obtain ⟨rfl, rfl, further⟩ := same
      obtain ⟨codeFront, codeRest, rfl, fronts, rests⟩ := inductionHypothesis further
      exact ⟨_ :: codeFront, codeRest, rfl, by constructor; exact fronts, rests⟩

/-- Codes are cut at commas into as many pieces. -/
theorem Widens.split (comma : isWide ',' = false) (widens : Widens isWide wide code other) :
    ∃ piece pieces otherPiece otherPieces, Text.split ',' code = piece :: pieces ∧
      Text.split ',' other = otherPiece :: otherPieces ∧ Widens isWide wide piece otherPiece ∧
      List.Forall₂ (Widens isWide false) pieces otherPieces := by
  have goesOn : ∀ {character text piece pieces}, character ≠ ',' →
      Text.split ',' text = piece :: pieces →
      Text.split ',' (character :: text) = (character :: piece) :: pieces := by
    intro character text piece pieces other cut
    rw [Text.split] at cut
    simp [Text.split, Text.pieces, other, cut]
  have ended : ∀ text, Text.split ',' (',' :: text) = [] :: Text.split ',' text := by
    simp [Text.split, Text.pieces]
  induction widens with
  | nil => exact ⟨[], [], [], [], rfl, rfl, .nil, .nil⟩
  | @keep _ character _ _ notLineFeed _ inductionHypothesis =>
    obtain ⟨piece, pieces, otherPiece, otherPieces, cut, otherCut, first, others⟩ :=
      inductionHypothesis
    by_cases isComma : character = ','
    · subst isComma
      rw [comma] at first
      refine ⟨[], _, [], _, ended _, ended _, .nil, ?_⟩
      rw [cut, otherCut]
      exact .cons first others
    · exact ⟨_, _, _, _, goesOn isComma cut, goesOn isComma otherCut, .keep notLineFeed first, others⟩
  | turn _ inductionHypothesis | widen _ inductionHypothesis =>
    obtain ⟨piece, pieces, otherPiece, otherPieces, cut, otherCut, first, others⟩ :=
      inductionHypothesis
    exact ⟨_, _, _, _, goesOn (by decide) cut,
      goesOn (by decide) (goesOn (by decide) otherCut), by constructor; exact first, others⟩

end SourceText

namespace Declaration

open SourceText

/-! ### Reading code with wider line ends -/

section Widens

variable {isWide : Char → Bool} {wide : Bool} {code other : List Char}
variable (opening : isWide '(' = false)

/-- The arguments of two sites are those of codes with narrower and with wider line ends. -/
def WidensRest (isWide : Char → Bool) (site counterpart : Site) : Prop :=
  Widens isWide false site.rest counterpart.rest

include opening in
theorem siteAt_widens (widens : Widens isWide wide code other) (offset place : Nat)
    (before : Option Char) :
    Option.Rel (WidensRest isWide) (siteAt offset before code) (siteAt place before other) := by
  cases here : siteAt offset before code with
  | some site =>
    obtain ⟨gap, same, alone, blank, -, -⟩ := siteAt_eq_some_iff.1 here
    rw [same] at widens
    obtain ⟨front, rest, rfl, fronts, rests⟩ := widens.cut (by decide)
    obtain ⟨otherGap, _, rfl, gaps⟩ := fronts.behind_word (by decide)
    have there : siteAt place before (keyword ++ otherGap ++ '(' :: rest) =
        some ⟨place, place + byteSize keyword + byteSize otherGap, rest⟩ :=
      siteAt_eq_some_iff.2 ⟨otherGap, rfl, alone, gaps.blank_iff.2 blank, rfl, rfl⟩
    rw [there]
    rw [opening] at rests
    exact .some rests
  | none =>
    cases there : siteAt place before other with
    | none => exact .none
    | some site =>
      obtain ⟨gap, rfl, alone, blank, -, -⟩ := siteAt_eq_some_iff.1 there
      obtain ⟨front, rest, rfl, fronts, rests⟩ := widens.uncut (by decide) (by decide) (by decide)
      obtain ⟨otherGap, _, rfl, gaps⟩ := fronts.of_word (by decide) (by decide)
      have found : siteAt offset before (keyword ++ otherGap ++ '(' :: rest) =
          some ⟨offset, offset + byteSize keyword + byteSize otherGap, rest⟩ :=
        siteAt_eq_some_iff.2 ⟨otherGap, rfl, alone, gaps.blank_iff.1 blank, rfl, rfl⟩
      rw [found] at here
      cases here

include opening in
theorem sitesFrom_widens (widens : Widens isWide wide code other) (offset place : Nat)
    (before : Option Char) :
    List.Forall₂ (WidensRest isWide) (sitesFrom offset before code)
      (sitesFrom place before other) := by
  have noSite : ∀ {character}, character ≠ 'A' → ∀ offset before rest,
      siteAt offset before (character :: rest) = none := by
    intro character different offset before rest
    rw [siteAt, if_neg]
    simp [keyword, List.isPrefixOf, Ne.symm different]
  induction widens generalizing offset place before with
  | nil => exact .nil
  | keep notLineFeed widens inductionHypothesis =>
    have whole : Widens isWide false (_ :: _) (_ :: _) := .keep notLineFeed widens
    have here := siteAt_widens opening whole offset place before
    rw [sitesFrom, sitesFrom]
    refine List.rel_append ?_ (inductionHypothesis _ _ _)
    generalize siteAt offset before _ = site, siteAt place before _ = counterpart at here
    cases here with
    | some same => exact .cons same .nil
    | none => exact .nil
  | turn _ inductionHypothesis | widen _ inductionHypothesis =>
    rw [sitesFrom, sitesFrom, sitesFrom, noSite (by decide), noSite (by decide), noSite (by decide)]
    exact inductionHypothesis _ _ _

variable {sameFault : DeclarationError → DeclarationError → Prop}
variable (kinds : ∀ {first second : DeclarationError}, first.SameKind second → sameFault first second)

include opening kinds in
theorem onlySite_widens (widens : Widens isWide wide code other) :
    Parallel sameFault (WidensRest isWide) (onlySite code) (onlySite other) := by
  have found := sitesFrom_widens opening widens 0 0 none
  unfold onlySite sites
  match sitesFrom 0 none code, sitesFrom 0 none other, found with
  | _, _, .nil => exact kinds rfl
  | _, _, .cons same .nil => exact same
  | _, _, .cons _ (.cons _ _) => exact kinds rfl

include kinds in
theorem body_widens {site counterpart : Site} (same : WidensRest isWide site counterpart) :
    Parallel sameFault (Widens isWide false) (body site) (body counterpart) := by
  by_cases closes : ')' ∈ site.rest
  · obtain ⟨list, after, isRest, unclosed⟩ := List.eq_append_cons_of_mem closes
    rw [WidensRest, isRest] at same
    obtain ⟨otherList, otherAfter, isOther, lists, -⟩ := same.cut (by decide)
    have otherUnclosed : ')' ∉ otherList := fun member =>
      unclosed ((lists.mem_iff (by decide) (by decide)).1 member)
    have otherCloses : ')' ∈ counterpart.rest := by
      rw [isOther]
      exact List.mem_append_right _ List.mem_cons_self
    rw [body, body, if_pos closes, if_pos otherCloses, isRest, isOther,
      takeWhile_append_stop unclosed, takeWhile_append_stop otherUnclosed]
    have nested : '(' ∈ otherList ↔ '(' ∈ list := lists.mem_iff (by decide) (by decide)
    have empty : (otherList.all isBlank = true) ↔ (list.all isBlank = true) := by
      rw [List.all_eq_true, List.all_eq_true]
      exact lists.blank_iff
    by_cases opens : '(' ∈ list
    · simp only [if_pos opens, if_pos (nested.2 opens)]
      exact kinds rfl
    · simp only [if_neg opens, if_neg (mt nested.1 opens), empty]
      by_cases blank : list.all isBlank = true
      · simp only [if_pos blank]
        exact kinds rfl
      · simp only [if_neg blank]
        exact lists
  · have otherOpen : ')' ∉ counterpart.rest := fun member =>
      closes ((Widens.mem_iff same (by decide) (by decide)).1 member)
    rw [body, body, if_neg closes, if_neg otherOpen]
    exact kinds rfl

/-- The arguments are written in one way and declare the same. -/
def SameEntry (entry counterpart : String × Port) : Prop :=
  entry.1 = counterpart.1 ∧ entry.2.role = counterpart.2.role ∧ entry.2.name = counterpart.2.name

/-- The argument as it is read, with its port. -/
def readEntry (argument : List Char) (offset : Nat) : Except DeclarationError (String × Port) := do
  let port ← readPort (normalize argument) offset
  pure (String.ofList (normalize argument), port)

theorem readArguments_cons (offset : Nat) (taken : List String) (argument : List Char)
    (others : List (List Char)) : readArguments offset taken (argument :: others) = (do
      let entry ← readEntry argument (offset + byteSize (argument.takeWhile isBlank))
      if entry.2.name ∈ taken then
        throw (.repeatedPort entry.2.name (offset + byteSize (argument.takeWhile isBlank)))
      let rest ← readArguments (offset + byteSize argument + 1) (entry.2.name :: taken) others
      pure (entry :: rest)) := by
  rw [readArguments, readEntry, bind_assoc]
  simp only [pure_bind]

include kinds in
/-- Where the arguments of two lists correspond, so do the ports that are read of them. -/
theorem readArguments_widens {arguments others : List (List Char)}
    (same : List.Forall₂ (Widens isWide false) arguments others)
    (each : ∀ {argument counterpart}, Widens isWide false argument counterpart → ∀ offset place,
      Parallel sameFault SameEntry (readEntry argument offset) (readEntry counterpart place))
    (offset place : Nat) (taken : List String) :
    Parallel sameFault (List.Forall₂ SameEntry) (readArguments offset taken arguments)
      (readArguments place taken others) := by
  induction same generalizing offset place taken with
  | nil => exact .nil
  | cons widens _ inductionHypothesis =>
    rw [readArguments_cons, readArguments_cons]
    refine (each widens _ _).bind fun entry counterpart sameEntry => ?_
    rw [← sameEntry.2.2]
    by_cases member : entry.2.name ∈ taken
    · simp only [if_pos member]
      exact kinds rfl
    · simp only [if_neg member]
      exact (inductionHypothesis _ _ _).bind fun rest further sameRest => .cons sameEntry sameRest

/-- The declarations have the same arguments, and ports of the same roles and names. -/
structure SameReading (declaration counterpart : Declaration) : Prop where
  arguments : declaration.arguments = counterpart.arguments
  tokens : declaration.tokens = counterpart.tokens
  names : declaration.names = counterpart.names

theorem SameReading.of_entries {entries others : List (String × Port)}
    (same : List.Forall₂ SameEntry entries others) (offset place : Nat) :
    SameReading ⟨entries.map Prod.fst, entries.map Prod.snd, offset⟩
      ⟨others.map Prod.fst, others.map Prod.snd, place⟩ := by
  have each : entries.map Prod.fst = others.map Prod.fst ∧
      (entries.map Prod.snd).map (fun port => (port.role, port.name)) =
        (others.map Prod.snd).map (fun port => (port.role, port.name)) ∧
      (entries.map Prod.snd).map Port.name = (others.map Prod.snd).map Port.name := by
    induction same with
    | nil => exact ⟨rfl, rfl, rfl⟩
    | cons sameEntry _ inductionHypothesis =>
      obtain ⟨sameText, sameRole, sameName⟩ := sameEntry
      simp only [List.map_cons, sameText, sameRole, sameName, inductionHypothesis, and_self]
  exact ⟨each.1, each.2.1, congrArg ", ".intercalate each.2.2⟩

include opening kinds in
theorem read_widens (comma : isWide ',' = false) {source counterpart : String}
    (widens : Widens isWide false (blank source.toList) (blank counterpart.toList))
    (each : ∀ {argument counterpart}, Widens isWide false argument counterpart → ∀ offset place,
      Parallel sameFault SameEntry (readEntry argument offset) (readEntry counterpart place)) :
    Parallel sameFault SameReading (read source) (read counterpart) := by
  refine (onlySite_widens opening kinds widens).bind fun site otherSite sameRest => ?_
  refine (body_widens kinds sameRest).bind fun list otherList lists => ?_
  obtain ⟨piece, pieces, otherPiece, otherPieces, cut, otherCut, first, others⟩ := lists.split comma
  rw [cut, otherCut]
  refine (readArguments_widens kinds (.cons first others) each _ _ _).bind
    fun entries further same => ?_
  exact .of_entries same _ _

end Widens

/-! ### Reading an argument with wider line ends -/

/-- Whether the character is a space. -/
def isSpace (character : Char) : Bool :=
  character == ' '

/-- Whether the character is a space or the quote of a literal. -/
def isSpaceOrQuote (character : Char) : Bool :=
  isSpace character || isQuote character

/-- A space behind a space is squeezed. -/
theorem squeezeAfter_widens {wide : Bool} {code other : List Char} {run : Option Char}
    (widens : Widens isSpace wide code other) (behind : wide = true → run = some ' ') :
    squeezeAfter run (withoutBreaks other) = squeezeAfter run (withoutBreaks code) := by
  induction widens generalizing run with
  | nil => rfl
  | @keep _ character rest other notLineFeed _ inductionHypothesis =>
    by_cases drops : character = '\r'
    · subst drops
      exact inductionHypothesis fun wide => absurd wide (by decide)
    · have stays : ∀ text, withoutBreaks (character :: text) = character :: withoutBreaks text :=
        fun text => List.filter_cons_of_pos (by simp [notLineFeed, drops])
      rw [stays, stays, squeezeAfter, squeezeAfter]
      by_cases blank : isBlank character = true
      · rw [if_pos blank, if_pos blank]
        refine inductionHypothesis fun wide => ?_
        obtain rfl : character = ' ' := by simpa [isSpace] using wide
        simp
      · rw [if_neg blank, if_neg blank]
        refine congrArg (run.toList ++ character :: ·) (inductionHypothesis fun wide => ?_)
        obtain rfl : character = ' ' := by simpa [isSpace] using wide
        exact absurd (by decide) blank
  | turn _ inductionHypothesis => exact inductionHypothesis behind
  | widen _ inductionHypothesis =>
    obtain rfl := behind rfl
    exact inductionHypothesis fun _ => rfl

theorem normalize_widens {argument counterpart : List Char}
    (widens : Widens isSpace false argument counterpart) :
    normalize counterpart = normalize argument :=
  congrArg trim (squeezeAfter_widens widens fun wide => absurd wide (by decide))

theorem readEntry_widens {argument counterpart : List Char}
    (widens : Widens isSpace false argument counterpart) (offset place : Nat) :
    Parallel DeclarationError.SameKind SameEntry (readEntry argument offset)
      (readEntry counterpart place) := by
  rw [readEntry, readEntry, normalize_widens widens]
  have ports : Parallel DeclarationError.SameKind
      (fun port other => port.role = other.role ∧ port.name = other.name)
      (readPort (normalize argument) offset) (readPort (normalize argument) place) := by
    unfold readPort
    split
    · split
      · exact rfl
      · split
        · exact ⟨rfl, rfl⟩
        · exact rfl
    · exact rfl
  exact ports.bind fun port other same => ⟨rfl, same⟩

/-- An argument with a quote in it declares no port. -/
theorem readEntry_of_quote {argument : List Char} {quote : Char} (quoted : isQuote quote = true)
    (member : quote ∈ argument) (offset : Nat) :
    ∃ fault : DeclarationError, readEntry argument offset = .error fault ∧ fault.OfArgument := by
  have unlisted : isListed quote = false := by
    rcases isQuote_iff.1 quoted with rfl | rfl <;> decide
  cases here : readPort (normalize argument) offset with
  | ok port =>
    obtain ⟨declares, -⟩ := readPort_normalize_eq_ok_iff.1 here
    exact absurd member (not_mem_of_isListed (isListed_of_declares declares) unlisted)
  | error fault =>
    refine ⟨fault, by rw [readEntry, here]; rfl, ?_⟩
    rw [readPort] at here
    repeat' split at here
    all_goals cases here
    all_goals trivial

theorem readEntry_widens_quoted {argument counterpart : List Char}
    (widens : Widens isSpaceOrQuote false argument counterpart) (offset place : Nat) :
    Parallel DeclarationError.Alike SameEntry (readEntry argument offset)
      (readEntry counterpart place) := by
  by_cases quoted : ∃ quote ∈ argument, isQuote quote = true
  · obtain ⟨quote, member, isQuoted⟩ := quoted
    have otherMember : quote ∈ counterpart := by
      refine (widens.mem_iff ?_ ?_).2 member <;> rcases isQuote_iff.1 isQuoted with rfl | rfl <;> decide
    obtain ⟨fault, here, ofArgument⟩ := readEntry_of_quote isQuoted member offset
    obtain ⟨other, there, otherOfArgument⟩ := readEntry_of_quote isQuoted otherMember place
    rw [here, there]
    exact .inr ⟨ofArgument, otherOfArgument⟩
  · have unquoted : ∀ character ∈ argument, isQuote character = false := fun character member =>
      Bool.eq_false_iff.2 fun isQuoted => quoted ⟨character, member, isQuoted⟩
    exact (readEntry_widens (widens.of_agree fun character member => by
      simp [isSpaceOrQuote, unquoted character member]) offset place).mono fun same => .inl same

/-! ### Reading a source with wider line ends -/

/-- A source with a carriage return in front of each line feed is read as it is without them, if in no
literal a backslash takes a line feed: both are accepted, and the arguments, roles and names are the
same, or both are rejected, and what is wrong is of one kind. Where a literal opens at the end of
its line, the two may only agree in that it is an argument that is wrong. -/
theorem read_withReturns {segments : List Segment} {source : String}
    (divides : Divides segments source.toList) (unescaped : BreaksUnescaped segments) :
    Parallel DeclarationError.Alike SameReading (read source)
      (read (String.ofList (withReturns source.toList))) ∧
    (OpensAtLineEnd segments (fun _ => False) →
      Parallel DeclarationError.SameKind SameReading (read source)
        (read (String.ofList (withReturns source.toList)))) := by
  constructor
  · refine read_widens (by decide) .inl (by decide) ?_ readEntry_widens_quoted
    rw [String.toList_ofList]
    refine widens_blank (by decide) divides unescaped fun before quote after same => .inr ?_
    have member : .literal quote [] false ∈ segments := by simp [same]
    simp [isSpaceOrQuote, divides.isQuote_of_mem member]
  · intro opens
    refine read_widens (by decide) id (by decide) ?_ readEntry_widens
    rw [String.toList_ofList]
    refine widens_blank (by decide) divides unescaped fun before quote after same => ?_
    exact .inl ((opens before quote after same).resolve_right id)

/-- The characters of a source with a literal that is not closed, a comment of two lines and a
comment to the end of the line. -/
def foldedText : List Char :=
  "s = ".toList ++ '\x22' :: ("a\\\"".toList ++ '\n' :: '/' :: '*' :: (" b\n".toList ++
    '*' :: '/' :: (" A3_KERNEL(a3in_t a,".toList ++ '/' :: '/' :: (" c".toList ++
      '\n' :: "a3out_t\tb)".toList))))

/-- The segments of that source. -/
def foldedSegments : List Segment :=
  "s = ".toList.map .code ++ .literal '\x22' "a\\\"".toList false :: .code '\n' ::
    .blockComment " b\n".toList true :: (" A3_KERNEL(a3in_t a,".toList.map .code ++
      .lineComment " c".toList :: .code '\n' :: "a3out_t\tb)".toList.map .code)

theorem divides_folded : Divides foldedSegments foldedText := by
  have last := Divides.nil.behind (by decide : "a3out_t\tb)".toList.all isPlain = true)
  rw [List.append_nil, List.append_nil] at last
  have turned : Divides (.code '\n' :: "a3out_t\tb)".toList.map .code)
      ('\n' :: "a3out_t\tb)".toList) :=
    .code rfl (fun slash => absurd slash (by decide)) last
  have line := (Divides.lineComment (by decide : '\n' ∉ " c".toList) (startsLine_cons.2 rfl)
    turned).behind (by decide : " A3_KERNEL(a3in_t a,".toList.all isPlain = true)
  have lines := Divides.blockComment (by decide +kernel : Unclosed " b\n".toList) line
  have inside : Inside '\x22' "a\\\"".toList :=
    .plain (by decide) (by decide) (by decide) (.escape .nil)
  exact (Divides.openLiteral rfl inside (startsLine_cons.2 rfl)
    (.code rfl (fun slash => absurd slash (by decide)) lines)).behind
    (by decide : "s = ".toList.all isPlain = true)

theorem read_withReturns_folded :
    Parallel DeclarationError.SameKind SameReading (read (String.ofList foldedText))
      (read (String.ofList (withReturns (String.ofList foldedText).toList))) := by
  have only : ∀ {quote inside closed}, .literal quote inside closed ∈ foldedSegments →
      inside = "a\\\"".toList := by
    intro quote inside closed member
    simp only [foldedSegments, List.mem_append, List.mem_cons, List.mem_map, reduceCtorEq, and_false,
      exists_false, false_or, or_false, Segment.literal.injEq] at member
    exact member.2.1
  refine (read_withReturns (by rw [String.toList_ofList]; exact divides_folded) ?_).2 ?_
  · intro quote inside closed member
    rw [only member]
    decide
  · intro before quote after same
    have empty := only (by rw [same]; exact List.mem_append_right _ List.mem_cons_self)
    exact absurd empty (by decide)

/-- A backslash in front of a line feed takes it into the literal, which then ends at the second
quote. In front of a carriage return it takes that, and the literal ends with its line. Behind a
quote at the end of its line a carriage return becomes a space, and parts the quote from what
follows. -/
theorem read_withReturns_escaped :
    (read "\"\\\n\" A3_KERNEL(a3in_t a)" = .ok ⟨["a3in_t a"], [⟨.input, "a", 15⟩], 5⟩ ∧
      read (String.ofList (withReturns "\"\\\n\" A3_KERNEL(a3in_t a)".toList)) =
        .error .notFound) ∧
    read "A3_KERNEL(a3in_t a\"\nb)" = .error (.invalidName "a\"b" 10) ∧
      read (String.ofList (withReturns "A3_KERNEL(a3in_t a\"\nb)".toList)) =
        .error (.malformedArgument "a3in_t a\" b" 10) := by
  decide +kernel

end Declaration

end KernelExport
