/-
This file divides the source of a kernel into segments: characters of code, comments and literals.

A comment to the end of the line goes up to the line feed, which is code again; any other comment
goes up to the first mark that closes it, and a literal up to its quote or to the line feed. What
stands inside a literal is read by escapes: a backslash takes the next character with it, whatever
that is (`Inside`). The rules of `Divides` say no more than that, and every source is divided by
them (`exists_divides`).

The main statement is that blanking goes by segments (`blank_of_divides`): code, and the quotes of
literals, stay; the marks of comments become spaces, and so does what stands inside comments and
literals, but for line feeds.
-/

import KernelExport.Proofs.Relayout

namespace KernelExport.SourceText

open Text

/-! ### Segments -/

/-- Nothing in a text ends a literal that opened with the quote: outside escapes there is neither the
quote nor a line feed, and each backslash outside escapes has a character to take. -/
inductive Inside (quote : Char) : List Char → Prop where
  | nil : Inside quote []
  | plain {character : Char} {rest : List Char} (notQuote : character ≠ quote)
    (notLineFeed : character ≠ '\n') (notBackslash : character ≠ '\\') (inside : Inside quote rest) :
    Inside quote (character :: rest)
  | escape {escaped : Char} {rest : List Char} (inside : Inside quote rest) :
    Inside quote ('\\' :: escaped :: rest)

/-- The text holds no mark that closes a comment. -/
def Unclosed (text : List Char) : Prop := ¬ ['*', '/'] <:+: text

instance (text : List Char) : Decidable (Unclosed text) :=
  inferInstanceAs (Decidable (¬ _))

/-- The text is empty, or it starts with a line feed. -/
def StartsLine (text : List Char) : Prop := ∀ character ∈ text.head?, character = '\n'

/-- The character opens no comment in front of this text. -/
def Unopened (character : Char) (text : List Char) : Prop :=
  character = '/' → ∀ next ∈ text.head?, next ≠ '/' ∧ next ≠ '*'

/-- A part of a source. Comments and literals are told with what stands inside them. -/
inductive Segment where
  | code (character : Char)
  | lineComment (inside : List Char)
  | blockComment (inside : List Char) (closed : Bool)
  | literal (quote : Char) (inside : List Char) (closed : Bool)
  deriving DecidableEq, Repr

/-- The segments divide the source. -/
inductive Divides : List Segment → List Char → Prop where
  | nil : Divides [] []
  | code {character : Char} {segments : List Segment} {rest : List Char}
    (unquoted : isQuote character = false) (unopened : Unopened character rest)
    (divides : Divides segments rest) : Divides (.code character :: segments) (character :: rest)
  | lineComment {inside : List Char} {segments : List Segment} {rest : List Char}
    (oneLine : '\n' ∉ inside) (ends : StartsLine rest) (divides : Divides segments rest) :
    Divides (.lineComment inside :: segments) ('/' :: '/' :: (inside ++ rest))
  | blockComment {inside : List Char} {segments : List Segment} {rest : List Char}
    (unclosed : Unclosed inside) (divides : Divides segments rest) :
    Divides (.blockComment inside true :: segments) ('/' :: '*' :: (inside ++ '*' :: '/' :: rest))
  /-- A comment that is not closed goes on to the end of the source. -/
  | openComment {inside : List Char} (unclosed : Unclosed inside) :
    Divides [.blockComment inside false] ('/' :: '*' :: inside)
  | literal {quote : Char} {inside : List Char} {segments : List Segment} {rest : List Char}
    (quoted : isQuote quote = true) (holds : Inside quote inside) (divides : Divides segments rest) :
    Divides (.literal quote inside true :: segments) (quote :: (inside ++ quote :: rest))
  /-- A literal that is not closed goes on to the end of the line. -/
  | openLiteral {quote : Char} {inside : List Char} {segments : List Segment} {rest : List Char}
    (quoted : isQuote quote = true) (holds : Inside quote inside) (ends : StartsLine rest)
    (divides : Divides segments rest) :
    Divides (.literal quote inside false :: segments) (quote :: (inside ++ rest))
  /-- A backslash at the end of the source has nothing to take. -/
  | unfinished {quote : Char} {inside : List Char} (quoted : isQuote quote = true)
    (holds : Inside quote inside) :
    Divides [.literal quote (inside ++ ['\\']) false] (quote :: (inside ++ ['\\']))

/-! ### Every source is divided -/

theorem startsLine_nil : StartsLine [] := fun _ member => absurd member (by simp)

theorem startsLine_cons {character : Char} {rest : List Char} :
    StartsLine (character :: rest) ↔ character = '\n' := by
  simp [StartsLine]

/-- A text goes up to its first line feed, or it has none. -/
theorem exists_line (text : List Char) : ∃ line rest, text = line ++ rest ∧ '\n' ∉ line ∧
    StartsLine rest := by
  refine ⟨text.takeWhile (· ≠ '\n'), text.dropWhile (· ≠ '\n'),
    List.takeWhile_append_dropWhile.symm, fun member => ?_, fun character member => ?_⟩
  · simpa using List.all_eq_true.1 List.all_takeWhile '\n' member
  · have stops := List.head?_dropWhile_not (· ≠ '\n') text
    rw [Option.mem_def.1 member] at stops
    simpa using stops

theorem unclosed_nil : Unclosed [] := by
  intro closed
  simpa using closed.length_le

/-- A character goes in front of a text without a mark, unless the two make one. -/
theorem Unclosed.cons {character : Char} {text : List Char} (unclosed : Unclosed text)
    (apart : character = '*' → ∀ next ∈ text.head?, next ≠ '/') : Unclosed (character :: text) := by
  intro closed
  rcases List.infix_cons_iff.1 closed with front | later
  · obtain ⟨rest, same⟩ := front
    obtain ⟨rfl, rfl⟩ := List.cons.inj same
    exact apart rfl '/' (by simp) rfl
  · exact unclosed later

/-- A text goes up to the first mark that closes a comment, or it has none. -/
theorem unclosed_or_exists (text : List Char) : Unclosed text ∨
    ∃ inside rest, text = inside ++ '*' :: '/' :: rest ∧ Unclosed inside := by
  induction text with
  | nil => exact .inl unclosed_nil
  | cons character text inductionHypothesis =>
    by_cases marks : character = '*' ∧ text.head? = some '/'
    · obtain ⟨rfl, starts⟩ := marks
      obtain ⟨rest, rfl⟩ := List.head?_eq_some_iff.1 starts
      exact .inr ⟨[], rest, rfl, unclosed_nil⟩
    · rcases inductionHypothesis with unclosed | ⟨inside, rest, rfl, unclosed⟩
      · refine .inl (unclosed.cons fun star next member slash => marks ⟨star, ?_⟩)
        rw [Option.mem_def.1 member, slash]
      · refine .inr ⟨character :: inside, rest, rfl, unclosed.cons fun star next member slash => ?_⟩
        refine marks ⟨star, ?_⟩
        rw [List.head?_append, Option.mem_def.1 member, slash, Option.some_or]

/-- What follows a quote goes up to the end of the literal, or to the end of the source. -/
theorem exists_inside (quote : Char) (text : List Char) : ∃ inside rest, Inside quote inside ∧
    text = inside ++ rest ∧ (StartsLine rest ∨ rest = ['\\'] ∨ ∃ behind, rest = quote :: behind) := by
  match text with
  | [] => exact ⟨[], [], .nil, rfl, .inl startsLine_nil⟩
  | character :: text =>
    by_cases ends : character = quote
    · exact ⟨[], character :: text, .nil, rfl, .inr (.inr ⟨text, by rw [ends]⟩)⟩
    by_cases lineFeed : character = '\n'
    · exact ⟨[], character :: text, .nil, rfl, .inl (startsLine_cons.2 lineFeed)⟩
    by_cases backslash : character = '\\'
    · subst backslash
      match text with
      | [] => exact ⟨[], ['\\'], .nil, rfl, .inr (.inl rfl)⟩
      | escaped :: text =>
        obtain ⟨inside, rest, holds, rfl, stops⟩ := exists_inside quote text
        exact ⟨'\\' :: escaped :: inside, rest, .escape holds, rfl, stops⟩
    · obtain ⟨inside, rest, holds, rfl, stops⟩ := exists_inside quote text
      exact ⟨character :: inside, rest, .plain ends lineFeed backslash holds, rfl, stops⟩

/-- Every source falls into segments. -/
theorem exists_divides (source : List Char) : ∃ segments, Divides segments source := by
  -- Each segment takes at least one character, so what is left gets shorter.
  induction length : source.length using Nat.strongRecOn generalizing source with
  | ind size inductionHypothesis =>
  subst length
  have shorter : ∀ {taken rest : List Char}, source = taken ++ rest → taken ≠ [] →
      ∃ segments, Divides segments rest := by
    intro taken rest same takes
    have less : rest.length < source.length := by
      rw [same, List.length_append]
      have := List.length_pos_iff.2 takes
      omega
    exact inductionHypothesis _ less rest rfl
  cases source with
  | nil => exact ⟨[], .nil⟩
  | cons character text =>
  cases quoted : isQuote character with
  | true =>
    obtain ⟨inside, rest, holds, rfl, startsLine | rfl | ⟨behind, rfl⟩⟩ :=
      exists_inside character text
    · obtain ⟨segments, divides⟩ := shorter (List.cons_append.symm) (List.cons_ne_nil _ _)
      exact ⟨_, .openLiteral quoted holds startsLine divides⟩
    · exact ⟨_, .unfinished quoted holds⟩
    · obtain ⟨segments, divides⟩ := shorter (List.append_cons (character :: inside) character behind)
        (by simp)
      exact ⟨_, .literal quoted holds divides⟩
  | false =>
    by_cases isLine : character = '/' ∧ text.head? = some '/'
    · obtain ⟨rfl, starts⟩ := isLine
      obtain ⟨text, rfl⟩ := List.head?_eq_some_iff.1 starts
      obtain ⟨line, rest, rfl, oneLine, ends⟩ := exists_line text
      obtain ⟨segments, divides⟩ := shorter (show _ = ('/' :: '/' :: line) ++ rest from rfl)
        (List.cons_ne_nil _ _)
      exact ⟨_, .lineComment oneLine ends divides⟩
    by_cases isBlock : character = '/' ∧ text.head? = some '*'
    · obtain ⟨rfl, starts⟩ := isBlock
      obtain ⟨text, rfl⟩ := List.head?_eq_some_iff.1 starts
      rcases unclosed_or_exists text with unclosed | ⟨inside, rest, rfl, unclosed⟩
      · exact ⟨_, .openComment unclosed⟩
      · obtain ⟨segments, divides⟩ := shorter
          (show _ = ('/' :: '*' :: (inside ++ ['*', '/'])) ++ rest by simp) (List.cons_ne_nil _ _)
        exact ⟨_, .blockComment unclosed divides⟩
    · obtain ⟨segments, divides⟩ := shorter (show _ = [character] ++ text from rfl)
        (List.cons_ne_nil _ _)
      refine ⟨_, .code quoted (fun slash next member => ⟨fun same => ?_, fun same => ?_⟩) divides⟩
      · exact isLine ⟨slash, by rw [Option.mem_def.1 member, same]⟩
      · exact isBlock ⟨slash, by rw [Option.mem_def.1 member, same]⟩

/-- The character opens neither a literal nor a comment. -/
def isPlain (character : Char) : Bool :=
  !isQuote character && character != '/'

/-- A run of characters that open nothing stands in front of other segments. -/
theorem Divides.behind {segments : List Segment} {rest : List Char} (divides : Divides segments rest)
    {run : List Char} (plain : run.all isPlain = true) :
    Divides (run.map Segment.code ++ segments) (run ++ rest) := by
  induction run with
  | nil => exact divides
  | cons character run inductionHypothesis =>
    simp only [List.all_cons, isPlain, Bool.and_eq_true, Bool.not_eq_true', bne_iff_ne] at plain
    exact .code plain.1.1 (fun slash => absurd slash plain.1.2) (inductionHypothesis plain.2)

/-- Literals stand between quotes. -/
theorem Divides.isQuote_of_mem {segments : List Segment} {source : List Char}
    (divides : Divides segments source) {quote : Char} {inside : List Char} {closed : Bool}
    (member : .literal quote inside closed ∈ segments) : isQuote quote = true := by
  induction divides with
  | nil => cases member
  | code _ _ _ inductionHypothesis | lineComment _ _ _ inductionHypothesis
  | blockComment _ _ inductionHypothesis =>
    exact inductionHypothesis (List.mem_of_ne_of_mem (by simp) member)
  | openComment => simp at member
  | literal quoted _ _ inductionHypothesis | openLiteral quoted _ _ _ inductionHypothesis =>
    rcases List.mem_cons.1 member with same | later
    · cases same
      exact quoted
    · exact inductionHypothesis later
  | unfinished quoted _ =>
    cases List.mem_singleton.1 member
    exact quoted

/-! ### Blanking by segments -/

/-- What a text becomes that stands inside a comment or a literal. -/
def blankedText (text : List Char) : List Char :=
  text.flatMap blanked

@[simp] theorem blankedText_nil : blankedText [] = [] := rfl

@[simp] theorem blankedText_cons (character : Char) (rest : List Char) :
    blankedText (character :: rest) = blanked character ++ blankedText rest := rfl

@[simp] theorem blankedText_append (first second : List Char) :
    blankedText (first ++ second) = blankedText first ++ blankedText second :=
  List.flatMap_append

/-- What a segment becomes. -/
def Segment.blanked : Segment → List Char
  | .code character => [character]
  | .lineComment inside => ' ' :: ' ' :: blankedText inside
  | .blockComment inside closed =>
    ' ' :: ' ' :: (blankedText inside ++ if closed then [' ', ' '] else [])
  | .literal quote inside closed => quote :: (blankedText inside ++ if closed then [quote] else [])

theorem isQuote_iff {character : Char} :
    isQuote character = true ↔ character = '\x22' ∨ character = '\x27' := by
  simp [isQuote]

theorem blankFrom_code {character : Char} {rest : List Char} (unquoted : isQuote character = false)
    (unopened : Unopened character rest) :
    blankFrom .code (character :: rest) = character :: blankFrom .code rest := by
  rw [blankFrom, unquoted]
  · rfl
  · rintro other rfl rfl
    exact (unopened rfl '/' (by simp)).1 rfl
  · rintro other rfl rfl
    exact (unopened rfl '*' (by simp)).2 rfl

theorem blankFrom_quote {quote : Char} (quoted : isQuote quote = true) (rest : List Char) :
    blankFrom .code (quote :: rest) = quote :: blankFrom (.literal quote) rest := by
  rcases isQuote_iff.1 quoted with rfl | rfl <;> rfl

theorem blankFrom_lineComment {inside : List Char} (oneLine : '\n' ∉ inside) (rest : List Char) :
    blankFrom .lineComment (inside ++ rest) = blankedText inside ++ blankFrom .lineComment rest := by
  induction inside with
  | nil => rfl
  | cons character inside inductionHypothesis =>
    rw [List.mem_cons, not_or] at oneLine
    rw [List.cons_append, blankFrom, if_neg (Ne.symm oneLine.1), inductionHypothesis oneLine.2,
      blankedText_cons, List.append_assoc]

/-- At a line feed the comment has ended. -/
theorem blankFrom_lineComment_of_startsLine {rest : List Char} (ends : StartsLine rest) :
    blankFrom .lineComment rest = blankFrom .code rest := by
  cases rest with
  | nil => rfl
  | cons character rest =>
    obtain rfl := startsLine_cons.1 ends
    rfl

theorem blankFrom_blockComment {inside rest : List Char}
    (unclosed : ∀ front character behind, inside = front ++ character :: behind →
      character = '*' → (behind ++ rest).head? ≠ some '/') :
    blankFrom .blockComment (inside ++ rest) = blankedText inside ++ blankFrom .blockComment rest := by
  induction inside with
  | nil => rfl
  | cons character inside inductionHypothesis =>
    rw [List.cons_append, blankFrom, inductionHypothesis, blankedText_cons, List.append_assoc]
    · rintro front next behind rfl
      exact unclosed (character :: front) next behind rfl
    · rintro other rfl starts
      exact unclosed [] '*' inside rfl rfl (by rw [starts]; rfl)

/-- Inside a comment without a closing mark none is found, not even at the seam to the mark. -/
theorem Unclosed.ne_slash {inside rest : List Char} (unclosed : Unclosed inside)
    (starts : rest.head? ≠ some '/') : ∀ front character behind,
    inside = front ++ character :: behind → character = '*' → (behind ++ rest).head? ≠ some '/' := by
  rintro front character behind rfl rfl slash
  cases behind with
  | nil => exact starts slash
  | cons next behind =>
    obtain rfl := Option.some.inj slash
    exact unclosed ⟨front, behind, by simp⟩

/-- A comment that is not closed is blanked to the end of the source. -/
theorem blankFrom_unclosed {inside : List Char} (unclosed : Unclosed inside) :
    blankFrom .blockComment inside = blankedText inside := by
  have whole := blankFrom_blockComment (unclosed.ne_slash (by simp : [].head? ≠ some '/'))
  rwa [blankFrom, List.append_nil, List.append_nil] at whole

theorem blankFrom_literal {quote : Char} {inside : List Char} (quoted : isQuote quote = true)
    (holds : Inside quote inside) (rest : List Char) :
    blankFrom (.literal quote) (inside ++ rest) =
      blankedText inside ++ blankFrom (.literal quote) rest := by
  have stays : ¬('\\' = quote ∨ '\\' = '\n') := by
    rcases isQuote_iff.1 quoted with rfl | rfl <;> decide
  induction holds with
  | nil => rfl
  | plain notQuote notLineFeed notBackslash _ inductionHypothesis =>
    rw [List.cons_append, blankFrom_literal_inside (by simp [notQuote, notLineFeed]) notBackslash,
      inductionHypothesis, blankedText_cons, List.append_assoc]
  | escape _ inductionHypothesis =>
    rw [List.cons_append, List.cons_append, blankFrom_literal_escape stays, inductionHypothesis]
    simp only [blankedText_cons, List.append_assoc]

/-- At a line feed the literal has ended. -/
theorem blankFrom_literal_of_startsLine {quote : Char} {rest : List Char} (ends : StartsLine rest) :
    blankFrom (.literal quote) rest = blankFrom .code rest := by
  cases rest with
  | nil => rfl
  | cons character rest =>
    obtain rfl := startsLine_cons.1 ends
    rw [blankFrom_literal_end (.inr rfl)]
    rfl

/-- A source is blanked segment by segment. -/
theorem blank_of_divides {segments : List Segment} {source : List Char}
    (divides : Divides segments source) : blank source = segments.flatMap Segment.blanked := by
  unfold blank
  induction divides with
  | nil => rfl
  | code unquoted unopened _ inductionHypothesis =>
    rw [blankFrom_code unquoted unopened, inductionHypothesis]
    rfl
  | lineComment oneLine ends _ inductionHypothesis =>
    rw [blankFrom, blankFrom_lineComment oneLine, blankFrom_lineComment_of_startsLine ends,
      inductionHypothesis]
    rfl
  | blockComment unclosed _ inductionHypothesis =>
    rw [blankFrom, blankFrom_blockComment (unclosed.ne_slash (by simp)), blankFrom,
      inductionHypothesis, List.flatMap_cons, Segment.blanked]
    simp
  | openComment unclosed =>
    rw [blankFrom, blankFrom_unclosed unclosed]
    simp [Segment.blanked]
  | literal quoted holds _ inductionHypothesis =>
    rw [blankFrom_quote quoted, blankFrom_literal quoted holds, blankFrom_literal_end (.inl rfl),
      inductionHypothesis, List.flatMap_cons, Segment.blanked]
    simp
  | openLiteral quoted holds ends _ inductionHypothesis =>
    rw [blankFrom_quote quoted, blankFrom_literal quoted holds, blankFrom_literal_of_startsLine ends,
      inductionHypothesis, List.flatMap_cons, Segment.blanked]
    simp
  | unfinished quoted holds =>
    rw [blankFrom_quote quoted, blankFrom_literal quoted holds]
    rcases isQuote_iff.1 quoted with rfl | rfl <;>
      simp [Segment.blanked, blankFrom]

end KernelExport.SourceText
