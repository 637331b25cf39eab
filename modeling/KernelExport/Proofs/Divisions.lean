/-
This file says that a source falls into segments in one way only.

How a source starts decides what its first segment is: a literal at a quote, a comment where one opens,
and otherwise a character of code (`Divides.of_code` and its likes). How far it goes is decided as well,
by the first line feed, by the first mark that closes a comment, or by the first quote or line feed that
no backslash has taken (`line_unique`, `unclosed_unique`, `inside_unique`). So two divisions of a source
are the same, segment by segment (`Divides.unique`).
-/

import KernelExport.Proofs.Segments
import Mathlib.Logic.ExistsUnique

namespace KernelExport.SourceText

open Text

/-! ### Where segments end -/

theorem takeWhile_line {line rest : List Char} (oneLine : '\n' ∉ line) (ends : StartsLine rest) :
    (line ++ rest).takeWhile (· ≠ '\n') = line := by
  rw [List.takeWhile_append_of_pos]
  · cases rest with
    | nil => simp
    | cons character rest => simp [startsLine_cons.1 ends]
  · intro character member
    rw [decide_eq_true_eq]
    rintro rfl
    exact oneLine member

/-- A line goes up to the line feed. -/
theorem line_unique {line rest other behind : List Char} (oneLine : '\n' ∉ line)
    (ends : StartsLine rest) (oneLineToo : '\n' ∉ other) (endsToo : StartsLine behind)
    (same : line ++ rest = other ++ behind) : line = other ∧ rest = behind := by
  have sameLine : line = other := by
    rw [← takeWhile_line oneLine ends, same, takeWhile_line oneLineToo endsToo]
  subst sameLine
  exact ⟨rfl, List.append_cancel_left same⟩

/-- A comment goes up to the first mark that closes it. -/
theorem unclosed_unique {inside rest other behind : List Char} (unclosed : Unclosed inside)
    (unclosedToo : Unclosed other) (same : inside ++ '*' :: '/' :: rest = other ++ '*' :: '/' :: behind) :
    inside = other ∧ rest = behind := by
  have notLonger : ∀ {inside rest other behind : List Char}, Unclosed inside →
      inside ++ '*' :: '/' :: rest = other ++ '*' :: '/' :: behind → ∀ more, inside = other ++ more →
        more = [] := by
    rintro inside rest other behind unclosed same more rfl
    rw [List.append_assoc, List.append_cancel_left_eq] at same
    match more with
    | [] => rfl
    | [_] => simp at same
    | star :: slash :: more =>
      obtain ⟨rfl, sameRest⟩ := List.cons.inj same.symm
      obtain ⟨rfl, -⟩ := List.cons.inj sameRest
      exact absurd ⟨other, more, by simp⟩ unclosed
  rcases List.append_eq_append_iff.1 same with ⟨more, longer, -⟩ | ⟨more, longer, -⟩
  · obtain rfl := notLonger unclosedToo same.symm more longer
    rw [List.append_nil] at longer
    subst longer
    simpa using same
  · obtain rfl := notLonger unclosed same more longer
    rw [List.append_nil] at longer
    subst longer
    simpa using same

/-- What may stand behind the inside of a literal: its quote, a line feed, the end of the source, or a
backslash that has nothing to take. -/
def EndsLiteral (quote : Char) (rest : List Char) : Prop :=
  (∃ behind, rest = quote :: behind) ∨ StartsLine rest ∨ rest = ['\\']

theorem ne_backslash_of_isQuote {quote : Char} (quoted : isQuote quote = true) : quote ≠ '\\' := by
  rintro rfl
  cases quoted

theorem Inside.not_endsLiteral {quote character : Char} {inside rest : List Char}
    (quoted : isQuote quote = true) (holds : Inside quote (character :: inside)) :
    ¬EndsLiteral quote (character :: inside ++ rest) := by
  rintro (⟨behind, same⟩ | startsLine | same)
  · obtain ⟨rfl, -⟩ := List.cons.inj same
    cases holds with
    | plain notQuote => exact notQuote rfl
    | escape => exact ne_backslash_of_isQuote quoted rfl
  · obtain rfl := startsLine_cons.1 startsLine
    cases holds with
    | plain _ notLineFeed => exact notLineFeed rfl
  · obtain ⟨rfl, same⟩ := List.cons.inj same
    cases holds with
    | plain _ _ notBackslash => exact notBackslash rfl
    | escape => cases same

/-- The inside of a literal goes up to what ends it. -/
theorem inside_unique {quote : Char} {inside rest other behind : List Char}
    (quoted : isQuote quote = true) (holds : Inside quote inside) (ends : EndsLiteral quote rest)
    (holdsToo : Inside quote other) (endsToo : EndsLiteral quote behind)
    (same : inside ++ rest = other ++ behind) : inside = other ∧ rest = behind := by
  induction holds generalizing other with
  | nil =>
    cases other with
    | nil => exact ⟨rfl, same⟩
    | cons character other =>
      exact absurd ((show rest = _ from same) ▸ ends) (holdsToo.not_endsLiteral quoted)
  | @plain character inside notQuote notLineFeed notBackslash holds inductionHypothesis =>
    cases holdsToo with
    | nil =>
      exact absurd ((show _ = behind from same) ▸ endsToo)
        ((Inside.plain notQuote notLineFeed notBackslash holds).not_endsLiteral quoted)
    | plain _ _ _ holdsToo =>
      obtain ⟨rfl, sameRest⟩ := List.cons.inj same
      obtain ⟨rfl, rfl⟩ := inductionHypothesis holdsToo sameRest
      exact ⟨rfl, rfl⟩
    | escape => exact absurd (List.cons.inj same).1 notBackslash
  | @escape escaped inside holds inductionHypothesis =>
    cases holdsToo with
    | nil =>
      exact absurd ((show _ = behind from same) ▸ endsToo)
        ((Inside.escape holds).not_endsLiteral quoted)
    | plain _ _ notBackslash => exact absurd (List.cons.inj same).1.symm notBackslash
    | escape holdsToo =>
      obtain ⟨rfl, sameRest⟩ := List.cons.inj (List.cons.inj same).2
      obtain ⟨rfl, rfl⟩ := inductionHypothesis holdsToo sameRest
      exact ⟨rfl, rfl⟩

/-! ### How segments start -/

section

variable {segments : List Segment} {text : List Char}

theorem Divides.of_code {character : Char} (divides : Divides segments (character :: text))
    (unquoted : isQuote character = false) (unopened : Unopened character text) :
    ∃ others, segments = .code character :: others ∧ Divides others text := by
  cases divides with
  | code _ _ divides => exact ⟨_, rfl, divides⟩
  | lineComment => exact absurd rfl (unopened rfl '/' rfl).1
  | blockComment | openComment => exact absurd rfl (unopened rfl '*' rfl).2
  | literal quoted | openLiteral quoted | unfinished quoted =>
    rw [unquoted] at quoted
    cases quoted

theorem Divides.of_lineComment (divides : Divides segments ('/' :: '/' :: text)) :
    ∃ inside rest others, text = inside ++ rest ∧ '\n' ∉ inside ∧ StartsLine rest ∧
      segments = .lineComment inside :: others ∧ Divides others rest := by
  generalize starts : '/' :: '/' :: text = source at divides
  cases divides with
  | nil => cases starts
  | code _ unopened =>
    obtain ⟨rfl, rfl⟩ := List.cons.inj starts
    exact absurd rfl (unopened rfl '/' rfl).1
  | lineComment oneLine ends divides =>
    exact ⟨_, _, _, by simpa using starts, oneLine, ends, rfl, divides⟩
  | blockComment | openComment => simp at starts
  | literal quoted | openLiteral quoted | unfinished quoted =>
    obtain ⟨rfl, -⟩ := List.cons.inj starts
    cases quoted

theorem Divides.of_blockComment (divides : Divides segments ('/' :: '*' :: text)) :
    (∃ inside rest others, text = inside ++ '*' :: '/' :: rest ∧ Unclosed inside ∧
      segments = .blockComment inside true :: others ∧ Divides others rest) ∨
    Unclosed text ∧ segments = [.blockComment text false] := by
  generalize starts : '/' :: '*' :: text = source at divides
  cases divides with
  | nil => cases starts
  | code _ unopened =>
    obtain ⟨rfl, rfl⟩ := List.cons.inj starts
    exact absurd rfl (unopened rfl '*' rfl).2
  | lineComment => simp at starts
  | blockComment unclosed divides =>
    exact .inl ⟨_, _, _, by simpa using starts, unclosed, rfl, divides⟩
  | openComment unclosed =>
    obtain rfl : text = _ := by simpa using starts
    exact .inr ⟨unclosed, rfl⟩
  | literal quoted | openLiteral quoted | unfinished quoted =>
    obtain ⟨rfl, -⟩ := List.cons.inj starts
    cases quoted

/-- What ends a literal decides how it is told. -/
theorem Divides.of_literal {quote : Char} {inside rest : List Char} (quoted : isQuote quote = true)
    (holds : Inside quote inside) (ends : EndsLiteral quote rest)
    (divides : Divides segments (quote :: (inside ++ rest))) :
    (∃ behind others, rest = quote :: behind ∧ segments = .literal quote inside true :: others ∧
      Divides others behind) ∨
    (∃ others, StartsLine rest ∧ segments = .literal quote inside false :: others ∧
      Divides others rest) ∨
    rest = ['\\'] ∧ segments = [.literal quote (inside ++ ['\\']) false] := by
  generalize starts : quote :: (inside ++ rest) = source at divides
  cases divides with
  | nil => cases starts
  | code unquoted =>
    obtain ⟨rfl, -⟩ := List.cons.inj starts
    rw [quoted] at unquoted
    cases unquoted
  | lineComment | blockComment | openComment =>
    obtain ⟨rfl, -⟩ := List.cons.inj starts
    cases quoted
  | literal _ holdsToo divides =>
    obtain ⟨rfl, same⟩ := List.cons.inj starts
    obtain ⟨rfl, rfl⟩ := inside_unique quoted holds ends holdsToo (.inl ⟨_, rfl⟩) same
    exact .inl ⟨_, _, rfl, rfl, divides⟩
  | openLiteral _ holdsToo endsToo divides =>
    obtain ⟨rfl, same⟩ := List.cons.inj starts
    obtain ⟨rfl, rfl⟩ := inside_unique quoted holds ends holdsToo (.inr (.inl endsToo)) same
    exact .inr (.inl ⟨_, endsToo, rfl, divides⟩)
  | unfinished _ holdsToo =>
    obtain ⟨rfl, same⟩ := List.cons.inj starts
    obtain ⟨rfl, rfl⟩ := inside_unique quoted holds ends holdsToo (.inr (.inr rfl)) same
    exact .inr (.inr ⟨rfl, rfl⟩)

end

theorem not_startsLine_quote {quote : Char} (quoted : isQuote quote = true) (rest : List Char) :
    ¬StartsLine (quote :: rest) := by
  intro startsLine
  rw [startsLine_cons.1 startsLine] at quoted
  cases quoted

theorem not_startsLine_backslash : ¬StartsLine ['\\'] := by
  rw [startsLine_cons]
  decide

/-- A source is divided in one way. -/
theorem Divides.unique {segments others : List Segment} {source : List Char}
    (divides : Divides segments source) (dividesToo : Divides others source) : segments = others := by
  induction divides generalizing others with
  | nil =>
    cases dividesToo
    rfl
  | code unquoted unopened _ inductionHypothesis =>
    obtain ⟨rest, rfl, restDivides⟩ := dividesToo.of_code unquoted unopened
    rw [inductionHypothesis restDivides]
  | lineComment oneLine ends _ inductionHypothesis =>
    obtain ⟨inside, behind, rest, same, oneLineToo, endsToo, rfl, restDivides⟩ :=
      dividesToo.of_lineComment
    obtain ⟨rfl, rfl⟩ := line_unique oneLine ends oneLineToo endsToo same
    rw [inductionHypothesis restDivides]
  | @blockComment inside _ rest unclosed _ inductionHypothesis =>
    obtain ⟨other, behind, more, same, unclosedToo, rfl, restDivides⟩ | ⟨unclosedToo, -⟩ :=
      dividesToo.of_blockComment
    · obtain ⟨rfl, rfl⟩ := unclosed_unique unclosed unclosedToo same
      rw [inductionHypothesis restDivides]
    · exact absurd ⟨inside, rest, by simp⟩ unclosedToo
  | openComment unclosed =>
    obtain ⟨inside, rest, others, rfl, -⟩ | ⟨-, rfl⟩ := dividesToo.of_blockComment
    · exact absurd ⟨inside, rest, by simp⟩ unclosed
    · rfl
  | literal quoted holds _ inductionHypothesis =>
    obtain ⟨behind, rest, same, rfl, restDivides⟩ | ⟨rest, startsLine, -⟩ | ⟨same, -⟩ :=
      dividesToo.of_literal quoted holds (.inl ⟨_, rfl⟩)
    · obtain ⟨-, rfl⟩ := List.cons.inj same
      rw [inductionHypothesis restDivides]
    · exact absurd startsLine (not_startsLine_quote quoted _)
    · exact absurd (List.cons.inj same).1 (ne_backslash_of_isQuote quoted)
  | openLiteral quoted holds ends _ inductionHypothesis =>
    obtain ⟨behind, rest, rfl, -⟩ | ⟨rest, -, rfl, restDivides⟩ | ⟨rfl, -⟩ :=
      dividesToo.of_literal quoted holds (.inr (.inl ends))
    · exact absurd ends (not_startsLine_quote quoted _)
    · rw [inductionHypothesis restDivides]
    · exact absurd ends not_startsLine_backslash
  | unfinished quoted holds =>
    obtain ⟨behind, rest, same, -⟩ | ⟨rest, startsLine, -⟩ | ⟨-, rfl⟩ :=
      dividesToo.of_literal quoted holds (.inr (.inr rfl))
    · exact absurd (List.cons.inj same).1.symm (ne_backslash_of_isQuote quoted)
    · exact absurd startsLine not_startsLine_backslash
    · rfl

/-- Every source is divided in one way. -/
theorem existsUnique_divides (source : List Char) : ∃! segments, Divides segments source := by
  obtain ⟨segments, divides⟩ := exists_divides source
  exact ⟨segments, divides, fun _ dividesToo => dividesToo.unique divides⟩

end KernelExport.SourceText
