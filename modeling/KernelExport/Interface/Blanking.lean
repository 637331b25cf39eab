/-
This file blanks what does not count in kernel source: comments, and what stands between the
quotes of string and character literals.

The text is read left to right in one of four regions. Comments open only in code, and so do
literals; a literal ends at its quote or at the end of its line, and a backslash there takes the
next character with it. A blanked character becomes as many spaces as it takes bytes, and line
feeds are kept, so every byte offset and every line of the blanked text is that of the source.
-/

import KernelExport.Text.Blank

namespace KernelExport.SourceText

/-- What the reader of a source is in. -/
inductive Region where
  | code
  /-- A comment to the end of the line. -/
  | lineComment
  /-- A comment up to the mark that closes it. -/
  | blockComment
  /-- A literal that opened with this quote. -/
  | literal (quote : Char)
  deriving DecidableEq, Repr

/-- As many spaces as the character takes bytes; a line feed stays. -/
def blanked (character : Char) : List Char :=
  if character = '\n' then ['\n'] else List.replicate character.utf8Size ' '

/-- Whether the character opens and closes literals. -/
def isQuote (character : Char) : Bool :=
  character == '\x22' || character == '\x27'

/-- The rest of a source, blanked, when the reader is in a region. -/
def blankFrom : Region → List Char → List Char
  | _, [] => []
  | .code, '/' :: '/' :: rest => ' ' :: ' ' :: blankFrom .lineComment rest
  | .code, '/' :: '*' :: rest => ' ' :: ' ' :: blankFrom .blockComment rest
  | .code, character :: rest =>
    character :: blankFrom (if isQuote character then .literal character else .code) rest
  | .lineComment, character :: rest =>
    blanked character ++ blankFrom (if character = '\n' then .code else .lineComment) rest
  | .blockComment, '*' :: '/' :: rest => ' ' :: ' ' :: blankFrom .code rest
  | .blockComment, character :: rest => blanked character ++ blankFrom .blockComment rest
  | .literal quote, character :: rest =>
    if character = quote ∨ character = '\n' then character :: blankFrom .code rest
    else if character = '\\' then
      match rest with
      | [] => blanked character
      | escaped :: after => blanked character ++ blanked escaped ++ blankFrom (.literal quote) after
    else blanked character ++ blankFrom (.literal quote) rest

/-- The source with its comments and the insides of its literals blanked. -/
def blank (source : List Char) : List Char :=
  blankFrom .code source

end KernelExport.SourceText
