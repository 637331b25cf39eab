/-
This file holds templates and the reading of their text.

    entity <<NAME>> is            -- the value of a key
    <<generate for PORTS>>
      bank_<<pid>> : <<pname>>    -- once for each record of the list PORTS
    <<end generate>>

Text is cut into tokens from left to right. A `<<` opens a tag if what follows up to the next `>>`
is on one line and is the content of a tag; any other `<<` is text, and reading goes on right
behind it. The tokens are then put together from the last to the first: what stands behind an
`end generate` waits until the block that it ends has been opened, and a block takes its body
from what was put together since.

A `Template` is a sequence: each of its parts is followed by the rest of the template.
-/

import KernelExport.Text.Blank

namespace KernelExport

/-- A template. -/
inductive Template where
  /-- The end of a template. -/
  | done
  /-- Text, which stands for itself. -/
  | text (content : String) (rest : Template)
  /-- The value of a key. -/
  | value (key : String) (rest : Template)
  /-- The body once for each record of the list under a key. -/
  | generate (key : String) (body rest : Template)
  deriving DecidableEq, Repr, Inhabited

namespace Template

/-- Why a template has no meaning. -/
inductive Fault where
  /-- Nothing is known under the key. -/
  | unknownKey (key : String)
  /-- A block ends that was not opened. -/
  | strayEnd
  /-- The block for the key is not ended. -/
  | unterminated (key : String)
  /-- What is known under the key has no text. -/
  | notScalar (key : String)
  /-- What is known under the key is no list. -/
  | notList (key : String)
  /-- The list under the key holds something else than records. -/
  | notRecords (key : String)
  deriving DecidableEq, Repr

/-- The words for a fault. For an unknown key they are the key. -/
def Fault.message : Fault → String
  | .unknownKey key => key
  | .strayEnd => "`end generate` without `generate for`"
  | .unterminated key => "unterminated `generate for " ++ key ++ "`"
  | .notScalar key => "`" ++ key ++ "` is a list, not a value"
  | .notList key => "`" ++ key ++ "` is not a list"
  | .notRecords key => "`" ++ key ++ "` entries must be records"

/-! ### Tokens -/

/-- The tags of the template language. -/
inductive Tag where
  | value (key : String)
  | generate (key : String)
  | endGenerate
  deriving DecidableEq, Repr

namespace Tag

def endContent : List Char := "end generate".toList

/-- What stands in front of the key in the content that opens a block. -/
def generateContent : List Char := "generate for ".toList

def ofContent? (content : List Char) : Option Tag :=
  if content = endContent then some .endGenerate
  else if generateContent.isPrefixOf content then
    let key := content.drop generateContent.length
    if Text.isIdentifier key then some (.generate (String.ofList key)) else none
  else if Text.isIdentifier content then some (.value (String.ofList content))
  else none

def content : Tag → List Char
  | .value key => key.toList
  | .generate key => generateContent ++ key.toList
  | .endGenerate => endContent

/-- The text of a tag. -/
def written (tag : Tag) : List Char :=
  ['<', '<'] ++ tag.content ++ ['>', '>']

end Tag

/-- A token of a template: a run of text, or a tag. -/
inductive Token where
  | text (content : List Char)
  | tag (tag : Tag)
  deriving DecidableEq, Repr

/-- The tokens with one more character of text in front. -/
def Token.push (character : Char) : List Token → List Token
  | .text content :: rest => .text (character :: content) :: rest
  | tokens => .text [character] :: tokens

/-- What stands before the first `>>` of a text, and what stands behind it. -/
def cutAtClose : List Char → Option (List Char × List Char)
  | '>' :: '>' :: rest => some ([], rest)
  | character :: rest => (cutAtClose rest).map fun (before, behind) => (character :: before, behind)
  | [] => none

/-- The tag at the front of a text that follows a `<<`, and what stands behind the tag. -/
def tagAt (text : List Char) : Option (Tag × List Char) :=
  match cutAtClose text with
  | none => none
  | some (content, behind) =>
    if '\n' ∈ content then none
    else (Tag.ofContent? content).map fun tag => (tag, behind)

theorem length_of_cutAtClose {text before behind : List Char}
    (cut : cutAtClose text = some (before, behind)) : behind.length < text.length := by
  fun_induction cutAtClose text generalizing before with
  | case1 rest =>
    obtain ⟨rfl, rfl⟩ := Prod.mk.inj (Option.some.inj cut)
    simp only [List.length_cons]
    omega
  | case2 character rest notClose inductionHypothesis =>
    obtain ⟨⟨inner, later⟩, found, same⟩ := Option.map_eq_some_iff.1 cut
    obtain ⟨rfl, rfl⟩ := Prod.mk.inj same
    have := inductionHypothesis found
    simp only [List.length_cons]
    omega
  | case3 => simp at cut

theorem length_of_tagAt {text behind : List Char} {tag : Tag}
    (found : tagAt text = some (tag, behind)) : behind.length < text.length := by
  unfold tagAt at found
  split at found
  · simp at found
  · rename_i content later cut
    split at found
    · simp at found
    · obtain ⟨_, _, same⟩ := Option.map_eq_some_iff.1 found
      obtain ⟨rfl, rfl⟩ := Prod.mk.inj same
      exact length_of_cutAtClose cut

def tokens : List Char → List Token
  | '<' :: '<' :: rest =>
    match _found : tagAt rest with
    | some (tag, behind) => .tag tag :: tokens behind
    | none => Token.push '<' (Token.push '<' (tokens rest))
  | character :: rest => Token.push character (tokens rest)
  | [] => []
termination_by text => text.length
decreasing_by
  · have := length_of_tagAt ‹_›
    simp only [List.length_cons]
    omega
  · simp only [List.length_cons]
    omega
  · simp

/-! ### Blocks -/

/-- What has been put together of a template, from its last token on. -/
structure Assembly where
  /-- What follows, up to the end of the block that is being put together. -/
  current : Template := .done
  /-- What follows the ends of blocks that have not been opened yet, innermost first. -/
  waiting : List Template := []
  /-- The key of the last block that is not ended. -/
  unended : Option String := none
  deriving DecidableEq, Repr

/-- Puts a token in front of what has been put together. -/
def Assembly.add (assembly : Assembly) : Token → Assembly
  | .text content => { assembly with current := .text (String.ofList content) assembly.current }
  | .tag (.value key) => { assembly with current := .value key assembly.current }
  | .tag .endGenerate =>
    { assembly with current := .done, waiting := assembly.current :: assembly.waiting }
  | .tag (.generate key) =>
    match assembly.waiting with
    | rest :: waiting =>
      { assembly with current := .generate key assembly.current rest, waiting }
    | [] => { assembly with unended := assembly.unended.or (some key) }

def ofTokens (tokens : List Token) : Except Fault Template :=
  let assembly := tokens.foldr (fun token assembly => Assembly.add assembly token) {}
  match assembly.waiting, assembly.unended with
  | _ :: _, _ => .error .strayEnd
  | [], some key => .error (.unterminated key)
  | [], none => .ok assembly.current

def read (text : String) : Except Fault Template :=
  ofTokens (tokens text.toList)

/-- The text of a template. -/
def written : Template → List Char
  | .done => []
  | .text content rest => content.toList ++ rest.written
  | .value key rest => (Tag.value key).written ++ rest.written
  | .generate key body rest =>
    (Tag.generate key).written ++ body.written ++ Tag.endGenerate.written ++ rest.written

end Template

end KernelExport
