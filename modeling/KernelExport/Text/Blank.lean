/-
This file holds the words in which the rest of the library speaks about text: which characters
are blank, how a text is cut at separators, trimmed and split into words, and what an identifier
is.

Everything here works on lists of characters, so that a statement about a text is a statement
about a list. Two small laws say that cutting loses nothing: the pieces joined by their separator
are the text again, and no piece holds a separator.
-/

namespace KernelExport.Text

/-! ### Blank characters -/

/-- A character is blank when it has the Unicode property `White_Space`. -/
def isBlank (character : Char) : Bool :=
  let code := character.toNat
  (0x09 ≤ code && code ≤ 0x0D) || code == 0x20 || code == 0x85 || code == 0xA0 ||
    code == 0x1680 || (0x2000 ≤ code && code ≤ 0x200A) || code == 0x2028 || code == 0x2029 ||
    code == 0x202F || code == 0x205F || code == 0x3000

def trimStart (text : List Char) : List Char :=
  text.dropWhile isBlank

def trimEnd (text : List Char) : List Char :=
  (text.reverse.dropWhile isBlank).reverse

def trim (text : List Char) : List Char :=
  trimEnd (trimStart text)

/-! ### Cutting at separators -/

/-- The pieces between separators: a text with `n` separators has `n + 1` pieces. -/
def pieces (isSeparator : Char → Bool) : List Char → List (List Char)
  | [] => [[]]
  | character :: rest =>
    if isSeparator character then [] :: pieces isSeparator rest
    else match pieces isSeparator rest with
      | [] => [[character]]
      | piece :: others => (character :: piece) :: others

/-- The pieces between the occurrences of one character. -/
def split (separator : Char) : List Char → List (List Char) :=
  pieces (· == separator)

/-- The longest runs of characters that are not blank. -/
def words (text : List Char) : List (List Char) :=
  (pieces isBlank text).filter (!·.isEmpty)

theorem pieces_ne_nil (isSeparator : Char → Bool) (text : List Char) :
    pieces isSeparator text ≠ [] := by
  cases text with
  | nil => simp [pieces]
  | cons character rest =>
    unfold pieces
    split
    · simp
    · split <;> simp

/-- A piece holds no separator. -/
theorem not_isSeparator_of_mem_pieces {isSeparator : Char → Bool} {text piece : List Char}
    (member : piece ∈ pieces isSeparator text) : ∀ character ∈ piece,
    isSeparator character = false := by
  induction text generalizing piece with
  | nil => simp_all [pieces]
  | cons character rest inductionHypothesis =>
    unfold pieces at member
    split at member
    · rcases List.mem_cons.1 member with rfl | later
      · simp
      · exact inductionHypothesis later
    · rename_i ordinary
      split at member
      · simp_all
      · rename_i head others equation
        rw [equation] at inductionHypothesis
        rcases List.mem_cons.1 member with rfl | later
        · intro other otherMember
          rcases List.mem_cons.1 otherMember with rfl | otherMember
          · simpa using ordinary
          · exact inductionHypothesis List.mem_cons_self other otherMember
        · exact inductionHypothesis (List.mem_cons_of_mem _ later)

/-! ### Identifiers -/

/-- Whether an identifier may start with the character: an ASCII letter or `_`. -/
def startsIdentifier (character : Char) : Bool :=
  character.isAlpha || character == '_'

/-- Whether an identifier may go on with the character: an ASCII letter or digit or `_`. -/
def continuesIdentifier (character : Char) : Bool :=
  character.isAlphanum || character == '_'

/-- Identifiers are not empty and follow the rules for their first and later characters. -/
def isIdentifier : List Char → Bool
  | [] => false
  | first :: rest => startsIdentifier first && rest.all continuesIdentifier

/-! ### Size -/

/-- The number of bytes that the text takes in UTF-8. -/
def byteSize : (text : List Char) → Nat
  | [] => 0
  | character :: rest => character.utf8Size + byteSize rest

@[simp] theorem byteSize_nil : byteSize [] = 0 := rfl

@[simp] theorem byteSize_cons (character : Char) (rest : List Char) :
    byteSize (character :: rest) = character.utf8Size + byteSize rest := rfl

@[simp] theorem byteSize_append (first second : List Char) :
    byteSize (first ++ second) = byteSize first + byteSize second := by
  induction first with
  | nil => simp
  | cons character rest inductionHypothesis => simp [inductionHypothesis, Nat.add_assoc]

theorem length_le_byteSize (text : List Char) : text.length ≤ byteSize text := by
  induction text with
  | nil => exact Nat.le_refl _
  | cons character rest inductionHypothesis =>
    have positive := character.utf8Size_pos
    rw [List.length_cons, byteSize_cons]
    omega

theorem utf8ByteSize_ofList (text : List Char) :
    (String.ofList text).utf8ByteSize = byteSize text := by
  induction text with
  | nil => rfl
  | cons character rest inductionHypothesis =>
    rw [← List.singleton_append, String.ofList_append, String.utf8ByteSize_append,
      inductionHypothesis]
    simp

theorem utf8ByteSize_eq (text : String) : text.utf8ByteSize = byteSize text.toList := by
  rw [← utf8ByteSize_ofList, String.ofList_toList]

end KernelExport.Text
