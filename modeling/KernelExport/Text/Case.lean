/-
This file maps text to lower and to upper case, for all of Unicode.

One character may become several: the upper case of `ß` is `SS`, and the lower case of `İ` is an
`i` and a combining dot. The lower case of a capital sigma depends on its place: at the end of a
word it is `ς`, elsewhere `σ`. The end of a word means that, looking past characters that case
ignores, a cased character stands before the sigma and none behind it.
-/

import KernelExport.Text.CaseData

namespace KernelExport.Text

/-! ### One character -/

/-- The partner of a character in a list of runs, or the character itself. -/
def casePartner (runs : List CaseRun) (character : Char) : Char :=
  match runs.find? (·.holds character.toNat) with
  | some run => Char.ofNat (Int.toNat (Int.ofNat character.toNat + run.distance))
  | none => character

def lowercaseCharacter (character : Char) : List Char :=
  if character.toNat < 128 then [character.toLower]
  else if character = 'İ' then ['i', '\u0307']
  else [casePartner lowercaseRuns character]

def uppercaseCharacter (character : Char) : List Char :=
  if character.toNat < 128 then [character.toUpper]
  else match uppercaseExpansions.lookup character.toNat with
    | some codes => codes.map Char.ofNat
    | none => [casePartner uppercaseRuns character]

/-! ### The capital sigma -/

/-- Whether one of the ranges holds the character. -/
def inRanges (ranges : List (Nat × Nat)) (character : Char) : Bool :=
  ranges.any fun (first, last) => first ≤ character.toNat && character.toNat ≤ last

/-- Whether the first character that case does not ignore is a cased one. -/
def meetsCased (text : List Char) : Bool :=
  match text.dropWhile (inRanges caseIgnorableRanges) with
  | [] => false
  | character :: _ => inRanges casedRanges character

/-- Whether a character between `before`, read backwards, and `after` ends a word. -/
def endsWord (before after : List Char) : Bool :=
  meetsCased before && !meetsCased after

/-! ### Text -/

/-- The lower case of a text that stands behind `before`, which is read backwards. -/
def lowercaseAfter (before : List Char) : List Char → List Char
  | [] => []
  | character :: rest =>
    let lowered :=
      if character = 'Σ' then [if endsWord before rest then 'ς' else 'σ']
      else lowercaseCharacter character
    lowered ++ lowercaseAfter (character :: before) rest

def lowercase (text : String) : String :=
  String.ofList (lowercaseAfter [] text.toList)

def uppercase (text : String) : String :=
  String.ofList (text.toList.flatMap uppercaseCharacter)

end KernelExport.Text
