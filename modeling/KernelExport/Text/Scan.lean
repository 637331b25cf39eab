/-
This file holds the readers from which the readers of whole notations are put together.

A reader takes a part off the front of a text and answers what it read, or refuses the text. A
reader that may be applied any number of times is applied at most as often as the text has
characters, which is all that can matter for one that takes something off each time.
-/

import KernelExport.Text.Blank

namespace KernelExport.Text

/-- Reads a value off the front of a text, or refuses it. -/
abbrev Scan (Result : Type) : Type := StateT (List Char) Option Result

namespace Scan

variable {Result Other : Type}

def whole (scan : Scan Result) (text : List Char) : Option Result :=
  match scan.run text with
  | some (result, []) => some result
  | _ => none

/-- The rest of the text, which stays as it is. -/
def rest : Scan (List Char) := get

/-- The next character, which stays where it is. -/
def peek : Scan (Option Char) := return (← get).head?

def satisfy (test : Char → Bool) : Scan Char := do
  match ← get with
  | character :: rest => if test character then set rest; pure character else failure
  | [] => failure

def char (character : Char) : Scan Unit := do
  discard (satisfy (· == character))

def literally (expected : List Char) : Scan Unit := do
  let text ← get
  if expected.isPrefixOf text then set (text.drop expected.length) else failure

/-- Reads all characters up to the first that fails a test. -/
def takeWhile (test : Char → Bool) : Scan (List Char) := do
  let text ← get
  set (text.dropWhile test)
  pure (text.takeWhile test)

/-- Reads a value if it is there. -/
def optional (scan : Scan Result) : Scan (Option Result) := fun text =>
  match scan text with
  | some (result, rest) => some (some result, rest)
  | none => some (none, text)

/-- Reads values as long as there are any, so many at most. -/
def upTo (scan : Scan Result) : (most : Nat) → Scan (List Result)
  | 0 => pure []
  | most + 1 => do
    match ← optional scan with
    | none => pure []
    | some result => return result :: (← upTo scan most)

/-- Reads values as long as there are any. -/
def many (scan : Scan Result) : Scan (List Result) := do
  upTo scan (← get).length

/-- Reads one value or more, with separators between them. -/
def separated (scan : Scan Result) (separator : Scan Other) : Scan (List Result) := do
  let first ← scan
  return first :: (← many (do discard separator; scan))

def finish : Scan Unit := do
  match ← get with
  | [] => pure ()
  | _ => failure

end Scan

/-! ### Digits -/

def digitValue? (character : Char) : Option Nat :=
  let code := character.toNat
  if '0'.toNat ≤ code ∧ code ≤ '9'.toNat then some (code - '0'.toNat)
  else if 'a'.toNat ≤ code ∧ code ≤ 'f'.toNat then some (code - 'a'.toNat + 10)
  else if 'A'.toNat ≤ code ∧ code ≤ 'F'.toNat then some (code - 'A'.toNat + 10)
  else none

/-- The number that digits write in a base. Characters that are no digits count as zeros. -/
def numberOf (base : Nat) (digits : List Char) : Nat :=
  digits.foldl (fun number digit => number * base + (digitValue? digit).getD 0) 0

/-- The character with a code, unless there is none: the codes of surrogates are left out. -/
def characterOf? (code : Nat) : Option Char :=
  if valid : code.isValidChar then some (Char.ofNatAux code valid) else none

end KernelExport.Text
