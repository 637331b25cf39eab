/-
This file turns byte offsets into lines and columns.

An offset counts bytes of UTF-8; a column counts characters. Lines and columns count from one, in
32 bits. An offset inside a character stands for the character's start, and one past the end of the
text for the end, so every offset has a position.
-/

import KernelExport.Text.Blank

namespace KernelExport

/-- A line and a column, each counted from one. Columns count characters. -/
structure Position where
  line : Nat
  column : Nat
  deriving DecidableEq, Repr

namespace Position

/-- The characters that end at a byte offset or before it. -/
def charactersBefore : (offset : Nat) → List Char → List Char
  | _, [] => []
  | offset, character :: rest =>
    if character.utf8Size ≤ offset then
      character :: charactersBefore (offset - character.utf8Size) rest
    else []

/-- The number behind so many others. It is told by 32 bits, and behind the last number that they can
tell comes 0; a program that is built to check its sums stops there instead. -/
def number (count : Nat) : Nat :=
  (UInt32.ofNat count + 1).toNat

/-- The position behind a text: one line for each line feed, and on the last line one column for
each character. -/
def behind (text : List Char) : Position where
  line := number (text.count '\n')
  column := number (text.reverse.takeWhile (· ≠ '\n')).length

def ofOffset (text : String) (offset : Nat) : Position :=
  behind (charactersBefore offset text.toList)

end Position

end KernelExport
