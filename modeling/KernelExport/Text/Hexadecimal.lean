/-
This file writes bytes in hexadecimal digits, two for each byte, and reads them back.
-/

import KernelExport.Text.Scan

namespace KernelExport.Text.Hexadecimal

/-- The two digits of a number below 256, in lower case. -/
def pair (number : Nat) : List Char :=
  [Nat.digitChar (number / 16), Nat.digitChar (number % 16)]

/-- The digits of bytes. -/
def digits (bytes : List UInt8) : List Char :=
  bytes.flatMap fun byte => pair byte.toNat

def bytes? : List Char → Option (List UInt8)
  | [] => some []
  | [_] => none
  | first :: second :: rest => do
    let high ← digitValue? first
    let low ← digitValue? second
    return UInt8.ofNat (high * 16 + low) :: (← bytes? rest)

def text (bytes : ByteArray) : String :=
  String.ofList (digits bytes.data.toList)

def read? (text : String) : Option ByteArray :=
  (bytes? text.toList).map fun bytes => ⟨bytes.toArray⟩

end KernelExport.Text.Hexadecimal
