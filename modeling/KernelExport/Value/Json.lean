/-
This file reads and writes values as JSON.

A number with a fraction or an exponent is a floating-point number; any other is an integer, as
long as sixty-four bits hold it. Records are read with their fields in increasing order of their
names, and of two fields with one name the later one counts. Written text is compact: nothing
stands between the parts of a list or a record but the commas and colons.
-/

import KernelExport.Text.Hexadecimal
import KernelExport.Value.Basic

namespace KernelExport.Value.Json

open Text (Scan)

/-! ### Writing -/

/-- A character as it stands between quotes: quotes, backslashes and control characters are
escaped. -/
def escape (character : Char) : List Char :=
  if character = '\x22' then ['\\', '\x22']
  else if character = '\\' then ['\\', '\\']
  else if character = '\n' then ['\\', 'n']
  else if character = '\r' then ['\\', 'r']
  else if character = '\t' then ['\\', 't']
  else if character = '\x08' then ['\\', 'b']
  else if character = '\x0c' then ['\\', 'f']
  else if character.toNat < 0x20 then ['\\', 'u', '0', '0'] ++ Text.Hexadecimal.pair character.toNat
  else [character]

def quoted (text : String) : String :=
  String.ofList ('\x22' :: text.toList.flatMap escape ++ ['\x22'])

mutual

/-- The JSON text of a value. -/
def render : Value → String
  | .null => "null"
  | .truth value => if value then "true" else "false"
  | .integer value => toString value
  | .float value => Decimal.text value
  | .text value => quoted value
  | .moment written => quoted written
  | .list items => "[" ++ ",".intercalate (renderItems items) ++ "]"
  | .record fields => "\x7b" ++ ",".intercalate (renderFields fields) ++ "\x7d"

def renderItems : List Value → List String
  | [] => []
  | item :: rest => render item :: renderItems rest

def renderFields : List (String × Value) → List String
  | [] => []
  | (name, value) :: rest => (quoted name ++ ":" ++ render value) :: renderFields rest

end

/-! ### Reading -/

def blanks : Scan Unit := do
  discard (Scan.takeWhile fun character =>
    character == ' ' || character == '\t' || character == '\n' || character == '\r')

def fourDigits : Scan Nat := do
  let mut digits := []
  for _ in [0, 1, 2, 3] do
    digits := (← Scan.satisfy fun character => (Text.digitValue? character).isSome) :: digits
  pure (Text.numberOf 16 digits.reverse)

/-- Reads the part of an escape behind `\u`: one code, or two surrogates for one. -/
def unicodeEscape : Scan Char := do
  let first ← fourDigits
  if 0xD800 ≤ first ∧ first < 0xDC00 then
    Scan.literally ['\\', 'u']
    let second ← fourDigits
    if 0xDC00 ≤ second ∧ second < 0xE000 then
      Text.characterOf? (0x10000 + (first - 0xD800) * 0x400 + (second - 0xDC00))
    else failure
  else Text.characterOf? first

def character : Scan Char := do
  let next ← Scan.satisfy fun character => character != '\x22' && 0x20 ≤ character.toNat
  if next != '\\' then pure next
  else
    match ← Scan.satisfy fun _ => true with
    | '\x22' => pure '\x22'
    | '\\' => pure '\\'
    | '/' => pure '/'
    | 'b' => pure '\x08'
    | 'f' => pure '\x0c'
    | 'n' => pure '\n'
    | 'r' => pure '\r'
    | 't' => pure '\t'
    | 'u' => unicodeEscape
    | _ => failure

def quotedText : Scan String := do
  Scan.char '\x22'
  let characters ← Scan.many character
  Scan.char '\x22'
  pure (String.ofList characters)

/-- Reads digits, one at least. -/
def digits : Scan (List Char) := do
  let read ← Scan.takeWhile Char.isDigit
  if read.isEmpty then failure else pure read

/-- Reads a number. -/
def number : Scan Value := do
  let negative := (← Scan.optional (Scan.char '-')).isSome
  let whole ← digits
  if whole.length > 1 ∧ whole.head? = some '0' then failure
  let fraction ← Scan.optional (do Scan.char '.'; digits)
  let exponent ← Scan.optional (do
    discard (Scan.satisfy fun character => character == 'e' || character == 'E')
    let sign ← Scan.optional (Scan.satisfy fun character => character == '+' || character == '-')
    let read ← digits
    pure ((if sign = some '-' then -1 else 1) * Int.ofNat (Text.numberOf 10 read)))
  let float (significand : Nat) (power : Int) : Value :=
    let size := Decimal.toFloat significand power
    .float (if negative then -size else size)
  match fraction, exponent with
  | none, none =>
    let size := Text.numberOf 10 whole
    if negative then
      pure (if size = 0 ∨ 1 <<< 63 < size then float size 0 else .integer (-Int.ofNat size))
    else pure (if size < UInt64.size then .ofNat size else float size 0)
  | _, _ =>
    let places := fraction.getD []
    pure (float (Text.numberOf 10 (whole ++ places))
      (exponent.getD 0 - Int.ofNat places.length))

/-- The fields with a further one in its place, which the names put in increasing order. A field
of the same name is replaced. -/
def insertField (name : String) (value : Value) :
    List (String × Value) → List (String × Value)
  | [] => [(name, value)]
  | (other, kept) :: rest =>
    if name < other then (name, value) :: (other, kept) :: rest
    else if name = other then (name, value) :: rest
    else (other, kept) :: insertField name value rest

/-- Reads a value in which lists and records stand so many deep at most. -/
def value : (depth : Nat) → Scan Value
  | 0 => failure
  | depth + 1 => do
    blanks
    let read ← match ← Scan.peek with
      | some '\x22' => Value.text <$> quotedText
      | some '[' => do
        Scan.char '['
        blanks
        let items ← Scan.optional (Scan.separated (value depth) (Scan.char ','))
        Scan.char ']'
        pure (.list (items.getD []))
      | some '\x7b' => do
        Scan.char '\x7b'
        blanks
        let fields ← Scan.optional (Scan.separated (do
          blanks
          let name ← quotedText
          blanks
          Scan.char ':'
          return (name, ← value depth)) (Scan.char ','))
        Scan.char '\x7d'
        pure (.record ((fields.getD []).foldl
          (fun sorted (name, value) => insertField name value sorted) []))
      | some 'n' => do Scan.literally "null".toList; pure .null
      | some 't' => do Scan.literally "true".toList; pure (.truth true)
      | some 'f' => do Scan.literally "false".toList; pure (.truth false)
      | _ => number
    blanks
    pure read

/-- How deep lists and records may stand in each other. -/
def depthLimit : Nat := 128

def read? (text : String) : Option Value :=
  (value depthLimit).whole text.toList

end KernelExport.Value.Json
