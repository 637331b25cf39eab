/-
This file reads the smallest parts of TOML: blanks and comments, keys, and the values that are
not put together of others.

A line ends with a line feed, before which a carriage return may stand. Control characters other
than the tab stand neither in comments nor in texts.
-/

import KernelExport.Text.Scan
import KernelExport.Value.Basic

namespace KernelExport.Toml

open Text (Scan)

/-! ### Blanks and lines -/

def blanks : Scan Unit := do
  discard (Scan.takeWhile fun character => character == ' ' || character == '\t')

def lineFeed : Scan Unit :=
  Scan.char '\n' <|> Scan.literally ['\r', '\n']

/-- Whether a character may stand in a comment or a text: no control character but the tab. -/
def isPrintable (character : Char) : Bool :=
  character == '\t' || (0x20 ≤ character.toNat && character.toNat != 0x7F)

def comment : Scan Unit := do
  Scan.char '#'
  discard (Scan.takeWhile isPrintable)

/-- Reads what may stand behind a statement on its line, and the end of the line or the text. -/
def lineEnd : Scan Unit := do
  blanks
  discard (Scan.optional comment)
  lineFeed <|> Scan.finish

def gap : Scan Unit := do
  blanks
  discard (Scan.many (do
    discard (Scan.optional comment)
    lineFeed
    blanks))

/-! ### Texts -/

/-- Reads so many hexadecimal digits as the code of a character. -/
def characterCode (count : Nat) : Scan Char := do
  let digits ← Scan.upTo
    (Scan.satisfy fun character => (Text.digitValue? character).isSome) count
  if digits.length = count then Text.characterOf? (Text.numberOf 16 digits) else failure

/-- Reads the part of an escape behind its backslash. -/
def escape : Scan Char := do
  match ← Scan.satisfy fun _ => true with
  | 'b' => pure '\x08'
  | 't' => pure '\t'
  | 'n' => pure '\n'
  | 'f' => pure '\x0c'
  | 'r' => pure '\r'
  | '\x22' => pure '\x22'
  | '\\' => pure '\\'
  | 'u' => characterCode 4
  | 'U' => characterCode 8
  | _ => failure

/-- Reads a text on one line between double quotes. -/
def basicText : Scan String := do
  Scan.char '\x22'
  let characters ← Scan.many (do
    let next ← Scan.satisfy fun character => isPrintable character && character != '\x22'
    if next = '\\' then escape else pure next)
  Scan.char '\x22'
  pure (String.ofList characters)

/-- Reads a text on one line between single quotes. -/
def literalText : Scan String := do
  Scan.char '\x27'
  let characters ← Scan.takeWhile fun character =>
    isPrintable character && character != '\x27'
  Scan.char '\x27'
  pure (String.ofList characters)

/-- Reads one or two quotes that do not close a text of several lines. -/
def innerQuotes (quote : Char) : Scan (List Char) := do
  let quotes ← Scan.takeWhile (· == quote)
  if 0 < quotes.length ∧ quotes.length < 3 then pure quotes else failure

/-- Reads the three quotes that close a text of several lines, and up to two quotes before them
that belong to the text. -/
def closingQuotes (quote : Char) : Scan (List Char) := do
  let run := (← Scan.rest).takeWhile (· == quote)
  if run.length < 3 then failure
  Scan.literally (run.take 5)
  pure ((run.take 5).drop 3)

/-- Reads a text of several lines between threefold quotes, of which `part` reads what is neither
a quote nor the end of a line. A line feed right at the start is left out. -/
def longText (quote : Char) (part : Scan (List Char)) : Scan String := do
  Scan.literally [quote, quote, quote]
  discard (Scan.optional lineFeed)
  let parts ← Scan.many (part <|> (do lineFeed; pure ['\n']) <|> innerQuotes quote)
  let quotes ← closingQuotes quote
  pure (String.ofList (parts.flatten ++ quotes))

/-- Reads a backslash at the end of a line with all blanks and line feeds behind it. -/
def continuation : Scan Unit := do
  Scan.char '\\'
  blanks
  lineFeed
  discard (Scan.takeWhile fun character => character == ' ' || character == '\t')
  discard (Scan.many (do lineFeed; blanks))

/-- Reads a part of a text of several lines between double quotes. -/
def longBasicPart : Scan (List Char) :=
  (do continuation; pure []) <|> do
    let next ← Scan.satisfy fun character => isPrintable character && character != '\x22'
    if next = '\\' then return [← escape] else pure [next]

/-- Reads a part of a text of several lines between single quotes. -/
def longLiteralPart : Scan (List Char) := do
  return [← Scan.satisfy fun character => isPrintable character && character != '\x27']

def text : Scan String := do
  if ['\x22', '\x22', '\x22'].isPrefixOf (← Scan.rest) then longText '\x22' longBasicPart
  else if ['\x27', '\x27', '\x27'].isPrefixOf (← Scan.rest) then longText '\x27' longLiteralPart
  else basicText <|> literalText

/-! ### Keys -/

def simpleKey : Scan String :=
  basicText <|> literalText <|> do
    let characters ← Scan.takeWhile fun character =>
      character.isAlphanum || character == '-' || character == '_'
    if characters.isEmpty then failure else pure (String.ofList characters)

/-- The greatest number of parts in a dotted key, and of lists and tables in each other. -/
def depthLimit : Nat := 79

/-- Reads a key, as its parts between the dots. -/
def key : Scan (List String) := do
  let parts ← Scan.separated (do blanks; let part ← simpleKey; blanks; pure part) (Scan.char '.')
  if parts.length ≤ depthLimit then pure parts else failure

/-! ### Numbers -/

/-- Reads digits in a base, one at least, with single underscores between them. -/
def digits (base : Nat) : Scan (List Char) := do
  let digit := Scan.satisfy fun character =>
    (Text.digitValue? character).any (· < base)
  let first ← digit
  let rest ← Scan.many (do discard (Scan.optional (Scan.char '_')); digit)
  pure (first :: rest)

/-- Reads a sign, and whether it is a minus. -/
def sign : Scan Bool := do
  let sign ← Scan.optional (Scan.satisfy fun character => character == '+' || character == '-')
  pure (sign = some '-')

/-- Reads digits of which none is a zero in front of another one. -/
def wholeDigits : Scan (List Char) :=
  (do Scan.char '0'; pure ['0']) <|> digits 10

/-- Reads an integer. It takes sixty-four bits, one of them for the sign; only decimal digits may
have a sign. -/
def integer : Scan Value := do
  let based (mark : Char) (base : Nat) : Scan Value := do
    Scan.literally ['0', mark]
    let number := Text.numberOf base (← digits base)
    if number < 1 <<< 63 then pure (.ofNat number) else failure
  based 'x' 16 <|> based 'o' 8 <|> based 'b' 2 <|> do
    let negative ← sign
    let number := Text.numberOf 10 (← wholeDigits)
    if negative then if number ≤ 1 <<< 63 then pure (.integer (-Int.ofNat number)) else failure
    else if number < 1 <<< 63 then pure (.ofNat number) else failure

/-- Reads a floating-point number: one with a fraction or an exponent, or one of the words for
infinity and for no number. -/
def float : Scan Value := do
  let negative ← sign
  let signed (size : Float) : Value := .float (if negative then -size else size)
  (do Scan.literally ['i', 'n', 'f']; pure (signed (1.0 / 0.0))) <|>
  (do Scan.literally ['n', 'a', 'n']; pure (signed (0.0 / 0.0))) <|> do
    let whole ← wholeDigits
    let fraction ← Scan.optional (do Scan.char '.'; digits 10)
    let exponent ← Scan.optional (do
      discard (Scan.satisfy fun character => character == 'e' || character == 'E')
      let negative ← sign
      let size := Int.ofNat (Text.numberOf 10 (← digits 10))
      pure (if negative then -size else size))
    if fraction.isNone && exponent.isNone then failure
    let places := fraction.getD []
    let size := Decimal.toFloat (Text.numberOf 10 (whole ++ places))
      (exponent.getD 0 - Int.ofNat places.length)
    if size.isInf && !negative then failure
    pure (signed size)

/-! ### Dates and times -/

/-- Reads so many digits, as a number between two bounds. -/
def numeral (count least greatest : Nat) : Scan Nat := do
  let digits ← Scan.upTo (Scan.satisfy Char.isDigit) count
  let number := Text.numberOf 10 digits
  if digits.length = count ∧ least ≤ number ∧ number ≤ greatest then pure number else failure

def daysIn (year month : Nat) : Nat :=
  if month = 2 then
    if year % 4 = 0 ∧ (year % 100 ≠ 0 ∨ year % 400 = 0) then 29 else 28
  else if month = 4 ∨ month = 6 ∨ month = 9 ∨ month = 11 then 30
  else 31

def date : Scan Unit := do
  let year ← numeral 4 0 9999
  Scan.char '-'
  let month ← numeral 2 1 12
  Scan.char '-'
  discard (numeral 2 1 (daysIn year month))

def time : Scan Unit := do
  discard (numeral 2 0 23)
  Scan.char ':'
  discard (numeral 2 0 59)
  Scan.char ':'
  discard (numeral 2 0 60)
  discard (Scan.optional (do
    Scan.char '.'
    let digits ← Scan.takeWhile Char.isDigit
    if digits.isEmpty then failure))

/-- Reads the distance of a time from universal time. -/
def zone : Scan Unit :=
  discard (Scan.satisfy fun character => character == 'Z' || character == 'z') <|> do
    discard (Scan.satisfy fun character => character == '+' || character == '-')
    discard (numeral 2 0 23)
    Scan.char ':'
    discard (numeral 2 0 59)

def moment : Scan Value := do
  let before ← Scan.rest
  time <|> do
    date
    discard (Scan.optional (do
      discard (Scan.satisfy fun character =>
        character == 'T' || character == 't' || character == ' ')
      time
      discard (Scan.optional zone)))
  let behind ← Scan.rest
  pure (.moment (String.ofList (before.take (before.length - behind.length))))

/-- Reads a value that is not put together of others. -/
def scalar : Scan Value :=
  Value.text <$> text <|>
  (do Scan.literally "true".toList; pure (.truth true)) <|>
  (do Scan.literally "false".toList; pure (.truth false)) <|>
  moment <|> float <|> integer

end KernelExport.Toml
