/-
This file reads TOML documents.

A document is a sequence of statements, one on a line. A statement sets a value under a key, or is
a header, under which the keys of the following statements stand. What a document means is the
record that its statements put together; a document that cannot be put together has no meaning,
and what is wrong with it is not told.
-/

import KernelExport.Toml.Lexeme
import KernelExport.Toml.Table

namespace KernelExport.Toml

open Text (Scan)

/-! ### Values -/

def list (item : Scan Value) : Scan Value := do
  Scan.char '['
  gap
  let items ← Scan.optional do
    let items ← Scan.separated (do gap; let read ← item; gap; pure read) (Scan.char ',')
    discard (Scan.optional (Scan.char ','))
    pure items
  gap
  Scan.char ']'
  pure (.list (items.getD []))

/-- Reads a key and its value, of which `item` reads the value. -/
def pair (item : Scan Value) : Scan (List String × Value) := do
  let path ← key
  Scan.char '='
  blanks
  return (path, ← item)

/-- Reads a table on one line, of which `item` reads the values. -/
def inlineTable (item : Scan Value) : Scan Value := do
  Scan.char '\x7b'
  blanks
  let pairs ← Scan.optional
    (Scan.separated (do let read ← pair item; blanks; pure read) (Scan.char ','))
  Scan.char '\x7d'
  match Fields.setValues [] (pairs.getD []) with
  | some fields => pure (.record (fieldValues fields))
  | none => failure

/-- Reads a value in which lists and tables stand so many deep at most. -/
def value : (depth : Nat) → Scan Value
  | 0 => scalar
  | depth + 1 => list (value depth) <|> inlineTable (value depth) <|> scalar

/-! ### Statements -/

/-- A header: it leads along a key to a table, or to a further table of a list. -/
structure Header where
  path : List String
  isRow : Bool

/-- What a line of a document says. -/
inductive Statement where
  /-- Nothing. -/
  | blank
  /-- A key has a value. -/
  | pair (path : List String) (value : Value)
  /-- The table that the header leads to follows. -/
  | header (header : Header)

def header : Scan Header :=
  (do
    Scan.literally ['[', '[']
    let path ← key
    Scan.literally [']', ']']
    pure ⟨path, true⟩) <|> do
  Scan.char '['
  let path ← key
  Scan.char ']'
  pure ⟨path, false⟩

def statement : Scan Statement := do
  blanks
  let read ← match ← Scan.peek with
    | none => failure
    | some '[' => Statement.header <$> header
    | some '#' | some '\n' | some '\r' => pure .blank
    | some _ => do
      let (path, read) ← pair (value depthLimit)
      pure (.pair path read)
  lineEnd
  pure read

/-- Reads the lines of a document. A byte order mark in front of them is passed over. -/
def statements : Scan (List Statement) := do
  discard (Scan.optional (Scan.char '\ufeff'))
  let read ← Scan.many statement
  blanks
  pure read

/-! ### Documents -/

/-- The keys and values of a section, in the order of their lines. -/
abbrev Pairs := List (List String × Value)

/-- What stands before the first header, and what stands behind each header up to the next. -/
def sections : List Statement → Pairs × List (Header × Pairs)
  | [] => ([], [])
  | .blank :: rest => sections rest
  | .pair path read :: rest =>
    let (front, headed) := sections rest
    ((path, read) :: front, headed)
  | .header opening :: rest =>
    let (front, headed) := sections rest
    ([], (opening, front) :: headed)

/-- Puts what stands behind a header into the table of the document. -/
def addSection (fields : Fields) : Header × Pairs → Option Fields
  | (⟨path, isRow⟩, pairs) => do
    let key ← path.getLast?
    let change := if isRow then Fields.addTable pairs key else Fields.setTable pairs key
    fields.atPath change path.dropLast

def read? (document : String) : Option Value := do
  let (front, headed) := sections (← statements.whole document.toList)
  let fields ← headed.foldlM addSection (← Fields.setValues [] front)
  some (.record (fieldValues fields))

end KernelExport.Toml
