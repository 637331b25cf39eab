/-
This file holds the form of diagnostics in data files: a record with a field for each part of a
diagnostic. What is written is read back.
-/

import KernelExport.Diagnostic.Basic
import KernelExport.Value.Dialect

namespace KernelExport

def Severity.ofValue? (value : Value) : Option Severity := do
  match ← Dialect.json.word? value with
  | "warning" => some .warning
  | "error" => some .error
  | _ => none

/-- The family of codes that a value writes by its name. -/
def Category.ofValue? (value : Value) : Option Category := do
  match ← Dialect.json.word? value with
  | "Error" => some .error
  | "Warning" => some .warning
  | _ => none

namespace Code

def toValue (code : Code) : Value :=
  .record [("category", .text code.category.name), ("number", .ofNat code.number)]

/-- The code that a record writes. Its number takes sixteen bits. -/
def ofValue? (value : Value) : Option Code := do
  guard (Dialect.json.isRecord 2 value)
  let category ← value.required 0 "category" Category.ofValue?
  let number ← value.required 1 "number" (·.natBelow? UInt16.size)
  pure ⟨category, number⟩

end Code

namespace SourcePlace

def toValue (place : SourcePlace) : Value :=
  .record [("path", .text place.path.text), ("line", .ofNat place.line),
    ("column", .ofNat place.column)]

/-- The place that a record writes. Lines and columns take thirty-two bits. -/
def ofValue? (value : Value) : Option SourcePlace := do
  guard (Dialect.json.isRecord 3 value)
  let path ← value.required 0 "path" Value.text?
  let line ← value.required 1 "line" (·.natBelow? UInt32.size)
  let column ← value.required 2 "column" (·.natBelow? UInt32.size)
  pure ⟨.ofText path, line, column⟩

end SourcePlace

namespace Diagnostic

def toValue (diagnostic : Diagnostic) : Value :=
  .record [
    ("severity", .text diagnostic.severity.word),
    ("code", diagnostic.code.toValue),
    ("message", .text diagnostic.message),
    ("kernel", .ofText? diagnostic.kernel),
    ("location", (diagnostic.place.map SourcePlace.toValue).getD .null),
    ("notes", .ofTexts diagnostic.notes),
    ("help", .ofTexts diagnostic.help)]

def ofValue? (value : Value) : Option Diagnostic := do
  guard (Dialect.json.isRecord 7 value)
  let severity ← value.required 0 "severity" Severity.ofValue?
  let code ← value.required 1 "code" Code.ofValue?
  let message ← value.required 2 "message" Value.text?
  let kernel ← value.nullable 3 "kernel" Value.text?
  let place ← value.nullable 4 "location" SourcePlace.ofValue?
  let notes ← value.required 5 "notes" Value.texts?
  let help ← value.required 6 "help" Value.texts?
  pure { severity, code, message, kernel, place, notes, help }

end Diagnostic

end KernelExport
