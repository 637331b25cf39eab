/-
This file holds diagnostics: what an export tells its user. A diagnostic says how serious it is,
which problem it is by a code, and in words what happened; it may name a kernel and a place in a
file, explain itself in notes and suggest what to do.
-/

import KernelExport.Path

namespace KernelExport

/-- How serious a diagnostic is: a warning stops nothing, an error gives up a kernel or the whole
export. -/
inductive Severity where
  | warning
  | error
  deriving DecidableEq, Repr

namespace Severity

def word : Severity → String
  | .warning => "warning"
  | .error => "error"

/-- Severities in increasing order: a warning is less serious than an error. -/
def rank : Severity → Nat
  | .warning => 0
  | .error => 1

instance : Ord Severity := ⟨fun first second => compare first.rank second.rank⟩

/-- The number by which a terminal is told the colour of a severity: yellow or red. -/
def colour : Severity → Nat
  | .warning => 33
  | .error => 31

end Severity

/-- The two families of problem codes. -/
inductive Category where
  | error
  | warning
  deriving DecidableEq, Repr

namespace Category

def letter : Category → String
  | .error => "E"
  | .warning => "W"

def name : Category → String
  | .error => "Error"
  | .warning => "Warning"

end Category

/-- The code of a problem: its family and its number there. -/
structure Code where
  category : Category
  number : Nat
  deriving DecidableEq, Repr

namespace Code

/-- The port declaration of a kernel could not be read. -/
def declaration : Code := ⟨.error, 101⟩
def kernelNotFound : Code := ⟨.error, 201⟩
/-- The project asks for a tool that is not supported. -/
def unsupportedTool : Code := ⟨.error, 202⟩
def templateMissing : Code := ⟨.error, 203⟩
def template : Code := ⟨.error, 204⟩
def toolFailed : Code := ⟨.error, 301⟩
def files : Code := ⟨.error, 401⟩
/-- The declared number of registers is not the configured one. -/
def registersMismatch : Code := ⟨.warning, 101⟩
/-- The declared number of memory banks is not the configured one. -/
def banksMismatch : Code := ⟨.warning, 102⟩

/-- A code is written as the letter of its family and its number, with at least three digits. -/
def text (code : Code) : String :=
  let digits := toString code.number
  code.category.letter ++ String.ofList (List.replicate (3 - digits.length) '0') ++ digits

end Code

/-- A place in a source file. -/
structure SourcePlace where
  path : Path
  line : Nat
  column : Nat
  deriving DecidableEq, Repr

/-- A place is written as the path, the line and the column, with colons between them. -/
def SourcePlace.text (place : SourcePlace) : String :=
  place.path.text ++ ":" ++ toString place.line ++ ":" ++ toString place.column

/-- What an export tells its user. -/
structure Diagnostic where
  severity : Severity
  code : Code
  message : String
  kernel : Option String := none
  place : Option SourcePlace := none
  notes : List String := []
  help : List String := []
  deriving DecidableEq, Repr

namespace Diagnostic

def error (code : Code) (message : String) : Diagnostic :=
  { severity := .error, code, message }

def warning (code : Code) (message : String) : Diagnostic :=
  { severity := .warning, code, message }

def about (diagnostic : Diagnostic) (kernel : String) : Diagnostic :=
  { diagnostic with kernel := some kernel }

def atPlace (diagnostic : Diagnostic) (place : SourcePlace) : Diagnostic :=
  { diagnostic with place := some place }

def withNote (diagnostic : Diagnostic) (note : String) : Diagnostic :=
  { diagnostic with notes := diagnostic.notes ++ [note] }

def withHelp (diagnostic : Diagnostic) (help : String) : Diagnostic :=
  { diagnostic with help := diagnostic.help ++ [help] }

end Diagnostic

end KernelExport
