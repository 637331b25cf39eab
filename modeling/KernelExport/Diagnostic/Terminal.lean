/-
This file writes diagnostics for a terminal.

The first line holds the severity, the code in brackets and the message; the part in front of the
colon may be coloured. Lines with an arrow follow for the kernel and for the place in a file, and
after them the notes and the suggestions, each on a line of its own.
-/

import KernelExport.Diagnostic.Basic

namespace KernelExport.Diagnostic

/-- A text in bold letters of a colour that the terminal knows by number. -/
def bold (colour : Nat) (text : String) : String :=
  "\x1b[1;" ++ toString colour ++ "m" ++ text ++ "\x1b[0m"

/-- The severity and the code, coloured by the severity when colours are wanted. -/
def head (coloured : Bool) (diagnostic : Diagnostic) : String :=
  let plain := diagnostic.severity.word ++ "[" ++ diagnostic.code.text ++ "]"
  if coloured then bold diagnostic.severity.colour plain else plain

def lines (coloured : Bool) (diagnostic : Diagnostic) : List String :=
  [diagnostic.head coloured ++ ": " ++ diagnostic.message] ++
    (diagnostic.kernel.map ("  --> kernel " ++ ·)).toList ++
    (diagnostic.place.map ("  --> " ++ ·.text)).toList ++
    diagnostic.notes.map ("   = note: " ++ ·) ++
    diagnostic.help.map ("   = help: " ++ ·)

/-- A diagnostic as a terminal shows it: its lines, each ended by a line feed. -/
def render (coloured : Bool) (diagnostic : Diagnostic) : String :=
  String.join ((diagnostic.lines coloured).map (· ++ "\n"))

end KernelExport.Diagnostic
