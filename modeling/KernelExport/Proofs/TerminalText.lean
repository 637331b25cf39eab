/-
This file says what a reader finds in the text of a diagnostic.

The text begins with a heading, which stands between the marks of a colour where colours are
wanted, and with the message behind a colon. The heading names the severity by its word and the
code by a letter and decimal digits, so it tells one from another. A line follows for each other
thing that the diagnostic tells.
-/

import KernelExport.Diagnostic.Terminal

namespace KernelExport

/-! ### Headings -/

/-- A word, a letter and digits that name the severity and the code of a diagnostic. -/
structure Diagnostic.Named (diagnostic : Diagnostic) (word letter digits : String) : Prop where
  severity : word = "error" ∧ diagnostic.severity = .error ∨
    word = "warning" ∧ diagnostic.severity = .warning
  category : letter = "E" ∧ diagnostic.code.category = .error ∨
    letter = "W" ∧ diagnostic.code.category = .warning
  number : Nat.ofDigitChars 10 digits.toList 0 = diagnostic.code.number
  width : 3 ≤ digits.length

/-- The digits of a code: its number, with zeros in front of it. -/
def Code.digits (code : Code) : String :=
  String.ofList (List.replicate (3 - (toString code.number).length) '0') ++ toString code.number

theorem Code.text_eq (code : Code) : code.text = code.category.letter ++ code.digits := by
  rw [text, digits, String.append_assoc]

/-- The zeros in front count nothing. -/
theorem Code.ofDigitChars_digits (code : Code) :
    Nat.ofDigitChars 10 code.digits.toList 0 = code.number := by
  rw [digits, String.toList_append, String.toList_ofList, Nat.ofDigitChars_append,
    Nat.ofDigitChars_replicate_zero, Nat.mul_zero, Nat.toString_eq_ofList_toDigits,
    String.toList_ofList]
  exact Nat.ofDigitChars_toDigits (by decide) (by decide)

theorem Code.length_digits (code : Code) : 3 ≤ code.digits.length := by
  rw [digits, String.length_append, String.length_ofList, List.length_replicate]
  omega

theorem Diagnostic.named (diagnostic : Diagnostic) :
    diagnostic.Named diagnostic.severity.word diagnostic.code.category.letter
      diagnostic.code.digits where
  severity := by cases diagnostic.severity <;> simp [Severity.word]
  category := by cases diagnostic.code.category <;> simp [Category.letter]
  number := diagnostic.code.ofDigitChars_digits
  width := diagnostic.code.length_digits

/-- What stands in front of a heading: nothing, or the mark of a colour, which is red for errors
and yellow for warnings. -/
def Severity.opening (severity : Severity) (coloured : Bool) : String :=
  match coloured, severity with
  | false, _ => ""
  | true, .error => "\x1b[1;31m"
  | true, .warning => "\x1b[1;33m"

namespace Diagnostic

/-- What stands behind a heading: nothing, or the mark that ends a colour. -/
def closing (coloured : Bool) : String :=
  if coloured then "\x1b[0m" else ""

theorem head_eq (coloured : Bool) (diagnostic : Diagnostic) :
    diagnostic.head coloured = diagnostic.severity.opening coloured ++
      (diagnostic.severity.word ++ "[" ++ diagnostic.code.text ++ "]") ++ closing coloured := by
  cases coloured with
  | false => simp [head, Severity.opening, closing]
  | true =>
    have mark : diagnostic.severity.opening true =
        "\x1b[1;" ++ toString diagnostic.severity.colour ++ "m" := by
      cases diagnostic.severity <;> decide
    simp [head, bold, mark, closing]

/-! ### Texts -/

/-- The text holds the line. -/
def HoldsLine (text line : String) : Prop :=
  (line ++ "\n").toList <:+: text.toList

/-- A text that shows a diagnostic, with colours or without. -/
structure Shown (coloured : Bool) (diagnostic : Diagnostic) (text : String) : Prop where
  /-- The first line is a heading of the diagnostic with the message behind it. -/
  heading : ∃ word letter digits rest, diagnostic.Named word letter digits ∧
    text = diagnostic.severity.opening coloured ++ word ++ "[" ++ letter ++ digits ++ "]" ++
      closing coloured ++ ": " ++ diagnostic.message ++ "\n" ++ rest
  kernel : ∀ kernel ∈ diagnostic.kernel, HoldsLine text ("  --> kernel " ++ kernel)
  place : ∀ place ∈ diagnostic.place, HoldsLine text ("  --> " ++ place.path.text ++ ":" ++
    toString place.line ++ ":" ++ toString place.column)
  notes : ∀ note ∈ diagnostic.notes, HoldsLine text ("   = note: " ++ note)
  help : ∀ help ∈ diagnostic.help, HoldsLine text ("   = help: " ++ help)

theorem holdsLine_render {coloured : Bool} {diagnostic : Diagnostic} {line : String}
    (member : line ∈ diagnostic.lines coloured) : HoldsLine (diagnostic.render coloured) line := by
  obtain ⟨front, back, divided⟩ := List.append_of_mem member
  refine ⟨(String.join (front.map (· ++ "\n"))).toList, (String.join (back.map (· ++ "\n"))).toList,
    ?_⟩
  rw [render, divided, ← String.toList_append, ← String.toList_append, List.map_append,
    String.join_append, List.map_cons, String.join_cons, String.append_assoc]

/-- The text of a diagnostic shows it. -/
theorem shown_render (coloured : Bool) (diagnostic : Diagnostic) :
    diagnostic.Shown coloured (diagnostic.render coloured) where
  heading := by
    obtain ⟨others, divided⟩ : ∃ others, diagnostic.lines coloured =
        (diagnostic.head coloured ++ ": " ++ diagnostic.message) :: others := ⟨_, rfl⟩
    refine ⟨_, _, _, String.join (others.map (· ++ "\n")), diagnostic.named, ?_⟩
    rw [render, divided, List.map_cons, String.join_cons, head_eq, Code.text_eq]
    simp only [String.append_assoc]
  kernel kernel told := holdsLine_render (by simp [lines, Option.mem_def.1 told])
  place place told := holdsLine_render (by
    simp [lines, Option.mem_def.1 told, SourcePlace.text, String.append_assoc])
  notes note told := holdsLine_render (by simp [lines, told])
  help help told := holdsLine_render (by simp [lines, told])

end Diagnostic

end KernelExport
