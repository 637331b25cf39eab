/-
This file holds values as data files and template variables have them: texts, numbers, truth
values and dates, lists, and records of named values.
-/

import KernelExport.Value.Decimal

namespace KernelExport

/-- A value of a data file or of a template variable. -/
inductive Value where
  | null
  | truth (value : Bool)
  | integer (value : Int)
  | float (value : Float)
  | text (value : String)
  /-- A date or a time, as it is written. -/
  | moment (text : String)
  | list (items : List Value)
  | record (fields : List (String × Value))
  deriving Inhabited

namespace Value

def ofNat (number : Nat) : Value := .integer (Int.ofNat number)

def ofTexts (texts : List String) : Value := .list (texts.map .text)

def ofText? : Option String → Value
  | some value => .text value
  | none => .null

def field? (value : Value) (name : String) : Option Value :=
  match value with
  | .record fields => fields.lookup name
  | _ => none

def text? : Value → Option String
  | .text value => some value
  | _ => none

def truth? : Value → Option Bool
  | .truth value => some value
  | _ => none

def integer? : Value → Option Int
  | .integer value => some value
  | _ => none

def list? : Value → Option (List Value)
  | .list items => some items
  | _ => none

def record? : Value → Option (List (String × Value))
  | .record fields => some fields
  | _ => none

/-- The natural number below a bound, if the value is one. -/
def natBelow? (bound : Nat) (value : Value) : Option Nat :=
  match value with
  | .integer number => if 0 ≤ number ∧ number < Int.ofNat bound then some number.toNat else none
  | _ => none

def texts? (value : Value) : Option (List String) := do
  (← value.list?).mapM text?

end Value

end KernelExport
