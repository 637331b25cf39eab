/-
This file says how typed records are found in values.

A record may be written as a record, with its fields by name, or as a list of its fields in their
order. One of several words may be written as the word, or as a record whose only field has the
word as its name and nothing as its value. What else may stand in a longer list, and what counts
as nothing, depends on the dialect of the data file.
-/

import KernelExport.Value.Basic

namespace KernelExport

/-- What the two data formats decide differently about typed records. -/
structure Dialect where
  /-- Whether a list may have more items than the record it stands for has fields. -/
  allowsMore : Bool
  /-- Whether a value counts as nothing behind a word. -/
  isNothing : Value → Bool

namespace Dialect

/-- In JSON a list has no more items than the record has fields, and `null` is nothing. -/
def json : Dialect where
  allowsMore := false
  isNothing
    | .null => true
    | _ => false

/-- In TOML further items are passed over, and an empty table or array is nothing. -/
def toml : Dialect where
  allowsMore := true
  isNothing
    | .record [] => true
    | .list [] => true
    | _ => false

/-- Whether the value can stand for a record of so many fields. -/
def isRecord (dialect : Dialect) (fields : Nat) : Value → Bool
  | .record _ => true
  | .list items => dialect.allowsMore || items.length ≤ fields
  | _ => false

def word? (dialect : Dialect) : Value → Option String
  | .text word => some word
  | .record [(word, nothing)] => if dialect.isNothing nothing then some word else none
  | _ => none

end Dialect

namespace Value

/-- The field of a record: the one of this name, or the item at this index. -/
def part? (value : Value) (index : Nat) (name : String) : Option Value :=
  match value with
  | .record fields => fields.lookup name
  | .list items => items[index]?
  | _ => none

variable {Result : Type}

/-- A field that has to be there. -/
def required (value : Value) (index : Nat) (name : String) (decode : Value → Option Result) :
    Option Result :=
  (value.part? index name).bind decode

/-- A field that has a value of its own when it is left out. -/
def defaulted (value : Value) (index : Nat) (name : String) (default : Result)
    (decode : Value → Option Result) : Option Result :=
  match value.part? index name with
  | some part => decode part
  | none => some default

/-- A field that may be null. A record may leave it out; a list may not. -/
def nullable (value : Value) (index : Nat) (name : String) (decode : Value → Option Result) :
    Option (Option Result) :=
  match value.part? index name, value with
  | some .null, _ => some none
  | some part, _ => (decode part).map some
  | none, .record _ => some none
  | none, _ => none

def listOf? (decode : Value → Option Result) (value : Value) : Option (List Result) := do
  (← value.list?).mapM decode

end Value

end KernelExport
