/-
This file gives templates their meaning.

A template is rendered in scopes, innermost first. A key means what the innermost scope that knows
it says. The value of a key is written as its text; a block is rendered once for each record of
its list, in the scope of that record inside the others. The first part that cannot be rendered
decides the fault.
-/

import KernelExport.Template.Basic
import KernelExport.Value.Basic

namespace KernelExport

/-- The text by which a value is written into a template. Lists and records have none. -/
def Value.scalarText? : Value → Option String
  | .text value => some value
  | .integer value => some (toString value)
  | .float value => some (Decimal.text value)
  | .truth value => some (if value then "true" else "false")
  | .null => some ""
  | .moment written => some written
  | .list _ | .record _ => none

namespace Template

abbrev Scope := List (String × Value)

/-- What the innermost scope that knows a key says. -/
def lookup? (scopes : List Scope) (key : String) : Option Value :=
  scopes.findSome? (·.lookup key)

def valueText (scopes : List Scope) (key : String) : Except Fault String :=
  match lookup? scopes key with
  | none => .error (.unknownKey key)
  | some known =>
    match known.scalarText? with
    | some written => .ok written
    | none => .error (.notScalar key)

def listItems (scopes : List Scope) (key : String) : Except Fault (List Value) :=
  match lookup? scopes key with
  | none => .error (.unknownKey key)
  | some (.list items) => .ok items
  | some _ => .error (.notList key)

/-- The fields of an item of the list under a key. -/
def itemScope (key : String) : Value → Except Fault Scope
  | .record fields => .ok fields
  | _ => .error (.notRecords key)

/-- What a template means in scopes. -/
def render (scopes : List Scope) : Template → Except Fault String
  | .done => .ok ""
  | .text content rest => do
    let behind ← rest.render scopes
    pure (content ++ behind)
  | .value key rest => do
    let text ← valueText scopes key
    let behind ← rest.render scopes
    pure (text ++ behind)
  | .generate key body rest => do
    let items ← listItems scopes key
    let texts ← items.mapM fun item => do
      let scope ← itemScope key item
      body.render (scope :: scopes)
    let behind ← rest.render scopes
    pure (String.join texts ++ behind)

/-- What the template that a text writes means in scopes. -/
def renderText (text : String) (scopes : List Scope) : Except Fault String := do
  (← read text).render scopes

end Template

end KernelExport
