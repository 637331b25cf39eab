/-
This file puts the tables of a TOML document together.

A table is set up by a header, by a header of a table inside it, or by a dotted key. Each table has
one header at most, and a dotted key may only add to a table that no header has set up. A list of
tables grows by one table for each of its headers, and a key that leads through the list leads
into its last table. A key that is there already cannot be set again.
-/

import KernelExport.Value.Basic

namespace KernelExport.Toml

/-- How a table was set up. -/
inductive Setup where
  /-- By a header of its own. -/
  | header
  /-- By the header of a table inside it. -/
  | implied
  /-- By a dotted key. -/
  | dotted
  deriving DecidableEq, Repr

/-- What a key of a table leads to. -/
inductive Item where
  /-- A value that was written as a whole. -/
  | value (value : Value)
  /-- A table that statements have put together. -/
  | table (setup : Setup) (fields : List (String × Item))
  /-- A list of tables, each with its header. -/
  | tables (rows : List (List (String × Item)))
  deriving Inhabited

abbrev Fields := List (String × Item)

namespace Fields

/-- The table with another item under a key. -/
def set (fields : Fields) (key : String) (item : Item) : Fields :=
  if fields.any (·.1 == key) then
    fields.map fun (other, kept) => if other = key then (other, item) else (other, kept)
  else fields ++ [(key, item)]

/-- The table with a value under a dotted key, given as the parts before the last one and the
last one. -/
def setValue (fields : Fields) : (path : List String) → (key : String) → Value → Option Fields
  | [], key, value =>
    if (fields.lookup key).isSome then none else some (fields.set key (.value value))
  | step :: path, key, value =>
    match fields.lookup step with
    | none => do
      let inner ← setValue [] path key value
      some (fields.set step (.table .dotted inner))
    | some (.table setup inner) =>
      if setup = .header ∨ (path = [] ∧ setup ≠ .dotted) then none
      else do
        let inner ← setValue inner path key value
        some (fields.set step (.table setup inner))
    | some (.tables rows) =>
      match path, rows.getLast? with
      | _ :: _, some row => do
        let row ← setValue row path key value
        some (fields.set step (.tables (rows.dropLast ++ [row])))
      | _, _ => none
    | some (.value _) => none

/-- The table with the values under their dotted keys, in turn. -/
def setValues (fields : Fields) (pairs : List (List String × Value)) : Option Fields :=
  pairs.foldlM (fun fields (path, value) =>
    match path.getLast? with
    | some key => fields.setValue path.dropLast key value
    | none => none) fields

/-- The table with what a header leads to changed by `change`. Tables on the way that are not
there yet are set up. -/
def atPath (fields : Fields) (change : Fields → Option Fields) :
    (path : List String) → Option Fields
  | [] => change fields
  | step :: path =>
    match fields.lookup step with
    | none => do
      let inner ← atPath [] change path
      some (fields.set step (.table .implied inner))
    | some (.table setup inner) => do
      let inner ← atPath inner change path
      some (fields.set step (.table setup inner))
    | some (.tables rows) => do
      let row ← atPath (← rows.getLast?) change path
      some (fields.set step (.tables (rows.dropLast ++ [row])))
    | some (.value _) => none

/-- The table with a table under a key that its header sets up and these pairs fill. -/
def setTable (pairs : List (List String × Value)) (key : String) (fields : Fields) :
    Option Fields := do
  let before ← match fields.lookup key with
    | none => some []
    | some (.table .implied inner) => some inner
    | some _ => none
  some (fields.set key (.table .header (← setValues before pairs)))

/-- The table with one more table in the list under a key, filled by these pairs. -/
def addTable (pairs : List (List String × Value)) (key : String) (fields : Fields) :
    Option Fields := do
  let rows ← match fields.lookup key with
    | none => some []
    | some (.tables rows) => some rows
    | some _ => none
  some (fields.set key (.tables (rows ++ [← setValues [] pairs])))

end Fields

mutual

def Item.toValue : Item → Value
  | .value value => value
  | .table _ fields => .record (fieldValues fields)
  | .tables rows => .list (rowValues rows)

def fieldValues : List (String × Item) → List (String × Value)
  | [] => []
  | (key, item) :: rest => (key, item.toValue) :: fieldValues rest

def rowValues : List (List (String × Item)) → List Value
  | [] => []
  | row :: rest => .record (fieldValues row) :: rowValues rest

end

end KernelExport.Toml
