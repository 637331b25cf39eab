/-
This file holds the dictionaries that template sets are rendered with: the variables of a
descriptor by their names.
-/

import KernelExport.Template.Error
import KernelExport.Template.Rendering
import KernelExport.Value.Json

namespace KernelExport

/-- The variables that a template set is rendered with. -/
structure Dictionary where
  fields : Template.Scope

namespace Dictionary

/-- The variables of a descriptor, which has to be a record. -/
def ofValue (descriptor : Value) : Except TemplateError Dictionary :=
  match descriptor with
  | .record fields => .ok ⟨fields⟩
  | other => .error (.notRecord ("expected a record, found " ++ Value.Json.render other))

/-- The value of a variable. -/
def get? (dictionary : Dictionary) (key : String) : Option Value :=
  dictionary.fields.lookup key

/-- The directories whose files belong to what is rendered. -/
def sources (dictionary : Dictionary) : List Path :=
  match dictionary.get? "SOURCES" with
  | some (.list items) => items.filterMap fun item => item.text?.map Path.ofText
  | _ => []

/-- What a text means with the variables. -/
def render (dictionary : Dictionary) (text : String) : Except Template.Fault String :=
  Template.renderText text [dictionary.fields]

end Dictionary

end KernelExport
