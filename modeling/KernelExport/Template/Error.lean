/-
This file holds the ways in which a template set can fail to be rendered.
-/

import KernelExport.FileSystem.Error
import KernelExport.Path
import KernelExport.Template.Basic

namespace KernelExport

/-- Why a template set could not be rendered. -/
inductive TemplateError where
  /-- Its directory does not exist. -/
  | notFound (directory : Path)
  /-- What it was to be rendered with has no variables. -/
  | notRecord (detail : String)
  /-- A template names a variable that is not known. -/
  | unknownKey (path : Path) (key : String)
  /-- A template has no meaning. -/
  | malformed (path : Path) (detail : String)
  /-- An operation on files failed. -/
  | files (path : Path) (failure : FileError)
  deriving DecidableEq, Repr

namespace TemplateError

def message : TemplateError → String
  | .notFound directory => "template directory not found: " ++ directory.text
  | .notRecord detail => "descriptor is not a key-value record: " ++ detail
  | .unknownKey path key => path.text ++ ": unknown template key `" ++ key ++ "`"
  | .malformed path detail => path.text ++ ": " ++ detail
  | .files path failure => path.text ++ ": " ++ failure.message

/-- The error that a fault in the template at a path makes. -/
def ofFault (path : Path) : Template.Fault → TemplateError
  | .unknownKey key => .unknownKey path key
  | fault => .malformed path fault.message

end TemplateError

end KernelExport
