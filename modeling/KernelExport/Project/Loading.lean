/-
This file loads configurations from the text of their files.
-/

import KernelExport.FileSystem.Error
import KernelExport.Project.Decoding
import KernelExport.Project.Validation
import KernelExport.Toml.Document

namespace KernelExport

/-- Why a configuration could not be loaded. -/
inductive ConfigurationError where
  /-- Its file could not be read. -/
  | unreadable (failure : FileError)
  /-- Its text is no configuration. -/
  | malformed (detail : String)
  /-- Neither the start of the search nor a directory above it holds a configuration. -/
  | notFound (start : String)
  /-- A field is empty that must not be. -/
  | missingField (field : String)
  /-- A value contradicts another one. -/
  | invalid (reason : String)
  deriving DecidableEq, Repr

namespace ConfigurationError

def message : ConfigurationError → String
  | .unreadable failure => "failed to read configuration: " ++ failure.message
  | .malformed detail => "failed to parse configuration: " ++ detail
  | .notFound start => "could not find artico3.toml in " ++ start ++ " or any parent directory"
  | .missingField field => "missing required field: " ++ field
  | .invalid reason => "validation error: " ++ reason

/-- The error that a fault of a configuration makes. -/
def ofFault : Configuration.Fault → ConfigurationError
  | .noProjectName => .missingField "project.name"
  | .noBoard => .missingField "impl.board"
  | .noKernelName => .missingField "kernels.name"
  | .duplicateKernel name => .invalid ("duplicate kernel '" ++ name ++ "'")
  | .slotOutOfRange id slots =>
    .invalid ("slot " ++ toString id ++ " out of range (shuffler has " ++ toString slots ++
      " slots)")
  | .duplicateSlot id => .invalid ("duplicate slot " ++ toString id)
  | .unknownKernel id name =>
    .invalid ("slot " ++ toString id ++ " references unknown kernel '" ++ name ++ "'")

end ConfigurationError

namespace Configuration

def checked (configuration : Configuration) : Except ConfigurationError Configuration :=
  match configuration.check with
  | .ok () => .ok configuration
  | .error fault => .error (.ofFault fault)

def read (text : String) : Except ConfigurationError Configuration :=
  match (Toml.read? text).bind (ofValue? .toml) with
  | some configuration => configuration.checked
  | none => .error (.malformed "TOML parse error")

end Configuration

end KernelExport
