/-
This file holds the ways in which an export can fail, and what its user is told about each.

Some failures concern only the kernel that is being exported: an export of the whole project
reports them and goes on with the next kernel. The others give up the export.
-/

import KernelExport.Diagnostic.Basic
import KernelExport.Interface.Declaration
import KernelExport.Template.Error
import KernelExport.Tool.Command

namespace KernelExport

/-- What a tool is run for. -/
inductive ToolStep where
  | synthesis
  | repository
  | integration
  deriving DecidableEq, Repr

def ToolStep.text : ToolStep → String
  | .synthesis => "high-level synthesis"
  | .repository => "Vivado IP repository generation"
  | .integration => "Vivado IP Integrator design generation"

/-- Why an export failed. -/
inductive ExportError where
  /-- The project asks for a tool that is not supported. -/
  | unsupportedTool (name : String)
  /-- The project has no kernel of the name. -/
  | kernelNotFound (name : String)
  /-- The port declaration of a kernel could not be read. -/
  | declaration (kernel : String) (place : Option SourcePlace) (fault : DeclarationError)
  /-- The template set of the reference design does not exist. -/
  | templateMissing (directory : Path)
  /-- A template set could not be rendered, for a kernel or for the project. -/
  | template (kernel : Option String) (failure : TemplateError)
  /-- A tool failed. -/
  | tool (step : ToolStep) (failure : ToolError)
  /-- Synthesis succeeded and left nothing at the path. -/
  | outputMissing (path : Path)
  /-- An operation on files failed. -/
  | files (path : Path) (failure : FileError)
  deriving DecidableEq, Repr

namespace ExportError

def message : ExportError → String
  | .unsupportedTool name => "tool `" ++ name ++ "` is not supported"
  | .kernelNotFound name => "kernel `" ++ name ++ "` not found"
  | .declaration kernel _ fault => "kernel `" ++ kernel ++ "`: " ++ fault.message
  | .templateMissing directory => "template directory not found: " ++ directory.text
  | .template none failure => failure.message
  | .template (some kernel) failure => "kernel `" ++ kernel ++ "`: " ++ failure.message
  | .tool step failure => step.text ++ " failed: " ++ failure.message
  | .outputMissing path => "synthesis output not found: " ++ path.text
  | .files path failure => path.text ++ ": " ++ failure.message

/-- Whether the failure concerns only the kernel that is being exported. -/
def isConfined : ExportError → Bool
  | .kernelNotFound _ | .declaration .. | .template .. | .files .. => true
  | .unsupportedTool _ | .templateMissing _ | .tool .. | .outputMissing _ => false

def code : ExportError → Code
  | .unsupportedTool _ => .unsupportedTool
  | .kernelNotFound _ => .kernelNotFound
  | .declaration .. => .declaration
  | .templateMissing _ | .template _ (.notFound _) => .templateMissing
  | .template .. => .template
  | .tool .. | .outputMissing _ => .toolFailed
  | .files .. => .files

def diagnostic (error : ExportError) : Diagnostic :=
  let plain := Diagnostic.error error.code error.message
  match error with
  | .unsupportedTool name =>
    plain.withNote ("artico3.toml selects `" ++ name ++ "`")
      |>.withHelp "set `impl.tool = \"vivado\"`"
  | .kernelNotFound name => plain.about name
  | .declaration kernel place fault =>
    { Diagnostic.error error.code ("invalid A3_KERNEL declaration: " ++ fault.message) with
      kernel := some kernel, place }
  | .templateMissing _ =>
    plain.withHelp "check `impl.repo` and the platform settings in artico3.toml"
  | .template kernel failure => { Diagnostic.error error.code failure.message with kernel }
  | .tool .. | .outputMissing _ =>
    plain.withHelp "check artico3.toml for unknown components"
  | .files .. => plain

/-- What the user is told about an error is an error. -/
@[simp] theorem severity_diagnostic (error : ExportError) :
    error.diagnostic.severity = .error := by
  cases error <;> rfl

end ExportError

/-- How far the export of a kernel has come. -/
inductive ExportStage where
  | notStarted
  | validated
  | workspaceCreated
  | synthesizing
  | resultsCollected
  | exporting
  | exported
  | failed
  deriving DecidableEq, Repr

def ExportStage.text : ExportStage → String
  | .notStarted => "not started"
  | .validated => "validated"
  | .workspaceCreated => "workspace created"
  | .synthesizing => "synthesizing"
  | .resultsCollected => "results collected"
  | .exporting => "exporting"
  | .exported => "exported"
  | .failed => "failed"

end KernelExport
