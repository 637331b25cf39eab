/-
This file holds what an export works on: the files, the diagnostics that came, the commands that
were run, and the messages about its progress.
-/

import KernelExport.Diagnostic.Sink
import KernelExport.Export.Error
import KernelExport.Project.Basic
import KernelExport.Template.Directory

namespace KernelExport

/-- What an export has done so far. -/
structure ExportState where
  files : FileSystem
  sink : Sink := {}
  /-- The commands that were run, oldest first. -/
  commands : List Command := []
  /-- The messages about the progress, oldest first. -/
  progress : List String := []

/-- Steps of an export, which may fail. What was done before a failure stays done. -/
abbrev ExportAction (Result : Type) : Type := ExceptT ExportError (StateM ExportState) Result

/-- What an export is made with: a project, a way to run tools, and the path of the workspace for
high-level synthesis, at which nothing stands. -/
structure Exporter where
  project : Project
  runner : Runner
  workspace : Path

namespace ExportAction

variable {Failure Result : Type}

/-- Steps on files, with a meaning for their failure. -/
def onFiles (meaning : Failure → ExportError) (action : ExceptT Failure (StateM FileSystem) Result) :
    ExportAction Result := do
  let state ← get
  let (result, files) := action.run state.files
  set { state with files }
  match result with
  | .ok value => pure value
  | .error failure => throw (meaning failure)

/-- A question about files, with the path that a failure concerns. -/
def ask (path : Path) (question : FileSystem → Except FileError Result) : ExportAction Result :=
  onFiles (.files path) (FileAction.ask question)

def report (diagnostics : List Diagnostic) : ExportAction Unit :=
  modify fun state => { state with sink := state.sink.extend diagnostics }

def tell (message : String) : ExportAction Unit :=
  modify fun state => { state with progress := state.progress ++ [message] }

/-- Takes steps and answers how they ended, be it in failure. -/
def attempt (action : ExportAction Result) : ExportAction (Except ExportError Result) :=
  ExceptT.lift action.run

/-- Takes steps with a workspace that is made before them and removed after them, whether they
succeed or fail. -/
def withWorkspace (workspace : Path) (action : ExportAction Result) : ExportAction Result := do
  onFiles (.files (workspace.parent?.getD .empty)) (FileAction.change (·.createDirectory workspace))
  let result ← attempt action
  modify fun state =>
    { state with files := ((FileAction.removeTree workspace).run state.files).2 }
  match result with
  | .ok value => pure value
  | .error failure => throw failure

end ExportAction

namespace Exporter

open ExportAction

def supportedTool : String := "vivado"

def checkTool (exporter : Exporter) : ExportAction Unit :=
  let tool := exporter.project.configuration.platform.tool
  if tool = supportedTool then pure () else throw (.unsupportedTool tool)

/-- Runs a tool in the environment of the project's settings script. -/
def runTool (exporter : Exporter) (step : ToolStep) (command : Command) : ExportAction Unit := do
  let command := command.withSettings exporter.project.settingsScript
  modify fun state => { state with commands := state.commands ++ [command] }
  onFiles (.tool step) (exporter.runner command)

/-- Renders a template set with a descriptor, for a kernel or for the project. -/
def render (exporter : Exporter) (kernel : Option String) (set : String) (descriptor : Value)
    (target : Path) (transfer : Transfer) : ExportAction Unit := do
  match Dictionary.ofValue descriptor with
  | .error failure => throw (.template kernel failure)
  | .ok dictionary =>
    onFiles (.template kernel)
      (TemplateAction.render dictionary transfer (exporter.project.templatePath set) target)

end Exporter

end KernelExport
