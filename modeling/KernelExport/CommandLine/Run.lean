/-
This file runs the command line: it finds the configuration, exports what is asked for, and
reports what came of it.

The status is 0 if the export succeeded and no error was reported, 1 if not, and 2 for arguments
that cannot be read. Whoever asks for quiet gets to read the errors only.
-/

import KernelExport.CommandLine.Arguments
import KernelExport.Diagnostic.Terminal
import KernelExport.Export.Project

namespace KernelExport.CommandLine

/-- What a run finds around it. -/
structure Surroundings where
  files : FileSystem
  runner : Runner
  /-- The path of the workspace for synthesis, at which nothing stands. -/
  workspace : Path
  /-- Whether reports go to a terminal. -/
  terminal : Bool := false

/-- What a run leaves. -/
structure Outcome where
  status : Nat
  /-- The reports. -/
  report : String
  commands : List Command
  files : FileSystem

/-- The configuration file of a request: the one that is named, the one in the directory that is
named, or the nearest one from the working directory upwards. -/
def configurationPath (files : FileSystem) (request : Request) :
    Except ConfigurationError Path :=
  match request.configuration with
  | some named =>
    let path := Path.ofText named
    .ok (if files.isFile path then path else path.child Project.fileName)
  | none => do
    let root ← Project.findRoot files (FileSystem.pathOf files.workingDirectory)
    pure (root.child Project.fileName)

def projectOf (files : FileSystem) (request : Request) : Except ConfigurationError Project := do
  Project.loadFile files (← configurationPath files request)

/-- Exports what is asked for. An error that ends the export is reported like others. -/
def exportRequested (exporter : Exporter) (request : Request) (state : ExportState) :
    ExportState :=
  let directory := request.directory.map Path.ofText
  let transfer := Transfer.ofFlag request.link
  let action : ExportAction Unit := match request.kernel with
    | some kernel => discard (exporter.exportKernel kernel directory transfer)
    | none => discard (exporter.exportProject directory transfer)
  match action.run state with
  | (.ok (), after) => after
  | (.error failure, after) => { after with sink := after.sink.emit failure.diagnostic }

def isColoured (choice : ColourChoice) (terminal : Bool) : Bool :=
  match choice with
  | .auto => terminal
  | .always => true
  | .never => false

/-- The lines that are told unless quiet is asked for. -/
def told (request : Request) (lines : List String) : String :=
  if request.quiet then "" else String.join (lines.map (· ++ "\n"))

/-- The diagnostics that are reported: all of them, or the errors. -/
def reported (request : Request) (sink : Sink) : List Diagnostic :=
  sink.diagnostics.filter fun diagnostic => !request.quiet || diagnostic.severity == .error

def summary (sink : Sink) : String :=
  "   Result: " ++ toString (sink.count .error) ++ " error(s), " ++
    toString (sink.count .warning) ++ " warning(s)"

def reportOf (request : Request) (coloured : Bool) (project : Project) (state : ExportState) :
    String :=
  told request (["   Exporting " ++ project.configuration.projectName ++ " (" ++
      (Transfer.ofFlag request.link).word ++ ")"] ++ state.progress.map ("[A3DK] " ++ ·)) ++
    String.join ((reported request state.sink).map (Diagnostic.render coloured)) ++
    told request [summary state.sink]

def runRequest (surroundings : Surroundings) (request : Request) : Outcome :=
  let files := surroundings.files
  match projectOf files request with
  | .error failure =>
    { status := 1, report := "error: " ++ failure.message ++ "\n", commands := [], files }
  | .ok project =>
    let exporter : Exporter :=
      { project, runner := surroundings.runner, workspace := surroundings.workspace }
    let after := exportRequested exporter request { files }
    { status := if after.sink.hasErrors then 1 else 0
      report := reportOf request (isColoured request.colour surroundings.terminal) project after
      commands := after.commands
      files := after.files }

def run (surroundings : Surroundings) (arguments : List String) : Outcome :=
  match read arguments with
  | none => { status := 2, report := "", commands := [], files := surroundings.files }
  | some .information => { status := 0, report := "", commands := [], files := surroundings.files }
  | some (.exporting request) => runRequest surroundings request

end KernelExport.CommandLine
