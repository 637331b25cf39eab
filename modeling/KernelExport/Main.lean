/-
This file is the command line. It reads a listing of files from standard input as JSON, runs the
arguments on them as the files of the working directory, and writes the files that are left to
standard output. What is reported goes to standard error.

No tools can be run from here: an export ends where it needs the first one.
-/

import KernelExport.CommandLine.Run
import KernelExport.FileSystem.Listing
import KernelExport.Tool.Execution
import KernelExport.Value.Json

namespace KernelExport.CommandLine

def workingPath : Path where
  segments := ["", "project"]

def synthesisPath : Path where
  segments := ["", "workspace"]

/-- The files of which a JSON text lists those of the working directory. -/
def readFiles (text : String) : Except String FileSystem := do
  let listing ← ((Value.Json.read? text).bind Listing.ofValue?).elim
    (.error "standard input holds no listing of files") .ok
  let action : FileAction Unit := do
    FileAction.createDirectories workingPath
    FileAction.install workingPath listing
    let location ← FileAction.ask (·.resolve workingPath)
    modify fun files => { files with workingDirectory := location }
  match action.run .empty with
  | (.ok (), files) => .ok files
  | (.error failure, _) => .error failure.message

/-- The JSON text that lists the files of the working directory. -/
def listedFiles (files : FileSystem) : Except String String :=
  match files.listing workingPath with
  | .ok listing => .ok (Value.Json.render listing.toValue)
  | .error failure => .error failure.message

/-- What a run of the arguments on listed files leaves, and the listing of it. -/
def runListed (text : String) (arguments : List String) : Except String (Outcome × String) := do
  let files ← readFiles text
  let runner := Execution.runner fun _ => none
  let outcome := run { files, runner, workspace := synthesisPath } arguments
  pure (outcome, ← listedFiles outcome.files)

end KernelExport.CommandLine

/-- Runs the command line. The status is 2 for input or arguments that cannot be read. -/
def main (arguments : List String) : IO UInt32 := do
  let text ← (← IO.getStdin).readToEnd
  match KernelExport.CommandLine.runListed text arguments with
  | .ok (outcome, listing) =>
    IO.eprint outcome.report
    IO.println listing
    pure (UInt32.ofNat outcome.status)
  | .error failure =>
    IO.eprintln ("error: " ++ failure)
    pure 2
