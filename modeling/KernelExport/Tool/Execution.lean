/-
This file runs commands as processes, for the outer layer.

A process starts in the directory of its command; it cannot start where no directory is or without
its program. A command with a settings script is run by a shell, which runs the script first, with
the program and its arguments as arguments of the script. The program is run only if the script
ends with success and without ending its shell.
-/

import KernelExport.Tool.Command
import KernelExport.Tool.Shell

namespace KernelExport.Execution

/-- The programs together with the shells of the system, of which so many at most run in each
other. -/
def withShells (programs : Programs) : (shells : Nat) → Programs
  | 0, name => programs name
  | shells + 1, name =>
    if name = "sh" ∨ name = "bash" then some (Shell.program (withShells programs shells))
    else programs name

/-- How many shells may run in each other. -/
def shellLimit : Nat := 16

/-- The status of a program that runs after a settings script. -/
def runAfterScript (programs : Programs) (script : Path) (command : Command) :
    StateM FileSystem (Option Nat) := do
  match (← get).readText script with
  | .error _ => pure (some 1)
  | .ok text =>
    let (after, flow) ← Shell.runText programs
      { environment := [], arguments := command.program :: command.arguments } text
    match flow with
    | .killed => pure none
    | .exited => pure (some after.status)
    | .next | .returned =>
      if after.status != 0 then pure (some after.status)
      else match programs command.program with
        | some run => run after.environment command.arguments
        | none => pure (some 127)

/-- Runs a command in the working directory: its status, or none if a signal ended it. -/
def runHere (programs : Programs) (command : Command) :
    ExceptT ToolError (StateM FileSystem) (Option Nat) :=
  match command.settings with
  | some script => runAfterScript programs script command
  | none =>
    match programs command.program with
    | some run => run [] command.arguments
    | none => throw (.notStarted command.program .notFound)

/-- The location of the directory that a command runs in. -/
def directoryOf (files : FileSystem) (command : Command) : Except FileError Location := do
  let location ← files.resolve command.directory
  files.expectDirectory location
  pure location

/-- Runs commands with these programs and the shells. -/
def runner (programs : Programs) : Runner := fun command => do
  let files ← get
  match directoryOf files command with
  | .error failure => throw (.notStarted command.program failure)
  | .ok location =>
    set { files with workingDirectory := location }
    let result ← ExceptT.lift (runHere (withShells programs shellLimit) command).run
    modify fun after => { after with workingDirectory := files.workingDirectory }
    match result with
    | .error failure => throw failure
    | .ok (some 0) => pure ()
    | .ok (some status) => throw (.exited command.program (some (Int.ofNat status)))
    | .ok none => throw (.exited command.program none)

end KernelExport.Execution
