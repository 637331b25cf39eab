/-
This file holds the commands by which an export runs external tools, and the ways in which a tool
can fail.
-/

import KernelExport.FileSystem.Action

namespace KernelExport

/-- A run of an external tool. -/
structure Command where
  program : String
  arguments : List String := []
  /-- The directory that the tool runs in. -/
  directory : Path
  /-- A script that sets up the environment of the tool. -/
  settings : Option Path := none
  deriving DecidableEq, Repr

namespace Command

def withArguments (command : Command) (arguments : List String) : Command :=
  { command with arguments := command.arguments ++ arguments }

/-- The command in the environment that a script sets up. -/
def withSettings (command : Command) (script : Path) : Command :=
  { command with settings := some script }

def synthesis (workspace : Path) : Command where
  program := "vitis_hls"
  arguments := ["-f", "csynth.tcl"]
  directory := workspace

/-- A script for the design tool, run without its user interface, with arguments of its own. -/
def batch (directory : Path) (script : String) (scriptArguments : List String) : Command where
  program := "vivado"
  arguments := ["-mode", "batch", "-notrace", "-nojournal", "-nolog", "-source", script] ++
    (if scriptArguments = [] then [] else "-tclargs" :: scriptArguments)
  directory := directory

/-- A command is written as its program and its arguments, with spaces between them. -/
def text (command : Command) : String :=
  " ".intercalate (command.program :: command.arguments)

end Command

/-- Why a tool did not succeed. -/
inductive ToolError where
  /-- It could not be started. -/
  | notStarted (program : String) (failure : FileError)
  /-- It ended with a status other than zero, or was ended by a signal. -/
  | exited (program : String) (status : Option Int)
  deriving DecidableEq, Repr

def ToolError.message : ToolError → String
  | .notStarted program failure => "could not start `" ++ program ++ "`: " ++ failure.message
  | .exited program (some status) =>
    "`" ++ program ++ "` exited with status " ++ toString status
  | .exited program none => "`" ++ program ++ "` exited with a signal"

/-- What runs tools: a command changes the file system, and succeeds or fails. -/
abbrev Runner : Type := Command → ExceptT ToolError (StateM FileSystem) Unit

end KernelExport
