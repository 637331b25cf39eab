/-
This file holds projects: a configuration with the directory that its file lies in, and the
places of all that an export reads and writes.
-/

import KernelExport.Core
import KernelExport.FileSystem.Action
import KernelExport.Project.Loading

namespace KernelExport

/-- A configuration and the directory that it lies in. -/
structure Project where
  root : Path
  configuration : Configuration
  deriving DecidableEq, Repr

namespace Project

/-! ### Places -/

/-- The path that the names of export directories start with. -/
def basePath (project : Project) : Path :=
  project.root.child "build"

def exportPath (project : Project) : Path :=
  project.basePath.withSuffix ".hw"

def kernelExportPath (project : Project) (kernel : String) : Path :=
  project.basePath.withSuffix (".hw." ++ Text.lowercase kernel)

def sourcePath (project : Project) (kernel : Kernel) : Path :=
  project.root |>.child "src" |>.join (.ofText (Core.ofKernel kernel.name).name)
    |>.child kernel.source.word

def repositoryPath (project : Project) : Path :=
  project.root.join project.configuration.platform.repository

def templatePath (project : Project) (set : String) : Path :=
  project.repositoryPath |>.child "templates" |>.join (.ofText set)

/-- The template set of the reference design for the platform. -/
def referenceSet (project : Project) : String :=
  let platform := project.configuration.platform
  "_".intercalate ["ref", platform.operatingSystem, "_".intercalate platform.board,
    platform.design, platform.tool, platform.toolVersion]

/-- The script that sets up the environment of the tools. -/
def settingsScript (project : Project) : Path :=
  let platform := project.configuration.platform
  platform.toolRoot |>.child "Vivado" |>.join (.ofText platform.toolVersion)
    |>.child "settings64.sh"

/-! ### Loading -/

def fileName : String := "artico3.toml"

def readConfiguration (files : FileSystem) (path : Path) :
    Except ConfigurationError Configuration :=
  match files.readText path with
  | .ok text => Configuration.read text
  | .error failure => .error (.unreadable failure)

def load (files : FileSystem) (root : Path) : Except ConfigurationError Project := do
  pure ⟨root, ← readConfiguration files (root.child fileName)⟩

/-- The project whose configuration file is given, whatever its name. Its root is the directory of
the file. -/
def loadFile (files : FileSystem) (path : Path) : Except ConfigurationError Project := do
  let configuration ← readConfiguration files path
  let root := match path.parent? with
    | some directory => if directory.isEmpty then .ofName "." else directory
    | none => .ofName "."
  pure ⟨root, configuration⟩

/-- The nearest directory, from `start` upwards, that holds a configuration file. -/
def findRoot (files : FileSystem) (start : Path) : Except ConfigurationError Path :=
  match start.ancestors.find? fun directory => files.isFile (directory.child fileName) with
  | some directory => .ok directory
  | none => .error (.notFound start.text)

end Project

end KernelExport
