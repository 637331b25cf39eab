/-
This file names the cores that kernels are packaged as. A core has the lower case name of its
kernel behind `a3_`, and all cores have one version.
-/

import KernelExport.Text.Case

namespace KernelExport

/-- The name and the version of a core. -/
structure Core where
  name : String
  version : String
  deriving DecidableEq, Repr

namespace Core

def ofKernel (kernel : String) : Core where
  name := "a3_" ++ Text.lowercase kernel
  version := "1.00.a"

/-- The directory of a core: its name and its version, in which dots become underscores. -/
def directory (core : Core) : String :=
  core.name ++ "_v" ++ core.version.map fun character =>
    if character = '.' then '_' else character

def text (core : Core) : String :=
  core.name ++ " v" ++ core.version

end Core

end KernelExport
