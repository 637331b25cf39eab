/-
This file holds the configuration of a project: the platform it is built for, the shuffler that
connects kernels to the system, the kernels and the slots they are loaded into.
-/

import KernelExport.Path

namespace KernelExport

/-- How the hardware of a kernel is described. -/
inductive HardwareSource where
  | vhdl
  | verilog
  /-- A program that high-level synthesis makes hardware of. -/
  | hls
  deriving DecidableEq, Repr, Inhabited

namespace HardwareSource

/-- The word for a kind of source, which is also the name of its directory. -/
def word : HardwareSource → String
  | .vhdl => "vhdl"
  | .verilog => "verilog"
  | .hls => "hls"

def isStructural : HardwareSource → Bool
  | .vhdl | .verilog => true
  | .hls => false

end HardwareSource

/-- The level of the reset signal at which a kernel is reset. -/
inductive ResetPolarity where
  | high
  | low
  deriving DecidableEq, Repr, Inhabited

def ResetPolarity.word : ResetPolarity → String
  | .high => "high"
  | .low => "low"

/-- A kernel of a project. -/
structure Kernel where
  name : String
  source : HardwareSource
  /-- The bytes of local memory, over all banks. -/
  memoryBytes : Nat := 0
  memoryBanks : Nat := 0
  registers : Nat := 0
  reset : ResetPolarity := .high
  deriving DecidableEq, Repr, Inhabited

/-- What a project is built for and with. -/
structure Platform where
  /-- The directory that holds the template sets, seen from the project. -/
  repository : Path
  part : String
  /-- The words that name the board. -/
  board : List String
  design : String
  operatingSystem : String
  tool : String
  toolVersion : String
  /-- The directory that the tools are installed in. -/
  toolRoot : Path
  deriving DecidableEq, Repr, Inhabited

namespace Platform

/-- Where the tools are installed unless the configuration says otherwise. -/
def defaultToolRoot : Path where
  segments := ["", "tools", "Xilinx"]

end Platform

/-- The shuffler, which connects the slots to the system. -/
structure Shuffler where
  slots : Nat := 1
  stages : Nat := 0
  clockBuffer : String := "none"
  resetBuffer : String := "none"
  deriving DecidableEq, Repr, Inhabited

/-- A slot, and the names of the kernels that may be loaded into it. -/
structure Slot where
  id : Nat
  kernels : List String := []
  deriving DecidableEq, Repr, Inhabited

/-- The configuration of a project. -/
structure Configuration where
  projectName : String
  platform : Platform
  shuffler : Shuffler := {}
  kernels : List Kernel := []
  slots : List Slot := []
  deriving DecidableEq, Repr, Inhabited

namespace Configuration

def kernel? (configuration : Configuration) (name : String) : Option Kernel :=
  configuration.kernels.find? (·.name == name)

/-- The kernels of a slot, in the order in which it lists them. Names of no kernel are passed
over. -/
def kernelsOf (configuration : Configuration) (slot : Slot) : List Kernel :=
  slot.kernels.filterMap configuration.kernel?

end Configuration

end KernelExport
