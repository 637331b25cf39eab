/-
This file describes kernels and projects to templates.

A descriptor is a typed record with one field for each variable that the templates of its family
know; `toValue` gives the variables their names. A field that a kernel does not have is no
variable at all, not an empty one.
-/

import KernelExport.Core
import KernelExport.Interface.Basic
import KernelExport.Value.Basic

namespace KernelExport

/-- The name by which a source file is included: its path without the extension. -/
def includeName (file : String) : String :=
  (Path.ofText file).trimExtension.text

/-! ### Kernels -/

/-- A register or a memory bank: its number, and its name if source declares one. -/
structure NumberedPort where
  name : Option String
  index : Nat
  deriving DecidableEq, Repr

/-- What templates know about a kernel. -/
structure KernelDescriptor where
  name : String
  source : HardwareSource
  part : String
  reset : ResetPolarity
  memoryBytes : Nat
  /-- The directories whose files become part of the core. -/
  sources : List Path
  /-- The names of the hardware files in them. -/
  includes : Option (List String) := none
  /-- The files of the program that hardware is synthesized from. -/
  files : Option (List String) := none
  registers : List NumberedPort
  banks : List NumberedPort
  wordsPerBank : Option Nat := none
  /-- The names of the ports as the source lists them. -/
  arguments : Option String := none
  deriving DecidableEq, Repr

namespace KernelDescriptor

/-- So many ports without names, numbered from zero. -/
def unnamed (count : Nat) : List NumberedPort :=
  (List.range count).map fun index => ⟨none, index⟩

/-- The ports with their names and numbers. -/
def named (ports : List PlacedPort) : List NumberedPort :=
  ports.map fun port => ⟨some port.name, port.index⟩

/-- The descriptor of a kernel whose hardware is written down: it has the configured numbers of
registers and banks. -/
def structural (kernel : Kernel) (part : String) (directory : Path) (files : List String) :
    KernelDescriptor where
  name := Text.lowercase kernel.name
  source := kernel.source
  part := part
  reset := kernel.reset
  memoryBytes := kernel.memoryBytes
  sources := [directory]
  includes := some (files.map includeName)
  registers := unnamed kernel.registers
  banks := unnamed kernel.memoryBanks

/-- The descriptor of a kernel that hardware is synthesized for: it has the registers and banks
that its source declares. -/
def synthesized (kernel : Kernel) (part : String) (directory : Path) (files : List String)
    (interface : Interface) : KernelDescriptor where
  name := Text.lowercase kernel.name
  source := kernel.source
  part := part
  reset := kernel.reset
  memoryBytes := kernel.memoryBytes
  sources := [directory]
  files := some files
  registers := named interface.layout.registers
  banks := named interface.layout.memory
  wordsPerBank := some interface.wordsPerBank
  arguments := some interface.declaration.names

/-- The descriptor with the hardware that synthesis left in a directory. -/
def withHardware (descriptor : KernelDescriptor) (directory : Path) (files : List String) :
    KernelDescriptor :=
  { descriptor with sources := [directory], includes := some (files.map includeName) }

def fileValues (files : List String) : Value :=
  .list (files.map fun file => .record [("File", .text file)])

/-- The records of ports, with these names for their name and their number. -/
def portValues (nameField indexField : String) (ports : List NumberedPort) : Value :=
  .list (ports.map fun port =>
    .record ((port.name.map fun name => (nameField, Value.text name)).toList ++
      [(indexField, .ofNat port.index)]))

def fields (descriptor : KernelDescriptor) : List (String × Value) :=
  [("NAME", .text descriptor.name),
    ("HWSRC", .text descriptor.source.word),
    ("PART", .text descriptor.part),
    ("RST_POL", .text descriptor.reset.word),
    ("MEMBYTES", .ofNat descriptor.memoryBytes),
    ("SOURCES", .ofTexts (descriptor.sources.map Path.text))] ++
  (descriptor.includes.map fun files => ("INCLUDES", fileValues files)).toList ++
  (descriptor.files.map fun files => ("FILES", fileValues files)).toList ++
  [("REGS", portValues "rname" "rid" descriptor.registers),
    ("PORTS", portValues "pname" "pid" descriptor.banks),
    ("NUMREGS", .ofNat descriptor.registers.length),
    ("MEMBANKS", .ofNat descriptor.banks.length)] ++
  (descriptor.wordsPerBank.map fun words => ("MEMPOS", Value.ofNat words)).toList ++
  (descriptor.arguments.map fun names => ("ARGS", Value.text names)).toList

/-- The record of the template variables of a kernel. -/
def toValue (descriptor : KernelDescriptor) : Value :=
  .record descriptor.fields

end KernelDescriptor

/-! ### Projects -/

/-- The template value of a kind of buffer: its name in upper case, and a word of its own for
none. -/
def bufferTag (kind : String) : String :=
  if kind = "none" then "NO_BUFFER" else Text.uppercase kind

/-- A slot, and the core that it holds at first. -/
structure FilledSlot where
  core : Core
  id : Nat
  deriving DecidableEq, Repr

/-- What templates know about a project. -/
structure ProjectDescriptor where
  slotCount : Nat
  pipelineDepth : Nat
  clockBuffer : String
  resetBuffer : String
  /-- The slots that a kernel is assigned to. -/
  slots : List FilledSlot
  kernels : List Core
  deriving DecidableEq, Repr

namespace ProjectDescriptor

/-- The descriptor of a configured project. A slot holds the core of the first kernel that it
lists. -/
def ofConfiguration (configuration : Configuration) : ProjectDescriptor where
  slotCount := configuration.shuffler.slots
  pipelineDepth := configuration.shuffler.stages
  clockBuffer := bufferTag configuration.shuffler.clockBuffer
  resetBuffer := bufferTag configuration.shuffler.resetBuffer
  slots := configuration.slots.filterMap fun slot =>
    (configuration.kernelsOf slot).head?.map fun kernel => ⟨Core.ofKernel kernel.name, slot.id⟩
  kernels := configuration.kernels.map fun kernel => Core.ofKernel kernel.name

def fields (descriptor : ProjectDescriptor) : List (String × Value) :=
  [("NUM_SLOTS", .ofNat descriptor.slotCount),
    ("PIPE_DEPTH", .ofNat descriptor.pipelineDepth),
    ("CLK_BUFFER", .text descriptor.clockBuffer),
    ("RST_BUFFER", .text descriptor.resetBuffer),
    ("SLOTS", .list (descriptor.slots.map fun slot => .record [
      ("SlotCoreName", .text slot.core.name),
      ("SlotCoreVersion", .text slot.core.version),
      ("id", .ofNat slot.id)])),
    ("KERNELS", .list (descriptor.kernels.map fun core => .record [
      ("KernCoreName", .text core.name),
      ("KernCoreVersion", .text core.version)]))]

/-- The record of the template variables of a project. -/
def toValue (descriptor : ProjectDescriptor) : Value :=
  .record descriptor.fields

end ProjectDescriptor

end KernelExport
