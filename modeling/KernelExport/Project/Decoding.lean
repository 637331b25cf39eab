/-
This file finds the configuration of a project in the value of its configuration file. A value of
the wrong kind, a number out of its range or a missing field that has no default makes the whole
unreadable; fields of other names are passed over.
-/

import KernelExport.Project.Configuration
import KernelExport.Value.Dialect

namespace KernelExport

/-- The kind of source that a value writes by its word. -/
def HardwareSource.ofValue? (dialect : Dialect) (value : Value) : Option HardwareSource := do
  match ← dialect.word? value with
  | "vhdl" => some .vhdl
  | "verilog" => some .verilog
  | "hls" => some .hls
  | _ => none

def ResetPolarity.ofValue? (dialect : Dialect) (value : Value) : Option ResetPolarity := do
  match ← dialect.word? value with
  | "high" => some .high
  | "low" => some .low
  | _ => none

/-- The kernel that a record describes. Its bytes of memory take sixty-four bits, the other
numbers thirty-two. -/
def Kernel.ofValue? (dialect : Dialect) (value : Value) : Option Kernel := do
  guard (dialect.isRecord 6 value)
  let name ← value.required 0 "name" Value.text?
  let source ← value.required 1 "hwsrc" (HardwareSource.ofValue? dialect)
  let memoryBytes ← value.defaulted 2 "membytes" 0 (·.natBelow? UInt64.size)
  let memoryBanks ← value.defaulted 3 "membanks" 0 (·.natBelow? UInt32.size)
  let registers ← value.defaulted 4 "regs" 0 (·.natBelow? UInt32.size)
  let reset ← value.defaulted 5 "rstpol" .high (ResetPolarity.ofValue? dialect)
  pure { name, source, memoryBytes, memoryBanks, registers, reset }

/-- The words that name a board: one text, or a list of texts. -/
def Platform.boardOfValue? : Value → Option (List String)
  | .text word => some [word]
  | value => value.texts?

def Platform.ofValue? (dialect : Dialect) (value : Value) : Option Platform := do
  guard (dialect.isRecord 8 value)
  let repository ← value.required 0 "repo" Value.text?
  let part ← value.required 1 "part" Value.text?
  let board ← value.required 2 "board" boardOfValue?
  let design ← value.required 3 "design" Value.text?
  let operatingSystem ← value.required 4 "os" Value.text?
  let tool ← value.required 5 "tool" Value.text?
  let toolVersion ← value.required 6 "tool_version" Value.text?
  let toolRoot ← value.defaulted 7 "xilinx_root" defaultToolRoot
    fun root => root.text?.map Path.ofText
  pure { repository := .ofText repository, part, board, design, operatingSystem, tool, toolVersion,
         toolRoot }

def Shuffler.ofValue? (dialect : Dialect) (value : Value) : Option Shuffler := do
  guard (dialect.isRecord 4 value)
  let slots ← value.defaulted 0 "slots" 1 (·.natBelow? UInt32.size)
  let stages ← value.defaulted 1 "stages" 0 (·.natBelow? UInt32.size)
  let clockBuffer ← value.defaulted 2 "clkbuf" "none" Value.text?
  let resetBuffer ← value.defaulted 3 "rstbuf" "none" Value.text?
  pure { slots, stages, clockBuffer, resetBuffer }

def Slot.ofValue? (dialect : Dialect) (value : Value) : Option Slot := do
  guard (dialect.isRecord 2 value)
  let id ← value.required 0 "id" (·.natBelow? UInt32.size)
  let kernels ← value.defaulted 1 "kernels" [] Value.texts?
  pure { id, kernels }

def Configuration.ofValue? (dialect : Dialect) (value : Value) : Option Configuration := do
  guard (dialect.isRecord 5 value)
  let projectName ← value.required 0 "project" fun project => do
    guard (dialect.isRecord 1 project)
    project.required 0 "name" Value.text?
  let platform ← value.required 1 "impl" (Platform.ofValue? dialect)
  let shuffler ← value.defaulted 2 "shuffler" {} (Shuffler.ofValue? dialect)
  let kernels ← value.defaulted 3 "kernels" [] (Value.listOf? (Kernel.ofValue? dialect))
  let slots ← value.defaulted 4 "slots" [] (Value.listOf? (Slot.ofValue? dialect))
  pure { projectName, platform, shuffler, kernels, slots }

end KernelExport
