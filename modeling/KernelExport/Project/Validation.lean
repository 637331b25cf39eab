/-
This file says which configurations are well formed. Checking a configuration answers its first
fault, in the order of `Configuration.check`: the project, the kernels in their order, and then
the slots in theirs.
-/

import KernelExport.Project.Configuration
import KernelExport.Text.Case

namespace KernelExport.Configuration

/-- What can be wrong with a configuration. -/
inductive Fault where
  /-- The project has no name. -/
  | noProjectName
  /-- No word names the board. -/
  | noBoard
  /-- A kernel has no name. -/
  | noKernelName
  /-- A kernel has the name of an earlier one, but for case. -/
  | duplicateKernel (name : String)
  /-- The number of a slot is beyond the slots of the shuffler. -/
  | slotOutOfRange (id slots : Nat)
  /-- A slot has the number of an earlier one. -/
  | duplicateSlot (id : Nat)
  /-- A slot lists a kernel that the project does not have. -/
  | unknownKernel (id : Nat) (name : String)
  deriving DecidableEq, Repr

/-- Checks kernels, when the lower case names `taken` are those of earlier ones. -/
def checkKernels (taken : List String) : List Kernel → Except Fault Unit
  | [] => .ok ()
  | kernel :: rest =>
    let name := Text.lowercase kernel.name
    if kernel.name = "" then .error .noKernelName
    else if name ∈ taken then .error (.duplicateKernel kernel.name)
    else checkKernels (name :: taken) rest

/-- Checks slots against the names of the kernels and the number of slots, when the numbers `taken`
are those of earlier ones. -/
def checkSlots (kernels : List String) (slots : Nat) (taken : List Nat) :
    List Slot → Except Fault Unit
  | [] => .ok ()
  | slot :: rest =>
    if slots ≤ slot.id then .error (.slotOutOfRange slot.id slots)
    else if slot.id ∈ taken then .error (.duplicateSlot slot.id)
    else match slot.kernels.find? (· ∉ kernels) with
      | some name => .error (.unknownKernel slot.id name)
      | none => checkSlots kernels slots (slot.id :: taken) rest

def check (configuration : Configuration) : Except Fault Unit := do
  if configuration.projectName = "" then throw .noProjectName
  if configuration.platform.board = [] then throw .noBoard
  checkKernels [] configuration.kernels
  checkSlots (configuration.kernels.map Kernel.name) configuration.shuffler.slots []
    configuration.slots

end KernelExport.Configuration
