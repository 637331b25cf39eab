/-
This file compares the ports that a kernel declares with the numbers that its configuration
announces. The declaration counts; each number that differs gives one warning.
-/

import KernelExport.Diagnostic.Basic
import KernelExport.Interface.Layout
import KernelExport.Project.Configuration

namespace KernelExport.PortLayout

/-- The warning that a kernel is configured with `configured` of something and declares
`declared`. The thing has one name in messages and one as a field of the configuration. -/
def mismatch (code : Code) (thing field kernel : String) (declared configured : Nat) :
    Diagnostic :=
  (Diagnostic.warning code <|
      "inconsistent use of " ++ thing ++ " (artico3.toml: " ++ toString configured ++
        ") and A3_KERNEL (source: " ++ toString declared ++ "), will generate run-time errors")
    |>.about kernel
    |>.withNote ("generation continues with the parsed count of " ++ toString declared)
    |>.withHelp ("set `" ++ field ++ " = " ++ toString declared ++ "` for kernel '" ++ kernel ++
        "'")

/-- A warning for each number that differs: that of the registers, then that of the memory
banks. -/
def warnings (layout : PortLayout) (kernel : Kernel) : List Diagnostic :=
  (if layout.registers.length = kernel.registers then []
    else [mismatch .registersMismatch "Regs" "regs" kernel.name layout.registers.length
      kernel.registers]) ++
  (if layout.memory.length = kernel.memoryBanks then []
    else [mismatch .banksMismatch "MemBanks" "membanks" kernel.name layout.memory.length
      kernel.memoryBanks])

/-- Each warning says that one of the numbers differs. -/
theorem exists_mismatch_of_mem_warnings {layout : PortLayout} {kernel : Kernel}
    {warning : Diagnostic} (member : warning ∈ layout.warnings kernel) :
    ∃ code thing field declared configured, (code = .registersMismatch ∨ code = .banksMismatch) ∧
      warning = mismatch code thing field kernel.name declared configured := by
  rcases List.mem_append.1 member with registers | banks
  · split at registers
    · cases registers
    · exact ⟨_, _, _, _, _, .inl rfl, List.mem_singleton.1 registers⟩
  · split at banks
    · cases banks
    · exact ⟨_, _, _, _, _, .inr rfl, List.mem_singleton.1 banks⟩

/-- Numbers that differ are no errors. -/
theorem severity_of_mem_warnings {layout : PortLayout} {kernel : Kernel} :
    ∀ warning ∈ layout.warnings kernel, warning.severity = .warning := by
  intro warning member
  obtain ⟨_, _, _, _, _, -, rfl⟩ := exists_mismatch_of_mem_warnings member
  rfl

end KernelExport.PortLayout

namespace KernelExport.Kernel

/-- The words of four bytes that each memory bank holds by the configured numbers. -/
def wordsPerBank (kernel : Kernel) : Nat :=
  kernel.memoryBytes / kernel.memoryBanks / 4

/-- A kernel without banks has no words in a bank. -/
theorem wordsPerBank_of_no_banks {kernel : Kernel} (none : kernel.memoryBanks = 0) :
    kernel.wordsPerBank = 0 := by
  simp [wordsPerBank, none]

end KernelExport.Kernel
