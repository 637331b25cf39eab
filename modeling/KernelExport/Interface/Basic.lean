/-
This file compiles the interface of a kernel from its source: the declaration, the layout of its
ports, the warnings about numbers that differ from the configuration, and the size of its memory
banks.
-/

import KernelExport.Interface.Consistency
import KernelExport.Interface.Declaration

namespace KernelExport

/-- What the source of a kernel says about its interface. -/
structure Interface where
  declaration : Declaration
  layout : PortLayout
  warnings : List Diagnostic
  /-- The words of four bytes in each memory bank, by the configuration. -/
  wordsPerBank : Nat
  deriving DecidableEq, Repr

/-- The interface of a configured kernel with this source. -/
def Kernel.interface (kernel : Kernel) (source : String) : Except DeclarationError Interface := do
  let declaration ← Declaration.read source
  let layout := PortLayout.ofPorts declaration.ports
  pure {
    declaration
    layout
    warnings := layout.warnings kernel
    wordsPerBank := kernel.wordsPerBank }

end KernelExport
