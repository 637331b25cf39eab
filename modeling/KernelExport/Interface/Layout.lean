/-
This file lays out the ports of a kernel: which register and which memory bank each one gets.

Registers are numbered in the order of their names. Memory banks are numbered by role: constants
come first, in the order of their declaration, then inputs, bidirectional ports and outputs, each
in the order of their names. Names are ordered by their bytes, which for text in UTF-8 is the
order by characters.
-/

import KernelExport.Interface.Port

namespace KernelExport

/-- The registers and the memory banks of a kernel, each in the order of its numbers. -/
structure PortLayout where
  registers : List PlacedPort
  memory : List PlacedPort
  deriving DecidableEq, Repr

namespace PortLayout

/-- Ports with the numbers of their places. -/
def number (ports : List Port) : List PlacedPort :=
  ports.zipIdx.map fun (port, index) => ⟨port.role, port.name, index⟩

/-- The ports of a role, in the order of their declaration. -/
def group (ports : List Port) (role : Role) : List Port :=
  ports.filter (·.role == role)

/-- Ports in the order of their names. Ports of one name keep their order. -/
def sortByName (ports : List Port) : List Port :=
  ports.mergeSort fun first second => first.name ≤ second.name

/-- The layout of the ports that a kernel declares. -/
def ofPorts (ports : List Port) : PortLayout where
  registers := number (sortByName (group ports .register))
  memory := number (group ports .constant ++ sortByName (group ports .input) ++
    sortByName (group ports .bidirectional) ++ sortByName (group ports .output))

end PortLayout

end KernelExport
