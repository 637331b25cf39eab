/-
This file says in which order the ports of a kernel are laid out.

Registers, inputs, bidirectional ports and outputs are groups in the order of their names, by the
bytes of the names; the constants keep the order of their declaration. A layout numbers its ports by
their places, and each port has one place in it.
-/

import KernelExport.Proofs.ByteOrder
import KernelExport.Proofs.PortNames

namespace KernelExport

/-- The role and the name of a port in its place. -/
def PlacedPort.token (port : PlacedPort) : Role × String := (port.role, port.name)

namespace PortLayout

/-- The tokens are those of the role among the ports, in the order of the bytes of their names. -/
structure Group (ports : List Port) (role : Role) (tokens : List (Role × String)) : Prop where
  perm : tokens.Perm ((ports.map Port.token).filter (·.1 == role))
  sorted : tokens.Pairwise fun first second => Text.bytes first.2 ≤ Text.bytes second.2

theorem group_sortByName (ports : List Port) (role : Role) :
    Group ports role ((sortByName (group ports role)).map Port.token) := by
  constructor
  · rw [← map_token_group]
    exact (perm_sortByName _).map _
  · rw [map_token_sortByName]
    refine (pairwise_mergeSort_byName _).imp fun ordered => ?_
    exact Text.bytes_le_iff.2 (of_decide_eq_true ordered)

/-- Ports have the numbers of their places. -/
theorem index_number {ports : List Port} {index : Nat} {port : PlacedPort}
    (here : (number ports)[index]? = some port) : port.index = index := by
  simp only [number, List.getElem?_map, List.getElem?_zipIdx, Option.map_eq_some_iff] at here
  obtain ⟨_, ⟨_, -, rfl⟩, rfl⟩ := here
  exact Nat.zero_add index

/-- The registers are in the order of their names. In the memory the constants come first, in the
order of their declaration, then the inputs, the bidirectional ports and the outputs, each in the
order of their names. Each port is numbered by its place, and each declared port has one place. -/
theorem ofPorts_canonical (ports : List Port) :
    Group ports .register ((ofPorts ports).registers.map PlacedPort.token) ∧
    (∃ inputs bidirectional outputs, Group ports .input inputs ∧
      Group ports .bidirectional bidirectional ∧ Group ports .output outputs ∧
      (ofPorts ports).memory.map PlacedPort.token =
        (ports.map Port.token).filter (·.1 == .constant) ++ inputs ++ bidirectional ++ outputs) ∧
    (∀ (index : Nat) (port : PlacedPort),
      (ofPorts ports).registers[index]? = some port → port.index = index) ∧
    (∀ (index : Nat) (port : PlacedPort),
      (ofPorts ports).memory[index]? = some port → port.index = index) ∧
    (((ofPorts ports).registers ++ (ofPorts ports).memory).map PlacedPort.token).Perm
      (ports.map Port.token) := by
  refine ⟨?_, ⟨_, _, _, group_sortByName .., group_sortByName .., group_sortByName .., ?_⟩,
    fun _ _ => index_number, fun _ _ => index_number, perm_ofPorts ports⟩
  · have tokens : (ofPorts ports).registers.map PlacedPort.token =
        (sortByName (group ports .register)).map Port.token := map_token_number _
    rw [tokens]
    exact group_sortByName ports .register
  · have tokens : (ofPorts ports).memory.map PlacedPort.token = (group ports .constant ++
        sortByName (group ports .input) ++ sortByName (group ports .bidirectional) ++
        sortByName (group ports .output)).map Port.token := map_token_number _
    rw [tokens, List.map_append, List.map_append, List.map_append, map_token_group]

end PortLayout

end KernelExport
