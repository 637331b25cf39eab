/-
This file proves that the registers and the memory banks of a kernel do not depend on the order in
which its source lists the ports.

What a layout holds is decided by the roles and the names of the ports (`token`). Sorting by name
makes one list of all orders of a group, since two ports of one role and one name are the same
token; only the constants, which are not sorted, keep the order of the source. So a permutation
that leaves the constants in their relative order leaves the layout as it is, and with it all that
templates learn about the kernel except the list of its arguments.
-/

import KernelExport.Descriptor
import Mathlib.Data.List.Sort
import Mathlib.Data.String.Basic

namespace KernelExport

/-! ### Tokens -/

/-- The role and the name of a port. -/
def Port.token (port : Port) : Role × String := (port.role, port.name)

namespace PortLayout

/-- The order of tokens by their names. -/
def byName (first second : Role × String) : Bool := first.2 ≤ second.2

theorem number_eq (ports : List Port) :
    number ports = (ports.map Port.token).zipIdx.map fun (token, index) =>
      ⟨token.1, token.2, index⟩ := by
  rw [List.zipIdx_map, List.map_map]
  rfl

theorem map_token_group (ports : List Port) (role : Role) :
    (group ports role).map Port.token = (ports.map Port.token).filter (·.1 == role) := by
  rw [List.filter_map]
  rfl

theorem map_token_sortByName (ports : List Port) :
    (sortByName ports).map Port.token = (ports.map Port.token).mergeSort byName :=
  List.map_mergeSort fun _ _ _ _ => rfl

theorem pairwise_mergeSort_byName (tokens : List (Role × String)) :
    (tokens.mergeSort byName).Pairwise (byName · ·) := by
  have transitive : ∀ a b c : Role × String, byName a b → byName b c → byName a c := by
    intro a b c ab bc
    simp only [byName, decide_eq_true_eq] at ab bc ⊢
    exact le_trans ab bc
  have total : ∀ a b : Role × String, (byName a b || byName b a) = true := by
    intro a b
    simp only [byName, Bool.or_eq_true, decide_eq_true_eq]
    exact le_total a.2 b.2
  exact List.pairwise_mergeSort transitive total tokens

/-- All orders of a group are sorted into one. -/
theorem mergeSort_byName_of_perm {first second : List (Role × String)} (role : Role)
    (group : ∀ token ∈ first, token.1 = role) (permuted : second.Perm first) :
    second.mergeSort byName = first.mergeSort byName := by
  refine List.Perm.eq_of_pairwise ?_ (pairwise_mergeSort_byName second)
    (pairwise_mergeSort_byName first)
    ((second.mergeSort_perm byName).trans (permuted.trans (first.mergeSort_perm byName).symm))
  intro a b aMember bMember ab ba
  simp only [byName, decide_eq_true_eq] at ab ba
  rw [List.mem_mergeSort] at aMember bMember
  exact Prod.ext ((group a (permuted.mem_iff.1 aMember)).trans (group b bMember).symm)
    (le_antisymm ab ba)

/-- A layout does not depend on the order of the ports, but for that of the constants. -/
theorem ofPorts_eq_of_perm {first second : List Port}
    (permuted : (second.map Port.token).Perm (first.map Port.token))
    (constants : (second.map Port.token).filter (·.1 == .constant) =
      (first.map Port.token).filter (·.1 == .constant)) :
    ofPorts second = ofPorts first := by
  have sorted : ∀ role, (sortByName (group second role)).map Port.token =
      (sortByName (group first role)).map Port.token := by
    intro role
    rw [map_token_sortByName, map_token_sortByName, map_token_group, map_token_group]
    refine mergeSort_byName_of_perm role ?_ (permuted.filter _)
    intro token member
    exact eq_of_beq (List.mem_filter.1 member).2
  rw [← map_token_group, ← map_token_group] at constants
  simp only [ofPorts, number_eq, List.map_append, sorted, constants]

end PortLayout

/-! ### Descriptors -/

namespace Kernel

/-- The interface with a declaration; all the rest of it follows from the declared ports. -/
def interfaceOf (kernel : Kernel) (declaration : Declaration) : Interface where
  declaration
  layout := PortLayout.ofPorts declaration.ports
  warnings := (PortLayout.ofPorts declaration.ports).warnings kernel
  wordsPerBank := kernel.wordsPerBank

theorem interface_of_read (kernel : Kernel) {source : String} {declaration : Declaration}
    (read : Declaration.read source = .ok declaration) :
    kernel.interface source = .ok (kernel.interfaceOf declaration) := by
  rw [interface, read]
  rfl

/-- An interface is compiled from a source whose declaration is read. -/
theorem exists_read_of_interface {kernel : Kernel} {source : String} {interface : Interface}
    (compiled : kernel.interface source = .ok interface) : ∃ declaration,
      Declaration.read source = .ok declaration ∧ interface = kernel.interfaceOf declaration := by
  cases read : Declaration.read source with
  | error fault =>
    rw [Kernel.interface, read] at compiled
    cases compiled
  | ok declaration =>
    rw [interface_of_read kernel read] at compiled
    exact ⟨declaration, rfl, (Except.ok.inj compiled).symm⟩

end Kernel

namespace KernelDescriptor

/-- The descriptor without the list of the arguments. -/
def withoutArguments (descriptor : KernelDescriptor) : KernelDescriptor :=
  { descriptor with arguments := none }

/-- Without the arguments a descriptor has all the template variables but one. -/
theorem fields_withoutArguments (descriptor : KernelDescriptor) :
    descriptor.withoutArguments.fields = descriptor.fields.filter (·.1 ≠ "ARGS") := by
  obtain ⟨_, _, _, _, _, _, includes, files, _, _, words, arguments⟩ := descriptor
  cases includes <;> cases files <;> cases words <;> cases arguments <;> rfl

/-- Two sources that declare the same ports, with the constants in the same relative order, give a
kernel the same registers and banks, the same warnings, and the same value for every template
variable but the list of arguments. -/
theorem synthesized_eq_of_perm (kernel : Kernel) (part : String) (directory : Path)
    (files : List String) {first second : String} {firstInterface secondInterface : Interface}
    (firstCompiled : kernel.interface first = .ok firstInterface)
    (secondCompiled : kernel.interface second = .ok secondInterface)
    (permuted : secondInterface.declaration.tokens.Perm firstInterface.declaration.tokens)
    (constants : secondInterface.declaration.tokens.filter (·.1 == .constant) =
      firstInterface.declaration.tokens.filter (·.1 == .constant)) :
    (synthesized kernel part directory files secondInterface).withoutArguments =
      (synthesized kernel part directory files firstInterface).withoutArguments ∧
    (synthesized kernel part directory files secondInterface).fields.filter (·.1 ≠ "ARGS") =
      (synthesized kernel part directory files firstInterface).fields.filter (·.1 ≠ "ARGS") ∧
    secondInterface.warnings = firstInterface.warnings := by
  obtain ⟨firstDeclaration, -, rfl⟩ := Kernel.exists_read_of_interface firstCompiled
  obtain ⟨secondDeclaration, -, rfl⟩ := Kernel.exists_read_of_interface secondCompiled
  have layout : PortLayout.ofPorts secondDeclaration.ports =
      PortLayout.ofPorts firstDeclaration.ports :=
    PortLayout.ofPorts_eq_of_perm permuted constants
  have descriptor :
      (synthesized kernel part directory files
        (kernel.interfaceOf secondDeclaration)).withoutArguments =
      (synthesized kernel part directory files
        (kernel.interfaceOf firstDeclaration)).withoutArguments := by
    simp only [withoutArguments, synthesized, Kernel.interfaceOf, layout]
  refine ⟨descriptor, ?_, ?_⟩
  · rw [← fields_withoutArguments, ← fields_withoutArguments, descriptor]
  · simp only [Kernel.interfaceOf, layout]

/-- A kernel that adds two inputs, for two orders of its ports. -/
def adder : Kernel := ⟨"adder", .hls, 64, 2, 1, .high⟩

/-- Two sources that declare the ports of the kernel in different orders. -/
theorem synthesized_eq_of_swapped : ∃ first second : Interface,
    adder.interface "A3_KERNEL(a3in_t b, a3reg_t n, a3in_t a)" = .ok first ∧
    adder.interface "A3_KERNEL(a3in_t a, a3in_t b, a3reg_t n)" = .ok second ∧
    second.declaration.tokens.Perm first.declaration.tokens ∧
    second.declaration.tokens.filter (·.1 == .constant) =
      first.declaration.tokens.filter (·.1 == .constant) ∧
    (synthesized adder "xc7z020" .root ["adder.cpp"] second).withoutArguments =
      (synthesized adder "xc7z020" .root ["adder.cpp"] first).withoutArguments := by
  have firstRead : Declaration.read "A3_KERNEL(a3in_t b, a3reg_t n, a3in_t a)" =
      .ok ⟨["a3in_t b", "a3reg_t n", "a3in_t a"],
        [⟨.input, "b", 10⟩, ⟨.register, "n", 20⟩, ⟨.input, "a", 31⟩], 0⟩ := by decide
  have secondRead : Declaration.read "A3_KERNEL(a3in_t a, a3in_t b, a3reg_t n)" =
      .ok ⟨["a3in_t a", "a3in_t b", "a3reg_t n"],
        [⟨.input, "a", 10⟩, ⟨.input, "b", 20⟩, ⟨.register, "n", 30⟩], 0⟩ := by decide
  have firstCompiled := adder.interface_of_read firstRead
  have secondCompiled := adder.interface_of_read secondRead
  exact ⟨_, _, firstCompiled, secondCompiled, by decide, by decide,
    (synthesized_eq_of_perm adder "xc7z020" .root ["adder.cpp"] firstCompiled secondCompiled
      (by decide) (by decide)).1⟩

end KernelDescriptor

end KernelExport
