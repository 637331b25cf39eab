/-
This file says that a kernel has the numbers that its configuration announces exactly when its
source gives no warning.

Templates see the ports of a kernel by four things: the counts NUMREGS and MEMBANKS, and the numbers
in the records of REGS and PORTS. Both ways to describe a kernel number its ports from zero, so the
numbers agree when the counts do; and the counts are what the warnings compare.
-/

import KernelExport.Proofs.Layout

namespace KernelExport

/-! ### Template variables -/

namespace Value

/-- What the records of a list hold under a name. -/
def column? (value : Value) (name : String) : Option (List (Option Value)) :=
  value.list?.map fun records => records.map (·.field? name)

theorem ofNat_injective : Function.Injective ofNat := by
  intro first second same
  exact Int.ofNat.inj (Value.integer.inj same)

end Value

namespace KernelDescriptor

variable (descriptor : KernelDescriptor)

/-- What a template variable says about the kernel. -/
def value? (name : String) : Option Value :=
  descriptor.toValue.field? name

/-- What the records in a variable hold under a name. -/
def column? (name field : String) : Option (List (Option Value)) :=
  (descriptor.value? name).bind (·.column? field)

theorem value?_ports :
    descriptor.value? "NUMREGS" = some (.ofNat descriptor.registers.length) ∧
    descriptor.value? "MEMBANKS" = some (.ofNat descriptor.banks.length) ∧
    descriptor.value? "REGS" = some (portValues "rname" "rid" descriptor.registers) ∧
    descriptor.value? "PORTS" = some (portValues "pname" "pid" descriptor.banks) := by
  obtain ⟨_, _, _, _, _, _, includes, files, _, _, _, _⟩ := descriptor
  cases includes <;> cases files <;> exact ⟨rfl, rfl, rfl, rfl⟩

theorem column?_portValues {nameField indexField : String} (distinct : indexField ≠ nameField)
    (ports : List NumberedPort) :
    (portValues nameField indexField ports).column? indexField =
      some (ports.map fun port => some (.ofNat port.index)) := by
  have other : (indexField == nameField) = false := beq_eq_false_iff_ne.2 distinct
  simp only [portValues, Value.column?, Value.list?, Option.map_some, List.map_map]
  congr 1
  refine List.map_congr_left fun port _ => ?_
  obtain ⟨_ | name, index⟩ := port
  · simp [Value.field?]
  · simp [Value.field?, List.lookup_cons, other]

/-! ### Ports in order -/

/-- The numbers of ports are 0, 1, and so on. -/
def InOrder (ports : List NumberedPort) : Prop :=
  ports.map NumberedPort.index = List.range ports.length

@[simp] theorem length_unnamed (count : Nat) : (unnamed count).length = count := by
  simp [unnamed]

@[simp] theorem length_named (ports : List PlacedPort) : (named ports).length = ports.length := by
  simp [named]

theorem inOrder_unnamed (count : Nat) : InOrder (unnamed count) := by
  simp [InOrder, unnamed, Function.comp_def]

theorem inOrder_named_number (ports : List Port) : InOrder (named (PortLayout.number ports)) := by
  refine List.ext_getElem (by simp) fun index inside _ => ?_
  simp [named, PortLayout.number]

/-- The ports of a descriptor are numbered as templates expect it: as many from zero as the count
of the ports says. -/
structure Numbered : Prop where
  registers : InOrder descriptor.registers
  banks : InOrder descriptor.banks

theorem numbered_structural (kernel : Kernel) (part : String) (directory : Path)
    (files : List String) : (structural kernel part directory files).Numbered :=
  ⟨inOrder_unnamed _, inOrder_unnamed _⟩

theorem numbered_synthesized (kernel : Kernel) (part : String) (directory : Path)
    (files : List String) (declaration : Declaration) :
    (synthesized kernel part directory files (kernel.interfaceOf declaration)).Numbered :=
  ⟨inOrder_named_number _, inOrder_named_number _⟩

/-- The numbers of ports in order are known from how many there are. -/
theorem InOrder.values {ports : List NumberedPort} (inOrder : InOrder ports) :
    (ports.map fun port => some (Value.ofNat port.index)) =
      (List.range ports.length).map fun index => some (.ofNat index) := by
  rw [← inOrder, List.map_map]
  rfl

/-- The columns of numbers of a kernel, from its counts. -/
theorem Numbered.columns {descriptor : KernelDescriptor} (numbered : descriptor.Numbered) :
    descriptor.column? "REGS" "rid" =
      some ((List.range descriptor.registers.length).map fun index => some (.ofNat index)) ∧
    descriptor.column? "PORTS" "pid" =
      some ((List.range descriptor.banks.length).map fun index => some (.ofNat index)) := by
  obtain ⟨-, -, registers, banks⟩ := descriptor.value?_ports
  rw [column?, column?, registers, banks, Option.bind_some, Option.bind_some,
    column?_portValues (by decide), column?_portValues (by decide), numbered.registers.values,
    numbered.banks.values]
  exact ⟨rfl, rfl⟩

/-- Two descriptors have the same counts and the same numbers of registers and banks. -/
structure SamePorts (first second : KernelDescriptor) : Prop where
  registers : first.value? "NUMREGS" = second.value? "NUMREGS"
  banks : first.value? "MEMBANKS" = second.value? "MEMBANKS"
  registerNumbers : first.column? "REGS" "rid" = second.column? "REGS" "rid"
  bankNumbers : first.column? "PORTS" "pid" = second.column? "PORTS" "pid"

theorem registers_eq_iff (first second : KernelDescriptor) :
    first.value? "NUMREGS" = second.value? "NUMREGS" ↔
      first.registers.length = second.registers.length := by
  rw [first.value?_ports.1, second.value?_ports.1, Option.some_inj,
    Value.ofNat_injective.eq_iff]

theorem banks_eq_iff (first second : KernelDescriptor) :
    first.value? "MEMBANKS" = second.value? "MEMBANKS" ↔
      first.banks.length = second.banks.length := by
  rw [first.value?_ports.2.1, second.value?_ports.2.1, Option.some_inj,
    Value.ofNat_injective.eq_iff]

/-- Where ports are numbered, the counts decide. -/
theorem samePorts_iff {first second : KernelDescriptor} (firstNumbered : first.Numbered)
    (secondNumbered : second.Numbered) : first.SamePorts second ↔
      first.registers.length = second.registers.length ∧
        first.banks.length = second.banks.length := by
  constructor
  · intro same
    exact ⟨(registers_eq_iff first second).1 same.registers,
      (banks_eq_iff first second).1 same.banks⟩
  · rintro ⟨registers, banks⟩
    obtain ⟨firstRegisters, firstBanks⟩ := firstNumbered.columns
    obtain ⟨secondRegisters, secondBanks⟩ := secondNumbered.columns
    refine ⟨(registers_eq_iff first second).2 registers, (banks_eq_iff first second).2 banks, ?_, ?_⟩
    · rw [firstRegisters, secondRegisters, registers]
    · rw [firstBanks, secondBanks, banks]

end KernelDescriptor

/-! ### Warnings -/

namespace PortLayout

theorem length_number (ports : List Port) : (number ports).length = ports.length := by
  simp [number]

theorem length_sortByName (ports : List Port) : (sortByName ports).length = ports.length :=
  List.length_mergeSort ports

theorem length_group (ports : List Port) (role : Role) :
    (group ports role).length = ports.countP (·.role == role) :=
  List.countP_eq_length_filter.symm

/-- The registers are the ports that are declared as one. -/
theorem length_registers_ofPorts (ports : List Port) :
    (ofPorts ports).registers.length = ports.countP (·.role == .register) := by
  rw [ofPorts, length_number, length_sortByName, length_group]

/-- The memory banks are all other ports. -/
theorem length_memory_ofPorts (ports : List Port) :
    (ofPorts ports).memory.length = ports.countP (·.role != .register) := by
  simp only [ofPorts, length_number, List.length_append, length_sortByName, length_group]
  induction ports with
  | nil => rfl
  | cons port rest inductionHypothesis =>
    obtain ⟨role, _, _⟩ := port
    simp only [List.countP_cons]
    rw [← inductionHypothesis]
    cases role <;> simp <;> omega

/-- The codes of the warnings about a layout. -/
theorem codes_warnings (layout : PortLayout) (kernel : Kernel) :
    (layout.warnings kernel).map Diagnostic.code =
      (if layout.registers.length = kernel.registers then [] else [.registersMismatch]) ++
        (if layout.memory.length = kernel.memoryBanks then [] else [.banksMismatch]) := by
  rw [warnings, List.map_append]
  congr 1 <;> split <;> rfl

end PortLayout

namespace KernelDescriptor

/-- The source of a kernel gives no warning exactly when the kernel described by its source has the
counts and the numbers of registers and banks that it has by its configuration. Otherwise each count
that differs gives one warning, that of the registers first. Either way the numbers are those below
the counts, in order. -/
theorem warnings_eq_nil_iff_samePorts {kernel : Kernel} {source : String} {interface : Interface}
    (compiled : kernel.interface source = .ok interface) (part : String)
    (parsedDirectory declaredDirectory : Path) (parsedFiles declaredFiles : List String) :
    let parsed := synthesized kernel part parsedDirectory parsedFiles interface
    let declared := structural kernel part declaredDirectory declaredFiles
    let codes := interface.warnings.map Diagnostic.code
    (interface.warnings = [] ↔ parsed.SamePorts declared) ∧
    (codes.count .registersMismatch = 1 ↔
      parsed.value? "NUMREGS" ≠ declared.value? "NUMREGS") ∧
    (codes.count .banksMismatch = 1 ↔
      parsed.value? "MEMBANKS" ≠ declared.value? "MEMBANKS") ∧
    codes.Sublist [.registersMismatch, .banksMismatch] ∧
    ∀ descriptor ∈ [parsed, declared], ∃ registers banks : Nat,
      descriptor.value? "NUMREGS" = some (.ofNat registers) ∧
      descriptor.value? "MEMBANKS" = some (.ofNat banks) ∧
      descriptor.column? "REGS" "rid" =
        some ((List.range registers).map fun index => some (.ofNat index)) ∧
      descriptor.column? "PORTS" "pid" =
        some ((List.range banks).map fun index => some (.ofNat index)) := by
  obtain ⟨declaration, -, rfl⟩ := Kernel.exists_read_of_interface compiled
  intro parsed declared codes
  have parsedNumbered : parsed.Numbered := numbered_synthesized ..
  have declaredNumbered : declared.Numbered := numbered_structural ..
  -- The counts of the two descriptors are those that the warnings compare.
  have registers : (parsed.registers.length = declared.registers.length) =
      ((PortLayout.ofPorts declaration.ports).registers.length = kernel.registers) := by
    simp [parsed, declared, synthesized, structural, Kernel.interfaceOf]
  have banks : (parsed.banks.length = declared.banks.length) =
      ((PortLayout.ofPorts declaration.ports).memory.length = kernel.memoryBanks) := by
    simp [parsed, declared, synthesized, structural, Kernel.interfaceOf]
  have written : codes =
      (if parsed.registers.length = declared.registers.length then []
        else [.registersMismatch]) ++
      (if parsed.banks.length = declared.banks.length then [] else [.banksMismatch]) := by
    simp only [registers, banks]
    exact PortLayout.codes_warnings ..
  have none : (kernel.interfaceOf declaration).warnings = [] ↔ codes = [] :=
    List.map_eq_nil_iff.symm
  rw [none, samePorts_iff parsedNumbered declaredNumbered, Ne, Ne, registers_eq_iff, banks_eq_iff,
    written]
  refine ⟨?_, ?_, ?_, ?_, ?_⟩
  · split <;> split <;> simp_all
  · split <;> split <;> simp_all <;> decide
  · split <;> split <;> simp_all <;> decide
  · split <;> split <;> decide
  · intro descriptor member
    have numbered : descriptor.Numbered := by
      rcases List.mem_cons.1 member with rfl | member
      · exact parsedNumbered
      · exact List.mem_singleton.1 member ▸ declaredNumbered
    obtain ⟨registers, banks, -, -⟩ := descriptor.value?_ports
    exact ⟨_, _, registers, banks, numbered.columns⟩

/-- A kernel that is configured with one register more than its source declares gets the warning
about registers, and is described with other ports by its source than by its configuration. -/
theorem warnings_eq_nil_iff_samePorts_adder :
    let kernel : Kernel := { adder with registers := 2 }
    ∃ interface, kernel.interface "A3_KERNEL(a3in_t b, a3reg_t n, a3in_t a)" = .ok interface ∧
      interface.warnings.map Diagnostic.code = [.registersMismatch] ∧
      ¬ (synthesized kernel "xc7z020" .root ["adder.cpp"] interface).SamePorts
        (structural kernel "xc7z020" .root ["adder.vhd"]) := by
  intro kernel
  have read : Declaration.read "A3_KERNEL(a3in_t b, a3reg_t n, a3in_t a)" =
      .ok ⟨["a3in_t b", "a3reg_t n", "a3in_t a"],
        [⟨.input, "b", 10⟩, ⟨.register, "n", 20⟩, ⟨.input, "a", 31⟩], 0⟩ := by decide
  have compiled := kernel.interface_of_read read
  have codes := PortLayout.codes_warnings (PortLayout.ofPorts
    [⟨.input, "b", 10⟩, ⟨.register, "n", 20⟩, ⟨.input, "a", 31⟩]) kernel
  rw [PortLayout.length_registers_ofPorts, PortLayout.length_memory_ofPorts] at codes
  refine ⟨_, compiled, codes, fun same => ?_⟩
  have none := (warnings_eq_nil_iff_samePorts compiled "xc7z020" .root .root ["adder.cpp"]
    ["adder.vhd"]).1.2 same
  rw [← List.map_eq_nil_iff (f := Diagnostic.code)] at none
  cases codes.symm.trans none

end KernelDescriptor

end KernelExport
