/-
This file says that the description of a kernel has the ports that its source declares, each of them
once and under its name.

The names of the arguments are identifiers, so the text that joins them by `, ` can be cut at `, `
again. Laying ports out by their roles is a permutation, and tells registers from memory banks. The
words of a memory bank follow from the configuration alone.
-/

import KernelExport.Proofs.Grammar
import KernelExport.Proofs.Numbering
import Mathlib.Order.Bounds.Defs

namespace KernelExport

/-! ### Lists in a text -/

namespace Text

/-- The pieces between the occurrences of a mark, found from left to right. So many characters are left
of a mark that has been found; they are passed over. -/
def piecesAround (mark : List Char) (left : Nat) : List Char → List (List Char)
  | [] => [[]]
  | character :: rest =>
    match left with
    | left + 1 => piecesAround mark left rest
    | 0 =>
      if mark.isPrefixOf (character :: rest) then [] :: piecesAround mark (mark.length - 1) rest
      else (piecesAround mark 0 rest).modifyHead (character :: ·)

/-- A text cut at each occurrence of a mark. -/
def splitAt (mark text : String) : List String :=
  (piecesAround mark.toList 0 text.toList).map String.ofList

variable {start : Char}

theorem piecesAround_append_left (mark behind rest : List Char) :
    piecesAround mark behind.length (behind ++ rest) = piecesAround mark 0 rest := by
  induction behind with
  | nil => rfl
  | cons character behind inductionHypothesis => exact inductionHypothesis

/-- No mark is found up to the next character that marks start with. -/
theorem piecesAround_append_plain (behind rest : List Char) {piece : List Char}
    (plain : start ∉ piece) :
    piecesAround (start :: behind) 0 (piece ++ rest) =
      (piecesAround (start :: behind) 0 rest).modifyHead (piece ++ ·) := by
  induction piece with
  | nil => exact (congrFun List.modifyHead_id _).symm
  | cons character piece inductionHypothesis =>
    rw [List.mem_cons, not_or] at plain
    have unmarked : ¬(start :: behind).isPrefixOf (character :: (piece ++ rest)) = true := by
      rw [List.isPrefixOf_iff_prefix, List.cons_prefix_cons]
      exact fun marked => plain.1 marked.1
    rw [List.cons_append, piecesAround, if_neg unmarked, inductionHypothesis plain.2,
      List.modifyHead_modifyHead]
    rfl

theorem piecesAround_mark_append (behind rest : List Char) :
    piecesAround (start :: behind) 0 (start :: behind ++ rest) =
      [] :: piecesAround (start :: behind) 0 rest := by
  have marked : (start :: behind).isPrefixOf (start :: (behind ++ rest)) = true :=
    List.isPrefixOf_iff_prefix.2 (List.prefix_append (start :: behind) rest)
  rw [List.cons_append, piecesAround, if_pos marked]
  exact congrArg _ (piecesAround_append_left _ behind rest)

/-- Parts without the character that the mark starts with are what their joined text is cut into. -/
theorem splitAt_intercalate {mark : String} {behind : List Char}
    (starts : mark.toList = start :: behind) {parts : List String} (written : parts ≠ [])
    (plain : ∀ part ∈ parts, start ∉ part.toList) :
    splitAt mark (mark.intercalate parts) = parts := by
  rw [splitAt, starts]
  induction parts with
  | nil => exact absurd rfl written
  | cons part others inductionHypothesis =>
    obtain ⟨here, further⟩ := List.forall_mem_cons.1 plain
    by_cases last : others = []
    · rw [last, String.intercalate_singleton, ← List.append_nil part.toList,
        piecesAround_append_plain behind [] here]
      simp [piecesAround]
    · rw [String.intercalate_cons_of_ne_nil last, String.toList_append, String.toList_append, starts,
        List.append_assoc, piecesAround_append_plain behind _ here, piecesAround_mark_append,
        List.modifyHead_cons, List.append_nil, List.map_cons]
      exact congrArg₂ _ String.ofList_toList (inductionHypothesis last further)

end Text

/-! ### Layouts -/

namespace PortLayout

theorem count_group (ports : List Port) (role : Role) (port : Port) :
    (group ports role).count port = if port.role = role then ports.count port else 0 := by
  split
  · rename_i here
    exact List.count_filter (beq_iff_eq.2 here)
  · rename_i elsewhere
    refine List.count_eq_zero_of_not_mem fun member => elsewhere ?_
    exact beq_iff_eq.1 (List.mem_filter.1 member).2

/-- Every port is in one of the groups. -/
theorem perm_groups (ports : List Port) :
    (group ports .register ++ (group ports .constant ++ group ports .input ++
      group ports .bidirectional ++ group ports .output)).Perm ports := by
  rw [List.perm_iff_count]
  rintro ⟨role, name, offset⟩
  simp only [List.count_append, count_group]
  cases role <;> simp

theorem map_token_number (ports : List Port) :
    (number ports).map (fun port => (port.role, port.name)) = ports.map Port.token := by
  rw [number_eq, List.map_map]
  exact List.zipIdx_map_fst 0 _

theorem perm_sortByName (ports : List Port) : (sortByName ports).Perm ports :=
  List.mergeSort_perm ports _

/-- The ports in registers and in memory banks are those that are laid out. -/
theorem perm_ofPorts (ports : List Port) :
    (((ofPorts ports).registers ++ (ofPorts ports).memory).map fun port =>
      (port.role, port.name)).Perm (ports.map Port.token) := by
  rw [List.map_append, ofPorts, map_token_number, map_token_number, ← List.map_append]
  refine .map _ (.trans ?_ (perm_groups ports))
  exact (perm_sortByName _).append ((((List.Perm.refl _).append (perm_sortByName _)).append
    (perm_sortByName _)).append (perm_sortByName _))

/-- A name is that of a register if a register is declared by it. -/
theorem mem_registers_ofPorts {ports : List Port} {name : String} :
    name ∈ (ofPorts ports).registers.map PlacedPort.name ↔
      (Role.register, name) ∈ ports.map Port.token := by
  have perm : ((ofPorts ports).registers.map fun port => (port.role, port.name)).Perm
      ((ports.map Port.token).filter (·.1 == .register)) := by
    rw [ofPorts, map_token_number, ← map_token_group]
    exact (perm_sortByName _).map _
  have registers : ∀ token, token ∈ (ofPorts ports).registers.map (fun port => (port.role, port.name)) ↔
      token ∈ ports.map Port.token ∧ token.1 = .register := fun token => by
    rw [perm.mem_iff, List.mem_filter, beq_iff_eq]
  constructor
  · intro member
    obtain ⟨port, isRegister, rfl⟩ := List.mem_map.1 member
    obtain ⟨declared, role⟩ := (registers _).1 (List.mem_map.2 ⟨port, isRegister, rfl⟩)
    exact role ▸ declared
  · intro declared
    obtain ⟨port, isRegister, same⟩ := List.mem_map.1 ((registers _).2 ⟨declared, rfl⟩)
    exact List.mem_map.2 ⟨port, isRegister, (Prod.mk.inj same).2⟩

end PortLayout

/-! ### Arguments -/

namespace Declaration

/-- The list of the names can be cut into them again. -/
theorem splitAt_names {code : List Char} {arguments : List (List Char)} {declaration : Declaration}
    (isDeclaration : IsDeclaration code arguments declaration.tokens) :
    Text.splitAt ", " declaration.names = declaration.tokens.map Prod.snd := by
  have written : declaration.tokens.map Prod.snd ≠ [] :=
    fun none => isDeclaration.tokens_ne_nil (List.map_eq_nil_iff.1 none)
  rw [names_eq]
  refine Text.splitAt_intercalate rfl written fun name member => ?_
  obtain ⟨token, isToken, rfl⟩ := List.mem_map.1 member
  exact Text.not_mem_of_isIdentifier (isDeclaration.isIdentifier token isToken) (by decide)

end Declaration

/-! ### Memory -/

/-- A memory bank holds as many words as go into the configured memory, shared among the banks. -/
theorem Kernel.isGreatest_wordsPerBank {kernel : Kernel} (banks : kernel.memoryBanks ≠ 0) :
    IsGreatest {words | 4 * words * kernel.memoryBanks ≤ kernel.memoryBytes} kernel.wordsPerBank := by
  have fits : ∀ words, 4 * words * kernel.memoryBanks ≤ kernel.memoryBytes ↔
      words ≤ kernel.wordsPerBank := fun words => by
    rw [wordsPerBank, Nat.le_div_iff_mul_le (by decide), Nat.le_div_iff_mul_le (Nat.pos_of_ne_zero banks),
      Nat.mul_comm 4 words]
  exact ⟨(fits _).2 le_rfl, fun words isFitting => (fits words).1 isFitting⟩

/-! ### Descriptors -/

namespace KernelDescriptor

/-- The names that the records of ports hold. -/
theorem column?_names {nameField indexField : String} (ports : List PlacedPort) :
    (portValues nameField indexField (named ports)).column? nameField =
      some ((ports.map PlacedPort.name).map fun name => some (.text name)) := by
  simp only [portValues, named, Value.column?, Value.list?, Option.map_some, List.map_map]
  congr 1
  refine List.map_congr_left fun port _ => ?_
  simp [Value.field?]

theorem value?_declared {descriptor : KernelDescriptor} {words : Nat} {names : String}
    (isWords : descriptor.wordsPerBank = some words) (areNames : descriptor.arguments = some names) :
    descriptor.value? "MEMPOS" = some (.ofNat words) ∧
      descriptor.value? "ARGS" = some (.text names) := by
  obtain ⟨_, _, _, _, _, _, includes, files, _, _, _, _⟩ := descriptor
  obtain rfl := isWords
  obtain rfl := areNames
  cases includes <;> cases files <;> exact ⟨rfl, rfl⟩

/-- What templates learn about the names of ports: those in the records of registers and of banks, the
text that lists the arguments, and how many registers and banks there are. -/
structure Names (descriptor : KernelDescriptor) (registers banks : List String)
    (arguments : String) : Prop where
  registerCount : descriptor.value? "NUMREGS" = some (.ofNat registers.length)
  bankCount : descriptor.value? "MEMBANKS" = some (.ofNat banks.length)
  registers : descriptor.column? "REGS" "rname" =
    some (registers.map fun name => some (.text name))
  banks : descriptor.column? "PORTS" "pname" = some (banks.map fun name => some (.text name))
  arguments : descriptor.value? "ARGS" = some (.text arguments)

theorem names_synthesized (kernel : Kernel) (part : String) (directory : Path) (files : List String)
    (declaration : Declaration) :
    (synthesized kernel part directory files (kernel.interfaceOf declaration)).Names
      ((PortLayout.ofPorts declaration.ports).registers.map PlacedPort.name)
      ((PortLayout.ofPorts declaration.ports).memory.map PlacedPort.name) declaration.names := by
  obtain ⟨registerCount, bankCount, registers, banks⟩ :=
    (synthesized kernel part directory files (kernel.interfaceOf declaration)).value?_ports
  refine ⟨?_, ?_, ?_, ?_, (value?_declared rfl rfl).2⟩
  · rw [registerCount, List.length_map]
    exact congrArg (fun count => some (Value.ofNat count)) (length_named _)
  · rw [bankCount, List.length_map]
    exact congrArg (fun count => some (Value.ofNat count)) (length_named _)
  · rw [column?, registers]
    exact column?_names _
  · rw [column?, banks]
    exact column?_names _

/-- The description of a kernel names the ports that its source declares: the names of the registers and
of the banks are those between the commas of the arguments, in another order, and none of them occurs
twice. The registers are the ports of that role. The words of a bank follow from the configuration. -/
theorem synthesized_names {kernel : Kernel} {source : String} {interface : Interface}
    (compiled : kernel.interface source = .ok interface) (part : String) (directory : Path)
    (files : List String) :
    let descriptor := synthesized kernel part directory files interface
    let declared := interface.declaration.tokens
    (∃ registers banks arguments, descriptor.Names registers banks arguments ∧
      (registers ++ banks).Nodup ∧
      (registers ++ banks).Perm (Text.splitAt ", " arguments) ∧
      Text.splitAt ", " arguments = declared.map Prod.snd ∧
      (∀ name, name ∈ registers ↔ (Role.register, name) ∈ declared) ∧
      registers.length + banks.length = interface.declaration.arguments.length) ∧
    ∃ words : Nat, descriptor.value? "MEMPOS" = some (.ofNat words) ∧
      (kernel.memoryBanks = 0 → words = 0) ∧
      (kernel.memoryBanks ≠ 0 →
        IsGreatest {words | 4 * words * kernel.memoryBanks ≤ kernel.memoryBytes} words) := by
  obtain ⟨declaration, read, rfl⟩ := Kernel.exists_read_of_interface compiled
  intro descriptor declared
  obtain ⟨arguments, isDeclaration, written⟩ := Declaration.isDeclaration_of_read read
  have cut := Declaration.splitAt_names isDeclaration
  have perm : ((PortLayout.ofPorts declaration.ports).registers.map PlacedPort.name ++
      (PortLayout.ofPorts declaration.ports).memory.map PlacedPort.name).Perm
        (declared.map Prod.snd) := by
    have placed := (PortLayout.perm_ofPorts declaration.ports).map Prod.snd
    rw [List.map_map] at placed
    rw [← List.map_append]
    exact placed
  refine ⟨⟨_, _, _, names_synthesized kernel part directory files declaration, ?_, ?_, cut, ?_, ?_⟩,
    kernel.wordsPerBank, (value?_declared rfl rfl).1, Kernel.wordsPerBank_of_no_banks,
    Kernel.isGreatest_wordsPerBank⟩
  · exact perm.nodup_iff.2 isDeclaration.distinct
  · rw [cut]
    exact perm
  · exact fun name => PortLayout.mem_registers_ofPorts
  · rw [← List.length_append, perm.length_eq, List.length_map]
    exact written.length_eq.symm

/-- An adder with a constant and an output: names of registers and banks are sorted, those of the
arguments are not, and of 66 bytes each of four banks gets four words. -/
theorem synthesized_names_adder :
    let kernel : Kernel := { adder with memoryBytes := 66, memoryBanks := 4 }
    ∃ interface, kernel.interface
        "A3_KERNEL(a3in_t b, a3out_t sum, a3reg_t n, a3in_t a, a3const_t k)" = .ok interface ∧
      interface.declaration.names = "b, sum, n, a, k" ∧
      Text.splitAt ", " "b, sum, n, a, k" = ["b", "sum", "n", "a", "k"] ∧
      (synthesized kernel "xc7z020" .root ["adder.cpp"] interface).value? "MEMPOS" =
        some (.ofNat 4) ∧
      IsGreatest {words | 4 * words * 4 ≤ 66} 4 := by
  intro kernel
  have read : Declaration.read
      "A3_KERNEL(a3in_t b, a3out_t sum, a3reg_t n, a3in_t a, a3const_t k)" =
        .ok ⟨["a3in_t b", "a3out_t sum", "a3reg_t n", "a3in_t a", "a3const_t k"],
          [⟨.input, "b", 10⟩, ⟨.output, "sum", 20⟩, ⟨.register, "n", 33⟩, ⟨.input, "a", 44⟩,
            ⟨.constant, "k", 54⟩], 0⟩ := by decide +kernel
  have compiled := kernel.interface_of_read read
  obtain ⟨⟨registers, banks, arguments, names, -, -, cut, -, -⟩, words, isWords, -, greatest⟩ :=
    synthesized_names compiled "xc7z020" .root ["adder.cpp"]
  obtain rfl : arguments = "b, sum, n, a, k" :=
    Value.text.inj (Option.some.inj (names.arguments.symm.trans (value?_declared rfl rfl).2))
  obtain rfl : words = 4 := by
    have configured : words = kernel.wordsPerBank :=
      Value.ofNat_injective (Option.some.inj (isWords.symm.trans (value?_declared rfl rfl).1))
    rw [configured]
    decide
  exact ⟨_, compiled, by decide +kernel, cut, isWords, greatest (by decide)⟩

end KernelDescriptor

end KernelExport
