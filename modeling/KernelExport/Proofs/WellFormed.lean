/-
This file says that checking a configuration accepts the well formed ones and no others.

The check goes through the kernels and then through the slots, and remembers what it has met. What it
has met is kept in the statements about each loop: the kernels that are left are new to the names of
the earlier ones, and the slots to their numbers.
-/

import KernelExport.Project.Loading
import KernelExport.Proofs.Steps
import Mathlib.Data.List.Nodup

namespace KernelExport.Configuration

/-- A configuration has what it must have, no two kernels share a name, but for case, and no two slots
a number, and slots refer to slots of the shuffler and to kernels. -/
structure WellFormed (configuration : Configuration) : Prop where
  projectName : configuration.projectName ≠ ""
  board : configuration.platform.board ≠ []
  named : ∀ kernel ∈ configuration.kernels, kernel.name ≠ ""
  distinct : (configuration.kernels.map fun kernel => Text.lowercase kernel.name).Nodup
  inRange : ∀ slot ∈ configuration.slots, slot.id < configuration.shuffler.slots
  numbered : (configuration.slots.map Slot.id).Nodup
  known : ∀ slot ∈ configuration.slots, ∀ name ∈ slot.kernels,
    ∃ kernel ∈ configuration.kernels, kernel.name = name

variable {configuration : Configuration} {kernels : List Kernel} {slots : List Slot}
  {names taken : List String} {count : Nat} {numbers : List Nat}

/-- Kernels are accepted if they have names, each of them new. -/
theorem checkKernels_eq_ok_iff :
    checkKernels taken kernels = .ok () ↔
      (∀ kernel ∈ kernels, kernel.name ≠ "") ∧
        (kernels.map fun kernel => Text.lowercase kernel.name).Nodup ∧
        ∀ kernel ∈ kernels, Text.lowercase kernel.name ∉ taken := by
  induction kernels generalizing taken with
  | nil => simp [checkKernels]
  | cons kernel rest inductionHypothesis =>
    rw [checkKernels]
    split_ifs with unnamed met
    · simp [unnamed]
    · simp [met]
    · rw [inductionHypothesis, List.forall_mem_cons, List.forall_mem_cons, List.map_cons,
        List.nodup_cons, List.mem_map]
      constructor
      · rintro ⟨named, distinct, others⟩
        refine ⟨⟨unnamed, named⟩, ⟨?_, distinct⟩, met, fun other member known =>
          others other member (List.mem_cons_of_mem _ known)⟩
        rintro ⟨other, member, same⟩
        exact others other member (same ▸ List.mem_cons_self)
      · rintro ⟨⟨-, named⟩, ⟨new, distinct⟩, -, others⟩
        refine ⟨named, distinct, fun other member known => ?_⟩
        rcases List.mem_cons.1 known with same | earlier
        · exact new ⟨other, member, same⟩
        · exact others other member earlier

/-- Slots are accepted if they refer to slots of the shuffler and to kernels, and each of them is
new. -/
theorem checkSlots_eq_ok_iff :
    checkSlots names count numbers slots = .ok () ↔
      (∀ slot ∈ slots, slot.id < count) ∧ (slots.map Slot.id).Nodup ∧
        (∀ slot ∈ slots, slot.id ∉ numbers) ∧
        ∀ slot ∈ slots, ∀ name ∈ slot.kernels, name ∈ names := by
  induction slots generalizing numbers with
  | nil => simp [checkSlots]
  | cons slot rest inductionHypothesis =>
    rw [checkSlots]
    split_ifs with beyond met
    · simp [Nat.not_lt.2 beyond]
    · simp [met]
    · cases found : slot.kernels.find? (· ∉ names) with
      | some name =>
        have member := List.mem_of_find?_eq_some found
        have unknown : name ∉ names := by simpa using List.find?_some found
        simp only [reduceCtorEq, List.forall_mem_cons, false_iff]
        exact fun accepted => unknown (accepted.2.2.2.1 name member)
      | none =>
        have known : ∀ name ∈ slot.kernels, name ∈ names := by
          simpa using List.find?_eq_none.1 found
        simp only [inductionHypothesis, List.forall_mem_cons, List.map_cons, List.nodup_cons,
          List.mem_map]
        constructor
        · rintro ⟨inRange, distinct, others, refers⟩
          refine ⟨⟨Nat.not_le.1 beyond, inRange⟩, ⟨?_, distinct⟩, ⟨met, fun other member known =>
            others other member (List.mem_cons_of_mem _ known)⟩, known, refers⟩
          rintro ⟨other, member, same⟩
          exact others other member (same ▸ List.mem_cons_self)
        · rintro ⟨⟨-, inRange⟩, ⟨new, distinct⟩, ⟨-, others⟩, -, refers⟩
          refine ⟨inRange, distinct, fun other member known => ?_, refers⟩
          rcases List.mem_cons.1 known with same | earlier
          · exact new ⟨other, member, same⟩
          · exact others other member earlier

/-- A configuration is well formed if the project has a name and a board, and both loops end well. -/
theorem wellFormed_iff : configuration.WellFormed ↔
    configuration.projectName ≠ "" ∧ configuration.platform.board ≠ [] ∧
      checkKernels [] configuration.kernels = .ok () ∧
      checkSlots (configuration.kernels.map Kernel.name) configuration.shuffler.slots []
        configuration.slots = .ok () := by
  rw [checkKernels_eq_ok_iff, checkSlots_eq_ok_iff]
  constructor
  · rintro ⟨projectName, board, named, distinct, inRange, numbered, known⟩
    exact ⟨projectName, board, ⟨named, distinct, fun _ _ => List.not_mem_nil⟩, inRange, numbered,
      fun _ _ => List.not_mem_nil, fun slot member name listed =>
        List.mem_map.2 (known slot member name listed)⟩
  · rintro ⟨projectName, board, ⟨named, distinct, -⟩, inRange, numbered, -, known⟩
    exact ⟨projectName, board, named, distinct, inRange, numbered, fun slot member name listed =>
      List.mem_map.1 (known slot member name listed)⟩

theorem check_of_unnamed (unnamed : configuration.projectName = "") :
    configuration.check = .error .noProjectName := by
  rw [check, if_pos unnamed]
  rfl

theorem check_of_boardless (named : configuration.projectName ≠ "")
    (boardless : configuration.platform.board = []) : configuration.check = .error .noBoard := by
  rw [check, if_neg named, if_pos boardless]
  rfl

/-- Where the project has a name and a board the loops decide. -/
theorem check_of_named (named : configuration.projectName ≠ "")
    (board : configuration.platform.board ≠ []) :
    configuration.check = (do
      checkKernels [] configuration.kernels
      checkSlots (configuration.kernels.map Kernel.name) configuration.shuffler.slots []
        configuration.slots) := by
  rw [check, if_neg named, if_neg board]

/-- Checking accepts the well formed configurations. -/
theorem check_eq_ok_iff : configuration.check = .ok () ↔ configuration.WellFormed := by
  rw [wellFormed_iff]
  by_cases unnamed : configuration.projectName = ""
  · rw [check_of_unnamed unnamed]
    exact ⟨nofun, fun accepted => absurd unnamed accepted.1⟩
  by_cases boardless : configuration.platform.board = []
  · rw [check_of_boardless unnamed boardless]
    exact ⟨nofun, fun accepted => absurd boardless accepted.2.1⟩
  rw [check_of_named unnamed boardless, bind_eq_ok_iff]
  exact ⟨fun ⟨(), kernels, slots⟩ => ⟨unnamed, boardless, kernels, slots⟩,
    fun ⟨_, _, kernels, slots⟩ => ⟨(), kernels, slots⟩⟩

/-- What is read is well formed. -/
theorem wellFormed_of_read {text : String} (read : Configuration.read text = .ok configuration) :
    configuration.WellFormed := by
  rw [Configuration.read] at read
  split at read
  · rename_i decoded _
    rw [checked] at read
    split at read
    · rename_i accepted
      obtain rfl := Except.ok.inj read
      exact check_eq_ok_iff.1 accepted
    · cases read
  · cases read

end KernelExport.Configuration
