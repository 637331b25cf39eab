/-
This file says that all that the description of a project refers to is there.

Checking compares the names of kernels in lower case, and looks for a kernel by its very name. Slots
find their kernels by names, and pass over those of no kernel; cores have their names in lower case. In
a well formed configuration all of it comes to the same: a name finds its kernel, nothing is passed
over, and the core of a slot is the core of one kernel (`Configuration.ofConfiguration_integrity`).
-/

import KernelExport.Proofs.CoreNames

namespace KernelExport

theorem Core.injective_prefixed :
    Function.Injective fun lower : String => "a3_" ++ lower :=
  fun _ _ same => (String.append_right_inj _).1 same

/-- A slot holds the core of the first kernel that is listed for it. -/
def FilledSlot.Fills (slot : Slot) (filled : FilledSlot) : Prop :=
  filled.id = slot.id ∧ ∃ name rest, slot.kernels = name :: rest ∧ filled.core = Core.ofKernel name

namespace Configuration

variable {configuration : Configuration} {kernel : Kernel} {slot : Slot} {filled : FilledSlot}

/-- A filled slot is one of the configuration, and holds the core of one of the kernels. -/
theorem exists_of_mem_slots
    (isFilled : filled ∈ (ProjectDescriptor.ofConfiguration configuration).slots) :
    ∃ slot ∈ configuration.slots, ∃ kernel ∈ configuration.kernels,
      filled = ⟨Core.ofKernel kernel.name, slot.id⟩ := by
  obtain ⟨slot, isSlot, found⟩ := List.mem_filterMap.1 isFilled
  obtain ⟨kernel, first, rfl⟩ := Option.map_eq_some_iff.1 found
  obtain ⟨name, -, isKernel⟩ := List.mem_filterMap.1 (List.mem_of_head? first)
  exact ⟨slot, isSlot, kernel, (kernel?_eq_some isKernel).1, rfl⟩

section WellFormed

variable (wellFormed : configuration.WellFormed)

include wellFormed

/-- A kernel is found by its name. -/
theorem WellFormed.kernel?_eq (member : kernel ∈ configuration.kernels) :
    configuration.kernel? kernel.name = some kernel := by
  have isFound : (configuration.kernel? kernel.name).isSome = true :=
    List.find?_isSome.2 ⟨kernel, member, beq_self_eq_true _⟩
  obtain ⟨other, found⟩ := Option.isSome_iff_exists.1 isFound
  obtain ⟨memberOther, same⟩ := kernel?_eq_some found
  rw [found, List.inj_on_of_nodup_map wellFormed.distinct memberOther member
    (congrArg Text.lowercase same)]

/-- No name that a slot lists is passed over. -/
theorem WellFormed.map_name_kernelsOf (member : slot ∈ configuration.slots) :
    (configuration.kernelsOf slot).map Kernel.name = slot.kernels := by
  have finds : ∀ name ∈ slot.kernels, (configuration.kernel? name).map Kernel.name = some name := by
    intro name listed
    obtain ⟨kernel, isKernel, rfl⟩ := wellFormed.known slot member name listed
    rw [wellFormed.kernel?_eq isKernel, Option.map_some]
  rw [kernelsOf, List.map_filterMap, List.filterMap_congr finds, List.filterMap_some]

/-- A slot is filled if it lists a kernel, and then with the core of the first one. -/
theorem WellFormed.fills (slots : List Slot) (among : ∀ slot ∈ slots, slot ∈ configuration.slots) :
    List.Forall₂ FilledSlot.Fills (slots.filter (·.kernels ≠ []))
      (slots.filterMap fun slot => (configuration.kernelsOf slot).head?.map fun kernel =>
        ⟨Core.ofKernel kernel.name, slot.id⟩) := by
  induction slots with
  | nil => exact .nil
  | cons slot rest inductionHypothesis =>
    obtain ⟨member, further⟩ := List.forall_mem_cons.1 among
    have listed := wellFormed.map_name_kernelsOf member
    cases found : configuration.kernelsOf slot with
    | nil =>
      have empty : slot.kernels = [] := by rw [← listed, found, List.map_nil]
      rw [List.filter_cons_of_neg (by simp [empty]), List.filterMap_cons_none (by simp [found])]
      exact inductionHypothesis further
    | cons kernel others =>
      rw [found, List.map_cons] at listed
      rw [List.filter_cons_of_pos (by simp [← listed]),
        List.filterMap_cons_some (b := ⟨Core.ofKernel kernel.name, slot.id⟩) (by simp [found])]
      exact .cons ⟨rfl, _, _, listed.symm, rfl⟩ (inductionHypothesis further)

/-- No two kernels have cores of one name. -/
theorem WellFormed.nodup_cores :
    ((ProjectDescriptor.ofConfiguration configuration).kernels.map Core.name).Nodup := by
  have cores : (ProjectDescriptor.ofConfiguration configuration).kernels.map Core.name =
      (configuration.kernels.map fun kernel => Text.lowercase kernel.name).map ("a3_" ++ ·) := by
    rw [ProjectDescriptor.ofConfiguration, List.map_map, List.map_map]
    rfl
  rw [cores]
  exact wellFormed.distinct.map Core.injective_prefixed

end WellFormed

/-- The description of a configuration that is read has one core for each kernel, and fills the slots
that list kernels. What is referred to is there: the core of each filled slot is that of one kernel, the
names that a slot lists are found, and so is each kernel. -/
theorem ofConfiguration_integrity {text : String} (read : Configuration.read text = .ok configuration) :
    let descriptor := ProjectDescriptor.ofConfiguration configuration
    (List.Forall₂ (fun kernel core => core = Core.ofKernel kernel.name) configuration.kernels
        descriptor.kernels ∧
      (descriptor.kernels.map Core.name).Nodup) ∧
    (List.Forall₂ FilledSlot.Fills (configuration.slots.filter (·.kernels ≠ [])) descriptor.slots ∧
      (descriptor.slots.map FilledSlot.id).Nodup ∧
      ∀ filled ∈ descriptor.slots, filled.id < descriptor.slotCount ∧
        (descriptor.kernels.map Core.name).count filled.core.name = 1) ∧
    (∀ slot ∈ configuration.slots, (configuration.kernelsOf slot).map Kernel.name = slot.kernels) ∧
    ∀ kernel ∈ configuration.kernels, configuration.kernel? kernel.name = some kernel := by
  intro descriptor
  have wellFormed := wellFormed_of_read read
  have fills : List.Forall₂ FilledSlot.Fills (configuration.slots.filter (·.kernels ≠ []))
    descriptor.slots := wellFormed.fills configuration.slots fun _ member => member
  have numbers : (configuration.slots.filter (·.kernels ≠ [])).map Slot.id =
      descriptor.slots.map FilledSlot.id := by
    rw [← List.forall₂_eq_eq_eq, List.forall₂_map_left_iff, List.forall₂_map_right_iff]
    exact fills.imp fun _ _ fills => fills.1.symm
  refine ⟨⟨?_, wellFormed.nodup_cores⟩, ⟨fills, ?_, fun filled isFilled => ?_⟩, fun slot member =>
    wellFormed.map_name_kernelsOf member, fun kernel member => wellFormed.kernel?_eq member⟩
  · exact List.forall₂_map_right_iff.2 (List.forall₂_same.2 fun _ _ => rfl)
  · rw [← numbers]
    exact wellFormed.numbered.sublist (List.filter_sublist.map _)
  · obtain ⟨slot, isSlot, kernel, isKernel, rfl⟩ := exists_of_mem_slots isFilled
    have isCore : Core.ofKernel kernel.name ∈ descriptor.kernels :=
      List.mem_map.2 ⟨kernel, isKernel, rfl⟩
    exact ⟨wellFormed.inRange slot isSlot,
      List.count_eq_one_of_mem wellFormed.nodup_cores (List.mem_map.2 ⟨_, isCore, rfl⟩)⟩

/-- Two kernels; one slot lists both, one of them twice, and another slot lists none. -/
def assignedText : String :=
  "[project]\nname = \"demo\"\n\n[impl]\nrepo = \"repo\"\npart = \"xc7z020\"\nboard = \"zybo\"\n" ++
    "design = \"default\"\nos = \"linux\"\ntool = \"vivado\"\ntool_version = \"2022.2\"\n\n" ++
    "[shuffler]\nslots = 3\n\n[[kernels]]\nname = \"Adder\"\nhwsrc = \"hls\"\n\n" ++
    "[[kernels]]\nname = \"fir\"\nhwsrc = \"vhdl\"\n\n" ++
    "[[slots]]\nid = 2\nkernels = [\"fir\", \"Adder\", \"fir\"]\n\n[[slots]]\nid = 0\n"

theorem ofConfiguration_integrity_assigned :
    ∃ configuration, Configuration.read assignedText = .ok configuration ∧
      (ProjectDescriptor.ofConfiguration configuration).slots = [⟨⟨"a3_fir", "1.00.a"⟩, 2⟩] ∧
      ((ProjectDescriptor.ofConfiguration configuration).kernels.map Core.name).count "a3_fir" = 1 ∧
      ∀ slot ∈ configuration.slots,
        (configuration.kernelsOf slot).map Kernel.name = slot.kernels := by
  obtain ⟨configuration, read, slots⟩ : ∃ configuration,
      Configuration.read assignedText = .ok configuration ∧
        (ProjectDescriptor.ofConfiguration configuration).slots = [⟨⟨"a3_fir", "1.00.a"⟩, 2⟩] := by
    have described : (Configuration.read assignedText).map
        (fun configuration => (ProjectDescriptor.ofConfiguration configuration).slots) =
          .ok [⟨⟨"a3_fir", "1.00.a"⟩, 2⟩] := by decide +kernel
    cases read : Configuration.read assignedText with
    | error failure =>
      rw [read] at described
      cases described
    | ok configuration =>
      rw [read] at described
      exact ⟨configuration, rfl, Except.ok.inj described⟩
  obtain ⟨-, ⟨-, -, cores⟩, listed, -⟩ := ofConfiguration_integrity read
  exact ⟨configuration, read, slots,
    (cores _ (slots ▸ List.mem_singleton_self _)).2, listed⟩

end Configuration

end KernelExport
