/-
This file says how the names of kernels and cores go together.

The lower case of a name has no slash if the name has none, so the program of a kernel whose name is
one step of a path has such a name too. Kernels of a checked configuration differ in the lower case of
their names, and so do the directories of their cores. The templates of a core lie in a directory whose
name renders to that of the core.
-/

import KernelExport.Descriptor
import KernelExport.Project.Basic
import KernelExport.Proofs.WellFormed
import KernelExport.Template.Dictionary

namespace KernelExport

/-! ### Lower case -/

namespace Text

variable {character : Char}

theorem ofNat_ne_slash {code : Nat} (beyond : 47 < code) : Char.ofNat code ≠ '/' := by
  intro same
  by_cases valid : code.isValidChar
  · rw [Char.ofNat, dif_pos valid] at same
    have equal : code = '/'.toNat := congrArg Char.toNat same
    rw [equal] at beyond
    exact absurd beyond (by decide)
  · rw [Char.ofNat, dif_neg valid] at same
    cases same

/-- The partner of a character beyond ASCII is not the slash. -/
theorem casePartner_ne_slash (beyond : 47 < character.toNat) :
    casePartner lowercaseRuns character ≠ '/' := by
  have least : ∀ run ∈ lowercaseRuns, 47 < Int.ofNat run.first + run.distance := by decide +kernel
  rw [casePartner]
  split
  · rename_i run found
    have further := least run (List.mem_of_find?_eq_some found)
    have holds : run.holds character.toNat = true :=
      List.find?_some (p := fun run : CaseRun => run.holds character.toNat) found
    simp only [CaseRun.holds, Bool.and_eq_true, decide_eq_true_eq] at holds
    have begins : Int.ofNat run.first ≤ Int.ofNat character.toNat := Int.ofNat_le.2 holds.1.1
    exact ofNat_ne_slash (by omega)
  · rintro rfl
    simp at beyond

theorem toLower_ne_slash (ascii : character.toNat < 128) (other : character ≠ '/') :
    character.toLower ≠ '/' := by
  have each : ∀ code < 128, Char.ofNat code ≠ '/' → (Char.ofNat code).toLower ≠ '/' := by decide
  have told := each character.toNat ascii
  rw [Char.ofNat_toNat] at told
  exact told other

theorem slash_not_mem_lowercaseCharacter (other : character ≠ '/') :
    '/' ∉ lowercaseCharacter character := by
  rw [lowercaseCharacter]
  split
  · rename_i ascii
    simpa using (toLower_ne_slash ascii other).symm
  · rename_i beyond
    split
    · decide
    · simpa using (casePartner_ne_slash (by omega)).symm

theorem slash_not_mem_lowercaseAfter {before text : List Char} (slashless : '/' ∉ text) :
    '/' ∉ lowercaseAfter before text := by
  induction text generalizing before with
  | nil => exact List.not_mem_nil
  | cons character rest inductionHypothesis =>
    rw [List.mem_cons, not_or] at slashless
    rw [lowercaseAfter, List.mem_append, not_or]
    refine ⟨?_, inductionHypothesis slashless.2⟩
    split
    · split <;> decide
    · exact slash_not_mem_lowercaseCharacter (Ne.symm slashless.1)

theorem hasSlash_lowercase {name : String} (slashless : hasSlash name = false) :
    hasSlash (lowercase name) = false := by
  rw [hasSlash, List.contains_eq_mem, decide_eq_false_iff_not] at slashless ⊢
  rw [lowercase, String.toList_ofList]
  exact slash_not_mem_lowercaseAfter slashless

end Text

/-- The name of a program that hardware is synthesized from is the name of a file. -/
theorem isName_program {name : String} (isName : IsName name) :
    IsName (Text.lowercase name ++ ".cpp") := by
  have long : ∀ short : String, short.length < 4 → Text.lowercase name ++ ".cpp" ≠ short := by
    rintro short bound rfl
    rw [String.length_append] at bound
    have : ".cpp".length = 4 := by decide
    omega
  refine ⟨long _ (by decide), long _ (by decide), long _ (by decide), ?_⟩
  have slashless := Text.hasSlash_lowercase isName.2.2.2
  rw [hasSlash, List.contains_eq_mem, decide_eq_false_iff_not] at slashless ⊢
  rw [String.toList_append, List.mem_append, not_or]
  exact ⟨slashless, by decide⟩

/-! ### Cores -/

theorem Core.directory_ofKernel (name : String) :
    (Core.ofKernel name).directory = "a3_" ++ (Text.lowercase name ++ "_v1_00_a") := by
  have version : ("1.00.a".map fun character => if character = '.' then '_' else character) =
      "1_00_a" := by decide +kernel
  rw [Core.directory, Core.ofKernel, version, String.append_assoc, String.append_assoc]
  rfl

/-- Cores whose kernels differ in lower case lie in different directories. -/
theorem Core.directory_ne {first second : String}
    (different : Text.lowercase first ≠ Text.lowercase second) :
    (Core.ofKernel first).directory ≠ (Core.ofKernel second).directory := by
  rw [directory_ofKernel, directory_ofKernel]
  intro same
  exact different ((String.append_left_inj _).1 ((String.append_right_inj _).1 same))

/-- The name of the directory that holds the templates of a core. -/
def coreEntry : String := "a3_<<NAME>>_v1_00_a"

/-- The directory of templates is rendered to the directory of the core. -/
theorem render_coreEntry {descriptor : KernelDescriptor} {name : String}
    (isName : descriptor.name = Text.lowercase name) :
    (Dictionary.mk descriptor.fields).render coreEntry = .ok (Core.ofKernel name).directory := by
  have read : Template.read coreEntry =
      .ok (.text "a3_" (.value "NAME" (.text "_v1_00_a" .done))) := by decide +kernel
  have known : Template.lookup? [descriptor.fields] "NAME" = some (.text descriptor.name) := rfl
  rw [Dictionary.render, Template.renderText, read, Core.directory_ofKernel, ← isName]
  simp only [Template.render, Template.valueText, known, Value.scalarText?, bind, Except.bind, pure,
    Except.pure, String.append_empty]

namespace Configuration

variable {configuration : Configuration}

/-- A kernel that is found by a name has it. -/
theorem kernel?_eq_some {name : String} {kernel : Kernel}
    (found : configuration.kernel? name = some kernel) :
    kernel ∈ configuration.kernels ∧ kernel.name = name := by
  have same : (kernel.name == name) = true :=
    List.find?_some (p := fun kernel : Kernel => kernel.name == name) found
  exact ⟨List.mem_of_find?_eq_some found, beq_iff_eq.1 same⟩

/-- The cores of two kernels of a checked configuration lie in different directories. -/
theorem core_directory_ne (checked : configuration.check = .ok ()) {first second : String}
    {kernel other : Kernel} (isFirst : configuration.kernel? first = some kernel)
    (isSecond : configuration.kernel? second = some other) (different : first ≠ second) :
    (Core.ofKernel first).directory ≠ (Core.ofKernel second).directory := by
  have distinct := (check_eq_ok_iff.1 checked).distinct
  obtain ⟨member, rfl⟩ := kernel?_eq_some isFirst
  obtain ⟨memberOther, rfl⟩ := kernel?_eq_some isSecond
  refine Core.directory_ne fun same => different ?_
  rw [List.inj_on_of_nodup_map distinct member memberOther same]

end Configuration

end KernelExport
