/-
This file says which fault is reported of a configuration that is not well formed: the first one.

The order is that of the project's name, the board, the kernels one by one and then the slots one by
one. A kernel or a slot is looked at together with those in front of it, and what is in front of the
first that is at fault is well formed on its own: the configuration would be accepted if its kernels or
its slots ended there. Of one kernel or slot the faults come in an order of their own, each only where
the others before it do not hold (`KernelFault`, `SlotFault`).

The loops that check kernels and slots remember what they have met in lists that grow at the front, so
that their steps know the entries in front by what is in these lists.

A fault is told as an error (`Fault.ToldAs`), and the error tells the fault: a number in its text goes on
to a space, so the numbers and names in it can be read back.
-/

import KernelExport.Proofs.WellFormed

namespace KernelExport.Configuration

variable {configuration : Configuration} {fault : Fault} {kernel : Kernel} {slot : Slot}

/-! ### Faults -/

/-- What is wrong first with a kernel that stands behind others. -/
inductive KernelFault (earlier : List Kernel) (kernel : Kernel) : Fault → Prop where
  | unnamed (empty : kernel.name = "") : KernelFault earlier kernel .noKernelName
  | duplicate (named : kernel.name ≠ "")
      (met : ∃ other ∈ earlier, Text.lowercase other.name = Text.lowercase kernel.name) :
      KernelFault earlier kernel (.duplicateKernel kernel.name)

/-- One of the kernels has the very name. -/
def Knows (configuration : Configuration) (name : String) : Prop :=
  ∃ kernel ∈ configuration.kernels, kernel.name = name

/-- What is wrong first with a slot that stands behind others. Of the names that it lists, the first
that is not known counts. -/
inductive SlotFault (configuration : Configuration) (earlier : List Slot) (slot : Slot) :
    Fault → Prop where
  | outOfRange (beyond : configuration.shuffler.slots ≤ slot.id) :
      SlotFault configuration earlier slot (.slotOutOfRange slot.id configuration.shuffler.slots)
  | duplicate (inRange : slot.id < configuration.shuffler.slots)
      (met : ∃ other ∈ earlier, other.id = slot.id) :
      SlotFault configuration earlier slot (.duplicateSlot slot.id)
  | unknown {names others : List String} {name : String}
      (inRange : slot.id < configuration.shuffler.slots)
      (new : ∀ other ∈ earlier, other.id ≠ slot.id) (listed : slot.kernels = names ++ name :: others)
      (known : ∀ other ∈ names, configuration.Knows other) (unknown : ¬ configuration.Knows name) :
      SlotFault configuration earlier slot (.unknownKernel slot.id name)

/-- The first fault of a configuration. -/
inductive FirstFault (configuration : Configuration) : Fault → Prop where
  | project (unnamed : configuration.projectName = "") : FirstFault configuration .noProjectName
  | board (named : configuration.projectName ≠ "")
      (boardless : configuration.platform.board = []) : FirstFault configuration .noBoard
  | kernel {earlier later : List Kernel} {kernel : Kernel} {fault : Fault}
      (divided : configuration.kernels = earlier ++ kernel :: later)
      (inFront : WellFormed { configuration with kernels := earlier, slots := [] })
      (faulty : KernelFault earlier kernel fault) : FirstFault configuration fault
  | slot {earlier later : List Slot} {slot : Slot} {fault : Fault}
      (divided : configuration.slots = earlier ++ slot :: later)
      (inFront : WellFormed { configuration with slots := earlier })
      (faulty : SlotFault configuration earlier slot fault) : FirstFault configuration fault

/-! ### One kernel -/

/-- What a loop has met at an entry is what the entries in front of it have. -/
theorem mem_foldl_cons_iff {Entry Mark : Type} {markOf : Entry → Mark} {earlier : List Entry}
    {mark : Mark} : mark ∈ earlier.foldl (fun marks entry => markOf entry :: marks) [] ↔
      ∃ entry ∈ earlier, markOf entry = mark := by
  rw [List.foldl_flip_cons_eq_append, List.append_nil, List.mem_reverse, List.mem_map]

/-- What checking kernels does for one of them. -/
def checkKernel (taken : List String) (kernel : Kernel) : Except Fault Unit :=
  if kernel.name = "" then .error .noKernelName
  else if Text.lowercase kernel.name ∈ taken then .error (.duplicateKernel kernel.name)
  else .ok ()

theorem checkKernels_cons (taken : List String) (kernel : Kernel) (rest : List Kernel) :
    checkKernels taken (kernel :: rest) =
      checkKernel taken kernel >>= fun _ => checkKernels (Text.lowercase kernel.name :: taken) rest := by
  rw [checkKernels, checkKernel]
  split_ifs <;> rfl

theorem checkKernel_eq_error_iff {earlier : List Kernel} :
    checkKernel (earlier.foldl (fun taken kernel => Text.lowercase kernel.name :: taken) []) kernel =
      .error fault ↔ KernelFault earlier kernel fault := by
  rw [checkKernel]
  split_ifs with unnamed met
  · constructor
    · rintro ⟨⟩
      exact .unnamed unnamed
    · rintro (_ | ⟨named, -⟩)
      · rfl
      · exact absurd unnamed named
  · constructor
    · rintro ⟨⟩
      exact .duplicate unnamed (mem_foldl_cons_iff.1 met)
    · rintro (empty | _)
      · exact absurd empty unnamed
      · rfl
  · refine ⟨nofun, ?_⟩
    rintro (empty | ⟨-, isMet⟩)
    · exact absurd empty unnamed
    · exact absurd (mem_foldl_cons_iff.2 isMet) met

/-! ### One slot -/

def checkSlot (kernels : List String) (slots : Nat) (taken : List Nat) (slot : Slot) :
    Except Fault Unit :=
  if slots ≤ slot.id then .error (.slotOutOfRange slot.id slots)
  else if slot.id ∈ taken then .error (.duplicateSlot slot.id)
  else match slot.kernels.find? (· ∉ kernels) with
    | some name => .error (.unknownKernel slot.id name)
    | none => .ok ()

theorem checkSlots_cons (kernels : List String) (slots : Nat) (taken : List Nat) (slot : Slot)
    (rest : List Slot) :
    checkSlots kernels slots taken (slot :: rest) =
      checkSlot kernels slots taken slot >>= fun _ =>
        checkSlots kernels slots (slot.id :: taken) rest := by
  rw [checkSlots, checkSlot]
  split_ifs
  · rfl
  · rfl
  · cases slot.kernels.find? (· ∉ kernels) <;> rfl

/-- The first name that is looked for and not found is the first that is not known. -/
theorem find?_eq_some_iff_unknown {listed : List String} {name : String} :
    listed.find? (· ∉ configuration.kernels.map Kernel.name) = some name ↔
      ¬ configuration.Knows name ∧ ∃ names others, listed = names ++ name :: others ∧
        ∀ other ∈ names, configuration.Knows other := by
  simp only [List.find?_eq_some_iff_append, decide_eq_true_eq, Bool.not_eq_true', decide_eq_false_iff_not,
    not_not, List.mem_map, Knows]

theorem checkSlot_eq_error_iff {earlier : List Slot} :
    checkSlot (configuration.kernels.map Kernel.name) configuration.shuffler.slots
      (earlier.foldl (fun taken slot => slot.id :: taken) []) slot = .error fault ↔
      SlotFault configuration earlier slot fault := by
  rw [checkSlot]
  split_ifs with beyond met
  · constructor
    · rintro ⟨⟩
      exact .outOfRange beyond
    · rintro (_ | ⟨inRange, -⟩ | ⟨inRange, -⟩)
      · rfl
      · exact absurd beyond (Nat.not_le.2 inRange)
      · exact absurd beyond (Nat.not_le.2 inRange)
  · have inRange := Nat.not_le.1 beyond
    constructor
    · rintro ⟨⟩
      exact .duplicate inRange (mem_foldl_cons_iff.1 met)
    · rintro (isBeyond | _ | ⟨-, new, -⟩)
      · exact absurd isBeyond beyond
      · rfl
      · obtain ⟨other, member, same⟩ := mem_foldl_cons_iff.1 met
        exact absurd same (new other member)
  · have inRange := Nat.not_le.1 beyond
    have new : ∀ other ∈ earlier, other.id ≠ slot.id :=
      fun other member same => met (mem_foldl_cons_iff.2 ⟨other, member, same⟩)
    cases found : slot.kernels.find? (· ∉ configuration.kernels.map Kernel.name) with
    | some name =>
      obtain ⟨unknown, names, others, listed, known⟩ := find?_eq_some_iff_unknown.1 found
      constructor
      · rintro ⟨⟩
        exact .unknown inRange new listed known unknown
      · rintro (isBeyond | ⟨-, isMet⟩ | ⟨-, -, listedToo, knownToo, unknownToo⟩)
        · exact absurd isBeyond beyond
        · exact absurd (mem_foldl_cons_iff.2 isMet) met
        · have foundToo := find?_eq_some_iff_unknown.2 ⟨unknownToo, _, _, listedToo, knownToo⟩
          obtain rfl := Option.some.inj (found.symm.trans foundToo)
          rfl
    | none =>
      refine ⟨nofun, ?_⟩
      rintro (isBeyond | ⟨-, isMet⟩ | ⟨-, -, listed, known, unknown⟩)
      · exact absurd isBeyond beyond
      · exact absurd (mem_foldl_cons_iff.2 isMet) met
      · have isFound := find?_eq_some_iff_unknown.2 ⟨unknown, _, _, listed, known⟩
        rw [found] at isFound
        cases isFound

/-! ### The whole configuration -/

/-- Checking answers the first fault. -/
theorem check_eq_error_iff : configuration.check = .error fault ↔ configuration.FirstFault fault := by
  constructor
  · intro failed
    by_cases unnamed : configuration.projectName = ""
    · rw [check_of_unnamed unnamed] at failed
      cases failed
      exact .project unnamed
    by_cases boardless : configuration.platform.board = []
    · rw [check_of_boardless unnamed boardless] at failed
      cases failed
      exact .board unnamed boardless
    rw [check_of_named unnamed boardless] at failed
    rcases bind_eq_error_iff.1 failed with failed | ⟨_, kernelsPass, failed⟩
    · obtain ⟨earlier, kernel, later, divided, pass, fails⟩ :=
        (loop_eq_error_iff (fun _ => rfl) checkKernels_cons).1 failed
      exact .kernel divided (wellFormed_iff.2 ⟨unnamed, boardless, pass, rfl⟩)
        (checkKernel_eq_error_iff.1 fails)
    · obtain ⟨earlier, slot, later, divided, pass, fails⟩ :=
        (loop_eq_error_iff (fun _ => rfl) (checkSlots_cons _ _)).1 failed
      exact .slot divided (wellFormed_iff.2 ⟨unnamed, boardless, kernelsPass, pass⟩)
        (checkSlot_eq_error_iff.1 fails)
  · rintro (unnamed | ⟨named, boardless⟩ | ⟨divided, inFront, faulty⟩ | ⟨divided, inFront, faulty⟩)
    · exact check_of_unnamed unnamed
    · exact check_of_boardless named boardless
    · have named : configuration.projectName ≠ "" := inFront.projectName
      have fails : checkKernels [] configuration.kernels = .error fault := by
        obtain ⟨-, -, pass, -⟩ := wellFormed_iff.1 inFront
        exact (loop_eq_error_iff (fun _ => rfl) checkKernels_cons).2
          ⟨_, _, _, divided, pass, checkKernel_eq_error_iff.2 faulty⟩
      rw [check_of_named named inFront.board]
      exact bind_eq_error_iff.2 (.inl fails)
    · have named : configuration.projectName ≠ "" := inFront.projectName
      have kernelsPass : checkKernels [] configuration.kernels = .ok () :=
        (wellFormed_iff.1 inFront).2.2.1
      have fails : checkSlots (configuration.kernels.map Kernel.name) configuration.shuffler.slots []
          configuration.slots = .error fault := by
        obtain ⟨-, -, -, pass⟩ := wellFormed_iff.1 inFront
        exact (loop_eq_error_iff (fun _ => rfl) (checkSlots_cons _ _)).2
          ⟨_, _, _, divided, pass, checkSlot_eq_error_iff.2 faulty⟩
      rw [check_of_named named inFront.board]
      exact bind_eq_error_iff.2 (.inr ⟨(), kernelsPass, fails⟩)

/-! ### Errors -/

/-- How a fault is told: by the field that is empty, or in words that name what is at fault. -/
inductive Fault.ToldAs : Fault → ConfigurationError → Prop where
  | noProjectName : ToldAs .noProjectName (.missingField "project.name")
  | noBoard : ToldAs .noBoard (.missingField "impl.board")
  | noKernelName : ToldAs .noKernelName (.missingField "kernels.name")
  | duplicateKernel (name : String) :
      ToldAs (.duplicateKernel name) (.invalid ("duplicate kernel '" ++ name ++ "'"))
  | slotOutOfRange (id slots : Nat) : ToldAs (.slotOutOfRange id slots)
      (.invalid ("slot " ++ toString id ++ " out of range (shuffler has " ++ toString slots ++
        " slots)"))
  | duplicateSlot (id : Nat) :
      ToldAs (.duplicateSlot id) (.invalid ("duplicate slot " ++ toString id))
  | unknownKernel (id : Nat) (name : String) : ToldAs (.unknownKernel id name)
      (.invalid ("slot " ++ toString id ++ " references unknown kernel '" ++ name ++ "'"))

theorem Fault.toldAs_iff {error : ConfigurationError} :
    fault.ToldAs error ↔ error = .ofFault fault := by
  constructor
  · rintro (_ | _ | _ | _ | _ | _ | _) <;> rfl
  · rintro rfl
    cases fault <;> constructor

theorem toDigits_inj {number other : Nat} :
    Nat.toDigits 10 number = Nat.toDigits 10 other ↔ number = other := by
  refine ⟨fun same => ?_, fun same => same ▸ rfl⟩
  rw [← Nat.ofDigitChars_ten_toDigits (n := number), same, Nat.ofDigitChars_ten_toDigits]

/-- A number ends at the space behind it. -/
theorem toDigits_append_inj {number other : Nat} {rest others : List Char} :
    Nat.toDigits 10 number ++ ' ' :: rest = Nat.toDigits 10 other ++ ' ' :: others ↔
      number = other ∧ rest = others := by
  have front : ∀ number (rest : List Char),
      (Nat.toDigits 10 number ++ ' ' :: rest).takeWhile Char.isDigit = Nat.toDigits 10 number := by
    intro number rest
    rw [List.takeWhile_append_of_pos fun _ member =>
      Nat.isDigit_of_mem_toDigits (by decide) (by decide) member]
    exact List.append_nil _
  refine ⟨fun same => ?_, fun ⟨sameNumber, sameRest⟩ => sameNumber ▸ sameRest ▸ rfl⟩
  have numbers := congrArg (List.takeWhile Char.isDigit) same
  rw [front, front, toDigits_inj] at numbers
  rw [numbers, List.append_cancel_left_eq, List.cons.injEq] at same
  exact ⟨numbers, same.2⟩

/-- Different faults are told as different errors. -/
theorem injective_ofFault : Function.Injective ConfigurationError.ofFault := by
  intro fault other same
  cases fault <;> cases other <;>
    simp_all [ConfigurationError.ofFault, ← String.toList_inj, toDigits_inj, toDigits_append_inj]

/-- A configuration is accepted as it is if it is well formed, and otherwise refused with the error
that tells its first fault. No other fault is told as that error. -/
theorem checked_outcome (configuration : Configuration) :
    (∀ accepted, configuration.checked = .ok accepted ↔
      configuration.WellFormed ∧ accepted = configuration) ∧
    (∀ error, configuration.checked = .error error ↔
      ∃ fault, configuration.FirstFault fault ∧ fault.ToldAs error) ∧
    ∀ fault error, fault.ToldAs error →
      (configuration.checked = .error error ↔ configuration.FirstFault fault) := by
  have accepts : configuration.check = .ok () ↔ configuration.WellFormed := check_eq_ok_iff
  have refuses : ∀ error, configuration.checked = .error error ↔
      ∃ fault, configuration.FirstFault fault ∧ fault.ToldAs error := by
    intro error
    simp only [← check_eq_error_iff, Fault.toldAs_iff]
    rw [checked]
    cases configuration.check <;> simp [eq_comm]
  refine ⟨fun accepted => ?_, refuses, fun fault error told => ?_⟩
  · rw [← accepts, checked]
    cases configuration.check <;> simp [eq_comm]
  · rw [refuses]
    refine ⟨?_, fun isFirst => ⟨fault, isFirst, told⟩⟩
    rintro ⟨first, isFirst, toldToo⟩
    rw [Fault.toldAs_iff] at told toldToo
    obtain rfl := injective_ofFault (told.symm.trans toldToo)
    exact isFirst

end KernelExport.Configuration
