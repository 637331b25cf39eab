/-
This file says what the outermost scope has to do with the meaning of a template: it is asked last, and
only for keys that the template mentions.

So two outermost scopes in which a template cannot tell apart what it asks for give it one meaning,
faults included (`render_congr`), and a scope that knows more can only add to what is known: a template
that has a text keeps it (`render_of_more`). A fault need not stay, since a key that was not known may be
known in the larger scope. In blocks the records of a list are scopes inside the others, so both are
proved for all inner scopes at once.
-/

import KernelExport.Descriptor
import KernelExport.Proofs.Steps
import KernelExport.Template.Dictionary

namespace KernelExport

namespace Template

variable {template : Template} {first second outermost more : Scope} {key text written : String}

/-! ### What is known under a key -/

/-- The outermost scope is asked last. -/
theorem lookup?_append_singleton (inner : List Scope) (outermost : Scope) (key : String) :
    lookup? (inner ++ [outermost]) key = (lookup? inner key).or (outermost.lookup key) := by
  rw [lookup?, lookup?, List.findSome?_append, List.findSome?_singleton]

/-- What is known under a key is known under it in a scope that knows more. -/
theorem lookup?_of_more
    (contains : ∀ key value, outermost.lookup key = some value → more.lookup key = some value)
    {inner : List Scope} {value : Value} (known : lookup? (inner ++ [outermost]) key = some value) :
    lookup? (inner ++ [more]) key = some value := by
  rw [lookup?_append_singleton, Option.or_eq_some_iff] at known ⊢
  exact known.imp_right (And.imp_right (contains key value))

theorem valueText_eq_ok_iff {scopes : List Scope} : valueText scopes key = .ok text ↔
    ∃ value, lookup? scopes key = some value ∧ value.scalarText? = some text := by
  rw [valueText]
  cases lookup? scopes key with
  | none => simp
  | some value => cases scalar : value.scalarText? <;> simp [scalar]

theorem listItems_eq_ok_iff {scopes : List Scope} {items : List Value} :
    listItems scopes key = .ok items ↔ lookup? scopes key = some (.list items) := by
  rw [listItems]
  split <;> simp_all

/-- A template that has a text keeps it when its outermost scope knows more. -/
theorem render_of_more
    (contains : ∀ key value, outermost.lookup key = some value → more.lookup key = some value)
    {inner : List Scope} (renders : template.render (inner ++ [outermost]) = .ok written) :
    template.render (inner ++ [more]) = .ok written := by
  induction template generalizing inner written with
  | done => exact renders
  | text content rest keeps =>
    obtain ⟨behind, rendersRest, done⟩ := bind_eq_ok_iff.1 renders
    exact bind_eq_ok_iff.2 ⟨behind, keeps rendersRest, done⟩
  | value key rest keeps =>
    obtain ⟨value, known, others⟩ := bind_eq_ok_iff.1 renders
    obtain ⟨behind, rendersRest, done⟩ := bind_eq_ok_iff.1 others
    obtain ⟨scalar, found, hasText⟩ := valueText_eq_ok_iff.1 known
    have knownToo : valueText (inner ++ [more]) key = .ok value :=
      valueText_eq_ok_iff.2 ⟨scalar, lookup?_of_more contains found, hasText⟩
    exact bind_eq_ok_iff.2 ⟨value, knownToo, bind_eq_ok_iff.2 ⟨behind, keeps rendersRest, done⟩⟩
  | generate key body rest keepsBody keeps =>
    obtain ⟨items, known, others⟩ := bind_eq_ok_iff.1 renders
    obtain ⟨turns, rendersBody, others⟩ := bind_eq_ok_iff.1 others
    obtain ⟨behind, rendersRest, done⟩ := bind_eq_ok_iff.1 others
    have knownToo : listItems (inner ++ [more]) key = .ok items :=
      listItems_eq_ok_iff.2 (lookup?_of_more contains (listItems_eq_ok_iff.1 known))
    refine bind_eq_ok_iff.2 ⟨items, knownToo, bind_eq_ok_iff.2 ⟨turns, ?_,
      bind_eq_ok_iff.2 ⟨behind, keeps rendersRest, done⟩⟩⟩
    refine mapM_of_ok (fun item _ turn rendersTurn => ?_) rendersBody
    obtain ⟨scope, isRecord, rendersItem⟩ := bind_eq_ok_iff.1 rendersTurn
    -- The record of the item is one more inner scope.
    have rendersToo : body.render (scope :: inner ++ [more]) = .ok turn := keepsBody rendersItem
    exact bind_eq_ok_iff.2 ⟨scope, isRecord, rendersToo⟩

/-! ### What a template asks for -/

/-- The keys that the template mentions, for a value or for a block, at any depth. -/
def keys : Template → List String
  | .done => []
  | .text _ rest => rest.keys
  | .value key rest => key :: rest.keys
  | .generate key body rest => key :: (body.keys ++ rest.keys)

/-- Templates cannot tell the values apart: they are the same, or both are lists that start with a
text. -/
inductive Indistinct : Value → Value → Prop
  | same (value : Value) : Indistinct value value
  | texts (first second : String) (rest more : List Value) :
    Indistinct (.list (.text first :: rest)) (.list (.text second :: more))

/-- The scopes know the key both or neither, and templates cannot tell apart what they know. -/
def AgreeOn (first second : Scope) (key : String) : Prop :=
  Option.Rel Indistinct (first.lookup key) (second.lookup key)

theorem agreeOn_of_lookup_eq (same : first.lookup key = second.lookup key) :
    AgreeOn first second key := by
  rw [AgreeOn, same]
  cases second.lookup key with
  | none => exact .none
  | some value => exact .some (.same value)

theorem AgreeOn.lookup? (agree : AgreeOn first second key) (inner : List Scope) :
    Option.Rel Indistinct (lookup? (inner ++ [first]) key) (lookup? (inner ++ [second]) key) := by
  rw [lookup?_append_singleton, lookup?_append_singleton]
  cases Template.lookup? inner key with
  | some value => exact .some (.same value)
  | none => exact agree

theorem valueText_congr (agree : AgreeOn first second key) (inner : List Scope) :
    valueText (inner ++ [second]) key = valueText (inner ++ [first]) key := by
  have known := agree.lookup? inner
  rw [valueText, valueText]
  generalize Template.lookup? (inner ++ [first]) key = value at known
  generalize Template.lookup? (inner ++ [second]) key = other at known
  cases known with
  | none => rfl
  | some indistinct => cases indistinct <;> rfl

/-- A template means the same in scopes in which it cannot tell apart what it asks for. -/
theorem render_congr (agree : ∀ key ∈ template.keys, AgreeOn first second key)
    (inner : List Scope) :
    template.render (inner ++ [second]) = template.render (inner ++ [first]) := by
  induction template generalizing inner with
  | done => rfl
  | text content rest same => rw [render, render, same agree]
  | value key rest same =>
    obtain ⟨agreeKey, agreeRest⟩ := List.forall_mem_cons.1 agree
    rw [render, render, same agreeRest, valueText_congr agreeKey]
  | generate key body rest sameBody same =>
    obtain ⟨agreeKey, agreeOthers⟩ := List.forall_mem_cons.1 agree
    obtain ⟨agreeBody, agreeRest⟩ := List.forall_mem_append.1 agreeOthers
    have known := agreeKey.lookup? inner
    have bodies : ∀ item, (itemScope key item >>= fun scope =>
          body.render (scope :: (inner ++ [second]))) =
        (itemScope key item >>= fun scope => body.render (scope :: (inner ++ [first]))) := by
      intro item
      cases itemScope key item with
      | error failure => rfl
      | ok scope => exact sameBody agreeBody (scope :: inner)
    rw [render, render, same agreeRest, funext bodies, listItems, listItems]
    generalize Template.lookup? (inner ++ [first]) key = value at known
    generalize Template.lookup? (inner ++ [second]) key = other at known
    cases known with
    | none => rfl
    | some indistinct =>
      cases indistinct with
      | same value => rfl
      | texts first second rest more => rfl

theorem renderText_congr
    (agree : ∀ template, read text = .ok template → ∀ key ∈ template.keys, AgreeOn first second key)
    (inner : List Scope) :
    renderText text (inner ++ [second]) = renderText text (inner ++ [first]) := by
  rw [renderText, renderText]
  cases accepted : read text with
  | error fault => rfl
  | ok template => exact render_congr (agree template accepted) inner

end Template

/-! ### The descriptor of a kernel -/

namespace KernelDescriptor

/-- Hardware changes what is known under two keys. -/
theorem lookup_fields_withHardware (descriptor : KernelDescriptor) (directory : Path)
    (files : List String) {key : String} (notSources : key ≠ "SOURCES")
    (notIncludes : key ≠ "INCLUDES") :
    (descriptor.withHardware directory files).fields.lookup key = descriptor.fields.lookup key := by
  have noIncludes : ∀ includes : Option (List String),
      (includes.map fun files => ("INCLUDES", fileValues files)).toList.lookup key = none := by
    rintro (_ | files)
    · rfl
    · rw [Option.map_some, Option.toList_some, List.lookup_cons, beq_false_of_ne notIncludes,
        List.lookup_nil]
  simp only [fields, List.lookup_append, noIncludes, List.lookup_cons, beq_false_of_ne notSources,
    withHardware]

end KernelDescriptor

/-- A larger outermost scope leaves a text that a template has as it is. And the hardware that a
descriptor is given makes no difference, to faults neither, for a template that mentions neither its
directories nor its files. -/
theorem Template.renderText_of_more (text : String) :
    (∀ (outermost more : Template.Scope) (inner : List Template.Scope) (written : String),
      (∀ key value, outermost.lookup key = some value → more.lookup key = some value) →
      Template.renderText text (inner ++ [outermost]) = .ok written →
      Template.renderText text (inner ++ [more]) = .ok written) ∧
    ∀ (descriptor : KernelDescriptor) (directory : Path) (files : List String),
      (∀ template, Template.read text = .ok template →
        "SOURCES" ∉ template.keys ∧ "INCLUDES" ∉ template.keys) →
      ∃ before after, Dictionary.ofValue descriptor.toValue = .ok before ∧
        Dictionary.ofValue (descriptor.withHardware directory files).toValue = .ok after ∧
        after.render text = before.render text := by
  constructor
  · intro outermost more inner written contains renders
    obtain ⟨template, accepted, rendersTemplate⟩ := bind_eq_ok_iff.1 renders
    exact bind_eq_ok_iff.2 ⟨template, accepted, render_of_more contains rendersTemplate⟩
  · intro descriptor directory files unmentioned
    refine ⟨⟨descriptor.fields⟩, ⟨_⟩, rfl, rfl, renderText_congr ?_ []⟩
    intro template accepted key mentioned
    obtain ⟨notSources, notIncludes⟩ := unmentioned template accepted
    refine agreeOn_of_lookup_eq (descriptor.lookup_fields_withHardware directory files ?_ ?_).symm
    · exact fun same => notSources (same ▸ mentioned)
    · exact fun same => notIncludes (same ▸ mentioned)

/-- A descriptor with one register, of a kernel that hardware is synthesized for. -/
def registerDescriptor : KernelDescriptor where
  name := "adder"
  source := .hls
  part := "xc7z020"
  reset := .low
  memoryBytes := 0
  sources := [.ofText "src"]
  files := some ["adder.cpp"]
  registers := [⟨some "count", 0⟩]
  banks := []

/-- What becomes known outside a block leaves the record of the block in front of it; and a fault
stays when the descriptor is given its hardware. -/
theorem Template.renderText_of_more_block :
    let outermost : Template.Scope := [("REGS", .list [.record [("rid", .text "0")]])]
    let text := "<<generate for REGS>><<rid>><<end generate>><<TOP>>"
    Template.renderText text ([[("TOP", .null)]] ++ [("rid", .text "9") :: outermost]) = .ok "0" ∧
      ∃ before after, Dictionary.ofValue registerDescriptor.toValue = .ok before ∧
        Dictionary.ofValue (registerDescriptor.withHardware (.ofText "out") ["a.vhd"]).toValue =
          .ok after ∧
        after.render text = before.render text ∧
        before.render text = .error (.unknownKey "TOP") := by
  intro outermost text
  have reads : Template.read text = .ok (.generate "REGS" (.value "rid" .done)
    (.value "TOP" .done)) := by decide +kernel
  have contains : ∀ key value, outermost.lookup key = some value →
      (("rid", Value.text "9") :: outermost).lookup key = some value := by
    intro key value known
    have isRegisters : key = "REGS" := by
      by_contra other
      rw [List.lookup_cons, beq_false_of_ne other] at known
      cases known
    subst isRegisters
    exact known
  obtain ⟨keeps, alike⟩ := Template.renderText_of_more text
  refine ⟨keeps outermost _ _ "0" contains (by decide +kernel), ?_⟩
  obtain ⟨before, after, isBefore, isAfter, same⟩ :=
    alike registerDescriptor (.ofText "out") ["a.vhd"] fun template accepted => by
      obtain rfl := Except.ok.inj (reads.symm.trans accepted)
      decide
  refine ⟨before, after, isBefore, isAfter, same, ?_⟩
  obtain rfl := Except.ok.inj isBefore
  decide +kernel

end KernelExport
