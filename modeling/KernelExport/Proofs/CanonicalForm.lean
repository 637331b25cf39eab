/-
This file says that the arguments of a declaration, as they are read, are its canonical form.

Of each argument its tag, its name and one blank between them are left, and the blank is no line break
(`IsInline`). Written behind the declaring word with commas between them (`printed`), arguments of
this form are read as they are: the space behind a comma is trimmed off again, and squeezing leaves
one blank as it is (`exists_read_printed`). So to print what has been read and to read it again
changes nothing, and neither does it to write a space for each of the blanks.

What is printed is a source of which any one declaration has been exchanged for another list, so
`Lists.read_relisted` tells how it is read.
-/

import KernelExport.Proofs.Relayout

namespace KernelExport

open Text

namespace Text

/-- A separator of two characters is one of the first, with the second in front of what follows. -/
theorem intercalate_pair (separator lead : Char) (first : List Char) (others : List (List Char)) :
    [separator, lead].intercalate (first :: others) =
      [separator].intercalate (first :: others.map (lead :: ·)) := by
  induction others generalizing first with
  | nil => rfl
  | cons second others inductionHypothesis =>
    rw [List.map_cons, List.intercalate_cons_cons, List.intercalate_cons_cons, inductionHypothesis]
    cases others <;> simp [List.intercalate_cons_cons]

end Text

namespace Declaration

/-! ### Line breaks -/

/-- Squeezing writes no other characters than those it reads and spaces. -/
theorem mem_of_mem_squeezeAfter {text : List Char} {run : Option Char} {character : Char}
    (member : character ∈ squeezeAfter run text) :
    character ∈ run ∨ character ∈ text ∨ character = ' ' := by
  induction text generalizing run with
  | nil => exact .inl (Option.mem_toList.1 member)
  | cons first rest inductionHypothesis =>
    rw [squeezeAfter] at member
    split at member
    · rcases inductionHypothesis member with inRun | inRest | space
      · split at inRun
        · exact .inr (.inr (Option.mem_some.1 inRun).symm)
        · exact .inr (.inl (Option.mem_some.1 inRun ▸ List.mem_cons_self))
      · exact .inr (.inl (List.mem_cons_of_mem _ inRest))
      · exact .inr (.inr space)
    · rcases List.mem_append.1 member with inRun | later
      · exact .inl (Option.mem_toList.1 inRun)
      · rcases List.mem_cons.1 later with rfl | squeezed
        · exact .inr (.inl List.mem_cons_self)
        · exact .inr ((inductionHypothesis squeezed).resolve_left (by simp)
            |>.imp_left (List.mem_cons_of_mem _))

theorem mem_of_mem_trim {text : List Char} {character : Char} (member : character ∈ trim text) :
    character ∈ text := by
  rw [trim, trimEnd, List.mem_reverse] at member
  have inStart := List.mem_reverse.1 ((List.dropWhile_sublist isBlank).mem member)
  exact (List.dropWhile_sublist isBlank).mem inStart

/-- The normal form of an argument holds no line breaks. -/
theorem ne_break_of_mem_normalize {argument : List Char} {character : Char}
    (member : character ∈ normalize argument) : character ≠ '\n' ∧ character ≠ '\r' := by
  rcases mem_of_mem_squeezeAfter (mem_of_mem_trim member) with none | kept | rfl
  · cases none
  · simpa using (List.mem_filter.1 kept).2
  · decide

/-- The arguments that are answered are the normal forms of those that are read. -/
theorem arguments_of_readArguments {offset : Nat} {taken : List String}
    {arguments : List (List Char)} {result : List (String × Port)}
    (read : readArguments offset taken arguments = .ok result) :
    result.map Prod.fst = arguments.map fun argument => String.ofList (normalize argument) := by
  induction arguments generalizing offset taken result with
  | nil =>
    obtain rfl := Except.ok.inj read
    rfl
  | cons argument others inductionHypothesis =>
    obtain ⟨port, rest, -, -, -, restRead, rfl⟩ := readArguments_cons_eq_ok_iff.1 read
    rw [List.map_cons, List.map_cons, inductionHypothesis restRead]

/-! ### Arguments in canonical form -/

/-- The argument is written as the tag of its role and its name, an identifier, with one blank between
them that is no line break. -/
def IsInline (argument : String) (token : Role × String) : Prop :=
  isIdentifier token.2.toList = true ∧ ∃ blank, isBlank blank = true ∧ blank ≠ '\n' ∧ blank ≠ '\r' ∧
    argument.toList = token.1.tag.toList ++ [blank] ++ token.2.toList

/-- The role and the name of a port, written with a space. -/
def spaced (token : Role × String) : String :=
  token.1.tag ++ " " ++ token.2

theorem isInline_spaced {token : Role × String} (identifier : isIdentifier token.2.toList = true) :
    IsInline (spaced token) token := by
  refine ⟨identifier, ' ', rfl, by decide, by decide, ?_⟩
  rw [spaced, String.toList_append, String.toList_append]
  rfl

/-- The normal form of an argument that declares a port is canonical. -/
theorem isInline_normalize {argument : List Char} {role : Role} {name : String}
    (declares : Declares argument role name) :
    IsInline (String.ofList (normalize argument)) (role, name) := by
  obtain ⟨blank, isBlank, text⟩ := normalize_of_declares declares
  have notBreak := ne_break_of_mem_normalize (by simp [text] : blank ∈ normalize argument)
  rw [← String.toList_ofList (l := normalize argument)] at text
  exact ⟨(declares_iff_words.1 declares).2, blank, isBlank, notBreak.1, notBreak.2, text⟩

/-- The arguments of a declaration that has been read are in canonical form. -/
theorem isInline_of_read {source : String} {declaration : Declaration}
    (accepted : read source = .ok declaration) :
    List.Forall₂ IsInline declaration.arguments declaration.tokens := by
  obtain ⟨site, list, result, -, -, argumentsRead, rfl⟩ := read_eq_ok_iff.1 accepted
  rw [tokens, List.map_map, List.forall₂_map_right_iff, arguments_of_readArguments argumentsRead,
    List.forall₂_map_left_iff]
  exact (declares_of_readArguments argumentsRead).1.imp fun _ _ => isInline_normalize

section Inline

variable {argument : String} {token : Role × String} (isInline : IsInline argument token)

include isInline

theorem withoutBreaks_inline : withoutBreaks argument.toList = argument.toList := by
  obtain ⟨identifier, blank, -, notLineFeed, notReturn, text⟩ := isInline
  have other : ∀ breaking, isBlank breaking = true → blank ≠ breaking →
      ∀ character ∈ argument.toList, character ≠ breaking := by
    rintro _ breaks notBlank character member rfl
    rw [text, List.mem_append, List.mem_append, List.mem_singleton] at member
    rcases member with (inTag | rfl) | inName
    · rw [(solid_tag token.1).2 character inTag] at breaks
      cases breaks
    · exact notBlank rfl
    · rw [(solid_of_isIdentifier identifier).2 character inName] at breaks
      cases breaks
  refine List.filter_eq_self.2 fun character member => decide_eq_true ⟨?_, ?_⟩
  · exact other '\n' rfl notLineFeed character member
  · exact other '\r' rfl notReturn character member

variable {lead : List Char} (leadBlank : Blank lead) (unbroken : withoutBreaks lead = lead)

include leadBlank unbroken

/-- An argument in canonical form declares its port, and so it does with blanks in front of it. -/
theorem declares_inline : Declares (lead ++ argument.toList) token.1 token.2 := by
  have whole := withoutBreaks_inline isInline
  obtain ⟨identifier, blank, isBlank, -, -, text⟩ := isInline
  refine ⟨lead, [blank], [], ?_, leadBlank, blank_cons.2 ⟨isBlank, blank_nil⟩, List.cons_ne_nil _ _,
    blank_nil, identifier⟩
  rw [withoutBreaks_append, unbroken, whole, text]
  simp

/-- It is its own normal form. -/
theorem normalize_inline : normalize (lead ++ argument.toList) = argument.toList := by
  have whole := withoutBreaks_inline isInline
  obtain ⟨identifier, blank, isBlank, -, -, text⟩ := isInline
  have parted : withoutBreaks (lead ++ argument.toList) =
      lead ++ token.1.tag.toList ++ [blank] ++ token.2.toList ++ [] := by
    rw [withoutBreaks_append, unbroken, whole, text]
    simp
  have alone : squeezeAfter none [blank] = [blank] := by
    rw [squeezeAfter, if_pos isBlank]
    rfl
  rw [normalize_of_text parted leadBlank blank_nil identifier, alone, text]

end Inline

/-! ### Printing -/

/-- The declaration of these arguments as it is printed. -/
def printed (arguments : List String) : String :=
  "A3_KERNEL(" ++ ", ".intercalate arguments ++ ")"

/-- The pieces between the commas of what is printed. -/
def printedPieces : List String → List (List Char)
  | [] => []
  | first :: others => first.toList :: others.map fun argument => ' ' :: argument.toList

theorem intercalate_printedPieces {arguments : List String} (written : arguments ≠ []) :
    (", ".intercalate arguments).toList = [','].intercalate (printedPieces arguments) := by
  obtain ⟨first, others, rfl⟩ := List.exists_cons_of_ne_nil written
  rw [String.toList_intercalate, List.map_cons]
  show [',', ' '].intercalate _ = _
  rw [intercalate_pair, List.map_map]
  rfl

/-- What is printed is read from its pieces, if they declare ports. -/
theorem read_printed {arguments : List String} {tokens : List (Role × String)}
    (written : arguments ≠ [])
    (declares : List.Forall₂ (fun argument token => Declares argument token.1 token.2)
      (printedPieces arguments) tokens) :
    read (printed arguments) = (readArguments 10 [] (printedPieces arguments)).map fun result =>
      ⟨result.map Prod.fst, result.map Prod.snd, 0⟩ := by
  let opening := "A3_KERNEL(".toList
  let list := (", ".intercalate arguments).toList
  have split : Text.split ',' list = printedPieces arguments := by
    have some : printedPieces arguments ≠ [] := by
      obtain ⟨first, others, rfl⟩ := List.exists_cons_of_ne_nil written
      exact List.cons_ne_nil _ _
    rw [show list = _ from intercalate_printedPieces written, split_intercalate some]
    intro piece member
    obtain ⟨role, name, declared⟩ := exists_declares_of_mem declares piece member
    exact comma_not_mem_of_declares declared
  obtain ⟨listed, notBlank⟩ := listed_of_declares (split ▸ declares)
  have encloses : Encloses opening "a3in_t a".toList [] :=
    ⟨⟨⟨0, 9, "a3in_t a)".toList⟩, [], by decide, by decide, by decide⟩, by decide⟩
  obtain ⟨before, gap, after, lists⟩ := exists_lists encloses
    (by decide : read _ = .ok ⟨["a3in_t a"], [⟨.input, "a", 10⟩], 0⟩)
  have source : printed arguments = sourceWith opening list [] := by
    refine String.toList_injective ?_
    rw [printed, String.toList_append, String.toList_append]
    exact String.toList_ofList.symm
  rw [source, lists.read_relisted listed notBlank, split]
  rfl

/-- The pieces of arguments in canonical form declare their ports. -/
theorem declares_printedPieces {arguments : List String} {tokens : List (Role × String)}
    (isInline : List.Forall₂ IsInline arguments tokens) :
    List.Forall₂ (fun argument token => Declares argument token.1 token.2)
      (printedPieces arguments) tokens := by
  cases isInline with
  | nil => exact .nil
  | cons firstInline restInline =>
    refine .cons (declares_inline firstInline blank_nil rfl) ?_
    rw [List.forall₂_map_left_iff]
    exact restInline.imp fun _ _ isInline =>
      declares_inline isInline (by decide : Blank [' ']) rfl

/-- Their normal forms are the arguments. -/
theorem normalize_printedPieces {arguments : List String} {tokens : List (Role × String)}
    (isInline : List.Forall₂ IsInline arguments tokens) :
    (printedPieces arguments).map (fun argument => String.ofList (normalize argument)) =
      arguments := by
  have normal : ∀ {argument token}, ∀ lead, IsInline argument token → Blank lead →
      withoutBreaks lead = lead →
        String.ofList (normalize (lead ++ argument.toList)) = argument := by
    intro argument token lead isInline leadBlank unbroken
    rw [normalize_inline isInline leadBlank unbroken, String.ofList_toList]
  cases isInline with
  | nil => rfl
  | @cons first _ others _ firstInline restInline =>
    have rest : others.map (fun argument => String.ofList (normalize ([' '] ++ argument.toList))) =
        others := by
      induction restInline with
      | nil => rfl
      | cons here _ inductionHypothesis =>
        rw [List.map_cons, inductionHypothesis, normal [' '] here (by decide) rfl]
    rw [printedPieces, List.map_cons, List.map_map]
    exact congrArg₂ List.cons (normal [] firstInline blank_nil rfl) rest

/-- What is printed of arguments in canonical form, for ports of different names, is read as these
arguments and these ports. -/
theorem exists_read_printed {arguments : List String} {tokens : List (Role × String)}
    (isInline : List.Forall₂ IsInline arguments tokens) (written : tokens ≠ [])
    (distinct : (tokens.map Prod.snd).Nodup) : ∃ again, read (printed arguments) = .ok again ∧
      again.arguments = arguments ∧ again.tokens = tokens ∧ again.offset = 0 := by
  have some : arguments ≠ [] := by
    rintro rfl
    exact written (List.forall₂_nil_left_iff.1 isInline)
  have declares := declares_printedPieces isInline
  obtain ⟨result, argumentsRead⟩ : ∃ result,
      readArguments 10 [] (printedPieces arguments) = .ok result :=
    exists_readArguments declares distinct fun _ _ => List.not_mem_nil
  refine ⟨⟨result.map Prod.fst, result.map Prod.snd, 0⟩, ?_, ?_, ?_, rfl⟩
  · rw [read_printed some declares, argumentsRead]
    rfl
  · rw [arguments_of_readArguments argumentsRead, normalize_printedPieces isInline]
  · rw [Declaration.tokens, List.map_map]
    exact map_of_readArguments declares argumentsRead

/-- The arguments that are read of a source are in canonical form: printed and read again they are the
same, with the same ports in the same order. So are the ports when each is printed with a space
between its tag and its name. -/
theorem read_printed_arguments {source : String} {declaration : Declaration}
    (accepted : read source = .ok declaration) :
    List.Forall₂ IsInline declaration.arguments declaration.tokens ∧
    (∃ again, read (printed declaration.arguments) = .ok again ∧
      again.arguments = declaration.arguments ∧ again.tokens = declaration.tokens ∧
      again.names = declaration.names ∧ again.offset = 0) ∧
    ∃ again, read (printed (declaration.tokens.map spaced)) = .ok again ∧
      again.tokens = declaration.tokens ∧ again.names = declaration.names := by
  have isInline := isInline_of_read accepted
  obtain ⟨_, isDeclaration, -⟩ := isDeclaration_of_read accepted
  have written := isDeclaration.tokens_ne_nil
  have inlineSpaced : List.Forall₂ IsInline (declaration.tokens.map spaced) declaration.tokens := by
    rw [List.forall₂_map_left_iff, List.forall₂_same]
    exact fun token member => isInline_spaced (isDeclaration.isIdentifier token member)
  refine ⟨isInline, ?_, ?_⟩
  · obtain ⟨again, done, arguments, tokens, offset⟩ :=
      exists_read_printed isInline written isDeclaration.distinct
    exact ⟨again, done, arguments, tokens, by rw [names_eq, names_eq, tokens], offset⟩
  · obtain ⟨again, done, -, tokens, -⟩ :=
      exists_read_printed inlineSpaced written isDeclaration.distinct
    exact ⟨again, done, tokens, by rw [names_eq, names_eq, tokens]⟩

/-- A tag and its name apart by line breaks and a tab, and by a space that does not break. -/
theorem read_printed_arguments_tab :
    List.Forall₂ IsInline ["a3reg_t\tn", "a3out_t\u00a0c"] [(.register, "n"), (.output, "c")] ∧
    (∃ again, read "A3_KERNEL(a3reg_t\tn, a3out_t\u00a0c)" = .ok again ∧
      again.arguments = ["a3reg_t\tn", "a3out_t\u00a0c"] ∧
      again.tokens = [(.register, "n"), (.output, "c")] ∧ again.names = "n, c" ∧ again.offset = 0) ∧
    ∃ again, read "A3_KERNEL(a3reg_t n, a3out_t c)" = .ok again ∧
      again.tokens = [(.register, "n"), (.output, "c")] ∧ again.names = "n, c" := by
  have accepted : read "A3_KERNEL (a3reg_t\r\n\tn, /* b */ \n a3out_t\u00a0c)" =
      .ok ⟨["a3reg_t\tn", "a3out_t\u00a0c"], [⟨.register, "n", 11⟩, ⟨.output, "c", 34⟩], 0⟩ := by
    decide
  exact read_printed_arguments accepted

end Declaration

end KernelExport
