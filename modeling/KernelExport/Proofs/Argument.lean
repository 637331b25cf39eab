/-
This file gives the grammar of one argument of a port declaration and shows that reading follows
it. An argument is read without its line breaks: blanks, a role tag, at least one blank, an
identifier and blanks again (`Declares`).

Reading squeezes the blanks first. That changes no word of the argument, since a run of blanks
becomes a run of blanks, so the tag and the name found afterwards are those of the argument as it
was written (`readPort_normalize_eq_ok_iff`), and one blank is left between them
(`normalize_of_declares`).
-/

import KernelExport.Interface.Declaration
import KernelExport.Proofs.Words

namespace KernelExport.Declaration

open Text

/-! ### Squeezing -/

/-- What is squeezed behind a character that is not blank does not depend on what came before. -/
theorem squeezeAfter_append_cons {solid : Char} (notBlank : isBlank solid = false)
    (run : Option Char) (first second : List Char) :
    squeezeAfter run (first ++ solid :: second) =
      squeezeAfter run first ++ solid :: squeezeAfter none second := by
  induction first generalizing run with
  | nil => simp [squeezeAfter, notBlank]
  | cons character rest inductionHypothesis =>
    by_cases blank : isBlank character = true <;>
      simp [squeezeAfter, blank, inductionHypothesis]

theorem squeezeAfter_solid_append {word : List Char} (solid : Solid word) (rest : List Char) :
    squeezeAfter none (word ++ rest) = word ++ squeezeAfter none rest := by
  obtain ⟨-, notBlank⟩ := solid
  induction word with
  | nil => rfl
  | cons first others inductionHypothesis =>
    rw [List.cons_append, ← List.nil_append (first :: (others ++ rest)),
      squeezeAfter_append_cons (notBlank first List.mem_cons_self),
      inductionHypothesis fun character member =>
        notBlank character (List.mem_cons_of_mem _ member)]
    rfl

/-- Blanks that a word follows are squeezed on their own. -/
theorem squeezeAfter_append_solid {word : List Char} (solid : Solid word) (first rest : List Char) :
    squeezeAfter none (first ++ (word ++ rest)) =
      squeezeAfter none first ++ (word ++ squeezeAfter none rest) := by
  rw [← squeezeAfter_solid_append solid]
  obtain ⟨start, more, rfl⟩ := List.exists_cons_of_ne_nil solid.1
  have notBlank := solid.2 start List.mem_cons_self
  rw [List.cons_append, squeezeAfter_append_cons notBlank,
    ← List.nil_append (start :: (more ++ rest)), squeezeAfter_append_cons notBlank]
  rfl

/-- Blanks are squeezed into one of them or a space. -/
theorem squeezeAfter_of_blank {blanks : List Char} (blank : Blank blanks) {run : Char}
    (runBlank : isBlank run = true) :
    ∃ squeezed, isBlank squeezed = true ∧ squeezeAfter (some run) blanks = [squeezed] := by
  induction blanks generalizing run with
  | nil => exact ⟨run, runBlank, rfl⟩
  | cons first rest inductionHypothesis =>
    obtain ⟨firstBlank, restBlank⟩ := blank_cons.1 blank
    rw [squeezeAfter, if_pos firstBlank, Option.isSome_some, if_pos rfl]
    exact inductionHypothesis restBlank (by decide)

theorem exists_squeezed {blanks : List Char} (blank : Blank blanks) (some : blanks ≠ []) :
    ∃ squeezed, isBlank squeezed = true ∧ squeezeAfter none blanks = [squeezed] := by
  obtain ⟨first, rest, rfl⟩ := List.exists_cons_of_ne_nil some
  obtain ⟨firstBlank, restBlank⟩ := blank_cons.1 blank
  rw [squeezeAfter, if_pos firstBlank]
  exact squeezeAfter_of_blank restBlank firstBlank

theorem blank_squeezeAfter {blanks : List Char} (blank : Blank blanks) :
    Blank (squeezeAfter none blanks) := by
  by_cases some : blanks = []
  · rw [some]
    exact blank_nil
  · obtain ⟨squeezed, squeezedBlank, equal⟩ := exists_squeezed blank some
    rw [equal]
    exact blank_cons.2 ⟨squeezedBlank, blank_nil⟩

/-- What is squeezed after a blank starts with one. -/
theorem head?_squeezeAfter_some (text : List Char) {run : Char} (runBlank : isBlank run = true) :
    ∀ character ∈ (squeezeAfter (some run) text).head?, isBlank character = true := by
  induction text generalizing run with
  | nil =>
    rintro character atHead
    obtain rfl := Option.mem_some.1 atHead
    exact runBlank
  | cons first rest inductionHypothesis =>
    by_cases blank : isBlank first = true
    · rw [squeezeAfter, if_pos blank, Option.isSome_some, if_pos rfl]
      exact inductionHypothesis (by decide)
    · rw [squeezeAfter, if_neg blank]
      rintro character atHead
      obtain rfl := Option.mem_some.1 atHead
      exact runBlank

/-- Squeezing the blanks of a text changes none of its words. -/
theorem words_squeezeAfter (text : List Char) : words (squeezeAfter none text) = words text := by
  induction text using WellFounded.induction (measure List.length).wf with
  | _ text inductionHypothesis =>
    rcases blank_or_exists_word text with blank | ⟨front, word, behind, rfl, blank, solid, ends⟩
    · rw [words_of_blank blank, words_of_blank (blank_squeezeAfter blank)]
    · have behindSame : words (squeezeAfter none behind) = words behind := by
        refine inductionHypothesis behind ?_
        have := List.length_pos_iff.2 solid.1
        simp only [InvImage, WellFoundedRelation.rel, List.length_append]
        omega
      have squeezedEnds : ∀ character ∈ (squeezeAfter none behind).head?,
          isBlank character = true := by
        cases behind with
        | nil => simp [squeezeAfter]
        | cons first rest =>
          rw [squeezeAfter, if_pos (ends first rfl)]
          exact head?_squeezeAfter_some rest (ends first rfl)
      rw [List.append_assoc, squeezeAfter_append_solid solid,
        words_blank_append (blank_squeezeAfter blank), words_solid_append solid squeezedEnds,
        behindSame, words_blank_append blank, words_solid_append solid ends]

/-! ### Arguments -/

/-- The argument as it is read: without line breaks. -/
def withoutBreaks (argument : List Char) : List Char :=
  argument.filter fun character => character ≠ '\n' ∧ character ≠ '\r'

/-- The argument declares a port of this role and this name. -/
def Declares (argument : List Char) (role : Role) (name : String) : Prop :=
  ∃ front between back, withoutBreaks argument =
      front ++ role.tag.toList ++ between ++ name.toList ++ back ∧
    Blank front ∧ Blank between ∧ between ≠ [] ∧ Blank back ∧ isIdentifier name.toList = true

theorem solid_tag (role : Role) : Solid role.tag.toList := by
  have noBlank : role.tag.toList.any isBlank = false := by cases role <;> rfl
  refine ⟨by cases role <;> decide, fun character member => ?_⟩
  exact Bool.eq_false_iff.2 (List.any_eq_false.1 noBlank character member)

theorem ofTag?_eq_some_iff {tag : String} {role : Role} :
    Role.ofTag? tag = some role ↔ tag = role.tag := by
  refine ⟨fun found => (Role.tag_of_ofTag? found).symm, ?_⟩
  rintro rfl
  exact Role.ofTag?_tag role

theorem words_normalize (argument : List Char) :
    words (normalize argument) = words (withoutBreaks argument) := by
  rw [normalize, words_trim, words_squeezeAfter]
  rfl

/-- An argument declares a port exactly when its words are a role tag and an identifier. -/
theorem declares_iff_words {argument : List Char} {role : Role} {name : String} :
    Declares argument role name ↔
      words (withoutBreaks argument) = [role.tag.toList, name.toList] ∧
        isIdentifier name.toList = true := by
  constructor
  · rintro ⟨front, between, back, text, frontBlank, betweenBlank, apart, backBlank, identifier⟩
    exact ⟨words_eq_pair_iff.2 ⟨front, between, back, text, frontBlank, solid_tag role,
      betweenBlank, apart, solid_of_isIdentifier identifier, backBlank⟩, identifier⟩
  · rintro ⟨equal, identifier⟩
    obtain ⟨front, between, back, text, frontBlank, -, betweenBlank, apart, -, backBlank⟩ :=
      words_eq_pair_iff.1 equal
    exact ⟨front, between, back, text, frontBlank, betweenBlank, apart, backBlank, identifier⟩

/-- Reading an argument finds the port that it declares, and nothing else. -/
theorem readPort_normalize_eq_ok_iff {argument : List Char} {offset : Nat} {port : Port} :
    readPort (normalize argument) offset = .ok port ↔
      Declares argument port.role port.name ∧ port.offset = offset := by
  rw [declares_iff_words, readPort, words_normalize]
  constructor
  · intro read
    split at read
    · rename_i tag name equal
      split at read
      · cases read
      · rename_i role found
        split at read
        · rename_i identifier
          obtain rfl := Except.ok.inj read
          have tagIs : role.tag.toList = tag := by
            rw [← ofTag?_eq_some_iff.1 found, String.toList_ofList]
          refine ⟨⟨?_, ?_⟩, rfl⟩
          · rw [equal, tagIs, String.toList_ofList]
          · rw [String.toList_ofList]
            exact identifier
        · cases read
    · cases read
  · rintro ⟨⟨equal, identifier⟩, rfl⟩
    simp only [equal]
    rw [String.ofList_toList, Role.ofTag?_tag]
    simp only [identifier, if_true, String.ofList_toList]

/-- An argument is normalized to its tag and its name with the squeezed blanks between them. -/
theorem normalize_of_text {argument front between back : List Char} {role : Role} {name : String}
    (text : withoutBreaks argument =
      front ++ role.tag.toList ++ between ++ name.toList ++ back)
    (frontBlank : Blank front) (backBlank : Blank back)
    (identifier : isIdentifier name.toList = true) :
    normalize argument = role.tag.toList ++ squeezeAfter none between ++ name.toList := by
  have nameSolid := solid_of_isIdentifier identifier
  have whole : squeezeAfter none (withoutBreaks argument) =
      squeezeAfter none front ++ (role.tag.toList ++ squeezeAfter none between ++ name.toList) ++
        squeezeAfter none back := by
    rw [text]
    simp only [List.append_assoc]
    rw [squeezeAfter_append_solid (solid_tag role), squeezeAfter_append_solid nameSolid]
  rw [normalize, ← withoutBreaks, whole]
  exact trim_of_solid (blank_squeezeAfter frontBlank) (solid_tag role) nameSolid
    (blank_squeezeAfter backBlank)

/-- The normal form of an argument is the tag and the name with one blank between them. -/
theorem normalize_of_declares {argument : List Char} {role : Role} {name : String}
    (declares : Declares argument role name) : ∃ blank, isBlank blank = true ∧
      normalize argument = role.tag.toList ++ [blank] ++ name.toList := by
  obtain ⟨front, between, back, text, frontBlank, betweenBlank, apart, backBlank, identifier⟩ :=
    declares
  obtain ⟨blank, isBlank, squeezed⟩ := exists_squeezed betweenBlank apart
  exact ⟨blank, isBlank, by rw [normalize_of_text text frontBlank backBlank identifier, squeezed]⟩

end KernelExport.Declaration
