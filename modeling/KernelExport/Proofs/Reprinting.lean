/-
This file says that reading a template loses nothing of its text.

The tokens of a text, written one behind the other, are the text, and putting them together into a
template changes nothing about what is written. A text is made longer as long as no tag is found, so
none is empty and two of them have a tag between them (`Parted`). The tags of the template are those
that are found in the text (`Template.tags`, `Scans`), so the template is told by its text and by where
the tags of it are.
-/

import KernelExport.Proofs.Balance
import Mathlib.Data.List.Chain

namespace KernelExport.Template

variable {tokens : List Token} {template : Template}

/-! ### Tokens -/

/-- The text of a token. -/
def Token.written : Token → List Char
  | .text content => content
  | .tag found => found.written

theorem flatMap_written_push (character : Char) (tokens : List Token) :
    (Token.push character tokens).flatMap Token.written =
      character :: tokens.flatMap Token.written := by
  match tokens with
  | [] => rfl
  | .text _ :: _ => rfl
  | .tag _ :: _ => rfl

/-- The tokens of a text, one behind the other, are the text. -/
theorem flatMap_written_tokens (text : List Char) :
    (Template.tokens text).flatMap Token.written = text := by
  fun_induction Template.tokens text with
  | case1 rest tag behind found same =>
    rw [List.flatMap_cons, same]
    exact (proper_of_tagAt found).2
  | case2 rest none same => rw [flatMap_written_push, flatMap_written_push, same]
  | case3 character rest notPair same => rw [flatMap_written_push, same]
  | case4 => rfl

/-- The token is not an empty text. -/
def Token.Filled : Token → Prop
  | .text content => content ≠ []
  | .tag _ => True

def Token.IsTag : Token → Prop
  | .text _ => False
  | .tag _ => True

/-- One of the tokens is a tag. -/
def Token.Apart (first second : Token) : Prop :=
  first.IsTag ∨ second.IsTag

/-- No text among the tokens is empty, and none stands next to another one. -/
structure PartedTokens (tokens : List Token) : Prop where
  filled : ∀ token ∈ tokens, token.Filled
  apart : tokens.IsChain Token.Apart

theorem PartedTokens.part {whole : List Token} (parted : PartedTokens whole)
    (isPart : tokens <:+: whole) : PartedTokens tokens :=
  ⟨fun token member => parted.filled token (isPart.subset member), parted.apart.infix isPart⟩

theorem PartedTokens.tag (tag : Tag) (parted : PartedTokens tokens) :
    PartedTokens (.tag tag :: tokens) := by
  refine ⟨List.forall_mem_cons.2 ⟨trivial, parted.filled⟩, ?_⟩
  exact List.isChain_cons.2 ⟨fun _ _ => .inl trivial, parted.apart⟩

theorem PartedTokens.push (character : Char) (parted : PartedTokens tokens) :
    PartedTokens (Token.push character tokens) := by
  match tokens with
  | [] => exact ⟨by simp [Token.push, Token.Filled], List.isChain_singleton _⟩
  | .text content :: rest =>
    obtain ⟨filled, apart⟩ := parted
    rw [List.isChain_cons] at apart
    exact ⟨List.forall_mem_cons.2 ⟨List.cons_ne_nil _ _, (List.forall_mem_cons.1 filled).2⟩,
      List.isChain_cons.2 apart⟩
  | .tag tag :: rest =>
    refine ⟨List.forall_mem_cons.2 ⟨List.cons_ne_nil _ _, parted.filled⟩, ?_⟩
    exact List.isChain_cons_cons.2 ⟨.inr trivial, parted.apart⟩

theorem partedTokens_tokens (text : List Char) : PartedTokens (Template.tokens text) := by
  fun_induction Template.tokens text with
  | case1 rest tag behind found parted => exact parted.tag tag
  | case2 rest none parted => exact (parted.push '<').push '<'
  | case3 character rest notPair parted => exact parted.push character
  | case4 => exact ⟨List.forall_mem_nil _, List.isChain_nil⟩

/-! ### Templates -/

/-- No text of the template is empty, and none is followed by another one. -/
def Parted : Template → Prop
  | .done => True
  | .text content rest => content ≠ "" ∧ (∀ next later, rest ≠ .text next later) ∧ rest.Parted
  | .value _ rest => rest.Parted
  | .generate _ body rest => body.Parted ∧ rest.Parted

/-- The tags of the template, as they are written one behind the other. -/
def tags : Template → List Tag
  | .done => []
  | .text _ rest => rest.tags
  | .value key rest => .value key :: rest.tags
  | .generate key body rest => .generate key :: (body.tags ++ .endGenerate :: rest.tags)

/-- The template writes what its tokens write. -/
theorem Reads.written (reads : Reads tokens template) :
    template.written = tokens.flatMap Token.written := by
  induction reads with
  | done => rfl
  | text _ same => rw [Template.written, String.toList_ofList, same, List.flatMap_cons, Token.written]
  | value _ same => rw [Template.written, same, List.flatMap_cons, Token.written]
  | generate _ _ sameBody same =>
    rw [Template.written, sameBody, same, List.flatMap_cons, List.flatMap_append, List.flatMap_cons,
      Token.written, Token.written, List.append_assoc, List.append_assoc]

theorem Reads.tags (reads : Reads tokens template) : template.tags = tagsOf tokens := by
  induction reads with
  | done => rfl
  | text _ same => exact same
  | value _ same => rw [Template.tags, same, tagsOf_tag]
  | generate _ _ sameBody same =>
    rw [Template.tags, sameBody, same, tagsOf_tag, tagsOf_append, tagsOf_tag]

theorem Reads.parted (reads : Reads tokens template) (parted : PartedTokens tokens) :
    template.Parted := by
  induction reads with
  | done => trivial
  | @text content behind rest reads partedRest =>
    refine ⟨?_, ?_, partedRest (parted.part (List.suffix_cons _ _).isInfix)⟩
    · rw [Ne, String.ofList_eq_empty_iff]
      exact parted.filled _ List.mem_cons_self
    · rintro next later rfl
      cases reads
      exact (List.isChain_cons_cons.1 parted.apart).1.elim id id
  | value _ partedRest => exact partedRest (parted.part (List.suffix_cons _ _).isInfix)
  | @generate key inner behind body rest _ _ partedBody partedRest =>
    have insideBlock : inner ++ .tag .endGenerate :: behind <:+:
        .tag (.generate key) :: (inner ++ .tag .endGenerate :: behind) :=
      (List.suffix_cons _ _).isInfix
    refine ⟨partedBody (parted.part ((List.prefix_append _ _).isInfix.trans insideBlock)),
      partedRest (parted.part (List.IsInfix.trans ?_ insideBlock))⟩
    exact ((List.suffix_cons _ _).trans (List.suffix_append _ _)).isInfix

/-- What has no tag stands for itself in all scopes. -/
theorem render_of_tags_eq_nil (tagless : template.tags = []) (scopes : List Scope) :
    template.render scopes = .ok (String.ofList template.written) := by
  induction template with
  | done => rfl
  | text content rest same =>
    rw [render, same tagless, written, String.ofList_append, String.ofList_toList]
    rfl
  | value => cases tagless
  | generate => cases tagless

/-- A template that is read from a text is written as the text, holds no empty text and no two texts
one behind the other, and has the tags that are found in the text. A text in which no tag is found is
rendered to itself, in all scopes. -/
theorem read_lossless (text : String) :
    (∀ template, read text = .ok template →
      String.ofList template.written = text ∧ template.Parted ∧ Scans text.toList template.tags) ∧
    (Scans text.toList [] → ∀ scopes, renderText text scopes = .ok text) := by
  have writes : ∀ template, Reads (tokens text.toList) template →
      String.ofList template.written = text := by
    intro template reads
    rw [reads.written, flatMap_written_tokens, String.ofList_toList]
  constructor
  · intro template accepted
    have reads := read_eq_ok_iff.1 accepted
    exact ⟨writes template reads, reads.parted (partedTokens_tokens _), scans_iff.2 reads.tags⟩
  · intro scans scopes
    have tagless := scans_iff.1 scans
    have balanced : Balanced (tagsOf (tokens text.toList)) :=
      tagless ▸ (tallies_assemble []).balanced rfl rfl
    obtain ⟨template, accepted⟩ := ofTokens_eq_ok_iff_balanced.2 balanced
    have reads := read_eq_ok_iff.1 accepted
    rw [renderText_of_reads reads, render_of_tags_eq_nil (reads.tags.trans tagless.symm), writes _ reads]

/-- Shift operators and tags that are not tags are text, inside a block as well as outside. -/
theorem read_lossless_shifts :
    let text := "x << 2;\n<<generate for A>><<<n>>:<<n>><<end generate>>"
    let template := Template.text "x << 2;\n"
      (.generate "A" (.text "<<<n>>:" (.value "n" .done)) .done)
    let tagless := "y <<\n>> <<a b>>"
    read text = .ok template ∧ String.ofList template.written = text ∧ template.Parted ∧
      Scans text.toList [.generate "A", .value "n", .endGenerate] ∧
      Scans tagless.toList [] ∧ renderText tagless [[]] = .ok tagless := by
  intro text template tagless
  have accepted : read text = .ok template := by decide +kernel
  have noTag : Scans tagless.toList [] := scans_iff.2 (by decide +kernel)
  obtain ⟨written, parted, tags⟩ := (read_lossless text).1 template accepted
  exact ⟨accepted, written, parted, tags, noTag, (read_lossless tagless).2 noTag [[]]⟩

end KernelExport.Template
