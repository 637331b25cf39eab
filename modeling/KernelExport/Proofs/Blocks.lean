/-
This file says which tokens write a template: those in which every block that opens ends, and no
block ends that was not opened (`Reads`).

The reader puts tokens together from the last to the first, so at any time it holds the end of a
template with some blocks still to be opened in front of it (`Assembled`). If none is left at the
end the tokens are a template, and if the tokens are a template none is left, whatever follows them.
-/

import KernelExport.Template.Rendering

namespace KernelExport.Template

/-! ### Templates one behind the other -/

/-- A template with another one behind it. -/
def append : (template later : Template) → Template
  | .done, later => later
  | .text content rest, later => .text content (rest.append later)
  | .value key rest, later => .value key (rest.append later)
  | .generate key body rest, later => .generate key body (rest.append later)

@[simp] theorem append_done (template : Template) : template.append .done = template := by
  induction template with
  | done => rfl
  | text _ _ same => rw [append, same]
  | value _ _ same => rw [append, same]
  | generate _ _ _ _ same => rw [append, same]

/-- Templates one behind the other mean what they mean, one text behind the other. The first that
means nothing decides. -/
theorem render_append (template later : Template) (scopes : List Scope) :
    (template.append later).render scopes = (do
      let front ← template.render scopes
      let back ← later.render scopes
      pure (front ++ back)) := by
  induction template with
  | done =>
    rw [append]
    cases later.render scopes with
    | error => rfl
    | ok back => exact congrArg Except.ok String.empty_append.symm
  | text content rest same =>
    simp only [append, render, same, bind_assoc, pure_bind, String.append_assoc]
  | value key rest same =>
    simp only [append, render, same, bind_assoc, pure_bind, String.append_assoc]
  | generate key body rest _ same =>
    simp only [append, render, same, bind_assoc, pure_bind, String.append_assoc]

/-! ### Tokens that are a template -/

/-- The tokens write the template. -/
inductive Reads : List Token → Template → Prop where
  | done : Reads [] .done
  | text {content : List Char} {behind : List Token} {rest : Template} (reads : Reads behind rest) :
      Reads (.text content :: behind) (.text (String.ofList content) rest)
  | value {key : String} {behind : List Token} {rest : Template} (reads : Reads behind rest) :
      Reads (.tag (.value key) :: behind) (.value key rest)
  | generate {key : String} {inner behind : List Token} {body rest : Template}
      (readsBody : Reads inner body) (reads : Reads behind rest) :
      Reads (.tag (.generate key) :: (inner ++ .tag .endGenerate :: behind))
        (.generate key body rest)

variable {tokens later : List Token} {template rest current : Template} {waiting : List Template}

/-- What has been put together with more tokens in front of it. -/
def assemble (tokens : List Token) (assembly : Assembly) : Assembly :=
  tokens.foldr (fun token assembly => assembly.add token) assembly

theorem assemble_cons (token : Token) (tokens : List Token) (assembly : Assembly) :
    assemble (token :: tokens) assembly = (assemble tokens assembly).add token := rfl

theorem assemble_append (tokens later : List Token) (assembly : Assembly) :
    assemble (tokens ++ later) assembly = assemble tokens (assemble later assembly) :=
  List.foldr_append

/-- A template stands in front of what has been put together, and opens none of its blocks. -/
theorem Reads.assemble (reads : Reads tokens template) (assembly : Assembly) :
    assemble tokens assembly =
      { assembly with current := template.append assembly.current } := by
  induction reads generalizing assembly with
  | done => rfl
  | text _ same =>
    rw [assemble_cons, same]
    rfl
  | value _ same =>
    rw [assemble_cons, same]
    rfl
  | generate _ _ sameBody same =>
    rw [assemble_cons, assemble_append, sameBody, assemble_cons, same]
    simp [Assembly.add, Template.append]

/-- The tokens write the template `current`, and behind the end of each block that is not opened in
them one of those that wait. -/
inductive Assembled : List Token → Template → List Template → Prop where
  | last {tokens : List Token} {current : Template} (reads : Reads tokens current) :
      Assembled tokens current []
  | ended {inner behind : List Token} {current rest : Template} {waiting : List Template}
      (reads : Reads inner current) (others : Assembled behind rest waiting) :
      Assembled (inner ++ .tag .endGenerate :: behind) current (rest :: waiting)

/-- A token that goes before any template goes before what is assembled. -/
theorem Assembled.cons {token : Token} {extend : Template → Template}
    (goes : ∀ {inner content}, Reads inner content → Reads (token :: inner) (extend content))
    (assembled : Assembled tokens current waiting) :
    Assembled (token :: tokens) (extend current) waiting := by
  cases assembled with
  | last reads => exact .last (goes reads)
  | ended reads others => exact .ended (goes reads) others

/-- The tag that opens a block takes what is assembled up to the first end for the block. -/
theorem Assembled.generate (key : String) (assembled : Assembled tokens current (rest :: waiting)) :
    Assembled (.tag (.generate key) :: tokens) (.generate key current rest) waiting := by
  cases assembled with
  | ended body others =>
    cases others with
    | last reads => exact .last (.generate body reads)
    | ended reads others =>
      have opened := Assembled.ended (.generate body reads : Reads (.tag (.generate key) :: _) _) others
      rwa [List.cons_append, List.append_assoc, List.cons_append] at opened

/-- Where every block is ended, the reader has assembled the tokens. -/
theorem assembled_assemble (tokens : List Token) (ended : (assemble tokens {}).unended = none) :
    Assembled tokens (assemble tokens {}).current (assemble tokens {}).waiting := by
  induction tokens with
  | nil => exact .last .done
  | cons token tokens inductionHypothesis =>
    rw [assemble_cons] at ended ⊢
    generalize assemble tokens {} = assembly at *
    obtain ⟨current, waiting, unended⟩ := assembly
    match token with
    | .text content => exact (inductionHypothesis ended).cons .text
    | .tag (.value key) => exact (inductionHypothesis ended).cons .value
    | .tag .endGenerate => exact .ended .done (inductionHypothesis ended)
    | .tag (.generate key) =>
      cases waiting with
      | nil => cases unended <;> cases ended
      | cons rest waiting => exact (inductionHypothesis ended).generate key

theorem ofTokens_eq (tokens : List Token) :
    ofTokens tokens = match (assemble tokens {}).waiting, (assemble tokens {}).unended with
      | _ :: _, _ => .error .strayEnd
      | [], some key => .error (.unterminated key)
      | [], none => .ok (assemble tokens {}).current := rfl

/-- The reader accepts the tokens that write a template. -/
theorem ofTokens_eq_ok_iff : ofTokens tokens = .ok template ↔ Reads tokens template := by
  constructor
  · intro read
    have assembled := assembled_assemble tokens
    rw [ofTokens_eq] at read
    generalize assemble tokens {} = assembly at read assembled
    obtain ⟨current, _ | ⟨_, _⟩, _ | _⟩ := assembly
    · cases read
      cases assembled rfl with
      | last reads => exact reads
    all_goals cases read
  · intro reads
    rw [ofTokens_eq, reads.assemble, append_done]

end KernelExport.Template
