/-
This file gives the grammar of port declarations and shows that reading accepts exactly what the
grammar allows.

The grammar speaks about code, which is source whose comments and literals have been blanked. The
declaring word stands at one place only (`DeclaredAt`); behind it the arguments stand in
parentheses, with commas between them, and each of them declares a port of another name
(`IsDeclaration`).

The scanner for sites is followed character by character, so its answer is described for a text
that stands anywhere in a code (`mem_sitesFrom_iff`); the sites it finds come in the order of
their offsets, which is why the list has a single element exactly when all sites are the same.
-/

import KernelExport.Proofs.Argument
import KernelExport.Proofs.Steps

namespace KernelExport.Declaration

open Text

/-! ### Sites -/

/-- The declaring word stands on its own behind `before`; only blanks stand between it and the
parenthesis that `rest` is written behind. -/
structure DeclaredAt (code before gap rest : List Char) : Prop where
  text : code = before ++ keyword ++ gap ++ '(' :: rest
  alone : ∀ character ∈ before.getLast?, continuesIdentifier character = false
  blank : Blank gap

theorem dropWhile_isBlank_append {gap : List Char} (blank : Blank gap) (rest : List Char) :
    (gap ++ '(' :: rest).dropWhile isBlank = '(' :: rest := by
  rw [List.dropWhile_append_of_pos blank, List.dropWhile_cons_of_neg (by decide)]

theorem takeWhile_isBlank_append {gap : List Char} (blank : Blank gap) (rest : List Char) :
    (gap ++ '(' :: rest).takeWhile isBlank = gap := by
  rw [List.takeWhile_append_of_pos blank, List.takeWhile_cons_of_neg (by decide), List.append_nil]

theorem siteAt_eq_some_iff {offset : Nat} {before : Option Char} {text : List Char} {site : Site} :
    siteAt offset before text = some site ↔ ∃ gap, text = keyword ++ gap ++ '(' :: site.rest ∧
      (∀ character ∈ before, continuesIdentifier character = false) ∧ Blank gap ∧
      site.offset = offset ∧ site.opening = offset + byteSize keyword + byteSize gap := by
  constructor
  · intro found
    rw [siteAt] at found
    split at found
    · rename_i stands
      simp only [Bool.and_eq_true, Bool.not_eq_true', Option.any_eq_false] at stands
      obtain ⟨isFront, alone⟩ := stands
      obtain ⟨behind, rfl⟩ := List.isPrefixOf_iff_prefix.1 isFront
      simp only [List.drop_left] at found
      split at found
      · rename_i rest opens
        obtain rfl := Option.some.inj found
        refine ⟨behind.takeWhile isBlank, ?_, alone, blank_takeWhile behind, rfl, rfl⟩
        rw [List.append_assoc, ← opens, trimStart, List.takeWhile_append_dropWhile]
      · cases found
    · cases found
  · rintro ⟨gap, rfl, alone, blank, rfl, opening⟩
    have stands : (keyword.isPrefixOf (keyword ++ gap ++ '(' :: site.rest) &&
        !before.any continuesIdentifier) = true := by
      simp only [Bool.and_eq_true, Bool.not_eq_true', Option.any_eq_false]
      exact ⟨List.isPrefixOf_iff_prefix.2 ⟨gap ++ '(' :: site.rest, by rw [List.append_assoc]⟩,
        alone⟩
    rw [siteAt, if_pos stands, List.append_assoc, List.drop_left]
    simp only [trimStart, dropWhile_isBlank_append blank, takeWhile_isBlank_append blank]
    rw [← opening]

/-- The sites found in a text are the places in it at which the word is declared; `earlier` is the
character before the text. -/
theorem mem_sitesFrom_iff {offset : Nat} {earlier : Option Char} {text : List Char} {site : Site} :
    site ∈ sitesFrom offset earlier text ↔ ∃ before gap,
      text = before ++ keyword ++ gap ++ '(' :: site.rest ∧
      (∀ character ∈ before.getLast?.or earlier, continuesIdentifier character = false) ∧
      Blank gap ∧ site.offset = offset + byteSize before ∧
      site.opening = offset + byteSize before + byteSize keyword + byteSize gap := by
  induction text generalizing offset earlier with
  | nil =>
    simp only [sitesFrom, List.not_mem_nil, false_iff]
    rintro ⟨before, gap, empty, -⟩
    simp [keyword] at empty
  | cons first rest inductionHypothesis =>
    rw [sitesFrom, List.mem_append, Option.mem_toList, inductionHypothesis, siteAt_eq_some_iff]
    constructor
    -- A site is at the first character, or it is one of the rest.
    · rintro (⟨gap, text, alone, blank, offsetIs, opening⟩ |
        ⟨before, gap, rfl, alone, blank, offsetIs, opening⟩)
      · exact ⟨[], gap, text, alone, blank, offsetIs, opening⟩
      · refine ⟨first :: before, gap, rfl, ?_, blank, ?_, ?_⟩
        · simpa [List.getLast?_cons] using alone
        · rw [offsetIs, byteSize_cons, Nat.add_assoc]
        · rw [opening, byteSize_cons]
          omega
    · rintro ⟨before, gap, text, alone, blank, offsetIs, opening⟩
      cases before with
      | nil => exact .inl ⟨gap, text, alone, blank, offsetIs, opening⟩
      | cons other more =>
        obtain ⟨rfl, rfl⟩ := List.cons.inj text
        refine .inr ⟨more, gap, rfl, ?_, blank, ?_, ?_⟩
        · simpa [List.getLast?_cons] using alone
        · rw [offsetIs, byteSize_cons, Nat.add_assoc]
        · rw [opening, byteSize_cons]
          omega

/-- Sites are found from left to right. -/
theorem pairwise_sitesFrom (offset : Nat) (earlier : Option Char) (text : List Char) :
    (sitesFrom offset earlier text).Pairwise fun first second => first.offset < second.offset := by
  induction text generalizing offset earlier with
  | nil => exact .nil
  | cons first rest inductionHypothesis =>
    rw [sitesFrom, List.pairwise_append]
    refine ⟨?_, inductionHypothesis _ _, ?_⟩
    · cases siteAt offset earlier (first :: rest) <;> simp
    · intro here hereMember later laterMember
      rw [Option.mem_toList, siteAt_eq_some_iff] at hereMember
      obtain ⟨-, -, -, -, hereIs, -⟩ := hereMember
      obtain ⟨before, -, -, -, -, laterIs, -⟩ := mem_sitesFrom_iff.1 laterMember
      have := first.utf8Size_pos
      omega

/-- Two fronts of one text that take the same number of bytes are the same. -/
theorem eq_of_append_eq_append {first second firstRest secondRest : List Char}
    (same : first ++ firstRest = second ++ secondRest)
    (size : byteSize first = byteSize second) : first = second := by
  induction first generalizing second with
  | nil =>
    cases second with
    | nil => rfl
    | cons character _ =>
      have := character.utf8Size_pos
      simp only [byteSize_nil, byteSize_cons] at size
      omega
  | cons character rest inductionHypothesis =>
    cases second with
    | nil =>
      have := character.utf8Size_pos
      simp only [byteSize_nil, byteSize_cons] at size
      omega
    | cons other more =>
      obtain ⟨rfl, sameRest⟩ := List.cons.inj same
      rw [byteSize_cons, byteSize_cons, Nat.add_left_cancel_iff] at size
      rw [inductionHypothesis sameRest size]

/-- The sites of a code are the places in it at which the word is declared. -/
theorem mem_sites_iff {code : List Char} {site : Site} : site ∈ sites code ↔
    ∃ before gap, DeclaredAt code before gap site.rest ∧ site.offset = byteSize before ∧
      site.opening = byteSize before + byteSize keyword + byteSize gap := by
  rw [sites, mem_sitesFrom_iff]
  simp only [Option.or_none, Nat.zero_add]
  constructor
  · rintro ⟨before, gap, text, alone, blank, offset, opening⟩
    exact ⟨before, gap, ⟨text, alone, blank⟩, offset, opening⟩
  · rintro ⟨before, gap, ⟨text, alone, blank⟩, offset, opening⟩
    exact ⟨before, gap, text, alone, blank, offset, opening⟩

theorem onlySite_eq_ok_iff_sites {code : List Char} {site : Site} :
    onlySite code = .ok site ↔ sites code = [site] := by
  rw [onlySite]
  constructor
  · intro only
    split at only
    · cases only
    · rename_i single equal
      rw [equal, Except.ok.inj only]
    · cases only
  · intro alone
    rw [alone]

/-- A code has an only site when its declaring word stands at one place. -/
theorem onlySite_eq_ok_iff {code : List Char} {site : Site} : onlySite code = .ok site ↔
    ∃ before gap, DeclaredAt code before gap site.rest ∧
      (∀ other otherGap otherRest, DeclaredAt code other otherGap otherRest → other = before) ∧
      site.offset = byteSize before ∧
      site.opening = byteSize before + byteSize keyword + byteSize gap := by
  rw [onlySite_eq_ok_iff_sites]
  constructor
  · intro alone
    obtain ⟨before, gap, declared, offset, opening⟩ :=
      mem_sites_iff.1 (alone ▸ List.mem_singleton_self site)
    refine ⟨before, gap, declared, ?_, offset, opening⟩
    intro other otherGap otherRest otherDeclared
    have member : (⟨byteSize other, byteSize other + byteSize keyword + byteSize otherGap,
        otherRest⟩ : Site) ∈ sites code :=
      mem_sites_iff.2 ⟨other, otherGap, otherDeclared, rfl, rfl⟩
    rw [alone, List.mem_singleton] at member
    have same := otherDeclared.text.symm.trans declared.text
    simp only [List.append_assoc] at same
    exact eq_of_append_eq_append same (by rw [← offset, ← member])
  · rintro ⟨before, gap, declared, unique, offset, opening⟩
    have member : site ∈ sites code := mem_sites_iff.2 ⟨before, gap, declared, offset, opening⟩
    have sameOffset : ∀ other ∈ sites code, other.offset = byteSize before := by
      intro other otherMember
      obtain ⟨otherBefore, otherGap, otherDeclared, otherOffset, -⟩ := mem_sites_iff.1 otherMember
      rw [otherOffset, unique otherBefore otherGap other.rest otherDeclared]
    -- Two sites would lie at one offset, but each lies behind the one before.
    have ordered := pairwise_sitesFrom 0 none code
    rw [← sites] at ordered
    match equal : sites code with
    | [] => simp [equal] at member
    | [single] =>
      rw [equal, List.mem_singleton] at member
      rw [member]
    | first :: second :: others =>
      rw [equal, List.pairwise_cons] at ordered
      have increases := ordered.1 second List.mem_cons_self
      have firstOffset := sameOffset first (by simp [equal])
      have secondOffset := sameOffset second (by simp [equal])
      omega

/-! ### The argument list -/

theorem takeWhile_append_stop {stop : Char} {text : List Char} (none : stop ∉ text)
    (after : List Char) : (text ++ stop :: after).takeWhile (· ≠ stop) = text := by
  rw [List.takeWhile_append_of_pos, List.takeWhile_cons_of_neg (by simp), List.append_nil]
  intro character member
  simp only [decide_eq_true_eq]
  rintro rfl
  exact none member

/-- The list of arguments goes up to the first closing parenthesis; no other parenthesis opens in
it, and it is not blank. -/
theorem body_eq_ok_iff {site : Site} {text : List Char} : body site = .ok text ↔
    ∃ after, site.rest = text ++ ')' :: after ∧ ')' ∉ text ∧ '(' ∉ text ∧ ¬ Blank text := by
  have blankIff : ∀ other : List Char, other.all isBlank = true ↔ Blank other :=
    fun other => List.all_eq_true
  constructor
  · intro read
    by_cases closed : ')' ∈ site.rest
    · obtain ⟨inside, after, rest, unclosed⟩ := List.eq_append_cons_of_mem closed
      rw [body, if_pos closed, rest] at read
      simp only [takeWhile_append_stop unclosed] at read
      split at read
      · cases read
      · rename_i unnested
        split at read
        · cases read
        · rename_i notBlank
          obtain rfl := Except.ok.inj read
          exact ⟨after, rest, unclosed, unnested, fun blank => notBlank ((blankIff _).2 blank)⟩
    · rw [body, if_neg closed] at read
      cases read
  · rintro ⟨after, rest, unclosed, unnested, notBlank⟩
    rw [body, if_pos (by simp [rest]), rest]
    simp only [takeWhile_append_stop unclosed]
    rw [if_neg unnested, if_neg fun blank => notBlank ((blankIff _).1 blank)]

/-- One argument is read when it declares a port whose name is not taken. -/
theorem readArguments_cons_eq_ok_iff {offset : Nat} {taken : List String} {argument : List Char}
    {others : List (List Char)} {result : List (String × Port)} :
    readArguments offset taken (argument :: others) = .ok result ↔ ∃ port rest,
      Declares argument port.role port.name ∧
      port.offset = offset + byteSize (argument.takeWhile isBlank) ∧ port.name ∉ taken ∧
      readArguments (offset + byteSize argument + 1) (port.name :: taken) others = .ok rest ∧
      result = (String.ofList (normalize argument), port) :: rest := by
  rw [readArguments, bind_eq_ok_iff]
  constructor
  · rintro ⟨port, portRead, continued⟩
    obtain ⟨declares, place⟩ := readPort_normalize_eq_ok_iff.1 portRead
    by_cases takenBefore : port.name ∈ taken
    · rw [if_pos takenBefore] at continued
      cases continued
    · rw [if_neg takenBefore] at continued
      obtain ⟨rest, restRead, done⟩ := bind_eq_ok_iff.1 continued
      exact ⟨port, rest, declares, place, takenBefore, restRead, (Except.ok.inj done).symm⟩
  · rintro ⟨port, rest, declares, place, free, restRead, rfl⟩
    refine ⟨port, readPort_normalize_eq_ok_iff.2 ⟨declares, place⟩, ?_⟩
    rw [if_neg free]
    exact bind_eq_ok_iff.2 ⟨rest, restRead, rfl⟩

/-- The argument is written as the tag of its role and its name with one blank between them. -/
def IsWritten (argument : String) (token : Role × String) : Prop :=
  ∃ blank, isBlank blank = true ∧
    argument.toList = token.1.tag.toList ++ [blank] ++ token.2.toList

/-- Names differ and none is taken if the first is not taken, and so it is with the others once the
first is taken too. -/
theorem nodup_free_cons_iff {name : String} {names taken : List String} :
    ((name :: names).Nodup ∧ ∀ other ∈ name :: names, other ∉ taken) ↔
      name ∉ taken ∧ names.Nodup ∧ ∀ other ∈ names, other ∉ name :: taken := by
  rw [List.nodup_cons, List.forall_mem_cons]
  constructor
  · rintro ⟨⟨fresh, distinct⟩, free, restFree⟩
    refine ⟨free, distinct, fun other member => ?_⟩
    rw [List.mem_cons, not_or]
    refine ⟨?_, restFree other member⟩
    rintro rfl
    exact fresh member
  · rintro ⟨free, distinct, restFree⟩
    exact ⟨⟨fun member => restFree name member List.mem_cons_self, distinct⟩, free,
      fun other member earlier => restFree other member (List.mem_cons_of_mem name earlier)⟩

/-- The arguments that are read declare ports of names that differ from each other and from those
that are taken. -/
theorem declares_of_readArguments {offset : Nat} {taken : List String}
    {arguments : List (List Char)} {result : List (String × Port)}
    (read : readArguments offset taken arguments = .ok result) :
    List.Forall₂ (fun argument entry => Declares argument entry.2.role entry.2.name) arguments
      result ∧
    (∀ entry ∈ result, IsWritten entry.1 (entry.2.role, entry.2.name)) ∧
    (result.map (·.2.name)).Nodup ∧ ∀ name ∈ result.map (·.2.name), name ∉ taken := by
  induction arguments generalizing offset taken result with
  | nil =>
    rw [readArguments] at read
    obtain rfl := Except.ok.inj read
    exact ⟨.nil, by simp, List.nodup_nil, by simp⟩
  | cons argument others inductionHypothesis =>
    obtain ⟨port, rest, declares, -, free, restRead, rfl⟩ := readArguments_cons_eq_ok_iff.1 read
    obtain ⟨restDeclares, restWritten, restDistinct, restFree⟩ := inductionHypothesis restRead
    refine ⟨.cons declares restDeclares, fun entry member => ?_,
      nodup_free_cons_iff.2 ⟨free, restDistinct, restFree⟩⟩
    rcases List.mem_cons.1 member with rfl | later
    · obtain ⟨blank, isBlank, normal⟩ := normalize_of_declares declares
      exact ⟨blank, isBlank, by rw [String.toList_ofList, normal]⟩
    · exact restWritten entry later

/-- Arguments that declare ports of different names are read. -/
theorem exists_readArguments {offset : Nat} {taken : List String} {arguments : List (List Char)}
    {tokens : List (Role × String)}
    (declares : List.Forall₂ (fun argument token => Declares argument token.1 token.2) arguments
      tokens)
    (distinct : (tokens.map Prod.snd).Nodup) (free : ∀ name ∈ tokens.map Prod.snd, name ∉ taken) :
    ∃ result, readArguments offset taken arguments = .ok result := by
  induction declares generalizing offset taken with
  | nil => exact ⟨[], rfl⟩
  | @cons argument token others rest declaresFirst declaresRest inductionHypothesis =>
    obtain ⟨untaken, restDistinct, restFree⟩ := nodup_free_cons_iff.1 ⟨distinct, free⟩
    obtain ⟨result, restRead⟩ : ∃ result, readArguments (offset + byteSize argument + 1)
        (token.2 :: taken) others = .ok result := inductionHypothesis restDistinct restFree
    exact ⟨_, readArguments_cons_eq_ok_iff.2 ⟨⟨token.1, token.2, _⟩, result, declaresFirst, rfl,
      untaken, restRead, rfl⟩⟩

/-! ### Declarations -/

/-- The code declares ports of these roles and names, in this order, each by one of the arguments:
the declaring word stands at one place, the arguments are the pieces between the commas of what
its parentheses hold, and no name occurs twice. -/
structure IsDeclaration (code : List Char) (arguments : List (List Char))
    (tokens : List (Role × String)) : Prop where
  listed : ∃ before gap list after, DeclaredAt code before gap (list ++ ')' :: after) ∧
    (∀ other otherGap otherRest, DeclaredAt code other otherGap otherRest → other = before) ∧
    '(' ∉ list ∧ arguments = Text.split ',' list
  declares : List.Forall₂ (fun argument token => Declares argument token.1 token.2) arguments tokens
  distinct : (tokens.map Prod.snd).Nodup

/-- What is declared is named by identifiers. -/
theorem IsDeclaration.isIdentifier {code : List Char} {arguments : List (List Char)}
    {tokens : List (Role × String)} (isDeclaration : IsDeclaration code arguments tokens) :
    ∀ token ∈ tokens, Text.isIdentifier token.2.toList = true := by
  have declares := isDeclaration.declares
  clear isDeclaration
  induction declares with
  | nil => exact fun _ member => absurd member List.not_mem_nil
  | cons first _ inductionHypothesis =>
    obtain ⟨_, _, _, -, -, -, -, -, isIdentifier⟩ := first
    exact List.forall_mem_cons.2 ⟨isIdentifier, inductionHypothesis⟩

/-- A declaration declares some port. -/
theorem IsDeclaration.tokens_ne_nil {code : List Char} {arguments : List (List Char)}
    {tokens : List (Role × String)} (isDeclaration : IsDeclaration code arguments tokens) :
    tokens ≠ [] := by
  rintro rfl
  obtain ⟨-, -, list, -, -, -, -, rfl⟩ := isDeclaration.listed
  exact pieces_ne_nil _ _ (List.forall₂_nil_right_iff.1 isDeclaration.declares)

theorem names_eq (declaration : Declaration) :
    declaration.names = ", ".intercalate (declaration.tokens.map Prod.snd) := by
  rw [names, tokens, List.map_map]
  rfl

/-- What stands in the argument list of a declaration: blanks, commas, and words that go on like
identifiers. -/
def isListed (character : Char) : Bool :=
  isBlank character || continuesIdentifier character || character == ','

/-- An argument that declares a port is made of blanks and of what identifiers go on with. -/
theorem isBlank_or_continues_of_declares {argument : List Char} {role : Role} {name : String}
    (declares : Declares argument role name) : ∀ character ∈ argument,
      isBlank character = true ∨ continuesIdentifier character = true := by
  obtain ⟨front, between, back, text, frontBlank, betweenBlank, -, backBlank, identifier⟩ := declares
  have inTag : role.tag.toList.all continuesIdentifier = true := by cases role <;> rfl
  intro character member
  by_cases breaks : character = '\n' ∨ character = '\r'
  · rcases breaks with rfl | rfl <;> exact .inl rfl
  · rw [not_or] at breaks
    have inText : character ∈ withoutBreaks argument :=
      List.mem_filter.2 ⟨member, by simp [breaks]⟩
    rw [text] at inText
    simp only [List.mem_append] at inText
    rcases inText with (((inFront | inRole) | inBetween) | inName) | inBack
    · exact .inl (frontBlank character inFront)
    · exact .inr (List.all_eq_true.1 inTag character inRole)
    · exact .inl (betweenBlank character inBetween)
    · exact .inr (continuesIdentifier_of_isIdentifier identifier character inName)
    · exact .inl (backBlank character inBack)

theorem isListed_of_declares {argument : List Char} {role : Role} {name : String}
    (declares : Declares argument role name) :
    ∀ character ∈ argument, isListed character = true := by
  intro character member
  rw [isListed, Bool.or_eq_true, Bool.or_eq_true]
  exact .inl (isBlank_or_continues_of_declares declares character member)

/-- No comma stands in an argument that declares a port. -/
theorem comma_not_mem_of_declares {argument : List Char} {role : Role} {name : String}
    (declares : Declares argument role name) : ',' ∉ argument := fun member =>
  absurd (isBlank_or_continues_of_declares declares ',' member) (by decide)

theorem not_mem_of_isListed {list : List Char} (listed : ∀ character ∈ list, isListed character = true)
    {character : Char} (other : isListed character = false) : character ∉ list := by
  intro member
  rw [listed character member] at other
  cases other

theorem not_blank_of_declares {argument : List Char} {role : Role} {name : String}
    (declares : Declares argument role name) : ¬ Blank argument := by
  intro blank
  have none : words (withoutBreaks argument) = [] :=
    words_of_blank fun character member => blank character (List.mem_of_mem_filter member)
  rw [(declares_iff_words.1 declares).1] at none
  cases none

theorem exists_declares_of_mem {arguments : List (List Char)} {tokens : List (Role × String)}
    (declares : List.Forall₂ (fun argument token => Declares argument token.1 token.2) arguments
      tokens) : ∀ argument ∈ arguments, ∃ role name, Declares argument role name := by
  intro argument member
  induction declares with
  | nil => cases member
  | @cons _ token _ _ first _ inductionHypothesis =>
    rcases List.mem_cons.1 member with rfl | later
    · exact ⟨token.1, token.2, first⟩
    · exact inductionHypothesis later

/-- A list whose pieces declare ports is made of what may stand in an argument list, and it is not
blank. -/
theorem listed_of_declares {list : List Char} {tokens : List (Role × String)}
    (declares : List.Forall₂ (fun argument token => Declares argument token.1 token.2)
      (Text.split ',' list) tokens) :
    (∀ character ∈ list, isListed character = true) ∧ ¬ Blank list := by
  have each := exists_declares_of_mem declares
  constructor
  · intro character member
    have placed := @mem_pieces_of_mem (· == ',') list character member
    rcases placed with comma | ⟨piece, inList, inPiece⟩
    · rw [isListed, comma, Bool.or_true]
    · obtain ⟨role, name, declared⟩ := each piece inList
      exact isListed_of_declares declared character inPiece
  · intro blank
    have whole : Text.split ',' list = [list] := by
      refine pieces_of_not_isSeparator fun character member => ?_
      have isBlank := blank character member
      rw [beq_eq_false_iff_ne]
      rintro rfl
      exact absurd isBlank (by decide)
    obtain ⟨role, name, declared⟩ := each list (by rw [whole]; exact List.mem_singleton_self list)
    exact not_blank_of_declares declared blank

theorem read_eq_ok_iff {source : String} {declaration : Declaration} :
    read source = .ok declaration ↔ ∃ site list result,
      onlySite (SourceText.blank source.toList) = .ok site ∧ body site = .ok list ∧
      readArguments (site.opening + 1) [] (Text.split ',' list) = .ok result ∧
      declaration = ⟨result.map Prod.fst, result.map Prod.snd, site.offset⟩ := by
  simp only [read, bind_eq_ok_iff]
  constructor
  · rintro ⟨site, siteRead, list, listRead, result, argumentsRead, done⟩
    exact ⟨site, list, result, siteRead, listRead, argumentsRead, (Except.ok.inj done).symm⟩
  · rintro ⟨site, list, result, siteRead, listRead, argumentsRead, rfl⟩
    exact ⟨site, siteRead, list, listRead, result, argumentsRead, rfl⟩

/-- What is read is a declaration of the ports that are answered. -/
theorem isDeclaration_of_read {source : String} {declaration : Declaration}
    (done : read source = .ok declaration) : ∃ arguments,
      IsDeclaration (SourceText.blank source.toList) arguments declaration.tokens ∧
      List.Forall₂ IsWritten declaration.arguments declaration.tokens := by
  obtain ⟨site, list, result, siteRead, listRead, argumentsRead, rfl⟩ := read_eq_ok_iff.1 done
  obtain ⟨before, gap, declared, unique, -, -⟩ := onlySite_eq_ok_iff.1 siteRead
  obtain ⟨after, rest, -, unnested, -⟩ := body_eq_ok_iff.1 listRead
  obtain ⟨declares, written, distinct, -⟩ := declares_of_readArguments argumentsRead
  rw [rest] at declared
  refine ⟨Text.split ',' list, ⟨⟨before, gap, list, after, declared, unique, unnested, rfl⟩, ?_, ?_⟩,
    ?_⟩
  · rw [tokens, List.map_map, List.forall₂_map_right_iff]
    exact declares
  · rw [tokens, List.map_map, List.map_map]
    exact distinct
  · rw [tokens, List.map_map, List.forall₂_map_right_iff, List.forall₂_map_left_iff,
      List.forall₂_same]
    exact written

/-- Every declaration is read. -/
theorem exists_read_of_isDeclaration {source : String} {arguments : List (List Char)}
    {tokens : List (Role × String)}
    (isDeclaration : IsDeclaration (SourceText.blank source.toList) arguments tokens) :
    ∃ declaration, read source = .ok declaration := by
  obtain ⟨before, gap, list, after, declared, unique, unnested, rfl⟩ := isDeclaration.listed
  obtain ⟨listed, notBlank⟩ := listed_of_declares isDeclaration.declares
  have unclosed : ')' ∉ list := not_mem_of_isListed listed (by decide)
  let site : Site := ⟨byteSize before, byteSize before + byteSize keyword + byteSize gap,
    list ++ ')' :: after⟩
  have siteRead : onlySite (SourceText.blank source.toList) = .ok site :=
    onlySite_eq_ok_iff.2 ⟨before, gap, declared, unique, rfl, rfl⟩
  have listRead : body site = .ok list :=
    body_eq_ok_iff.2 ⟨after, rfl, unclosed, unnested, notBlank⟩
  obtain ⟨result, argumentsRead⟩ : ∃ result,
      readArguments (site.opening + 1) [] (Text.split ',' list) = .ok result :=
    exists_readArguments isDeclaration.declares isDeclaration.distinct fun _ _ => List.not_mem_nil
  exact ⟨_, read_eq_ok_iff.2 ⟨site, list, result, siteRead, listRead, argumentsRead, rfl⟩⟩

/-- Reading accepts exactly the sources whose code is a declaration, and answers its ports and its
arguments in their order: of each argument the role and the name that it declares, and the tag and
the name with one blank between them. -/
theorem read_accepts_declarations (source : String) :
    ((∃ declaration, read source = .ok declaration) ↔
      ∃ arguments tokens, IsDeclaration (SourceText.blank source.toList) arguments tokens) ∧
    ∀ declaration, read source = .ok declaration → ∃ arguments,
      IsDeclaration (SourceText.blank source.toList) arguments declaration.tokens ∧
      List.Forall₂ IsWritten declaration.arguments declaration.tokens := by
  refine ⟨⟨?_, ?_⟩, fun declaration done => isDeclaration_of_read done⟩
  · rintro ⟨declaration, done⟩
    obtain ⟨arguments, isDeclaration, -⟩ := isDeclaration_of_read done
    exact ⟨arguments, declaration.tokens, isDeclaration⟩
  · rintro ⟨arguments, tokens, isDeclaration⟩
    exact exists_read_of_isDeclaration isDeclaration

/-- A source with a comment in its list of arguments, which is read. -/
theorem read_accepts_commented : ∃ arguments,
    IsDeclaration (SourceText.blank "A3_KERNEL(a3in_t a /* b */,\n a3reg_t\tn)".toList) arguments
      [(.input, "a"), (.register, "n")] ∧
    List.Forall₂ IsWritten ["a3in_t a", "a3reg_t\tn"] [(.input, "a"), (.register, "n")] :=
  (read_accepts_declarations _).2 ⟨["a3in_t a", "a3reg_t\tn"],
    [⟨.input, "a", 10⟩, ⟨.register, "n", 29⟩], 0⟩ (by decide)

end KernelExport.Declaration
