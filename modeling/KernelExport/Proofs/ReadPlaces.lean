/-
This file says which character of a source each offset points at that reading its declaration
reports.

The offsets are found in the code and are meant for the source. Both have their characters at the
same offsets, but the code does not tell a comment from blanks. So what a place is, is said by
the segments of the source: the declaring word is made of segments of code, with nothing but blanks
and comments behind it up to its parenthesis (`DeclaredIn`), the arguments are the segments between
the commas of its list, and an argument starts at the first of its segments that is neither a blank
nor a comment (`ShownAt`).

A port points at the start of its argument (`Points`). A fault is the first that the source has, in
the order in which they are looked for, and points at what is wrong (`Locates`): among the arguments
at the first for which there is something wrong, where each one in front of it declares a port of
another name.

Offsets of arguments are added up as the list is read, from pieces that have been cut out of the
code; `place_of_readArguments` and `faulty_of_readArguments` say at any point of that run which
piece has been reached.
-/

import KernelExport.Proofs.SegmentCode

namespace KernelExport

open Text SourceText

namespace Declaration

/-! ### The declaring word among segments -/

theorem bare_of_continuesIdentifier {character : Char}
    (continues : continuesIdentifier character = true) : Bare character := by
  refine ⟨isBlank_of_continuesIdentifier continues, Bool.eq_false_iff.2 fun quoted => ?_⟩
  rcases isQuote_iff.1 quoted with rfl | rfl <;> exact absurd continues (by decide)

theorem bare_of_mem_keyword : ∀ character ∈ keyword, Bare character :=
  fun character member => bare_of_continuesIdentifier
    (List.all_eq_true.1 (by decide : keyword.all continuesIdentifier = true) character member)

theorem bare_opening : Bare '(' := ⟨rfl, rfl⟩

theorem bare_closing : Bare ')' := ⟨rfl, rfl⟩

theorem bare_comma : Bare ',' := ⟨rfl, rfl⟩

/-- The declaring word stands on its own behind `before`, outside comments and literals; only
blanks and comments stand between it and the parenthesis that `rest` stands behind. -/
structure DeclaredIn (segments before gap rest : List Segment) : Prop where
  divided : segments = before ++ keyword.map .code ++ gap ++ .code '(' :: rest
  alone : ∀ character, before.getLast? = some (.code character) →
    continuesIdentifier character = false
  passed : ∀ segment ∈ gap, segment.isPassed = true

variable {segments : List Segment}

theorem DeclaredIn.declaredAt {before gap rest : List Segment} (quoted : Quoted segments)
    (declared : DeclaredIn segments before gap rest) :
    DeclaredAt (codeOf segments) (codeOf before) (codeOf gap) (codeOf rest) := by
  have quotedBefore : Quoted before := quoted.sublist (by simp [declared.divided])
  have quotedGap : Quoted gap := by
    refine quoted.sublist ?_
    rw [declared.divided, List.append_assoc]
    exact (List.sublist_append_left _ _).trans (List.sublist_append_right _ _)
  refine ⟨?_, ?_, (blank_codeOf_iff quotedGap).2 declared.passed⟩
  · rw [declared.divided]
    simp [Segment.blanked]
  · intro character ends
    by_contra continues
    rw [Bool.not_eq_false] at continues
    have last := (getLast?_codeOf quotedBefore (bare_of_continuesIdentifier continues)).1 ends
    rw [declared.alone character last] at continues
    cases continues

/-- Where the code declares the word, so do the segments. -/
theorem exists_declaredIn {before gap rest : List Char} (quoted : Quoted segments)
    (declared : DeclaredAt (codeOf segments) before gap rest) : ∃ earlier passed later,
      DeclaredIn segments earlier passed later ∧ codeOf earlier = before ∧ codeOf passed = gap ∧
      codeOf later = rest := by
  have divided := declared.text
  rw [List.append_assoc, List.append_assoc] at divided
  obtain ⟨first, others, keywordIs⟩ : ∃ first others, keyword = first :: others := ⟨_, _, rfl⟩
  have bare := bare_of_mem_keyword
  rw [keywordIs] at divided bare
  obtain ⟨earlier, behind, rfl, rfl, behindCode⟩ :=
    exists_of_codeOf_eq quoted (bare first List.mem_cons_self) divided
  have quotedBehind : Quoted behind := quoted.sublist
    ((List.sublist_cons_self _ _).trans (List.sublist_append_right _ _))
  obtain ⟨behindWord, rfl, wordCode⟩ := exists_of_codeOf_eq_append quotedBehind
    (fun character member => bare character (List.mem_cons_of_mem _ member)) behindCode
  have quotedWord : Quoted behindWord := quotedBehind.sublist (List.sublist_append_right _ _)
  obtain ⟨passed, later, rfl, rfl, rfl⟩ := exists_of_codeOf_eq quotedWord bare_opening wordCode
  refine ⟨earlier, passed, later, ⟨by simp [keywordIs], ?_, ?_⟩, rfl, rfl, rfl⟩
  · intro character last
    by_contra continues
    rw [Bool.not_eq_false] at continues
    have ends := (getLast?_codeOf (quoted.sublist (List.sublist_append_left _ _))
      (bare_of_continuesIdentifier continues)).2 last
    rw [declared.alone character ends] at continues
    cases continues
  · exact (blank_codeOf_iff (quotedWord.sublist (List.sublist_append_left _ _))).1 declared.blank

/-- The offsets of the sites are those at which the word is declared. -/
theorem mem_map_offset_sites_iff (quoted : Quoted segments) {place : Nat} :
    place ∈ (sites (codeOf segments)).map Site.offset ↔
      ∃ before gap rest, DeclaredIn segments before gap rest ∧ size before = place := by
  rw [List.mem_map]
  constructor
  · rintro ⟨site, member, rfl⟩
    obtain ⟨before, gap, declared, offset, -⟩ := mem_sites_iff.1 member
    obtain ⟨earlier, passed, later, declaredIn, rfl, -, -⟩ := exists_declaredIn quoted declared
    exact ⟨earlier, passed, later, declaredIn, by rw [offset, byteSize_codeOf]⟩
  · rintro ⟨before, gap, rest, declared, rfl⟩
    exact ⟨⟨byteSize (codeOf before), _, codeOf rest⟩,
      mem_sites_iff.2 ⟨_, _, declared.declaredAt quoted, rfl, rfl⟩, byteSize_codeOf before⟩

/-- The word is declared at one place; `head` is what stands in front of its parenthesis, and `rest`
what stands behind it. -/
structure OnlyIn (segments before head rest : List Segment) : Prop where
  declared : ∃ gap, DeclaredIn segments before gap rest ∧ head = before ++ keyword.map .code ++ gap
  only : ∀ other gap behind, DeclaredIn segments other gap behind → other = before

theorem OnlyIn.divided {before head rest : List Segment}
    (only : OnlyIn segments before head rest) : segments = head ++ .code '(' :: rest := by
  obtain ⟨gap, declared, rfl⟩ := only.declared
  exact declared.divided

theorem OnlyIn.quoted {before head rest : List Segment} (only : OnlyIn segments before head rest)
    (quoted : Quoted segments) : Quoted rest := by
  rw [only.divided] at quoted
  exact quoted.sublist ((List.sublist_cons_self _ _).trans (List.sublist_append_right _ _))

theorem exists_onlyIn {site : Site} (quoted : Quoted segments)
    (siteRead : onlySite (codeOf segments) = .ok site) : ∃ before head rest,
      OnlyIn segments before head rest ∧ site.offset = size before ∧ site.opening = size head ∧
      site.rest = codeOf rest := by
  obtain ⟨before, gap, declared, unique, offset, opening⟩ := onlySite_eq_ok_iff.1 siteRead
  obtain ⟨earlier, passed, later, declaredIn, rfl, rfl, rest⟩ := exists_declaredIn quoted declared
  refine ⟨earlier, earlier ++ keyword.map .code ++ passed, later, ⟨⟨passed, declaredIn, rfl⟩, ?_⟩,
    ?_, ?_, rest.symm⟩
  · intro other otherGap behind otherDeclared
    have same := otherDeclared.divided.symm.trans declaredIn.divided
    rw [List.append_assoc, List.append_assoc, List.append_assoc earlier,
      List.append_assoc earlier] at same
    exact eq_of_codeOf_eq same (unique _ _ _ (otherDeclared.declaredAt quoted))
  · rw [offset, byteSize_codeOf]
  · rw [opening, ← byteSize_codeOf, codeOf_append, codeOf_append, codeOf_map_code, byteSize_append,
      byteSize_append]

/-! ### Arguments and their offsets -/

/-- Something is wrong with the argument, when these names are taken. -/
inductive Faulty (taken : List String) (argument : List Char) : DeclarationError → Prop where
  | malformed {offset : Nat} (unpaired : ∀ tag name, words (withoutBreaks argument) ≠ [tag, name]) :
    Faulty taken argument (.malformedArgument (String.ofList (normalize argument)) offset)
  | unknownRole {tag name : List Char} {offset : Nat}
    (pair : words (withoutBreaks argument) = [tag, name])
    (unknown : ∀ role : Role, role.tag.toList ≠ tag) :
    Faulty taken argument (.unknownRole (String.ofList tag) offset)
  | invalidName {role : Role} {name : List Char} {offset : Nat}
    (pair : words (withoutBreaks argument) = [role.tag.toList, name])
    (invalid : isIdentifier name = false) :
    Faulty taken argument (.invalidName (String.ofList name) offset)
  | repeatedPort {role : Role} {name : String} {offset : Nat} (declares : Declares argument role name)
    (member : name ∈ taken) : Faulty taken argument (.repeatedPort name offset)

theorem Faulty.mono {taken others : List String} {argument : List Char} {fault : DeclarationError}
    (faulty : Faulty taken argument fault) (more : taken ⊆ others) : Faulty others argument fault := by
  cases faulty with
  | malformed unpaired => exact .malformed unpaired
  | unknownRole pair unknown => exact .unknownRole pair unknown
  | invalidName pair invalid => exact .invalidName pair invalid
  | repeatedPort declares member => exact .repeatedPort declares (more member)

theorem faulty_of_readPort {taken : List String} {argument : List Char} {offset : Nat}
    {fault : DeclarationError} (failed : readPort (normalize argument) offset = .error fault) :
    Faulty taken argument fault ∧ fault.offset? = some offset := by
  rw [readPort, words_normalize] at failed
  split at failed
  · rename_i tag name pair
    split at failed
    · rename_i unknown
      obtain rfl := Except.error.inj failed
      refine ⟨.unknownRole pair fun role same => ?_, rfl⟩
      rw [← same, String.ofList_toList, Role.ofTag?_tag] at unknown
      cases unknown
    · rename_i role known
      split at failed
      · cases failed
      · rename_i invalid
        obtain rfl := Except.error.inj failed
        have tagIs : role.tag.toList = tag := by
          rw [← ofTag?_eq_some_iff.1 known, String.toList_ofList]
        exact ⟨.invalidName (by rw [pair, tagIs]) (Bool.eq_false_iff.2 invalid), rfl⟩
  · rename_i unpaired
    obtain rfl := Except.error.inj failed
    exact ⟨.malformed unpaired, rfl⟩

/-- Reading fails at the first argument, or behind it when it declares a port of a new name. -/
theorem readArguments_cons_eq_error {offset : Nat} {taken : List String} {argument : List Char}
    {others : List (List Char)} {fault : DeclarationError}
    (failed : readArguments offset taken (argument :: others) = .error fault) :
    (Faulty taken argument fault ∧
      fault.offset? = some (offset + byteSize (argument.takeWhile isBlank))) ∨
    ∃ role name, Declares argument role name ∧ name ∉ taken ∧
      readArguments (offset + byteSize argument + 1) (name :: taken) others = .error fault := by
  rw [readArguments] at failed
  rcases bind_eq_error_iff.1 failed with portFailed | ⟨port, portRead, continued⟩
  · exact .inl (faulty_of_readPort portFailed)
  obtain ⟨declares, -⟩ := readPort_normalize_eq_ok_iff.1 portRead
  by_cases takenBefore : port.name ∈ taken
  · rw [if_pos takenBefore] at continued
    obtain rfl := Except.error.inj continued
    exact .inl ⟨.repeatedPort declares takenBefore, rfl⟩
  · rw [if_neg takenBefore] at continued
    rcases bind_eq_error_iff.1 continued with restFailed | ⟨rest, -, ended⟩
    · exact .inr ⟨port.role, port.name, declares, takenBefore, restFailed⟩
    · cases ended

/-- Where an argument starts in a list that stands at an offset, behind earlier arguments and their
commas. -/
def startOf (offset : Nat) (earlier : List (List Char)) : Nat :=
  offset + byteSize (earlier.flatMap (· ++ [',']))

theorem startOf_cons (offset : Nat) (argument : List Char) (earlier : List (List Char)) :
    startOf offset (argument :: earlier) = startOf (offset + byteSize argument + 1) earlier := by
  have comma : Char.utf8Size ',' = 1 := rfl
  simp only [startOf, List.flatMap_cons, byteSize_append, byteSize_cons, byteSize_nil, comma]
  omega

/-- What is read of an argument is the port that it declares, with the offset of its first
character that is not blank. -/
theorem place_of_readArguments {offset : Nat} {taken : List String} {argument : List Char}
    {earlier later : List (List Char)} {result : List (String × Port)}
    (done : readArguments offset taken (earlier ++ argument :: later) = .ok result) :
    ∃ entry, result[earlier.length]? = some entry ∧
      Declares argument entry.2.role entry.2.name ∧
      entry.2.offset = startOf offset earlier + byteSize (argument.takeWhile isBlank) := by
  induction earlier generalizing offset taken result with
  | nil =>
    obtain ⟨port, rest, declares, place, -, -, rfl⟩ := readArguments_cons_eq_ok_iff.1 done
    exact ⟨_, rfl, declares, place⟩
  | cons first earlier inductionHypothesis =>
    obtain ⟨port, rest, -, -, -, restRead, rfl⟩ := readArguments_cons_eq_ok_iff.1 done
    rw [startOf_cons]
    exact inductionHypothesis restRead

/-- The ports that are read stand one behind the other, from the start of the list on. -/
theorem pairwise_of_readArguments {offset : Nat} {taken : List String}
    {arguments : List (List Char)} {result : List (String × Port)}
    (done : readArguments offset taken arguments = .ok result) :
    (∀ entry ∈ result, offset ≤ entry.2.offset) ∧
      result.Pairwise fun first second => first.2.offset < second.2.offset := by
  induction arguments generalizing offset taken result with
  | nil =>
    rw [readArguments] at done
    obtain rfl := Except.ok.inj done
    exact ⟨fun _ member => absurd member List.not_mem_nil, .nil⟩
  | cons argument others inductionHypothesis =>
    obtain ⟨port, rest, -, place, -, restRead, rfl⟩ := readArguments_cons_eq_ok_iff.1 done
    obtain ⟨restBehind, restOrdered⟩ := inductionHypothesis restRead
    have blanks : byteSize (argument.takeWhile isBlank) ≤ byteSize argument := by
      conv_rhs => rw [← List.takeWhile_append_dropWhile (p := isBlank) (l := argument)]
      rw [byteSize_append]
      exact Nat.le_add_right _ _
    have before : ∀ entry ∈ rest, port.offset < entry.2.offset := by
      intro entry member
      have := restBehind entry member
      omega
    refine ⟨fun entry member => ?_, .cons before restOrdered⟩
    rcases List.mem_cons.1 member with rfl | later
    · exact place ▸ Nat.le_add_right _ _
    · have := restBehind entry later
      omega

/-- Reading fails at an argument for which something is wrong, behind arguments that declare ports
of different names. -/
theorem faulty_of_readArguments {offset : Nat} {taken : List String} {arguments : List (List Char)}
    {fault : DeclarationError} (failed : readArguments offset taken arguments = .error fault) :
    ∃ earlier argument later tokens, arguments = earlier ++ argument :: later ∧
      List.Forall₂ (fun argument token => Declares argument token.1 token.2) earlier tokens ∧
      (tokens.map Prod.snd).Nodup ∧ (∀ name ∈ tokens.map Prod.snd, name ∉ taken) ∧
      Faulty (tokens.map Prod.snd ++ taken) argument fault ∧
      fault.offset? = some (startOf offset earlier + byteSize (argument.takeWhile isBlank)) := by
  induction arguments generalizing offset taken with
  | nil => cases failed
  | cons argument others inductionHypothesis =>
    rcases readArguments_cons_eq_error failed with ⟨faulty, place⟩ |
      ⟨role, name, declares, free, restFailed⟩
    · exact ⟨[], argument, others, [], rfl, .nil, List.nodup_nil,
        fun _ member => absurd member List.not_mem_nil, faulty, place⟩
    · obtain ⟨earlier, faultyArgument, later, tokens, rfl, restDeclares, distinct, restFree, faulty,
        place⟩ := inductionHypothesis restFailed
      obtain ⟨allDistinct, allFree⟩ := nodup_free_cons_iff.2 ⟨free, distinct, restFree⟩
      refine ⟨argument :: earlier, faultyArgument, later, (role, name) :: tokens, rfl,
        .cons declares restDeclares, allDistinct, allFree, faulty.mono fun other member => ?_,
        by rw [startOf_cons, place]⟩
      simp only [List.map_cons, List.cons_append, List.mem_cons, List.mem_append] at member ⊢
      tauto

/-! ### Arguments among segments -/

/-- The place is that of the first character in a part of the segments that is neither a blank nor in
a comment; `front` is what stands in front of the part. -/
def ShownAt (front part : List Segment) (place : Nat) : Prop :=
  ∃ passed shown more, part = passed ++ shown :: more ∧
    (∀ segment ∈ passed, segment.isPassed = true) ∧ shown.isPassed = false ∧
    place = size (front ++ passed)

theorem shownAt_of_not_passed {front part : List Segment}
    (shows : ¬∀ segment ∈ part, segment.isPassed = true) :
    ShownAt front part (size front + size (part.takeWhile Segment.isPassed)) := by
  have whole := List.takeWhile_append_dropWhile (p := Segment.isPassed) (l := part)
  cases rest : part.dropWhile Segment.isPassed with
  | nil =>
    rw [rest, List.append_nil] at whole
    rw [← whole] at shows
    exact absurd (fun segment member => List.all_eq_true.1 List.all_takeWhile segment member) shows
  | cons shown more =>
    have stops := List.head?_dropWhile_not Segment.isPassed part
    rw [rest] at stops whole
    refine ⟨_, shown, more, whole.symm, fun segment member => ?_, by simpa using stops,
      (size_append _ _).symm⟩
    exact List.all_eq_true.1 List.all_takeWhile segment member

/-- What stands in front of an argument: the head of the declaration, the parenthesis, and earlier
arguments with their commas. -/
def inFrontOf (head : List Segment) (earlier : List (List Segment)) : List Segment :=
  head ++ .code '(' :: earlier.flatMap (· ++ [.code ','])

theorem size_inFrontOf (head : List Segment) (earlier : List (List Segment)) :
    size (inFrontOf head earlier) = startOf (size head + 1) (earlier.map codeOf) := by
  have opening : Char.utf8Size '(' = 1 := rfl
  have arguments : codeOf (earlier.flatMap (· ++ [.code ','])) =
      (earlier.map codeOf).flatMap (· ++ [',']) := by
    rw [codeOf, List.flatMap_assoc, List.flatMap_map]
    simp [codeOf, Segment.blanked]
  rw [inFrontOf, startOf, ← byteSize_codeOf, codeOf_append, codeOf_cons, arguments,
    byteSize_append, byteSize_append, byteSize_codeOf, Segment.blanked, byteSize_cons, byteSize_nil,
    opening]
  omega

theorem intercalate_append_cons {Element : Type} (separator : List Element)
    (earlier later : List (List Element)) (part : List Element) :
    separator.intercalate (earlier ++ part :: later) =
      earlier.flatMap (· ++ separator) ++ (part ++ later.flatMap (separator ++ ·)) := by
  induction earlier with
  | nil =>
    induction later generalizing part with
    | nil => simp
    | cons next others inductionHypothesis =>
      have rest := inductionHypothesis next
      rw [List.flatMap_nil, List.nil_append, List.nil_append] at rest ⊢
      rw [List.intercalate_cons_cons, rest, List.flatMap_cons, List.append_assoc, List.append_assoc]
  | cons first others inductionHypothesis =>
    have some : others ++ part :: later ≠ [] := by simp
    obtain ⟨next, more, rest⟩ := List.exists_cons_of_ne_nil some
    rw [List.cons_append, rest, List.intercalate_cons_cons, ← rest, inductionHypothesis,
      List.flatMap_cons]
    simp only [List.append_assoc]

/-- An argument of a list stands behind the earlier ones, and a comma or the parenthesis that closes
the list stands behind it. -/
theorem exists_stop (head after : List Segment) {list argument : List Segment}
    {earlier later : List (List Segment)}
    (arguments : list.splitOn (.code ',') = earlier ++ argument :: later) :
    ∃ stop behind, (stop = ',' ∨ stop = ')') ∧ head ++ .code '(' :: (list ++ .code ')' :: after) =
      inFrontOf head earlier ++ argument ++ .code stop :: behind := by
  have listIs : list = earlier.flatMap (· ++ [.code ',']) ++
      (argument ++ later.flatMap ([.code ','] ++ ·)) := by
    rw [← intercalate_append_cons, ← arguments, List.intercalate_splitOn]
  cases later with
  | nil => exact ⟨')', after, .inr rfl, by rw [listIs]; simp [inFrontOf]⟩
  | cons next others => exact ⟨',', _, .inl rfl, by rw [listIs]; simp [inFrontOf]; rfl⟩

/-! ### Places -/

/-- What is read of a source points into it: the declaration at its word, and each port at the start
of the argument that declares it. -/
structure Points (segments before head list after : List Segment) (declaration : Declaration) :
    Prop where
  only : OnlyIn segments before head (list ++ .code ')' :: after)
  unclosed : .code ')' ∉ list
  word : declaration.offset = size before
  count : declaration.ports.length = (list.splitOn (.code ',')).length
  port : ∀ earlier argument later, list.splitOn (.code ',') = earlier ++ argument :: later →
    ∃ port, declaration.ports[earlier.length]? = some port ∧
      Declares (codeOf argument) port.role port.name ∧
      ShownAt (inFrontOf head earlier) argument port.offset

/-- The fault is the first that the segments have, and its offset is that of what is wrong. -/
inductive Locates (segments : List Segment) : DeclarationError → Prop where
  | notFound (none : ∀ before gap rest, ¬DeclaredIn segments before gap rest) :
    Locates segments .notFound
  /-- The second of all offsets at which the word is declared. -/
  | repeated {offsets : List Nat} {offset : Nat} (ordered : offsets.Pairwise (· < ·))
    (all : ∀ place, place ∈ offsets ↔
      ∃ before gap rest, DeclaredIn segments before gap rest ∧ size before = place)
    (second : offsets[1]? = some offset) : Locates segments (.repeated offsets.length offset)
  /-- The parenthesis that opens the list. -/
  | unterminated {before head rest : List Segment} (only : OnlyIn segments before head rest)
    (unclosed : .code ')' ∉ rest) : Locates segments (.unterminated (size head))
  /-- The first parenthesis that opens in the list. -/
  | nestedParenthesis {before head front list after : List Segment}
    (only : OnlyIn segments before head (front ++ .code '(' :: list ++ .code ')' :: after))
    (unclosed : .code ')' ∉ front ++ .code '(' :: list) (first : .code '(' ∉ front) :
    Locates segments (.nestedParenthesis (size (head ++ .code '(' :: front)))
  /-- The parenthesis that opens the list. -/
  | noPorts {before head list after : List Segment}
    (only : OnlyIn segments before head (list ++ .code ')' :: after))
    (empty : ∀ segment ∈ list, segment.isPassed = true) : Locates segments (.noPorts (size head))
  /-- The start of the first argument for which something is wrong, or what ends it. -/
  | argument {before head list after argument behind : List Segment} {stop : Char}
    {earlier later : List (List Segment)} {tokens : List (Role × String)} {fault : DeclarationError}
    {offset : Nat} (only : OnlyIn segments before head (list ++ .code ')' :: after))
    (unclosed : .code ')' ∉ list) (unnested : .code '(' ∉ list)
    (arguments : list.splitOn (.code ',') = earlier ++ argument :: later)
    (declares : List.Forall₂ (fun argument token => Declares (codeOf argument) token.1 token.2)
      earlier tokens)
    (distinct : (tokens.map Prod.snd).Nodup)
    (faulty : Faulty (tokens.map Prod.snd) (codeOf argument) fault)
    (stops : stop = ',' ∨ stop = ')')
    (divided : segments = inFrontOf head earlier ++ argument ++ .code stop :: behind)
    (shown : ShownAt (inFrontOf head earlier) (argument ++ [.code stop]) offset)
    (place : fault.offset? = some offset) : Locates segments fault

/-- The text stands in the source at a byte offset. -/
def StandsAt (source : String) (offset : Nat) (text : List Char) : Prop :=
  ∃ before after, source.toList = before ++ text ++ after ∧ byteSize before = offset

/-- What stands at the offset of a fault. -/
def Shows : DeclarationError → List Char → Prop
  | .notFound, _ => False
  | .repeated _ _, text => text = keyword
  | .unterminated _, text | .noPorts _, text | .nestedParenthesis _, text => text = ['(']
  | .malformedArgument _ _, text | .unknownRole _ _, text | .invalidName _ _, text
  | .repeatedPort _ _, text => ∃ character, isBlank character = false ∧ text = [character]

/-! ### Every fault is located -/

section Faults

variable {before head rest list after : List Segment} {fault : DeclarationError}

theorem locates_of_onlySite (quoted : Quoted segments)
    (failed : onlySite (codeOf segments) = .error fault) : Locates segments fault := by
  have all : ∀ place, place ∈ (sites (codeOf segments)).map Site.offset ↔
      ∃ before gap rest, DeclaredIn segments before gap rest ∧ size before = place :=
    fun _ => mem_map_offset_sites_iff quoted
  have ordered : ((sites (codeOf segments)).map Site.offset).Pairwise (· < ·) :=
    List.pairwise_map.2 (pairwise_sitesFrom 0 none (codeOf segments))
  rw [onlySite] at failed
  split at failed
  · rename_i none
    obtain rfl := Except.error.inj failed
    refine .notFound fun before gap rest declared => ?_
    have member := (all (size before)).2 ⟨before, gap, rest, declared, rfl⟩
    rw [none] at member
    exact List.not_mem_nil member
  · cases failed
  · rename_i first second others equal
    obtain rfl := Except.error.inj failed
    rw [equal] at all ordered
    rw [← List.length_map Site.offset]
    exact .repeated ordered all rfl

theorem locates_of_body {site : Site} (quoted : Quoted segments)
    (only : OnlyIn segments before head rest) (opening : site.opening = size head)
    (restIs : site.rest = codeOf rest) (failed : body site = .error fault) :
    Locates segments fault := by
  have quotedRest := only.quoted quoted
  rw [body, restIs, opening] at failed
  by_cases closed : ')' ∈ codeOf rest
  · obtain ⟨inside, behind, restCode, unclosed⟩ := List.eq_append_cons_of_mem closed
    obtain ⟨list, after, rfl, rfl, rfl⟩ := exists_of_codeOf_eq quotedRest bare_closing restCode
    have quotedList : Quoted list := quotedRest.sublist (List.sublist_append_left _ _)
    rw [if_pos closed, restCode] at failed
    simp only [takeWhile_append_stop unclosed] at failed
    rw [mem_codeOf_iff quotedList bare_closing] at unclosed
    by_cases nested : '(' ∈ codeOf list
    · obtain ⟨front, more, listCode, first⟩ := List.eq_append_cons_of_mem nested
      rw [if_pos nested, listCode] at failed
      simp only [takeWhile_append_stop first] at failed
      obtain ⟨passed, others, rfl, rfl, rfl⟩ :=
        exists_of_codeOf_eq quotedList bare_opening listCode
      rw [mem_codeOf_iff (quotedList.sublist (List.sublist_append_left _ _)) bare_opening] at first
      have place : size head + 1 + byteSize (codeOf passed) = size (head ++ .code '(' :: passed) := by
        rw [← byteSize_codeOf (head ++ _), codeOf_append, codeOf_cons, byteSize_append,
          byteSize_append, byteSize_codeOf head, Nat.add_assoc]
        rfl
      rw [place] at failed
      obtain rfl := Except.error.inj failed
      exact .nestedParenthesis only unclosed first
    · rw [if_neg nested] at failed
      split at failed
      · rename_i blank
        obtain rfl := Except.error.inj failed
        exact .noPorts only ((blank_codeOf_iff quotedList).1 (List.all_eq_true.1 blank))
      · cases failed
  · rw [if_neg closed] at failed
    obtain rfl := Except.error.inj failed
    exact .unterminated only fun member =>
      closed ((mem_codeOf_iff quotedRest bare_closing).2 member)

/-- The list that is read is the code of the segments up to the parenthesis that closes it. -/
theorem exists_list {site : Site} {text : List Char} (quotedRest : Quoted rest)
    (restIs : site.rest = codeOf rest) (listRead : body site = .ok text) :
    ∃ list after, rest = list ++ .code ')' :: after ∧ .code ')' ∉ list ∧ .code '(' ∉ list ∧
      codeOf list = text := by
  obtain ⟨behind, restCode, unclosed, unnested, -⟩ := body_eq_ok_iff.1 listRead
  obtain ⟨list, after, rfl, rfl, -⟩ :=
    exists_of_codeOf_eq quotedRest bare_closing (restIs.symm.trans restCode)
  have quotedList : Quoted list := quotedRest.sublist (List.sublist_append_left _ _)
  rw [mem_codeOf_iff quotedList bare_closing] at unclosed
  rw [mem_codeOf_iff quotedList bare_opening] at unnested
  exact ⟨list, after, rfl, unclosed, unnested, rfl⟩

/-- A piece of the code of a list is the code of an argument, and the pieces in front of it are those
of earlier arguments. -/
theorem exists_arguments {earlier later : List (List Char)} {piece : List Char}
    (quotedList : Quoted list)
    (pieces : Text.split ',' (codeOf list) = earlier ++ piece :: later) :
    ∃ front argument behind, list.splitOn (.code ',') = front ++ argument :: behind ∧
      front.map codeOf = earlier ∧ codeOf argument = piece := by
  rw [split_codeOf quotedList bare_comma] at pieces
  obtain ⟨front, others, arguments, frontCode, othersCode⟩ := List.map_eq_append_iff.1 pieces
  obtain ⟨argument, behind, rfl, argumentCode, -⟩ := List.map_eq_cons_iff.1 othersCode
  exact ⟨front, argument, behind, arguments, frontCode, argumentCode⟩

theorem quoted_of_mem_splitOn (quotedList : Quoted list) {argument : List Segment}
    {earlier later : List (List Segment)}
    (arguments : list.splitOn (.code ',') = earlier ++ argument :: later) : Quoted argument := by
  refine quotedList.sublist ?_
  have whole : [Segment.code ','].intercalate (list.splitOn (.code ',')) = list :=
    List.intercalate_splitOn _
  rw [← whole, arguments, intercalate_append_cons]
  exact (List.sublist_append_left _ _).trans (List.sublist_append_right _ _)

/-- A character that fails the test ends what is taken, also when nothing before it fails. -/
theorem takeWhile_append_cons_of_neg {test : Char → Bool} {stop : Char} (fails : ¬test stop)
    (front back : List Char) : (front ++ stop :: back).takeWhile test = front.takeWhile test := by
  induction front with
  | nil => exact List.takeWhile_cons_of_neg fails
  | cons character front inductionHypothesis =>
    rw [List.cons_append, List.takeWhile_cons, List.takeWhile_cons, inductionHypothesis]

/-- Where the first character of an argument stands that is neither a blank nor in a comment, as it
is found by the blanks at the front of its code. -/
theorem shownAt_argument {argument : List Segment} {earlier : List (List Segment)}
    (quoted : Quoted argument) (shows : ¬∀ segment ∈ argument, segment.isPassed = true) :
    ShownAt (inFrontOf head earlier) argument (startOf (size head + 1) (earlier.map codeOf) +
      byteSize ((codeOf argument).takeWhile isBlank)) := by
  rw [takeWhile_codeOf quoted, byteSize_codeOf, ← size_inFrontOf]
  exact shownAt_of_not_passed shows

theorem locates_of_readArguments (quoted : Quoted segments)
    (only : OnlyIn segments before head (list ++ .code ')' :: after))
    (unclosed : .code ')' ∉ list) (unnested : .code '(' ∉ list)
    (failed : readArguments (size head + 1) [] (Text.split ',' (codeOf list)) = .error fault) :
    Locates segments fault := by
  have quotedList : Quoted list := (only.quoted quoted).sublist (List.sublist_append_left _ _)
  obtain ⟨earlier, piece, later, tokens, pieces, declares, distinct, -, faulty, place⟩ :=
    faulty_of_readArguments failed
  obtain ⟨front, argument, behind, arguments, rfl, rfl⟩ := exists_arguments quotedList pieces
  obtain ⟨stop, rest, stops, divided⟩ := exists_stop head after arguments
  rw [List.append_nil] at faulty
  rw [List.forall₂_map_left_iff] at declares
  refine .argument only unclosed unnested arguments declares distinct faulty stops
    (only.divided.trans divided) ?_ place
  have notPassed : (Segment.code stop).isPassed = false := by rcases stops with rfl | rfl <;> rfl
  have sameBlanks : (codeOf (argument ++ [.code stop])).takeWhile isBlank =
      (codeOf argument).takeWhile isBlank := by
    rw [codeOf_append]
    have fails : isBlank stop = false := notPassed
    exact takeWhile_append_cons_of_neg (by simp [fails]) (codeOf argument) []
  rw [← sameBlanks]
  refine shownAt_argument ?_ fun passed => ?_
  · intro quote inside closed member
    rcases List.mem_append.1 member with inArgument | isStop
    · exact quoted_of_mem_splitOn quotedList arguments inArgument
    · cases List.mem_singleton.1 isStop
  · rw [passed _ (List.mem_append_right _ List.mem_cons_self)] at notPassed
    cases notPassed

end Faults

theorem points_of_readArguments {before head list after : List Segment} {site : Site}
    {result : List (String × Port)} (quoted : Quoted segments)
    (only : OnlyIn segments before head (list ++ .code ')' :: after)) (unclosed : .code ')' ∉ list)
    (word : site.offset = size before)
    (done : readArguments (size head + 1) [] (Text.split ',' (codeOf list)) = .ok result) :
    Points segments before head list after
      ⟨result.map Prod.fst, result.map Prod.snd, site.offset⟩ := by
  have quotedList : Quoted list := (only.quoted quoted).sublist (List.sublist_append_left _ _)
  rw [split_codeOf quotedList bare_comma] at done
  refine ⟨only, unclosed, word, ?_, fun earlier argument later arguments => ?_⟩
  · have count := (declares_of_readArguments done).1.length_eq
    rw [List.length_map] at count ⊢
    exact count.symm
  · rw [arguments, List.map_append, List.map_cons] at done
    obtain ⟨entry, found, declares, place⟩ := place_of_readArguments done
    rw [List.length_map] at found
    refine ⟨entry.2, by simp [found], declares, place ▸ shownAt_argument
      (quoted_of_mem_splitOn quotedList arguments) fun passed => ?_⟩
    exact not_blank_of_declares declares
      ((blank_codeOf_iff (quoted_of_mem_splitOn quotedList arguments)).2 passed)

/-- Each step of reading fails only with what is wrong there, after the earlier steps have found
nothing wrong. -/
theorem locates_of_read {source : String} {fault : DeclarationError}
    (divides : Divides segments source.toList) (failed : read source = .error fault) :
    Locates segments fault := by
  have quoted := divides.quoted
  have code : SourceText.blank source.toList = codeOf segments := blank_of_divides divides
  rw [read, code] at failed
  rcases bind_eq_error_iff.1 failed with siteFailed | ⟨site, siteRead, behindSite⟩
  · exact locates_of_onlySite quoted siteFailed
  obtain ⟨before, head, rest, only, -, opening, restIs⟩ := exists_onlyIn quoted siteRead
  rcases bind_eq_error_iff.1 behindSite with listFailed | ⟨text, listRead, behindList⟩
  · exact locates_of_body quoted only opening restIs listFailed
  obtain ⟨list, after, rfl, unclosed, unnested, rfl⟩ :=
    exists_list (only.quoted quoted) restIs listRead
  rcases bind_eq_error_iff.1 behindList with argumentsFailed | ⟨result, -, ended⟩
  · rw [opening] at argumentsFailed
    exact locates_of_readArguments quoted only unclosed unnested argumentsFailed
  · cases ended

/-! ### Places in the source -/

/-- What is written at the front of a part of the segments stands in their source where the part
does. -/
theorem standsAt_of_divides {source : String} (divides : Divides segments source.toList)
    {front part : List Segment} {text behind : List Char} (divided : segments = front ++ part)
    (written : part.flatMap Segment.text = text ++ behind) : StandsAt source (size front) text := by
  refine ⟨front.flatMap Segment.text, behind, ?_, rfl⟩
  rw [text_of_divides divides, divided, List.flatMap_append, written, List.append_assoc]

theorem DeclaredIn.standsAt {source : String} {before gap rest : List Segment}
    (divides : Divides segments source.toList) (declared : DeclaredIn segments before gap rest) :
    StandsAt source (size before) keyword := by
  have divided := declared.divided
  rw [List.append_assoc, List.append_assoc] at divided
  exact standsAt_of_divides divides divided rfl

/-- What stands at the offset of a fault is what is wrong. -/
theorem Locates.exists_standsAt {source : String} (divides : Divides segments source.toList)
    {fault : DeclarationError} (locates : Locates segments fault) {offset : Nat}
    (place : fault.offset? = some offset) : ∃ text, Shows fault text ∧
      StandsAt source offset text := by
  cases locates with
  | notFound none => cases place
  | repeated ordered all second =>
    obtain rfl := Option.some.inj place
    obtain ⟨before, gap, rest, declared, rfl⟩ := (all _).1 (List.mem_of_getElem? second)
    exact ⟨keyword, rfl, declared.standsAt divides⟩
  | unterminated only unclosed =>
    obtain rfl := Option.some.inj place
    exact ⟨['('], rfl, standsAt_of_divides divides only.divided rfl⟩
  | @nestedParenthesis _ head front list after only unclosed first =>
    obtain rfl := Option.some.inj place
    have parted : segments = (head ++ .code '(' :: front) ++
        .code '(' :: (list ++ .code ')' :: after) := by
      rw [only.divided]
      simp only [List.append_assoc, List.cons_append]
    exact ⟨['('], rfl, standsAt_of_divides divides parted rfl⟩
  | noPorts only empty =>
    obtain rfl := Option.some.inj place
    exact ⟨['('], rfl, standsAt_of_divides divides only.divided rfl⟩
  | @argument _ head _ _ argument behind _ earlier _ _ _ _ only unclosed unnested arguments declares
      distinct faulty stops divided shown found =>
    obtain rfl := Option.some.inj (found.symm.trans place)
    obtain ⟨passed, first, more, part, -, notPassed, rfl⟩ := shown
    have parted : segments = inFrontOf head earlier ++ passed ++ first :: (more ++ behind) := by
      rw [divided, List.append_cons, List.append_assoc _ argument, part]
      simp only [List.append_assoc, List.cons_append]
    obtain ⟨character, written, -, notBlank, text, -⟩ :=
      Segment.exists_of_not_isPassed (divides.quoted.sublist (by rw [parted]; simp)) notPassed
    have stands : StandsAt source (size (inFrontOf head earlier ++ passed)) [character] :=
      standsAt_of_divides divides parted (by rw [List.flatMap_cons, text]; rfl)
    refine ⟨[character], ?_, stands⟩
    cases faulty <;> exact ⟨character, notBlank, rfl⟩

/-- Where a text stands there is a boundary between characters, in front of the end. -/
theorem StandsAt.isValid {source : String} {offset : Nat} {text : List Char}
    (stands : StandsAt source offset text) (some : text ≠ []) :
    String.Pos.Raw.IsValid source ⟨offset⟩ ∧ offset < source.utf8ByteSize := by
  obtain ⟨before, after, divided, rfl⟩ := stands
  have sourceIs : source = String.ofList before ++ String.ofList (text ++ after) := by
    rw [← String.ofList_append, ← List.append_assoc, ← divided, String.ofList_toList]
  constructor
  · exact String.Pos.Raw.isValid_iff_exists_append.2
      ⟨_, _, sourceIs, by rw [← utf8ByteSize_ofList]; rfl⟩
  · obtain ⟨first, rest, rfl⟩ := List.exists_cons_of_ne_nil some
    have positive := first.utf8Size_pos
    rw [sourceIs, String.utf8ByteSize_append, utf8ByteSize_ofList, utf8ByteSize_ofList,
      List.cons_append, byteSize_cons]
    omega

theorem Shows.ne_nil {fault : DeclarationError} {text : List Char} (shows : Shows fault text) :
    text ≠ [] := by
  cases fault with
  | notFound => cases shows
  | repeated | unterminated | noPorts | nestedParenthesis =>
    obtain rfl := shows
    exact List.cons_ne_nil _ _
  | malformedArgument | unknownRole | invalidName | repeatedPort =>
    obtain ⟨character, -, rfl⟩ := shows
    exact List.cons_ne_nil _ _

/-- Whatever reading a source answers, its offsets point into the source: those of a declaration at
its word and at the starts of its arguments, one behind the other, and that of a fault at the first
thing that is wrong, which is never the end of the source. -/
theorem read_places {source : String} (divides : Divides segments source.toList) :
    (∀ declaration, read source = .ok declaration →
      StandsAt source declaration.offset keyword ∧
      (declaration.ports.map Port.offset).Pairwise (· < ·) ∧
      ∃ before head list after, Points segments before head list after declaration) ∧
    ∀ fault, read source = .error fault → Locates segments fault ∧
      ∀ offset, fault.offset? = some offset →
        String.Pos.Raw.IsValid source ⟨offset⟩ ∧ offset < source.utf8ByteSize ∧
        ∃ text, Shows fault text ∧ StandsAt source offset text := by
  have code : SourceText.blank source.toList = codeOf segments := blank_of_divides divides
  have quoted := divides.quoted
  constructor
  · intro declaration done
    obtain ⟨site, text, result, siteRead, listRead, argumentsRead, rfl⟩ := read_eq_ok_iff.1 done
    rw [code] at siteRead
    obtain ⟨before, head, rest, only, word, opening, restIs⟩ := exists_onlyIn quoted siteRead
    obtain ⟨list, after, rfl, unclosed, unnested, rfl⟩ :=
      exists_list (only.quoted quoted) restIs listRead
    rw [opening] at argumentsRead
    refine ⟨?_, ?_, before, head, list, after,
      points_of_readArguments quoted only unclosed word argumentsRead⟩
    · obtain ⟨gap, declared, -⟩ := only.declared
      exact word ▸ declared.standsAt divides
    · rw [List.map_map]
      exact List.pairwise_map.2 (pairwise_of_readArguments argumentsRead).2
  · intro fault failed
    have locates := locates_of_read divides failed
    refine ⟨locates, fun offset place => ?_⟩
    obtain ⟨text, shows, stands⟩ := locates.exists_standsAt divides place
    obtain ⟨isValid, less⟩ := stands.isValid shows.ne_nil
    exact ⟨isValid, less, text, shows, stands⟩

/-- The segments of a source with a comment that holds a comma, in front of an argument of this
name. -/
def commentedSegments (name : Char) : List Segment :=
  "A3_KERNEL(a3in_t a,".toList.map .code ++
    .blockComment " , ".toList true :: " a3in_t ".toList.map .code ++ [.code name, .code ')']

theorem divides_commented {name : Char} (plain : isPlain name = true) : Divides
    (commentedSegments name) ("A3_KERNEL(a3in_t a,".toList ++
      '/' :: '*' :: (" , ".toList ++ '*' :: '/' :: (" a3in_t ".toList ++ [name, ')']))) := by
  have ending : [name, ')'].all isPlain = true := by
    rw [List.all_cons, plain]
    rfl
  have last := (Divides.nil.behind ending).behind
    (by decide : " a3in_t ".toList.all isPlain = true)
  have comment := Divides.blockComment (by decide +kernel : Unclosed " , ".toList) last
  exact comment.behind (by decide : "A3_KERNEL(a3in_t a,".toList.all isPlain = true)

/-- The second port points behind the comment, and so does the fault that its name is taken. -/
theorem read_places_commented :
    (∃ before head list after, Points (commentedSegments 'b') before head list after
      ⟨["a3in_t a", "a3in_t b"], [⟨.input, "a", 10⟩, ⟨.input, "b", 27⟩], 0⟩) ∧
    Locates (commentedSegments 'a') (.repeatedPort "a" 27) := by
  have declared : Divides (commentedSegments 'b') "A3_KERNEL(a3in_t a,/* , */ a3in_t b)".toList :=
    divides_commented (by decide)
  have repeated : Divides (commentedSegments 'a') "A3_KERNEL(a3in_t a,/* , */ a3in_t a)".toList :=
    divides_commented (by decide)
  exact ⟨((read_places declared).1 _ (by decide)).2.2, ((read_places repeated).2 _ (by decide)).1⟩

end Declaration

end KernelExport
