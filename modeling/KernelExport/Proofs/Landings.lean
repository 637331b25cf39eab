/-
This file says what of a template set lands where when it is rendered, and in which order.

Everything that lands has a label: the names that lead to it through the template set, and behind a
marker those that lead to it through the sources (`Lands`, `Laid`). A directory lands in front of what
it holds, and the entries of a directory land in the order of their names, so all that lands does so
in the order of the labels (`Recorded`). Where several things land at one location, the last of them
is the one that is left (`Recorded.get?_receiveAll`).

What lands is read off the files as they are at the start.
-/

import KernelExport.Proofs.Deliveries
import KernelExport.Template.Directory

namespace KernelExport

namespace FileSystem

variable {base : FileSystem} {dictionary : Dictionary} {origin source templates output : Location}
  {name : String} {label other : List String} {arrival another : Arrival}

/-! ### What lands -/

/-- What arrives in a directory when a source directory is laid over it. -/
inductive Laid (base : FileSystem) : (source output : Location) → List String → Arrival → Prop
  | directory {source output : Location} {name : String}
    (stands : base.get? (name :: source) = some .directory) :
    Laid base source output [name] ⟨output, name, .directory⟩
  | file {source output : Location} {name : String} {content : Content}
    (stands : base.get? (name :: source) = some (.file content)) :
    Laid base source output [name] ⟨output, name, .source (name :: source) content⟩
  | inner {source output : Location} {name : String} {label : List String} {arrival : Arrival}
    (stands : base.get? (name :: source) = some .directory)
    (laid : Laid base (name :: source) (name :: output) label arrival) :
    Laid base source output (name :: label) arrival

/-- A template file of this content comes to these bytes when it is rendered. -/
inductive ComesTo (dictionary : Dictionary) (content : ByteArray) : ByteArray → Prop
  | text {text rendered : String} (isText : String.fromUTF8? content = some text)
    (rendering : dictionary.render text = .ok rendered) : ComesTo dictionary content rendered.toUTF8
  | bytes (noText : String.fromUTF8? content = none) : ComesTo dictionary content content

/-- What arrives in a directory when the template set at a location is rendered into it; the source
directory is at `origin`. -/
inductive Lands (base : FileSystem) (dictionary : Dictionary) (origin : Location) :
    (templates output : Location) → List String → Arrival → Prop
  | source {templates output : Location} {label : List String} {arrival : Arrival}
    (marked : TemplateAction.sourcesMarker ∈ base.names templates)
    (laid : Laid base origin output label arrival) :
    Lands base dictionary origin templates output (TemplateAction.sourcesMarker :: label) arrival
  | directory {templates output : Location} {name rendered : String}
    (unmarked : name ≠ TemplateAction.sourcesMarker)
    (stands : base.get? (name :: templates) = some .directory)
    (rendering : dictionary.render name = .ok rendered) :
    Lands base dictionary origin templates output [name] ⟨output, rendered, .directory⟩
  | file {templates output : Location} {name rendered : String} {content : Content}
    {bytes : ByteArray} (unmarked : name ≠ TemplateAction.sourcesMarker)
    (stands : base.get? (name :: templates) = some (.file content))
    (rendering : dictionary.render name = .ok rendered)
    (comes : ComesTo dictionary content.bytes bytes) :
    Lands base dictionary origin templates output [name] ⟨output, rendered, .file bytes⟩
  | inner {templates output : Location} {name rendered : String} {label : List String}
    {arrival : Arrival} (unmarked : name ≠ TemplateAction.sourcesMarker)
    (stands : base.get? (name :: templates) = some .directory)
    (rendering : dictionary.render name = .ok rendered)
    (lands : Lands base dictionary origin (name :: templates) (rendered :: output) label arrival) :
    Lands base dictionary origin templates output (name :: label) arrival

theorem Laid.head?_label (laid : Laid base source output label arrival) :
    ∃ name ∈ base.names source, label.head? = some name := by
  cases laid with
  | directory stands | file stands | inner stands _ =>
    exact ⟨_, (base.mem_names _ _).2 (by rw [stands]; rfl), rfl⟩

theorem Lands.head?_label (lands : Lands base dictionary origin templates output label arrival) :
    ∃ name ∈ base.names templates, label.head? = some name := by
  cases lands with
  | source marked _ => exact ⟨_, marked, rfl⟩
  | directory _ stands _ | file _ stands _ _ | inner _ stands _ _ =>
    exact ⟨_, (base.mem_names _ _).2 (by rw [stands]; rfl), rfl⟩

/-! ### Kinds of arrivals -/

/-- Nothing is written when a source directory is laid over another one. -/
theorem Laid.item_ne_file (laid : Laid base source output label arrival) (bytes : ByteArray) :
    arrival.item ≠ .file bytes := by
  induction laid with
  | directory | file => nofun
  | inner _ _ inductionHypothesis => exact inductionHypothesis

/-- What is written lands with any sources. -/
theorem Lands.of_file (lands : Lands base dictionary origin templates output label arrival)
    {bytes : ByteArray} (isFile : arrival.item = .file bytes) (another : Location) :
    Lands base dictionary another templates output label arrival := by
  induction lands with
  | source _ laid => exact absurd isFile (laid.item_ne_file bytes)
  | directory => cases isFile
  | file unmarked stands rendering comes => exact .file unmarked stands rendering comes
  | inner unmarked stands rendering _ inductionHypothesis =>
    exact .inner unmarked stands rendering (inductionHypothesis isFile)

/-! ### Landing in order -/

/-- The arrivals are all that lands, in the order of the labels. -/
def Recorded (lands : List String → Arrival → Prop) (arrivals : List Arrival) : Prop :=
  ∃ record : List (List String × Arrival), arrivals = record.map Prod.snd ∧
    record.Pairwise (fun first second => first.1 < second.1) ∧
    ∀ label arrival, (label, arrival) ∈ record ↔ lands label arrival

variable {lands others : List String → Arrival → Prop} {arrivals : List Arrival}

theorem Recorded.congr (recorded : Recorded others arrivals)
    (same : ∀ label arrival, lands label arrival ↔ others label arrival) :
    Recorded lands arrivals := by
  obtain ⟨record, arrivalsAre, ordered, members⟩ := recorded
  exact ⟨record, arrivalsAre, ordered, fun label arrival =>
    (members label arrival).trans (same label arrival).symm⟩

/-- Every arrival that is recorded lands. -/
theorem Recorded.lands_of_mem (recorded : Recorded lands arrivals) (member : arrival ∈ arrivals) :
    ∃ label, lands label arrival := by
  obtain ⟨record, rfl, -, members⟩ := recorded
  obtain ⟨⟨label, arrival⟩, isRecord, rfl⟩ := List.mem_map.1 member
  exact ⟨label, (members label arrival).1 isRecord⟩

/-- Among parts for one name each, an arrival belongs to one of them. -/
theorem exists_part_of_mem {Item : Type} {fits : Item → List Arrival → Prop} {items : List Item}
    {parts : List (List Arrival)} (each : List.Forall₂ fits items parts)
    (member : arrival ∈ parts.flatten) : ∃ item ∈ items, ∃ part, fits item part ∧ arrival ∈ part := by
  induction each with
  | nil => cases member
  | @cons item part items parts first _ inductionHypothesis =>
    rcases List.mem_append.1 member with here | later
    · exact ⟨item, List.mem_cons_self, part, first, here⟩
    · obtain ⟨other, isItem, found⟩ := inductionHypothesis later
      exact ⟨other, List.mem_cons_of_mem _ isItem, found⟩

theorem recorded_singleton (name : String) (arrival : Arrival) :
    Recorded (fun label landing => label = [name] ∧ landing = arrival) [arrival] :=
  ⟨[([name], arrival)], rfl, List.pairwise_singleton .., by simp⟩

/-- What lands below a name keeps its order. -/
theorem Recorded.behind (recorded : Recorded lands arrivals) (name : String) :
    Recorded (fun label arrival => ∃ rest, label = name :: rest ∧ lands rest arrival) arrivals := by
  obtain ⟨record, rfl, ordered, members⟩ := recorded
  refine ⟨record.map fun landing => (name :: landing.1, landing.2), ?_, ?_, ?_⟩
  · rw [List.map_map]
    rfl
  · rw [List.pairwise_map]
    exact ordered.imp fun less => List.cons_lt_cons_self.2 less
  · intro label arrival
    simp only [List.mem_map, Prod.exists, Prod.mk.injEq]
    constructor
    · rintro ⟨rest, landing, member, rfl, rfl⟩
      exact ⟨rest, rfl, (members rest landing).1 member⟩
    · rintro ⟨rest, rfl, landing⟩
      exact ⟨rest, arrival, (members rest arrival).2 landing, rfl, rfl⟩

/-- A directory lands in front of what it holds. -/
theorem Recorded.cons (recorded : Recorded lands arrivals)
    (named : ∀ {label arrival}, lands label arrival → label ≠ []) (name : String)
    (first : Arrival) :
    Recorded (fun label arrival => (label = [name] ∧ arrival = first) ∨
      ∃ rest, label = name :: rest ∧ lands rest arrival) (first :: arrivals) := by
  obtain ⟨record, rfl, ordered, members⟩ := recorded.behind name
  refine ⟨([name], first) :: record, rfl, .cons ?_ ordered, fun label arrival => ?_⟩
  · rintro ⟨label, arrival⟩ member
    obtain ⟨rest, rfl, landing⟩ := (members label arrival).1 member
    obtain ⟨next, more, rfl⟩ := List.exists_cons_of_ne_nil (named landing)
    exact List.cons_lt_cons_self.2 (List.nil_lt_cons next more)
  · rw [List.mem_cons, members, Prod.mk.injEq]

theorem lt_of_head?_lt {first second : String} (less : first < second)
    (starts : label.head? = some first) (otherStarts : other.head? = some second) :
    label < other := by
  obtain ⟨rest, rfl⟩ := List.head?_eq_some_iff.1 starts
  obtain ⟨behind, rfl⟩ := List.head?_eq_some_iff.1 otherStarts
  exact List.cons_lt_cons_iff.2 (.inl less)

/-- What lands below each of several names, one after the other. -/
theorem recorded_flatten {names : List String} {parts : List (List Arrival)}
    (ordered : names.Pairwise (· < ·))
    (each : List.Forall₂ (fun name part =>
      Recorded (fun label arrival => label.head? = some name ∧ lands label arrival) part) names
      parts)
    (covered : ∀ {label arrival}, lands label arrival → ∃ name ∈ names, label.head? = some name) :
    Recorded lands parts.flatten := by
  suffices among : Recorded (fun label arrival =>
      (∃ name ∈ names, label.head? = some name) ∧ lands label arrival) parts.flatten from
    among.congr fun label arrival => ⟨fun landing => ⟨covered landing, landing⟩, And.right⟩
  clear covered
  induction each with
  | nil => exact ⟨[], rfl, .nil, by simp⟩
  | @cons name part rest parts first _ inductionHypothesis =>
    obtain ⟨less, restOrdered⟩ := List.pairwise_cons.1 ordered
    obtain ⟨record, rfl, firstOrdered, members⟩ := first
    obtain ⟨later, laterAre, laterOrdered, laterMembers⟩ := inductionHypothesis restOrdered
    refine ⟨record ++ later, by rw [List.flatten_cons, laterAre, List.map_append],
      List.pairwise_append.2 ⟨firstOrdered, laterOrdered, ?_⟩, fun label arrival => ?_⟩
    · rintro ⟨label, arrival⟩ member ⟨other, another⟩ otherMember
      obtain ⟨starts, -⟩ := (members label arrival).1 member
      obtain ⟨⟨next, isNext, otherStarts⟩, -⟩ := (laterMembers other another).1 otherMember
      exact lt_of_head?_lt (less next isNext) starts otherStarts
    · rw [List.mem_append, members, laterMembers]
      simp only [List.exists_mem_cons_iff, or_and_right]

/-- What lands under the name of a directory: the directory, and what lands in it. -/
theorem Recorded.laid_directory (stands : base.get? (name :: source) = some .directory)
    (recorded : Recorded (Laid base (name :: source) (name :: output)) arrivals) :
    Recorded (fun label arrival => label.head? = some name ∧ Laid base source output label arrival)
      (⟨output, name, .directory⟩ :: arrivals) := by
  refine (recorded.cons (fun laid => ?_) name _).congr fun label arrival => ⟨?_, ?_⟩
  · obtain ⟨_, -, starts⟩ := laid.head?_label
    rintro rfl
    cases starts
  · rintro ⟨starts, laid⟩
    cases laid with
    | directory _ =>
      obtain rfl := Option.some.inj starts
      exact .inl ⟨rfl, rfl⟩
    | file isFile =>
      obtain rfl := Option.some.inj starts
      rw [stands] at isFile
      cases isFile
    | inner _ laid =>
      obtain rfl := Option.some.inj starts
      exact .inr ⟨_, rfl, laid⟩
  · rintro (⟨rfl, rfl⟩ | ⟨rest, rfl, laid⟩)
    · exact ⟨rfl, .directory stands⟩
    · exact ⟨rfl, .inner stands laid⟩

theorem recorded_laid_file {content : Content}
    (stands : base.get? (name :: source) = some (.file content)) :
    Recorded (fun label arrival => label.head? = some name ∧ Laid base source output label arrival)
      [⟨output, name, .source (name :: source) content⟩] := by
  refine (recorded_singleton name _).congr fun label arrival => ⟨?_, ?_⟩
  · rintro ⟨starts, laid⟩
    cases laid with
    | directory other | inner other _ =>
      obtain rfl := Option.some.inj starts
      rw [stands] at other
      cases other
    | file again =>
      obtain rfl := Option.some.inj starts
      obtain rfl := Entry.file.inj (Option.some.inj (stands.symm.trans again))
      exact ⟨rfl, rfl⟩
  · rintro ⟨rfl, rfl⟩
    exact ⟨rfl, .file stands⟩

/-- What lands under the marker is what is laid over the directory. -/
theorem Recorded.lands_source (marked : TemplateAction.sourcesMarker ∈ base.names templates)
    (recorded : Recorded (Laid base origin output) arrivals) :
    Recorded (fun label arrival => label.head? = some TemplateAction.sourcesMarker ∧
      Lands base dictionary origin templates output label arrival) arrivals := by
  refine (recorded.behind TemplateAction.sourcesMarker).congr fun label arrival => ⟨?_, ?_⟩
  · rintro ⟨starts, lands⟩
    cases lands with
    | source _ laid => exact ⟨_, rfl, laid⟩
    | directory unmarked _ _ | file unmarked _ _ _ | inner unmarked _ _ _ =>
      exact absurd (Option.some.inj starts) unmarked
  · rintro ⟨rest, rfl, laid⟩
    exact ⟨rfl, .source marked laid⟩

theorem Recorded.lands_directory {rendered : String}
    (unmarked : name ≠ TemplateAction.sourcesMarker)
    (stands : base.get? (name :: templates) = some .directory)
    (rendering : dictionary.render name = .ok rendered)
    (recorded : Recorded (Lands base dictionary origin (name :: templates) (rendered :: output))
      arrivals) :
    Recorded (fun label arrival => label.head? = some name ∧
      Lands base dictionary origin templates output label arrival)
      (⟨output, rendered, .directory⟩ :: arrivals) := by
  refine (recorded.cons (fun lands => ?_) name _).congr fun label arrival => ⟨?_, ?_⟩
  · obtain ⟨_, -, starts⟩ := lands.head?_label
    rintro rfl
    cases starts
  · rintro ⟨starts, lands⟩
    cases lands with
    | source _ _ => exact absurd (Option.some.inj starts).symm unmarked
    | directory _ _ again =>
      obtain rfl := Option.some.inj starts
      obtain rfl := Except.ok.inj (rendering.symm.trans again)
      exact .inl ⟨rfl, rfl⟩
    | file _ isFile _ _ =>
      obtain rfl := Option.some.inj starts
      rw [stands] at isFile
      cases isFile
    | inner _ _ again lands =>
      obtain rfl := Option.some.inj starts
      obtain rfl := Except.ok.inj (rendering.symm.trans again)
      exact .inr ⟨_, rfl, lands⟩
  · rintro (⟨rfl, rfl⟩ | ⟨rest, rfl, lands⟩)
    · exact ⟨rfl, .directory unmarked stands rendering⟩
    · exact ⟨rfl, .inner unmarked stands rendering lands⟩

theorem ComesTo.unique {content first second : ByteArray}
    (comes : ComesTo dictionary content first) (again : ComesTo dictionary content second) :
    first = second := by
  cases comes with
  | text isText rendering =>
    cases again with
    | text isTextAgain renderingAgain =>
      obtain rfl := Option.some.inj (isText.symm.trans isTextAgain)
      rw [Except.ok.inj (rendering.symm.trans renderingAgain)]
    | bytes noText =>
      rw [isText] at noText
      cases noText
  | bytes noText =>
    cases again with
    | text isText _ =>
      rw [isText] at noText
      cases noText
    | bytes _ => rfl

theorem recorded_lands_file {rendered : String} {content : Content} {bytes : ByteArray}
    (unmarked : name ≠ TemplateAction.sourcesMarker)
    (stands : base.get? (name :: templates) = some (.file content))
    (rendering : dictionary.render name = .ok rendered)
    (comes : ComesTo dictionary content.bytes bytes) :
    Recorded (fun label arrival => label.head? = some name ∧
      Lands base dictionary origin templates output label arrival)
      [⟨output, rendered, .file bytes⟩] := by
  refine (recorded_singleton name _).congr fun label arrival => ⟨?_, ?_⟩
  · rintro ⟨starts, lands⟩
    cases lands with
    | source _ _ => exact absurd (Option.some.inj starts).symm unmarked
    | directory _ other _ | inner _ other _ _ =>
      obtain rfl := Option.some.inj starts
      rw [stands] at other
      cases other
    | file _ isFile again comesAgain =>
      obtain rfl := Option.some.inj starts
      obtain rfl := Entry.file.inj (Option.some.inj (stands.symm.trans isFile))
      obtain rfl := Except.ok.inj (rendering.symm.trans again)
      obtain rfl := comes.unique comesAgain
      exact ⟨rfl, rfl⟩
  · rintro ⟨rfl, rfl⟩
    exact ⟨rfl, .file unmarked stands rendering comes⟩

/-! ### The last to land -/

theorem lastItem?_append (first second : List Arrival) (location : Location) :
    lastItem? (first ++ second) location =
      (lastItem? second location).or (lastItem? first location) := by
  induction first with
  | nil => simp [lastItem?]
  | cons arrival first inductionHypothesis =>
    rw [List.cons_append, lastItem?, inductionHypothesis, lastItem?, Option.or_assoc]

theorem lastItem?_eq_none {location : Location}
    (elsewhere : ∀ arrival ∈ arrivals, arrival.location ≠ location) :
    lastItem? arrivals location = none := by
  induction arrivals with
  | nil => rfl
  | cons arrival arrivals inductionHypothesis =>
    rw [List.forall_mem_cons] at elsewhere
    rw [lastItem?, inductionHypothesis elsewhere.2, if_neg (Ne.symm elsewhere.1)]
    rfl

/-- Nothing that lands at the location of an arrival has a greater label. -/
def LandsLast (lands : List String → Arrival → Prop) (label : List String) (arrival : Arrival) :
    Prop :=
  lands label arrival ∧
    ∀ other another, lands other another → another.location = arrival.location → ¬label < other

/-- What lands last at a location is what is left there. -/
theorem Recorded.get?_receiveAll {transfer : Transfer} {files : FileSystem}
    (recorded : Recorded lands arrivals) (receives : ReceivesAll transfer files arrivals)
    (last : LandsLast lands label arrival) :
    (receiveAll transfer arrivals files).get? arrival.location =
      some (arrival.item.entry transfer) := by
  obtain ⟨record, rfl, ordered, members⟩ := recorded
  obtain ⟨front, behind, rfl⟩ := List.append_of_mem ((members label arrival).2 last.1)
  -- What comes behind it in the record has a greater label, and so lands elsewhere.
  have elsewhere : ∀ landing ∈ behind.map Prod.snd, landing.location ≠ arrival.location := by
    rintro landing member same
    obtain ⟨⟨other, another⟩, inBehind, rfl⟩ := List.mem_map.1 member
    have less := List.rel_of_pairwise_cons (List.pairwise_append.1 ordered).2.1 inBehind
    have lands := (members other another).1
      (List.mem_append_right _ (List.mem_cons_of_mem _ inBehind))
    exact last.2 other another lands same less
  rw [FileSystem.get?_receiveAll receives, List.map_append, lastItem?_append, List.map_cons,
    lastItem?, lastItem?_eq_none elsewhere, if_pos rfl]
  rfl

end FileSystem

end KernelExport
