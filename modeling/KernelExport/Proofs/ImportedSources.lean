/-
This file says which of the files of a source directory are there when a template set with markers
has been rendered, and which are not.

A marker stands for the files of the sources, and they land when its turn comes among the names of
its directory. What lands later at the same location takes their place: a template file whose name
comes after that of the marker, say. So a source file is there in the end if nothing lands in its
place later (`sources_arrive`), as when the template set has no file for it, or one whose name comes
before the marker's. Otherwise what lands last is there.
-/

import KernelExport.Proofs.Rerendering

namespace KernelExport

namespace FileSystem

variable {base : FileSystem} {dictionary : Dictionary} {origin source templates output inner
  location : Location} {names label : List String} {arrival : Arrival}

/-- A directory of a template set, with the names that lead to it, is rendered into a location. -/
inductive RendersInto (base : FileSystem) (dictionary : Dictionary) :
    (templates output : Location) → List String → (inner location : Location) → Prop
  | here {templates output : Location} : RendersInto base dictionary templates output [] templates output
  | inner {templates output inner location : Location} {name rendered : String} {names : List String}
    (unmarked : name ≠ TemplateAction.sourcesMarker)
    (stands : base.get? (name :: templates) = some .directory)
    (rendering : dictionary.render name = .ok rendered)
    (into : RendersInto base dictionary (name :: templates) (rendered :: output) names inner location) :
    RendersInto base dictionary templates output (name :: names) inner location

/-- What lands in a directory of a template set lands in the whole. -/
theorem RendersInto.lands
    (into : RendersInto base dictionary templates output names inner location)
    (lands : Lands base dictionary origin inner location label arrival) :
    Lands base dictionary origin templates output (names ++ label) arrival := by
  induction into with
  | here => exact lands
  | inner unmarked stands rendering _ inductionHypothesis =>
    exact .inner unmarked stands rendering (inductionHypothesis lands)

/-- Every file below a source directory is laid over a directory, at the same names. -/
theorem exists_laid {file : List String} (some : file ≠ []) {content : Content}
    (stands : base.get? (file.reverse ++ source) = .some (.file content)) :
    ∃ arrival, Laid base source output file arrival ∧
      arrival.location = file.reverse ++ output ∧
      arrival.item = .source (file.reverse ++ source) content := by
  induction file generalizing source output with
  | nil => exact absurd rfl some
  | cons name file inductionHypothesis =>
    cases file with
    | nil => exact ⟨_, .file stands, rfl, rfl⟩
    | cons next file =>
      have moved : ∀ place : Location, (name :: next :: file).reverse ++ place =
          (next :: file).reverse ++ name :: place := by
        intro place
        rw [List.reverse_cons, List.append_assoc, List.singleton_append]
      rw [moved] at stands
      simp only [moved]
      have isInside : within (name :: source) ((next :: file).reverse ++ name :: source) = true :=
        within_append _ _
      have longer : (next :: file).reverse ++ name :: source ≠ name :: source := by
        intro same
        have lengths := congrArg List.length same
        rw [List.length_append, List.length_reverse, List.length_cons] at lengths
        omega
      have directory : base.get? (name :: source) = .some .directory :=
        get?_of_within isInside longer (stands ▸ Option.some_ne_none _)
      obtain ⟨arrival, laid, place, item⟩ := inductionHypothesis (List.cons_ne_nil _ _) stands
      exact ⟨arrival, .inner directory laid, place, item⟩

end FileSystem

open FileSystem

namespace TemplateAction

variable {files opened after : FileSystem} {site templates origin : Location}
  {template target source : Path} {dictionary : Dictionary} {transfer : Transfer}

section Renders

variable (single : dictionary.sources = [source])
  (opens : files.Opens target opened site) (settled : Settled (Below site) files)
  (repeatable : Repeatable dictionary template files opened site)
  (foundTemplates : files.resolve template = .ok templates)
  (foundSource : files.resolve source = .ok origin)
  (ran : (render dictionary transfer template target).run files = (.ok (), after))

include single opens settled repeatable foundTemplates foundSource ran

/-- A rendering comes to what lands, where each thing takes the place of what landed there before. -/
theorem exists_recorded : after.OpensAt target site ∧ ∃ arrivals,
    Recorded (Lands opened dictionary origin templates site) arrivals ∧
    ReceivesAll transfer opened arrivals ∧ after = receiveAll transfer arrivals opened := by
  have isDirectory : files.isDirectory template = true := by
    refine Classical.byContradiction fun other => ?_
    rw [TemplateAction.run_render, if_neg other] at ran
    cases ran
  have standing : files.get? templates = some .directory := by
    rw [FileSystem.isDirectory, foundTemplates] at isDirectory
    exact beq_iff_eq.1 isDirectory
  have foundNow := opens.makes.more.resolve foundSource
  have only : OnlySource opened site dictionary origin := by
    refine ⟨source, single, ?_⟩
    rcases repeatable.shelved opens source (by simp [single]) with ⟨shelved, shelf⟩ | nowhere
    · have resolved := resolve_of_opensAt shelf.opens shelf.standing
      rw [foundNow] at resolved
      cases expected : expectPath source with
      | error failure =>
        rw [expected] at resolved
        cases resolved
      | ok _ =>
        rw [expected] at resolved
        exact Except.ok.inj resolved ▸ shelf
    · exact absurd foundNow (nowhere opened origin ⟨rfl, fun _ => rfl⟩)
  rw [repeatable.run_render_opened opens settled isDirectory] at ran
  have reached := repeatable.reached opens settled
  have scripted := repeatable.scriptedBy opens settled foundTemplates standing
  refine ⟨(scripted.scripted.reached reached ran).opens, ?_⟩
  obtain ⟨script, foretold, -, runs⟩ := scripted
  obtain ⟨arrivals, member, receives, same⟩ := (runs reached).1 ran
  exact ⟨arrivals, (foretold arrivals member).recorded only, receives, same⟩

/-- After a rendering, each file of the source directory is in every directory that holds a marker,
at the same names, unless something lands in its place that comes later in the order of names. In
general what lands last at a location is there. -/
theorem sources_arrive :
    after.OpensAt target site ∧
    (∀ {names inner location}, RendersInto opened dictionary templates site names inner location →
      sourcesMarker ∈ opened.names inner → ∀ {file content}, file ≠ [] →
      opened.get? (file.reverse ++ origin) = some (.file content) →
      (∀ label arrival, Lands opened dictionary origin templates site label arrival →
        arrival.location = file.reverse ++ location → ¬names ++ sourcesMarker :: file < label) →
      after.get? (file.reverse ++ location) =
        some ((Item.source (file.reverse ++ origin) content).entry transfer)) ∧
    ∀ {label arrival}, LandsLast (Lands opened dictionary origin templates site) label arrival →
      after.get? arrival.location = some (arrival.item.entry transfer) := by
  obtain ⟨opensAt, arrivals, recorded, receives, rfl⟩ := exists_recorded single opens settled
    repeatable foundTemplates foundSource ran
  refine ⟨opensAt, fun {names inner location} into marked {file content} some stands latest => ?_,
    fun last => recorded.get?_receiveAll receives last⟩
  obtain ⟨arrival, laid, place, item⟩ := exists_laid some stands
  rw [← place] at latest ⊢
  rw [← item]
  exact recorded.get?_receiveAll receives ⟨into.lands (.source marked laid), latest⟩

end Renders

open Rendering in
/-- In the template set of the sources with a wrapper, nothing lands after the sources but the
wrapper. -/
theorem not_lt_of_lands_overlaid {name : String} (other : name ≠ "adder.vhd") {label : List String}
    {arrival : Arrival} :
    let opened := ((FileAction.createDirectories overlaidTarget).run overlaidFiles).2
    Lands opened overlaidDictionary ["src"] ["set"] ["out"] label arrival →
    arrival.location = [name, "out"] → ¬[sourcesMarker, name] < label := by
  intro opened lands place
  have flat : ∀ directory ∈ [["set"], ["src"]], ∀ name ∈ opened.names directory,
      opened.get? (name :: directory) ≠ some .directory := by decide +kernel
  have named : ∀ name ∈ opened.names ["set"], name < sourcesMarker ∨ name = sourcesMarker ∨
      overlaidDictionary.render name = .ok "adder.vhd" := by decide +kernel
  have among : ∀ {name directory entry}, opened.get? (name :: directory) = some entry →
      name ∈ opened.names directory := fun {name directory entry} stands =>
    (opened.mem_names directory name).2 (by rw [stands]; rfl)
  cases lands with
  | source marked laid =>
    cases laid with
    | directory stands | inner stands _ =>
      exact absurd stands (flat ["src"] (by simp) _ (among stands))
    | file stands =>
      obtain ⟨rfl, -⟩ := List.cons.inj place
      exact List.lt_irrefl _
  | directory _ stands _ | inner _ stands _ _ =>
    exact absurd stands (flat ["set"] (by simp) _ (among stands))
  | file unmarked stands rendering _ =>
    rcases named _ (among stands) with earlier | marker | wrapper
    · rw [List.cons_lt_cons_iff]
      rintro (later | ⟨rfl, -⟩)
      · exact String.lt_irrefl _ (String.lt_trans earlier later)
      · exact String.lt_irrefl _ earlier
    · exact absurd marker unmarked
    · obtain rfl := Except.ok.inj (wrapper.symm.trans rendering)
      exact absurd (List.cons.inj place).1.symm other

open Rendering in
/-- The sources without a wrapper arrive, by links: one that the template set has no file for, and
one in whose place a template file has landed before. -/
theorem sources_arrive_overlaid : ∃ after,
    (render overlaidDictionary .link overlaidSet overlaidTarget).run overlaidFiles = (.ok (), after) ∧
    after.get? ["carry.vhd", "out"] = some (.link { segments := ["", "src", "carry.vhd"] }) ∧
    after.get? ["README", "out"] = some (.link { segments := ["", "src", "README"] }) := by
  have ran : ((render overlaidDictionary .link overlaidSet overlaidTarget).run overlaidFiles).1 =
      .ok () := by decide +kernel
  have opens := opens_overlaid (List.mem_cons_self : overlaidFiles ∈ _)
  have single : overlaidDictionary.sources = [{ segments := ["", "src"] }] := by decide +kernel
  have foundTemplates : overlaidFiles.resolve overlaidSet = .ok ["set"] := by decide +kernel
  have foundSource : overlaidFiles.resolve { segments := ["", "src"] } = .ok ["src"] := by
    decide +kernel
  obtain ⟨marked, carry, readme⟩ : sourcesMarker ∈
        ((FileAction.createDirectories overlaidTarget).run overlaidFiles).2.names ["set"] ∧
      ((FileAction.createDirectories overlaidTarget).run overlaidFiles).2.get?
        (["carry.vhd"].reverse ++ ["src"]) = some (.file "entity carry".toUTF8) ∧
      ((FileAction.createDirectories overlaidTarget).run overlaidFiles).2.get?
        (["README"].reverse ++ ["src"]) = some (.file "two entities".toUTF8) := by decide +kernel
  obtain ⟨-, arrive, -⟩ := sources_arrive single opens (settled_of_linkless (by decide +kernel))
    (repeatable_overlaid opens) foundTemplates foundSource (Prod.ext ran rfl)
  refine ⟨_, Prod.ext ran rfl, ?_, ?_⟩
  · exact arrive .here marked (List.cons_ne_nil _ _) carry fun _ _ =>
      not_lt_of_lands_overlaid (by decide)
  · exact arrive .here marked (List.cons_ne_nil _ _) readme fun _ _ =>
      not_lt_of_lands_overlaid (by decide)

open Rendering in
/-- The wrapper of a source comes later in the order of names than the marker, so it takes the place
of the source, whichever way sources arrive. -/
theorem wrapper_replaces_source :
    overlaidFiles.get? ["adder.vhd", "src"] = some (.file "entity adder".toUTF8) ∧
    ∀ transfer ∈ [Transfer.copy, .link],
      let ended := (render overlaidDictionary transfer overlaidSet overlaidTarget).run overlaidFiles
      ended.1 = .ok () ∧
        ended.2.get? ["adder.vhd", "out"] = some (.file "entity wrapper".toUTF8) := by
  decide +kernel

end TemplateAction

end KernelExport
