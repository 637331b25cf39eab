/-
This file says that the last rendering wins: rendering a template set into a directory again and
again, with sources that arrive now by copy and now by link, comes to what the last of these
renderings comes to alone.

All of them follow one script, so the files after each are those that its arrivals come to where the
directory was opened (`ScriptedBy.run_again`). What it takes is said about the files when the first
starts (`Repeatable`, `SourcesWritable`). No link in the output may lead to a directory, but also none
to nothing: it may come to lead to a directory by what is rendered, even to the sources, and what is
rendered through it then is laid over the output the next time. And no source that is closed to writing
may land where a template file is rendered to: a copy of it is closed too, and the template file can
not be written where the copy is (`render_twice_ne_once`).
-/

import KernelExport.Proofs.Scripts
import KernelExport.Proofs.UserSources

namespace KernelExport

namespace FileSystem

variable {base files opened : FileSystem} {site location : Location} {path : Path}
  {paths : List Path}

/-! ### Scripts that are followed again -/

namespace ScriptedBy

variable {Failure : Type} {action : Transfer → ExceptT Failure (StateM FileSystem) Unit}
  {first transfer : Transfer} {after : FileSystem}

end ScriptedBy

/-! ### What lies aside -/

/-- A location lies apart from a site, and there are no links at it or below. -/
structure Aside (files : FileSystem) (site location : Location) : Prop where
  apart : within site location = false ∧ within location site = false
  unlinked : ∀ {inside}, within location inside = true →
    ∀ target, files.get? inside ≠ some (.link target)

/-- What lies aside is a shelf once directories have been made. -/
theorem Aside.shelf (aside : files.Aside site location) (makes : Makes paths files opened)
    (resolved : files.resolve path = .ok location)
    (standing : files.get? location = some .directory) : opened.Shelf site path location := by
  have standingNow := makes.more.entry standing
  have opensAt := opensAt_of_resolve (makes.more.resolve resolved) standingNow
  exact ⟨opensAt, standingNow, aside.apart, fun isInside target linked =>
    aside.unlinked isInside target (makes.linked linked)⟩

end FileSystem

open FileSystem

namespace TemplateAction

open FileAction

variable {files opened : FileSystem} {site location : Location} {template target : Path}
  {dictionary : Dictionary} {transfers : List Transfer}

/-- What a rendering needs so that it can be done again when the output is open: the names in the
template set render to names, and the template set and the sources lie aside. A source may also lead
nowhere. -/
structure Repeatable (dictionary : Dictionary) (template : Path) (files opened : FileSystem)
    (site : Location) : Prop where
  output : opened.get? site = some .directory
  names : OrdinaryNames site opened template dictionary
  template : ∀ location, files.resolve template = .ok location → files.Aside site location
  sources : ∀ source ∈ dictionary.sources,
    (∃ location, files.resolve source = .ok location ∧ files.get? location = some .directory ∧
      files.Aside site location) ∨
    ∀ now location, opened.AgreesOff site now → now.resolve source ≠ .ok location

/-- No source that is closed to writing lands where a template file is written: it could not be
written over a copy. -/
def SourcesWritable (dictionary : Dictionary) (template : Path) (opened : FileSystem)
    (site : Location) : Prop :=
  ∀ ⦃templates source origin⦄, opened.resolve template = .ok templates →
    source ∈ dictionary.sources → opened.resolve source = .ok origin →
    ∀ ⦃label other written placed bytes⦄,
      Lands opened dictionary origin templates site label written → written.item = .file bytes →
      Lands opened dictionary origin templates site other placed →
      placed.location = written.location → placed.item.closed = false

section Repeatable

variable (repeatable : Repeatable dictionary template files opened site)
  (opens : files.Opens target opened site)

include repeatable opens

theorem Repeatable.reached (settled : Settled (Below site) files) :
    Reached opened site target site opened :=
  ⟨.refl opened, opens.makes.settled settled, opens.opensAt, repeatable.output⟩

theorem Repeatable.shelved : ∀ source ∈ dictionary.sources, Shelved opened site source := by
  intro source member
  rcases repeatable.sources source member with ⟨location, resolved, standing, aside⟩ | nowhere
  · exact .inl ⟨location, aside.shelf opens.makes resolved standing⟩
  · exact .inr nowhere

/-- Once the output is open, a rendering renders the entries of the template set: the set is a
directory still, and nothing is made on the way to the output. -/
theorem Repeatable.run_render (settled : Settled (Below site) files)
    (isDirectory : files.isDirectory template = true) {present : FileSystem}
    (reached : Reached opened site target site present) (transfer : Transfer) :
    (render dictionary transfer template target).run present =
      (renderEntries dictionary transfer (pathLimit - 1) template target).run present := by
  obtain ⟨location, -, resolved⟩ := opensAt_of_isDirectory isDirectory
  have standing : files.get? location = some .directory := by
    rw [FileSystem.isDirectory, resolved] at isDirectory
    exact beq_iff_eq.1 isDirectory
  have shelf := (repeatable.template location resolved).shelf opens.makes resolved standing
  have now := shelf.of_overwrites (opens.makes.settled settled).tame reached.overwrites
  have stillDirectory : present.isDirectory template = true := by
    rw [FileSystem.isDirectory, resolve_of_opensAt now.opens now.standing,
      (resolve_eq_ok_iff.1 resolved).1]
    exact beq_iff_eq.2 now.standing
  rw [TemplateAction.run_render, if_pos stillDirectory,
    run_createDirectories_again reached.opens reached.standing
      (expectPath_of_createDirectories opens.run)]

/-- It makes no difference to a rendering whether its output was open before. -/
theorem Repeatable.run_render_opened (settled : Settled (Below site) files)
    (isDirectory : files.isDirectory template = true) (transfer : Transfer) :
    (render dictionary transfer template target).run files =
      (render dictionary transfer template target).run opened := by
  rw [repeatable.run_render opens settled isDirectory (repeatable.reached opens settled),
    TemplateAction.run_render, if_pos isDirectory, opens.run]

/-- A rendering follows a script once its output is open, which tells what lands. -/
theorem Repeatable.scriptedBy (settled : Settled (Below site) files) {location : Location}
    (resolved : files.resolve template = .ok location)
    (standing : files.get? location = some .directory) :
    ScriptedBy opened site target site (Foretold opened site dictionary location site)
      fun transfer => render dictionary transfer template target := by
  have isDirectory := isDirectory_of_resolve resolved standing
  have shelf := (repeatable.template location resolved).shelf opens.makes resolved standing
  have tame := (opens.makes.settled settled).tame
  exact (scripted_renderEntries tame repeatable.names (repeatable.shelved opens) shelf
    (pathLimit - 1)).congr fun reached => repeatable.run_render opens settled isDirectory reached _

end Repeatable

/-- No copy that is closed to writing comes in the way of what a rendering writes. -/
theorem SourcesWritable.rewritable (writable : SourcesWritable dictionary template opened site)
    (resolved : opened.resolve template = .ok location) {arrivals : List Arrival}
    (foretold : Foretold opened site dictionary location site arrivals) : Rewritable arrivals := by
  intro written isWritten bytes isFile placed isPlaced same
  obtain ⟨_, _, lands, -⟩ := foretold.stems written isWritten
  cases isItem : placed.item with
  | directory | file => rfl
  | source =>
    obtain ⟨origin, _, landsToo, known⟩ := foretold.stems placed isPlaced
    obtain ⟨source, isSource, leads⟩ := known isItem
    rw [← isItem]
    exact writable resolved isSource leads (lands.of_file isFile origin) isFile landsToo same

open Rendering in
/-- When the output is open, the template set of the sources with a wrapper has ordinary names. -/
theorem names_overlaid :
    let opened := ((createDirectories overlaidTarget).run overlaidFiles).2
    Flat opened overlaidSet ["set"] ∧
    ∀ name ∈ opened.names ["set"], name ≠ sourcesMarker →
      ∀ rendered ∈ (overlaidDictionary.render name).toOption, IsName rendered := by
  decide +kernel

open Rendering in
theorem repeatable_overlaid {opened : FileSystem} {site : Location}
    (opens : overlaidFiles.Opens overlaidTarget opened site) :
    Repeatable overlaidDictionary overlaidSet overlaidFiles opened site := by
  have unlinked := unlinked_of_linkless (by decide +kernel : overlaidFiles.linkless = true)
  obtain ⟨rfl, rfl⟩ := (opens_overlaid List.mem_cons_self).unique opens
  refine ⟨by decide +kernel, fun entered met rendering => ?_, fun location resolved => ?_,
    fun source member => .inl ?_⟩
  · obtain ⟨flat, ordinary⟩ := names_overlaid
    obtain ⟨isEntry, notMarker⟩ := MetIn.of_flat flat (by decide) entered met
    exact ordinary _ isEntry notMarker _ (by rw [rendering]; rfl)
  · have same : overlaidFiles.resolve overlaidSet = .ok ["set"] := by decide +kernel
    obtain rfl := Except.ok.inj (same.symm.trans resolved)
    exact ⟨by decide, fun _ => unlinked _⟩
  · have only : overlaidDictionary.sources = [{ segments := ["", "src"] }] := by decide +kernel
    rw [only, List.mem_singleton] at member
    subst member
    exact ⟨["src"], by decide +kernel, by decide +kernel, by decide, fun _ => unlinked _⟩

end TemplateAction

end KernelExport
