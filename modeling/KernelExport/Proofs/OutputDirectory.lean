/-
This file says that a rendering changes nothing outside the directory that it renders into.

What it takes is said about the files when it starts: no link in the directory leads to another
directory or to nothing, and the names in the template set render to paths that go on from a
directory without a step upwards. Directories that are missing on the way to the output are made
outside it; they are all that is.
-/

import KernelExport.Proofs.Rendering

namespace KernelExport

open FileSystem FileAction

namespace FileSystem

variable {files before after opened : FileSystem} {target : Path} {site location : Location}

/-- Nothing stands at a location that a path or one of its ancestors leads to once they are made. -/
def OnTheWay (files : FileSystem) (target : Path) (location : Location) : Prop :=
  files.get? location = none ∧
    ∃ above ∈ target.ancestors, ((createDirectories target).run files).2.resolve above = .ok location

/-- A location lies below where a path opens. -/
def InOutput (files : FileSystem) (target : Path) (location : Location) : Prop :=
  ∃ opened site, files.Opens target opened site ∧ Below site location

/-- Nothing has changed outside the directory that a path opens, but that missing directories on the
way to it were made. -/
structure ChangesOutput (target : Path) (before after : FileSystem) : Prop where
  workingDirectory : after.workingDirectory = before.workingDirectory
  outside : ∀ {location}, ¬before.InOutput target location →
    after.get? location = before.get? location ∨
      before.OnTheWay target location ∧ after.get? location = some .directory

theorem ChangesOutput.refl (target : Path) (files : FileSystem) : ChangesOutput target files files :=
  ⟨rfl, fun _ => .inl rfl⟩

theorem changesOutput_createDirectories (target : Path) (files : FileSystem) :
    ChangesOutput target files ((createDirectories target).run files).2 := by
  have makes := makes_createDirectories target files
  refine ⟨makes.more.workingDirectory, fun {location} _ => ?_⟩
  rcases makes.made location with same | ⟨missing, standing, onTheWay⟩
  · exact .inl same
  · exact .inr ⟨⟨missing, onTheWay⟩, standing⟩

/-- Once the directory is open, what changes below it changes the output. -/
theorem Opens.changesOutput (opens : before.Opens target opened site)
    (workingDirectory : after.workingDirectory = opened.workingDirectory)
    (outside : ∀ {location}, ¬Below site location → after.get? location = opened.get? location) :
    ChangesOutput target before after := by
  have making := changesOutput_createDirectories target before
  rw [opens.run] at making
  refine ⟨workingDirectory.trans making.workingDirectory, fun {location} notInside => ?_⟩
  rw [outside fun below => notInside ⟨opened, site, opens, below⟩]
  exact making.outside notInside

/-- The files outside the output are the same before and after. -/
theorem ChangesOutput.get?_eq_file_iff (changes : ChangesOutput target before after)
    (opens : before.Opens target opened site) (outside : ¬Below site location)
    (content : Content) :
    after.get? location = some (.file content) ↔ before.get? location = some (.file content) := by
  have notInside : ¬before.InOutput target location := by
    rintro ⟨others, other, again, below⟩
    obtain ⟨-, rfl⟩ := opens.unique again
    exact outside below
  rcases changes.outside notInside with same | ⟨⟨missing, -⟩, standing⟩
  · rw [same]
  · rw [missing, standing]
    exact ⟨fun impossible => by simp at impossible, fun impossible => by simp at impossible⟩

end FileSystem

namespace TemplateAction

variable {dictionary : Dictionary} {template target : Path} {files : FileSystem}

/-- What a rendering needs to stay in its output: the links there lead neither to a directory nor to
nothing, and no name in the template set renders to an absolute path or to one with a step
upwards. -/
structure Inwards (dictionary : Dictionary) (template target : Path) (files : FileSystem) : Prop where
  settled : ∀ {opened site}, files.Opens target opened site → Settled (Below site) files
  names : ∀ {opened site}, files.Opens target opened site →
    InwardNames site opened template dictionary

/-- Where there are no links, only the names in a template set of files need be looked at. -/
theorem Inwards.of_flat {opened : FileSystem} {site location : Location}
    (unlinked : files.linkless = true) (opens : files.Opens target opened site)
    (flat : Flat opened template location)
    (apart : within site location = false ∧ within location site = false)
    (inward : ∀ name ∈ opened.names location, name ≠ sourcesMarker →
      ∀ rendered ∈ (dictionary.render name).toOption, Inward rendered) :
    Inwards dictionary template target files where
  settled _ := settled_of_linkless unlinked
  names again := by
    obtain ⟨rfl, rfl⟩ := opens.unique again
    exact .of_flat flat apart inward

/-- A rendering changes nothing outside the directory that it renders into, be it in success or in
failure, but for missing directories on the way there. -/
theorem changesOutput_render (transfer : Transfer)
    (inwards : Inwards dictionary template target files) :
    ChangesOutput target files ((render dictionary transfer template target).run files).2 := by
  rcases render_cases dictionary transfer template target files with
    ran | ⟨failure, made, opening, ran⟩ | ⟨opened, site, opens, ran⟩
  · rw [ran]
    exact .refl target files
  · have making := changesOutput_createDirectories target files
    rw [opening] at making
    rw [ran]
    exact making
  · have settled := opens.makes.settled (inwards.settled opens)
    have overwrites : Keeps (Overwrites (Below site) fun _ => True)
        (renderEntries dictionary transfer (pathLimit - 1) template target) opened :=
      (upholds_renderSet (guard_settled (closed_below site) _) opens.opensAt settled
        (inwards.names opens) (fun _ => ⟨supplies_all .., fun _ _ => trivial⟩) _).keeps
    rw [ran]
    exact opens.changesOutput overwrites.workingDirectory overwrites.outside

end TemplateAction

end KernelExport
