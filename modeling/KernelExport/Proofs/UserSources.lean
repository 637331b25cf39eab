/-
This file says that sources are never written through, whatever is rendered and however often.

A rendering that links its sources leaves links in the output, and whatever is rendered there next
meets them. What carries the proof is that every link in an output leads to a file that is kept, so
that none leads to a directory, and every writer takes a link away before it writes. The files at
any time in a sequence of renderings are those from the start, but for what lies below the outputs
and for directories where nothing stood (`Course`); that holds after failures too.
-/

import KernelExport.Proofs.Rendering

namespace KernelExport

open FileSystem

/-! ### Renderings in turn -/

/-- A template set that is rendered with a dictionary into a directory. -/
structure Rendering where
  dictionary : Dictionary
  transfer : Transfer
  template : Path
  target : Path

namespace Rendering

/-- The files that a rendering leaves, be it in success or in failure. -/
def after (rendering : Rendering) (files : FileSystem) : FileSystem :=
  ((TemplateAction.render rendering.dictionary rendering.transfer rendering.template
    rendering.target).run files).2

/-- The files that renderings leave when each starts where the one before it ended. -/
def afterAll (renderings : List Rendering) (files : FileSystem) : FileSystem :=
  renderings.foldl (fun present rendering => rendering.after present) files

end Rendering

namespace FileSystem

variable {outputs kept : List Location} {initial present after : FileSystem}
  {site location : Location} {name : String}

/-- Outputs and what is kept lie apart, and there are no links in them. -/
structure Apart (outputs kept : List Location) (files : FileSystem) : Prop where
  apart : ∀ output ∈ outputs, ∀ source ∈ kept,
    within output source = false ∧ within source output = false
  unlinked : ∀ directory ∈ outputs ++ kept, ∀ location target, within directory location = true →
    files.get? location ≠ some (.link target)

/-- Where renderings may change something: below an output, and where nothing stood. -/
def Room (outputs : List Location) (initial : FileSystem) (location : Location) : Prop :=
  (∃ output ∈ outputs, Below output location) ∨ initial.get? location = none

/-- A file that is kept stood at the location from the start. -/
def KeptFile (kept : List Location) (initial : FileSystem) (location : Location) : Prop :=
  (∃ source ∈ kept, within source location = true) ∧
    ∃ content, initial.get? location = some (.file content)

/-- What renderings into outputs come to, with links to files that are kept. -/
structure Course (outputs kept : List Location) (initial present : FileSystem) : Prop where
  overwrites : Overwrites (Room outputs initial) (KeptFile kept initial) initial present
  /-- Where nothing stood nothing but directories came, unless it lies below an output. -/
  made : ∀ {location entry}, initial.get? location = none →
    (∀ output ∈ outputs, ¬Below output location) → present.get? location = some entry →
    entry = .directory

theorem Course.refl (files : FileSystem) : Course outputs kept files files := by
  refine ⟨.refl files, fun missing _ stands => ?_⟩
  rw [missing] at stands
  cases stands

section Course

variable (apart : Apart outputs kept initial) (course : Course outputs kept initial present)

include apart

theorem Apart.not_below {source : Location} (member : source ∈ kept)
    (inside : within source location = true) : ∀ output ∈ outputs, ¬Below output location := by
  intro output isOutput below
  have outside := not_within_of_apart (apart.apart output isOutput source member) inside
  rw [below.2] at outside
  cases outside

include course

/-- The files that are kept are the ones that were there from the start. -/
theorem Course.get?_eq_file_iff {source : Location} (member : source ∈ kept)
    (inside : within source location = true) {content : Content} :
    present.get? location = some (.file content) ↔
      initial.get? location = some (.file content) := by
  have notBelow := apart.not_below member inside
  cases stood : initial.get? location with
  | some entry =>
    have outside : ¬Room outputs initial location := by
      rintro (⟨output, isOutput, below⟩ | missing)
      · exact notBelow output isOutput below
      · rw [stood] at missing
        cases missing
    rw [course.overwrites.outside outside, stood]
  | none =>
    refine ⟨fun stands => ?_, fun stands => by cases stands⟩
    have directory := course.made stood notBelow stands
    cases directory

/-- No link comes to where something is kept. -/
theorem Course.unlinked {source : Location} (member : source ∈ kept)
    (inside : within source location = true) (target : Path) :
    present.get? location ≠ some (.link target) := by
  intro linked
  have notBelow := apart.not_below member inside
  by_cases room : Room outputs initial location
  · rcases room with ⟨output, isOutput, below⟩ | missing
    · exact notBelow output isOutput below
    · have directory := course.made missing notBelow linked
      cases directory
  · rw [course.overwrites.outside room] at linked
    exact apart.unlinked source (List.mem_append_right outputs member) location target inside linked

/-- Where there is room, a link leads to a file that is kept. -/
theorem Course.settled : Settled (Room outputs initial) present := by
  intro name directory target room linked
  rcases course.overwrites.linked linked with before | ⟨source, rfl, ⟨directory, member, inside⟩,
    content, stood⟩
  · rcases room with ⟨output, isOutput, below⟩ | missing
    · exact absurd before (apart.unlinked output (List.mem_append_left kept isOutput) _ _ below.2)
    · rw [missing] at before
      cases before
  · exact harmless_link linked ((course.get?_eq_file_iff apart member inside).2 stood)

omit apart

theorem Course.of_makes {paths : List Path} (makes : Makes paths present after) :
    Course outputs kept initial after := by
  have steps : Overwrites (Room outputs initial) (KeptFile kept initial) present after := by
    refine ⟨makes.more.workingDirectory, fun {location} outside => ?_, makes.more.entry,
      fun linked => .inl (makes.linked linked)⟩
    rcases makes.made location with same | ⟨missing, -⟩
    · exact same
    · rw [course.overwrites.outside outside] at missing
      exact absurd (.inr missing) outside
  refine ⟨course.overwrites.trans steps, fun {location entry} missing notBelow stands => ?_⟩
  rcases makes.made location with same | ⟨-, standing, -⟩
  · rw [same] at stands
    exact course.made missing notBelow stands
  · rw [stands] at standing
    exact Option.some.inj standing

theorem Course.of_overwrites (isOutput : site ∈ outputs)
    (overwrites : Overwrites (Below site) (KeptFile kept initial) present after) :
    Course outputs kept initial after := by
  have wider : Overwrites (Room outputs initial) (KeptFile kept initial) present after :=
    overwrites.mono fun below => .inl ⟨site, isOutput, below⟩
  refine ⟨course.overwrites.trans wider, fun missing notBelow stands => ?_⟩
  rw [overwrites.outside (notBelow site isOutput)] at stands
  exact course.made missing notBelow stands

/-- Where a directory opens in its turn is where it would have opened at the start. -/
theorem Course.opens_unique (apart : Apart outputs kept initial) {path : Path}
    {first opened : FileSystem} {other : Location} (atStart : initial.Opens path first site)
    (inTurn : present.Opens path opened other) : other = site := by
  have begun : Course outputs kept initial first := (Course.refl initial).of_makes atStart.makes
  have now := course.of_makes inTurn.makes
  refine atStart.opensAt.unique inTurn.opensAt ?_ (fun outside => ?_) (begun.settled apart).tame
    (now.settled apart).tame
  · rw [now.overwrites.workingDirectory, begun.overwrites.workingDirectory]
  · rw [now.overwrites.outside outside, begun.overwrites.outside outside]

end Course

/-- In the course of renderings, what arrives below an output leaves every link there leading to a
file that is kept. -/
theorem guard_course (apart : Apart outputs kept initial) (isOutput : site ∈ outputs) :
    Guard (Below site) (KeptFile kept initial) (Overwrites (Below site) (KeptFile kept initial))
      (Course outputs kept initial) where
  closed := closed_below site
  changes := Overwrites.changes
  tame course := fun _ _ _ _ _ below => (course.settled apart).tame (.inl ⟨site, isOutput, below⟩)
  put course arrives := ⟨.put arrives, course.of_overwrites isOutput (.put arrives)⟩
  erase _ := .erase

/-! ### Sources -/

/-- However far renderings have come, a path leads to where something is kept, or nowhere. -/
def LeadsToKept (relation : FileSystem → FileSystem → Prop) (base : FileSystem)
    (kept : List Location) (path : Path) : Prop :=
  ∀ {now location}, relation base now → now.resolve path = .ok location →
    ∃ source ∈ kept, within source location = true

theorem supplies_kept (apart : Apart outputs kept initial) (isOutput : site ∈ outputs)
    (course : Course outputs kept initial present) :
    Supplies (Overwrites (Below site) (KeptFile kept initial)) present (KeptFile kept initial)
      (LeadsToKept (Overwrites (Below site) (KeptFile kept initial)) present kept) where
  child {path name} leads expected isName now location reached resolved := by
    have courseNow := course.of_overwrites isOutput reached
    obtain ⟨-, ⟨left, walk⟩, -⟩ := resolve_eq_ok_iff.1 resolved
    rw [Path.steps_child path isName, start_child path isName, follow_append] at walk
    obtain ⟨⟨directory, remaining⟩, first, last⟩ := bind_eq_ok_iff.1 walk
    have standing := directory_of_follow last (by simp)
    have parent : now.resolve path = .ok directory := by
      refine resolve_eq_ok_iff.2 ⟨expected, ⟨remaining, ?_⟩, by simp [standing]⟩
      rcases path.steps_eq with steps | steps
      · rw [steps, first]
      · rw [steps, follow_append, first]
        exact follow_dot remaining standing
    obtain ⟨source, member, inside⟩ := leads reached parent
    have inKept : within source (name :: directory) = true := within_parent inside
    have ended : now.follow remaining directory [name] = .ok (location, left) := last
    rw [follow_name remaining standing isName (courseNow.unlinked apart member inKept)] at ended
    split at ended
    · cases ended
    · split at ended
      · cases ended
      · obtain ⟨rfl, -⟩ := Prod.mk.inj (Except.ok.inj ended)
        exact ⟨source, member, inKept⟩
  file {path now location content} leads reached resolved stands := by
    obtain ⟨source, member, inside⟩ := leads reached resolved
    have courseNow := course.of_overwrites isOutput reached
    exact ⟨⟨source, member, inside⟩, content,
      (courseNow.get?_eq_file_iff apart member inside).1 stands⟩

/-- A path that led to a directory at the start leads there all the time. -/
theorem leadsToKept_of_resolve (apart : Apart outputs kept initial) (isOutput : site ∈ outputs)
    (course : Course outputs kept initial present) {path : Path} {source : Location}
    (member : source ∈ kept) (inside : within source location = true)
    (resolved : initial.resolve path = .ok location)
    (standing : initial.get? location = some .directory) :
    LeadsToKept (Overwrites (Below site) (KeptFile kept initial)) present kept path := by
  intro now other reached again
  have courseNow := course.of_overwrites isOutput reached
  obtain ⟨-, ⟨left, walk⟩, -⟩ := resolve_eq_ok_iff.1 resolved
  obtain ⟨-, ⟨_, walkNow⟩, -⟩ := resolve_eq_ok_iff.1 again
  have same := courseNow.overwrites.follow ((Course.refl initial).settled apart).tame
    (Nat.le_refl _) walk standing
  rw [courseNow.overwrites.workingDirectory, same] at walkNow
  obtain ⟨rfl, -⟩ := Prod.mk.inj (Except.ok.inj walkNow)
  exact ⟨source, member, inside⟩

end FileSystem

namespace Rendering

variable {outputs kept : List Location} {initial present files : FileSystem}
  {rendering : Rendering} {renderings : List Rendering}

/-- What is asked of a rendering when its turn comes: it renders into an output, what the names in
its template set render to does not leave that, and its sources are kept. Where its paths lead is
told by the files at the start; in its turn a path may lead nowhere. -/
structure Confined (rendering : Rendering) (outputs kept : List Location)
    (initial present : FileSystem) : Prop where
  target : (∃ site ∈ outputs, ∃ opened, initial.Opens rendering.target opened site) ∨
    ∀ opened site, ¬present.Opens rendering.target opened site
  names : ∀ opened site, present.Opens rendering.target opened site →
    TemplateAction.InwardNames site opened rendering.template rendering.dictionary
  sources : ∀ opened site, present.Opens rendering.target opened site →
    ∀ source ∈ rendering.dictionary.sources,
      (∃ directory ∈ kept, ∃ location, within directory location = true ∧
        initial.resolve source = .ok location ∧ initial.get? location = some .directory) ∨
      ∀ now location, opened.AgreesOff site now → now.resolve source ≠ .ok location

/-- A rendering goes on with the course of those before it. -/
theorem course_after (apart : Apart outputs kept initial)
    (course : Course outputs kept initial present)
    (confined : rendering.Confined outputs kept initial present) :
    Course outputs kept initial (rendering.after present) := by
  rw [after]
  rcases TemplateAction.render_cases rendering.dictionary rendering.transfer rendering.template
    rendering.target present with ran | ⟨failure, made, opening, ran⟩ | ⟨opened, site, opens, ran⟩
  · rw [ran]
    exact course
  · have makes := FileAction.makes_createDirectories rendering.target present
    rw [opening] at makes
    rw [ran]
    exact course.of_makes makes
  · rw [ran]
    have now := course.of_makes opens.makes
    have isOutput : site ∈ outputs := by
      rcases confined.target with ⟨other, member, first, atStart⟩ | nowhere
      · rwa [course.opens_unique apart atStart opens]
      · exact absurd opens (nowhere opened site)
    have guard := guard_course apart isOutput
    have sources : ∀ source ∈ rendering.dictionary.sources,
        LeadsToKept (Overwrites (Below site) (KeptFile kept initial)) opened kept source := by
      intro source member
      rcases confined.sources opened site opens source member with
        ⟨directory, isKept, location, inside, resolved, standing⟩ | nowhere
      · exact leadsToKept_of_resolve apart isOutput now isKept inside resolved standing
      · intro later location reached resolved
        exact absurd resolved (nowhere later location reached.changes.agreesOff)
    exact now.of_overwrites isOutput (TemplateAction.upholds_renderSet guard opens.opensAt now
      (confined.names opened site opens)
      (fun _ => ⟨supplies_kept apart isOutput now, sources⟩) _).keeps

theorem course_afterAll (apart : Apart outputs kept initial)
    (course : Course outputs kept initial present)
    (confined : ∀ earlier rendering later, renderings = earlier ++ rendering :: later →
      rendering.Confined outputs kept initial (afterAll earlier present)) :
    Course outputs kept initial (afterAll renderings present) := by
  induction renderings generalizing present with
  | nil => exact course
  | cons first rest inductionHypothesis =>
    have next := course_after apart course (confined [] first rest rfl)
    refine inductionHypothesis next fun earlier rendering later shape => ?_
    exact confined (first :: earlier) rendering later (by rw [shape]; rfl)

/-- Sources are never written through: whatever is rendered, in whichever way the sources arrive,
the files that are kept stay as they were. -/
theorem files_kept_afterAll (apart : Apart outputs kept files)
    (confined : ∀ earlier rendering later, renderings = earlier ++ rendering :: later →
      rendering.Confined outputs kept files (afterAll earlier files))
    {directory location : Location} (member : directory ∈ kept)
    (inside : within directory location = true) (content : Content) :
    (afterAll renderings files).get? location = some (.file content) ↔
      files.get? location = some (.file content) :=
  (course_afterAll apart (Course.refl files) confined).get?_eq_file_iff apart member inside

/-! ### Links and then copies -/

/-- Three sources, and a template set that has files of the names of two of them: one comes before
the marker in the order of names, the other after it. -/
def overlaidFiles : FileSystem :=
  FileSystem.empty
    |>.put [] "src" .directory
    |>.put ["src"] "README" (.file "two entities".toUTF8)
    |>.put ["src"] "adder.vhd" (.file "entity adder".toUTF8)
    |>.put ["src"] "carry.vhd" (.file "entity carry".toUTF8)
    |>.put [] "set" .directory
    |>.put ["set"] "README" (.file "a wrapper".toUTF8)
    |>.put ["set"] "_sources" (.file "".toUTF8)
    |>.put ["set"] "adder.vhd" (.file "entity wrapper".toUTF8)

def overlaidDictionary : Dictionary :=
  ⟨[("SOURCES", .list [.text "/src"])]⟩

def overlaidSet : Path := .ofText "/set"

/-- A directory for output that does not stand yet. -/
def overlaidTarget : Path := .ofText "/out"

def overlaid (transfer : Transfer) : Rendering where
  dictionary := overlaidDictionary
  transfer
  template := overlaidSet
  target := overlaidTarget

/-- What stands when the output is open, in the first turn and in the second one: the output, and a
template set in which names render to themselves. -/
theorem opened_overlaid : ∀ present ∈ [overlaidFiles, (overlaid .link).after overlaidFiles],
    let ended := (FileAction.createDirectories overlaidTarget).run present
    (ended.1 = .ok () ∧ ended.2.follow linkLimit [] ["out"] = .ok (["out"], linkLimit) ∧
      ended.2.get? ["out"] = some .directory) ∧
    TemplateAction.Flat ended.2 overlaidSet ["set"] ∧
    ∀ name ∈ ended.2.names ["set"], name ≠ TemplateAction.sourcesMarker →
      ∀ rendered ∈ (overlaidDictionary.render name).toOption, TemplateAction.Inward rendered := by
  decide +kernel

theorem opens_overlaid {present : FileSystem}
    (turn : present ∈ [overlaidFiles, (overlaid .link).after overlaidFiles]) :
    present.Opens overlaidTarget ((FileAction.createDirectories overlaidTarget).run present).2
      ["out"] := by
  obtain ⟨⟨made, walk, standing⟩, -⟩ := opened_overlaid present turn
  exact .of_run (Prod.ext made rfl) walk standing

theorem confined_overlaid (transfer : Transfer) {present : FileSystem}
    (turn : present ∈ [overlaidFiles, (overlaid .link).after overlaidFiles]) :
    (overlaid transfer).Confined [["out"]] [["src"], ["set"]] overlaidFiles present where
  target := .inl ⟨["out"], by simp, _, opens_overlaid (by simp)⟩
  names := by
    intro opened site opens
    obtain ⟨rfl, rfl⟩ := (opens_overlaid turn).unique opens
    obtain ⟨-, flat, inward⟩ := opened_overlaid present turn
    exact .of_flat flat (by decide) inward
  sources := by
    intro opened site _ source isSource
    have member : source ∈ overlaidDictionary.sources := isSource
    have only : overlaidDictionary.sources = [{ segments := ["", "src"] }] := by
      decide +kernel
    rw [only, List.mem_singleton] at member
    subst member
    exact .inl ⟨["src"], by simp, ["src"], by decide, by decide +kernel, by decide +kernel⟩

/-- A source that was linked into the output is as it was when copies have taken the place of the
links. -/
theorem files_kept_overlaid :
    let files := afterAll [overlaid .link, overlaid .copy] overlaidFiles
    files.get? ["carry.vhd", "out"] = some (.file "entity carry".toUTF8) ∧
    files.get? ["adder.vhd", "src"] = some (.file "entity adder".toUTF8) := by
  have apart : Apart [["out"]] [["src"], ["set"]] overlaidFiles :=
    ⟨by decide, fun _ _ location target _ =>
      unlinked_of_linkless (by decide +kernel) location target⟩
  refine ⟨by decide +kernel, (files_kept_afterAll apart ?_ (by simp : ["src"] ∈ _)
    (by decide) _).2 (by decide +kernel)⟩
  intro earlier rendering later shape
  match earlier with
  | [] =>
    obtain ⟨rfl, -⟩ := List.cons.inj shape
    exact confined_overlaid .link (by simp [afterAll])
  | [_] =>
    obtain ⟨rfl, rest⟩ := List.cons.inj shape
    obtain ⟨rfl, -⟩ := List.cons.inj rest
    exact confined_overlaid .copy (by simp [afterAll])
  | _ :: _ :: _ => simp at shape

end Rendering

end KernelExport
