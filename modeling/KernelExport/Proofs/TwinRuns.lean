/-
This file says that steps which write by paths of known names end alike on twins, and leave twins:
making directories, laying trees over directories, removing trees and rendering template sets.

What is read may lie in the workspace. Rendering needs two things of its dictionaries, which may
differ in the sources that they name: texts mean the same with both, and what a known name renders
to is made of known names again (`Renders`).
-/

import KernelExport.Proofs.Removal
import KernelExport.Proofs.Rendering
import KernelExport.Proofs.Twins

namespace KernelExport

open FileSystem FileAction

/-- Directories are made on two file systems alike if each of them is, or stands on both. -/
theorem FileAction.alike_createFirst {relation : FileSystem → FileSystem → Prop}
    {left right : FileSystem} {paths : List Path} (related : relation left right)
    (each : ∀ path ∈ paths, ∀ {left right}, relation left right →
      right.isDirectory path = left.isDirectory path ∧
      Workspaces.Tallies relation (left.createDirectory path) (right.createDirectory path)) :
    Alike relation (createFirst paths) (createFirst paths) left right := by
  induction paths generalizing left right with
  | nil => exact .throw related _ _
  | cons path above inductionHypothesis =>
    obtain ⟨here, further⟩ := List.forall_mem_cons.1 each
    have stands : ∀ {left right}, relation left right → ∀ failure another,
        Alike relation
          (do if (← get).isDirectory path then pure () else throw failure : FileAction Unit)
          (do if (← get).isDirectory path then pure () else throw another : FileAction Unit)
          left right := by
      intro left right related failure another
      refine Alike.get ?_
      rw [(here related).1]
      split
      · exact .pure related ()
      · exact .throw related _ _
    rw [createFirst]
    split
    · exact .pure related ()
    · refine Alike.get ?_
      rcases (here related).2.cases with
        ⟨after, later, made, madeToo, still⟩ | ⟨failure, fails, failsToo⟩
      · rw [made, madeToo]
        exact .set still
      · rw [fails, failsToo]
        cases failure with
        | notFound =>
          refine Alike.bind (inductionHypothesis related further) fun _ after later _ _ still => ?_
          refine Alike.get ?_
          rcases (here still).2.cases with
            ⟨_, _, made, madeToo, last⟩ | ⟨failure, fails, failsToo⟩
          · rw [made, madeToo]
            exact .set last
          · rw [fails, failsToo]
            exact stands still failure failure
        | _ => exact stands related _ _

namespace Workspaces

variable {workspaces : Workspaces} {left right : FileSystem} {path source counterpart : Path}
  {location : Location}

/-! ### Steps on files -/

section Steps

variable (twins : workspaces.Twins left right)

include twins

theorem alike_ask {Result : Type} {question another : FileSystem → Except FileError Result}
    (same : another right = question left) :
    Alike workspaces.Twins (ask question) (ask another) left right := by
  refine ⟨?_, ?_⟩ <;> rw [run_ask, run_ask]
  · rw [same]
  · exact twins

theorem alike_change {operation another : FileSystem → Except FileError FileSystem}
    (tallies : Tallies workspaces.Twins (operation left) (another right)) :
    Alike workspaces.Twins (change operation) (change another) left right := by
  refine ⟨?_, ?_⟩ <;> rw [run_change, run_change] <;>
    rcases tallies.cases with ⟨after, later, done, alsoDone, still⟩ | ⟨failure, fails, failsToo⟩
  · rw [done, alsoDone]
  · rw [fails, failsToo]
  · rw [done, alsoDone]
    exact still
  · rw [fails, failsToo]
    exact twins

theorem alike_createDirectories (among : Among workspaces.known path.parts) :
    Alike workspaces.Twins (createDirectories path) (createDirectories path) left right :=
  alike_createFirst twins fun above member {_ _} twins =>
    have told := among.of_prefix (path.ancestors_parts above member).2
    ⟨twins.concurs.isDirectory told, twins.createDirectory told⟩

theorem alike_place (readable : workspaces.Readable source counterpart)
    (among : Among workspaces.known path.parts) :
    Alike workspaces.Twins (place .copy source path) (place .copy counterpart path) left right := by
  have arrives : ∀ {left right}, workspaces.Twins left right →
      Alike workspaces.Twins (change (·.copyFile source path))
        (change (·.copyFile counterpart path)) left right :=
    fun twins => alike_change twins (twins.copyFile among readable)
  refine Alike.get ?_
  rw [twins.concurs.standing among]
  cases left.standing path with
  | error failure =>
    show Alike workspaces.Twins (pure () >>= fun _ => change (·.copyFile source path))
      (pure () >>= fun _ => change (·.copyFile counterpart path)) left right
    exact Alike.bind (.pure twins ()) fun _ _ _ _ _ still => arrives still
  | ok entry =>
    exact Alike.bind (alike_change twins (twins.removeFile among)) fun _ _ _ _ _ still =>
      arrives still

theorem alike_overlayWithin (levels : Nat) (readable : workspaces.Readable source counterpart)
    (among : Among workspaces.known path.parts) :
    Alike workspaces.Twins (overlayWithin .copy levels source path)
      (overlayWithin .copy levels counterpart path) left right := by
  induction levels generalizing source counterpart path left right with
  | zero => exact .throw twins _ _
  | succ levels inductionHypothesis =>
    refine Alike.bind (alike_createDirectories twins among) fun _ opened also _ _ still => ?_
    obtain ⟨same, named⟩ := readable.readDirectory still
    refine Alike.bind (alike_ask still same) fun names present now asked _ still => ?_
    rw [run_ask] at asked
    have read := (Prod.mk.inj asked).1
    refine Alike.forM_same still fun name member present now twins => ?_
    obtain ⟨isName, known⟩ := named read name member
    have inner := readable.child isName known
    have into := (among_child isName).2 ⟨among, known⟩
    refine Alike.get ?_
    rw [inner.isDirectory twins]
    split
    · exact inductionHypothesis twins inner into
    · exact alike_place twins inner into

/-- What comes of an empty directory is the same on both. -/
theorem exists_emptied (told : Among workspaces.known location)
    (among : Among workspaces.known path.parts) :
    ∃ result after later, emptied path location left = (result, after) ∧
      emptied path location right = (result, later) ∧ workspaces.Twins after later := by
  obtain ⟨same, there⟩ := twins.concurs.placement among
  rw [emptied, emptied, same]
  cases placed : left.placement path with
  | error failure => exact ⟨_, _, _, rfl, rfl, twins⟩
  | ok found =>
    cases found with
    | none => exact ⟨_, _, _, rfl, rfl, twins⟩
    | some place =>
      simp only [twins.outside (there placed)]
      split
      · exact ⟨_, _, _, rfl, rfl, twins.erase told⟩
      · exact ⟨_, _, _, rfl, rfl, twins⟩

/-- Removing a tree by a known path has the same result on both, be it a failure. -/
theorem exists_run_removeAll (among : Among workspaces.known path.parts) :
    ∃ result after later, (removeAll path).run left = (result, after) ∧
      (removeAll path).run right = (result, later) ∧ workspaces.Twins after later := by
  obtain ⟨leads, told⟩ := twins.concurs.resolve among
  rw [run_removeAll_eq, run_removeAll_eq, twins.concurs.standing among, leads]
  cases left.standing path with
  | error failure => exact ⟨_, _, _, rfl, rfl, twins⟩
  | ok entry =>
    cases entry with
    | file content => exact ⟨_, _, _, rfl, rfl, twins⟩
    | link target =>
      simp only [run_change]
      rcases (twins.removeFile among).cases with
        ⟨after, later, done, alsoDone, still⟩ | ⟨failure, fails, failsToo⟩
      · rw [done, alsoDone]
        exact ⟨_, _, _, rfl, rfl, still⟩
      · rw [fails, failsToo]
        exact ⟨_, _, _, rfl, rfl, twins⟩
    | directory =>
      cases resolved : left.resolve path with
      | error failure => exact ⟨_, _, _, rfl, rfl, twins⟩
      | ok location =>
        exact exists_emptied (twins.eraseBelow (told resolved)) (told resolved) among

theorem alike_removeTree (among : Among workspaces.known path.parts) :
    Alike workspaces.Twins (removeTree path) (removeTree path) left right := by
  obtain ⟨result, after, later, ran, also, still⟩ := exists_run_removeAll twins among
  refine ⟨?_, ?_⟩ <;> rw [removeTree, run_tryCatch, run_tryCatch, ran, also]
  · cases result with
    | ok _ => rfl
    | error failure => cases failure <;> rfl
  · cases result with
    | ok _ => exact still
    | error failure => cases failure <;> exact still

end Steps

/-! ### Rendering -/

variable (workspaces) in
/-- Texts mean the same with both dictionaries, whose sources can be read alike, and what known
names render to is made of known names. -/
structure Renders (dictionary another : Dictionary) : Prop where
  render : ∀ text, another.render text = dictionary.render text
  sources : List.Forall₂ workspaces.Readable dictionary.sources another.sources
  known : ∀ {name rendered}, workspaces.known name → dictionary.render name = .ok rendered →
    Among workspaces.known (Path.ofText rendered).parts

theorem among_join {known : String → Prop} {text : String} (among : Among known path.parts)
    (told : Among known (Path.ofText text).parts) :
    Among known (path.join (.ofText text)).parts := by
  cases absolute : (Path.ofText text).isAbsolute with
  | true => rwa [Path.join, if_pos absolute]
  | false =>
    rw [((Path.Prolongs.refl path).join absolute (Path.ofText_segments_ne_nil text)).parts,
      List.nil_append, among_append]
    exact ⟨among, told⟩

section Rendering

open TemplateAction

variable {dictionary another : Dictionary} (twins : workspaces.Twins left right)

include twins

theorem alike_meaning (renders : workspaces.Renders dictionary another) (text : String) :
    Alike workspaces.Twins (meaning dictionary source text) (meaning another counterpart text)
      left right := by
  refine ⟨?_, ?_⟩ <;> rw [run_meaning, run_meaning]
  · rw [renders.render]
    cases dictionary.render text <;> rfl
  · exact twins

theorem alike_replaceFile (among : Among workspaces.known path.parts) (content : ByteArray) :
    Alike workspaces.Twins (replaceFile path content) (replaceFile path content) left right := by
  have writes : ∀ {left right}, workspaces.Twins left right →
      Alike workspaces.Twins (onFiles path (change (·.writeFile path content)))
        (onFiles path (change (·.writeFile path content))) left right :=
    fun twins => (alike_change twins (twins.writeFile among content)).adapt
  refine Alike.get ?_
  rw [twins.concurs.standing among]
  split
  · exact Alike.bind (alike_change twins (twins.removeFile among)).adapt fun _ _ _ _ _ still =>
      writes still
  · exact Alike.bind (.pure twins ()) fun _ _ _ _ _ still => writes still

theorem alike_renderFile (renders : workspaces.Renders dictionary another)
    (readable : workspaces.Readable source counterpart)
    (among : Among workspaces.known path.parts) :
    Alike workspaces.Twins (renderFile dictionary source path) (renderFile another counterpart path)
      left right := by
  have same := readable.readFile twins
  refine Alike.bind (alike_ask twins same).adapt fun content _ _ _ _ still => ?_
  cases String.fromUTF8? content with
  | some text =>
    exact Alike.bind (alike_meaning still renders text).map fun _ _ _ _ _ last =>
      alike_replaceFile last among _
  | none => exact Alike.bind (.pure still content) fun rendered _ _ _ _ last =>
      alike_replaceFile last among rendered

theorem alike_renderWithin {levels : Nat} (renders : workspaces.Renders dictionary another)
    (readable : workspaces.Readable source counterpart)
    (among : Among workspaces.known path.parts) :
    Alike workspaces.Twins (renderWithin dictionary .copy levels source path)
      (renderWithin another .copy levels counterpart path) left right := by
  induction levels generalizing source counterpart path left right with
  | zero => exact .throw twins _ _
  | succ levels inductionHypothesis =>
    refine Alike.bind (alike_createDirectories twins among).adapt fun _ opened also _ _ still => ?_
    obtain ⟨same, named⟩ := readable.readDirectory still
    refine Alike.bind (alike_ask still same).adapt fun names present now asked _ still => ?_
    rw [onFiles, run_adapt_eq_ok_iff, run_ask] at asked
    have read := (Prod.mk.inj asked).1
    refine Alike.forM_same still fun name member present now twins => ?_
    split
    · exact Alike.forM twins renders.sources fun readable twins =>
        (alike_overlayWithin twins _ readable among).adapt
    · obtain ⟨isName, known⟩ := named read name member
      have inner := readable.child isName known
      refine Alike.bind (alike_meaning twins renders name)
        fun rendered after later means _ still => ?_
      rw [run_meaning] at means
      have rendering := mapError_eq_ok_iff.1 (Prod.mk.inj means).1
      have into := among_join among (renders.known known rendering)
      refine Alike.get ?_
      rw [inner.isDirectory still]
      split
      · exact inductionHypothesis still inner into
      · exact alike_renderFile still renders inner into

/-- Rendering a template set by a known path ends alike on twins. -/
theorem alike_render (renders : workspaces.Renders dictionary another)
    (readable : workspaces.Readable source counterpart)
    (among : Among workspaces.known path.parts) :
    Alike workspaces.Twins (render dictionary .copy source path)
      (render another .copy counterpart path) left right := by
  refine Alike.get ?_
  rw [readable.isDirectory twins]
  split
  · exact alike_renderWithin twins renders readable among
  · exact .throw twins _ _

end Rendering

end Workspaces

end KernelExport
