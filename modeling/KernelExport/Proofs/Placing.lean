/-
This file says what it comes to when something is made, placed or written at a name in a directory.

The path of the directory leads to it, so the path of the name leads to the place, unless a name or
a path is too long to be asked for (`Sayable`). If a directory is made there, it arrives where
nothing stood; what is placed or written arrives in the place of anything but a directory. All of
that is told exactly, both when it succeeds and when it fails.
-/

import KernelExport.Proofs.Deliveries
import KernelExport.Proofs.Rendering

namespace KernelExport

open FileSystem

namespace FileAction

variable {files : FileSystem} {path source : Path} {location origin : Location} {name : String}
  {content : Content}

/-! ### Directories -/

/-- Where a path leads to a directory, none can be made, and not for want of anything. -/
theorem createDirectory_of_isDirectory (stands : files.isDirectory path = true) :
    ∃ failure, failure ≠ .notFound ∧ files.createDirectory path = .error failure := by
  obtain ⟨site, opensAt, resolved⟩ := opensAt_of_isDirectory stands
  obtain ⟨expected, -⟩ := resolve_eq_ok_iff.1 resolved
  obtain ⟨left, walk⟩ := opensAt.walk
  rcases List.eq_nil_or_concat path.parts with noParts | ⟨before, last, parts⟩
  · have placed : files.placement path = .ok none := by
      have reversed : (path.segments.filter (· ≠ "")).reverse = [] :=
        List.reverse_eq_nil_iff.2 noParts
      rw [placement, placementFrom, expected]
      simp only [reversed]
      rfl
    exact ⟨.alreadyExists, by simp, by rw [createDirectory, placed]; rfl⟩
  · rw [List.concat_eq_append] at parts
    rw [parts, follow_append] at walk
    obtain ⟨⟨directory, links⟩, first, second⟩ := bind_eq_ok_iff.1 walk
    have standing := directory_of_follow second (by simp)
    have placed : files.placementFrom linkLimit files.workingDirectory path = _ :=
      placementFrom_of_parts _ _ parts
    rw [expected, first] at placed
    simp only [Except.bind, expectDirectory_eq_ok_iff.2 standing] at placed
    split at placed
    · exact ⟨.alreadyExists, by simp, by rw [createDirectory, placement, placed]; rfl⟩
    · rename_i ordinary
      split at placed
      · exact ⟨.nameTooLong, by simp, by rw [createDirectory, placement, placed]; rfl⟩
      · have place := createDirectory_of_placement placed
        obtain ⟨-, -, -, isName, -⟩ := placementFrom_eq_some_iff.1 placed
        obtain ⟨entry, found⟩ := Option.ne_none_iff_exists'.1 (stands_of_follow second isName)
        rw [Placement.location] at place
        simp only [found] at place
        exact ⟨.alreadyExists, by simp, place⟩

/-- Nothing is made where a path leads to a directory. -/
theorem run_createDirectories_of_isDirectory (stands : files.isDirectory path = true) :
    (createDirectories path).run files = (.ok (), files) := by
  obtain ⟨above, ancestors⟩ := path.exists_ancestors
  obtain ⟨failure, other, failed⟩ := createDirectory_of_isDirectory stands
  rw [createDirectories, ancestors, createFirst]
  split
  · rfl
  · rw [run_bind, run_get]
    simp only [failed]
    cases failure with
    | notFound => exact absurd rfl other
    | _ =>
      rw [run_bind, run_get]
      simp only [stands, if_true]
      rfl

/-- Where a path opens a directory, making it again changes nothing. -/
theorem run_createDirectories_again (opens : files.OpensAt path location)
    (standing : files.get? location = some .directory)
    (askable : path.isEmpty = true ∨ expectPath path = .ok ()) :
    (createDirectories path).run files = (.ok (), files) := by
  rcases askable with empty | expected
  · obtain ⟨above, ancestors⟩ := path.exists_ancestors
    rw [createDirectories, ancestors, createFirst, if_pos empty]
    rfl
  · have stands : files.isDirectory path = true := by
      rw [isDirectory, resolve_of_opensAt opens standing, expected]
      simp [Except.map, standing]
    exact run_createDirectories_of_isDirectory stands

theorem run_place (transfer : Transfer) (source target : Path) (files : FileSystem) :
    (place transfer source target).run files =
      match files.standing target with
      | .ok _ => (change (·.removeFile target) >>= fun _ => arrive transfer source target).run files
      | .error _ => (arrive transfer source target).run files := by
  have looks : place transfer source target = MonadState.get >>= fun present =>
      match present.standing target with
      | .ok _ => change (·.removeFile target) >>= fun _ => arrive transfer source target
      | .error _ => pure () >>= fun _ => arrive transfer source target := by
    cases transfer <;> rfl
  rw [looks, run_bind, run_get]
  simp only []
  cases files.standing target <;> rfl

section Child

variable (opens : files.OpensAt path location) (isName : IsName name)
  (standing : files.get? location = some .directory)

include opens isName standing

/-- A directory is made at a name unless it stands there or something else does. -/
theorem run_createDirectories_child (harmless : ∀ target ending left,
      files.get? (name :: location) = some (.link target) →
      files.follow linkLimit location [name] = .ok (ending, left) →
      files.get? ending ≠ some .directory) :
    (createDirectories (path.child name)).run files =
      if Sayable path name then
        match files.get? (name :: location) with
        | none => (.ok (), files.put location name .directory)
        | some .directory => (.ok (), files)
        | some _ => (.error .alreadyExists, files)
      else (.error .nameTooLong, files) := by
  obtain ⟨above, ancestors⟩ := (path.child name).exists_ancestors
  obtain ⟨left, placed⟩ := opens.placement_child isName standing
  have stands := opens.isDirectory_child isName standing harmless
  rw [createDirectories, ancestors, createFirst,
    if_neg (by rw [Path.isEmpty_child path isName]; decide), run_bind, run_get]
  by_cases sayable : Sayable path name
  · rw [if_pos sayable] at placed ⊢
    simp only [createDirectory_of_placement placed, Placement.location]
    cases found : files.get? (name :: location) with
    | none => rfl
    | some entry =>
      simp only [run_bind, run_get, stands, sayable, found, true_and]
      cases entry <;> rfl
  · rw [if_neg sayable] at placed ⊢
    have failed : files.createDirectory (path.child name) = .error .nameTooLong := by
      rw [createDirectory, placed]
      rfl
    simp only [failed, run_bind, run_get, stands, sayable, false_and]
    rfl

/-! ### Files -/

/-- A file is written to a name that no link has, unless one is there that is closed to that. -/
theorem writeFile_child (unlinked : Sayable path name →
      ∀ target, files.get? (name :: location) ≠ some (.link target)) :
    files.writeFile (path.child name) content =
      if Sayable path name then
        if files.get? (name :: location) = some .directory then .error .isDirectory
        else if files.closed (name :: location) then .error .permissionDenied
        else .ok (files.put location name (.file content))
      else .error .nameTooLong := by
  obtain ⟨left, placed⟩ := opens.placement_child isName standing
  by_cases sayable : Sayable path name
  · rw [if_pos sayable] at placed ⊢
    rw [writeFile, writingPlace_of_placementFrom placed rfl (unlinked sayable), Placement.location]
    simp only []
    split
    · rename_i directory
      rw [if_pos directory]
      rfl
    · rename_i plain
      rw [if_neg plain]
      rfl
  · rw [if_neg sayable] at placed ⊢
    rw [placement] at placed
    rw [writeFile, writingPlace, placed]
    rfl

/-- What a name leads to itself. -/
theorem standing_child : files.standing (path.child name) =
    if Sayable path name then
      match files.get? (name :: location) with
      | some entry => .ok entry
      | none => .error .notFound
    else .error .nameTooLong := by
  obtain ⟨left, placed⟩ := opens.placement_child isName standing
  by_cases sayable : Sayable path name
  · rw [if_pos sayable] at placed ⊢
    exact standing_of_unslashed placed rfl
  · rw [if_neg sayable] at placed ⊢
    rw [FileSystem.standing, placed]
    rfl

theorem removeFile_child : files.removeFile (path.child name) =
    if Sayable path name then
      match files.get? (name :: location) with
      | none => .error .notFound
      | some .directory => .error .isDirectory
      | some _ => .ok (files.erase (name :: location))
    else .error .nameTooLong := by
  obtain ⟨left, placed⟩ := opens.placement_child isName standing
  by_cases sayable : Sayable path name
  · rw [if_pos sayable] at placed ⊢
    rw [removeFile_of_placement placed]
    rfl
  · rw [if_neg sayable] at placed ⊢
    rw [removeFile, placed]
    rfl

theorem createLink_child (target : Path) : files.createLink target (path.child name) =
    if Sayable path name then
      match files.get? (name :: location) with
      | some _ => .error .alreadyExists
      | none => .ok (files.put location name (.link target))
    else .error .nameTooLong := by
  obtain ⟨left, placed⟩ := opens.placement_child isName standing
  by_cases sayable : Sayable path name
  · rw [if_pos sayable] at placed ⊢
    rw [createLink, placed]
    rfl
  · rw [if_neg sayable] at placed ⊢
    rw [createLink, placed]
    rfl

/-- Where nothing has the name, a source arrives in either way. -/
theorem run_arrive_child {transfer : Transfer}
    (missing : Sayable path name → files.get? (name :: location) = none)
    (resolved : files.resolve source = .ok origin)
    (file : files.get? origin = some (.file content)) :
    (arrive transfer source (path.child name)).run files =
      if Sayable path name then
        (.ok (), files.put location name ((Item.source origin content).entry transfer))
      else (.error .nameTooLong, files) := by
  cases transfer with
  | copy =>
    have copied : files.copyFile source (path.child name) =
        files.writeFile (path.child name) content := by
      simp only [copyFile, resolved, bind, Except.bind, file]
    rw [arrive, run_change, copied,
      writeFile_child opens isName standing fun sayable => by simp [missing sayable]]
    by_cases sayable : Sayable path name
    · simp only [sayable, if_true, closed, missing sayable, reduceCtorEq, if_false, Option.any_none,
        Bool.false_eq_true]
      rfl
    · simp only [sayable, if_false]
  | link =>
    have absolute : files.canonical source = .ok (pathOf origin) := by
      rw [canonical, resolved]
      rfl
    simp only [arrive, run_bind, run_ask, absolute, run_change,
      createLink_child opens isName standing]
    by_cases sayable : Sayable path name
    · simp only [sayable, if_true, missing sayable]
      rfl
    · simp only [sayable, if_false]

end Child

end FileAction

namespace FileSystem

variable {base files : FileSystem} {site location : Location} {path : Path} {name : String}

/-! ### What arrivals leave alone -/

/-- Files that arrivals below a site have come to, among them a directory that a path opens. -/
structure Reached (base : FileSystem) (site : Location) (path : Path) (location : Location)
    (files : FileSystem) : Prop where
  overwrites : Overwrites (Below site) (fun _ => True) base files
  settled : Settled (Below site) files
  opens : files.OpensAt path location
  standing : files.get? location = some .directory

/-- An arrival below a site, and if a source arrives, then that of a file elsewhere. -/
structure Arrival.Proper (base : FileSystem) (site : Location) (arrival : Arrival) : Prop where
  inside : within site arrival.directory = true
  source : ∀ {location content}, arrival.item = .source location content →
    base.get? location = some (.file content) ∧ ¬Below site location

theorem Reached.receive {transfer : Transfer} {arrival : Arrival}
    (reached : Reached base site path location files) (proper : arrival.Proper base site)
    (receives : files.Receives arrival) :
    Reached base site path location (files.receive transfer arrival) := by
  by_cases standing : files.get? arrival.location = some .directory
  · rwa [receive_of_standing standing]
  · have arrives : Arrives (Below site) (fun _ => True) files arrival.directory arrival.name
        (arrival.item.entry transfer) := by
      refine ⟨⟨receives.directory, standing, receives.isName⟩, below_cons _ proper.inside, ?_⟩
      cases item : arrival.item with
      | directory =>
        refine .directory ?_
        cases found : files.get? arrival.location with
        | none => exact found
        | some entry => exact absurd (found.trans (congrArg some ((receives.kind found).2 item))) standing
      | file content => exact .file content
      | source origin content =>
        obtain ⟨file, apart⟩ := proper.source item
        cases transfer with
        | copy => exact .file content
        | link =>
          refine .link ?_ ((reached.overwrites.outside apart).trans file) trivial
          rintro rfl
          exact apart (below_cons _ proper.inside)
    have overwrites := Overwrites.put arrives
    exact ⟨reached.overwrites.trans overwrites, reached.settled.put arrives,
      reached.opens.of_overwrites reached.settled.tame overwrites,
      overwrites.directory reached.standing⟩

theorem Reached.receiveAll {transfer : Transfer} {arrivals : List Arrival}
    (reached : Reached base site path location files)
    (proper : ∀ arrival ∈ arrivals, arrival.Proper base site)
    (receives : ReceivesAll transfer files arrivals) :
    Reached base site path location (receiveAll transfer arrivals files) := by
  induction arrivals generalizing files with
  | nil => exact reached
  | cons arrival arrivals inductionHypothesis =>
    rw [List.forall_mem_cons] at proper
    exact inductionHypothesis (reached.receive proper.1 receives.1) proper.2 receives.2

/-! ### Making a name vacant -/

/-- What has a name in a directory is taken away, so that there is room for something else. -/
structure Vacant (base : FileSystem) (site : Location) (path : Path) (location : Location)
    (name : String) (files present : FileSystem) : Prop where
  overwrites : Overwrites (Below site) (fun _ => True) base present
  opens : present.OpensAt path location
  standing : present.get? location = some .directory
  missing : present.get? (name :: location) = none
  put : ∀ entry, present.put location name entry = files.put location name entry

theorem Reached.vacant (reached : Reached base site path location files)
    (missing : files.get? (name :: location) = none) :
    Vacant base site path location name files files :=
  ⟨reached.overwrites, reached.opens, reached.standing, missing, fun _ => rfl⟩

theorem Reached.vacant_erase (reached : Reached base site path location files)
    (isName : IsName name) (isInside : within site location = true)
    (plain : files.get? (name :: location) ≠ some .directory) :
    Vacant base site path location name files (files.erase (name :: location)) := by
  have erases : Overwrites (Below site) (fun _ => True) files (files.erase (name :: location)) :=
    .erase (below_cons name isInside) plain
  exact ⟨reached.overwrites.trans erases,
    reached.opens.of_overwrites reached.settled.tame erases, erases.directory reached.standing,
    get?_erase_self plain, put_erase ⟨reached.standing, plain, isName⟩⟩

end FileSystem

namespace FileAction

variable {base files after : FileSystem} {site location origin : Location} {path source : Path}
  {name : String} {content : Content} {transfer : Transfer}

/-- A directory that is made at a name is received. -/
theorem delivers_createDirectories (reached : Reached base site path location files)
    (isName : IsName name) (isInside : within site location = true) :
    Delivers (Sayable path name) transfer files ⟨location, name, .directory⟩
      ((createDirectories (path.child name)).run files) := by
  rw [run_createDirectories_child reached.opens isName reached.standing fun _ _ _ linked walk =>
    reached.settled.tame (below_cons name isInside) linked walk]
  by_cases sayable : Sayable path name
  · rw [if_pos sayable]
    cases found : files.get? (name :: location) with
    | none =>
      exact .received sayable (receives_directory isName reached.standing (by simp [found]))
    | some entry =>
      cases entry with
      | directory =>
        have same : files.receive transfer ⟨location, name, .directory⟩ = files :=
          receive_of_standing found
        have received : Delivers (Sayable path name) transfer files ⟨location, name, .directory⟩
            ((.ok () : Except FileError Unit), _) :=
          .received sayable (receives_directory isName reached.standing (by simp [found]))
        rwa [same] at received
      | file _ | link _ => exact .refused fun ⟨_, receives⟩ => by simpa using receives.kind found
  · rw [if_neg sayable]
    exact .refused fun able => sayable able.1

/-- A source that is placed is received. -/
theorem delivers_place (reached : Reached base site path location files)
    (isName : IsName name) (isInside : within site location = true)
    (read : ∀ {present}, Overwrites (Below site) (fun _ => True) base present →
      present.resolve source = .ok origin ∧ present.get? origin = some (.file content)) :
    Delivers (Sayable path name) transfer files ⟨location, name, .source origin content⟩
      ((place transfer source (path.child name)).run files) := by
  have second : ∀ {present}, Vacant base site path location name files present →
      (arrive transfer source (path.child name)).run present =
        if Sayable path name then
          (.ok (), files.receive transfer ⟨location, name, .source origin content⟩)
        else (.error .nameTooLong, present) := by
    intro present vacant
    obtain ⟨resolved, file⟩ := read vacant.overwrites
    rw [run_arrive_child vacant.opens isName vacant.standing (fun _ => vacant.missing) resolved
      file, vacant.put]
    rfl
  rw [run_place, standing_child reached.opens isName reached.standing]
  by_cases sayable : Sayable path name
  · have removed := removeFile_child reached.opens isName reached.standing
    have receives : files.get? (name :: location) ≠ some .directory →
        files.Receives ⟨location, name, .source origin content⟩ := fun plain =>
      receives_of_ne_directory isName reached.standing (by simp) plain (by simp)
    rw [if_pos sayable] at removed ⊢
    cases found : files.get? (name :: location) with
    | none =>
      simp only [second (reached.vacant found)]
      rw [if_pos sayable]
      exact .received sayable (receives (by simp [found]))
    | some entry =>
      simp only [found] at removed ⊢
      rw [run_bind, run_change, removed]
      cases entry with
      | directory => exact .refused fun ⟨_, receives⟩ => by simpa using receives.kind found
      | file _ | link _ =>
        have plain : files.get? (name :: location) ≠ some .directory := by simp [found]
        simp only [second (reached.vacant_erase isName isInside plain)]
        rw [if_pos sayable]
        exact .received sayable (receives plain)
  · obtain ⟨resolved, file⟩ := read reached.overwrites
    rw [if_neg sayable, run_arrive_child reached.opens isName reached.standing
      (fun able => absurd able sayable) resolved file, if_neg sayable]
    exact .refused fun able => sayable able.1

end FileAction

namespace TemplateAction

open FileAction

variable {base files : FileSystem} {site location : Location} {path : Path} {name : String}
  {transfer : Transfer}

theorem run_onFiles_change (concerned : Path)
    (operation : FileSystem → Except FileError FileSystem) (files : FileSystem) :
    (onFiles concerned (change operation)).run files = match operation files with
      | .ok changed => (.ok (), changed)
      | .error failure => (.error (.files concerned failure), files) := by
  rw [onFiles, run_adapt, run_change]
  cases operation files <;> rfl

theorem run_replaceFile (target : Path) (content : ByteArray) (files : FileSystem) :
    (replaceFile target content).run files =
      match files.standing target with
      | .ok (.link _) => (onFiles target (change (·.removeFile target)) >>= fun _ =>
          onFiles target (change (·.writeFile target content))).run files
      | _ => (onFiles target (change (·.writeFile target content))).run files := by
  have looks : replaceFile target content = MonadState.get >>= fun present =>
      match present.standing target with
      | .ok (.link _) => onFiles target (change (·.removeFile target)) >>= fun _ =>
          onFiles target (change (·.writeFile target content))
      | _ => pure () >>= fun _ => onFiles target (change (·.writeFile target content)) := rfl
  rw [looks, run_bind, run_get]
  simp only []
  split <;> rfl

/-- A file is written to a name that no link has, nor a directory. -/
theorem run_writeFile_child (opens : files.OpensAt path location) (isName : IsName name)
    (standing : files.get? location = some .directory)
    (unlinked : Sayable path name →
      ∀ target, files.get? (name :: location) ≠ some (.link target)) (content : Content) :
    (onFiles (path.child name) (change (·.writeFile (path.child name) content))).run files =
      if Sayable path name then
        if files.get? (name :: location) = some .directory then
          (.error (.files (path.child name) .isDirectory), files)
        else if files.closed (name :: location) then
          (.error (.files (path.child name) .permissionDenied), files)
        else (.ok (), files.put location name (.file content))
      else (.error (.files (path.child name) .nameTooLong), files) := by
  rw [run_onFiles_change, writeFile_child opens isName standing unlinked]
  by_cases sayable : Sayable path name
  · by_cases directory : files.get? (name :: location) = some .directory
    · simp only [sayable, directory, if_true]
    · by_cases closed : files.closed (name :: location) = true <;>
        simp only [sayable, directory, closed, if_true, if_false, Bool.false_eq_true]
  · simp only [sayable, if_false]

/-- A file that is written, in the place of a link if there is one, is received. -/
theorem delivers_replaceFile (reached : Reached base site path location files)
    (isName : IsName name) (isInside : within site location = true) (content : ByteArray) :
    Delivers (Sayable path name) transfer files ⟨location, name, .file content⟩
      ((replaceFile (path.child name) content).run files) := by
  rw [run_replaceFile, standing_child reached.opens isName reached.standing]
  by_cases sayable : Sayable path name
  · have receives : files.get? (name :: location) ≠ some .directory →
        files.closed (name :: location) = false →
        files.Receives ⟨location, name, .file content⟩ := fun plain isOpen =>
      receives_of_ne_directory isName reached.standing (by simp) plain fun _ => isOpen
    have write := fun unlinked =>
      run_writeFile_child reached.opens isName reached.standing unlinked content
    rw [if_pos sayable] at write ⊢
    cases found : files.get? (name :: location) with
    | none =>
      have isOpen : files.closed (name :: location) = false := by simp [closed, found]
      simp only [found, isOpen, reduceCtorEq, if_false, Bool.false_eq_true] at write ⊢
      rw [write (by simp)]
      exact .received sayable (receives (by simp [found]) isOpen)
    | some entry =>
      cases entry with
      | directory =>
        simp only [found, if_true] at write ⊢
        rw [write (by simp)]
        refine .refused ?_
        rintro ⟨-, receives⟩
        simpa using receives.kind found
      | file _ =>
        simp only [found, Option.some.injEq, reduceCtorEq, if_false] at write ⊢
        rw [write (by simp)]
        cases closed : files.closed (name :: location) with
        | false => exact .received sayable (receives (by simp [found]) closed)
        | true =>
          refine .refused ?_
          rintro ⟨-, receives⟩
          exact Bool.false_ne_true ((receives.writable rfl).symm.trans closed)
      | link _ =>
        -- The link goes first, and there is room for the file then.
        have plain : files.get? (name :: location) ≠ some .directory := by simp [found]
        have vacant := reached.vacant_erase isName isInside plain
        have removed := removeFile_child reached.opens isName reached.standing
        rw [if_pos sayable, found] at removed
        simp only [] at removed ⊢
        rw [run_bind, run_onFiles_change, removed]
        simp only []
        rw [run_writeFile_child vacant.opens isName vacant.standing
          (fun _ => by simp [vacant.missing]), if_pos sayable, vacant.missing,
          if_neg (by simp), if_neg (by simp [closed, vacant.missing]), vacant.put]
        exact .received sayable (receives plain (by simp [closed, found, Entry.closed]))
  · rw [if_neg sayable]
    simp only []
    rw [run_writeFile_child reached.opens isName reached.standing
      (fun able => absurd able sayable), if_neg sayable]
    exact .refused fun able => sayable able.1

end TemplateAction

end KernelExport
