/-
This file says that laying trees over a directory, and rendering templates into it, follows a script:
a list of arrivals that depends neither on what stands in the directory nor on the way in which
sources arrive (`Scripted`).

The script is read off templates and sources. Those lie apart from the directory and hold no links, so
they read the same whatever has arrived in it (`Shelf`). Steps that follow a script succeed exactly if
the arrivals can be received, and come to what they come to. So steps that can never succeed have no
script, and steps one after the other have their scripts one after the other.
-/

import KernelExport.Proofs.Landings
import KernelExport.Proofs.Placing

namespace KernelExport

namespace FileSystem

variable {base files : FileSystem} {site location inside : Location} {path : Path}
  {name : String}

/-! ### Shelves -/

theorem ordered_names (files : FileSystem) (directory : Location) :
    (files.names directory).Pairwise fun first second => compare first second = .lt := by
  refine List.Pairwise.filterMap _ ?_ Std.ExtTreeMap.ordered_keys
  rintro (_ | ⟨first, _⟩) (_ | ⟨second, _⟩) less _ isFirst _ isSecond
  all_goals simp only [Option.ite_none_right_eq_some, Option.some.injEq, reduceCtorEq] at isFirst isSecond
  obtain ⟨rfl, rfl⟩ := isFirst
  obtain ⟨rfl, rfl⟩ := isSecond
  simpa [List.compare_cons_cons] using less

theorem increasing_names (files : FileSystem) (directory : Location) :
    (files.names directory).Pairwise (· < ·) :=
  (ordered_names files directory).imp fun less => compareOfLessAndEq_eq_lt.1 less

theorem nodup_names (files : FileSystem) (directory : Location) : (files.names directory).Nodup :=
  (ordered_names files directory).imp fun less same => by
    subst same
    simp at less

/-- The names in a directory are those at which something stands, in their order. -/
theorem names_congr {other : FileSystem} {elsewhere : Location}
    (same : ∀ name, (other.get? (name :: elsewhere)).isSome = (files.get? (name :: location)).isSome) :
    other.names elsewhere = files.names location := by
  refine List.Perm.eq_of_pairwise (fun first second _ _ less greater => ?_)
    (ordered_names other elsewhere) (ordered_names files location)
    ((List.perm_ext_iff_of_nodup (nodup_names other _) (nodup_names files _)).2 fun name => ?_)
  · exact absurd greater (Std.OrientedCmp.not_lt_of_lt less)
  · rw [mem_names, mem_names, same]

/-- A path leads to a directory apart from a site, in which there are no links. -/
structure Shelf (base : FileSystem) (site : Location) (path : Path) (location : Location) :
    Prop where
  opens : base.OpensAt path location
  standing : base.get? location = some .directory
  apart : within site location = false ∧ within location site = false
  unlinked : ∀ {inside}, within location inside = true →
    ∀ target, base.get? inside ≠ some (.link target)

section Shelf

variable (shelf : base.Shelf site path location)

include shelf

theorem Shelf.not_below (isInside : within location inside = true) : ¬Below site inside := by
  intro below
  have outside := not_within_of_apart shelf.apart isInside
  rw [below.2] at outside
  cases outside

theorem Shelf.child (isName : IsName name) (sayable : Sayable path name)
    (standing : base.get? (name :: location) = some .directory) :
    base.Shelf site (path.child name) (name :: location) where
  opens := shelf.opens.child isName shelf.standing sayable standing
  standing := standing
  apart := by
    have isInside : within location (name :: location) = true := within_parent (within_self location)
    refine ⟨not_within_of_apart shelf.apart isInside, Bool.eq_false_iff.2 fun inChild => ?_⟩
    have outward := shelf.apart.2
    rw [within_trans isInside inChild] at outward
    cases outward
  unlinked isInside := shelf.unlinked (within_trans (within_parent (within_self location)) isInside)

/-- A shelf holds the same whatever has arrived below the site. -/
theorem Shelf.of_overwrites (tame : Tame (Below site) base)
    (overwrites : Overwrites (Below site) (fun _ => True) base files) :
    files.Shelf site path location := by
  have same : ∀ {inside}, within location inside = true → files.get? inside = base.get? inside :=
    fun isInside => overwrites.outside (shelf.not_below isInside)
  refine ⟨shelf.opens.of_overwrites tame overwrites, ?_, shelf.apart, fun isInside => ?_⟩
  · rw [same (within_self location), shelf.standing]
  · rw [same isInside]
    exact shelf.unlinked isInside

end Shelf

/-- A path leads to one shelf only. -/
theorem Shelf.location_unique {other : Location} (shelf : base.Shelf site path location)
    (again : base.Shelf site path other) : other = location := by
  obtain ⟨_, walk⟩ := shelf.opens.walk
  obtain ⟨_, walkAgain⟩ := again.opens.walk
  exact (Prod.mk.inj (Except.ok.inj (walkAgain.symm.trans walk))).1

section Reads

variable (shelf : base.Shelf site path location) (tame : Tame (Below site) base)
  (overwrites : Overwrites (Below site) (fun _ => True) base files)

include shelf tame overwrites

theorem Shelf.readDirectory :
    files.readDirectory path = (expectPath path).map fun _ => base.names location := by
  have now := shelf.of_overwrites tame overwrites
  have same : files.names location = base.names location := names_congr fun name =>
    congrArg Option.isSome
      (overwrites.outside (shelf.not_below (within_parent (within_self location))))
  rw [readDirectory_of_opensAt now.opens now.standing, same]

theorem Shelf.resolve_child (isName : IsName name) :
    files.resolve (path.child name) =
      if Sayable path name then
        if base.get? (name :: location) = none then .error .notFound else .ok (name :: location)
      else .error .nameTooLong := by
  have now := shelf.of_overwrites tame overwrites
  have isInside : within location (name :: location) = true := within_parent (within_self location)
  rw [now.opens.resolve_child isName now.standing (now.unlinked isInside),
    overwrites.outside (shelf.not_below isInside)]

theorem Shelf.isDirectory_child (isName : IsName name) :
    files.isDirectory (path.child name) =
      decide (Sayable path name ∧ base.get? (name :: location) = some .directory) := by
  have now := shelf.of_overwrites tame overwrites
  have isInside : within location (name :: location) = true := within_parent (within_self location)
  rw [now.opens.isDirectory_child isName now.standing fun target _ _ linked =>
    absurd linked (now.unlinked isInside target), overwrites.outside (shelf.not_below isInside)]

end Reads

/-- What is on a shelf is found there whatever has arrived below the site: a directory, which is a
shelf too, or a file, unless a name or path is too long to be asked for. -/
theorem Shelf.child_cases (shelf : base.Shelf site path location) (tame : Tame (Below site) base)
    (member : name ∈ base.names location) :
    (base.Shelf site (path.child name) (name :: location) ∧
      ∀ {files}, Overwrites (Below site) (fun _ => True) base files →
        files.isDirectory (path.child name) = true) ∨
    (∃ content, base.get? (name :: location) = some (.file content) ∧
      ∀ {files}, Overwrites (Below site) (fun _ => True) base files →
        files.isDirectory (path.child name) = false ∧
        files.resolve (path.child name) = .ok (name :: location) ∧
        files.get? (name :: location) = some (.file content)) ∨
    ∀ {files}, Overwrites (Below site) (fun _ => True) base files →
      files.isDirectory (path.child name) = false ∧
      files.resolve (path.child name) = .error .nameTooLong := by
  have stands : base.get? (name :: location) ≠ none :=
    Option.isSome_iff_ne_none.1 ((base.mem_names location name).1 member)
  have isName := base.isName_of_get? stands
  have isInside : within location (name :: location) = true := within_parent (within_self location)
  by_cases sayable : Sayable path name
  · cases found : base.get? (name :: location) with
    | none => exact absurd found stands
    | some entry =>
      cases entry with
      | link target => exact absurd found (shelf.unlinked isInside target)
      | directory =>
        refine .inl ⟨shelf.child isName sayable found, fun overwrites => ?_⟩
        rw [shelf.isDirectory_child tame overwrites isName, decide_eq_true_eq]
        exact ⟨sayable, found⟩
      | file content =>
        refine .inr (.inl ⟨content, rfl, fun overwrites => ⟨?_, ?_, ?_⟩⟩)
        · rw [shelf.isDirectory_child tame overwrites isName, found]
          simp
        · rw [shelf.resolve_child tame overwrites isName, if_pos sayable, if_neg stands]
        · rw [overwrites.outside (shelf.not_below isInside), found]
  · refine .inr (.inr fun overwrites => ⟨?_, ?_⟩)
    · rw [shelf.isDirectory_child tame overwrites isName, decide_eq_false_iff_not]
      exact fun able => sayable able.1
    · rw [shelf.resolve_child tame overwrites isName, if_neg sayable]

/-! ### Scripts -/

/-- Steps succeed exactly if the arrivals of a script can be received, and come to what these come
to, from any files that arrivals below a site have come to. Steps without a script never succeed. -/
structure FollowsScript {Failure : Type} (base : FileSystem) (site : Location) (path : Path)
    (location : Location) (script : Option (List Arrival))
    (action : Transfer → ExceptT Failure (StateM FileSystem) Unit) : Prop where
  proper : ∀ arrivals ∈ script, ∀ arrival ∈ arrivals, arrival.Proper base site
  runs : ∀ {transfer files after}, Reached base site path location files →
    ((action transfer).run files = (.ok (), after) ↔
      ∃ arrivals ∈ script, ReceivesAll transfer files arrivals ∧
        after = receiveAll transfer arrivals files)

def Scripted {Failure : Type} (base : FileSystem) (site : Location) (path : Path)
    (location : Location) (action : Transfer → ExceptT Failure (StateM FileSystem) Unit) : Prop :=
  ∃ script, FollowsScript base site path location script action

/-- Steps follow a script whose arrivals are as they should be. -/
def ScriptedBy {Failure : Type} (base : FileSystem) (site : Location) (path : Path)
    (location : Location) (fits : List Arrival → Prop)
    (action : Transfer → ExceptT Failure (StateM FileSystem) Unit) : Prop :=
  ∃ script, (∀ arrivals ∈ script, fits arrivals) ∧ FollowsScript base site path location script action

/-- Where steps of a script have succeeded, their files are among those that arrivals come to. -/
theorem Scripted.reached {Failure : Type}
    {action : Transfer → ExceptT Failure (StateM FileSystem) Unit}
    (scripted : Scripted base site path location action) {transfer : Transfer}
    {after : FileSystem} (before : Reached base site path location files)
    (ran : (action transfer).run files = (.ok (), after)) :
    Reached base site path location after := by
  obtain ⟨script, proper, runs⟩ := scripted
  obtain ⟨arrivals, member, receives, rfl⟩ := (runs before).1 ran
  exact before.receiveAll (proper arrivals member) receives

namespace ScriptedBy

variable {Failure Other Result : Type} {fits others : List Arrival → Prop}
  {action second : Transfer → ExceptT Failure (StateM FileSystem) Unit}

theorem scripted (scripted : ScriptedBy base site path location fits action) :
    Scripted base site path location action := by
  obtain ⟨script, -, follows⟩ := scripted
  exact ⟨script, follows⟩

theorem mono (scripted : ScriptedBy base site path location fits action)
    (more : ∀ {arrivals}, fits arrivals → others arrivals) :
    ScriptedBy base site path location others action := by
  obtain ⟨script, fitting, follows⟩ := scripted
  exact ⟨script, fun arrivals member => more (fitting arrivals member), follows⟩

theorem congr {other : Transfer → ExceptT Failure (StateM FileSystem) Unit}
    (scripted : ScriptedBy base site path location fits other)
    (same : ∀ {transfer files}, Reached base site path location files →
      (action transfer).run files = (other transfer).run files) :
    ScriptedBy base site path location fits action := by
  obtain ⟨script, fitting, proper, runs⟩ := scripted
  refine ⟨script, fitting, proper, fun before => ?_⟩
  rw [same before]
  exact runs before

theorem never (fails : ∀ {transfer files after}, Reached base site path location files →
      (action transfer).run files ≠ (.ok (), after)) :
    ScriptedBy base site path location fits action :=
  ⟨none, by simp, by simp, fun before => ⟨fun done => absurd done (fails before), by simp⟩⟩

theorem nothing (idle : ∀ {transfer files}, Reached base site path location files →
      (action transfer).run files = (.ok (), files)) :
    ScriptedBy base site path location (· = []) action := by
  refine ⟨some [], by simp, by simp, fun before => ?_⟩
  rw [idle before]
  simp only [Option.mem_some_iff, exists_eq_left', ReceivesAll, true_and, receiveAll_nil]
  exact ⟨fun same => (Prod.mk.inj same).2.symm, fun same => by rw [same]⟩

theorem of_delivers {possible : Prop} {arrival : Arrival} (proper : arrival.Proper base site)
    (delivers : ∀ {transfer files}, Reached base site path location files →
      Delivers possible transfer files arrival ((action transfer).run files)) :
    ScriptedBy base site path location (· = [arrival]) action := by
  by_cases able : possible
  · refine ⟨some [arrival], by simp, by simpa using proper, fun before => ?_⟩
    rw [(delivers before).eq_ok_iff]
    simp [ReceivesAll, able]
  · exact never fun before done => able ((delivers before).eq_ok_iff.1 done).1

theorem adapt {action : Transfer → ExceptT Other (StateM FileSystem) Unit}
    (scripted : ScriptedBy base site path location fits action) (meaning : Other → Failure) :
    ScriptedBy base site path location fits fun transfer =>
      ExceptT.adapt meaning (action transfer) := by
  obtain ⟨script, fitting, proper, runs⟩ := scripted
  refine ⟨script, fitting, proper, fun before => ?_⟩
  rw [run_adapt_eq_ok_iff]
  exact runs before

/-- Steps one after the other. The later ones may go on from another directory. -/
theorem bind (first : ScriptedBy base site path location fits action) {inner : Path}
    {deeper : Location}
    (leads : ∀ {transfer files after}, Reached base site path location files →
      (action transfer).run files = (.ok (), after) → Reached base site inner deeper after)
    (next : ScriptedBy base site inner deeper others second) :
    ScriptedBy base site path location
      (fun arrivals => ∃ earlier later, fits earlier ∧ others later ∧ arrivals = earlier ++ later)
      fun transfer => action transfer >>= fun _ => second transfer := by
  obtain ⟨script, fitting, proper, runs⟩ := first
  obtain ⟨nextScript, nextFitting, nextProper, nextRuns⟩ := next
  have joined : ∀ {arrivals}, arrivals ∈ (script.bind fun earlier => nextScript.map (earlier ++ ·)) ↔
      ∃ earlier ∈ script, ∃ later ∈ nextScript, arrivals = earlier ++ later := by
    intro arrivals
    cases script <;> cases nextScript <;> simp [eq_comm]
  refine ⟨script.bind fun earlier => nextScript.map (earlier ++ ·),
    fun arrivals member => ?_, fun arrivals member arrival isArrival => ?_, fun before => ?_⟩
  · obtain ⟨earlier, isScript, later, isNext, rfl⟩ := joined.1 member
    exact ⟨earlier, later, fitting earlier isScript, nextFitting later isNext, rfl⟩
  · obtain ⟨earlier, isScript, later, isNext, rfl⟩ := joined.1 member
    rcases List.mem_append.1 isArrival with isEarlier | isLater
    · exact proper earlier isScript arrival isEarlier
    · exact nextProper later isNext arrival isLater
  · rw [run_bind_eq_ok_iff]
    constructor
    · rintro ⟨_, present, ran, done⟩
      have now := leads before ran
      obtain ⟨earlier, isScript, receives, rfl⟩ := (runs before).1 ran
      obtain ⟨later, isNext, receivesNext, rfl⟩ := (nextRuns now).1 done
      exact ⟨earlier ++ later, joined.2 ⟨earlier, isScript, later, isNext, rfl⟩,
        receivesAll_append.2 ⟨receives, receivesNext⟩, receiveAll_append.symm⟩
    · rintro ⟨arrivals, member, receives, rfl⟩
      obtain ⟨earlier, isScript, later, isNext, rfl⟩ := joined.1 member
      obtain ⟨receivesFirst, receivesNext⟩ := receivesAll_append.1 receives
      have ran := (runs before).2 ⟨earlier, isScript, receivesFirst, rfl⟩
      exact ⟨(), _, ran, (nextRuns (leads before ran)).2
        ⟨later, isNext, receivesNext, receiveAll_append⟩⟩

theorem append (first : ScriptedBy base site path location fits action)
    (next : ScriptedBy base site path location others second) :
    ScriptedBy base site path location
      (fun arrivals => ∃ earlier later, fits earlier ∧ others later ∧ arrivals = earlier ++ later)
      fun transfer => action transfer >>= fun _ => second transfer :=
  first.bind first.scripted.reached next

/-- One step for each of several items. Their arrivals come in the order of the items. -/
theorem forM {Item : Type} {items : List Item} (fitsItem : Item → List Arrival → Prop)
    {step : Transfer → Item → ExceptT Failure (StateM FileSystem) Unit}
    (each : ∀ item ∈ items, ScriptedBy base site path location (fitsItem item)
      fun transfer => step transfer item) :
    ScriptedBy base site path location
      (fun arrivals => ∃ parts, List.Forall₂ fitsItem items parts ∧ arrivals = parts.flatten)
      fun transfer => items.forM (step transfer) := by
  induction items with
  | nil => exact (nothing fun _ => rfl).mono fun none => ⟨[], .nil, none⟩
  | cons item items inductionHypothesis =>
    rw [List.forall_mem_cons] at each
    refine (each.1.append (inductionHypothesis each.2)).mono ?_
    rintro _ ⟨earlier, _, fitsFirst, ⟨parts, fitsRest, rfl⟩, rfl⟩
    exact ⟨earlier :: parts, .cons fitsFirst fitsRest, rfl⟩

/-- A question that is always answered in the same way. -/
theorem answered {asks : ExceptT Failure (StateM FileSystem) Result}
    {answer : Except Failure Result}
    {next : Transfer → Result → ExceptT Failure (StateM FileSystem) Unit}
    (same : ∀ {files}, Reached base site path location files → asks.run files = (answer, files))
    (goesOn : ∀ value, answer = .ok value →
      ScriptedBy base site path location fits fun transfer => next transfer value) :
    ScriptedBy base site path location fits fun transfer => asks >>= next transfer := by
  cases answer with
  | error failure =>
    refine never fun before done => ?_
    rw [run_bind, same before] at done
    cases (Prod.mk.inj done).1
  | ok value =>
    refine (goesOn value rfl).congr fun before => ?_
    rw [run_bind, same before]

/-- Steps that depend on whether a path leads to a directory, which nothing changes. -/
theorem ifDirectory {inner : Path} {verdict : Bool}
    {first : Transfer → ExceptT Failure (StateM FileSystem) Unit}
    (same : ∀ {files}, Reached base site path location files → files.isDirectory inner = verdict)
    (chosen : ScriptedBy base site path location fits fun transfer =>
      if verdict then first transfer else second transfer) :
    ScriptedBy base site path location fits fun transfer => MonadState.get >>= fun present =>
      if present.isDirectory inner then first transfer else second transfer := by
  refine chosen.congr fun reached => ?_
  rw [run_bind, run_get]
  simp only [same reached]

end ScriptedBy

end FileSystem

open FileSystem

namespace FileAction

variable {base files after : FileSystem} {site location shelved : Location} {path source : Path}
  {name : String} {transfer : Transfer}

/-! ### Overlaying -/

theorem scripted_createDirectories_child (isName : IsName name)
    (isInside : within site location = true) :
    ScriptedBy base site path location (· = [⟨location, name, .directory⟩])
      fun _ => createDirectories (path.child name) :=
  .of_delivers ⟨isInside, fun impossible => by cases impossible⟩ fun reached =>
    delivers_createDirectories reached isName isInside

/-- Once a directory is made at a name, its path opens it. -/
theorem reached_createDirectories (reached : Reached base site path location files)
    (isName : IsName name) (isInside : within site location = true)
    (ran : (createDirectories (path.child name)).run files = (.ok (), after)) :
    Reached base site (path.child name) (name :: location) after := by
  have delivers : Delivers (Sayable path name) .copy files ⟨location, name, .directory⟩ _ :=
    delivers_createDirectories reached isName isInside
  obtain ⟨sayable, receives, rfl⟩ := delivers.eq_ok_iff.1 ran
  have now : Reached base site path location
      (files.receive .copy ⟨location, name, .directory⟩) :=
    reached.receive ⟨isInside, fun impossible => by cases impossible⟩ receives
  have standing : (files.receive .copy ⟨location, name, .directory⟩).get? (name :: location) =
      some .directory := get?_receive_self receives
  exact ⟨now.overwrites, now.settled, now.opens.child isName now.standing sayable standing, standing⟩

/-- A source that leads nowhere is not placed. -/
theorem not_run_place (reached : Reached base site path location files) (isName : IsName name)
    (isInside : within site location = true)
    (unread : ∀ {present}, Overwrites (Below site) (fun _ => True) base present →
      ∃ failure, present.resolve source = .error failure) :
    (place transfer source (path.child name)).run files ≠ (.ok (), after) := by
  have arrives : ∀ {present}, Overwrites (Below site) (fun _ => True) base present →
      (arrive transfer source (path.child name)).run present ≠ (.ok (), after) := by
    intro present overwrites done
    obtain ⟨failure, unresolved⟩ := unread overwrites
    cases transfer with
    | copy =>
      rw [arrive, run_change, copyFile, unresolved] at done
      cases (Prod.mk.inj done).1
    | link =>
      rw [arrive, run_bind, run_ask, canonical, unresolved] at done
      cases (Prod.mk.inj done).1
  intro done
  rw [run_place, standing_child reached.opens isName reached.standing] at done
  by_cases sayable : Sayable path name
  · have removed := removeFile_child reached.opens isName reached.standing
    rw [if_pos sayable] at removed done
    cases found : files.get? (name :: location) with
    | none =>
      simp only [found] at done
      exact arrives reached.overwrites done
    | some entry =>
      simp only [found] at removed done
      rw [run_bind, run_change, removed] at done
      cases entry with
      | directory => cases (Prod.mk.inj done).1
      | file _ | link _ =>
        have vacant := reached.vacant_erase isName isInside (by simp [found])
        exact arrives vacant.overwrites done
  · rw [if_neg sayable] at done
    exact arrives reached.overwrites done

/-- What is laid over a directory once it stands: the entries of the source directory. -/
def overlayEntries (transfer : Transfer) (levels : Nat) (source target : Path) :
    FileAction Unit := do
  (← ask (·.readDirectory source)).forM fun name => do
    let inner := source.child name
    if (← get).isDirectory inner then overlayWithin transfer levels inner (target.child name)
    else place transfer inner (target.child name)

theorem overlayWithin_succ (transfer : Transfer) (levels : Nat) (source target : Path) :
    overlayWithin transfer (levels + 1) source target =
      createDirectories target >>= fun _ => overlayEntries transfer levels source target := rfl

/-- The entries of a shelf are laid over a directory by a script, if the directories among them
are. -/
theorem scripted_overlayEntries_of {levels : Nat} (tame : Tame (Below site) base)
    (shelf : base.Shelf site source shelved) (isInside : within site location = true)
    (deeper : ∀ {name}, IsName name → base.Shelf site (source.child name) (name :: shelved) →
      ScriptedBy base site path location
        (fun arrivals => ∃ rest, Recorded (Laid base (name :: shelved) (name :: location)) rest ∧
          arrivals = ⟨location, name, .directory⟩ :: rest)
        fun transfer => overlayWithin transfer levels (source.child name) (path.child name)) :
    ScriptedBy base site path location (Recorded (Laid base shelved location))
      fun transfer => overlayEntries transfer levels source path := by
  have asked : ∀ {files}, Reached base site path location files →
      (ask (·.readDirectory source)).run files =
        ((expectPath source).map fun _ => base.names shelved, files) := by
    intro files reached
    rw [run_ask, shelf.readDirectory tame reached.overwrites]
  refine ScriptedBy.answered asked fun names read => ?_
  obtain rfl := names_of_readDirectory ((shelf.readDirectory tame (.refl base)).trans read)
    shelf.opens shelf.standing
  let under := fun name label arrival =>
    label.head? = some name ∧ Laid base shelved location label arrival
  refine (ScriptedBy.forM (fun name => Recorded (under name)) fun name member => ?_).mono ?_
  · have isName := base.isName_of_get?
      (Option.isSome_iff_ne_none.1 ((base.mem_names shelved name).1 member))
    rcases shelf.child_cases tame member with
      ⟨inner, isDirectory⟩ | ⟨content, file, read⟩ | unread
    · refine .ifDirectory (fun reached => isDirectory reached.overwrites)
        ((deeper isName inner).mono ?_)
      rintro _ ⟨rest, recorded, rfl⟩
      exact recorded.laid_directory inner.standing
    · refine .ifDirectory (fun reached => (read reached.overwrites).1) ?_
      refine ScriptedBy.mono (.of_delivers ⟨isInside, fun same => ?_⟩ fun reached =>
        delivers_place reached isName isInside fun overwrites => (read overwrites).2) ?_
      · obtain ⟨rfl, rfl⟩ := Item.source.inj same
        exact ⟨file, shelf.not_below (within_parent (within_self shelved))⟩
      · rintro _ rfl
        exact recorded_laid_file file
    · refine .ifDirectory (fun reached => (unread reached.overwrites).1)
        (.never fun reached => ?_)
      exact not_run_place reached isName isInside fun overwrites => ⟨_, (unread overwrites).2⟩
  · rintro _ ⟨parts, each, rfl⟩
    exact recorded_flatten (base.increasing_names shelved) each Laid.head?_label

/-- A shelf is laid over a directory by a script, and so over one that is made for it. -/
theorem scripted_overlayWithin (tame : Tame (Below site) base)
    (shelf : base.Shelf site source shelved) (isInside : within site location = true)
    (isName : IsName name) (levels : Nat) :
    ScriptedBy base site path location
      (fun arrivals => ∃ rest, Recorded (Laid base shelved (name :: location)) rest ∧
        arrivals = ⟨location, name, .directory⟩ :: rest)
      fun transfer => overlayWithin transfer levels source (path.child name) := by
  induction levels generalizing source shelved path location name with
  | zero => exact .never fun _ impossible => by cases impossible
  | succ levels inductionHypothesis =>
    simp only [overlayWithin_succ]
    refine ((scripted_createDirectories_child isName isInside).bind
      (fun reached ran => reached_createDirectories reached isName isInside ran)
      (scripted_overlayEntries_of tame shelf (within_parent isInside) fun isName inner =>
        inductionHypothesis inner (within_parent isInside) isName)).mono ?_
    rintro _ ⟨_, rest, rfl, recorded, rfl⟩
    exact ⟨rest, recorded, rfl⟩

theorem scripted_overlayEntries (tame : Tame (Below site) base)
    (shelf : base.Shelf site source shelved) (isInside : within site location = true)
    (levels : Nat) :
    ScriptedBy base site path location (Recorded (Laid base shelved location))
      fun transfer => overlayEntries transfer levels source path :=
  scripted_overlayEntries_of tame shelf isInside fun isName inner =>
    scripted_overlayWithin tame inner isInside isName levels

/-- Making a directory again that a path opens changes nothing, if the path can be asked for. -/
theorem scripted_createDirectories :
    ScriptedBy base site path location (· = []) fun _ => createDirectories path := by
  by_cases askable : path.isEmpty = true ∨ expectPath path = .ok ()
  · exact .nothing fun reached => run_createDirectories_again reached.opens reached.standing askable
  · exact .never fun _ ran => askable (expectPath_of_createDirectories ran)

theorem scripted_overlay (tame : Tame (Below site) base)
    (shelf : base.Shelf site source shelved) (isInside : within site location = true) :
    ScriptedBy base site path location (Recorded (Laid base shelved location))
      fun transfer => overlay transfer source path := by
  refine (scripted_createDirectories.append
    (scripted_overlayEntries tame shelf isInside (pathLimit - 1))).mono ?_
  rintro _ ⟨_, rest, rfl, recorded, rfl⟩
  exact recorded

end FileAction

namespace TemplateAction

open FileAction

variable {base files : FileSystem} {site location shelved : Location} {path template : Path}
  {name : String} {dictionary : Dictionary}

/-! ### Rendering -/

/-- A source is a shelf, or leads nowhere whatever stands below the site. -/
def Shelved (base : FileSystem) (site : Location) (source : Path) : Prop :=
  (∃ location, base.Shelf site source location) ∨
    ∀ present location, base.AgreesOff site present → present.resolve source ≠ .ok location

theorem scripted_overlay_of_shelved (tame : Tame (Below site) base) {source : Path}
    (shelved : Shelved base site source) (isInside : within site location = true) :
    ScriptedBy base site path location
      (fun arrivals => ∃ origin, base.Shelf site source origin ∧
        base.resolve source = .ok origin ∧ Recorded (Laid base origin location) arrivals)
      fun transfer => overlay transfer source path := by
  have never : (∀ present location, base.AgreesOff site present →
      present.resolve source ≠ .ok location) →
      ScriptedBy base site path location (fun _ => False)
        fun transfer => overlay transfer source path := by
    intro nowhere
    have fails : ScriptedBy base site path location (fun _ => False)
        fun transfer => overlayEntries transfer (pathLimit - 1) source path := by
      refine .never fun {transfer files after} reached done => ?_
      obtain ⟨names, present, asked, -⟩ := run_bind_eq_ok_iff.1 done
      rw [run_ask] at asked
      obtain ⟨location, resolved, -⟩ := bind_eq_ok_iff.1 (Prod.mk.inj asked).1
      exact nowhere files location reached.overwrites.changes.agreesOff resolved
    exact (scripted_createDirectories.append fails).mono fun ⟨_, _, _, impossible, _⟩ => impossible
  rcases shelved with ⟨origin, shelf⟩ | nowhere
  · by_cases askable : expectPath source = .ok ()
    · have resolved : base.resolve source = .ok origin := by
        rw [resolve_of_opensAt shelf.opens shelf.standing, askable]
        rfl
      exact (scripted_overlay tame shelf isInside).mono fun recorded =>
        ⟨origin, shelf, resolved, recorded⟩
    · exact (never fun _ _ _ resolved => askable (resolve_eq_ok_iff.1 resolved).1).mono False.elim
  · exact (never nowhere).mono False.elim

/-- A template that is a file on a shelf is rendered by a script to a name. -/
theorem scripted_renderFile (isInside : within site location = true) {rendered : String}
    (isName : IsName rendered) {content : ByteArray}
    (read : ∀ {files}, Overwrites (Below site) (fun _ => True) base files →
      files.readFile template = .ok content) :
    ScriptedBy base site path location
      (fun arrivals => ∃ bytes, ComesTo dictionary content bytes ∧
        arrivals = [⟨location, rendered, .file bytes⟩])
      fun _ => renderFile dictionary template (path.child rendered) := by
  have asked : ∀ {files}, Reached base site path location files →
      (onFiles template (ask (·.readFile template))).run files = (.ok content, files) := by
    intro files reached
    rw [onFiles, run_adapt, run_ask, read reached.overwrites]
    rfl
  have written : ∀ {bytes}, ComesTo dictionary content bytes →
      ScriptedBy base site path location
        (fun arrivals => ∃ bytes, ComesTo dictionary content bytes ∧
          arrivals = [⟨location, rendered, .file bytes⟩])
        fun _ => replaceFile (path.child rendered) bytes := fun {bytes} comes =>
    ScriptedBy.mono (.of_delivers ⟨isInside, fun impossible => by cases impossible⟩ fun reached =>
      delivers_replaceFile reached isName isInside bytes) fun only => ⟨bytes, comes, only⟩
  refine ScriptedBy.answered asked fun found same => ?_
  obtain rfl := Except.ok.inj same
  cases isText : String.fromUTF8? content with
  | none => exact written (.bytes isText)
  | some text =>
    have means : ∀ {files}, Reached base site path location files →
        (String.toUTF8 <$> meaning dictionary template text).run files =
          (((dictionary.render text).mapError (.ofFault template)).map String.toUTF8, files) := by
      intro files _
      rw [← bind_pure_comp, run_bind, run_meaning]
      cases dictionary.render text <;> rfl
    refine .answered means fun bytes answer => ?_
    cases rendering : dictionary.render text with
    | error fault =>
      rw [rendering] at answer
      cases answer
    | ok meant =>
      rw [rendering] at answer
      obtain rfl := Except.ok.inj answer
      exact written (.text isText rendering)

/-- The only source directory is a shelf. -/
def OnlySource (base : FileSystem) (site : Location) (dictionary : Dictionary) (origin : Location) :
    Prop :=
  ∃ source, dictionary.sources = [source] ∧ base.Shelf site source origin

/-- An arrival lands, as if the source directory that it comes from were the only one. -/
def Stems (base : FileSystem) (dictionary : Dictionary) (shelved location : Location)
    (arrival : Arrival) : Prop :=
  ∃ origin label, Lands base dictionary origin shelved location label arrival ∧
    ∀ ⦃place content⦄, arrival.item = .source place content →
      ∃ source ∈ dictionary.sources, base.resolve source = .ok origin

/-- The arrivals are those that come of a directory of templates: if there is only one source
directory, they record what lands. -/
structure Foretold (base : FileSystem) (site : Location) (dictionary : Dictionary)
    (shelved location : Location) (arrivals : List Arrival) : Prop where
  recorded : ∀ {origin}, OnlySource base site dictionary origin →
    Recorded (Lands base dictionary origin shelved location) arrivals
  stems : ∀ arrival ∈ arrivals, Stems base dictionary shelved location arrival

/-- The arrivals are those that come of one name in a directory of templates. -/
structure LandUnder (base : FileSystem) (site : Location) (dictionary : Dictionary)
    (shelved location : Location) (name : String) (arrivals : List Arrival) : Prop where
  recorded : ∀ {origin}, OnlySource base site dictionary origin →
    Recorded (fun label arrival => label.head? = some name ∧
      Lands base dictionary origin shelved location label arrival) arrivals
  stems : ∀ arrival ∈ arrivals, Stems base dictionary shelved location arrival

/-- What comes of a directory within a directory of templates. -/
theorem Foretold.landUnder {rendered : String} {arrivals : List Arrival}
    (unmarked : name ≠ sourcesMarker) (stands : base.get? (name :: shelved) = some .directory)
    (rendering : dictionary.render name = .ok rendered)
    (foretold : Foretold base site dictionary (name :: shelved) (rendered :: location) arrivals) :
    LandUnder base site dictionary shelved location name
      (⟨location, rendered, .directory⟩ :: arrivals) where
  recorded only := (foretold.recorded only).lands_directory unmarked stands rendering
  stems := by
    rw [List.forall_mem_cons]
    refine ⟨⟨[], [name], .directory unmarked stands rendering,
      fun _ _ impossible => by cases impossible⟩, fun arrival member => ?_⟩
    obtain ⟨origin, label, lands, known⟩ := foretold.stems arrival member
    exact ⟨origin, name :: label, .inner unmarked stands rendering lands, known⟩

/-- In the place of the marker the source directories are laid over the directory. -/
theorem scripted_overlaySources (tame : Tame (Below site) base)
    (sources : ∀ source ∈ dictionary.sources, Shelved base site source)
    (marked : sourcesMarker ∈ base.names shelved) (isInside : within site location = true) :
    ScriptedBy base site path location (LandUnder base site dictionary shelved location sourcesMarker)
      fun transfer => dictionary.sources.forM fun source =>
        onFiles source (overlay transfer source path) := by
  refine (ScriptedBy.forM _ fun source isSource =>
    (scripted_overlay_of_shelved tame (sources source isSource) isInside).adapt _).mono ?_
  rintro _ ⟨parts, laid, rfl⟩
  refine ⟨fun {origin} ⟨source, only, shelf⟩ => ?_, fun arrival member => ?_⟩
  · rw [only] at laid
    obtain ⟨part, _, ⟨first, shelved, -, recorded⟩, none, rfl⟩ := List.forall₂_cons_left_iff.1 laid
    obtain rfl := List.forall₂_nil_left_iff.1 none
    obtain rfl := shelved.location_unique shelf
    simpa using recorded.lands_source marked
  · obtain ⟨source, isSource, part, ⟨origin, -, resolved, recorded⟩, inPart⟩ :=
      exists_part_of_mem laid member
    obtain ⟨label, lays⟩ := recorded.lands_of_mem inPart
    exact ⟨origin, _, .source marked lays, fun _ _ _ => ⟨source, isSource, resolved⟩⟩

/-- What stands under another name in a directory of templates is rendered by a script, if it is no
directory or the directory is. -/
theorem scripted_renderUnder {levels : Nat} {rendered : String} (tame : Tame (Below site) base)
    (shelf : base.Shelf site template shelved) (member : name ∈ base.names shelved)
    (unmarked : name ≠ sourcesMarker) (rendering : dictionary.render name = .ok rendered)
    (isName : IsName rendered) (isInside : within site location = true)
    (deeper : base.Shelf site (template.child name) (name :: shelved) →
      ScriptedBy base site path location
        (fun arrivals => ∃ rest,
          Foretold base site dictionary (name :: shelved) (rendered :: location) rest ∧
            arrivals = ⟨location, rendered, .directory⟩ :: rest)
        fun transfer =>
          renderWithin dictionary transfer levels (template.child name) (path.child rendered)) :
    ScriptedBy base site path location (LandUnder base site dictionary shelved location name)
      (fun transfer => do
        if (← get).isDirectory (template.child name) then
          renderWithin dictionary transfer levels (template.child name) (path.child rendered)
        else renderFile dictionary (template.child name) (path.child rendered)) := by
  rcases shelf.child_cases tame member with
    ⟨inner, isDirectory⟩ | ⟨content, file, isFile⟩ | unread
  · refine .ifDirectory (fun reached => isDirectory reached.overwrites) ((deeper inner).mono ?_)
    rintro _ ⟨rest, foretold, rfl⟩
    exact foretold.landUnder unmarked inner.standing rendering
  · refine .ifDirectory (fun reached => (isFile reached.overwrites).1) ?_
    have readsFile : ∀ {files}, Overwrites (Below site) (fun _ => True) base files →
        files.readFile (template.child name) = .ok content.bytes := by
      intro files overwrites
      obtain ⟨-, resolved, stands⟩ := isFile overwrites
      simp only [readFile, resolved, bind, Except.bind, stands]
      rfl
    refine (scripted_renderFile isInside isName readsFile).mono ?_
    rintro _ ⟨bytes, comes, rfl⟩
    refine ⟨fun _ => recorded_lands_file unmarked file rendering comes, ?_⟩
    rw [List.forall_mem_singleton]
    exact ⟨[], [name], .file unmarked file rendering comes, fun _ _ impossible => by cases impossible⟩
  · refine .ifDirectory (fun reached => (unread reached.overwrites).1) (.never ?_)
    intro transfer files after reached done
    obtain ⟨content, present, asked, -⟩ := run_bind_eq_ok_iff.1 done
    rw [onFiles, run_adapt_eq_ok_iff, run_ask] at asked
    obtain ⟨_, resolved, -⟩ := bind_eq_ok_iff.1 (Prod.mk.inj asked).1
    rw [(unread reached.overwrites).2] at resolved
    cases resolved

/-- A shelf of templates is rendered into a directory by a script, if the directories among them
are. -/
theorem scripted_renderEntries_of {levels : Nat} {set : Path} (tame : Tame (Below site) base)
    (names : OrdinaryNames site base set dictionary)
    (sources : ∀ source ∈ dictionary.sources, Shelved base site source)
    (shelf : base.Shelf site template shelved) (entered : Entered site base set template)
    (isInside : within site location = true)
    (deeper : ∀ {name rendered}, IsName rendered → Entered site base set (template.child name) →
      base.Shelf site (template.child name) (name :: shelved) →
      ScriptedBy base site path location
        (fun arrivals => ∃ rest,
          Foretold base site dictionary (name :: shelved) (rendered :: location) rest ∧
            arrivals = ⟨location, rendered, .directory⟩ :: rest)
        fun transfer =>
          renderWithin dictionary transfer levels (template.child name) (path.child rendered)) :
    ScriptedBy base site path location (Foretold base site dictionary shelved location)
      fun transfer => renderEntries dictionary transfer levels template path := by
  have asked : ∀ {files}, Reached base site path location files →
      (onFiles template (ask (·.readDirectory template))).run files =
        (((expectPath template).map fun _ => base.names shelved).mapError (.files template),
          files) := by
    intro files reached
    rw [onFiles, run_adapt, run_ask, shelf.readDirectory tame reached.overwrites]
  refine ScriptedBy.answered asked fun found answer => ?_
  have read : base.readDirectory template = .ok found :=
    (shelf.readDirectory tame (.refl base)).trans (mapError_eq_ok_iff.1 answer)
  obtain rfl := names_of_readDirectory read shelf.opens shelf.standing
  refine (ScriptedBy.forM (fun name => LandUnder base site dictionary shelved location name)
    fun name member => ?_).mono ?_
  · by_cases marker : name = sourcesMarker
    · subst marker
      simp only [if_true]
      exact scripted_overlaySources tame sources member isInside
    · simp only [marker, if_false]
      have met : MetIn site base template name :=
        ⟨marker, base, _, ⟨rfl, fun _ => rfl⟩, read, member⟩
      have means : ∀ {files}, Reached base site path location files →
          (meaning dictionary (template.child name) name).run files =
            ((dictionary.render name).mapError (.ofFault (template.child name)), files) :=
        fun _ => run_meaning ..
      refine .answered means fun rendered answer => ?_
      have rendering := mapError_eq_ok_iff.1 answer
      have isName : IsName rendered := names entered met rendering
      exact scripted_renderUnder tame shelf member marker rendering isName isInside
        (deeper isName (entered.child met))
  · rintro _ ⟨parts, each, rfl⟩
    refine ⟨fun only => recorded_flatten (base.increasing_names shelved)
      (each.imp fun name part under => under.recorded only) Lands.head?_label,
      fun arrival member => ?_⟩
    obtain ⟨_, -, _, under, inPart⟩ := exists_part_of_mem each member
    exact under.stems arrival inPart

theorem scripted_renderWithin {set : Path} (tame : Tame (Below site) base)
    (names : OrdinaryNames site base set dictionary)
    (sources : ∀ source ∈ dictionary.sources, Shelved base site source)
    (shelf : base.Shelf site template shelved) (entered : Entered site base set template)
    (isInside : within site location = true) (isName : IsName name) (levels : Nat) :
    ScriptedBy base site path location
      (fun arrivals => ∃ rest, Foretold base site dictionary shelved (name :: location) rest ∧
        arrivals = ⟨location, name, .directory⟩ :: rest)
      fun transfer => renderWithin dictionary transfer levels template (path.child name) := by
  induction levels generalizing template shelved path location name with
  | zero => exact .never fun _ impossible => by cases impossible
  | succ levels inductionHypothesis =>
    simp only [renderWithin_succ]
    refine (((scripted_createDirectories_child isName isInside).adapt _).bind
      (fun reached ran => reached_createDirectories reached isName isInside
        (run_adapt_eq_ok_iff.1 ran))
      (scripted_renderEntries_of tame names sources shelf entered (within_parent isInside)
        fun isName deeper inner =>
          inductionHypothesis inner deeper (within_parent isInside) isName)).mono ?_
    rintro _ ⟨_, rest, rfl, foretold, rfl⟩
    exact ⟨rest, foretold, rfl⟩

/-- A template set on a shelf is rendered into a directory by a script. -/
theorem scripted_renderEntries (tame : Tame (Below site) base)
    (names : OrdinaryNames site base template dictionary)
    (sources : ∀ source ∈ dictionary.sources, Shelved base site source)
    (shelf : base.Shelf site template shelved) (levels : Nat) :
    ScriptedBy base site path site (Foretold base site dictionary shelved site)
      fun transfer => renderEntries dictionary transfer levels template path :=
  scripted_renderEntries_of tame names sources shelf .set (within_self site)
    fun isName entered inner => scripted_renderWithin tame names sources inner entered
      (within_self site) isName levels

end TemplateAction

end KernelExport
