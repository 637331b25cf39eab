/-
This file says what a list of arrivals comes to, each an item that is put at a name in a directory.

A directory arrives where it stands or nothing does, and anything else in the place of anything but
a directory; but no file is written where one stands that is closed to that. So what kind of entry
stands somewhere never changes, once something does (`KindsStay`). That is why arrivals that can be
received by some files can be received again by what has come of them, and also when sources arrive
in the other way (`ReceivesAll.again`), if no copy that is closed to writing comes in the way of what
is written (`Rewritable`). In the end every name that is delivered to has what arrived there last, so
what was delivered to it before makes no difference (`receiveAll_receiveAll`).
-/

import KernelExport.FileSystem.Tree
import KernelExport.Proofs.Arrivals

namespace KernelExport

namespace FileSystem

/-- What arrives at a name. -/
inductive Item where
  | directory
  | file (content : ByteArray)
  /-- The file at a location, as a copy or as a link. -/
  | source (location : Location) (content : Content)

/-- Whether an item is a source that is closed to writing, and so are copies of it. -/
def Item.closed : Item → Bool
  | source _ content => content.readOnly
  | directory | file _ => false

def Item.entry (transfer : Transfer) : Item → Entry
  | directory => .directory
  | file content => .file content
  | source location content =>
    match transfer with
    | .copy => .file content
    | .link => .link (pathOf location)

/-- An item that arrives at a name in a directory. -/
structure Arrival where
  directory : Location
  name : String
  item : Item

def Arrival.location (arrival : Arrival) : Location :=
  arrival.name :: arrival.directory

/-- The directory of an arrival stands, and what stands in its place is a directory if and only if
one arrives. A file that is written over is open to that. -/
structure Receives (files : FileSystem) (arrival : Arrival) : Prop where
  isName : IsName arrival.name
  directory : files.get? arrival.directory = some .directory
  kind : ∀ {entry}, files.get? arrival.location = some entry →
    (entry = .directory ↔ arrival.item = .directory)
  writable : ∀ {bytes}, arrival.item = .file bytes → files.closed arrival.location = false

theorem receives_directory {files : FileSystem} {directory : Location} {name : String}
    (isName : IsName name) (standing : files.get? directory = some .directory)
    (plain : ∀ entry, files.get? (name :: directory) = some entry → entry = .directory) :
    files.Receives ⟨directory, name, .directory⟩ :=
  ⟨isName, standing, fun found => iff_of_true (plain _ found) rfl,
    fun impossible => by cases impossible⟩

/-- What is no directory can be received where none stands, nor what is closed to writing. -/
theorem receives_of_ne_directory {files : FileSystem} {directory : Location} {name : String}
    {item : Item} (isName : IsName name) (standing : files.get? directory = some .directory)
    (other : item ≠ .directory) (plain : files.get? (name :: directory) ≠ some .directory)
    (writable : ∀ {bytes}, item = .file bytes → files.closed (name :: directory) = false) :
    files.Receives ⟨directory, name, item⟩ := by
  refine ⟨isName, standing, fun {entry} found => ⟨fun same => ?_, fun same => absurd same other⟩,
    writable⟩
  rw [same] at found
  exact absurd found plain

def receive (transfer : Transfer) (files : FileSystem) (arrival : Arrival) : FileSystem :=
  files.put arrival.directory arrival.name (arrival.item.entry transfer)

def receiveAll (transfer : Transfer) (arrivals : List Arrival) (files : FileSystem) : FileSystem :=
  arrivals.foldl (receive transfer) files

/-- Arrivals can be received one after the other. -/
def ReceivesAll (transfer : Transfer) (files : FileSystem) : List Arrival → Prop
  | [] => True
  | arrival :: rest =>
    files.Receives arrival ∧ ReceivesAll transfer (files.receive transfer arrival) rest

variable {files before after other : FileSystem} {transfer another : Transfer} {arrival : Arrival}
  {arrivals more : List Arrival} {location : Location}

theorem Item.entry_eq_directory_iff (transfer : Transfer) (item : Item) :
    item.entry transfer = .directory ↔ item = .directory := by
  cases item with
  | directory | file => simp [entry]
  | source => cases transfer <;> simp [entry]

theorem Item.closed_of_closed_entry {item : Item} (closed : (item.entry transfer).closed = true) :
    item.closed = true := by
  cases item with
  | directory | file => exact absurd closed (by simp [entry, Entry.closed])
  | source _ content =>
    cases transfer with
    | copy => exact closed
    | link => exact absurd closed (by simp [entry, Entry.closed])

/-- A directory that stands already is left as it is. -/
theorem receive_of_standing (standing : files.get? arrival.location = some .directory) :
    files.receive transfer arrival = files := by
  have notFree : ¬files.Free arrival.directory arrival.name := fun free => free.2.1 standing
  rw [receive, put, dif_neg notFree]

theorem get?_receive (receives : files.Receives arrival) (location : Location) :
    (files.receive transfer arrival).get? location =
      if location = arrival.location then some (arrival.item.entry transfer)
      else files.get? location := by
  split
  · rename_i here
    subst here
    by_cases standing : files.get? arrival.location = some .directory
    · rw [receive_of_standing standing, standing, (receives.kind standing).1 rfl]
      rfl
    · exact get?_put_self _ ⟨receives.directory, standing, receives.isName⟩
  · rename_i elsewhere
    exact get?_put_of_ne files _ elsewhere

theorem get?_receive_self (receives : files.Receives arrival) :
    (files.receive transfer arrival).get? arrival.location = some (arrival.item.entry transfer) := by
  rw [get?_receive receives, if_pos rfl]

@[simp] theorem workingDirectory_receive :
    (files.receive transfer arrival).workingDirectory = files.workingDirectory :=
  workingDirectory_put ..

@[simp] theorem receiveAll_nil : receiveAll transfer [] files = files := rfl

@[simp] theorem receiveAll_cons : receiveAll transfer (arrival :: arrivals) files =
    receiveAll transfer arrivals (files.receive transfer arrival) := rfl

theorem receiveAll_append : receiveAll transfer (arrivals ++ more) files =
    receiveAll transfer more (receiveAll transfer arrivals files) :=
  List.foldl_append

theorem receivesAll_append : ReceivesAll transfer files (arrivals ++ more) ↔
    ReceivesAll transfer files arrivals ∧
      ReceivesAll transfer (receiveAll transfer arrivals files) more := by
  induction arrivals generalizing files with
  | nil => simp [ReceivesAll]
  | cons arrival arrivals inductionHypothesis =>
    simp only [List.cons_append, ReceivesAll, inductionHypothesis, receiveAll_cons, and_assoc]

@[simp] theorem workingDirectory_receiveAll :
    (receiveAll transfer arrivals files).workingDirectory = files.workingDirectory := by
  induction arrivals generalizing files with
  | nil => rfl
  | cons arrival arrivals inductionHypothesis =>
    rw [receiveAll_cons, inductionHypothesis, workingDirectory_receive]

/-- A run receives an arrival if it can do so, and fails if not. Whether it can may depend on
something besides the files. -/
inductive Delivers {Failure : Type} (possible : Prop) (transfer : Transfer) (files : FileSystem)
    (arrival : Arrival) : Except Failure Unit × FileSystem → Prop
  | received : possible → files.Receives arrival →
    Delivers possible transfer files arrival (.ok (), files.receive transfer arrival)
  | refused {failure : Failure} {after : FileSystem} : ¬(possible ∧ files.Receives arrival) →
    Delivers possible transfer files arrival (.error failure, after)

theorem Delivers.eq_ok_iff {Failure : Type} {possible : Prop}
    {ended : Except Failure Unit × FileSystem}
    (delivers : Delivers possible transfer files arrival ended) :
    ended = (.ok (), after) ↔
      possible ∧ files.Receives arrival ∧ after = files.receive transfer arrival := by
  cases delivers with
  | received able receives =>
    simp only [Prod.mk.injEq, true_and, able, receives]
    exact eq_comm
  | refused unable =>
    refine ⟨fun impossible => ?_, fun ⟨able, receives, _⟩ => absurd ⟨able, receives⟩ unable⟩
    cases (Prod.mk.inj impossible).1

/-! ### Kinds -/

/-- Where something stood, something of its kind stands: a directory or something else. -/
def KindsStay (before after : FileSystem) : Prop :=
  ∀ ⦃location entry⦄, before.get? location = some entry →
    ∃ later, after.get? location = some later ∧ (later = .directory ↔ entry = .directory)

theorem KindsStay.refl (files : FileSystem) : KindsStay files files :=
  fun _ entry stands => ⟨entry, stands, Iff.rfl⟩

theorem KindsStay.trans {first second third : FileSystem} (earlier : KindsStay first second)
    (later : KindsStay second third) : KindsStay first third := by
  intro location entry stands
  obtain ⟨next, standsNext, sameKind⟩ := earlier stands
  obtain ⟨last, standsLast, sameAgain⟩ := later standsNext
  exact ⟨last, standsLast, sameAgain.trans sameKind⟩

theorem KindsStay.directory (kinds : KindsStay before after)
    (standing : before.get? location = some .directory) :
    after.get? location = some .directory := by
  obtain ⟨later, stands, kind⟩ := kinds standing
  rw [stands, kind.2 rfl]

theorem kindsStay_receive (receives : files.Receives arrival) :
    KindsStay files (files.receive transfer arrival) := by
  intro location entry stands
  rw [get?_receive receives]
  split
  · rename_i here
    subst here
    exact ⟨_, rfl, (Item.entry_eq_directory_iff ..).trans (receives.kind stands).symm⟩
  · exact ⟨entry, stands, Iff.rfl⟩

/-- What an arrival leaves is of the same kind wherever it is received. -/
theorem KindsStay.receive (kinds : KindsStay files other) (receives : files.Receives arrival)
    (receivesToo : other.Receives arrival) :
    KindsStay (files.receive transfer arrival) (other.receive another arrival) := by
  intro location entry found
  rw [get?_receive receives] at found
  rw [get?_receive receivesToo]
  split at found
  · rename_i here
    obtain rfl := Option.some.inj found
    exact ⟨_, if_pos here, by simp only [Item.entry_eq_directory_iff]⟩
  · rename_i elsewhere
    rw [if_neg elsewhere]
    exact kinds found

/-- An arrival of the kind that stands in its place in the end is on the way there. -/
theorem KindsStay.receive_left {ended : Entry} (kinds : KindsStay files after)
    (receives : files.Receives arrival) (stands : after.get? arrival.location = some ended)
    (kind : ended = .directory ↔ arrival.item = .directory) :
    KindsStay (files.receive transfer arrival) after := by
  intro location entry found
  rw [get?_receive receives] at found
  split at found
  · rename_i here
    subst here
    obtain rfl := Option.some.inj found
    exact ⟨ended, stands, kind.trans (Item.entry_eq_directory_iff ..).symm⟩
  · exact kinds found

theorem kindsStay_receiveAll (receives : ReceivesAll transfer files arrivals) :
    KindsStay files (receiveAll transfer arrivals files) := by
  induction arrivals generalizing files with
  | nil => exact .refl files
  | cons arrival arrivals inductionHypothesis =>
    exact (kindsStay_receive receives.1).trans (inductionHypothesis receives.2)

/-! ### The last arrival -/

/-- The item that arrives last at a location. -/
def lastItem? : List Arrival → Location → Option Item
  | [], _ => none
  | arrival :: rest, location =>
    (lastItem? rest location).or
      (if location = arrival.location then some arrival.item else none)

theorem get?_receiveAll (receives : ReceivesAll transfer files arrivals) (location : Location) :
    (receiveAll transfer arrivals files).get? location =
      ((lastItem? arrivals location).map (Item.entry transfer)).or (files.get? location) := by
  induction arrivals generalizing files with
  | nil => rfl
  | cons arrival arrivals inductionHypothesis =>
    rw [receiveAll_cons, inductionHypothesis receives.2, get?_receive receives.1, lastItem?]
    cases lastItem? arrivals location with
    | some item => rfl
    | none => split <;> rfl

theorem exists_of_lastItem? {item : Item} (last : lastItem? arrivals location = some item) :
    ∃ arrival ∈ arrivals, arrival.location = location ∧ arrival.item = item := by
  induction arrivals with
  | nil => cases last
  | cons arrival arrivals inductionHypothesis =>
    rw [lastItem?] at last
    cases rest : lastItem? arrivals location with
    | some later =>
      rw [rest] at last
      obtain ⟨found, member, place, isItem⟩ := inductionHypothesis (rest.trans last)
      exact ⟨found, List.mem_cons_of_mem _ member, place, isItem⟩
    | none =>
      rw [rest, Option.none_or] at last
      split at last
      · rename_i here
        exact ⟨arrival, List.mem_cons_self, here.symm, Option.some.inj last⟩
      · cases last

theorem lastItem?_ne_none (member : arrival ∈ arrivals) :
    lastItem? arrivals arrival.location ≠ none := by
  induction arrivals with
  | nil => cases member
  | cons first arrivals inductionHypothesis =>
    rw [lastItem?, Ne, Option.or_eq_none_iff, not_and]
    intro rest
    rcases List.mem_cons.1 member with rfl | later
    · simp
    · exact absurd rest (inductionHypothesis later)

/-! ### Arriving again -/

/-- No source that is closed to writing arrives where a file is written. -/
def Rewritable (arrivals : List Arrival) : Prop :=
  ∀ ⦃written⦄, written ∈ arrivals → ∀ ⦃bytes⦄, written.item = .file bytes →
    ∀ ⦃placed⦄, placed ∈ arrivals → placed.location = written.location → placed.item.closed = false

theorem closed_receive (receives : files.Receives arrival) (location : Location) :
    (files.receive transfer arrival).closed location =
      if location = arrival.location then (arrival.item.entry transfer).closed
      else files.closed location := by
  rw [closed, closed, get?_receive receives]
  split <;> rfl

/-- Where files are written nothing is closed to that which was not closed before. -/
def StaysOpen (arrivals : List Arrival) (before after : FileSystem) : Prop :=
  ∀ written ∈ arrivals, ∀ {bytes}, written.item = .file bytes →
    after.closed written.location = true → before.closed written.location = true

theorem StaysOpen.receive (stays : StaysOpen (arrival :: arrivals) files other)
    (rewritable : Rewritable (arrival :: arrivals)) (receives : files.Receives arrival)
    (receivesToo : other.Receives arrival) :
    StaysOpen arrivals (files.receive transfer arrival) (other.receive another arrival) := by
  intro written member bytes isFile closed
  rw [closed_receive receivesToo] at closed
  rw [closed_receive receives]
  split at closed
  · rename_i here
    have isOpen := rewritable (List.mem_cons_of_mem _ member) isFile List.mem_cons_self here.symm
    rw [Item.closed_of_closed_entry closed] at isOpen
    cases isOpen
  · rename_i elsewhere
    rw [if_neg elsewhere]
    exact stays written (List.mem_cons_of_mem _ member) isFile closed

/-- Arrivals that can be received can be received again by files on the way to what comes of them:
files where things of the same kind stand, and nothing of another kind than in the end. The sources
may arrive in another way. -/
theorem ReceivesAll.of_kinds (receives : ReceivesAll transfer files arrivals)
    (more : KindsStay files other)
    (within : KindsStay other (receiveAll transfer arrivals files)) (rewritable : Rewritable arrivals)
    (stays : StaysOpen arrivals files other) : ReceivesAll another other arrivals := by
  induction arrivals generalizing files other with
  | nil => trivial
  | cons arrival arrivals inductionHypothesis =>
    obtain ⟨here, rest⟩ := receives
    obtain ⟨ended, stands, endKind⟩ := kindsStay_receiveAll rest (get?_receive_self here)
    have ends : ended = .directory ↔ arrival.item = .directory :=
      endKind.trans (Item.entry_eq_directory_iff ..)
    have hereToo : other.Receives arrival := by
      refine ⟨here.isName, more.directory here.directory, fun {entry} found => ?_,
        fun {bytes} isFile => Bool.eq_false_iff.2 fun closed => ?_⟩
      · obtain ⟨last, standsLast, kind⟩ := within found
        obtain rfl := Option.some.inj (stands.symm.trans standsLast)
        exact kind.symm.trans ends
      · have before := stays arrival List.mem_cons_self isFile closed
        rw [here.writable isFile] at before
        cases before
    exact ⟨hereToo, inductionHypothesis rest (more.receive here hereToo)
      (within.receive_left hereToo stands ends)
      (fun written member bytes isFile placed isPlaced =>
        rewritable (List.mem_cons_of_mem _ member) isFile (List.mem_cons_of_mem _ isPlaced))
      (stays.receive rewritable here hereToo)⟩

/-- What is left where a file is written can be written again. -/
theorem Rewritable.closed_receiveAll (rewritable : Rewritable arrivals)
    (receives : ReceivesAll transfer files arrivals) (member : arrival ∈ arrivals) {bytes : ByteArray}
    (isFile : arrival.item = .file bytes) :
    (receiveAll transfer arrivals files).closed arrival.location = false := by
  obtain ⟨item, last⟩ := Option.ne_none_iff_exists'.1 (lastItem?_ne_none member)
  obtain ⟨placed, isPlaced, place, rfl⟩ := exists_of_lastItem? last
  rw [closed, get?_receiveAll receives, last]
  refine Bool.eq_false_iff.2 fun closed => ?_
  have isOpen := rewritable member isFile isPlaced place
  rw [Item.closed_of_closed_entry closed] at isOpen
  cases isOpen

/-- Arrivals that can be received can be received as well when sources arrive in another way, and once
more in any way after that. -/
theorem ReceivesAll.again (receives : ReceivesAll transfer files arrivals)
    (rewritable : Rewritable arrivals) :
    (∀ another, ReceivesAll another files arrivals) ∧
    ∀ earlier another, ReceivesAll another (receiveAll earlier arrivals files) arrivals := by
  have anew : ∀ another, ReceivesAll another files arrivals := fun another =>
    receives.of_kinds (.refl files) (kindsStay_receiveAll receives) rewritable fun _ _ _ _ => id
  refine ⟨anew, fun earlier another => ?_⟩
  refine (anew earlier).of_kinds (kindsStay_receiveAll (anew earlier)) (.refl _) rewritable
    fun written member {bytes} isFile closed => ?_
  rw [rewritable.closed_receiveAll (anew earlier) member isFile] at closed
  cases closed

end FileSystem

end KernelExport
