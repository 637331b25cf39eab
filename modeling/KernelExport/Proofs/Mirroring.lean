/-
This file says what is left of the files that stand when a directory is laid over another one,
however that ends.

A file goes only where another is placed, and that is below the other directory (`Spares`). If the
two lie apart, all of the source is left. If one lies in the other, or they are one, files of the
source stand where files are placed: those are lost, and a file that is placed on itself is lost for
good, since it is taken away before it is read. All others are left (`Mirrored`).
-/

import KernelExport.Proofs.Enumeration
import KernelExport.Proofs.Scripts

namespace KernelExport

namespace FileSystem

variable {files before after : FileSystem} {site directory location : Location} {name : String}
  {region taken : Location → Prop}

/-- What may have come of files when another was to be placed at a name in a directory: it has
arrived, or that failed and left what stood there or took it away. -/
inductive Placed (files : FileSystem) (directory : Location) (name : String) :
    Except FileError Unit × FileSystem → Prop where
  | arrived {entry : Entry}
      (arrives : Arrives (· = name :: directory) (fun _ => True) files directory name entry) :
      Placed files directory name (.ok (), files.put directory name entry)
  | kept {failure : FileError} : Placed files directory name (.error failure, files)
  | erased {failure : FileError} (plain : files.get? (name :: directory) ≠ some .directory) :
      Placed files directory name (.error failure, files.erase (name :: directory))

/-- Nothing has changed but in the region, and there only in places that were to be taken; besides,
directories have come where nothing stood. -/
structure Spares (region taken : Location → Prop) (before after : FileSystem) : Prop where
  overwrites : Overwrites region (fun _ => True) before after
  kept : ∀ {location}, ¬taken location → after.get? location = before.get? location ∨
    before.get? location = none ∧ after.get? location = some .directory

instance : IsPreorder FileSystem (Spares region taken) where
  refl files := ⟨.refl files, fun _ => .inl rfl⟩
  trans first second third earlier later := by
    refine ⟨earlier.overwrites.trans later.overwrites, fun {location} free => ?_⟩
    rcases earlier.kept free with same | ⟨missing, standing⟩
    · rw [← same]
      exact later.kept free
    · exact .inr ⟨missing, later.overwrites.directory standing⟩

/-- A file stays where none is placed. -/
theorem Spares.file (spares : Spares region taken before after) (free : ¬taken location)
    {content : Content} (stands : before.get? location = some (.file content)) :
    after.get? location = some (.file content) := by
  rcases spares.kept free with same | ⟨missing, -⟩
  · rw [same, stands]
  · rw [missing] at stands
    cases stands

theorem Spares.put {entry : Entry}
    (arrives : Arrives (· = name :: directory) (fun _ => True) files directory name entry)
    (inside : region (name :: directory))
    (allowed : taken (name :: directory) ∨
      files.get? (name :: directory) = none ∧ entry = .directory) :
    Spares region taken files (files.put directory name entry) := by
  refine ⟨.put ⟨arrives.free, inside, arrives.fits⟩, fun {location} free => ?_⟩
  by_cases here : location = name :: directory
  · subst here
    obtain ⟨missing, rfl⟩ := allowed.resolve_left free
    exact .inr ⟨missing, get?_put_self _ arrives.free⟩
  · exact .inl (get?_put_of_ne files entry here)

theorem Spares.erase (inside : region location) (plain : files.get? location ≠ some .directory)
    (allowed : taken location) : Spares region taken files (files.erase location) := by
  refine ⟨.erase inside plain, fun {other} free => .inl (get?_erase_of_ne plain ?_)⟩
  rintro rfl
  exact free allowed

end FileSystem

open FileSystem

namespace FileAction

variable {files : FileSystem} {path source : Path} {location site : Location} {name : String}
  {transfer : Transfer} {wider taken : Location → Prop}

section Place

variable (opens : files.OpensAt path location) (isName : IsName name)
  (standing : files.get? location = some .directory)

include opens isName standing

/-- If nothing comes where a name was vacated, what stood there stays or is gone. -/
theorem placed_of_vacates {present : FileSystem} {failure : FileError}
    (vacates : Vacates files (path.child name) present) :
    Placed files location name (.error failure, present) := by
  cases vacates with
  | kept => exact .kept
  | erased placed _ plain =>
    obtain ⟨rfl, rfl⟩ := opens.eq_of_placement_child isName standing placed
    exact .erased plain

/-- What arrives once there is room arrives at the name. -/
theorem placed_arrive {present : FileSystem} (plain : files.isDirectory source = false)
    (vacates : Vacates files (path.child name) present)
    (vacant : ∀ place, present.placement (path.child name) = .ok (some place) →
      place.slashed = false → present.get? place.location = none) :
    Placed files location name ((arrive transfer source (path.child name)).run present) := by
  have refills : Refills (fun _ => True) files (path.child name)
      (arrive transfer source (path.child name)) present :=
    refills_arrive plain (fun _ _ _ _ _ => trivial) vacates.extends vacant
  rcases ran : (arrive transfer source (path.child name)).run present with ⟨failure | _, after⟩
  · obtain rfl := refills.failed ran
    exact placed_of_vacates opens isName standing vacates
  · obtain ⟨place, entry, placed, -, free, fits, rfl⟩ := refills.arrival vacates ran
    obtain ⟨rfl, rfl⟩ := opens.eq_of_placement_child isName standing placed
    exact .arrived ⟨free, rfl, fits⟩

/-- Placing a file at a name changes nothing but what has the name. -/
theorem placed_place (plain : files.isDirectory source = false) :
    Placed files location name ((place transfer source (path.child name)).run files) := by
  rw [run_place]
  cases stands : files.standing (path.child name) with
  | error failure =>
    exact placed_arrive opens isName standing plain .kept fun place placed unslashed =>
      missing_of_standing_eq_error placed unslashed stands
  | ok entry =>
    have vacates := vacates_removeFile files (path.child name)
    simp only [run_bind, run_change] at vacates ⊢
    cases removed : files.removeFile (path.child name) with
    | error failure => exact .kept
    | ok present =>
      rw [removed] at vacates
      exact placed_arrive opens isName standing plain vacates fun place placed _ =>
        missing_of_removeFile removed placed

end Place

/-- What is placed at a name changes nothing but in a place that was to be taken. -/
theorem upholds_place_child (opens : files.OpensAt path location) (isName : IsName name)
    (standing : files.get? location = some .directory) (plain : files.isDirectory source = false)
    (inside : Below site (name :: location)) (allowed : taken (name :: location))
    (settled : Settled wider files) :
    Upholds (Spares (Below site) taken) (Settled wider) (place transfer source (path.child name))
      files := by
  have placed : Placed files location name ((place transfer source (path.child name)).run files) :=
    placed_place opens isName standing plain
  generalize ran : (place transfer source (path.child name)).run files = ended at placed
  cases placed with
  | arrived arrives =>
    exact .of_run ran (.put arrives inside (.inl allowed)) fun _ _ => settled.put arrives
  | kept => exact .of_run ran (Std.Refl.refl files) nofun
  | erased plain => exact .of_run ran (.erase inside plain allowed) nofun

/-- A directory that is made at a name comes where nothing stood, and its path opens it then. -/
theorem upholds_createDirectories_child (opens : files.OpensAt path location) (isName : IsName name)
    (standing : files.get? location = some .directory) (inside : Below site (name :: location))
    (settled : Settled wider files)
    (included : ∀ {location}, Below site location → wider location) :
    Upholds (Spares (Below site) taken)
      (fun after => Settled wider after ∧ after.OpensAt (path.child name) (name :: location) ∧
        after.get? (name :: location) = some .directory)
      (createDirectories (path.child name)) files := by
  have ran := run_createDirectories_child opens isName standing fun _ _ _ linked walk =>
    settled.tame (included inside) linked walk
  by_cases sayable : Sayable path name
  · rw [if_pos sayable] at ran
    cases found : files.get? (name :: location) with
    | none =>
      simp only [found] at ran
      have free : files.Free location name := ⟨standing, by simp [found], isName⟩
      have arrives :
          Arrives (· = name :: location) (fun _ => True) files location name .directory :=
        ⟨free, rfl, .directory found⟩
      have made : Spares (Below site) taken files (files.put location name .directory) :=
        .put arrives inside (.inr ⟨found, rfl⟩)
      have tame : Tame (Below site) files := fun _ _ _ _ _ below =>
        settled.tame (included below)
      have stands := get?_put_self .directory free
      exact .of_run ran made fun _ _ => ⟨settled.put arrives,
        (opens.of_overwrites tame made.overwrites).child isName
          (made.overwrites.directory standing) sayable stands, stands⟩
    | some entry =>
      simp only [found] at ran
      cases entry with
      | directory =>
        exact .of_run ran (Std.Refl.refl files) fun _ _ =>
          ⟨settled, opens.child isName standing sayable found, found⟩
      | file _ | link _ => exact .of_run ran (Std.Refl.refl files) nofun
  · rw [if_neg sayable] at ran
    exact .of_run ran (Std.Refl.refl files) nofun

/-! ### Laying a directory over another one -/

/-- What is done under a name takes no other places, if it does not when a directory has the
name. -/
theorem upholds_overlayEntryBy_of (order : Enumeration) {levels : Nat} {names : Location}
    (isName : IsName name)
    (opens : files.OpensAt path (names ++ site))
    (standing : files.get? (names ++ site) = some .directory) (settled : Settled wider files)
    (takes : files.isDirectory (source.child name) = false → taken (name :: (names ++ site)))
    (deeper : files.isDirectory (source.child name) = true →
      Upholds (Spares (Below site) taken) (Settled wider)
        (overlayWithinBy order transfer levels (source.child name) (path.child name)) files) :
    Upholds (Spares (Below site) taken) (Settled wider)
      (overlayEntryBy order transfer levels source path name) files := by
  refine Upholds.get ?_
  cases isDirectory : files.isDirectory (source.child name) with
  | true => exact deeper isDirectory
  | false =>
    exact upholds_place_child opens isName standing isDirectory
      (below_cons name (within_append names site)) (takes isDirectory) settled

/-- What is known of a path below the source and the names that lead there says which places are
taken: it goes on being known, it is known of the directories there, and a place is taken if it is
that of a name in the source at which no directory is found. -/
structure Surveys (site : Location) (wider taken : Location → Prop)
    (known : Path → Location → FileSystem → Prop) : Prop where
  included : ∀ {location}, Below site location → wider location
  stays : ∀ {source names before after}, known source names before → Settled wider before →
    Spares (Below site) taken before after → known source names after
  inner : ∀ {source names files name}, known source names files → Settled wider files →
    IsName name → files.isDirectory (source.child name) = true →
    known (source.child name) (name :: names) files
  takes : ∀ {source names before present found name}, known source names before →
    Settled wider before → before.readDirectory source = .ok found → name ∈ found →
    Spares (Below site) taken before present → Settled wider present →
    present.isDirectory (source.child name) = false → taken (name :: (names ++ site))

section Surveys

variable {known : Path → Location → FileSystem → Prop} (surveys : Surveys site wider taken known)
  (order : Enumeration) {names : Location}

include surveys

theorem Surveys.tame (settled : Settled wider files) : Tame (Below site) files :=
  fun _ _ _ _ _ below => settled.tame (surveys.included below)

/-- The entries of a directory take no other places, if the directories among them do not. -/
theorem Surveys.upholds_overlayEntriesBy_of {levels : Nat}
    (deeper : ∀ {name present}, IsName name → known (source.child name) (name :: names) present →
      present.OpensAt path (names ++ site) → present.get? (names ++ site) = some .directory →
      Settled wider present → Upholds (Spares (Below site) taken) (Settled wider)
        (overlayWithinBy order transfer levels (source.child name) (path.child name)) present)
    (isKnown : known source names files) (opens : files.OpensAt path (names ++ site))
    (standing : files.get? (names ++ site) = some .directory) (settled : Settled wider files) :
    Upholds (Spares (Below site) taken) (Settled wider)
      (overlayEntriesBy order transfer levels source path) files := by
  refine Upholds.bind (upholds_ask settled _) fun found same asked _ _ => ?_
  rw [run_ask] at asked
  obtain ⟨read, rfl⟩ := Prod.mk.inj asked
  obtain ⟨listed, readNames, arranged⟩ := bind_eq_ok_iff.1 read
  obtain rfl := Except.ok.inj arranged
  refine Upholds.forM settled fun name member present arrived settledNow => ?_
  have inDirectory := (order.perm _ _ _).mem_iff.1 member
  have isName := (readDirectory_eq_ok readNames).2 name inDirectory
  have opensNow := opens.of_overwrites (surveys.tame settled) arrived.overwrites
  have standingNow := arrived.overwrites.directory standing
  refine upholds_overlayEntryBy_of order isName opensNow standingNow settledNow
    (surveys.takes isKnown settled readNames inDirectory arrived settledNow) fun isDirectory => ?_
  exact deeper isName (surveys.inner (surveys.stays isKnown settled arrived) settledNow isName
    isDirectory) opensNow standingNow settledNow

/-- Laying a directory over another one, which is made at a name, takes no other places. -/
theorem Surveys.upholds_overlayWithinBy (levels : Nat) (isName : IsName name)
    (isKnown : known source (name :: names) files) (opens : files.OpensAt path (names ++ site))
    (standing : files.get? (names ++ site) = some .directory) (settled : Settled wider files) :
    Upholds (Spares (Below site) taken) (Settled wider)
      (overlayWithinBy order transfer levels source (path.child name)) files := by
  induction levels generalizing source path name names files with
  | zero => exact Upholds.throw _
  | succ levels inductionHypothesis =>
    rw [overlayWithinBy_succ]
    refine Upholds.bind (upholds_createDirectories_child opens isName standing
      (below_cons name (within_append names site)) settled surveys.included) ?_
    rintro _ after - arrived ⟨settledNow, opensNow, standingNow⟩
    exact surveys.upholds_overlayEntriesBy_of order inductionHypothesis
      (surveys.stays isKnown settled arrived) opensNow standingNow settledNow

/-- The entries of a directory take no other places, in whatever order they are laid over another
one. -/
theorem Surveys.upholds_overlayEntriesBy (levels : Nat) (names : Location)
    (isKnown : known source names files) (opens : files.OpensAt path (names ++ site))
    (standing : files.get? (names ++ site) = some .directory) (settled : Settled wider files) :
    Upholds (Spares (Below site) taken) (Settled wider)
      (overlayEntriesBy order transfer levels source path) files :=
  surveys.upholds_overlayEntriesBy_of order (surveys.upholds_overlayWithinBy order levels) isKnown
    opens standing settled

end Surveys

end FileAction

namespace FileSystem

/-! ### Where files are placed -/

/-- A place below the site is that of a file that is placed when the directory at the origin is laid
over it: at the same names below the origin there is a file or a link, or one is placed there, or
their path is too long to be asked for. -/
inductive Mirrored (files : FileSystem) (source : Path) (origin site : Location) :
    Location → Prop where
  | placed {name : String} {names : Location} {entry : Entry}
      (stands : files.get? (name :: (names ++ origin)) = some entry) (plain : entry ≠ .directory) :
      Mirrored files source origin site (name :: (names ++ site))
  | again {name : String} {names : Location}
      (mirrored : Mirrored files source origin site (name :: (names ++ origin))) :
      Mirrored files source origin site (name :: (names ++ site))
  | unsaid {name : String} {names : Location} (unsayable : ¬Sayable (source.behind names) name) :
      Mirrored files source origin site (name :: (names ++ site))

theorem mirrored_iff {files : FileSystem} {source : Path} {origin site names : Location}
    {name : String} : Mirrored files source origin site (name :: (names ++ site)) ↔
      (∃ entry, files.get? (name :: (names ++ origin)) = some entry ∧ entry ≠ .directory) ∨
      Mirrored files source origin site (name :: (names ++ origin)) ∨
      ¬Sayable (source.behind names) name := by
  constructor
  · intro mirrored
    generalize here : name :: (names ++ site) = location at mirrored
    cases mirrored with
    | placed stands plain =>
      obtain ⟨rfl, same⟩ := List.cons.inj here
      obtain rfl := List.append_cancel_right same
      exact .inl ⟨_, stands, plain⟩
    | again mirrored =>
      obtain ⟨rfl, same⟩ := List.cons.inj here
      obtain rfl := List.append_cancel_right same
      exact .inr (.inl mirrored)
    | unsaid unsayable =>
      obtain ⟨rfl, same⟩ := List.cons.inj here
      obtain rfl := List.append_cancel_right same
      exact .inr (.inr unsayable)
  · rintro (⟨entry, stands, plain⟩ | mirrored | unsayable)
    · exact .placed stands plain
    · exact .again mirrored
    · exact .unsaid unsayable

theorem Mirrored.below_site {files : FileSystem} {source : Path} {origin site location : Location}
    (mirrored : Mirrored files source origin site location) : Below site location := by
  cases mirrored with
  | placed | again | unsaid =>
    exact below_cons _ (within_append _ site)

end FileSystem

namespace FileAction

variable {files opened : FileSystem} {source target path : Path} {origin site location : Location}

/-- A path below the source leads to the same names below its location, and files have gone only
where others are placed. -/
structure Reading (opened : FileSystem) (taken : Location → Prop) (source : Path)
    (origin site : Location) (path : Path) (names : Location) (files : FileSystem) : Prop where
  written : path = source.behind names
  spares : Spares (Below site) taken opened files
  opens : files.OpensAt path (names ++ origin)
  standing : files.get? (names ++ origin) = some .directory

/-- If nothing is known of the source, any place below the site may be taken. -/
theorem surveys_below (site : Location) :
    Surveys site (Below site) (Below site) fun _ _ _ => True where
  included := id
  stays _ _ _ := trivial
  inner _ _ _ _ := trivial
  takes _ _ _ _ _ _ _ := below_cons _ (within_append _ site)

/-- If the links below the source lead neither to a directory nor to nothing, its files are placed
at their names. -/
theorem surveys_mirrored (opened : FileSystem) (source : Path) (origin site : Location) :
    Surveys site (fun location => Below site location ∨ Below origin location)
      (Mirrored opened source origin site)
      (Reading opened (Mirrored opened source origin site) source origin site) where
  included := .inl
  stays {path names before after} reading settled spares := by
    have tame : Tame (Below site) before := fun _ _ _ _ _ below => settled.tame (.inl below)
    exact ⟨reading.written, IsTrans.trans _ _ _ reading.spares spares,
      reading.opens.of_overwrites tame spares.overwrites,
      spares.overwrites.directory reading.standing⟩
  inner {path names files name} reading settled isName isDirectory := by
    have below : Below origin (name :: (names ++ origin)) :=
      below_cons _ (within_append _ origin)
    rw [reading.opens.isDirectory_child isName reading.standing fun _ _ _ linked walk =>
      settled.tame (.inr below) linked walk, decide_eq_true_eq] at isDirectory
    exact ⟨by rw [Path.behind_cons, reading.written], reading.spares,
      reading.opens.child isName reading.standing isDirectory.1 isDirectory.2, isDirectory.2⟩
  takes {path names before present found name} reading settled read member spares settledNow
      isDirectory := by
    by_cases sayable : Sayable path name
    · rw [names_of_readDirectory read reading.opens reading.standing, mem_names,
        Option.isSome_iff_ne_none] at member
      have isName := before.isName_of_get? member
      have below : Below origin (name :: (names ++ origin)) := below_cons _ (within_append _ origin)
      have tame : Tame (Below site) before := fun _ _ _ _ _ below => settled.tame (.inl below)
      have plain : present.get? (name :: (names ++ origin)) ≠ some .directory := by
        rw [(reading.opens.of_overwrites tame spares.overwrites).isDirectory_child isName
          (spares.overwrites.directory reading.standing) fun _ _ _ linked walk =>
            settledNow.tame (.inr below) linked walk, decide_eq_false_iff_not] at isDirectory
        exact fun standing => isDirectory ⟨sayable, standing⟩
      by_cases mirrored : Mirrored opened source origin site (name :: (names ++ origin))
      · exact .again mirrored
      · -- What stands there stood at the start; had a directory come, it would still stand.
        rcases reading.spares.kept mirrored with same | ⟨-, standing⟩
        · rw [same] at member
          obtain ⟨entry, stands⟩ := Option.ne_none_iff_exists'.1 member
          refine .placed stands ?_
          rintro rfl
          exact plain (spares.overwrites.directory (same.trans stands))
        · exact absurd (spares.overwrites.directory standing) plain
    · exact .unsaid (reading.written ▸ sayable)

end FileAction

namespace FileSystem

variable {files opened : FileSystem} {source path : Path} {origin site location : Location}

/-! ### What is left -/

theorem Mirrored.of_makes {paths : List Path} (makes : Makes paths files opened)
    (mirrored : Mirrored opened source origin site location) :
    Mirrored files source origin site location := by
  induction mirrored with
  | @placed name names entry stands plain =>
    suffices before : files.get? (name :: (names ++ origin)) = some entry from .placed before plain
    rcases makes.made (name :: (names ++ origin)) with same | ⟨-, standing, -⟩
    · rw [← same, stands]
    · exact absurd (Option.some.inj (stands.symm.trans standing)) plain
  | again _ inductionHypothesis => exact .again inductionHypothesis
  | unsaid unsayable => exact .unsaid unsayable

/-- A path that is opened leads to a directory, if the working directory is one. -/
theorem Opens.standing (opens : files.Opens path opened site)
    (home : files.get? files.workingDirectory = some .directory) :
    opened.get? site = some .directory := by
  by_cases still : path.parts = []
  · rw [opens.opensAt.eq_start still, start]
    split
    · rfl
    · rw [opens.makes.more.workingDirectory]
      exact opens.makes.more.entry home
  · exact opens.opensAt.directory still

end FileSystem

namespace FileAction

variable {files : FileSystem} {source target : Path} {location site : Location}

/-- If a directory can be opened to be laid over, what it comes to is what its entries come to. -/
theorem run_overlayBy {opened : FileSystem} (opens : files.Opens target opened site)
    (order : Enumeration) (transfer : Transfer) :
    (overlayBy order transfer source target).run files =
      (overlayEntriesBy order transfer (pathLimit - 1) source target).run opened := by
  show (createDirectories target >>= fun _ =>
    overlayEntriesBy order transfer (pathLimit - 1) source target).run files = _
  rw [run_bind, opens.run]

/-- A file stays that is not where others are placed, whether the directory can be opened or not. -/
theorem file_of_spares {order : Enumeration} {transfer : Transfer}
    {content : Content} (stands : files.get? location = some (.file content))
    (spares : ∀ ⦃opened site⦄, files.Opens target opened site → ∃ taken, ¬taken location ∧
      Spares (Below site) taken opened
        ((overlayEntriesBy order transfer (pathLimit - 1) source target).run opened).2) :
    ((overlayBy order transfer source target).run files).2.get? location =
      some (.file content) := by
  have makes := makes_createDirectories target files
  rcases ran : (createDirectories target).run files with ⟨failure | _, opened⟩
  · rw [ran] at makes
    have failed :
        (overlayBy order transfer source target).run files = (.error failure, opened) := by
      show (createDirectories target >>= fun _ =>
        overlayEntriesBy order transfer (pathLimit - 1) source target).run files = _
      rw [run_bind, ran]
    rw [failed]
    exact makes.more.entry stands
  · obtain ⟨site, opensAt⟩ := exists_opensAt_of_createDirectories ran
    obtain ⟨taken, free, spared⟩ := spares ⟨ran, opensAt⟩
    rw [run_overlayBy ⟨ran, opensAt⟩]
    rw [ran] at makes
    exact spared.file free (makes.more.entry stands)

/-- However it ends to lay a directory over another one, by copies or by links and in whatever
order, all files are left that do not stand below the other one, if no link there leads to a
directory or to nothing. If none below the source does either, the files below both are left as
well, unless they stand where files are placed. -/
theorem overlayBy_keeps (home : files.get? files.workingDirectory = some .directory)
    (settled : ∀ ⦃opened site⦄, files.Opens target opened site → Settled (Below site) files)
    (order : Enumeration) (transfer : Transfer) :
    overlayBy .increasing transfer source target = overlay transfer source target ∧
    ∀ {location content}, files.get? location = some (.file content) →
      let after := ((overlayBy order transfer source target).run files).2
      ((∀ opened site, files.Opens target opened site → ¬Below site location) →
        after.get? location = some (.file content)) ∧
      ∀ {origin}, files.resolve source = .ok origin → files.get? origin = some .directory →
        Settled (Below origin) files →
        (∀ opened site, files.Opens target opened site →
          ¬Mirrored files source origin site location) →
        after.get? location = some (.file content) := by
  refine ⟨overlayBy_increasing .., fun {location content} stands => ⟨fun apart => ?_, ?_⟩⟩
  · refine file_of_spares stands fun opened site opens => ⟨_, apart opened site opens, ?_⟩
    exact ((surveys_below site).upholds_overlayEntriesBy order (pathLimit - 1) [] trivial
      opens.opensAt (opens.standing home) (opens.makes.settled (settled opens))).keeps
  · intro origin resolved standing settledSource apart
    refine file_of_spares stands fun opened site opens =>
      ⟨_, fun mirrored => apart opened site opens (Mirrored.of_makes opens.makes mirrored), ?_⟩
    have standingNow := opens.makes.more.entry standing
    have opensSource := opensAt_of_resolve (opens.makes.more.resolve resolved) standingNow
    have settledBoth :
        Settled (fun location => Below site location ∨ Below origin location) opened :=
      fun name directory target inside linked => inside.elim
        (fun below => opens.makes.settled (settled opens) below linked)
        (fun below => opens.makes.settled settledSource below linked)
    exact ((surveys_mirrored opened source origin site).upholds_overlayEntriesBy order
      (pathLimit - 1) [] ⟨rfl, Std.Refl.refl _, opensSource, standingNow⟩ opens.opensAt
      (opens.standing home) settledBoth).keeps

/-- A directory that lies in the source, with files of the same name and of another one. -/
def nestedFiles : FileSystem :=
  FileSystem.empty
    |>.put [] "s" .directory
    |>.put ["s"] "a" (.file "one".toUTF8)
    |>.put ["s"] "sub" .directory
    |>.put ["sub", "s"] "a" (.file "two".toUTF8)
    |>.put ["sub", "s"] "b" (.file "three".toUTF8)

/-- In a directory that a source is laid over from around it, a file of another name is left, and so
is each file outside of it. -/
theorem overlayBy_keeps_nested :
    let after := ((overlayBy .increasing .link { segments := ["s"] }
      { segments := ["s", "sub"] }).run nestedFiles).2
    after.get? ["a", "s"] = some (.file "one".toUTF8) ∧
      after.get? ["b", "sub", "s"] = some (.file "three".toUTF8) := by
  intro after
  have linkless : nestedFiles.linkless = true := by decide +kernel
  have opens : nestedFiles.Opens { segments := ["s", "sub"] } nestedFiles ["sub", "s"] :=
    ⟨run_createDirectories_of_isDirectory (by decide +kernel), ⟨linkLimit, by decide +kernel⟩,
      fun _ => by decide +kernel⟩
  have site : ∀ {opened site}, nestedFiles.Opens { segments := ["s", "sub"] } opened site →
      site = ["sub", "s"] := fun again => (opens.unique again).2
  have resolved : nestedFiles.resolve { segments := ["s"] } = .ok ["s"] := by decide +kernel
  have outer : nestedFiles.get? ["a", "s"] = some (.file "one".toUTF8) := by decide +kernel
  have inner : nestedFiles.get? ["b", "sub", "s"] = some (.file "three".toUTF8) := by
    decide +kernel
  obtain ⟨-, keeps⟩ := overlayBy_keeps (by decide +kernel)
    (fun _ _ _ => settled_of_linkless linkless) .increasing .link
  refine ⟨(keeps outer).1 fun opened other opens => ?_, (keeps inner).2 resolved (by decide +kernel)
    (settled_of_linkless linkless) fun opened other opens => ?_⟩
  · rw [site opens]
    decide
  · rw [site opens]
    intro mirrored
    have missing : nestedFiles.get? ["b", "s"] = none := by decide +kernel
    rcases (@mirrored_iff _ _ _ _ [] _).1 mirrored with ⟨entry, stands, -⟩ | again | unsayable
    · rw [List.nil_append, missing] at stands
      cases stands
    · exact absurd again.below_site (by decide)
    · exact unsayable (by decide +kernel)

/-- A directory with one file. -/
def singleFiles : FileSystem :=
  FileSystem.empty
    |>.put [] "s" .directory
    |>.put ["s"] "f" (.file "only".toUTF8)

/-- A source that lies in the directory that it is laid over. -/
def outwardFiles : FileSystem :=
  FileSystem.empty
    |>.put [] "d" .directory
    |>.put ["d"] "k" .directory
    |>.put ["k", "d"] "f" (.file "outer".toUTF8)
    |>.put ["k", "d"] "k" .directory
    |>.put ["k", "k", "d"] "f" (.file "inner".toUTF8)

/-- A directory with a link that leads to the source. -/
def throughFiles : FileSystem :=
  FileSystem.empty
    |>.put [] "src" .directory
    |>.put ["src"] "f" (.file "outer".toUTF8)
    |>.put ["src"] "x" .directory
    |>.put ["x", "src"] "f" (.file "inner".toUTF8)
    |>.put [] "dst" .directory
    |>.put ["dst"] "x" (.link (.ofText "../src"))

/-- A file that is placed on itself is gone. A file of the source is lost under another one that is
placed on it: in a source that lies in the directory that it is laid over, or where a link there
leads back to the source. -/
theorem overlay_loses :
    (∀ transfer ∈ [Transfer.copy, .link],
      ((overlay transfer { segments := ["s"] } { segments := ["s"] }).run singleFiles).2.get?
        ["f", "s"] = none) ∧
    ((overlay .copy { segments := ["d", "k"] } { segments := ["d"] }).run outwardFiles).2.get?
      ["f", "k", "d"] = some (.file "inner".toUTF8) ∧
    ((overlay .copy { segments := ["src"] } { segments := ["dst"] }).run throughFiles).2.get?
      ["f", "src"] = some (.file "inner".toUTF8) := by
  decide +kernel

end FileAction

end KernelExport
