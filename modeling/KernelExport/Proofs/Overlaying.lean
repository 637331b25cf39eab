/-
This file says exactly what it comes to when a directory without links is laid over another one that
lies apart, in whatever order that is done.

It succeeds if all there is can be asked for on both sides and no directory meets anything else
(`Admits`), and then all there is has come to the same names in the other directory (`Overlaid`).
Neither depends on the order, and there is one outcome only (`Overlaid.unique`). The induction is
that of the walk: names are told apart by what is behind them, so what has been done under some
names makes no difference to what can be done under the others.
-/

import KernelExport.Proofs.Mirroring

namespace KernelExport

open FileSystem

/-- What comes of what stands at a location: a directory stays one, and a file arrives as a copy or
as a link. -/
def Entry.carried (transfer : Transfer) (location : Location) : Entry → Entry
  | .file content => (Item.source location content).entry transfer
  | entry => entry

namespace FileSystem

variable {base before middle after present : FileSystem} {source target location : Location}
  {tree path : Path} {name : String} {names : List String} {transfer : Transfer}

/-! ### What all comes to -/

/-- All that stands at a location of the base or behind it has come to another location. Nothing
else has changed. -/
structure Overlaid (transfer : Transfer) (base : FileSystem) (source target : Location)
    (before after : FileSystem) : Prop where
  workingDirectory : after.workingDirectory = before.workingDirectory
  outside : ∀ {location}, within target location = false →
    after.get? location = before.get? location
  inside : ∀ names : Location, after.get? (names ++ target) =
    ((base.get? (names ++ source)).map (Entry.carried transfer (names ++ source))).or
      (before.get? (names ++ target))

/-- There is one outcome only. -/
theorem Overlaid.unique (first : Overlaid transfer base source target before after)
    (second : Overlaid transfer base source target before present) : present = after := by
  refine ext_get? (fun location => ?_)
    (second.workingDirectory.trans first.workingDirectory.symm)
  cases inside : within target location with
  | true =>
    obtain ⟨names, rfl⟩ := List.isSuffixOf_iff_suffix.1 inside
    rw [second.inside, first.inside]
  | false => rw [second.outside inside, first.outside inside]

/-- A file that is received has come to its name. -/
theorem overlaid_receive {content : Content}
    (found : base.get? source = some (.file content))
    (only : ∀ inner : Location, inner ≠ [] → base.get? (inner ++ source) = none)
    (receives : before.Receives ⟨target, name, .source source content⟩) :
    Overlaid transfer base source (name :: target) before
      (before.receive transfer ⟨target, name, .source source content⟩) where
  workingDirectory := workingDirectory_receive
  outside apart := by
    rw [get?_receive receives, if_neg]
    rintro rfl
    rw [Arrival.location, within_self] at apart
    cases apart
  inside names := by
    rw [get?_receive receives]
    by_cases here : names = []
    · subst here
      rw [List.nil_append, List.nil_append, found]
      exact if_pos rfl
    · rw [only names here, if_neg (by simpa [Arrival.location] using here)]
      rfl

/-- What stood in the place of something makes no difference. -/
theorem Overlaid.of_same (overlaid : Overlaid transfer base source target middle after)
    (workingDirectory : middle.workingDirectory = before.workingDirectory)
    (same : ∀ {location}, location ≠ target → middle.get? location = before.get? location)
    (stands : base.get? source ≠ none) : Overlaid transfer base source target before after where
  workingDirectory := overlaid.workingDirectory.trans workingDirectory
  outside apart := by
    rw [overlaid.outside apart, same]
    rintro rfl
    rw [within_self] at apart
    cases apart
  inside names := by
    rw [overlaid.inside]
    by_cases here : names = []
    · obtain ⟨entry, found⟩ := Option.ne_none_iff_exists'.1 stands
      simp [here, found]
    · rw [same (by simpa using here)]

/-- All that stands under some names in a directory has come to these names in another one. -/
structure OverlaidNames (transfer : Transfer) (base : FileSystem) (source target : Location)
    (names : List String) (before after : FileSystem) : Prop where
  workingDirectory : after.workingDirectory = before.workingDirectory
  outside : ∀ {location}, (∀ name ∈ names, within (name :: target) location = false) →
    after.get? location = before.get? location
  inside : ∀ {name}, name ∈ names → ∀ inner : Location, after.get? (inner ++ name :: target) =
    ((base.get? (inner ++ name :: source)).map
      (Entry.carried transfer (inner ++ name :: source))).or
        (before.get? (inner ++ name :: target))

theorem not_within_of_ne {other : String} (different : other ≠ name) (inner target : Location) :
    within (name :: target) (inner ++ other :: target) = false :=
  Bool.eq_false_iff.2 fun inside => different (eq_of_within inside)

theorem OverlaidNames.nil : OverlaidNames transfer base source target [] before before where
  workingDirectory := rfl
  outside _ := rfl
  inside impossible := absurd impossible List.not_mem_nil

/-- First one name and then others, of which it is none. -/
theorem Overlaid.cons
    (first : Overlaid transfer base (name :: source) (name :: target) before middle)
    (rest : OverlaidNames transfer base source target names middle after) (fresh : name ∉ names) :
    OverlaidNames transfer base source target (name :: names) before after where
  workingDirectory := rest.workingDirectory.trans first.workingDirectory
  outside apart := by
    rw [List.forall_mem_cons] at apart
    rw [rest.outside apart.2, first.outside apart.1]
  inside {other} member inner := by
    rcases List.mem_cons.1 member with rfl | inRest
    · rw [rest.outside fun other inNames => not_within_of_ne ?_ inner target, first.inside]
      rintro rfl
      exact fresh inNames
    · rw [rest.inside inRest, first.outside (not_within_of_ne ?_ inner target)]
      rintro rfl
      exact fresh inRest

/-- All names of a directory are all that stands in it. -/
theorem OverlaidNames.overlaid (all : OverlaidNames transfer base source target names before after)
    (listed : ∀ name, name ∈ names ↔ base.get? (name :: source) ≠ none)
    (standing : base.get? source = some .directory)
    (standingTarget : before.get? target = some .directory) :
    Overlaid transfer base source target before after where
  workingDirectory := all.workingDirectory
  outside apart := all.outside fun name _ => Bool.eq_false_iff.2 fun inside => by
    rw [within_trans (within_parent (within_self target)) inside] at apart
    cases apart
  inside inner := by
    rcases List.eq_nil_or_concat inner with rfl | ⟨inner, name, rfl⟩
    · rw [List.nil_append, List.nil_append, standing, all.outside, standingTarget]
      · rfl
      · exact fun name _ => Bool.eq_false_iff.2 fun inside =>
          (below_cons name (within_self target)).1 (List.IsSuffix.eq_of_length_le
            (List.isSuffixOf_iff_suffix.1 inside) (by simp))
    · simp only [List.concat_eq_append, List.append_assoc, List.singleton_append]
      by_cases member : name ∈ names
      · exact all.inside member inner
      · have missing : base.get? (name :: source) = none :=
          Classical.not_not.1 fun stands => member ((listed name).2 stands)
        rw [get?_eq_none_of_within (within_append inner _) missing, all.outside]
        · rfl
        · intro other inNames
          refine not_within_of_ne ?_ inner target
          rintro rfl
          exact member inNames

/-! ### What it takes -/

/-- What stands at a name behind others in the source can be laid over the target: it can be asked
for on both sides, and if a directory stands there, then there is one or nothing in its place; if
something else does, then there is no directory. -/
structure Meets (tree : Path) (before : FileSystem) (path : Path) (target : Location)
    (name : String) (names : Location) (entry : Entry) : Prop where
  readable : Sayable (tree.behind names) name
  placeable : Sayable (path.behind names) name
  kind : ∀ {other}, before.get? (name :: (names ++ target)) = some other →
    (other = .directory ↔ entry = .directory)

/-- All that stands below the source can be laid over the target. -/
def Admits (base : FileSystem) (tree : Path) (source : Location) (before : FileSystem) (path : Path)
    (target : Location) : Prop :=
  ∀ ⦃name names entry⦄, base.get? (name :: (names ++ source)) = some entry →
    Meets tree before path target name names entry

/-- What stands at a name, and all behind it, can be laid over the target. -/
def AdmitsName (base : FileSystem) (tree : Path) (source : Location) (before : FileSystem)
    (path : Path) (target : Location) (name : String) : Prop :=
  ∀ ⦃entry⦄, base.get? (name :: source) = some entry →
    Meets tree before path target name [] entry ∧
      Admits base (tree.child name) (name :: source) before (path.child name) (name :: target)

theorem admits_iff : Admits base tree source before path target ↔
    ∀ name, AdmitsName base tree source before path target name := by
  constructor
  · intro admits name entry stands
    refine ⟨@admits name [] entry stands, fun last names inner standsInner => ?_⟩
    have meets := @admits last (names ++ [name]) inner (by simpa using standsInner)
    exact ⟨by rw [Path.behind_child]; exact meets.readable,
      by rw [Path.behind_child]; exact meets.placeable,
      fun found => meets.kind (by simpa using found)⟩
  · intro each last names entry stands
    rcases List.eq_nil_or_concat names with rfl | ⟨inner, name, rfl⟩
    · exact (each last stands).1
    · rw [List.concat_eq_append, List.append_assoc, List.singleton_append] at stands
      have directory : base.get? (name :: source) ≠ none := fun missing => by
        rw [← List.cons_append, get?_eq_none_of_within (within_append _ _) missing] at stands
        cases stands
      obtain ⟨above, standsAbove⟩ := Option.ne_none_iff_exists'.1 directory
      have meets := (each name standsAbove).2 stands
      refine ⟨?_, ?_, fun found => meets.kind (by simpa using found)⟩
      · rw [List.concat_eq_append, ← Path.behind_child]
        exact meets.readable
      · rw [List.concat_eq_append, ← Path.behind_child]
        exact meets.placeable

theorem Admits.congr (admits : Admits base tree source before path target)
    (same : ∀ name names, after.get? (name :: (names ++ target)) =
      before.get? (name :: (names ++ target))) :
    Admits base tree source after path target := by
  intro name names entry stands
  have meets := admits stands
  exact ⟨meets.readable, meets.placeable, fun found =>
    meets.kind ((same name names).symm.trans found)⟩

/-- Whether a name can be laid over the target depends on nothing but what stands there. -/
theorem AdmitsName.congr (admits : AdmitsName base tree source before path target name)
    (same : ∀ inner : Location, after.get? (inner ++ name :: target) =
      before.get? (inner ++ name :: target)) :
    AdmitsName base tree source after path target name := by
  intro entry stands
  obtain ⟨meets, admits⟩ := admits stands
  exact ⟨⟨meets.readable, meets.placeable, fun found => meets.kind ((same []).symm.trans found)⟩,
    admits.congr fun last names => same (last :: names)⟩

/-! ### Runs that do all or fail -/

/-- A run comes to a goal if that is possible, and fails if not. -/
inductive Achieves (possible : Prop) (goal : FileSystem → Prop) :
    Except FileError Unit × FileSystem → Prop
  | achieved {after : FileSystem} : possible → goal after → Achieves possible goal (.ok (), after)
  | refused {failure : FileError} {after : FileSystem} : ¬possible →
    Achieves possible goal (.error failure, after)

namespace Achieves

variable {possible later other : Prop} {goal wider : FileSystem → Prop}
  {ended : Except FileError Unit × FileSystem}

theorem mono (achieves : Achieves possible goal ended) (same : possible ↔ other)
    (more : ∀ {after}, goal after → wider after) : Achieves other wider ended := by
  cases achieves with
  | achieved able comes => exact .achieved (same.1 able) (more comes)
  | refused unable => exact .refused fun able => unable (same.2 able)

theorem never (unable : ¬possible) (fails : ∀ {after}, ended ≠ (.ok (), after)) :
    Achieves possible goal ended := by
  rcases ended with ⟨failure | _, after⟩
  · exact .refused unable
  · exact absurd rfl fails

theorem of_delivers {files : FileSystem} {arrival : Arrival}
    (delivers : Delivers possible transfer files arrival ended) :
    Achieves (possible ∧ files.Receives arrival)
      (fun after => after = files.receive transfer arrival ∧ files.Receives arrival) ended := by
  cases delivers with
  | received able receives => exact .achieved ⟨able, receives⟩ ⟨rfl, receives⟩
  | refused unable => exact .refused unable

theorem bind {first second : FileAction Unit} {files : FileSystem}
    (achieves : Achieves possible goal (first.run files))
    (goesOn : ∀ {present}, first.run files = (.ok (), present) → goal present →
      Achieves later wider (second.run present)) :
    Achieves (possible ∧ later) wider ((first >>= fun _ => second).run files) := by
  rw [run_bind]
  generalize ran : first.run files = ended at achieves
  cases achieves with
  | achieved able comes => exact (goesOn ran comes).mono (by simp [able]) id
  | refused unable => exact .refused fun able => unable able.1

theorem eq_ok_iff (achieves : Achieves possible goal ended)
    (unique : ∀ {first second}, goal first → goal second → second = first) :
    ended = (.ok (), after) ↔ possible ∧ goal after := by
  cases achieves with
  | achieved able comes =>
    refine ⟨fun same => ?_, fun ⟨_, comesToo⟩ => by rw [unique comesToo comes]⟩
    obtain rfl := (Prod.mk.inj same).2
    exact ⟨able, comes⟩
  | refused unable =>
    refine ⟨fun impossible => ?_, fun ⟨able, _⟩ => absurd able unable⟩
    cases (Prod.mk.inj impossible).1

end Achieves

end FileSystem

namespace FileAction

variable {base before middle after : FileSystem} {site source target : Location} {tree path : Path}
  {name : String} {transfer : Transfer} {order : Enumeration} {levels : Nat}

/-! ### Laying a shelf over a directory -/

/-- What is held to the region below the site leaves the directory open. -/
theorem reached_of_upholds {action : FileAction Unit}
    (reached : Reached base site path target before)
    (upholds : Upholds (Spares (Below site) (Below site)) (Settled (Below site)) action before)
    (ran : action.run before = (.ok (), after)) : Reached base site path target after := by
  obtain ⟨overwrites, settled, opens, standing⟩ := reached
  have keeps := upholds.keeps
  rw [Keeps, ran] at keeps
  exact ⟨overwrites.trans keeps.overwrites, upholds.sound ran,
    opens.of_overwrites settled.tame keeps.overwrites, keeps.overwrites.directory standing⟩

theorem reached_overlayEntryBy (isInside : within site target = true) (isName : IsName name)
    (reached : Reached base site path target before)
    (ran : (overlayEntryBy order transfer levels tree path name).run before = (.ok (), after)) :
    Reached base site path target after := by
  obtain ⟨names, rfl⟩ := List.isSuffixOf_iff_suffix.1 isInside
  refine reached_of_upholds reached ?_ ran
  exact upholds_overlayEntryBy_of order isName reached.opens reached.standing reached.settled
    (fun _ => below_cons name (within_append names site)) fun _ =>
      (surveys_below site).upholds_overlayWithinBy order levels isName trivial reached.opens
        reached.standing reached.settled

/-- A directory that is laid over its name has come there, if its entries do. -/
theorem achieves_overlayWithinBy_of (isInside : within site target = true)
    (reached : Reached base site path target before) (isName : IsName name)
    (sayable : Sayable tree name) (found : base.get? (name :: source) = some .directory)
    (deeper : ∀ {present}, Reached base site (path.child name) (name :: target) present →
      Achieves (Admits base (tree.child name) (name :: source) present (path.child name)
          (name :: target))
        (Overlaid transfer base (name :: source) (name :: target) present)
        ((overlayEntriesBy order transfer levels (tree.child name) (path.child name)).run
          present)) :
    Achieves (AdmitsName base tree source before path target name)
      (Overlaid transfer base (name :: source) (name :: target) before)
      ((overlayWithinBy order transfer (levels + 1) (tree.child name) (path.child name)).run
        before) := by
  have delivers : Delivers (Sayable path name) transfer before ⟨target, name, .directory⟩ _ :=
    delivers_createDirectories reached isName isInside
  rw [overlayWithinBy_succ]
  have goesOn : ∀ {present}, (createDirectories (path.child name)).run before = (.ok (), present) →
      present = before.receive transfer ⟨target, name, .directory⟩ ∧
        before.Receives ⟨target, name, .directory⟩ →
      Achieves (Admits base (tree.child name) (name :: source) before (path.child name)
          (name :: target))
        (Overlaid transfer base (name :: source) (name :: target) before)
        ((overlayEntriesBy order transfer levels (tree.child name) (path.child name)).run
          present) := by
    rintro present ran ⟨rfl, receives⟩
    have elsewhere : ∀ {location}, location ≠ name :: target →
        (before.receive transfer ⟨target, name, .directory⟩).get? location = before.get? location :=
      fun different => (get?_receive receives _).trans (if_neg different)
    have deep : ∀ (last : String) (names : Location),
        last :: (names ++ name :: target) ≠ name :: target := fun last names same => by
      have := congrArg List.length same
      simp at this
      omega
    refine (deeper (reached_createDirectories reached isName isInside ran)).mono ⟨?_, ?_⟩ ?_
    · exact fun admits => admits.congr fun last names => (elsewhere (deep last names)).symm
    · exact fun admits => admits.congr fun last names => elsewhere (deep last names)
    · exact fun overlaid => overlaid.of_same workingDirectory_receive elsewhere (by simp [found])
  refine (Achieves.bind (Achieves.of_delivers delivers) goesOn).mono ⟨?_, ?_⟩ id
  · rintro ⟨⟨said, receives⟩, admits⟩ entry stands
    rw [found] at stands
    obtain rfl := Option.some.inj stands
    exact ⟨⟨sayable, said, fun standing => by simpa using receives.kind standing⟩, admits⟩
  · intro admits
    obtain ⟨meets, admits⟩ := admits found
    exact ⟨⟨meets.placeable, receives_directory isName reached.standing fun entry standing => by
      simpa using meets.kind standing⟩, admits⟩

section Shelf

variable (tame : Tame (Below site) base) (isInside : within site target = true)
  (shelf : base.Shelf site tree source) (reached : Reached base site path target before)

include tame isInside shelf reached

/-- A file that is placed under its name has come there. -/
theorem achieves_place (isName : IsName name) (sayable : Sayable tree name) {content : Content}
    (found : base.get? (name :: source) = some (.file content)) :
    Achieves (AdmitsName base tree source before path target name)
      (Overlaid transfer base (name :: source) (name :: target) before)
      ((place transfer (tree.child name) (path.child name)).run before) := by
  have read : ∀ {present}, Overwrites (Below site) (fun _ => True) base present →
      present.resolve (tree.child name) = .ok (name :: source) ∧
        present.get? (name :: source) = some (.file content) := fun overwrites => by
    refine ⟨?_, ?_⟩
    · rw [shelf.resolve_child tame overwrites isName, if_pos sayable, found]
      rfl
    · rw [overwrites.outside (shelf.not_below (within_parent (within_self source))), found]
  -- Nothing stands behind a file.
  have only : ∀ inner : Location, inner ≠ [] → base.get? (inner ++ name :: source) = none := by
    intro inner some
    cases stands : base.get? (inner ++ name :: source) with
    | none => rfl
    | some entry =>
      rw [get?_of_within (within_append inner _) (by simpa using some) (by simp [stands])] at found
      cases found
  refine (Achieves.of_delivers (delivers_place reached isName isInside read)).mono ⟨?_, ?_⟩ ?_
  · rintro ⟨said, receives⟩ entry stands
    rw [found] at stands
    obtain rfl := Option.some.inj stands
    refine ⟨⟨sayable, said, fun {other} standing => ?_⟩, fun last names entry impossible => ?_⟩
    · simpa using receives.kind standing
    · rw [← List.cons_append, only (last :: names) (List.cons_ne_nil last names)] at impossible
      cases impossible
  · intro admits
    obtain ⟨meets, -⟩ := admits found
    exact ⟨meets.placeable, isName, reached.standing, fun standing => by
      simpa using meets.kind standing, fun impossible => by cases impossible⟩
  · rintro _ ⟨rfl, receives⟩
    exact overlaid_receive found only receives

/-- What is done under a name achieves that all has come there, if it does for directories. -/
theorem achieves_overlayEntryBy_of (member : name ∈ base.names source)
    (deeper : IsName name → Sayable tree name → base.get? (name :: source) = some .directory →
      Achieves (AdmitsName base tree source before path target name)
        (Overlaid transfer base (name :: source) (name :: target) before)
        ((overlayWithinBy order transfer levels (tree.child name) (path.child name)).run before)) :
    Achieves (AdmitsName base tree source before path target name)
      (Overlaid transfer base (name :: source) (name :: target) before)
      ((overlayEntryBy order transfer levels tree path name).run before) := by
  rw [mem_names, Option.isSome_iff_ne_none] at member
  have isName := base.isName_of_get? member
  obtain ⟨entry, found⟩ := Option.ne_none_iff_exists'.1 member
  rw [overlayEntryBy, run_bind, run_get]
  simp only []
  rw [shelf.isDirectory_child tame reached.overwrites isName, found]
  by_cases sayable : Sayable tree name
  · cases entry with
    | directory =>
      rw [decide_eq_true ⟨sayable, rfl⟩, if_pos rfl]
      exact deeper isName sayable found
    | file content =>
      rw [decide_eq_false (by simp), if_neg Bool.false_ne_true]
      exact achieves_place tame isInside shelf reached isName sayable found
    | link linked =>
      exact absurd found (shelf.unlinked (within_parent (within_self source)) linked)
  · rw [decide_eq_false fun able => sayable able.1, if_neg Bool.false_ne_true]
    refine .never (fun admits => sayable (admits found).1.readable) ?_
    exact not_run_place reached isName isInside fun overwrites => ⟨.nameTooLong, by
      rw [shelf.resolve_child tame overwrites isName, if_neg sayable]⟩

/-- The entries under some names of a shelf have come to a directory, if the directories among them
do. What is done under one name makes no difference to the others. -/
theorem achieves_overlayNames_of {coming : List String}
    (inSource : ∀ name ∈ coming, name ∈ base.names source) (distinct : coming.Nodup)
    (deeper : ∀ {name present}, IsName name → Sayable tree name →
      base.get? (name :: source) = some .directory → Reached base site path target present →
      Achieves (AdmitsName base tree source present path target name)
        (Overlaid transfer base (name :: source) (name :: target) present)
        ((overlayWithinBy order transfer levels (tree.child name) (path.child name)).run present)) :
    Achieves (∀ name ∈ coming, AdmitsName base tree source before path target name)
      (OverlaidNames transfer base source target coming before)
      ((coming.forM (overlayEntryBy order transfer levels tree path)).run before) := by
  induction coming generalizing before with
  | nil => exact .achieved (by simp) .nil
  | cons name rest inductionHypothesis =>
    obtain ⟨fresh, distinct⟩ := List.nodup_cons.1 distinct
    obtain ⟨member, inSource⟩ := List.forall_mem_cons.1 inSource
    have isName := base.isName_of_get?
      (Option.isSome_iff_ne_none.1 ((base.mem_names source name).1 member))
    have here : Achieves (AdmitsName base tree source before path target name)
        (Overlaid transfer base (name :: source) (name :: target) before)
        ((overlayEntryBy order transfer levels tree path name).run before) :=
      achieves_overlayEntryBy_of tame isInside shelf reached member fun isName sayable found =>
        deeper isName sayable found reached
    have goesOn : ∀ {after},
        (overlayEntryBy order transfer levels tree path name).run before = (.ok (), after) →
        Overlaid transfer base (name :: source) (name :: target) before after →
        Achieves (∀ name ∈ rest, AdmitsName base tree source before path target name)
          (OverlaidNames transfer base source target (name :: rest) before)
          ((rest.forM (overlayEntryBy order transfer levels tree path)).run after) := by
      intro after ran overlaid
      have same : ∀ {other : String}, other ∈ rest → ∀ inner : Location,
          after.get? (inner ++ other :: target) = before.get? (inner ++ other :: target) := by
        intro other inRest inner
        refine overlaid.outside (not_within_of_ne ?_ inner target)
        rintro rfl
        exact fresh inRest
      refine (inductionHypothesis (reached_overlayEntryBy isInside isName reached ran) inSource
        distinct).mono ⟨?_, ?_⟩ fun all => overlaid.cons all fresh
      · exact fun admits other inRest => (admits other inRest).congr fun inner =>
          (same inRest inner).symm
      · exact fun admits other inRest => (admits other inRest).congr (same inRest)
    exact (Achieves.bind here goesOn).mono List.forall_mem_cons.symm id

/-- The entries of a shelf have come to a directory, if the directories among them do. -/
theorem achieves_overlayEntriesBy_of (expected : expectPath tree = .ok ())
    (deeper : ∀ {name present}, IsName name → Sayable tree name →
      base.get? (name :: source) = some .directory → Reached base site path target present →
      Achieves (AdmitsName base tree source present path target name)
        (Overlaid transfer base (name :: source) (name :: target) present)
        ((overlayWithinBy order transfer levels (tree.child name) (path.child name)).run present)) :
    Achieves (Admits base tree source before path target)
      (Overlaid transfer base source target before)
      ((overlayEntriesBy order transfer levels tree path).run before) := by
  let names := order.arrange before tree (base.names source)
  have arranged : names.Perm (base.names source) := order.perm ..
  have distinct : names.Nodup := arranged.nodup_iff.2 (nodup_names base source)
  have asked : (ask (·.readDirectoryBy order tree)).run before = (.ok names, before) := by
    rw [run_ask, readDirectoryBy, shelf.readDirectory tame reached.overwrites, expected]
    rfl
  have listed : ∀ name, name ∈ names ↔ base.get? (name :: source) ≠ none := fun name => by
    rw [arranged.mem_iff, mem_names, Option.isSome_iff_ne_none]
  rw [overlayEntriesBy, run_bind, asked]
  simp only []
  refine (achieves_overlayNames_of tame isInside shelf reached (fun name => arranged.mem_iff.1)
    distinct deeper).mono ?_ fun all => all.overlaid listed shelf.standing reached.standing
  rw [admits_iff]
  exact ⟨fun each name entry stands => each name ((listed name).2 (by simp [stands])) stands,
    fun each name _ => each name⟩

end Shelf

/-- A directory on a shelf that is laid over its name has come there. -/
theorem achieves_overlayWithinBy (tame : Tame (Below site) base)
    (isInside : within site target = true)
    (shelf : base.Shelf site tree source) (reached : Reached base site path target before)
    (isName : IsName name) (sayable : Sayable tree name)
    (found : base.get? (name :: source) = some .directory)
    (enough : pathLimit ≤ levels + tree.text.utf8ByteSize) :
    Achieves (AdmitsName base tree source before path target name)
      (Overlaid transfer base (name :: source) (name :: target) before)
      ((overlayWithinBy order transfer levels (tree.child name) (path.child name)).run before) := by
  have longer := Path.utf8ByteSize_lt_child tree isName
  induction levels generalizing tree source path target before name with
  | zero =>
    have bounds := bounds_of_expectPath sayable.1
    omega
  | succ levels inductionHypothesis =>
    have inner := shelf.child isName sayable found
    refine achieves_overlayWithinBy_of isInside reached isName sayable found fun reached =>
      achieves_overlayEntriesBy_of tame (within_parent isInside) inner reached sayable.1 ?_
    intro other present isNameToo sayableToo standing reached
    exact inductionHypothesis (within_parent isInside) inner reached isNameToo sayableToo standing
      (by omega) (Path.utf8ByteSize_lt_child _ isNameToo)

/-- The entries of a shelf have come to the directory that they are laid over, or that fails and is
not possible. -/
theorem achieves_overlayEntriesBy (tame : Tame (Below site) base)
    (isInside : within site target = true)
    (shelf : base.Shelf site tree source) (reached : Reached base site path target before)
    (expected : expectPath tree = .ok ()) (enough : pathLimit ≤ levels + tree.text.utf8ByteSize) :
    Achieves (Admits base tree source before path target)
      (Overlaid transfer base source target before)
      ((overlayEntriesBy order transfer levels tree path).run before) :=
  achieves_overlayEntriesBy_of tame isInside shelf reached expected
    fun isName sayable found reached =>
      achieves_overlayWithinBy tame isInside shelf reached isName sayable found enough

end FileAction

end KernelExport
