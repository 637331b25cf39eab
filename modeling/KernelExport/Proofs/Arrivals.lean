/-
This file says what may come and go on a file system so that walks still end where they did.

Steps on files change a region of locations, such as all that lies below a directory. A walk that
leads to a directory cannot be led astray by them if it never goes over a link of the region. That
is so if the links of the region lead to no directory (`Tame`): a walk that came to one would have
to end there. Then a walk to a directory ends at the same one after the changes, if it ends at all
(`Changes.follow_eq`), and a walk that goes on by names from a directory of the region ends where
the names are written (`Tame.follow_names`).

Arrivals keep it so. A directory arrives where nothing stood, and a file or a link to a file in the
place of anything but a directory (`Arrives`); none of them gives a link a directory to lead to,
unless the link led to nothing. A region without such links is `Settled`, and stays so.
-/

import KernelExport.Proofs.Walk

namespace KernelExport

namespace FileSystem

variable {files before after : FileSystem} {site directory location : Location} {name : String}

/-! ### Below a location -/

theorem within_self (site : Location) : within site site = true :=
  List.isSuffixOf_iff_suffix.2 (List.suffix_refl site)

theorem within_append (names site : Location) : within site (names ++ site) = true :=
  List.isSuffixOf_iff_suffix.2 (List.suffix_append names site)

/-- Of two locations that a third lies in, one lies in the other. -/
theorem within_or_within {first second : Location} (inFirst : within first location = true)
    (inSecond : within second location = true) :
    within first second = true ∨ within second first = true := by
  simp only [within, List.isSuffixOf_iff_suffix] at *
  exact List.suffix_or_suffix_of_suffix inFirst inSecond

/-- Where neither of two locations lies in the other, nothing lies in both of them. -/
theorem not_within_of_apart {first second : Location}
    (apart : within first second = false ∧ within second first = false)
    (inSecond : within second location = true) : within first location = false := by
  refine Bool.eq_false_iff.2 fun inFirst => ?_
  rcases within_or_within inFirst inSecond with inside | inside
  · rw [apart.1] at inside
    cases inside
  · rw [apart.2] at inside
    cases inside

theorem within_trans {first second : Location} (outer : within first second = true)
    (inner : within second location = true) : within first location = true := by
  simp only [within, List.isSuffixOf_iff_suffix] at *
  exact outer.trans inner

/-- What lies below what lies in a directory lies below the directory, and is not it. -/
theorem ne_of_within (name : String) (inside : within site directory = true) :
    name :: directory ≠ site := by
  rintro rfl
  have shorter := (List.isSuffixOf_iff_suffix.1 inside).length_le
  rw [List.length_cons] at shorter
  omega

/-- What lies behind a name in a directory lies in no other part of it. -/
theorem eq_of_within {other : String} {inner : List String}
    (inside : within (name :: directory) (inner ++ other :: directory) = true) : other = name := by
  obtain ⟨front, same⟩ := List.isSuffixOf_iff_suffix.1 inside
  have whole : (front ++ [name]) ++ directory = (inner ++ [other]) ++ directory := by
    simpa using same
  have last : [name] = [other] := List.append_inj_right' (List.append_cancel_right whole) rfl
  exact (List.cons.inj last).1.symm

/-- What stands below a location stands in directories all the way from there. -/
theorem get?_of_within (inside : within site location = true) (different : location ≠ site)
    (stands : files.get? location ≠ none) : files.get? site = some .directory := by
  induction location with
  | nil =>
    have empty := List.suffix_nil.1 (List.isSuffixOf_iff_suffix.1 inside)
    exact absurd empty.symm different
  | cons name parent inductionHypothesis =>
    have standing := files.get?_parent stands
    rcases List.suffix_cons_iff.1 (List.isSuffixOf_iff_suffix.1 inside) with same | inParent
    · exact absurd same.symm different
    · by_cases here : parent = site
      · exact here ▸ standing
      · exact inductionHypothesis (List.isSuffixOf_iff_suffix.2 inParent) here (by simp [standing])

theorem get?_eq_none_of_within (inside : within site location = true)
    (missing : files.get? site = none) : files.get? location = none := by
  by_cases here : location = site
  · rw [here, missing]
  · cases stands : files.get? location with
    | none => rfl
    | some entry =>
      rw [get?_of_within inside here (by simp [stands])] at missing
      cases missing

/-- A location lies below another one, at any depth. -/
def Below (site location : Location) : Prop :=
  location ≠ site ∧ within site location = true

instance (site location : Location) : Decidable (Below site location) :=
  inferInstanceAs (Decidable (_ ∧ _))

theorem below_cons (name : String) (inside : within site directory = true) :
    Below site (name :: directory) :=
  ⟨ne_of_within name inside, within_parent inside⟩

theorem Below.of_within {deeper : Location} (below : Below site location)
    (inside : within location deeper = true) : Below site deeper := by
  obtain ⟨different, inSite⟩ := below
  rw [within, List.isSuffixOf_iff_suffix] at inSite inside
  refine ⟨?_, List.isSuffixOf_iff_suffix.2 (inSite.trans inside)⟩
  rintro rfl
  exact different (inside.eq_of_length_le inSite.length_le)

/-! ### Regions -/

section Region

variable {region origin : Location → Prop}

/-- What lies in a directory of the region lies in the region. -/
def Closed (region : Location → Prop) : Prop :=
  ∀ (name : String) {directory : Location}, region directory → region (name :: directory)

theorem closed_below (site : Location) : Closed (Below site) :=
  fun name _ below => below_cons name below.2

theorem closed_within (site : Location) : Closed fun location => within site location = true :=
  fun _ _ => within_parent

theorem Closed.append (closed : Closed region) (names : List String) (inside : region location) :
    region (names ++ location) := by
  induction names with
  | nil => exact inside
  | cons name names inductionHypothesis => exact closed name inductionHypothesis

/-- No link of the region leads to a directory. -/
def Tame (region : Location → Prop) (files : FileSystem) : Prop :=
  ∀ ⦃name directory target ending left⦄, region (name :: directory) →
    files.get? (name :: directory) = some (.link target) →
    files.follow linkLimit directory [name] = .ok (ending, left) →
    files.get? ending ≠ some .directory

/-- Nothing has changed but in the region, and no link has come where a directory stood. -/
structure Changes (region : Location → Prop) (before after : FileSystem) : Prop where
  workingDirectory : after.workingDirectory = before.workingDirectory
  outside : ∀ {location}, ¬region location → after.get? location = before.get? location
  linked : ∀ {location target}, after.get? location = some (.link target) →
    before.get? location ≠ some .directory

/-- A walk to a directory goes over no link of the region. -/
theorem Tame.unlinked (tame : Tame region files) {links left : Nat} {rest : List String}
    {ending : Location} (inside : region (name :: directory)) (within : links ≤ linkLimit)
    (walk : files.follow links directory (name :: rest) = .ok (ending, left))
    (standing : files.get? ending = some .directory) (target : Path) :
    files.get? (name :: directory) ≠ some (.link target) := by
  intro linked
  rw [← List.singleton_append, follow_append] at walk
  obtain ⟨⟨reached, remaining⟩, first, second⟩ := bind_eq_ok_iff.1 walk
  have whole := follow_add first (linkLimit - links)
  rw [Nat.add_sub_cancel' within] at whole
  exact tame inside linked whole (directory_of_follow_directory second standing)

/-- A walk to a directory ends there on other files too, if it ends at all, where only a tame
region differs and no directory that it comes through has become a link. -/
theorem Tame.follow_eq (tame : Tame region before)
    (outside : ∀ {location}, ¬region location → after.get? location = before.get? location)
    {links remaining : Nat} (within : links ≤ linkLimit) {steps : List String} {ending : Location}
    (walk : before.follow links location steps = .ok (ending, remaining))
    (standing : before.get? ending = some .directory) {reached : Location × Nat}
    (again : after.follow links location steps = .ok reached)
    (unlinked : ∀ {left here step rest}, left ≤ linkLimit →
      after.follow left here (step :: rest) = .ok reached →
      before.get? (step :: here) = some .directory →
      ∀ target, after.get? (step :: here) ≠ some (.link target)) :
    reached = (ending, remaining) := by
  have entered : ∀ {links here step rest},
      after.follow links here (step :: rest) = .ok reached →
      after.expectDirectory here = .ok () := fun walk =>
    expectDirectory_eq_ok_iff.2 (directory_of_follow walk (by simp))
  have rules := follows_iff.2 walk
  clear walk
  generalize ended : Except.ok (ending, remaining) = result at rules
  induction rules with
  | ended links here =>
    rw [follow_nil] at again
    exact Except.ok.inj (again.symm.trans ended.symm)
  | blocked | tooLong | missing | exhausted => cases ended
  | dot links here rest _ _ inductionHypothesis | up links here rest _ _ inductionHypothesis =>
    have enters := entered again
    rw [follow_cons, enters] at again
    exact inductionHypothesis within again ended
  | link left here step rest target stands notDot notUp short linked walk inductionHypothesis =>
    have whole := (Follows.link _ _ _ _ target stands notDot notUp short linked walk).eq
    have apart : ¬region (step :: here) := fun inside =>
      tame.unlinked inside within (whole.trans ended.symm) standing target linked
    have enters := entered again
    rw [follow_cons, enters] at again
    simp only [notDot, notUp, short, outside apart, linked, if_false, Bool.false_eq_true] at again
    exact inductionHypothesis (Nat.le_of_succ_le within) again ended
  | name links here step rest entry _ notDot notUp short found notLink walk inductionHypothesis =>
    have directory : before.get? (step :: here) = some .directory :=
      directory_of_follow_directory (walk.eq.trans ended.symm) standing
    have noLink := unlinked within again directory
    have enters := entered again
    rw [follow_cons, enters] at again
    simp only [notDot, notUp, short, if_false, Bool.false_eq_true] at again
    split at again
    · cases again
    · rename_i target linked
      exact absurd linked (noLink target)
    · exact inductionHypothesis within again ended

/-- A walk to a directory still ends there after changes in a tame region, if it ends at all. -/
theorem Changes.follow_eq (changes : Changes region before after) (tame : Tame region before)
    {links remaining : Nat} (within : links ≤ linkLimit) {steps : List String} {ending : Location}
    (walk : before.follow links location steps = .ok (ending, remaining))
    (standing : before.get? ending = some .directory) {reached : Location × Nat}
    (again : after.follow links location steps = .ok reached) : reached = (ending, remaining) :=
  tame.follow_eq changes.outside within walk standing again
    fun _ _ directory _ linked => changes.linked linked directory

/-- Two walks to directories end at the same one where only a region differs that is tame on both
sides. -/
theorem Tame.follow_unique (tameBefore : Tame region before) (tameAfter : Tame region after)
    (outside : ∀ {location}, ¬region location → after.get? location = before.get? location)
    {links remaining left : Nat} (within : links ≤ linkLimit) {steps : List String}
    {ending reached : Location}
    (walk : before.follow links location steps = .ok (ending, remaining))
    (standing : before.get? ending = some .directory)
    (again : after.follow links location steps = .ok (reached, left))
    (standingAgain : after.get? reached = some .directory) :
    (reached, left) = (ending, remaining) := by
  refine tameBefore.follow_eq outside within walk standing again
    fun {_ here step _} within walkOn directory target linked => ?_
  by_cases inside : region (step :: here)
  · exact tameAfter.unlinked inside within walkOn standingAgain target linked
  · rw [outside inside, directory] at linked
    cases linked

/-- A walk by names to a directory ends where they are written. -/
theorem Tame.follow_names (tame : Tame region files) (closed : Closed region)
    {links left : Nat} (within : links ≤ linkLimit) {steps : List String} {ending : Location}
    (inward : ".." ∉ steps)
    (enters : ∀ name rest, steps.filter (· ≠ ".") = name :: rest → region (name :: location))
    (walk : files.follow links location steps = .ok (ending, left))
    (standing : files.get? ending = some .directory) :
    ending = (steps.filter (· ≠ ".")).reverse ++ location := by
  induction steps generalizing location links with
  | nil =>
    rw [follow_nil] at walk
    obtain ⟨rfl, -⟩ := Prod.mk.inj (Except.ok.inj walk)
    rfl
  | cons step rest inductionHypothesis =>
    rw [List.mem_cons, not_or] at inward
    have whole := walk
    have here := expectDirectory_eq_ok_iff.2 (directory_of_follow walk (by simp))
    rw [follow_cons, here] at walk
    by_cases dot : step = "."
    · subst dot
      simp only [if_true] at walk
      have same : ("." :: rest).filter (· ≠ ".") = rest.filter (· ≠ ".") := by simp
      rw [same] at enters ⊢
      exact inductionHypothesis within inward.2 enters walk
    · have shape : (step :: rest).filter (· ≠ ".") = step :: rest.filter (· ≠ ".") := by simp [dot]
      rw [shape] at enters ⊢
      have inside := enters step _ rfl
      simp only [dot, Ne.symm inward.1, if_false] at walk
      split at walk
      · cases walk
      · split at walk
        · cases walk
        · rename_i target linked
          exact absurd linked (tame.unlinked inside within whole standing target)
        · have ended := inductionHypothesis within inward.2 (fun name _ _ => closed name inside) walk
          rw [ended]
          simp

end Region

/-! ### Paths of locations -/

/-- What stands is walked to by the names that lead to it, unless one of them is too long. -/
theorem follow_reverse (stands : files.get? location ≠ none)
    (unlinked : ∀ target, files.get? location ≠ some (.link target)) (links : Nat) :
    files.follow links [] location.reverse =
      if location.any isTooLong then .error .nameTooLong else .ok (location, links) := by
  induction location with
  | nil => rw [List.reverse_nil, follow_nil, List.any_nil, if_neg Bool.false_ne_true]
  | cons name directory inductionHypothesis =>
    have parent := files.get?_parent stands
    rw [List.reverse_cons, follow_append, inductionHypothesis (by simp [parent]) (by simp [parent]),
      List.any_cons]
    cases directory.any isTooLong with
    | true =>
      rw [if_pos rfl, Bool.or_true, if_pos rfl]
      rfl
    | false =>
      rw [if_neg Bool.false_ne_true, Bool.or_false]
      show files.follow links directory [name] = _
      rw [follow_name links parent (files.isName_of_get? stands) unlinked, if_neg stands]

/-- A path is written with the names that lead from the root to a location. -/
def Spells (path : Path) (location : Location) : Prop :=
  path.isAbsolute = true ∧ path.steps = location.reverse ∧ expectPath path = .ok () ∧
    location.any isTooLong = false

instance (path : Path) (location : Location) : Decidable (Spells path location) :=
  inferInstanceAs (Decidable (_ ∧ _))

theorem resolve_of_spells {path : Path} (spells : Spells path location)
    (stands : files.get? location ≠ none)
    (unlinked : ∀ target, files.get? location ≠ some (.link target)) :
    files.resolve path = .ok location := by
  obtain ⟨isAbsolute, written, expected, short⟩ := spells
  refine resolve_eq_ok_iff.2 ⟨expected, ⟨linkLimit, ?_⟩, stands⟩
  rw [written, start, if_pos isAbsolute, follow_reverse stands unlinked, short,
    if_neg Bool.false_ne_true]

theorem isName_of_mem (stands : files.get? location ≠ none) : ∀ name ∈ location, IsName name := by
  induction location with
  | nil => simp
  | cons name directory inductionHypothesis =>
    have parent := files.get?_parent stands
    exact List.forall_mem_cons.2 ⟨files.isName_of_get? stands, inductionHypothesis (by simp [parent])⟩

theorem segments_pathOf (stands : files.get? location ≠ none) (below : location ≠ []) :
    (pathOf location).segments = "" :: location.reverse := by
  refine Path.segments_ofText_names (by simpa using below) fun name member => ?_
  exact (isName_of_mem stands name (List.mem_reverse.1 member)).2.2.2

/-- The walk along the path of a file comes to it, unless a name on the way is too long. -/
theorem follow_pathOf {content : Content} (stands : files.get? location = some (.file content))
    (links : Nat) (here : Location) (rest : List String) :
    files.follow links (start (pathOf location) here) ((pathOf location).steps ++ rest) =
      if location.any isTooLong then .error .nameTooLong else files.follow links location rest := by
  have below : location ≠ [] := by
    rintro rfl
    cases stands
  have standing : files.get? location ≠ none := by simp [stands]
  have segments := segments_pathOf standing below
  obtain ⟨name, directory, rfl⟩ := List.exists_cons_of_ne_nil below
  have named := isName_of_mem standing
  have absolute : (pathOf (name :: directory)).isAbsolute = true := by
    rw [Path.isAbsolute, segments, List.reverse_cons]
    cases directory.reverse <;> rfl
  have steps : (pathOf (name :: directory)).steps = (name :: directory).reverse := by
    have solid : directory.reverse.filter (· ≠ "") = directory.reverse := by
      refine List.filter_eq_self.2 fun other member => ?_
      simpa using (named other (List.mem_cons_of_mem name (List.mem_reverse.1 member))).1
    have last := (named name List.mem_cons_self).1
    simp only [Path.steps, segments, List.reverse_cons, List.reverse_append, List.reverse_reverse,
      List.reverse_nil, List.nil_append, List.cons_append]
    simpa [last] using solid
  rw [start, if_pos absolute, steps, follow_append, follow_reverse standing (by simp [stands])]
  split <;> rfl

/-! ### What may arrive -/

/-- An entry may come to a location: a directory if nothing stands there, any file, and a link to
a file at another location of `origin`. -/
inductive Fits (origin : Location → Prop) (files : FileSystem) (location : Location) : Entry → Prop
  | directory : files.get? location = none → Fits origin files location .directory
  | file (content : Content) : Fits origin files location (.file content)
  | link {source : Location} {content : Content} : source ≠ location →
    files.get? source = some (.file content) → origin source →
    Fits origin files location (.link (pathOf source))

/-- An entry comes to a name in a directory, in a region, and in the place of no directory. -/
structure Arrives (region origin : Location → Prop) (files : FileSystem) (directory : Location)
    (name : String) (entry : Entry) : Prop where
  free : files.Free directory name
  inside : region (name :: directory)
  fits : Fits origin files (name :: directory) entry

/-- Nothing has changed but in the region, where no directory has gone, and the links that came lead
to locations of `origin`. -/
structure Overwrites (region origin : Location → Prop) (before after : FileSystem) : Prop where
  workingDirectory : after.workingDirectory = before.workingDirectory
  outside : ∀ {location}, ¬region location → after.get? location = before.get? location
  directory : ∀ {location}, before.get? location = some .directory →
    after.get? location = some .directory
  linked : ∀ {location target}, after.get? location = some (.link target) →
    before.get? location = some (.link target) ∨ ∃ source, target = pathOf source ∧ origin source

section Region

variable {region origin : Location → Prop} {entry : Entry}

instance : IsPreorder FileSystem (Overwrites region origin) where
  refl _ := ⟨rfl, fun _ => rfl, id, .inl⟩
  trans _ _ _ first second :=
    ⟨second.workingDirectory.trans first.workingDirectory,
      fun outside => (second.outside outside).trans (first.outside outside),
      fun standing => second.directory (first.directory standing),
      fun linked => (second.linked linked).elim first.linked .inr⟩

theorem Overwrites.refl (files : FileSystem) : Overwrites region origin files files :=
  Std.Refl.refl files

theorem Overwrites.trans {first second third : FileSystem}
    (earlier : Overwrites region origin first second)
    (later : Overwrites region origin second third) : Overwrites region origin first third :=
  IsTrans.trans first second third earlier later

theorem Overwrites.mono {wider : Location → Prop} (overwrites : Overwrites region origin before after)
    (included : ∀ {location}, region location → wider location) :
    Overwrites wider origin before after where
  workingDirectory := overwrites.workingDirectory
  outside apart := overwrites.outside fun inside => apart (included inside)
  directory := overwrites.directory
  linked := overwrites.linked

theorem Overwrites.changes (overwrites : Overwrites region origin before after) :
    Changes region before after where
  workingDirectory := overwrites.workingDirectory
  outside := overwrites.outside
  linked linked standing := by
    rw [overwrites.directory standing] at linked
    cases linked

/-- A walk to a directory that goes over no link of the region stays as it is. -/
theorem Overwrites.follow (overwrites : Overwrites region origin before after)
    (tame : Tame region before) {links remaining : Nat} (within : links ≤ linkLimit)
    {steps : List String} {ending : Location}
    (walk : before.follow links location steps = .ok (ending, remaining))
    (standing : before.get? ending = some .directory) :
    after.follow links location steps = .ok (ending, remaining) := by
  have entered : ∀ {here}, before.expectDirectory here = .ok () →
      after.expectDirectory here = .ok () := fun directory =>
    expectDirectory_eq_ok_iff.2 (overwrites.directory (expectDirectory_eq_ok_iff.1 directory))
  have rules := follows_iff.2 walk
  clear walk
  generalize ended : Except.ok (ending, remaining) = result at rules ⊢
  induction rules with
  | ended links here => exact after.follow_nil links here
  | blocked | tooLong | missing | exhausted => cases ended
  | dot links here rest stands _ inductionHypothesis =>
    exact (Follows.dot _ _ _ (entered stands)
      (follows_iff.2 (inductionHypothesis within ended))).eq
  | up links here rest stands _ inductionHypothesis =>
    exact (Follows.up _ _ _ (entered stands)
      (follows_iff.2 (inductionHypothesis within ended))).eq
  | link left here step rest target stands notDot notUp short linked walk inductionHypothesis =>
    have whole := (Follows.link _ _ _ _ target stands notDot notUp short linked walk).eq
    have outside : ¬region (step :: here) := fun inside =>
      tame.unlinked inside within (whole.trans ended.symm) standing target linked
    exact (Follows.link _ _ _ _ target (entered stands) notDot notUp short
      ((overwrites.outside outside).trans linked)
      (follows_iff.2 (inductionHypothesis (Nat.le_of_succ_le within) ended))).eq
  | name links here step rest entry stands notDot notUp short found notLink walk
      inductionHypothesis =>
    have directory := directory_of_follow_directory (walk.eq.trans ended.symm) standing
    exact (Follows.name _ _ _ _ .directory (entered stands) notDot notUp short
      (overwrites.directory directory) (by simp)
      (follows_iff.2 (inductionHypothesis within ended))).eq

theorem Overwrites.put (arrives : Arrives region origin files directory name entry) :
    Overwrites region origin files (files.put directory name entry) := by
  refine ⟨workingDirectory_put .., fun outside => get?_put_of_ne files entry ?_,
    fun standing => ?_, fun {location target} linked => ?_⟩
  · rintro rfl
    exact outside arrives.inside
  · rw [get?_put_of_ne files entry]
    · exact standing
    · rintro rfl
      exact arrives.free.2.1 standing
  · by_cases here : location = name :: directory
    · subst here
      rw [get?_put_self entry arrives.free, Option.some.injEq] at linked
      cases arrives.fits with
      | directory | file => cases linked
      | link different stands from_origin =>
        obtain rfl := Entry.link.inj linked
        exact .inr ⟨_, rfl, from_origin⟩
    · rw [get?_put_of_ne files entry here] at linked
      exact .inl linked

/-- Where no directory stands, nothing is erased but what stands there. -/
theorem get?_erase_of_ne (plain : files.get? location ≠ some .directory) {other : Location}
    (different : other ≠ location) : (files.erase location).get? other = files.get? other := by
  rw [get?_erase]
  split
  · rename_i gone
    cases stands : files.get? other with
    | none => rfl
    | some entry => exact absurd (get?_of_within gone.2 different (by simp [stands])) plain
  · rfl

theorem get?_erase_self (plain : files.get? location ≠ some .directory) :
    (files.erase location).get? location = none := by
  rw [get?_erase, if_pos]
  refine ⟨?_, within_self location⟩
  rintro rfl
  exact plain rfl

theorem Overwrites.erase (inside : region location)
    (plain : files.get? location ≠ some .directory) :
    Overwrites region origin files (files.erase location) := by
  have elsewhere : ∀ {other}, other ≠ location →
      (files.erase location).get? other = files.get? other := get?_erase_of_ne plain
  refine ⟨rfl, fun outside => elsewhere ?_, fun standing => ?_, fun linked => ?_⟩
  · rintro rfl
    exact outside inside
  · rw [elsewhere, standing]
    rintro rfl
    exact plain standing
  · left
    rwa [elsewhere] at linked
    rintro rfl
    rw [get?_erase_self plain] at linked
    cases linked

/-- What is erased is missing, and all else stands. -/
theorem extends_erase (files : FileSystem) (location : Location) :
    files.Extends (files.erase location) := by
  refine ⟨fun stands => ?_, rfl⟩
  rw [get?_erase] at stands
  split at stands
  · cases stands
  · exact stands

/-- Erasing a file or a link that is replaced makes no difference. -/
theorem put_erase (free : files.Free directory name) (entry : Entry) :
    (files.erase (name :: directory)).put directory name entry = files.put directory name entry := by
  have shorter : directory ≠ name :: directory := fun same => by
    simpa using congrArg List.length same
  have stillFree : (files.erase (name :: directory)).Free directory name := by
    refine ⟨?_, ?_, free.2.2⟩
    · rw [get?_erase_of_ne free.2.1 shorter, free.1]
    · rw [get?_erase_self free.2.1]
      simp
  refine ext_get? (fun location => ?_) (by simp)
  by_cases here : location = name :: directory
  · rw [here, get?_put_self entry stillFree, get?_put_self entry free]
  · rw [get?_put_of_ne _ entry here, get?_put_of_ne _ entry here, get?_erase_of_ne free.2.1 here]

/-! ### Settled regions -/

/-- The walk does not fail for want of anything, and it ends at no directory. -/
def Harmless (files : FileSystem) (walk : Except FileError (Location × Nat)) : Prop :=
  walk ≠ .error .notFound ∧
    ∀ ending left, walk = .ok (ending, left) → files.get? ending ≠ some .directory

/-- The links of the region lead neither to a directory nor to nothing. -/
def Settled (region : Location → Prop) (files : FileSystem) : Prop :=
  ∀ ⦃name directory target⦄, region (name :: directory) →
    files.get? (name :: directory) = some (.link target) →
    files.Harmless (files.follow linkLimit directory [name])

theorem Settled.tame (settled : Settled region files) : Tame region files :=
  fun _ _ _ _ _ inside linked walk => (settled inside linked).2 _ _ walk

/-- Whether no link stands anywhere. -/
def linkless (files : FileSystem) : Bool :=
  files.entries.toList.all fun (_, entry) => match entry with
    | .link _ => false
    | _ => true

theorem unlinked_of_linkless (none : files.linkless = true) (location : Location) (target : Path) :
    files.get? location ≠ some (.link target) := by
  intro linked
  cases location with
  | nil => cases linked
  | cons name directory =>
    have member := Std.ExtTreeMap.mem_toList_iff_getElem?_eq_some.2 linked
    simpa using List.all_eq_true.1 none _ member

theorem settled_of_linkless (none : files.linkless = true) : Settled region files :=
  fun _ _ target _ linked => absurd linked (unlinked_of_linkless none _ target)

theorem harmless_error {failure : FileError} (other : failure ≠ .notFound) :
    files.Harmless (.error failure) :=
  ⟨by simpa using other, fun _ _ walk => by cases walk⟩

/-- No step is taken from a file. -/
theorem harmless_behind_file {content : Content}
    (stands : files.get? location = some (.file content)) (links : Nat) (steps : List String) :
    files.Harmless (files.follow links location steps) := by
  cases steps with
  | nil =>
    rw [follow_nil]
    refine ⟨by simp, fun ending left walk => ?_⟩
    obtain ⟨rfl, -⟩ := Prod.mk.inj (Except.ok.inj walk)
    rw [stands]
    simp
  | cons step rest =>
    have notDirectory : files.expectDirectory location = .error .notDirectory := by
      rw [expectDirectory, stands]
    rw [follow_cons, notDirectory]
    exact harmless_error (by simp)

theorem harmless_pathOf {content : Content}
    (stands : files.get? location = some (.file content)) (links : Nat) (here : Location)
    (rest : List String) :
    files.Harmless
      (files.follow links (start (pathOf location) here) ((pathOf location).steps ++ rest)) := by
  rw [follow_pathOf stands]
  split
  · exact harmless_error (by simp)
  · exact harmless_behind_file stands links rest

/-- A walk over a file does no harm. -/
theorem harmless_file {content : Content}
    (stands : files.get? (name :: directory) = some (.file content)) (links : Nat)
    (rest : List String) : files.Harmless (files.follow links directory (name :: rest)) := by
  have standing : files.get? (name :: directory) ≠ none := by simp [stands]
  have isName := files.isName_of_get? standing
  rw [follow_cons, expectDirectory_eq_ok_iff.2 (files.get?_parent standing)]
  simp only [isName.2.1, isName.2.2.1, stands, if_false]
  split
  · exact harmless_error (by simp)
  · exact harmless_behind_file stands ..

/-- A walk over a link to a file does no harm. -/
theorem harmless_link {source : Location} {content : Content} {links : Nat} {rest : List String}
    (linked : files.get? (name :: directory) = some (.link (pathOf source)))
    (stands : files.get? source = some (.file content)) :
    files.Harmless (files.follow links directory (name :: rest)) := by
  have standing : files.get? (name :: directory) ≠ none := by simp [linked]
  have isName := files.isName_of_get? standing
  rw [follow_cons, expectDirectory_eq_ok_iff.2 (files.get?_parent standing)]
  simp only [isName.2.1, isName.2.2.1, linked, if_false]
  split
  · exact harmless_error (by simp)
  · cases links with
    | zero => exact harmless_error (by simp)
    | succ left => exact harmless_pathOf stands ..

/-- Directories that are made where nothing stood leave a settled region settled. -/
theorem Settled.of_extends {later : FileSystem} (settled : Settled region files)
    (more : later.Extends files)
    (linked : ∀ {location target}, later.get? location = some (.link target) →
      files.get? location = some (.link target)) : Settled region later := by
  intro name directory target inside isLink
  have before := settled inside (linked isLink)
  rw [more.follow_eq before.1]
  refine ⟨before.1, fun ending left walk standing => before.2 ending left walk ?_⟩
  obtain ⟨entry, found, -⟩ := standing_of_follow walk (by simp)
  rw [found, ← more.entry found, standing]

/-- A walk over what has arrived failed before for want of it, or does no harm. -/
theorem Arrives.follow_arrived (arrives : Arrives region origin files directory name entry)
    (links : Nat) (rest : List String) :
    files.follow links directory (name :: rest) = .error .notFound ∨
      (files.put directory name entry).Harmless
        ((files.put directory name entry).follow links directory (name :: rest)) := by
  have arrived := get?_put_self entry arrives.free
  have standing : (files.put directory name entry).get? (name :: directory) ≠ none := by
    simp [arrived]
  obtain ⟨-, notDot, notUp, -⟩ := isName_of_get? _ standing
  cases arrives.fits with
  | directory absent =>
    by_cases short : isTooLong name = true
    · right
      rw [(Follows.tooLong links directory name rest
        (expectDirectory_eq_ok_iff.2 (get?_parent _ standing)) notDot notUp short).eq]
      exact harmless_error (by simp)
    · left
      exact (Follows.missing links directory name rest
        (expectDirectory_eq_ok_iff.2 arrives.free.1) notDot notUp (by simpa using short) absent).eq
  | file content => exact .inr (harmless_file arrived ..)
  | link different stands _ =>
    exact .inr (harmless_link arrived (by rw [get?_put_of_ne files _ different, stands]))

/-- A directory that can be entered now could be before, unless it is the one that arrived. -/
theorem Arrives.entered (arrives : Arrives region origin files directory name entry)
    {here : Location} (standing : (files.put directory name entry).expectDirectory here = .ok ())
    (links : Nat) (step : String) (rest : List String) :
    files.expectDirectory here = .ok () ∨
      files.follow links here (step :: rest) = .error .notFound := by
  by_cases atName : here = name :: directory
  · subst atName
    rw [expectDirectory_eq_ok_iff, get?_put_self entry arrives.free, Option.some.injEq] at standing
    subst standing
    cases arrives.fits with
    | directory missing =>
      exact .inr (Follows.blocked _ _ _ _ _ (by rw [expectDirectory, missing])).eq
  · left
    rwa [expectDirectory, ← get?_put_of_ne files entry atName]

/-- A walk after an arrival is the walk before it, unless that failed for want of something; or it
comes to what has arrived, which does no harm. -/
theorem Arrives.follow (arrives : Arrives region origin files directory name entry)
    (links : Nat) (here : Location) (steps : List String) :
    (files.put directory name entry).follow links here steps = files.follow links here steps ∨
      files.follow links here steps = .error .notFound ∨
      (files.put directory name entry).Harmless
        ((files.put directory name entry).follow links here steps) := by
  have elsewhere : ∀ {other}, other ≠ name :: directory →
      (files.put directory name entry).get? other = files.get? other :=
    get?_put_of_ne files entry
  have rules := (files.put directory name entry).follows links here steps
  generalize (files.put directory name entry).follow links here steps = result at rules ⊢
  induction rules with
  | ended links here => exact .inl (files.follow_nil links here).symm
  | blocked links here step rest failure failed =>
    by_cases atName : here = name :: directory
    · rw [expectDirectory, atName, get?_put_self entry arrives.free] at failed
      cases entry with
      | directory => cases failed
      | file _ | link _ =>
        obtain rfl := Except.error.inj failed
        exact .inr (.inr (harmless_error (by simp)))
    · left
      rw [expectDirectory, elsewhere atName] at failed
      exact (Follows.blocked _ _ _ _ _ failed).eq.symm
  | dot links here rest standing _ inductionHypothesis
  | up links here rest standing _ inductionHypothesis =>
    rcases arrives.entered standing links _ rest with before | missing
    · rw [follow_cons, before]
      exact inductionHypothesis
    · exact .inr (.inl missing)
  | tooLong | exhausted => exact .inr (.inr (harmless_error (by simp)))
  | missing links here step rest standing notDot notUp short missing =>
    rcases arrives.entered standing links step rest with before | blocked
    · have absent : files.get? (step :: here) = none := by
        rw [← elsewhere, missing]
        intro atName
        rw [atName, get?_put_self entry arrives.free] at missing
        cases missing
      exact .inl (Follows.missing _ _ _ _ before notDot notUp short absent).eq.symm
    · exact .inr (.inl blocked)
  | link left here step rest target standing notDot notUp short linked walk inductionHypothesis =>
    by_cases atName : step :: here = name :: directory
    · obtain ⟨rfl, rfl⟩ := List.cons.inj atName
      rw [← (Follows.link _ _ _ _ _ standing notDot notUp short linked walk).eq]
      exact .inr (arrives.follow_arrived ..)
    · rcases arrives.entered standing (left + 1) step rest with before | missing
      · rw [follow_cons, before]
        simp only [notDot, notUp, short, ← elsewhere atName, linked, if_false, Bool.false_eq_true]
        exact inductionHypothesis
      · exact .inr (.inl missing)
  | name links here step rest other standing notDot notUp short found notLink walk
      inductionHypothesis =>
    by_cases atName : step :: here = name :: directory
    · obtain ⟨rfl, rfl⟩ := List.cons.inj atName
      rw [← (Follows.name _ _ _ _ _ standing notDot notUp short found notLink walk).eq]
      exact .inr (arrives.follow_arrived ..)
    · rcases arrives.entered standing links step rest with before | missing
      · rw [elsewhere atName] at found
        rw [follow_cons, before]
        cases other with
        | link target => exact absurd rfl (notLink target)
        | file _ | directory =>
          simp only [notDot, notUp, short, found, if_false, Bool.false_eq_true]
          exact inductionHypothesis
      · exact .inr (.inl missing)

/-- A settled region stays settled when something arrives in it, or elsewhere. -/
theorem Settled.put {elsewhere : Location → Prop} (settled : Settled region files)
    (arrives : Arrives elsewhere origin files directory name entry) :
    Settled region (files.put directory name entry) := by
  intro other parent target inside linked
  by_cases atName : other :: parent = name :: directory
  · obtain ⟨rfl, rfl⟩ := List.cons.inj atName
    have arrived := get?_put_self entry arrives.free
    rw [arrived, Option.some.injEq] at linked
    subst linked
    cases arrives.fits with
    | link different source =>
      exact harmless_link arrived (by rw [get?_put_of_ne files _ different, source])
  · rw [get?_put_of_ne files entry atName] at linked
    have before := settled inside linked
    rcases arrives.follow linkLimit parent [other] with same | missing | harmless
    · refine ⟨by rw [same]; exact before.1, fun ending left walk standing => ?_⟩
      rw [same] at walk
      have plain := before.2 ending left walk
      by_cases ended : ending = name :: directory
      · obtain ⟨entry, stands, -⟩ := standing_of_follow walk (by simp)
        subst ended
        rw [get?_put_self _ arrives.free, Option.some.injEq] at standing
        subst standing
        cases arrives.fits with
        | directory absent =>
          rw [absent] at stands
          cases stands
      · rw [get?_put_of_ne files entry ended] at standing
        exact plain standing
    · exact absurd missing before.1
    · exact harmless

end Region

end FileSystem

end KernelExport
