/-
This file says that exports of different kernels into one directory do not interfere.

The kernels of a checked configuration have different cores (`Configuration.core_directory_ne`), and an
export that comes to its core changes that and nothing else. So the export of one kernel comes to the
same after that of another one, and leaves the core of the other as it is. It makes no difference which
of them is exported first (`exportKernel_commute`).

The tool must keep to the directory that it runs in, and leave no links there: through a link an export
could read the core of the other kernel (`exports_interfere`).
-/

import KernelExport.Proofs.TwinExports

namespace KernelExport

open FileSystem FileAction

namespace Exporter

open ExportAction

/-! ### Cores apart -/

/-- No location lies in two cores. -/
theorem not_inCore_of_ne {files : FileSystem} {target : Path} {location : Location}
    {core other : String} (different : core ≠ other) (inCore : files.InCore target core location) :
    ¬files.InCore target other location := by
  rintro ⟨opened, site, opens, inOther⟩
  obtain ⟨others, again, opensToo, inside⟩ := inCore
  obtain ⟨rfl, rfl⟩ := opens.unique opensToo
  have same : ∀ {first second : String} {directory : Location},
      within (first :: directory) (second :: directory) = true → first = second := by
    intro first second directory inside
    have suffix := List.isSuffixOf_iff_suffix.1 inside
    exact (List.cons.inj (suffix.eq_of_length rfl)).1
  rcases within_or_within inside inOther with above | below
  · exact different (same above)
  · exact different (same below).symm

variable {exporter : Exporter} {first second : String} {target : Path} {transfer way : Transfer}
  {place : Placement} {shelf : Location} {state : ExportState}

/-- What changes in one core changes elsewhere for another one. -/
theorem elsewhere_of_inCore {files : FileSystem} {core other : String} {location : Location}
    (clear : Clear files target place core) (different : core ≠ other)
    (inCore : files.InCore target core location) :
    files.Elsewhere target place.location other location :=
  ⟨inCore.inOutput, clear.not_within inCore, not_inCore_of_ne different inCore⟩

/-! ### One export after another -/

section After

variable (setting : exporter.Setting target place shelf state.files)
  (stays : exporter.runner.StaysBelow) (reproducible : exporter.runner.Reproducible)
  (noLinks : exporter.runner.LeavesNoLinks)

include setting stays reproducible noLinks

/-- An export that comes to its core changes the core, and one that does not changes nothing. -/
theorem exportKernel_cases (provides : exporter.Provides first target transfer place shelf state) :
    let ended := (exporter.exportKernel first (some target) transfer).run state
    (exporter.ReachesCore first transfer state ∧
      DiffersIn (state.files.InCore target (Core.ofKernel first).directory)
        (state.files.opening target) ended.2.files) ∨
    (¬exporter.ReachesCore first transfer state ∧ ended.1.toOption = none ∧
      ended.2.files = state.files) := by
  intro ended
  have untouched : DiffersIn
      (state.files.Elsewhere target place.location (Core.ofKernel first).directory)
      (state.files.opening target) ({ state with files := state.files.opening target } :
        ExportState).files := .refl _
  cases twinEnds_exportKernel setting provides untouched stays reproducible noLinks with
  | stopped never none _ kept _ => exact .inr ⟨never, none, kept⟩
  | reached comes _ changes => exact .inl ⟨comes, changes.onLeft⟩

/-- After the export of another kernel, the export of a kernel comes to the same as without it. -/
theorem exportKernel_after (different : (Core.ofKernel first).directory ≠ (Core.ofKernel second).directory)
    (provides : exporter.Provides first target transfer place shelf state)
    (providesToo : exporter.Provides second target way place shelf state) :
    let one := (exporter.exportKernel first (some target) transfer).run state
    let other := (exporter.exportKernel second (some target) way).run state
    let both := (exporter.exportKernel second (some target) way).run one.2
    both.1.toOption = other.1.toOption ∧
      (exporter.ReachesCore first transfer state → exporter.ReachesCore second way state →
        ChangesAlike (state.files.InCore target (Core.ofKernel second).directory)
          (state.files.opening target) one.2.files other.2.files both.2.files) ∧
      (exporter.ReachesCore first transfer state → ¬exporter.ReachesCore second way state →
        both.2.files = one.2.files) ∧
      (¬exporter.ReachesCore first transfer state → both.2.files = other.2.files) := by
  intro one other both
  rcases exportKernel_cases setting stays reproducible noLinks provides with
    ⟨reaches, changes⟩ | ⟨never, -, kept⟩
  · have apart := changes.mono fun inCore => elsewhere_of_inCore provides.clear different inCore
    cases twinEnds_exportKernel setting providesToo apart stays reproducible noLinks with
    | stopped never none noneToo kept keptToo =>
      exact ⟨noneToo.trans none.symm, fun _ reaches => absurd reaches never, fun _ _ => keptToo,
        fun never => absurd reaches never⟩
    | reached comes same changes =>
      exact ⟨same.symm, fun _ _ => changes, fun _ never => absurd comes never,
        fun never => absurd reaches never⟩
  · have alike : Alike (fun left right => left.files = right.files)
        (exporter.exportKernel second (some target) way)
        (exporter.exportKernel second (some target) way) one.2 state :=
      alike_exportKernel_of_files kept (some target)
    exact ⟨alike.result, fun reaches => absurd reaches never, fun reaches => absurd reaches never,
      fun _ => alike.states⟩

end After

/-- Exports of different kernels commute: those of two kernels of a checked configuration, which can
each be exported alone (`Provides`), into a directory that is set apart (`Setting`). The tool changes
files only below the directory that it runs in (`StaysBelow`) and leaves no links there
(`LeavesNoLinks`), and what it comes to is told by what lies there (`Reproducible`). -/
theorem exportKernel_commute (setting : exporter.Setting target place shelf state.files)
    (stays : exporter.runner.StaysBelow) (reproducible : exporter.runner.Reproducible)
    (noLinks : exporter.runner.LeavesNoLinks)
    (checked : exporter.project.configuration.check = .ok ()) (different : first ≠ second)
    (provides : exporter.Provides first target transfer place shelf state)
    (providesToo : exporter.Provides second target way place shelf state) :
    let one := (exporter.exportKernel first (some target) transfer).run state
    let other := (exporter.exportKernel second (some target) way).run state
    let oneThenOther := (exporter.exportKernel second (some target) way).run one.2
    let otherThenOne := (exporter.exportKernel first (some target) transfer).run other.2
    (one.1 = .ok target ∧ oneThenOther.1 = .ok target ↔
      other.1 = .ok target ∧ otherThenOne.1 = .ok target) ∧
    oneThenOther.2.files = otherThenOne.2.files ∧
    (otherThenOne.1.toOption = one.1.toOption ∧ oneThenOther.1.toOption = other.1.toOption) ∧
    (one.1 = .ok target →
      ∀ location, state.files.InCore target (Core.ofKernel first).directory location →
        oneThenOther.2.files.get? location = one.2.files.get? location) := by
  intro one other oneThenOther otherThenOne
  obtain ⟨_, isFirst⟩ := provides.found
  obtain ⟨_, isSecond⟩ := providesToo.found
  have cores := Configuration.core_directory_ne checked isFirst isSecond different
  have onFirst := exportKernel_cases setting stays reproducible noLinks provides
  have onSecond := exportKernel_cases setting stays reproducible noLinks providesToo
  obtain ⟨same, both, firstOnly, notFirst⟩ :=
    exportKernel_after setting stays reproducible noLinks cores provides providesToo
  obtain ⟨sameToo, bothToo, secondOnly, notSecond⟩ :=
    exportKernel_after setting stays reproducible noLinks cores.symm providesToo provides
  have succeeds : ∀ {result another : Except ExportError Path},
      result.toOption = another.toOption → (result = .ok target ↔ another = .ok target) := by
    rintro (_ | _) (_ | _) same <;> simp_all [Except.toOption]
  refine ⟨?_, ?_, ⟨sameToo, same⟩, fun succeeded location inside => ?_⟩
  · rw [succeeds sameToo, succeeds same]
    exact And.comm
  · rcases onFirst with ⟨reaches, -⟩ | ⟨never, -, kept⟩
    · rcases onSecond with ⟨reachesToo, -⟩ | ⟨neverToo, -, -⟩
      · exact ChangesAlike.eq_of_apart (not_inCore_of_ne cores) (both reaches reachesToo)
          (bothToo reachesToo reaches)
      · exact (firstOnly reaches neverToo).trans (notSecond neverToo).symm
    · rcases onSecond with ⟨reachesToo, -⟩ | ⟨neverToo, -, keptToo⟩
      · exact (notFirst never).trans (secondOnly reachesToo never).symm
      · exact ((notFirst never).trans keptToo).trans ((notSecond neverToo).trans kept).symm
  · rcases onFirst with ⟨reaches, -⟩ | ⟨-, none, -⟩
    · rcases onSecond with ⟨reachesToo, -⟩ | ⟨neverToo, -, -⟩
      · exact (both reaches reachesToo).onRight.outside (not_inCore_of_ne cores inside)
      · rw [firstOnly reaches neverToo]
    · rw [succeeded] at none
      cases none

/-! ### A pair of kernels -/

/-- A kernel whose hardware is written down. -/
def carry : Kernel :=
  { KernelDescriptor.adder with name := "carry", source := .vhdl }

/-- The adder, which is synthesized, and the other kernel. -/
def pairProject : Project where
  root := .root
  configuration := { adderExporter.project.configuration with
    kernels := [KernelDescriptor.adder, carry] }

def pairExporter (runner : Runner) : Exporter :=
  { synthesizing with project := pairProject, runner }

/-- The files of both kernels, with a template set for their cores. -/
def pairFiles : FileSystem :=
  adderFiles
    |>.put ["src"] "a3_carry" .directory
    |>.put ["a3_carry", "src"] "vhdl" .directory
    |>.put ["vhdl", "a3_carry", "src"] "carry.vhd" (.file "entity carry".toUTF8)
    |>.put ["templates"] "artico3_kernel_hdl_pcore" .directory
    |>.put ["artico3_kernel_hdl_pcore", "templates"] coreEntry .directory
    |>.put [coreEntry, "artico3_kernel_hdl_pcore", "templates"] "<<NAME>>.txt"
      (.file "core of <<NAME>>".toUTF8)
    |>.put [coreEntry, "artico3_kernel_hdl_pcore", "templates"] "_sources" (.file ByteArray.empty)

theorem opens_pair : pairFiles.Opens outPath (pairFiles.opening outPath) ["out"] := by
  have opened : ((createDirectories outPath).run pairFiles).1 = .ok () ∧
      (pairFiles.opening outPath).follow linkLimit [] ["out"] = .ok (["out"], linkLimit) ∧
      (pairFiles.opening outPath).get? ["out"] = some .directory := by
    decide +kernel
  obtain ⟨made, walk, standing⟩ := opened
  exact .of_run (Prod.ext made rfl) walk standing

/-- Exports touch the output and the workspace. -/
theorem last_of_touches {location : Location}
    (touched : pairFiles.Touches outPath ["work"] location) :
    location.getLast? = some "work" ∨ location.getLast? = some "out" := by
  have last : ∀ {name}, within [name] location = true → location.getLast? = some name := by
    intro name inside
    obtain ⟨names, rfl⟩ := List.isSuffixOf_iff_suffix.1 inside
    exact List.getLast?_concat
  rcases touched with inWorkspace | ⟨opened, site, opens, below⟩ | ⟨missing, above, member, resolved⟩
  · exact .inl (last inWorkspace)
  · obtain ⟨-, rfl⟩ := opens_pair.unique opens
    exact .inr (last below.2)
  · have ancestors : ∀ above ∈ outPath.ancestors,
        ∀ location ∈ ((pairFiles.opening outPath).resolve above).toOption,
          location = ["out"] ∨ location = [] := by
      decide +kernel
    have known := ancestors above member location (by
      rw [opening, resolved]
      rfl)
    rcases known with rfl | rfl
    · exact .inr rfl
    · cases missing

/-- What is found in the sources and in the templates is there whatever exports touch. -/
theorem holds_pair {path : Path} {location : Location} (spells : Spells path location)
    (standing : pairFiles.get? location = some .directory)
    (apart : location.getLast? = some "src" ∨ location.getLast? = some "templates") :
    (∀ ⦃present⦄, DiffersIn (pairFiles.Touches outPath ["work"]) pairFiles present →
      present.Holds pairFiles path location) ∧
    ∀ names, ¬pairFiles.Touches outPath ["work"] (names ++ location) := by
  have untouched : ∀ names, ¬pairFiles.Touches outPath ["work"] (names ++ location) := by
    intro names touched
    have last := last_of_touches touched
    rw [List.getLast?_append] at last
    rcases apart with inside | inside <;> simp [inside] at last
  have linkless : pairFiles.linkless = true := by decide +kernel
  exact ⟨fun present differs => .of_spells spells standing
    (fun _ => unlinked_of_linkless linkless _) differs untouched, untouched⟩

theorem setting_pair (runner : Runner) :
    (pairExporter runner).Setting outPath ⟨[], "work", false, linkLimit⟩
      ["artico3_kernel_hdl_pcore", "templates"] pairFiles where
  home := rfl
  workspace present _ := placement_workspace present
  vacant := by decide +kernel
  unmentioned := {
    isName := by decide
    home := by decide +kernel
    path := by decide
    linked := fun linked => absurd linked (unlinked_of_linkless (by decide +kernel) _ _) }
  opens := by
    intro opened site opens present differs
    obtain ⟨rfl, rfl⟩ := opens_pair.unique opens
    have standing : present.get? ["out"] = some .directory := by
      rw [differs.outside (by decide), opens_pair.opensAt.directory (by decide)]
    exact opensAt_of_spells (by decide) standing
  unlinked _ _ _ := unlinked_of_linkless (by decide +kernel) _ _
  cores := {
    askable := (by decide : expectPath (pairProject.templatePath coreSet) = .ok ())
    holds := (holds_pair (by decide : Spells (pairProject.templatePath coreSet) _)
      (by decide +kernel) (.inr rfl)).1
    names := by decide +kernel
    directory := by decide +kernel }

/-- The names in a tree are known, and what they render to are names. -/
theorem namesIn_of_heads {dictionary : Dictionary} {base : FileSystem} {tree : Location}
    (names : List String)
    (heads : ∀ location ∈ base.entries.keys, within tree location = true → location ≠ tree →
      ∀ name ∈ location.head?, name ∈ names)
    (renders : ∀ name ∈ names, name ≠ TemplateAction.sourcesMarker → ∀ rendered,
      dictionary.render name = .ok rendered → IsName rendered) :
    dictionary.NamesIn base tree := by
  intro inner name rendered stands other rendering
  have member : name :: inner ++ tree ∈ base.entries.keys :=
    Std.ExtTreeMap.mem_keys.2 (base.mem_entries stands)
  have inside : within tree (name :: inner ++ tree) = true :=
    within_append (name :: inner) tree
  have longer : name :: inner ++ tree ≠ tree := fun same => by
    have length := congrArg List.length same
    rw [List.length_append, List.length_cons] at length
    omega
  exact renders name (heads _ member inside longer name rfl) other rendered rendering

theorem render_named (descriptor : KernelDescriptor) :
    (Dictionary.mk descriptor.fields).render "<<NAME>>.txt" = .ok (descriptor.name ++ ".txt") := by
  have read : Template.read "<<NAME>>.txt" = .ok (.value "NAME" (.text ".txt" .done)) := by
    decide +kernel
  have known : Template.lookup? [descriptor.fields] "NAME" = some (.text descriptor.name) := rfl
  rw [Dictionary.render, Template.renderText, read]
  simp only [Template.render, Template.valueText, known, Value.scalarText?, bind, Except.bind, pure,
    Except.pure, String.append_empty]

theorem provides_pair (runner : Runner) {name : String} {transfer : Transfer}
    (member : name ∈ ["adder", "carry"]) :
    (pairExporter runner).Provides name outPath transfer ⟨[], "work", false, linkLimit⟩
      ["artico3_kernel_hdl_pcore", "templates"] { files := pairFiles } where
  found := by
    have found : ∀ name ∈ ["adder", "carry"],
        (pairProject.configuration.kernel? name).isSome = true := by decide
    exact Option.isSome_iff_exists.1 (found name member)
  isName := by
    have isName : ∀ name ∈ ["adder", "carry"], IsName name := by decide
    exact isName name member
  clear := by
    have clear : ∀ name ∈ ["adder", "carry"],
        within [(Core.ofKernel name).directory, "out"] ["work"] = false ∧
          within ["work"] [(Core.ofKernel name).directory, "out"] = false := by decide +kernel
    intro opened site opens
    obtain ⟨-, rfl⟩ := opens_pair.unique opens
    exact clear name member
  sources := by
    have spells : ∀ name ∈ ["adder", "carry"],
        ∀ kernel ∈ pairProject.configuration.kernel? name,
          Spells (pairProject.sourcePath kernel)
            [kernel.source.word, "a3_" ++ name, "src"] ∧
          pairFiles.get? [kernel.source.word, "a3_" ++ name, "src"] = some .directory := by
      decide +kernel
    intro kernel finds
    obtain ⟨spelled, standing⟩ := spells name member kernel finds.kernel
    obtain ⟨holds, apart⟩ := holds_pair spelled standing (.inl rfl)
    exact .inl ⟨pairFiles, _, holds, apart⟩
  build := by
    intro kernel descriptor described _ _ _
    have spells : Spells (pairProject.templatePath synthesisSet)
      ["artico3_kernel_hls_build", "templates"] := by decide
    obtain ⟨holds, -⟩ := holds_pair spells (by decide +kernel) (.inr rfl)
    refine .inl ⟨pairFiles, _, holds, namesIn_of_heads ["csynth.tcl"] (by decide +kernel) ?_⟩
    intro name member _ rendered rendering
    rw [List.mem_singleton.1 member, render_csynth] at rendering
    obtain rfl := Except.ok.inj rendering
    decide
  core := by
    intro kernel descriptor way present comes
    obtain ⟨-, named⟩ := comes.named
    have cores : ∀ name ∈ ["adder", "carry"], IsName (Core.ofKernel name).directory ∧
      IsName (Text.lowercase name ++ ".txt") := by decide +kernel
    have heads : ∀ location ∈ pairFiles.entries.keys,
        within ["artico3_kernel_hdl_pcore", "templates"] location = true →
        location ≠ ["artico3_kernel_hdl_pcore", "templates"] →
        ∀ name ∈ location.head?, name ∈ [coreEntry, "<<NAME>>.txt", "_sources"] := by
      decide +kernel
    show Dictionary.NamesIn _ pairFiles _
    refine namesIn_of_heads _ heads fun template isTemplate other rendered rendering => ?_
    rcases List.mem_cons.1 isTemplate with rfl | further
    · rw [render_coreEntry named] at rendering
      obtain rfl := Except.ok.inj rendering
      exact (cores name member).1
    · rcases List.mem_cons.1 further with rfl | last
      · rw [render_named, named] at rendering
        obtain rfl := Except.ok.inj rendering
        exact (cores name member).2
      · exact absurd (List.mem_singleton.1 last) other

/-- Where two file systems are the same they are so after an entry is put there. -/
theorem put_congr {files other : FileSystem} {site directory : Location} {name : String}
    {entry : Entry} (inside : within site directory = true)
    (same : ∀ {location}, within site location = true → other.get? location = files.get? location)
    {location : Location} (here : within site location = true) :
    (other.put directory name entry).get? location =
      (files.put directory name entry).get? location := by
  have free : other.Free directory name ↔ files.Free directory name := by
    have below := (below_cons name inside).2
    rw [Free, Free, same inside, same below]
  rw [get?_put, get?_put, same here]
  simp only [free]

theorem unlinked_put {files : FileSystem} {directory location : Location} {name : String}
    {entry : Entry} (plain : ∀ target, entry ≠ .link target)
    (unlinked : ∀ target, files.get? location ≠ some (.link target)) (target : Path) :
    (files.put directory name entry).get? location ≠ some (.link target) := by
  rw [get?_put]
  split
  · exact fun linked => plain target (Option.some.inj linked)
  · exact unlinked target

theorem run_leave {hardware : Entry} {command : Command} {files : FileSystem} {directory : Location}
    (leads : files.resolve command.directory = .ok directory) :
    (leave hardware command).run files = (.ok (), withHardware hardware directory files) := by
  rw [leave, run_modify, leads]

theorem withHardware_congr {hardware : Entry} {files other : FileSystem} {directory : Location}
    (same : ∀ {location}, within directory location = true →
      other.get? location = files.get? location)
    {location : Location} (here : within directory location = true) :
    (withHardware hardware directory other).get? location =
      (withHardware hardware directory files).get? location := by
  have inside : ∀ names, within directory (names ++ directory) = true := fun names =>
    within_append names directory
  exact put_congr (inside ["vhdl", "syn", "sol", "a3_kernel"])
    (put_congr (inside ["syn", "sol", "a3_kernel"]) (put_congr (inside ["sol", "a3_kernel"])
      (put_congr (inside ["a3_kernel"]) (put_congr (inside []) same)))) here

theorem reproducible_leave (hardware : Entry) : (leave hardware).Reproducible := by
  intro command first second directory leads leadsToo same
  rw [run_leave leads, run_leave leadsToo]
  exact ⟨rfl, withHardware_congr same⟩

theorem unlinked_withHardware {hardware : Entry} {files : FileSystem} {directory location : Location}
    (plain : ∀ target, hardware ≠ .link target)
    (unlinked : ∀ target, files.get? location ≠ some (.link target)) (target : Path) :
    (withHardware hardware directory files).get? location ≠ some (.link target) := by
  have directories : ∀ target, Entry.directory ≠ .link target := by simp
  exact unlinked_put plain (unlinked_put directories (unlinked_put directories
    (unlinked_put directories (unlinked_put directories unlinked)))) target

theorem leavesNoLinks_leaveHardware : leaveHardware.LeavesNoLinks := by
  intro command files directory leads unlinked location inside
  rw [leaveHardware, run_leave leads]
  exact unlinked_withHardware (by simp) (unlinked inside)

/-- The exports of both kernels commute. -/
theorem exportKernel_commute_pair :
    let state : ExportState := { files := pairFiles }
    let exporter := pairExporter leaveHardware
    let adder := (exporter.exportKernel "adder" (some outPath) .copy).run state
    let carry := (exporter.exportKernel "carry" (some outPath) .link).run state
    let adderThenCarry := (exporter.exportKernel "carry" (some outPath) .link).run adder.2
    let carryThenAdder := (exporter.exportKernel "adder" (some outPath) .copy).run carry.2
    (exporter.project.configuration.check = .ok () ∧
      exporter.runner.StaysBelow ∧ exporter.runner.Reproducible ∧ exporter.runner.LeavesNoLinks ∧
      exporter.Setting outPath ⟨[], "work", false, linkLimit⟩
        ["artico3_kernel_hdl_pcore", "templates"] pairFiles ∧
      exporter.Provides "adder" outPath .copy ⟨[], "work", false, linkLimit⟩
        ["artico3_kernel_hdl_pcore", "templates"] state ∧
      exporter.Provides "carry" outPath .link ⟨[], "work", false, linkLimit⟩
        ["artico3_kernel_hdl_pcore", "templates"] state) ∧
    adder.1 = .ok outPath ∧ adderThenCarry.1 = .ok outPath ∧
      carry.1 = .ok outPath ∧ carryThenAdder.1 = .ok outPath ∧
      adderThenCarry.2.files = carryThenAdder.2.files ∧
      adderThenCarry.2.files.get? ["adder.txt", "a3_adder_v1_00_a", "out"] =
        some (.file "core of adder".toUTF8) := by
  intro state exporter adder carry adderThenCarry carryThenAdder
  have checked : exporter.project.configuration.check = .ok () := by decide +kernel
  have member : "adder" ∈ ["adder", "carry"] ∧ "carry" ∈ ["adder", "carry"] := by decide
  have providesAdder : exporter.Provides "adder" outPath .copy ⟨[], "work", false, linkLimit⟩
    ["artico3_kernel_hdl_pcore", "templates"] state := provides_pair leaveHardware member.1
  have providesCarry : exporter.Provides "carry" outPath .link ⟨[], "work", false, linkLimit⟩
    ["artico3_kernel_hdl_pcore", "templates"] state := provides_pair leaveHardware member.2
  obtain ⟨succeeds, commute, -, kept⟩ := exportKernel_commute (setting_pair leaveHardware)
    (staysBelow_leave _) (reproducible_leave _) leavesNoLinks_leaveHardware checked (by decide)
    providesAdder providesCarry
  obtain ⟨ran, ranToo, arrived⟩ : adder.1 = .ok outPath ∧ adderThenCarry.1 = .ok outPath ∧
      adder.2.files.get? ["adder.txt", "a3_adder_v1_00_a", "out"] =
        some (.file "core of adder".toUTF8) := by
    decide +kernel
  obtain ⟨also, alsoToo⟩ := succeeds.1 ⟨ran, ranToo⟩
  have inCore : pairFiles.InCore outPath (Core.ofKernel "adder").directory
      ["adder.txt", "a3_adder_v1_00_a", "out"] := by
    refine ⟨_, _, opens_pair, ?_⟩
    decide +kernel
  exact ⟨⟨checked, staysBelow_leave _, reproducible_leave _, leavesNoLinks_leaveHardware,
    setting_pair leaveHardware, providesAdder, providesCarry⟩, ran, ranToo, also, alsoToo, commute,
    (kept ran _ inCore).trans arrived⟩

/-! ### Tools that get in the way of other cores -/

theorem stands_of_resolve {files : FileSystem} {path : Path} {location : Location}
    (leads : files.resolve path = .ok location) : files.get? location ≠ none :=
  (resolve_eq_ok_iff.1 leads).2.2

/-- An entry that is put anywhere comes to the same where two file systems are the same. -/
theorem put_congr_of_stands {files other : FileSystem} {site directory : Location} {name : String}
    {entry : Entry} (stands : files.get? site ≠ none)
    (same : ∀ {location}, within site location = true → other.get? location = files.get? location)
    {location : Location} (here : within site location = true) :
    (other.put directory name entry).get? location =
      (files.put directory name entry).get? location := by
  by_cases inside : within site directory = true
  · exact put_congr inside same here
  by_cases atSite : site = name :: directory
  · subst atSite
    have standsToo : other.get? (name :: directory) ≠ none := by rwa [same (within_self _)]
    have free : other.Free directory name ↔ files.Free directory name := by
      rw [Free, Free, same (within_self _), files.get?_parent stands, other.get?_parent standsToo]
    rw [get?_put, get?_put, same here]
    simp only [free]
  · have elsewhere : location ≠ name :: directory := by
      rintro rfl
      rcases List.suffix_cons_iff.1 (List.isSuffixOf_iff_suffix.1 here) with same | below
      · exact atSite same
      · exact inside (List.isSuffixOf_iff_suffix.2 below)
    rw [get?_put_of_ne _ _ elsewhere, get?_put_of_ne _ _ elsewhere, same here]

/-- A tool that leaves hardware, and writes the same to a file of the other core. -/
def leaveAbroad : Runner := fun command => modify fun files =>
  match files.resolve command.directory with
  | .error _ => files
  | .ok workspace =>
    withHardware (.file "entity adder".toUTF8) workspace
      (files.put ["a3_carry_v1_00_a", "out"] "carry.vhd" (.file "entity adder".toUTF8))

theorem run_leaveAbroad {command : Command} {files : FileSystem} {directory : Location}
    (leads : files.resolve command.directory = .ok directory) :
    (leaveAbroad command).run files = (.ok (), withHardware (.file "entity adder".toUTF8) directory
      (files.put ["a3_carry_v1_00_a", "out"] "carry.vhd" (.file "entity adder".toUTF8))) := by
  rw [leaveAbroad, run_modify, leads]

theorem reproducible_leaveAbroad : leaveAbroad.Reproducible := by
  intro command first second directory leads leadsToo same
  rw [run_leaveAbroad leads, run_leaveAbroad leadsToo]
  exact ⟨rfl, withHardware_congr (put_congr_of_stands (stands_of_resolve leads) same)⟩

theorem leavesNoLinks_leaveAbroad : leaveAbroad.LeavesNoLinks := by
  intro command files directory leads unlinked location inside
  rw [run_leaveAbroad leads]
  exact unlinked_withHardware (by simp) (unlinked_put (by simp) (unlinked inside))

/-- A tool that leaves a link to a file of the other core in the place of hardware. -/
def leaveLink : Runner :=
  leave (.link (.ofText "/out/a3_carry_v1_00_a/carry.vhd"))

/-- Exports can get in each other's way although what the tool comes to is told by what lies below the
directory that it runs in. If it leaves a link there, that leads to something after the other export
only, so the order decides whether the export succeeds. If it writes to other places, the export
can change the core of the other kernel. -/
theorem exports_interfere :
    let state : ExportState := { files := pairFiles }
    let linking := pairExporter leaveLink
    let abroad := pairExporter leaveAbroad
    let carry := fun exporter : Exporter =>
      (exporter.exportKernel "carry" (some outPath) .copy).run state
    let carryThenAdder := fun exporter : Exporter =>
      (exporter.exportKernel "adder" (some outPath) .copy).run (carry exporter).2
    (∀ exporter ∈ [linking, abroad], exporter.project.configuration.check = .ok () ∧
      exporter.runner.Reproducible ∧
      exporter.Setting outPath ⟨[], "work", false, linkLimit⟩
        ["artico3_kernel_hdl_pcore", "templates"] pairFiles ∧
      (∀ name ∈ ["adder", "carry"],
        exporter.Provides name outPath .copy ⟨[], "work", false, linkLimit⟩
          ["artico3_kernel_hdl_pcore", "templates"] state) ∧
      (carry exporter).1 = .ok outPath ∧ (carryThenAdder exporter).1 = .ok outPath) ∧
    (leaveLink.StaysBelow ∧
      ((linking.exportKernel "adder" (some outPath) .copy).run state).1 ≠ .ok outPath) ∧
    (leaveAbroad.LeavesNoLinks ∧
      (carry abroad).2.files.get? ["carry.vhd", "a3_carry_v1_00_a", "out"] =
        some (.file "entity carry".toUTF8) ∧
      (carryThenAdder abroad).2.files.get? ["carry.vhd", "a3_carry_v1_00_a", "out"] =
        some (.file "entity adder".toUTF8)) := by
  intro state linking abroad carry carryThenAdder
  obtain ⟨checked, ranCarry, ranBoth, refused⟩ : linking.project.configuration.check = .ok () ∧
      (carry linking).1 = .ok outPath ∧ (carryThenAdder linking).1 = .ok outPath ∧
      ((linking.exportKernel "adder" (some outPath) .copy).run state).1 ≠ .ok outPath := by
    decide +kernel
  obtain ⟨ranCarryToo, ranBothToo, before, after⟩ :
      (carry abroad).1 = .ok outPath ∧ (carryThenAdder abroad).1 = .ok outPath ∧
      (carry abroad).2.files.get? ["carry.vhd", "a3_carry_v1_00_a", "out"] =
        some (.file "entity carry".toUTF8) ∧
      (carryThenAdder abroad).2.files.get? ["carry.vhd", "a3_carry_v1_00_a", "out"] =
        some (.file "entity adder".toUTF8) := by
    decide +kernel
  refine ⟨?_, ⟨staysBelow_leave _, refused⟩, leavesNoLinks_leaveAbroad, before, after⟩
  rw [List.forall_mem_cons, List.forall_mem_singleton]
  exact ⟨⟨checked, reproducible_leave _, setting_pair _, fun _ => provides_pair _, ranCarry, ranBoth⟩,
    checked, reproducible_leaveAbroad, setting_pair _, fun _ => provides_pair _, ranCarryToo,
    ranBothToo⟩

end Exporter

end KernelExport
