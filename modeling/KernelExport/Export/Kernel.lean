/-
This file exports one kernel as a core.

A kernel whose hardware is written down is rendered at once from its sources. For a kernel that
hardware is synthesized for, the declaration of its ports is read first; a workspace is rendered,
synthesis is run there, and the core is rendered from the hardware that it leaves. All of the
workspace is kept with the core, in the place of what an earlier export kept.

Nothing is written to the export directory before the core itself is rendered.
-/

import KernelExport.Diagnostic.Position
import KernelExport.Export.Basic
import KernelExport.Descriptor

namespace KernelExport.Exporter

open ExportAction

def coreSet : String := "artico3_kernel_hdl_pcore"

def synthesisSet : String := "artico3_kernel_hls_build"

/-- Where synthesis leaves hardware in a workspace. -/
def outputPath (workspace : Path) : Path :=
  ["a3_kernel", "sol", "syn", "vhdl"].foldl Path.child workspace

def part (exporter : Exporter) : String :=
  exporter.project.configuration.platform.part

/-- A way to render the core of a kernel from its descriptor. Exports take it as a parameter, so
that one can say what they do before a core is rendered and whatever comes of it. -/
abbrev CoreRenderer : Type :=
  Kernel → KernelDescriptor → (target : Path) → Transfer → ExportAction Unit

/-- Renders the core of a kernel from the template set of cores. -/
def renderCore (exporter : Exporter) : CoreRenderer := fun kernel descriptor target transfer =>
  exporter.render kernel.name coreSet descriptor.toValue target transfer

/-- Exports a kernel whose hardware is written down. -/
def exportStructural (exporter : Exporter) (core : CoreRenderer) (kernel : Kernel) (target : Path)
    (transfer : Transfer) : ExportAction Unit := do
  let source := exporter.project.sourcePath kernel
  let files ← ask source (·.listFiles source)
  core kernel (.structural kernel exporter.part source files) target transfer

/-- Where the program of a kernel lies that hardware is synthesized for. -/
def programPath (exporter : Exporter) (kernel : Kernel) : Path :=
  (exporter.project.sourcePath kernel).join (.ofText (Text.lowercase kernel.name ++ ".cpp"))

/-- The interface that the source of a kernel declares. A fault is told with its place. -/
def readInterface (kernel : Kernel) (path : Path) : ExportAction Interface := do
  let source ← ask path (·.readText path)
  match kernel.interface source with
  | .ok interface => pure interface
  | .error fault =>
    let place := fault.offset?.map fun offset =>
      let position := Position.ofOffset source offset
      (⟨path, position.line, position.column⟩ : SourcePlace)
    throw (.declaration kernel.name place fault)

/-- Describes a kernel that hardware is synthesized for, and reports where its source and its
configuration differ. -/
def describe (exporter : Exporter) (kernel : Kernel) : ExportAction KernelDescriptor := do
  let source := exporter.project.sourcePath kernel
  let files ← ask source (·.listFiles source)
  let interface ← readInterface kernel (exporter.programPath kernel)
  report interface.warnings
  pure (.synthesized kernel exporter.part source files interface)

/-- Renders the workspace that a kernel is synthesized in. -/
def renderWorkspace (exporter : Exporter) (kernel : Kernel) (descriptor : KernelDescriptor) :
    ExportAction Unit :=
  exporter.render kernel.name synthesisSet descriptor.toValue exporter.workspace .copy

/-- The descriptor with the hardware that synthesis left in the workspace. -/
def collectHardware (exporter : Exporter) (descriptor : KernelDescriptor) :
    ExportAction KernelDescriptor := do
  let output := outputPath exporter.workspace
  unless (← get).files.isDirectory output do throw (.outputMissing output)
  let hardware ← ask output (·.listFiles output)
  pure (descriptor.withHardware output hardware)

/-- Synthesizes the hardware of a kernel in the workspace, and answers the descriptor with it. -/
def synthesize (exporter : Exporter) (kernel : Kernel) (descriptor : KernelDescriptor) :
    ExportAction KernelDescriptor := do
  exporter.renderWorkspace kernel descriptor
  exporter.runTool .synthesis (.synthesis exporter.workspace)
  exporter.collectHardware descriptor

/-- Keeps all of the workspace with the core, in the place of what an earlier export kept. -/
def keepWorkspace (exporter : Exporter) (kernel : Kernel) (target : Path) :
    ExportAction Unit := do
  let kept := target |>.join (.ofText (Core.ofKernel kernel.name).directory) |>.child "hls"
  onFiles (.files kept) (FileAction.removeTree kept)
  onFiles (.files kept) (FileAction.overlay .copy exporter.workspace kept)

/-- Exports a kernel from the workspace that its hardware is synthesized in. -/
def exportFromWorkspace (exporter : Exporter) (core : CoreRenderer) (kernel : Kernel)
    (descriptor : KernelDescriptor) (target : Path) : ExportAction Unit := do
  let hardware ← exporter.synthesize kernel descriptor
  -- The workspace is about to be removed, so its files are copied and never linked.
  core kernel hardware target .copy
  exporter.keepWorkspace kernel target

/-- Exports a kernel that hardware is synthesized for. -/
def exportSynthesized (exporter : Exporter) (core : CoreRenderer) (kernel : Kernel)
    (target : Path) : ExportAction Unit := do
  let descriptor ← exporter.describe kernel
  withWorkspace exporter.workspace (exporter.exportFromWorkspace core kernel descriptor target)

def kernelNamed (exporter : Exporter) (name : String) : ExportAction Kernel :=
  match exporter.project.configuration.kernel? name with
  | some kernel => pure kernel
  | none => throw (.kernelNotFound name)

/-- Exports a kernel from what its hardware is made from. -/
def exportCore (exporter : Exporter) (core : CoreRenderer) (kernel : Kernel) (target : Path)
    (transfer : Transfer) : ExportAction Unit :=
  if kernel.source.isStructural then exporter.exportStructural core kernel target transfer
  else exporter.exportSynthesized core kernel target

/-- Exports a kernel with a way to render its core. -/
def exportKernelWith (exporter : Exporter) (core : CoreRenderer) (name : String)
    (directory : Option Path) (transfer : Transfer) : ExportAction Path := do
  let target := directory.getD (exporter.project.kernelExportPath name)
  exporter.checkTool
  let kernel ← exporter.kernelNamed name
  exporter.exportCore core kernel target transfer
  pure target

/-- Exports a kernel into a directory, or into the one that the project has for it, and answers
the directory. -/
def exportKernel (exporter : Exporter) (name : String) (directory : Option Path)
    (transfer : Transfer) : ExportAction Path :=
  exporter.exportKernelWith exporter.renderCore name directory transfer

end KernelExport.Exporter
