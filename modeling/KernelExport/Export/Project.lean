/-
This file exports a whole project: the reference design for its platform, a core for each kernel,
and what the design tool makes of them.

A kernel that fails on its own is reported and left out; any other failure gives up the export.
-/

import KernelExport.Export.Kernel

namespace KernelExport

/-- What an export of a project has made. -/
structure ProjectExport where
  directory : Path
  /-- The kernels that were left out. -/
  failedKernels : List String
  deriving DecidableEq, Repr

namespace Exporter

open ExportAction

/-- Exports kernels in turn, and answers the names of those that failed on their own. -/
def exportKernels (exporter : Exporter) (directory : Path) (transfer : Transfer) :
    List Kernel → ExportAction (List String)
  | [] => pure []
  | kernel :: rest => do
    match ← attempt (exporter.exportKernel kernel.name (some directory) transfer) with
    | .ok _ => exporter.exportKernels directory transfer rest
    | .error failure =>
      if failure.isConfined then do
        report [failure.diagnostic]
        let others ← exporter.exportKernels directory transfer rest
        pure (kernel.name :: others)
      else throw failure

/-- Refuses a project whose reference design has no template set. -/
def expectReference (exporter : Exporter) : ExportAction Unit := do
  let template := exporter.project.templatePath exporter.project.referenceSet
  unless (← get).files.isDirectory template do throw (.templateMissing template)

def renderReference (exporter : Exporter) (target : Path) (transfer : Transfer) :
    ExportAction Unit :=
  let descriptor := ProjectDescriptor.ofConfiguration exporter.project.configuration
  exporter.render none exporter.project.referenceSet descriptor.toValue target transfer

/-- Makes the design of the cores and the reference design. -/
def makeDesign (exporter : Exporter) (target : Path) : ExportAction Unit := do
  tell "Calling TCL script to generate Vivado IP Repository"
  exporter.runTool .repository (.batch target "create_ip_library.tcl" [])
  tell "Calling TCL script to generate ARTICo³ system in Vivado IP Integrator"
  exporter.runTool .integration
    (.batch target "export.tcl" ["-proj_name", "myARTICo3", "-proj_path", "."])

/-- Exports the reference design and all kernels, and makes the design. -/
def exportDesign (exporter : Exporter) (target : Path) (transfer : Transfer) :
    ExportAction ProjectExport := do
  exporter.renderReference target transfer
  let failedKernels ← exporter.exportKernels (target.child "pcores") transfer
    exporter.project.configuration.kernels
  exporter.makeDesign target
  pure ⟨target, failedKernels⟩

/-- Exports the project into a directory, or into the one that the project has for it. -/
def exportProject (exporter : Exporter) (directory : Option Path) (transfer : Transfer) :
    ExportAction ProjectExport := do
  exporter.checkTool
  exporter.expectReference
  tell ("Using template directory " ++ exporter.project.referenceSet)
  exporter.exportDesign (directory.getD exporter.project.exportPath) transfer

end Exporter

end KernelExport
