import KernelExport.CommandLine.Arguments
import KernelExport.CommandLine.Run
import KernelExport.Core
import KernelExport.Descriptor
import KernelExport.Diagnostic.Basic
import KernelExport.Diagnostic.Position
import KernelExport.Diagnostic.Record
import KernelExport.Diagnostic.Sink
import KernelExport.Diagnostic.Terminal
import KernelExport.Export.Basic
import KernelExport.Export.Error
import KernelExport.Export.Kernel
import KernelExport.Export.Project
import KernelExport.FileSystem.Action
import KernelExport.FileSystem.Basic
import KernelExport.FileSystem.Error
import KernelExport.FileSystem.Listing
import KernelExport.FileSystem.Resolution
import KernelExport.FileSystem.Tree
import KernelExport.Interface.Basic
import KernelExport.Interface.Blanking
import KernelExport.Interface.Consistency
import KernelExport.Interface.Declaration
import KernelExport.Interface.Layout
import KernelExport.Interface.Port
import KernelExport.Main
import KernelExport.Path
import KernelExport.Project.Basic
import KernelExport.Project.Configuration
import KernelExport.Project.Decoding
import KernelExport.Project.Loading
import KernelExport.Project.Validation
import KernelExport.Template.Basic
import KernelExport.Template.Dictionary
import KernelExport.Template.Directory
import KernelExport.Template.Error
import KernelExport.Template.Rendering
import KernelExport.Text.Blank
import KernelExport.Text.Case
import KernelExport.Text.CaseData
import KernelExport.Text.Hexadecimal
import KernelExport.Text.Scan
import KernelExport.Toml.Document
import KernelExport.Toml.Lexeme
import KernelExport.Toml.Table
import KernelExport.Tool.Command
import KernelExport.Tool.Execution
import KernelExport.Tool.Shell
import KernelExport.Value.Basic
import KernelExport.Value.Decimal
import KernelExport.Value.Dialect
import KernelExport.Value.Json
import KernelExport.Proofs.Argument
import KernelExport.Proofs.Grammar
import KernelExport.Proofs.Layout
import KernelExport.Proofs.Confinement
import KernelExport.Proofs.ExportSteps
import KernelExport.Proofs.FailedExport
import KernelExport.Proofs.ProjectOutcome
import KernelExport.Proofs.Relayout
import KernelExport.Proofs.Arrivals
import KernelExport.Proofs.Opening
import KernelExport.Proofs.UserSources
import KernelExport.Proofs.OutputDirectory
import KernelExport.Proofs.Replacement
import KernelExport.Proofs.ExportConfinement
import KernelExport.Proofs.Placing
import KernelExport.Proofs.Deliveries
import KernelExport.Proofs.Landings
import KernelExport.Proofs.Scripts
import KernelExport.Proofs.Rerendering
import KernelExport.Proofs.Numbering
import KernelExport.Proofs.Blocks
import KernelExport.Proofs.Splicing
import KernelExport.Proofs.KnownNames
import KernelExport.Proofs.Twins
import KernelExport.Proofs.TwinRuns
import KernelExport.Proofs.Legible
import KernelExport.Proofs.Copying
import KernelExport.Proofs.Renewal
import KernelExport.Proofs.Seclusion
import KernelExport.Proofs.KeptWorkspace
import KernelExport.Proofs.Interiors
import KernelExport.Proofs.LineEndings
import KernelExport.Proofs.TerminalText
import KernelExport.Proofs.Reporting
import KernelExport.Proofs.Abreast
import KernelExport.Proofs.AbreastRuns
import KernelExport.Proofs.Reopening
import KernelExport.Proofs.WellFormed
import KernelExport.Proofs.CoreNames
import KernelExport.Proofs.Assignment
import KernelExport.Proofs.TwinCores
import KernelExport.Proofs.Separation
import KernelExport.Proofs.TwinExports
import KernelExport.Proofs.Commuting
import KernelExport.Proofs.PortNames
import KernelExport.Proofs.SegmentCode
import KernelExport.Proofs.ReadPlaces
import KernelExport.Proofs.ImportedSources
import KernelExport.Proofs.Balance
import KernelExport.Proofs.ByteOrder
import KernelExport.Proofs.CanonicalOrder
import KernelExport.Proofs.Enumeration
import KernelExport.Proofs.Mirroring
import KernelExport.Proofs.Overlaying
import KernelExport.Proofs.TreeListing
import KernelExport.Proofs.MirroredTrees
import KernelExport.Proofs.Reprinting
import KernelExport.Proofs.OutermostScope
import KernelExport.Proofs.FirstFault
import KernelExport.Proofs.TextPositions
import KernelExport.Proofs.CanonicalForm
import KernelExport.Proofs.BlankedBytes
import KernelExport.Proofs.NearestProject
