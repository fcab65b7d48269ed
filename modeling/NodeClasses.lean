import NodeClasses.Text.Basic
import NodeClasses.Text.Blank
import NodeClasses.Cpp.Name
import NodeClasses.Field.Kind
import NodeClasses.Field.Basic
import NodeClasses.Family.SchemaError
import NodeClasses.Family.Variant
import NodeClasses.Family.Basic
import NodeClasses.Family.Clash
import NodeClasses.Hierarchy.Basic
import NodeClasses.Hierarchy.Header
import NodeClasses.Hierarchy.Source
import NodeClasses.CodeUnit
import NodeClasses.Streams
import NodeClasses.Store.Path
import NodeClasses.Store.Basic
import NodeClasses.Store.Locate
import NodeClasses.Store.Listing
import NodeClasses.Executable
import NodeClasses.Shell.Syntax
import NodeClasses.Shell.Reader.Basic
import NodeClasses.Shell.Reader.Word
import NodeClasses.Shell.Reader.Token
import NodeClasses.Shell.Reader.Command
import NodeClasses.Shell.Pattern
import NodeClasses.Shell.Arithmetic
import NodeClasses.Shell.Field
import NodeClasses.Shell.State
import NodeClasses.Shell.Script
import NodeClasses.Shell.Expansion
import NodeClasses.Shell.Format
import NodeClasses.Shell.Condition
import NodeClasses.Shell.Regex
import NodeClasses.Shell.Quoting
import NodeClasses.Shell.Utility.Basic
import NodeClasses.Shell.Builtin.Table
import NodeClasses.Shell.Utility.Edit
import NodeClasses.Shell.Utility.Files
import NodeClasses.Shell.Utility.Lines
import NodeClasses.Shell.Utility.Programs
import NodeClasses.Shell.Utility.Transfer
import NodeClasses.Shell.Utility.Table
import NodeClasses.Shell.Process
import NodeClasses.Shell.Run
import NodeClasses.Tool
import NodeClasses.Machine
import NodeClasses.Job
import NodeClasses.Formatter
import NodeClasses.Generation
import NodeClasses.Catalog
import NodeClasses.CommandLine
import NodeClasses.Main
import NodeClasses.Proofs.Generation.Staging
import NodeClasses.Proofs.Generation.Draft
import NodeClasses.Proofs.CodeUnit.Recovery
import NodeClasses.Proofs.Disk.Files
import NodeClasses.Proofs.Disk.Layout
import NodeClasses.Proofs.Store.Layout
import NodeClasses.Proofs.Family.Structs
import NodeClasses.Proofs.Generation.Output
import NodeClasses.Proofs.Cpp.LineForm
import NodeClasses.Proofs.Hierarchy.HeaderNames
import NodeClasses.Proofs.Hierarchy.SourceNames
import NodeClasses.Proofs.Family.Order
import NodeClasses.Proofs.Family.Growth
import NodeClasses.Proofs.CodeUnit.OneDefinition
import NodeClasses.Proofs.Family.Construction
import NodeClasses.Proofs.Store.LastSegment
import NodeClasses.Proofs.Generation.OwnHeader
import NodeClasses.Proofs.Text.Trimming
import NodeClasses.Proofs.Field.Grammar
import NodeClasses.Proofs.Field.MarkPlace
import NodeClasses.Proofs.Family.Acceptance
import NodeClasses.Proofs.Family.Scan
import NodeClasses.Proofs.Family.Refusal
import NodeClasses.Proofs.Family.FirstClash
import NodeClasses.Proofs.Family.FirstUnread
import NodeClasses.Proofs.CodeUnit.Attempts
import NodeClasses.Proofs.Generation.Formatting
import NodeClasses.Proofs.Cpp.Parameters
import NodeClasses.Proofs.Family.Arity
import NodeClasses.Proofs.Generation.Rerun
import NodeClasses.Proofs.CommandLine.Endings
import NodeClasses.Proofs.Formatter.Discovery
import NodeClasses.Proofs.Field.Classification
import NodeClasses.Proofs.Field.MarkedKind
import NodeClasses.Proofs.Field.NormalForm
import NodeClasses.Proofs.Field.SingleArgument
