import ScriptBuild.Text.Cut
import ScriptBuild.Path
import ScriptBuild.Command.Line
import ScriptBuild.Text.Utf8
import ScriptBuild.FileSystem
import ScriptBuild.Text.Letters
import ScriptBuild.FileSystem.Temporary
import ScriptBuild.Dependency
import ScriptBuild.Diagnostic
import ScriptBuild.Failure
import ScriptBuild.Text.Ranges
import ScriptBuild.Text.Blank
import ScriptBuild.Text.Lines
import ScriptBuild.Script.Header
import ScriptBuild.Text.Lower
import ScriptBuild.Script.Directive
import ScriptBuild.Module
import ScriptBuild.Program
import ScriptBuild.Toolchain
import ScriptBuild.Script.Kind
import ScriptBuild.Script.Mode
import ScriptBuild.Text.Count
import ScriptBuild.Resolution.Walk
import ScriptBuild.Script.ClassName
import ScriptBuild.Script.Wrapping
import ScriptBuild.Engine
import ScriptBuild.Toml.Quoted
import ScriptBuild.Decimal
import ScriptBuild.Toml.Scalar
import ScriptBuild.Toml.Table
import ScriptBuild.Toml.Document
import ScriptBuild.Config
import ScriptBuild.Report.Row
import ScriptBuild.Report.Span
import ScriptBuild.Text.Width
import ScriptBuild.Report.Block
import ScriptBuild.Report
import ScriptBuild.Json.Numeral
import ScriptBuild.Json.Token
import ScriptBuild.Json.Value
import ScriptBuild.Module.Description
import ScriptBuild.Module.Outcome
import ScriptBuild.Toolchain.ModuleHost
import ScriptBuild.Text.Digit
import ScriptBuild.Text.Word
import ScriptBuild.Diagnostic.Listing
import ScriptBuild.Toolchain.ProgramCompiler
import ScriptBuild.Command.Execution
import ScriptBuild.Main
import ScriptBuild.Resolution.Recursion
import ScriptBuild.Proofs.Script.Items
import ScriptBuild.Proofs.Resolution.Agreement
import ScriptBuild.Proofs.FileSystem.Canonical
import ScriptBuild.Proofs.Resolution.Soundness
import ScriptBuild.Proofs.Script.Reading
import ScriptBuild.Proofs.Resolution.Coverage
import ScriptBuild.Proofs.FileSystem.Frame
import ScriptBuild.Proofs.Engine.Preservation
import ScriptBuild.Proofs.Resolution.Blame
import ScriptBuild.Proofs.Resolution.Turns
import ScriptBuild.Proofs.Diagnostic.Joined
import ScriptBuild.Proofs.Engine.CompilationUnit
import ScriptBuild.Proofs.Toolchain.Streams
import ScriptBuild.Proofs.FileSystem.Removal
import ScriptBuild.Proofs.Engine.Restoration
import ScriptBuild.Proofs.Toolchain.Verdict
import ScriptBuild.Proofs.Engine.Headers
import ScriptBuild.Proofs.FileSystem.Addition
import ScriptBuild.Proofs.Engine.Portability
import ScriptBuild.Proofs.Engine.ModuleRun
import ScriptBuild.Proofs.Engine.References
import ScriptBuild.Proofs.Resolution.Spelling
import ScriptBuild.Proofs.Engine.Execution
import ScriptBuild.Proofs.Engine.Version
import ScriptBuild.Proofs.Engine.Names
import ScriptBuild.Proofs.Report.Places
import ScriptBuild.Proofs.Report.Causes
import ScriptBuild.Proofs.Command.DefaultOutput
import ScriptBuild.Proofs.Script.Findings
import ScriptBuild.Proofs.Text.Trimming
import ScriptBuild.Proofs.Script.Written
import ScriptBuild.Proofs.Text.Encoding
import ScriptBuild.Proofs.Script.Insertion
import ScriptBuild.Proofs.Command.ExitStatus
import ScriptBuild.Proofs.Resolution.History
import ScriptBuild.Proofs.Module.EntryPoint
import ScriptBuild.Proofs.Text.Decoding
import ScriptBuild.Proofs.Script.Octets
import ScriptBuild.Proofs.Text.Cutting
import ScriptBuild.Proofs.Diagnostic.Forms
import ScriptBuild.Proofs.Diagnostic.Written
import ScriptBuild.Proofs.Script.ClassName
import ScriptBuild.Proofs.Report.Spans
import ScriptBuild.Proofs.Script.DeclaredMode
import ScriptBuild.Proofs.Module.Record
import ScriptBuild.Proofs.Toolchain.Invocation
import ScriptBuild.Proofs.Failure.Chain
