import Typeset.Text.Blank
import Typeset.Text.Digit
import Typeset.Text.Case
import Typeset.Text.Newline
import Typeset.Text.Utf8
import Typeset.Text.Literal
import Typeset.Number
import Typeset.Text.Split
import Typeset.Platform
import Typeset.Variables
import Typeset.Path.Home
import Typeset.FileSystem.Access
import Typeset.FileSystem.RealPath
import Typeset.Host.TargetPath
import Typeset.Shell.Words
import Typeset.Console
import Typeset.Overlay
import Typeset.Plan
import Typeset.Config.Source
import Typeset.Relay
import Typeset.Termination
import Typeset.Runner
import Typeset.Compile.Document
import Typeset.Compile.Script
import Typeset.CommandLine.Request
import Typeset.CommandLine.Help
import Typeset.CommandLine.Session
import Typeset.Shell.Reader
import Typeset.Shell.Pattern
import Typeset.Shell.Arithmetic
import Typeset.Shell.Condition
import Typeset.Shell.Machine
import Typeset.Host.Execution
import Typeset.Shell.Tool
import Typeset.Shell.Interpreter
import Typeset.Host.System
import Typeset.Host.Layout
import Typeset.Host.Description
import Typeset.Main
import Typeset.Proofs.Termination.Sweep
import Typeset.Proofs.Termination.Fate
import Typeset.Proofs.Termination.Survivors
import Typeset.Proofs.Termination.Refusal
import Typeset.Proofs.Termination.Frame
import Typeset.Proofs.Runner.Listening
import Typeset.Proofs.Runner.Interruption
import Typeset.Proofs.Runner.Delivery
import Typeset.Proofs.Config.ProbeTimeout
import Typeset.Proofs.Compile.Course
import Typeset.Proofs.Compile.Stages
import Typeset.Proofs.Compile.Faults
import Typeset.Proofs.Compile.DryRun
import Typeset.Proofs.Compile.ChildEnvironment
import Typeset.Proofs.FileSystem.NormalForm
import Typeset.Proofs.Compile.SameProgram
import Typeset.Proofs.Compile.Reports
import Typeset.Proofs.Compile.Concurrency
import Typeset.Proofs.Compile.Logging
import Typeset.Proofs.Runner.Reuse
import Typeset.Proofs.Termination.Escalation
import Typeset.Proofs.Compile.Attempts
import Typeset.Proofs.CommandLine.ExitStatus
import Typeset.Proofs.Runner.OnDemand
import Typeset.Proofs.Text.Withholding
import Typeset.Proofs.Runner.Streaming
import Typeset.Proofs.Config.Acceptance
import Typeset.Proofs.Shell.Quoting
import Typeset.Proofs.SearchPath.Entries
import Typeset.Proofs.FileSystem.EntryNames
import Typeset.Proofs.Path.Absolute
import Typeset.Proofs.Compile.DocumentWord
import Typeset.Proofs.FileSystem.Reaching
import Typeset.Proofs.FileSystem.Lexical
import Typeset.Proofs.Texmf.Location
import Typeset.Proofs.Termination.Repetition
import Typeset.Proofs.Compile.IncludeFlags
import Typeset.Proofs.Text.Lines
import Typeset.Proofs.Compile.ReportLines
import Typeset.Proofs.Config.Precedence
