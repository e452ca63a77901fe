import CompilerRelay.About
import CompilerRelay.CommandLine.Basic
import CompilerRelay.CommandLine.Parameter
import CompilerRelay.CommandLine.Problem
import CompilerRelay.Compiler.Child
import CompilerRelay.Compiler.Input
import CompilerRelay.Compiler.Output
import CompilerRelay.Editor.Capability
import CompilerRelay.Editor.Diagnostic
import CompilerRelay.Editor.Item
import CompilerRelay.Editor.Range
import CompilerRelay.Editor.Request
import CompilerRelay.Endpoint
import CompilerRelay.EventLoop
import CompilerRelay.Failure
import CompilerRelay.Inbox
import CompilerRelay.Job
import CompilerRelay.JobQueue
import CompilerRelay.Json.Check
import CompilerRelay.Json.Decoder
import CompilerRelay.Json.Form
import CompilerRelay.Json.Reader
import CompilerRelay.Json.Render
import CompilerRelay.Json.Value
import CompilerRelay.Ledger
import CompilerRelay.Log
import CompilerRelay.Main
import CompilerRelay.Message
import CompilerRelay.Notice
import CompilerRelay.Number.Binary64
import CompilerRelay.Number.Shortest
import CompilerRelay.Number.Word
import CompilerRelay.Outcome
import CompilerRelay.Phase
import CompilerRelay.Proofs.Compiler.Corruption
import CompilerRelay.Proofs.Compiler.FailedWrite
import CompilerRelay.Proofs.Compiler.Feeding
import CompilerRelay.Proofs.Compiler.Input
import CompilerRelay.Proofs.Compiler.Output
import CompilerRelay.Proofs.Compiler.Provenance
import CompilerRelay.Proofs.EventLoop
import CompilerRelay.Proofs.Inbox
import CompilerRelay.Proofs.Job
import CompilerRelay.Proofs.JobQueue
import CompilerRelay.Proofs.JobQueue.Accounts
import CompilerRelay.Proofs.JobQueue.Coalesce
import CompilerRelay.Proofs.JobQueue.Latest
import CompilerRelay.Proofs.JobQueue.Representation
import CompilerRelay.Proofs.JobQueue.Telling
import CompilerRelay.Proofs.JobQueue.Waiterless
import CompilerRelay.Proofs.Json.Following
import CompilerRelay.Proofs.Json.Form
import CompilerRelay.Proofs.Json.Held
import CompilerRelay.Proofs.Json.Members
import CompilerRelay.Proofs.Json.Quotation
import CompilerRelay.Proofs.Json.Quoting
import CompilerRelay.Proofs.Json.Reading
import CompilerRelay.Proofs.Json.Spelling
import CompilerRelay.Proofs.Ledger
import CompilerRelay.Proofs.Ledger.Retraction
import CompilerRelay.Proofs.Message
import CompilerRelay.Proofs.Message.Identifier
import CompilerRelay.Proofs.Message.Quotation
import CompilerRelay.Proofs.Report
import CompilerRelay.Proofs.Service
import CompilerRelay.Proofs.Service.Acceptance
import CompilerRelay.Proofs.Service.Documents
import CompilerRelay.Proofs.Settings
import CompilerRelay.Proofs.Settings.Absent
import CompilerRelay.Proofs.Speech
import CompilerRelay.Proofs.Supervisor.Alarms
import CompilerRelay.Proofs.Supervisor.Announcements
import CompilerRelay.Proofs.Supervisor.Answer
import CompilerRelay.Proofs.Supervisor.Cancellation
import CompilerRelay.Proofs.Supervisor.Carriage
import CompilerRelay.Proofs.Supervisor.Change
import CompilerRelay.Proofs.Supervisor.Conservation
import CompilerRelay.Proofs.Supervisor.Custody
import CompilerRelay.Proofs.Supervisor.Desk
import CompilerRelay.Proofs.Supervisor.Dispatch
import CompilerRelay.Proofs.Supervisor.History
import CompilerRelay.Proofs.Supervisor.Inert
import CompilerRelay.Proofs.Supervisor.Labels
import CompilerRelay.Proofs.Supervisor.Markers
import CompilerRelay.Proofs.Supervisor.Moment
import CompilerRelay.Proofs.Supervisor.Order
import CompilerRelay.Proofs.Supervisor.Outcomes
import CompilerRelay.Proofs.Supervisor.Redraw
import CompilerRelay.Proofs.Supervisor.Replacement
import CompilerRelay.Proofs.Supervisor.Step
import CompilerRelay.Proofs.Supervisor.Telling
import CompilerRelay.Proofs.Supervisor.Waiters
import CompilerRelay.Rehearsal
import CompilerRelay.Reply
import CompilerRelay.Report
import CompilerRelay.Rpc.Connection
import CompilerRelay.Rpc.Frame
import CompilerRelay.Rpc.Message
import CompilerRelay.Server.Basic
import CompilerRelay.Server.Params
import CompilerRelay.Session
import CompilerRelay.Settings
import CompilerRelay.Supervisor.Basic
import CompilerRelay.Supervisor.Event
import CompilerRelay.Text.Blank
import CompilerRelay.Text.CharTable
import CompilerRelay.Text.Composed
import CompilerRelay.Text.Composed.CombiningClass
import CompilerRelay.Text.Composed.Decomposition
import CompilerRelay.Text.Quoted
import CompilerRelay.Text.Similarity
import CompilerRelay.Text.Unprintable
import CompilerRelay.Text.Utf8
import CompilerRelay.Toolbox.Catalog
import CompilerRelay.Toolbox.CharSet
import CompilerRelay.Toolbox.Escape
import CompilerRelay.Toolbox.FileTree
import CompilerRelay.Toolbox.Filter
import CompilerRelay.Toolbox.Format
import CompilerRelay.Toolbox.Glob
import CompilerRelay.Toolbox.LineEditor
import CompilerRelay.Toolbox.LineEditor.Reader
import CompilerRelay.Toolbox.Program
import CompilerRelay.Toolbox.Regex
import CompilerRelay.Toolbox.Regex.Reader
import CompilerRelay.Toolbox.Shell.Arithmetic
import CompilerRelay.Toolbox.Shell.Builtin
import CompilerRelay.Toolbox.Shell.Condition
import CompilerRelay.Toolbox.Shell.Control
import CompilerRelay.Toolbox.Shell.Expansion
import CompilerRelay.Toolbox.Shell.Input
import CompilerRelay.Toolbox.Shell.Option
import CompilerRelay.Toolbox.Shell.Reader
import CompilerRelay.Toolbox.Shell.Redirection
import CompilerRelay.Toolbox.Shell.Run
import CompilerRelay.Toolbox.Shell.State
import CompilerRelay.Toolbox.Shell.Syntax
import CompilerRelay.Uri.Basic
import CompilerRelay.Uri.Domain
import CompilerRelay.Uri.Domain.Direction
import CompilerRelay.Uri.Domain.Joining
import CompilerRelay.Uri.Domain.Mapping
import CompilerRelay.Uri.FilePath
import CompilerRelay.Uri.Host
import CompilerRelay.Uri.Percent
import CompilerRelay.Uri.Punycode
import CompilerRelay.Wire
