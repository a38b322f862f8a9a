import ServerLink.CommandLine.Fault
import ServerLink.CommandLine.Read
import ServerLink.CommandLine.Switch
import ServerLink.Config
import ServerLink.Connection.Basic
import ServerLink.Connection.Document
import ServerLink.Connection.Move
import ServerLink.Connection.Start
import ServerLink.Connection.Stop
import ServerLink.Duration
import ServerLink.Editor.Capabilities
import ServerLink.Editor.Client
import ServerLink.Editor.Dialogue
import ServerLink.Editor.ServerCalls
import ServerLink.Editor.Visit
import ServerLink.Environment.Command
import ServerLink.Environment.Context
import ServerLink.Environment.Provider
import ServerLink.Environment.Registry
import ServerLink.Failure.Basic
import ServerLink.Failure.Link
import ServerLink.Failure.Named
import ServerLink.Failure.System
import ServerLink.Failure.Wire
import ServerLink.Files
import ServerLink.Frame
import ServerLink.Glob
import ServerLink.Host
import ServerLink.Json.Reader
import ServerLink.Json.Shape
import ServerLink.Json.Value
import ServerLink.Json.Writer
import ServerLink.Lifecycle.Manager
import ServerLink.Log
import ServerLink.Logging.Config
import ServerLink.Logging.Filter
import ServerLink.Logging.Sink
import ServerLink.Main
import ServerLink.Number.Binary
import ServerLink.Number.Shortest
import ServerLink.Path
import ServerLink.Process.Machine
import ServerLink.Process.Pipe
import ServerLink.Process.Service
import ServerLink.Process.State
import ServerLink.Process.Supervisor
import ServerLink.Process.Voice
import ServerLink.Proofs.Config.Draft
import ServerLink.Proofs.Connection.Abides
import ServerLink.Proofs.Connection.Answers
import ServerLink.Proofs.Connection.Conversation
import ServerLink.Proofs.Connection.Documents
import ServerLink.Proofs.Connection.Farewell
import ServerLink.Proofs.Connection.Folder
import ServerLink.Proofs.Connection.Life
import ServerLink.Proofs.Connection.Notices
import ServerLink.Proofs.Connection.Progress
import ServerLink.Proofs.Connection.Retries
import ServerLink.Proofs.Connection.Running
import ServerLink.Proofs.Connection.SingleUse
import ServerLink.Proofs.Connection.Sound
import ServerLink.Proofs.Connection.Wire
import ServerLink.Proofs.Connection.Workspace
import ServerLink.Proofs.Editor.Dialogue
import ServerLink.Proofs.Editor.Discipline
import ServerLink.Proofs.Environment.Search
import ServerLink.Proofs.Environment.Sibling
import ServerLink.Proofs.Environment.Snapshot
import ServerLink.Proofs.Files.Walk
import ServerLink.Proofs.Frame.Decode
import ServerLink.Proofs.Frame.Grammar
import ServerLink.Proofs.Frame.Header
import ServerLink.Proofs.Frame.Prefix
import ServerLink.Proofs.Glob.Ending
import ServerLink.Proofs.Glob.Meaning
import ServerLink.Proofs.History
import ServerLink.Proofs.Json.Number
import ServerLink.Proofs.Json.Order
import ServerLink.Proofs.Json.Record
import ServerLink.Proofs.Json.RoundTrip
import ServerLink.Proofs.Json.Strings
import ServerLink.Proofs.Lifecycle.Accounts
import ServerLink.Proofs.Logging.Mark
import ServerLink.Proofs.Lookup
import ServerLink.Proofs.Path.Absolute
import ServerLink.Proofs.Path.Components
import ServerLink.Proofs.Path.Name
import ServerLink.Proofs.Path.Parent
import ServerLink.Proofs.Process.Carriage
import ServerLink.Proofs.Process.Ends
import ServerLink.Proofs.Process.Hearing
import ServerLink.Proofs.Process.Listening
import ServerLink.Proofs.Process.Steps
import ServerLink.Proofs.Process.Succession
import ServerLink.Proofs.Rpc.Arrival
import ServerLink.Proofs.Rpc.Callers
import ServerLink.Proofs.Rpc.Classify
import ServerLink.Proofs.Rpc.Correlation
import ServerLink.Proofs.Rpc.Dispatch
import ServerLink.Proofs.Rpc.Entries
import ServerLink.Proofs.Rpc.Flush
import ServerLink.Proofs.Rpc.Growth
import ServerLink.Proofs.Rpc.History
import ServerLink.Proofs.Rpc.Moves
import ServerLink.Proofs.Rpc.Queue
import ServerLink.Proofs.Rpc.Release
import ServerLink.Proofs.Rpc.Reread
import ServerLink.Proofs.Rpc.Signal
import ServerLink.Proofs.Rpc.Turns
import ServerLink.Proofs.Text.Blank
import ServerLink.Proofs.Text.Decimal
import ServerLink.Proofs.Text.Lossy
import ServerLink.Proofs.Text.Utf8
import ServerLink.Proofs.Transport.Chunking
import ServerLink.Proofs.Transport.Reception
import ServerLink.Proofs.Transport.Refinement
import ServerLink.Proofs.Transport.RoundTrip
import ServerLink.Proofs.Url.Files
import ServerLink.Proofs.Url.Folder
import ServerLink.Proofs.Watch.Batch
import ServerLink.Proofs.Watch.Diff
import ServerLink.Proofs.Watch.Events
import ServerLink.Proofs.Watch.Scan
import ServerLink.Rehearsal.Activations
import ServerLink.Rehearsal.Bench
import ServerLink.Rehearsal.Journal
import ServerLink.Rehearsal.LogTrial
import ServerLink.Rehearsal.Program
import ServerLink.Rehearsal.Run
import ServerLink.Rehearsal.Scene
import ServerLink.Rehearsal.Server
import ServerLink.Rehearsal.Shell
import ServerLink.Rehearsal.Site
import ServerLink.Rehearsal.Watching
import ServerLink.Rpc.Exchange
import ServerLink.Rpc.Message
import ServerLink.Rpc.Session
import ServerLink.Rpc.World
import ServerLink.Text.Blank
import ServerLink.Text.Decimal
import ServerLink.Text.Quoted
import ServerLink.Text.Similar
import ServerLink.Text.Unprintable
import ServerLink.Text.Utf8
import ServerLink.Transport.Framed
import ServerLink.Transport.Scripted
import ServerLink.Uri
import ServerLink.Url
import ServerLink.Url.Escape
import ServerLink.Url.Host
import ServerLink.Url.Punycode
import ServerLink.Watch
