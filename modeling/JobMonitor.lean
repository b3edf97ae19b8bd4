import JobMonitor.Channel.Client
import JobMonitor.Channel.Ends
import JobMonitor.Channel.Error
import JobMonitor.Channel.Frame
import JobMonitor.Channel.Framer
import JobMonitor.Channel.Lock
import JobMonitor.Channel.Store
import JobMonitor.Command.Basic
import JobMonitor.Command.Failure
import JobMonitor.Command.Line
import JobMonitor.Command.Run
import JobMonitor.Command.Usage
import JobMonitor.Config.Basic
import JobMonitor.Config.Coercion
import JobMonitor.Config.KeyPath
import JobMonitor.Config.Load
import JobMonitor.Config.Setting
import JobMonitor.Config.Variable
import JobMonitor.Export.Delivery
import JobMonitor.Export.Exporters
import JobMonitor.Export.Record
import JobMonitor.Files.Error
import JobMonitor.Files.Host
import JobMonitor.Files.Path
import JobMonitor.Files.Tree
import JobMonitor.Ingest.Intake
import JobMonitor.Ingest.Listener
import JobMonitor.Ingest.Options
import JobMonitor.Job.Admission
import JobMonitor.Job.CreationTime
import JobMonitor.Job.Entry
import JobMonitor.Job.EntryReader
import JobMonitor.Job.LogFields
import JobMonitor.Job.RecordReader
import JobMonitor.Job.Submission
import JobMonitor.Json.Lexical
import JobMonitor.Json.Printer
import JobMonitor.Json.Reader
import JobMonitor.Json.Typed
import JobMonitor.Json.Value
import JobMonitor.Launch.Course
import JobMonitor.Launch.Ending
import JobMonitor.Launch.Job
import JobMonitor.Log.Filter
import JobMonitor.Log.Line
import JobMonitor.Log.Pattern
import JobMonitor.Log.Setup
import JobMonitor.Main
import JobMonitor.Monitor.Basic
import JobMonitor.Number.Binary64
import JobMonitor.Number.Decimal
import JobMonitor.Number.FloatText
import JobMonitor.Number.Shortest
import JobMonitor.Proofs.Channel.Calls
import JobMonitor.Proofs.Channel.Cuts
import JobMonitor.Proofs.Channel.Delivery
import JobMonitor.Proofs.Channel.Discards
import JobMonitor.Proofs.Channel.Encoding
import JobMonitor.Proofs.Channel.Holders
import JobMonitor.Proofs.Channel.Line
import JobMonitor.Proofs.Channel.Lock
import JobMonitor.Proofs.Channel.Messages
import JobMonitor.Proofs.Channel.Pipe
import JobMonitor.Proofs.Channel.Reading
import JobMonitor.Proofs.Channel.Submitting
import JobMonitor.Proofs.Export.Calls
import JobMonitor.Proofs.Export.Delivery
import JobMonitor.Proofs.Export.Journal
import JobMonitor.Proofs.Export.Run
import JobMonitor.Proofs.Files.Host
import JobMonitor.Proofs.Files.Locks
import JobMonitor.Proofs.Files.Names
import JobMonitor.Proofs.Ingest.Accounting
import JobMonitor.Proofs.Ingest.Channel
import JobMonitor.Proofs.Ingest.Duplicates
import JobMonitor.Proofs.Ingest.Intake
import JobMonitor.Proofs.Ingest.Locality
import JobMonitor.Proofs.Ingest.Producers
import JobMonitor.Proofs.Ingest.Run
import JobMonitor.Proofs.Job.Admission
import JobMonitor.Proofs.Job.Changes
import JobMonitor.Proofs.Job.CreationTime
import JobMonitor.Proofs.Job.Decoding
import JobMonitor.Proofs.Job.Direct
import JobMonitor.Proofs.Job.Entry
import JobMonitor.Proofs.Job.FirstOccurrences
import JobMonitor.Proofs.Job.Record
import JobMonitor.Proofs.Job.RoundTrip
import JobMonitor.Proofs.Job.Torn
import JobMonitor.Proofs.Job.Verdict
import JobMonitor.Proofs.Json.Grammar
import JobMonitor.Proofs.Json.Members
import JobMonitor.Proofs.Json.NumberReading
import JobMonitor.Proofs.Json.Numbers
import JobMonitor.Proofs.Json.Order
import JobMonitor.Proofs.Json.Sequences
import JobMonitor.Proofs.Json.Settled
import JobMonitor.Proofs.Json.Skipped
import JobMonitor.Proofs.Json.SourceOrder
import JobMonitor.Proofs.Json.Strings
import JobMonitor.Proofs.Json.Tokens
import JobMonitor.Proofs.Json.Typed
import JobMonitor.Proofs.Json.Values
import JobMonitor.Proofs.Json.Written
import JobMonitor.Proofs.Json.WrittenNumber
import JobMonitor.Proofs.Monitor.Run
import JobMonitor.Proofs.Monitor.Start
import JobMonitor.Proofs.Monitor.Turn
import JobMonitor.Proofs.Number.Decimal
import JobMonitor.Proofs.Number.Notation
import JobMonitor.Proofs.Number.Rounding
import JobMonitor.Proofs.Registry.Balance
import JobMonitor.Proofs.Registry.Contents
import JobMonitor.Proofs.Registry.Finished
import JobMonitor.Proofs.Registry.Lag
import JobMonitor.Proofs.Registry.Replay
import JobMonitor.Proofs.Registry.Run
import JobMonitor.Proofs.Registry.Subscriber
import JobMonitor.Proofs.Registry.Sweep
import JobMonitor.Proofs.Time.Calendar
import JobMonitor.Proofs.Time.Counting
import JobMonitor.Proofs.Time.Exchange
import JobMonitor.Proofs.Time.Exclusive
import JobMonitor.Proofs.Time.Fields
import JobMonitor.Proofs.Time.Reading
import JobMonitor.Proofs.Time.Wire
import JobMonitor.Proofs.Time.Written
import JobMonitor.Registry.Basic
import JobMonitor.Registry.Feed
import JobMonitor.Registry.Sweep
import JobMonitor.Registry.Table
import JobMonitor.Shell.Arithmetic
import JobMonitor.Shell.Builtin
import JobMonitor.Shell.Condition
import JobMonitor.Shell.Expansion
import JobMonitor.Shell.Fields
import JobMonitor.Shell.Format
import JobMonitor.Shell.Interpreter
import JobMonitor.Shell.Lines
import JobMonitor.Shell.Machine
import JobMonitor.Shell.Program
import JobMonitor.Shell.Run
import JobMonitor.Shell.Script
import JobMonitor.Shell.Session
import JobMonitor.Shell.Signal
import JobMonitor.Shell.Source
import JobMonitor.Shell.Spawn
import JobMonitor.Shell.Wildcard
import JobMonitor.Text.Alphanumeric
import JobMonitor.Text.Blank
import JobMonitor.Text.Bytes
import JobMonitor.Text.Lenient
import JobMonitor.Text.Pieces
import JobMonitor.Text.Printable
import JobMonitor.Text.Quoted
import JobMonitor.Time.Calendar
import JobMonitor.Time.Fields
import JobMonitor.Time.Instant
import JobMonitor.Time.Reading
import JobMonitor.Toml.Document
import JobMonitor.Toml.Moment
import JobMonitor.Toml.Reading
import JobMonitor.Toml.Text
import JobMonitor.Toml.Tree
import JobMonitor.Yaml.Node
import JobMonitor.Yaml.Scalar
import JobMonitor.Yaml.Scanner
import JobMonitor.Yaml.Tag
import JobMonitor.Yaml.Token
import JobMonitor.Yaml.Tokens
