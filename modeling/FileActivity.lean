import FileActivity.CommandLine.Argument
import FileActivity.CommandLine.Help
import FileActivity.CommandLine.Invocation
import FileActivity.CommandLine.Number
import FileActivity.CommandLine.Usage
import FileActivity.Daemon
import FileActivity.Decimal.Binary64
import FileActivity.Decimal.Shortest
import FileActivity.Delivery.Channel
import FileActivity.Delivery.Endpoint
import FileActivity.Entropy
import FileActivity.Error
import FileActivity.FileName
import FileActivity.Files.Location
import FileActivity.Files.Sockets
import FileActivity.Files.Tree
import FileActivity.Host
import FileActivity.Main
import FileActivity.Monitor
import FileActivity.Operation
import FileActivity.Preview
import FileActivity.Processes
import FileActivity.Program.Commands
import FileActivity.Program.Run
import FileActivity.Proofs.Delivery.Account
import FileActivity.Proofs.Delivery.Consumer
import FileActivity.Proofs.Delivery.Deliveries
import FileActivity.Proofs.Delivery.Framing
import FileActivity.Proofs.Delivery.HandOff
import FileActivity.Proofs.Delivery.LifeCycle
import FileActivity.Proofs.Delivery.Printing
import FileActivity.Proofs.Delivery.Session
import FileActivity.Proofs.Delivery.SharedChannel
import FileActivity.Proofs.FileName.Components
import FileActivity.Proofs.FileName.Offsets
import FileActivity.Proofs.FileName.Rereading
import FileActivity.Proofs.InTurn
import FileActivity.Proofs.Monitor.Conservation
import FileActivity.Proofs.Monitor.SharedMonitor
import FileActivity.Proofs.Preview.Coverage
import FileActivity.Proofs.Quarantine.Commands
import FileActivity.Proofs.Record.Isolation
import FileActivity.Proofs.Record.Lines
import FileActivity.Proofs.Record.RoundTrip
import FileActivity.Proofs.Record.Streams
import FileActivity.Proofs.Record.WireForm
import FileActivity.Proofs.Server.AllowList
import FileActivity.Proofs.Server.Service
import FileActivity.Proofs.Server.Succession
import FileActivity.Proofs.Settings.Fields
import FileActivity.Proofs.Settings.Layering
import FileActivity.Proofs.Settings.Loaders
import FileActivity.Proofs.Settings.Regular
import FileActivity.Proofs.Settings.Snapshot
import FileActivity.Proofs.Telemetry.Polls
import FileActivity.Proofs.Telemetry.Sessions
import FileActivity.Proofs.Text.Quoted
import FileActivity.Proofs.Text.Truncation
import FileActivity.Proofs.Text.Utf8
import FileActivity.Proofs.Toml.Plain
import FileActivity.Proofs.Toml.Sound
import FileActivity.Proofs.Toml.Strings
import FileActivity.Proofs.Toml.Written
import FileActivity.Proofs.Trace
import FileActivity.Proofs.Windows
import FileActivity.Quarantine.Actor
import FileActivity.Quarantine.WriteAccess
import FileActivity.Record.Basic
import FileActivity.Record.Kind
import FileActivity.Record.Line
import FileActivity.Record.Report
import FileActivity.Record.Stream
import FileActivity.Record.Wire
import FileActivity.Server.Basic
import FileActivity.Server.Policy
import FileActivity.Server.Reception
import FileActivity.Settings.Basic
import FileActivity.Settings.Fault
import FileActivity.Settings.File
import FileActivity.Settings.Layers
import FileActivity.Settings.Reading
import FileActivity.Settings.Writing
import FileActivity.SystemError
import FileActivity.Telemetry.Event
import FileActivity.Telemetry.Session
import FileActivity.Telemetry.ShadowCopy
import FileActivity.Telemetry.TraceKind
import FileActivity.Text.Bounded
import FileActivity.Text.CaseIgnorable
import FileActivity.Text.Cased
import FileActivity.Text.CodeRanges
import FileActivity.Text.GraphemeExtend
import FileActivity.Text.Lowercase
import FileActivity.Text.Path
import FileActivity.Text.Quoted
import FileActivity.Text.Unprintable
import FileActivity.Text.Utf16
import FileActivity.Text.Utf8
import FileActivity.Toml.Document
import FileActivity.Toml.Layout
import FileActivity.Toml.Number
import FileActivity.Toml.Place
import FileActivity.Toml.Sheet
import FileActivity.Toml.Tables
import FileActivity.Toml.Text
import FileActivity.Toml.Value
import FileActivity.UserSet
import FileActivity.Proofs.Delivery.AnyStream
import FileActivity.Proofs.Settings.ByKey
import FileActivity.Proofs.Settings.Rounding
import FileActivity.Proofs.Files.Tree
import FileActivity.Proofs.Server.SocketFile
import FileActivity.Proofs.Text.Lowercase
import FileActivity.Proofs.Telemetry.ShadowCopies
import FileActivity.Proofs.CommandLine.ProcessNumbers
import FileActivity.Proofs.Quarantine.WriteAccess
import FileActivity.Proofs.Text.Buffers
import FileActivity.Proofs.Text.Surrogates
import FileActivity.Proofs.Preview.Frequencies
