import Telemetry.Backoff
import Telemetry.Bench.Equipment
import Telemetry.Bench.Session
import Telemetry.Board
import Telemetry.Broker.Basic
import Telemetry.Clock
import Telemetry.CommandLine
import Telemetry.CommandLine.Help
import Telemetry.Credentials
import Telemetry.Daemon
import Telemetry.Decimal.Binary64
import Telemetry.Delivery
import Telemetry.Dict
import Telemetry.Endpoint
import Telemetry.Event
import Telemetry.Failure
import Telemetry.FileTree
import Telemetry.HostRadio
import Telemetry.Indicator
import Telemetry.Json.Basic
import Telemetry.Json.Printer
import Telemetry.Json.Quoted
import Telemetry.Json.Reader
import Telemetry.Json.Scan
import Telemetry.Link.Basic
import Telemetry.Logging
import Telemetry.Main
import Telemetry.Mqtt
import Telemetry.Outbox
import Telemetry.Proofs.Broker.Accounting
import Telemetry.Proofs.Broker.Effect
import Telemetry.Proofs.Broker.Run
import Telemetry.Proofs.Broker.Standing
import Telemetry.Proofs.Dict
import Telemetry.Proofs.Json.Accepted
import Telemetry.Proofs.Json.Embedded
import Telemetry.Proofs.Json.Numeral
import Telemetry.Proofs.Json.Printed
import Telemetry.Proofs.Json.Reading
import Telemetry.Proofs.Json.Scanning
import Telemetry.Proofs.Json.Shape
import Telemetry.Proofs.Json.Tokens
import Telemetry.Proofs.Relay.Agreement
import Telemetry.Proofs.Relay.Channel
import Telemetry.Proofs.Relay.Frames
import Telemetry.Proofs.Relay.Hop
import Telemetry.Proofs.Relay.Lines
import Telemetry.Proofs.Relay.Recovery
import Telemetry.Proofs.Relay.Reports
import Telemetry.Proofs.Relay.Resync
import Telemetry.Proofs.Text.Utf8
import Telemetry.Provisioning.Service
import Telemetry.Provisioning.Write
import Telemetry.Record
import Telemetry.Relay.Assembler
import Telemetry.Relay.Companion
import Telemetry.Relay.Console
import Telemetry.Relay.Frame
import Telemetry.Relay.MainUnit
import Telemetry.Relay.Pump
import Telemetry.Relay.Stream
import Telemetry.Settings.Basic
import Telemetry.Settings.Error
import Telemetry.Settings.Printer
import Telemetry.Settings.Reader
import Telemetry.Settings.Tree
import Telemetry.Station
import Telemetry.Status
import Telemetry.Store.Basic
import Telemetry.Store.Error
import Telemetry.Store.File
import Telemetry.Store.Flash
import Telemetry.Text.Blank
import Telemetry.Text.Cut
import Telemetry.Text.Decimal
import Telemetry.Text.Diagnostic
import Telemetry.Text.Terminal
import Telemetry.Text.Utf8
import Telemetry.Toml.Assembly
import Telemetry.Toml.Basic
import Telemetry.Toml.Moment
import Telemetry.Toml.Number
import Telemetry.Toml.Printer
import Telemetry.Toml.Quoted
import Telemetry.Toml.Reader
import Telemetry.Toml.Scanner
import Telemetry.Topic
import Telemetry.Transport
import Telemetry.Window
import Telemetry.Proofs.Relay.Refusals
import Telemetry.Proofs.Link.Effect
import Telemetry.Proofs.Link.Sound
import Telemetry.Proofs.Broker.Sound
import Telemetry.Proofs.Station.Sound
import Telemetry.Proofs.Backoff
import Telemetry.Proofs.Link.Pacing
import Telemetry.Proofs.Store
import Telemetry.Proofs.Link.Kept
import Telemetry.Proofs.Broker.Kept
import Telemetry.Proofs.Relay.Restart
import Telemetry.Proofs.Outbox
import Telemetry.Proofs.Outbox.Waiting
import Telemetry.Proofs.Broker.Simulation
import Telemetry.Proofs.Link.Simulation
import Telemetry.Proofs.Shift
import Telemetry.Proofs.Replay
import Telemetry.Proofs.Station.Simulation
import Telemetry.Proofs.Device
import Telemetry.Proofs.Relay.Shift
import Telemetry.Proofs.Broker.Log
import Telemetry.Proofs.Relay.LinkFirst
import Telemetry.Proofs.Broker.Watched
import Telemetry.Proofs.Broker.Discipline
import Telemetry.Proofs.Broker.Pacing
import Telemetry.Proofs.Relay.Segments
import Telemetry.Proofs.Json.Suffix
import Telemetry.Proofs.FileTree.Path
import Telemetry.Proofs.FileTree.Replace
import Telemetry.Proofs.Store.Format
import Telemetry.Proofs.Store.Mirror
import Telemetry.Proofs.Secret
import Telemetry.Proofs.Link.Secret
import Telemetry.Proofs.Broker.Secret
import Telemetry.Proofs.Bench
import Telemetry.Proofs.Station.Secret
import Telemetry.Proofs.Relay.Oversized
import Telemetry.Proofs.Store.Group
import Telemetry.Proofs.Store.Worn
import Telemetry.Proofs.Store.Owner
import Telemetry.Proofs.Link.Worn
import Telemetry.Proofs.Broker.Worn
import Telemetry.Proofs.Provisioning.Grammar
import Telemetry.Proofs.Provisioning.RoundTrip
import Telemetry.Proofs.Provisioning.Write
import Telemetry.Proofs.Link.Off
import Telemetry.Proofs.Broker.Off
import Telemetry.Proofs.Station.Off
import Telemetry.Proofs.Station.Clear
import Telemetry.Proofs.Notices
import Telemetry.Proofs.Link.Notices
import Telemetry.Proofs.Broker.Notices
import Telemetry.Proofs.Relay.Handover
import Telemetry.Proofs.Relay.Answers
import Telemetry.Proofs.Station.Blank
import Telemetry.Proofs.Relay.Reset
import Telemetry.Proofs.Backoff.Law
import Telemetry.Proofs.Settings
import Telemetry.Proofs.Topic
import Telemetry.Proofs.Relay.Stream
import Telemetry.Proofs.Relay.Console
import Telemetry.Proofs.Text.Blank
import Telemetry.Proofs.Text.Words
import Telemetry.Proofs.Text.Search
import Telemetry.Proofs.Text.Offset
import Telemetry.Proofs.Relay.Offsets
