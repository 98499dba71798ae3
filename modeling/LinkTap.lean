import LinkTap.Config
import LinkTap.Text.Numbers
import LinkTap.Text.Quoted
import LinkTap.Text.Utf8
import LinkTap.Decimal.Binary
import LinkTap.Decimal.Notation
import LinkTap.Decimal.Rounding
import LinkTap.Decimal.Shortest
import LinkTap.Json.Value
import LinkTap.Channel.ErrorKind
import LinkTap.Frame.Command
import LinkTap.Frame.Socket
import LinkTap.Frame.Codec
import LinkTap.Frame.Error
import LinkTap.Frame.Packet
import LinkTap.Traffic.Kind
import LinkTap.Traffic.Sequence
import LinkTap.Traffic.Sniff
import LinkTap.Mavlink.Schema
import LinkTap.Mavlink.Dialect
import LinkTap.Mavlink.Dialect.Camera
import LinkTap.Mavlink.Dialect.Commands
import LinkTap.Mavlink.Dialect.Control
import LinkTap.Mavlink.Dialect.Devices
import LinkTap.Mavlink.Dialect.Enums
import LinkTap.Mavlink.Dialect.Estimation
import LinkTap.Mavlink.Dialect.Flags
import LinkTap.Mavlink.Dialect.Identification
import LinkTap.Mavlink.Dialect.Mission
import LinkTap.Mavlink.Dialect.Sensors
import LinkTap.Mavlink.Dialect.System
import LinkTap.Mavlink.Dialect.Tracking
import LinkTap.Mavlink.Dialect.Vehicle
import LinkTap.Mavlink.Frame
import LinkTap.Mavlink.Message
import LinkTap.Mavlink.Scanner
import LinkTap.Telemetry.Event
import LinkTap.Telemetry.Bridge
import LinkTap.Telemetry.Link
import LinkTap.Monitor.Basic
import LinkTap.Monitor.Session
import LinkTap.Replay.Dump
import LinkTap.Replay.Note
import LinkTap.Replay.Scheduler
import LinkTap.Replay.Server
import LinkTap.Net.Address
import LinkTap.Net.Host
import LinkTap.Net.Resolver
import LinkTap.Net.Uri
import LinkTap.Program
import LinkTap.Main
import LinkTap.Channel.Peer
import LinkTap.Proofs.Mavlink.Drain
import LinkTap.Proofs.Mavlink.Rescan
import LinkTap.Proofs.Mavlink.Stream
import LinkTap.Proofs.Frame.Split
import LinkTap.Proofs.Frame.Decoding
import LinkTap.Proofs.Frame.Encoding
import LinkTap.Proofs.Dump.Records
import LinkTap.Proofs.Dump.Layout
import LinkTap.Proofs.Channel.Chunked
import LinkTap.Proofs.Replay.Passes
import LinkTap.Proofs.Monitor.Sources
import LinkTap.Proofs.Traffic.Sequence
import LinkTap.Proofs.Monitor.Counts
import LinkTap.Proofs.Monitor.Sessions
import LinkTap.Proofs.Monitor.History
import LinkTap.Proofs.Replay.Reproduction
import LinkTap.Proofs.Replay.Progress
import LinkTap.Proofs.Telemetry.Delivery
import LinkTap.Proofs.Mavlink.RoundTrip
import LinkTap.Proofs.Mavlink.Buffer
import LinkTap.Proofs.Traffic.Sniff
import LinkTap.Proofs.Channel.Blocks
