import PacketTelemetry.Broker.Envelope
import PacketTelemetry.Broker.Message
import PacketTelemetry.Broker.Topics
import PacketTelemetry.Collector.Basic
import PacketTelemetry.Collector.Inbound
import PacketTelemetry.Console.Banner
import PacketTelemetry.Console.Report
import PacketTelemetry.Console.Style
import PacketTelemetry.Decimal.Binary64
import PacketTelemetry.Decimal.Power
import PacketTelemetry.Decimal.Shortest
import PacketTelemetry.Detector.Alert
import PacketTelemetry.Detector.Basic
import PacketTelemetry.Http.MediaType
import PacketTelemetry.Http.Service
import PacketTelemetry.Http.Target
import PacketTelemetry.Http.Token
import PacketTelemetry.Json.Form
import PacketTelemetry.Json.Printer
import PacketTelemetry.Json.Reader
import PacketTelemetry.Json.Source
import PacketTelemetry.Json.Value
import PacketTelemetry.Live.Channel
import PacketTelemetry.Live.Hub
import PacketTelemetry.Main
import PacketTelemetry.Packet.Basic
import PacketTelemetry.Packet.Normal
import PacketTelemetry.Packet.Stored
import PacketTelemetry.Packet.Wire
import PacketTelemetry.Roster.Agent
import PacketTelemetry.Roster.Basic
import PacketTelemetry.Settings.Basic
import PacketTelemetry.Settings.Reading
import PacketTelemetry.Settings.Validity
import PacketTelemetry.Startup
import PacketTelemetry.Store.Basic
import PacketTelemetry.Store.Memory
import PacketTelemetry.Table
import PacketTelemetry.Text.Blank
import PacketTelemetry.Text.Lines
import PacketTelemetry.Text.Quoted
import PacketTelemetry.Text.Utf8
import PacketTelemetry.Text.Visible
import PacketTelemetry.Time.Calendar
import PacketTelemetry.Time.Instant
import PacketTelemetry.Time.Rfc3339
import PacketTelemetry.Toml.Document
import PacketTelemetry.Toml.Number
import PacketTelemetry.Toml.Text
import PacketTelemetry.Toml.Value
import PacketTelemetry.Proofs.Live.Delivery
import PacketTelemetry.Proofs.Detector.Watches
import PacketTelemetry.Proofs.Detector.PortScan
import PacketTelemetry.Proofs.Detector.TrafficSpike
import PacketTelemetry.Proofs.Collector.Effects
import PacketTelemetry.Proofs.Collector.Requests
import PacketTelemetry.Proofs.Collector.Run
import PacketTelemetry.Proofs.Collector.Ledger
import PacketTelemetry.Proofs.Detector.Isolation
import PacketTelemetry.Proofs.Collector.Stock
import PacketTelemetry.Proofs.Collector.Undated
import PacketTelemetry.Proofs.Live.Queues
import PacketTelemetry.Proofs.Store.Retention
import PacketTelemetry.Proofs.Collector.Intake
import PacketTelemetry.Proofs.Collector.Batches
import PacketTelemetry.Proofs.Collector.Refusals
import PacketTelemetry.Proofs.Text.Lines
import PacketTelemetry.Proofs.Text.Octets
import PacketTelemetry.Proofs.Json.Tokens
import PacketTelemetry.Proofs.Json.Steps
import PacketTelemetry.Proofs.Json.Values
import PacketTelemetry.Proofs.Json.Records
import PacketTelemetry.Proofs.Broker.Envelopes
import PacketTelemetry.Proofs.Broker.Messages
import PacketTelemetry.Proofs.Collector.Datagrams
import PacketTelemetry.Proofs.Settings.Problems
import PacketTelemetry.Proofs.Collector.Exchange
import PacketTelemetry.Proofs.Collector.Alike
import PacketTelemetry.Proofs.Collector.Observers
import PacketTelemetry.Proofs.Store.WordLimits
import PacketTelemetry.Proofs.Collector.Incoming
import PacketTelemetry.Proofs.Collector.Rosters
import PacketTelemetry.Proofs.Collector.Relays
import PacketTelemetry.Proofs.Collector.Provenance
import PacketTelemetry.Proofs.Detector.Tuning
import PacketTelemetry.Proofs.Live.Warnings
import PacketTelemetry.Proofs.Store.Latest
import PacketTelemetry.Proofs.Packet.Inheritance
import PacketTelemetry.Proofs.Detector.Accounting
import PacketTelemetry.Proofs.Json.Skipping
import PacketTelemetry.Proofs.Json.Members
import PacketTelemetry.Proofs.Json.Agreement
import PacketTelemetry.Proofs.Json.Objects
import PacketTelemetry.Proofs.Time.Calendar
import PacketTelemetry.Proofs.Time.Instants
import PacketTelemetry.Proofs.Time.Rfc3339
import PacketTelemetry.Proofs.Packet.StoredPackets
import PacketTelemetry.Proofs.Detector.AlertRecords
import PacketTelemetry.Proofs.Http.EventStreams
import PacketTelemetry.Proofs.Collector.Streams
