import ScionEcho.Address.Endpoint
import ScionEcho.Address.Host
import ScionEcho.Address.IsdAs
import ScionEcho.Address.ParseError
import ScionEcho.Bytes
import ScionEcho.CommandLine.ClientCommand
import ScionEcho.CommandLine.Fault
import ScionEcho.CommandLine.Options
import ScionEcho.CommandLine.ResponderCommand
import ScionEcho.Config.Basic
import ScionEcho.Config.File
import ScionEcho.Config.Value
import ScionEcho.Export.Exporter
import ScionEcho.Export.LineProtocol
import ScionEcho.Export.WriteRequest
import ScionEcho.Log.Logging
import ScionEcho.Log.Record
import ScionEcho.Machine.Address
import ScionEcho.Machine.Database
import ScionEcho.Machine.Datagrams
import ScionEcho.Machine.Signals
import ScionEcho.Machine.Terminal
import ScionEcho.Machine.Worlds
import ScionEcho.Main
import ScionEcho.Numeral.Binary64
import ScionEcho.Numeral.Fixed
import ScionEcho.Numeral.Natural
import ScionEcho.Numeral.NumberError
import ScionEcho.Numeral.Real
import ScionEcho.Numeral.Shortest
import ScionEcho.Packet.Basic
import ScionEcho.Packet.Decode
import ScionEcho.Packet.Echo
import ScionEcho.Packet.Encode
import ScionEcho.Probe.Apparatus
import ScionEcho.Probe.IdSource
import ScionEcho.Probe.Result
import ScionEcho.Probe.Run
import ScionEcho.Probe.Statistics
import ScionEcho.Probe.Trial
import ScionEcho.Probe.Twister
import ScionEcho.Proofs.Fallible
import ScionEcho.Proofs.Wire.Grammar
import ScionEcho.Proofs.Wire.Offsets
import ScionEcho.Proofs.Wire.Row
import ScionEcho.Responder.Dispatch
import ScionEcho.Responder.Server
import ScionEcho.Scripted.Commands
import ScionEcho.Scripted.Database
import ScionEcho.Scripted.Folder
import ScionEcho.Scripted.Line
import ScionEcho.Scripted.Mailbox
import ScionEcho.Scripted.Session
import ScionEcho.Scripted.Terminal
import ScionEcho.Scripted.Trace
import ScionEcho.Seconds
import ScionEcho.Session.Datagram
import ScionEcho.Session.Failure
import ScionEcho.Text.Blank
import ScionEcho.Text.Capital
import ScionEcho.Text.Digit
import ScionEcho.Text.Hex
import ScionEcho.Text.Letter
import ScionEcho.Text.Printable
import ScionEcho.Text.Quoted
import ScionEcho.Text.Split
import ScionEcho.Text.Utf8
import ScionEcho.Toml.Document
import ScionEcho.Toml.Header
import ScionEcho.Toml.Lines
import ScionEcho.Toml.Moment
import ScionEcho.Toml.Number
import ScionEcho.Toml.Place
import ScionEcho.Toml.Quotation
import ScionEcho.Toml.ReadError
import ScionEcho.Toml.Value
import ScionEcho.Proofs.Wire.WellFormed
import ScionEcho.Proofs.Wire.RoundTrip
import ScionEcho.Proofs.Probe.Attempt
import ScionEcho.Proofs.Numeral.Range
import ScionEcho.Proofs.Probe.Course
import ScionEcho.Proofs.Probe.Reference
import ScionEcho.Proofs.Wire.Echo
import ScionEcho.Proofs.Probe.Frame
import ScionEcho.Proofs.Exchange.Network
import ScionEcho.Proofs.Exchange.Tracking
import ScionEcho.Proofs.Exchange.Correlation
import ScionEcho.Proofs.Wire.Canonical
import ScionEcho.Proofs.Wire.Size
import ScionEcho.Proofs.Responder.Dispatch
import ScionEcho.Proofs.Probe.Calls
import ScionEcho.Proofs.Exchange.Loopback
import ScionEcho.Proofs.Exchange.SizeLimits
import ScionEcho.Proofs.Text.Splitting
import ScionEcho.Proofs.Text.Digits
import ScionEcho.Proofs.Address.Host
import ScionEcho.Proofs.Address.IsdAs
import ScionEcho.Proofs.Address.Endpoint
import ScionEcho.Proofs.Address.Refusal
import ScionEcho.Proofs.Session.Failures
import ScionEcho.Proofs.Probe.Cancellation
import ScionEcho.Proofs.CommandLine.Scenario
import ScionEcho.Proofs.Responder.Serving
import ScionEcho.Proofs.CommandLine.Phases
import ScionEcho.Proofs.CommandLine.Outcome
import ScionEcho.Proofs.CommandLine.Export
import ScionEcho.Proofs.Address.Grammar
import ScionEcho.Proofs.Session.Waiting
import ScionEcho.Proofs.Session.Queue
import ScionEcho.Proofs.Session.Drain
import ScionEcho.Proofs.Session.PollCount
import ScionEcho.Proofs.Export.Failures
import ScionEcho.Proofs.Config.Load
import ScionEcho.Proofs.Config.Refusal
import ScionEcho.Proofs.Config.Reading
import ScionEcho.Proofs.Wire.Reply
import ScionEcho.Proofs.Log.Lineage
import ScionEcho.Proofs.Log.Setup
import ScionEcho.Proofs.Address.Word
import ScionEcho.Proofs.Export.Ownership
import ScionEcho.Proofs.Probe.Ids
import ScionEcho.Proofs.Session.Apparatus
