import ServoLink.Console.Arguments
import ServoLink.Console.Command
import ServoLink.Console.Program
import ServoLink.Cyclic.Channel
import ServoLink.Cyclic.Loop
import ServoLink.Cyclic.Timing
import ServoLink.Decimal.Binary
import ServoLink.Decimal.Fixed
import ServoLink.Decimal.Reading
import ServoLink.Decimal.Shortest
import ServoLink.Drive.ErrorCode
import ServoLink.Drive.Model
import ServoLink.Drive.RegisterMap
import ServoLink.Drive.Simulated
import ServoLink.Drive.State
import ServoLink.Event
import ServoLink.EventBus
import ServoLink.Firmware
import ServoLink.Handshake
import ServoLink.Json.Basic
import ServoLink.Json.Frame
import ServoLink.Json.Report
import ServoLink.Json.States
import ServoLink.LinkError
import ServoLink.Main
import ServoLink.Motion.Machine
import ServoLink.Motion.Status
import ServoLink.Motion.StepTracker
import ServoLink.Net.Address
import ServoLink.Net.Line
import ServoLink.Net.Script
import ServoLink.ProcessData.Command
import ServoLink.ProcessData.Flags
import ServoLink.ProcessData.Request
import ServoLink.ProcessData.Status
import ServoLink.Proofs.ProcessData.Flags
import ServoLink.Proofs.Wire.Field
import ServoLink.Register.Address
import ServoLink.Register.Catalog
import ServoLink.Register.Channel
import ServoLink.Register.Message
import ServoLink.Register.RoundTrip
import ServoLink.Register.Value
import ServoLink.Rehearsal
import ServoLink.Session
import ServoLink.Settings.Basic
import ServoLink.Settings.Document
import ServoLink.States
import ServoLink.Text.Blank
import ServoLink.Text.Printable
import ServoLink.Text.Quoted
import ServoLink.Text.Whole
import ServoLink.Toml.Document
import ServoLink.Toml.Number
import ServoLink.Toml.Text
import ServoLink.Toml.Value
import ServoLink.Units
import ServoLink.Wire.Checksum
import ServoLink.Wire.Field
import ServoLink.Wire.Frame
import ServoLink.Proofs.ProcessData.Control
import ServoLink.Proofs.Drive.State
import ServoLink.Proofs.ProcessData.Status
import ServoLink.Proofs.Register.Message
import ServoLink.Proofs.Wire.RoundTrip
import ServoLink.Proofs.Drive.Model
import ServoLink.Proofs.Drive.Homing
import ServoLink.Proofs.Drive.Arithmetic
import ServoLink.Proofs.Drive.Kinematics
import ServoLink.Proofs.Motion.Machine
import ServoLink.Proofs.Motion.ClosedLoop
import ServoLink.Proofs.Motion.Moves
import ServoLink.Proofs.Motion.Power
import ServoLink.Proofs.Motion.Calls
import ServoLink.Proofs.Motion.Faults
import ServoLink.Proofs.Motion.Reports
import ServoLink.Proofs.Net.Network
import ServoLink.Proofs.Drive.Simulated
import ServoLink.Proofs.Drive.RegisterMap
import ServoLink.Proofs.Register.Channel
import ServoLink.Proofs.Cyclic.Channel
import ServoLink.Proofs.Cyclic.Attribution
import ServoLink.Proofs.Cyclic.Loop
import ServoLink.Proofs.Cyclic.Trace
import ServoLink.Proofs.Session.Fault
import ServoLink.Proofs.Motion.Diagram
import ServoLink.Proofs.Motion.Recovery
import ServoLink.Proofs.Motion.Homing
import ServoLink.Proofs.Cyclic.LinkFault
import ServoLink.Proofs.Cyclic.Requests
import ServoLink.Proofs.Register.Tracking
import ServoLink.Proofs.Register.Consistency
import ServoLink.Proofs.Wire.Checksum
import ServoLink.Proofs.Wire.Corruption
import ServoLink.Proofs.Register.Exchange
import ServoLink.Proofs.Register.Pacing
import ServoLink.Proofs.Register.Delivery
import ServoLink.Proofs.Register.Transcript
import ServoLink.Proofs.Session.Connecting
import ServoLink.Proofs.Session.Handshake
import ServoLink.Proofs.Session.Negotiation
import ServoLink.Proofs.Session.Lifecycle
import ServoLink.Proofs.Wire.Appending
import ServoLink.Proofs.Motion.Completion
import ServoLink.Proofs.Motion.Waiting
import ServoLink.Proofs.Motion.Timeouts
import ServoLink.Proofs.Net.Address
import ServoLink.Proofs.Session.Peers
import ServoLink.Proofs.Wire.PrefixFree
import ServoLink.Proofs.Drive.RegisterHistory
import ServoLink.Proofs.Register.RoundTrip
import ServoLink.Proofs.Cyclic.Accounting
import ServoLink.Proofs.Motion.Story
import ServoLink.Proofs.Cyclic.Chronicle
import ServoLink.Proofs.Text.Blank
import ServoLink.Proofs.Text.Numeral
import ServoLink.Proofs.Firmware
import ServoLink.Proofs.EventBus
import ServoLink.Proofs.Cyclic.Schedule
import ServoLink.Proofs.Cyclic.Numbering
import ServoLink.Proofs.Session.Sending
import ServoLink.Proofs.Console.Command
import ServoLink.Proofs.Console.Program
