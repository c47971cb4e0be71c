import FrameRpc.Bench.PeerProbe
import FrameRpc.Bench.Ping
import FrameRpc.Bench.Report
import FrameRpc.Bench.Script
import FrameRpc.Bench.Soak
import FrameRpc.Cli.Grammar
import FrameRpc.Cli.Parse
import FrameRpc.Cli.Run
import FrameRpc.Cli.Tool
import FrameRpc.Config.Parse
import FrameRpc.Config.Settings
import FrameRpc.Config.Store
import FrameRpc.Decimal.Nearest
import FrameRpc.Decimal.Read
import FrameRpc.Decimal.Shortest
import FrameRpc.Disk.Tree
import FrameRpc.Engine.Error
import FrameRpc.Engine.Ops
import FrameRpc.Engine.State
import FrameRpc.Json.Any
import FrameRpc.Json.Cursor
import FrameRpc.Json.Lexeme
import FrameRpc.Json.Typed
import FrameRpc.Json.Value
import FrameRpc.Log.Directive
import FrameRpc.Log.Filter
import FrameRpc.Log.Line
import FrameRpc.Log.Record
import FrameRpc.Log.Setup
import FrameRpc.Main
import FrameRpc.Pattern.Check
import FrameRpc.Proofs.Engine.Completion
import FrameRpc.Proofs.Engine.Counters
import FrameRpc.Proofs.Engine.Matching
import FrameRpc.Proofs.Engine.Numbering
import FrameRpc.Proofs.Engine.Progress
import FrameRpc.Proofs.Engine.Replies
import FrameRpc.Proofs.Wire.Header
import FrameRpc.Proofs.Wire.Reading
import FrameRpc.Proofs.Wire.RoundTrip
import FrameRpc.Sim.Link
import FrameRpc.Sim.Run
import FrameRpc.Sim.World
import FrameRpc.Text.Chars
import FrameRpc.Text.Literal
import FrameRpc.Text.Utf8
import FrameRpc.Wire.Dump
import FrameRpc.Wire.Frame
import FrameRpc.Wire.Kind
import FrameRpc.Wire.Mac
import FrameRpc.Proofs.Engine.History
import FrameRpc.Proofs.Engine.Lifecycle
import FrameRpc.Proofs.Engine.Service
import FrameRpc.Proofs.Engine.Budget
import FrameRpc.Proofs.Sim.Alike
import FrameRpc.Proofs.Engine.Race
import FrameRpc.Proofs.Engine.Timers
import FrameRpc.Proofs.Engine.Drain
import FrameRpc.Proofs.Engine.HardTimeout
import FrameRpc.Proofs.Sim.Slots
import FrameRpc.Proofs.Engine.Delivery
import FrameRpc.Proofs.Sim.Calls
import FrameRpc.Proofs.Bench.Blocking
import FrameRpc.Proofs.Wire.Canonical
import FrameRpc.Proofs.Wire.MacText
import FrameRpc.Proofs.Engine.DropWarnings
import FrameRpc.Proofs.Sim.Clock
import FrameRpc.Proofs.Sim.Armed
import FrameRpc.Proofs.Engine.Encoding
import FrameRpc.Proofs.Bench.SoakReport
import FrameRpc.Proofs.Engine.Arming
import FrameRpc.Proofs.Engine.Deadlines
import FrameRpc.Proofs.Engine.Ticks
import FrameRpc.Proofs.Json.Reads
import FrameRpc.Proofs.Json.Strings
import FrameRpc.Proofs.Json.Numbers
import FrameRpc.Proofs.Json.Records
import FrameRpc.Proofs.Config.RoundTrip
import FrameRpc.Proofs.Engine.Marks
import FrameRpc.Proofs.Engine.OneChannel
import FrameRpc.Proofs.Engine.Backoff
import FrameRpc.Proofs.Engine.Attempts
import FrameRpc.Proofs.Wire.Dump
import FrameRpc.Proofs.Engine.Rounds
