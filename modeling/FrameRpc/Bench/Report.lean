import FrameRpc.Bench.Soak
import FrameRpc.Json.Value

/-!
The JSON form of channel views, peer counters and soak reports.

Members appear in the order the report is written: a channel's view lists the channel,
whether it is enabled, the pending count, the command in flight, the last sequence number,
the completions still to be delivered and the counters. Probabilities are numbers with a
fractional part; the latency is in milliseconds. A soak report starts with the time the
run took.
-/

namespace FrameRpc

open Json (Value)

def Counters.toValue (c : Counters) : Value :=
  .obj [("submitted", .nat c.submitted), ("sent", .nat c.sent), ("completed", .nat c.completed),
    ("failed", .nat c.failed), ("retries", .nat c.retries), ("timeouts", .nat c.timeouts),
    ("cancelled", .nat c.cancelled), ("dropped_frames", .nat c.droppedFrames)]

def ChannelStatus.toValue (s : ChannelStatus) : Value :=
  .obj [("channel", .str s.channel.name), ("enabled", .bool s.enabled), ("pending", .nat s.pending),
    ("running", Value.opt Value.nat s.running), ("last_seq", .nat s.lastSeq.toNat),
    ("cleanup_pending", .nat s.cleanupPending), ("counters", s.counters.toValue)]

def statusesValue (ss : List ChannelStatus) : Value :=
  .obj (ss.map fun s => (s.channel.name, s.toValue))

namespace Sim

def PeerStats.toValue (s : PeerStats) : Value :=
  .obj [("received", .nat s.received), ("refused_busy", .nat s.refusedBusy), ("lost", .nat s.lost),
    ("queue_full", .nat s.queueFull), ("answered", .nat s.answered),
    ("undecodable", .nat s.undecodable)]

def Faults.toValue (f : Faults) : Value :=
  .obj [("busy", .float f.busy), ("loss", .float f.loss), ("queue_full", .float f.queueFull),
    ("latency", .nat f.latency)]

def Tally.toValue (t : Tally) : Value :=
  .obj [("ok", .nat t.ok), ("timeout", .nat t.timeout), ("remote", .nat t.remote),
    ("transport", .nat t.transport), ("cancelled", .nat t.cancelled), ("other", .nat t.other)]

end Sim

namespace Bench

def channelsValue (r : SoakReport) : Value :=
  .obj (r.channels.map fun (c, e) =>
    (c.name, .obj [("outcomes", e.outcomes.toValue), ("status", e.status.toValue)]))

def SoakReport.toValue (r : SoakReport) : Value :=
  .obj [("elapsed_ms", .nat r.elapsedMs), ("faults", r.faults.toValue),
    ("processor", r.processor.toValue), ("channels", channelsValue r)]

end Bench

end FrameRpc
