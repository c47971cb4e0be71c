import FrameRpc.Sim.World
import FrameRpc.Wire.Dump

/-!
Sending frames on the link.

The recording link refuses a send while refusals are queued, and otherwise keeps the
frame. The simulated peer reads each request as the engine's peer: it may refuse the
send as busy, lose the request, or answer it with the queue-full status; otherwise it
echoes the payload. Its answer goes to the engine from a task of its own after the
configured latency, and only when an engine is attached. A fault happens when its
probability is at least one.
-/

namespace FrameRpc.Sim

def Faults.happens (p : Float) : Bool := p ≥ 1

def link : Sim Link := return (← get).link

def linkReady : Sim Bool := do
  match ← link with
  | .recorder r => return r.ready
  | .peer _ => return true

def updatePeer (f : Peer → Peer) : Sim Unit :=
  modify fun w => match w.link with
    | .peer p => { w with link := .peer (f p) }
    | .recorder _ => w

def peerSend (p : Peer) (frame : List UInt8) : Sim (Except TransmitError Unit) := do
  if Faults.happens p.faults.busy then
    updatePeer fun p => { p with stats := { p.stats with refusedBusy := p.stats.refusedBusy + 1 } }
    return .error .busy
  updatePeer fun p => { p with stats := { p.stats with received := p.stats.received + 1 } }
  match Wire.decode p.addressing.reversed frame with
  | .error e =>
    emit .debug (← ownTarget "simulator") "Simulated PS could not decode request"
      [("error", .shown e.message)]
    updatePeer fun p => { p with stats := { p.stats with undecodable := p.stats.undecodable + 1 } }
    return .ok ()
  | .ok req =>
    if Faults.happens p.faults.loss then
      emit .trace (← ownTarget "simulator") "Simulated PS dropping request" [("seq", .nat req.seq.toNat)]
      updatePeer fun p => { p with stats := { p.stats with lost := p.stats.lost + 1 } }
      return .ok ()
    let full := Faults.happens p.faults.queueFull
    if full then
      updatePeer fun p => { p with stats := { p.stats with queueFull := p.stats.queueFull + 1 } }
    let status := if full then Status.queueFull else Status.ok
    let payload := if full then [] else req.payload
    match Wire.respond p.addressing frame status payload with
    | .error _ =>
      updatePeer fun p => { p with stats := { p.stats with undecodable := p.stats.undecodable + 1 } }
      return .ok ()
    | .ok reply =>
      if p.attached then
        updatePeer fun p => { p with stats := { p.stats with answered := p.stats.answered + 1 } }
        discard <| spawn (.delivery reply p.faults.latency false)
      return .ok ()

def linkSend (frame : List UInt8) : Sim (Except TransmitError Unit) := do
  match ← link with
  | .recorder r =>
    match r.failures with
    | e :: rest =>
      modify fun w => { w with link := .recorder { r with failures := rest } }
      return .error e
    | [] =>
      modify fun w => { w with link := .recorder { r with frames := r.frames.push frame },
                               accepted := w.accepted.push frame }
      return .ok ()
  | .peer p => peerSend p frame

end FrameRpc.Sim
