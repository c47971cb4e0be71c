import FrameRpc.Sim.Run

/-!
A single call against a fault-free peer that answers at once.

The channel is enabled, one call is made and waited for, and the engine is shut down
whatever the outcome. The time the call took is measured on the simulated clock.
-/

namespace FrameRpc.Bench

open Sim

def calledOutcome (id : Nat) (events : List Event) : Option Outcome :=
  events.findSome? fun
    | .called i r _ => if i == id then some r else none
    | _ => none

/-- One call on channel `c`: its outcome and how long it took in milliseconds, or the
fault that stops the program when the call cannot set its deadline. -/
def ping (c : Channel) (opcode : UInt16) (payload : List UInt8) :
    Sim (Except String (Outcome × Nat)) := do
  match ← Engine.enable c with
  | .error e => return .ok (.error e, 0)
  | .ok () =>
    let started ← now
    let id ← spawn (.call 0 { channel := c, opcode, payload } none .start)
    joinTask id
    let elapsed := (← now) - started
    match calledOutcome 0 (← get).events.toList with
    | some outcome =>
      Engine.shutdown
      return .ok (outcome, elapsed)
    | none =>
      if (← Engine.config).hardTimeoutMs.isNone then return .error EngineConfig.durationOverflow
      Engine.shutdown
      return .ok (.error .cancelled, elapsed)

/-- Pings a peer without faults: the outcome and the time taken (or the fault that stops
the program), and the records kept, or why the engine refused its settings. -/
def runPing (config : EngineConfig) (c : Channel) (opcode : UInt16) (payload : List UInt8)
    (filter : Option Log.Filter) (program : String) :
    Except EngineError (Except String (Outcome × Nat) × List Log.Record) := do
  let peer : Peer :=
    { addressing := config.addressing, faults := { busy := 0, loss := 0, queueFull := 0, latency := 0 },
      attached := true, stats := PeerStats.zero }
  let w ← Engine.start config (.peer peer) filter program
  let (result, w) := (ping c opcode payload).run w
  return (result, w.records.toList)

end FrameRpc.Bench
