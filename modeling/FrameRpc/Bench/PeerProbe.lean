import FrameRpc.Bench.Script

/-!
Probing the simulated peer directly.

Frames are handed to the peer as if the engine had sent them. When an engine is
attached, every channel is enabled first and the peer's answers reach the engine, where
an answer that nothing waits for is dropped and counted; without one, the peer answers
nobody. After the frames, the clock runs for the given time and the tasks settle.
-/

namespace FrameRpc.Bench

open Sim

structure PeerProbe where
  frames : List (List UInt8)
  attach : Bool
  faults : Faults
  waitMs : Nat

structure ProbeResult where
  results : List (Except TransmitError Unit)
  stats : PeerStats
  statuses : Option (List ChannelStatus)
  log : List Log.Record

def probe (p : PeerProbe) : Sim ProbeResult := do
  if p.attach then
    for c in Channel.all do discard <| Engine.enable c
  let results ← p.frames.mapM linkSend
  sleepMain p.waitMs
  settleAll
  let statuses ← if p.attach then some <$> allStatuses else pure none
  let stats ← match (← get).link with
    | .peer q => pure q.stats
    | .recorder _ => pure PeerStats.zero
  return { results, stats, statuses, log := (← get).records.toList }

/-- Runs a probe against a peer for the settings' addressing. An attached engine checks
the settings first. -/
def probePeer (config : EngineConfig) (p : PeerProbe) (filter : Option Log.Filter)
    (program : String) : Except EngineError ProbeResult := do
  let peer : Peer := { addressing := config.addressing, faults := p.faults, attached := p.attach,
                       stats := PeerStats.zero }
  let w ← if p.attach then Engine.start config (.peer peer) filter program
    else .ok (World.initial config (.peer peer) filter program)
  return ((probe p).run w).1

end FrameRpc.Bench
