import FrameRpc.Sim.Run

/-!
Soak runs: many calls on several channels at once against the simulated peer.

Each channel gets `concurrency` workers (at least one) that share the calls evenly, the
first workers taking the remainder. Worker `k` with a share of `s` calls sends opcodes
`k·s, k·s + 1, …`, each as a whole call waiting for its outcome. The run waits for every
worker in the order they were started, then reports per channel the tally of outcomes
and the channel's counters, and shuts the engine down.

The report has one entry per channel name, in name order. A channel named twice gets
its tally on its first entry, which a later entry for the same name then replaces with
an empty tally.
-/

namespace FrameRpc.Bench

open Sim

structure SoakPlan where
  channels : List Channel
  calls : Nat
  concurrency : Nat
  payloadLen : Nat
  faults : Faults

namespace SoakPlan

def workers (p : SoakPlan) : Nat := max p.concurrency 1

def share (p : SoakPlan) (k : Nat) : Nat :=
  p.calls / p.workers + (if k < p.calls % p.workers then 1 else 0)

def opcodes (p : SoakPlan) (k : Nat) : List UInt16 :=
  (List.range (p.share k)).map fun i => (k * p.share k + i).toUInt16

def payload (p : SoakPlan) : List UInt8 := List.replicate p.payloadLen 0x5a

end SoakPlan

structure ChannelReport where
  outcomes : Tally
  status : ChannelStatus

structure SoakReport where
  /-- How long the calls took, from the start of the first to the end of the last. -/
  elapsedMs : Nat
  faults : Faults
  processor : PeerStats
  channels : List (Channel × ChannelReport)

def insertByName {α : Type} (c : Channel) (a : α) : List (Channel × α) → List (Channel × α)
  | [] => [(c, a)]
  | (d, b) :: rest =>
    if c.name == d.name then (c, a) :: rest
    else if c.name < d.name then (c, a) :: (d, b) :: rest
    else (d, b) :: insertByName c a rest

def channelTally (tallies : List (Channel × Tally)) (c : Channel) : Tally :=
  (tallies.filter (·.1 == c)).foldl (fun t x => t.merge x.2) Tally.zero

/-- The report entries: the first entry for a channel carries its tally, later ones for
the same channel an empty tally. -/
def reportEntries (tallies : List (Channel × Tally)) :
    List ChannelStatus → List Channel → List (Channel × ChannelReport) → List (Channel × ChannelReport)
  | [], _, acc => acc
  | status :: rest, seen, acc =>
    let c := status.channel
    let outcomes := if seen.contains c then Tally.zero else channelTally tallies c
    reportEntries tallies rest (c :: seen) (insertByName c { outcomes, status } acc)

/-- The tally of a finished worker task; none for a worker that broke off. -/
def workerTally (id : Nat) : Sim (Option (Channel × Tally)) := do
  match ← task? id with
  | some { kind := .worker w, .. } => return if w.broken then none else some (w.channel, w.tally)
  | _ => return none

def joinWorker (id : Nat) : Sim Unit := do
  joinTask id
  match ← task? id with
  | some { kind := .worker w, .. } =>
    if w.broken then
      emit .warn (← ownTarget "commands") "Soak worker panicked"
        [("error", .shown ("task " ++ toString id ++ " panicked with message " ++
          Text.debugQuote EngineConfig.durationOverflow))]
  | _ => pure ()

def peerStats : Sim PeerStats := do
  match (← get).link with
  | .peer p => return p.stats
  | .recorder _ => return PeerStats.zero

def soak (p : SoakPlan) : Sim SoakReport := do
  for c in p.channels do discard <| Engine.enable c
  emit .info (← ownTarget "commands") "Soak started"
    [("channels", .nat p.channels.length), ("calls", .nat p.calls),
     ("concurrency", .nat p.workers)]
  let started ← now
  let starts := p.channels.flatMap fun c => (List.range p.workers).map fun k => (c, k)
  let ids ← starts.mapM fun (c, k) =>
    spawn (.worker { channel := c, opcodes := p.opcodes k, payload := p.payload, phase := .start,
                     tally := Tally.zero })
  for id in ids do joinWorker id
  let elapsedMs := (← now) - started
  let tallies := (← ids.mapM workerTally).filterMap id
  let statuses ← p.channels.mapM Engine.status
  let channels := reportEntries tallies statuses [] []
  Engine.shutdown
  emit .info (← ownTarget "commands") "Soak finished" [("elapsed_ms", .nat elapsedMs)]
  return { elapsedMs, faults := p.faults, processor := ← peerStats, channels }

/-- Runs a soak against a peer with the plan's faults: the report and the records kept,
or why the engine refused its settings. -/
def runSoak (config : EngineConfig) (p : SoakPlan) (filter : Option Log.Filter) (program : String) :
    Except EngineError (SoakReport × List Log.Record) := do
  let peer : Peer := { addressing := config.addressing, faults := p.faults, attached := true,
                       stats := PeerStats.zero }
  let w ← Engine.start config (.peer peer) filter program
  let (report, w) := (soak p).run w
  return (report, w.records.toList)

end FrameRpc.Bench
