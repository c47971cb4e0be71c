import FrameRpc.Sim.Run

/-!
Scripted sessions with an engine on a recording link.

A script is a list of operations run one after another by the main program of a
runtime whose clock starts at zero and only moves when nothing is ready. Operations that
can wake tasks (disabling, shutting down, advancing the clock, feeding frames in,
starting calls and waits) then yield to the scheduler 32 times, so that everything that
is ready runs before the step is recorded; submitting and cancelling do not.

Each step records its reply, the outcomes that arrived during it, the frames the link
accepted during it, the time, and the log records raised during it. Submissions, calls
and waits are numbered by one counter.

A blocking call runs on a thread outside the runtime: its submission and its records
are not seen by the scheduler's thread, and its timers wait in the other thread's
queue. The script may answer its request and disable its channel before joining it;
a call left without an outcome times out and is cancelled from that thread. A hard
timeout too long for a duration stops that thread right after the submission, and the
session with it.
-/

namespace FrameRpc.Bench

open Sim

inductive FramePick where
  | index (n : Nat)
  | lastOn (c : Channel)
  | last
  deriving DecidableEq, Repr

inductive SeqChoice where
  | exact (n : UInt16)
  /-- Added to the channel's last sequence number, modulo 65536. -/
  | offset (k : Int)
  deriving DecidableEq, Repr

inductive Op where
  | enable (c : Channel)
  | disable (c : Channel)
  | shutdown
  | isEnabled (c : Channel)
  | status (c : Channel)
  | statusAll
  | submit (c : Channel) (opcode : UInt16) (payload : List UInt8)
  | cancel (c : Channel) (handle : Nat)
  | commandState (c : Channel) (handle : Nat)
  | failNext (count : Nat) (e : TransmitError)
  | setReady (ready : Bool)
  | advance (ms : Nat)
  | respond (pick : FramePick) (status : UInt8) (payload : List UInt8)
  | inject (kind : HeaderKind) (seq : SeqChoice) (opcode : UInt16) (status : UInt8)
      (payload : List UInt8) (addr : Option Addressing)
  | receive (frame : List UInt8)
  | call (c : Channel) (opcode : UInt16) (payload : List UInt8) (capacity : Option Nat)
  | waitIdle (c : Channel)
  | sinkInfo
  | takeFrames
  | engineInfo
  | callBlocking (c : Channel) (opcode : UInt16) (payload : List UInt8)
      (reply : Option (UInt8 × List UInt8)) (disable : Bool)
  | invalid (message : String)

structure Step where
  op : Op
  quiet : Bool

inductive Reply where
  | done
  | submitted (id handle : Nat)
  | submitFailed (id : Nat) (e : EngineError)
  | failed (e : EngineError)
  | cancelled (b : Bool)
  | state (s : Option CommandState)
  | enabled (b : Bool)
  | answered (frame : List UInt8)
  | noFrame
  | frameFailed (e : FrameError)
  | injected (seq : UInt16)
  | callStarted (id : Nat)
  | waitStarted (id : Nat)
  | sink (len : Nat) (last : Option (List UInt8))
  | taken (n : Nat)
  | engineInfo (config : EngineConfig)
  | blocking (r : Outcome) (reply : Option (List UInt8))
  | badInput (message : String)
  /-- The blocking call's thread stopped on a fault, which stops the session when the
  thread is joined. -/
  | fault (message : String)

inductive Statuses where
  | none
  | one (s : ChannelStatus)
  | all (ss : List ChannelStatus)

structure StepRecord where
  reply : Reply
  events : List Event
  sent : List (List UInt8)
  quiet : Bool
  nowMs : Nat
  statuses : Statuses
  log : List Log.Record

abbrev Act := StateT Nat Sim

def freshId : Act Nat := do
  let n ← getThe Nat
  set (n + 1)
  return n

def recorder : Sim Recorder := do
  match (← get).link with
  | .recorder r => return r
  | .peer _ => return { frames := #[], failures := [], ready := true }

def updateRecorder (f : Recorder → Recorder) : Sim Unit :=
  modify fun w => match w.link with
    | .recorder r => { w with link := .recorder (f r) }
    | .peer _ => w

def sentChannel (a : Addressing) (frame : List UInt8) : Option Channel :=
  match Wire.decode a.reversed frame with
  | .ok f => some f.channel
  | .error _ => none

def pickFrame (a : Addressing) (frames : Array (List UInt8)) : FramePick → Option (List UInt8)
  | .index n => frames[n]?
  | .lastOn c => (frames.toList.filter (sentChannel a · == some c)).getLast?
  | .last => frames.back?

def world : Sim World := get

def clearStep : Sim Unit :=
  modify fun w => { w with events := #[], accepted := #[], records := #[] }

def settleAll : Sim Unit := yieldTimes 32

def allStatuses : Sim (List ChannelStatus) := Channel.all.mapM Engine.status

def answerFrame (frame : List UInt8) (status : UInt8) (payload : List UInt8) :
    Sim (Except FrameError (List UInt8)) := do
  let a := (← get).engine.addressing
  match Wire.respond a frame ⟨status⟩ payload with
  | .error e => return .error e
  | .ok answer =>
    Engine.receive answer
    return .ok answer

def runOp : Op → Act (Reply × Statuses)
  | .enable c => do
    let r ← Engine.enable c
    return (match r with | .ok _ => .done | .error e => .failed e, .one (← Engine.status c))
  | .disable c => do
    Engine.disable c
    settleAll
    return (.done, .one (← Engine.status c))
  | .shutdown => do
    Engine.shutdown
    settleAll
    return (.done, .all (← allStatuses))
  | .isEnabled c => do
    return (.enabled (← Engine.chan c).enabled, .one (← Engine.status c))
  | .status c => do return (.done, .one (← Engine.status c))
  | .statusAll => do return (.done, .all (← allStatuses))
  | .submit c opcode payload => do
    let id ← freshId
    let r ← Engine.submit c opcode payload (.callback id)
    let reply := match r with
      | .ok h => Reply.submitted id h
      | .error e => .submitFailed id e
    return (reply, .one (← Engine.status c))
  | .cancel c h => do
    let b ← Engine.cancel c h
    return (.cancelled b, .one (← Engine.status c))
  | .commandState c h => do
    return (.state ((← Engine.chan c).commandState h), .one (← Engine.status c))
  | .failNext n e => do
    updateRecorder fun r => { r with failures := r.failures ++ List.replicate n e }
    return (.done, .none)
  | .setReady b => do
    updateRecorder fun r => { r with ready := b }
    return (.done, .none)
  | .advance ms => do
    sleepMain ms
    settleAll
    return (.done, .all (← allStatuses))
  | .respond pick status payload => do
    let a := (← world).engine.addressing
    match pickFrame a (← recorder).frames pick with
    | none => return (.noFrame, .none)
    | some frame =>
      match ← answerFrame frame status payload with
      | .error e => return (.frameFailed e, .none)
      | .ok answer =>
        settleAll
        let st ← match sentChannel a frame with
          | some c => do pure (Statuses.one (← Engine.status c))
          | none => pure Statuses.none
        return (.answered answer, st)
  | .inject kind seq opcode status payload addr => do
    let e := (← world).engine
    let c := kind.channel
    let seq := match seq with
      | .exact n => n
      | .offset k => ((((e.channels.get c).lastSeq.toNat : Int) + k) % 65536).toNat.toUInt16
    let a := addr.getD e.addressing.reversed
    match Wire.encode a kind seq opcode ⟨status⟩ payload with
    | .error err => return (.frameFailed err, .none)
    | .ok frame =>
      Engine.receive frame
      settleAll
      return (.injected seq, .one (← Engine.status c))
  | .receive frame => do
    Engine.receive frame
    settleAll
    return (.done, .all (← allStatuses))
  | .call c opcode payload capacity => do
    let id ← freshId
    discard <| spawn (.call id { channel := c, opcode, payload } capacity .start)
    settleAll
    return (.callStarted id, .one (← Engine.status c))
  | .waitIdle c => do
    let id ← freshId
    discard <| spawn (.waitIdle id c)
    settleAll
    return (.waitStarted id, .one (← Engine.status c))
  | .sinkInfo => do
    let r ← recorder
    return (.sink r.frames.size r.frames.back?, .none)
  | .takeFrames => do
    let r ← recorder
    updateRecorder fun r => { r with frames := #[] }
    return (.taken r.frames.size, .none)
  | .engineInfo => do return (.engineInfo (← world).engine.config, .none)
  | .callBlocking c opcode payload reply disable => do
    let slot ← newSlot none
    let submitted ← onOtherThread (Engine.submit c opcode payload (.slot slot))
    if submitted.toBool && (← Engine.config).hardTimeoutMs.isNone then
      return (.fault EngineConfig.durationOverflow, .none)
    let answer ← match reply with
      | some (status, body) => do
        let a := (← world).engine.addressing
        match pickFrame a (← recorder).frames (.lastOn c) with
        | some frame =>
          match ← answerFrame frame status body with
          | .ok ans => pure (some ans)
          | .error _ => pure none
        | none => pure none
      | none => pure none
    if disable then Engine.disable c
    let outcome ← match submitted with
      | .error e => pure (.error e)
      | .ok h => do
        match ← slotValue slot with
        | some r => pure r
        | none =>
          onOtherThread do
            emit .warn "emcdi_engine::sync_call" "Blocking call exceeded hard timeout, cancelling"
              [("channel", Engine.channelText c), ("handle", Engine.handleText h),
               ("opcode", .nat opcode.toNat)]
            discard <| Engine.cancel c h
          pure (.error .timeout)
    return (.blocking outcome answer, .one (← Engine.status c))
  | .invalid m => do return (.badInput m, .none)

def runStep (s : Step) : Act StepRecord := do
  clearStep
  let (reply, statuses) ← runOp s.op
  let w ← world
  return { reply, events := w.events.toList, sent := w.accepted.toList, quiet := s.quiet,
           nowMs := w.now, statuses, log := w.records.toList }

def runSteps : List Step → Act (List StepRecord)
  | [] => return []
  | s :: rest => do
    let r ← runStep s
    match r.reply with
    | .fault _ => return [r]
    | _ => return r :: (← runSteps rest)

structure Transcript where
  setupLog : List Log.Record
  steps : List StepRecord

def Transcript.fault? (t : Transcript) : Option String :=
  t.steps.findSome? fun r => match r.reply with
    | .fault m => some m
    | _ => none

/-- Runs a script: builds the engine on a recording link (ready or not), enables every
channel when asked, then runs the steps. -/
def runScript (config : EngineConfig) (ready enableAll : Bool) (filter : Option Log.Filter)
    (program : String) (steps : List Step) : Except EngineError Transcript := do
  let w ← Engine.start config (.recorder { frames := #[], failures := [], ready }) filter program
  let run : Sim Transcript := do
    if enableAll then
      for c in Channel.all do discard <| Engine.enable c
    let setupLog := (← get).records.toList
    let (steps, _) ← (runSteps steps).run 1
    return { setupLog, steps }
  return (run.run w).1

end FrameRpc.Bench
