import FrameRpc.Sim.Link

/-!
The engine's operations.

Each operation works on one channel. It changes the channel's state, sending frames and
arming timers as it goes, and collects the outcomes of the commands it finishes; those
are delivered after the state is stored, in the order they were collected. When the
channel is left with nothing unfinished, those waiting for it to become idle are woken.

Sending takes the first command that may be sent while the channel is enabled, has no
command in flight and no back-off armed. A send uses the next sequence number and arms
the attempt timer; a refused send counts as a failed attempt and arms the back-off, or
fails the command once the attempt budget is spent.

An answer is accepted only on an enabled channel with a command in flight and only for
the last sequence number sent; anything else is dropped and counted. A busy answer is a
failed attempt; success completes the command; any other status fails it.
-/

namespace FrameRpc.Engine

open Sim

abbrev Done := Array (Owner × Outcome)

def chan (c : Channel) : Sim ChannelState := return (← get).engine.channels.get c

def putChan (c : Channel) (s : ChannelState) : Sim Unit :=
  modify fun w => { w with engine := { w.engine with channels := w.engine.channels.set c s } }

def config : Sim EngineConfig := return (← get).engine.config

def handleText (h : Nat) : Log.FieldValue := .shown ("#" ++ toString h)

def channelText (c : Channel) : Log.FieldValue := .shown c.name

def stopTimer : Option Nat → Sim Unit
  | some id => abort id
  | none => pure ()

/-- Removes the command at `idx`, stopping its timer, and collects its outcome if it was
not delivered yet. -/
def finish (s : ChannelState) (idx : Nat) (r : Outcome) (done : Done) : Sim (ChannelState × Done) := do
  match s.pending[idx]? with
  | none => return (s, done)
  | some cmd =>
    let s := { s with pending := s.pending.eraseIdx idx }
    stopTimer cmd.timer
    let s := if s.running == some cmd.handle then { s with running := none } else s
    match cmd.owner with
    | some o => return ({ s with cleanupPending := s.cleanupPending + 1 }, done.push (o, r))
    | none => return (s, done)

/-- Removes a cancelled command whose owner already knows. -/
def reap (s : ChannelState) (idx : Nat) : Sim ChannelState := do
  match s.pending[idx]? with
  | none => return s
  | some cmd =>
    let s := { s with pending := s.pending.eraseIdx idx }
    stopTimer cmd.timer
    let s := if s.running == some cmd.handle then { s with running := none } else s
    emit .debug "emcdi_engine::channel" "Reaped cancelled command"
      [("handle", handleText cmd.handle), ("seq", .nat cmd.seq.toNat)]
    return s

def notifyIfIdle (c : Channel) : Sim Unit := do
  if (← chan c).isIdle then
    let waiters := (← get).idleWaiters.get c
    modify fun w => { w with idleWaiters := w.idleWaiters.set c [] }
    for id in waiters do wake (.task id)

/-- Counts one collected outcome off the channel and wakes its idle waiters if it has
become idle. -/
def release (c : Channel) : Sim Unit := do
  let s ← chan c
  putChan c { s with cleanupPending := s.cleanupPending - 1 }
  notifyIfIdle c

/-- Runs a batch of collected outcomes in order, each counted off the channel once its
owner has had it. A callback that panics unwinds through the rest of the batch: the
outcomes left are still counted off, one by one, but their owners are dropped without
them. -/
def completeWith (c : Channel) : Bool → List (Owner × Outcome) → Sim Unit
  | _, [] => pure ()
  | false, (o, r) :: rest => do
    let returned ← deliver o r
    release c
    completeWith c (!returned) rest
  | true, (o, _) :: rest => do
    release c
    abandon o
    completeWith c true rest

def complete (c : Channel) (done : Done) : Sim Unit := completeWith c false done.toList

/-- Encodes the request of `cmd` with sequence number `seq` on channel `c` and hands it to
the link; a request that cannot be encoded counts as a refused send. -/
def transmit (c : Channel) (cmd : Command) (seq : UInt16) : Sim (Except TransmitError Unit) := do
  let cfg ← config
  match Wire.encode cfg.addressing c.txKind seq cmd.opcode Status.ok cmd.input with
  | .error e => do
    emit .warn "emcdi_engine::engine" "Frame encoding failed"
      [("channel", channelText c), ("handle", handleText cmd.handle), ("error", .shown e.message)]
    pure (.error .alloc)
  | .ok frame => do
    if cfg.traceFrames then
      emit .trace "emcdi_engine::engine" "TX frame"
        [("channel", channelText c), ("seq", .nat seq.toNat), ("frame", .shown (Dump.words frame))]
    linkSend frame

def sendAttempt (c : Channel) (s : ChannelState) (idx : Nat) (done : Done) :
    Sim (ChannelState × Done) := do
  let cfg ← config
  match s.pending[idx]? with
  | none => return (s, done)
  | some cmd =>
    let seq := s.lastSeq + 1
    let sent ← transmit c cmd seq
    match sent with
    | .ok () =>
      let generation := cmd.generation + 1
      let timer ← spawn (.attemptTimer c cmd.handle generation ((← now) + cfg.attemptTimeoutMs) false)
      let s := s.modifyAt idx fun k =>
        { k with seq, generation, state := .running, timer := some timer }
      let s := { s with lastSeq := seq, running := some cmd.handle,
                        counters := { s.counters with sent := s.counters.sent + 1 } }
      emit .debug "emcdi_engine::engine" "Command sent"
        [("channel", channelText c), ("handle", handleText cmd.handle), ("seq", .nat seq.toNat),
         ("opcode", .nat cmd.opcode.toNat)]
      return (s, done)
    | .error err =>
      let attempts := cmd.attempts + 1
      let s := s.modifyAt idx fun k => { k with attempts }
      if attempts ≥ cfg.retryBudget then
        emit .warn "emcdi_engine::engine" "Transmit failed, giving up"
          [("channel", channelText c), ("handle", handleText cmd.handle), ("attempts", .nat attempts),
           ("error", .shown err.message)]
        let s := { s with counters := { s.counters with failed := s.counters.failed + 1 } }
        finish s idx (.error (.transportUnavailable attempts)) done
      else
        emit .debug "emcdi_engine::engine" "Transmit failed, backing off"
          [("channel", channelText c), ("handle", handleText cmd.handle), ("attempts", .nat attempts),
           ("error", .shown err.message)]
        let s := s.modifyAt idx fun k => { k with state := .retry }
        let backoff ← spawn (.backoff c ((← now) + cfg.busyBackoffMs) false)
        return ({ s with counters := { s.counters with retries := s.counters.retries + 1 },
                         backoff := some backoff }, done)

/-- Sends while the channel is free. Every attempt either puts a command in flight, arms
the back-off or finishes a command, so `fuel` at one more than the number of unfinished
commands is enough. -/
def pumpWith (c : Channel) : Nat → ChannelState → Done → Sim (ChannelState × Done)
  | 0, s, done => return (s, done)
  | fuel + 1, s, done => do
    if s.enabled && s.running.isNone && s.backoff.isNone then
      match s.nextSendable with
      | some idx =>
        let (s, done) ← sendAttempt c s idx done
        pumpWith c fuel s done
      | none => return (s, done)
    else return (s, done)

def pump (c : Channel) (s : ChannelState) (done : Done) : Sim (ChannelState × Done) :=
  pumpWith c (s.pending.length + 1) s done

/-- Stores the channel, wakes idle waiters, and delivers the collected outcomes. -/
def settle (c : Channel) (s : ChannelState) (done : Done) : Sim Unit := do
  putChan c s
  notifyIfIdle c
  complete c done

/-- Enables a channel; it stays disabled when the link is not ready. Enabling an enabled
channel succeeds. -/
def enable (c : Channel) : Sim (Except EngineError Unit) := do
  let s ← chan c
  if s.enabled then return .ok ()
  if !(← linkReady) then
    emit .warn "emcdi_engine::engine" "Transport not ready, channel stays disabled"
      [("channel", channelText c)]
    return .error .transportNotReady
  putChan c { s with enabled := true }
  emit .info "emcdi_engine::engine" "Channel enabled"
    [("channel", channelText c), ("last_seq", .nat s.lastSeq.toNat)]
  return .ok ()

/-- Cancels every unfinished command from the front, reaping those already cancelled. -/
def drainAll (c : Channel) : Nat → ChannelState → Done → Sim (ChannelState × Done)
  | 0, s, done => return (s, done)
  | fuel + 1, s, done => do
    match s.pending with
    | [] => return (s, done)
    | cmd :: _ =>
      if cmd.state == .runningCancelled then
        drainAll c fuel (← reap s 0) done
      else
        let s := { s with counters := { s.counters with cancelled := s.counters.cancelled + 1 } }
        let (s, done) ← finish s 0 (.error .cancelled) done
        drainAll c fuel s done

/-- Disables a channel: new submissions are refused and every unfinished command is
cancelled. Disabling a disabled channel changes nothing. -/
def disable (c : Channel) : Sim Unit := do
  let s ← chan c
  if s.enabled then
    stopTimer s.backoff
    let s := { s with enabled := false, backoff := none }
    let (s, done) ← drainAll c (s.pending.length + 1) s #[]
    emit .info "emcdi_engine::engine" "Channel disabled"
      [("channel", channelText c), ("cancelled", .nat done.size)]
    settle c s done
  else settle c s #[]

def shutdown : Sim Unit := do
  for c in Channel.all do disable c
  emit .info "emcdi_engine::engine" "Engine shut down" []

/-- Queues a command whose outcome goes to `owner`, and sends it if the channel is free.
A payload over the ceiling is refused first, then a disabled channel. -/
def submit (c : Channel) (opcode : UInt16) (input : List UInt8) (owner : Owner) :
    Sim (Except EngineError Nat) := do
  let cfg ← config
  if input.length > cfg.maxPayload then
    return .error (.payloadTooLarge input.length cfg.maxPayload)
  let s ← chan c
  if !s.enabled then return .error (.channelDisabled c)
  let handle := s.nextHandle + 1
  emit .debug "emcdi_engine::engine" "Command queued"
    [("channel", channelText c), ("handle", handleText handle), ("opcode", .nat opcode.toNat),
     ("len", .nat input.length)]
  let cmd : Command := { handle, opcode, input, state := .queued, seq := 0, attempts := 0,
                         generation := 0, started := ← now, owner := some owner, timer := none }
  let s := { s with nextHandle := handle, pending := s.pending ++ [cmd],
                    counters := { s.counters with submitted := s.counters.submitted + 1 } }
  let (s, done) ← pump c s #[]
  settle c s done
  return .ok handle

/-- Cancels a command. A queued one is removed; a running one is marked and its owner told
at once, the channel staying busy until its attempt resolves. Unknown, finished and
already cancelled commands give `false`. -/
def cancel (c : Channel) (handle : Nat) : Sim Bool := do
  let s ← chan c
  let fields := [("channel", channelText c), ("handle", handleText handle)]
  match s.position handle with
  | none =>
    emit .debug "emcdi_engine::cancel" "Cancel for unknown or finished command ignored" fields
    settle c s #[]
    return false
  | some idx =>
    match (s.pending[idx]?).map (·.state) with
    | some CommandState.queued | some CommandState.retry =>
      let s := { s with counters := { s.counters with cancelled := s.counters.cancelled + 1 } }
      let (s, done) ← finish s idx (.error .cancelled) #[]
      emit .debug "emcdi_engine::cancel" "Queued command cancelled" fields
      settle c s done
      return true
    | some CommandState.running =>
      let owner := (s.pending[idx]?).bind (·.owner)
      let s := s.modifyAt idx fun k => { k with state := .runningCancelled, owner := none }
      let (s, done) : ChannelState × Done := match owner with
        | some o => ({ s with cleanupPending := s.cleanupPending + 1 }, #[(o, .error .cancelled)])
        | none => (s, #[])
      let s := { s with counters := { s.counters with cancelled := s.counters.cancelled + 1 } }
      emit .debug "emcdi_engine::cancel" "Running command cancelled" fields
      settle c s done
      return true
    | _ =>
      emit .warn "emcdi_engine::cancel" "Command already cancelled" fields
      settle c s #[]
      return false

/-- Reports a dropped frame, within the rate limit. -/
def reportDrop (c : Option Channel) (seq : Option UInt16) (reason : String) : Sim Unit := do
  let w ← get
  let (drops, admitted) := w.engine.drops.admit w.now
  set { w with engine := { w.engine with drops } }
  match admitted with
  | some suppressed =>
    emitWith .warn "emcdi_engine::dispatch" "Dropping inbound frame"
      ((match c with
        | some c => [("channel", Log.FieldValue.text c.name)]
        | none => []) ++
       (match seq with
        | some q => [("seq", Log.FieldValue.nat q.toNat)]
        | none => []) ++
       [("reason", .text reason), ("suppressed", .nat suppressed)])
      ((if c.isNone then ["channel"] else []) ++ (if seq.isNone then ["seq"] else []))
  | none => pure ()

/-- Resolves the command `cmd` at `idx`, whose attempt the frame `f` answered, by the
frame's status. A command cancelled while running is only reaped. -/
def answer (c : Channel) (s : ChannelState) (idx : Nat) (cmd : Command) (f : Frame) :
    Sim (ChannelState × Done) := do
  let cfg ← config
  let fields := [("channel", channelText c), ("handle", handleText cmd.handle)]
  if cmd.state == .runningCancelled then
    return (← reap s idx, #[])
  else if f.status == Status.queueFull then
    let attempts := cmd.attempts + 1
    let s := s.modifyAt idx fun k => { k with attempts }
    if attempts ≥ cfg.retryBudget then
      emit .warn "emcdi_engine::dispatch" "Remote queue still full, giving up"
        (fields ++ [("attempts", .nat attempts)])
      let s := { s with counters := { s.counters with failed := s.counters.failed + 1 } }
      finish s idx (.error (.remote f.status.code)) #[]
    else
      emit .debug "emcdi_engine::dispatch" "Remote queue full, backing off"
        (fields ++ [("attempts", .nat attempts)])
      let s := s.modifyAt idx fun k => { k with state := .retry }
      let backoff ← spawn (.backoff c ((← now) + cfg.busyBackoffMs) false)
      return ({ s with counters := { s.counters with retries := s.counters.retries + 1 },
                       running := none, backoff := some backoff }, #[])
  else if f.status == Status.ok then
    let s := { s with counters := { s.counters with completed := s.counters.completed + 1 } }
    finish s idx (.ok f.payload) #[]
  else
    emit .debug "emcdi_engine::dispatch" "Remote reported failure"
      (fields ++ [("status", .nat f.status.code.toNat)])
    let s := { s with counters := { s.counters with failed := s.counters.failed + 1 } }
    finish s idx (.error (.remote f.status.code)) #[]

/-- Matches a decoded frame with the command in flight on its channel, or drops it. -/
def dispatch (f : Frame) : Sim Unit := do
  let c := f.channel
  let s ← chan c
  let reject := s.rejection f.seq
  match s.answering f.seq with
  | none =>
    putChan c { s with counters := { s.counters with droppedFrames := s.counters.droppedFrames + 1 } }
    reportDrop (some c) (some f.seq) (reject.getD "running command missing")
  | some idx =>
    match s.pending[idx]? with
    | none => pure ()
    | some cmd =>
      stopTimer cmd.timer
      let s := s.modifyAt idx fun k => { k with timer := none }
      emit .debug "emcdi_engine::dispatch" "Response received"
        ([("channel", channelText c), ("handle", handleText cmd.handle)] ++
         [("seq", .nat f.seq.toNat), ("kind", .inspected f.kind.typeName),
          ("status", .nat f.status.code.toNat)])
      let (s, done) ← answer c s idx cmd f
      let (s, done) ← pump c s done
      settle c s done

def route : Except FrameError Frame → Sim Unit
  | .error e => reportDrop none none e.message
  | .ok f => dispatch f

def receive (bytes : List UInt8) : Sim Unit := do
  let cfg ← config
  if cfg.traceFrames then
    emit .trace "emcdi_engine::dispatch" "RX frame"
      [("len", .nat bytes.length), ("frame", .shown (Dump.words bytes))]
  route (Wire.decode cfg.addressing bytes)

/-- Resolves the command `cmd` at `idx`, whose attempt timer ran out: the attempt is spent,
and the command waits to be sent again or fails once the budget is spent. A command
cancelled while running is only reaped. -/
def expire (c : Channel) (s : ChannelState) (idx : Nat) (cmd : Command) :
    Sim (ChannelState × Done) := do
  let cfg ← config
  let fields := [("channel", channelText c), ("handle", handleText cmd.handle)]
  if cmd.state == .runningCancelled then
    return (← reap s idx, #[])
  else
    let attempts := cmd.attempts + 1
    let elapsed := (← now) - cmd.started
    let s := s.modifyAt idx fun k => { k with attempts }
    let s := { s with counters := { s.counters with timeouts := s.counters.timeouts + 1 } }
    if attempts ≥ cfg.retryBudget then
      emit .warn "emcdi_engine::supervisor" "Command timed out"
        (fields ++ [("attempts", .nat attempts), ("elapsed_ms", .nat elapsed)])
      let s := { s with counters := { s.counters with failed := s.counters.failed + 1 } }
      finish s idx (.error .timeout) #[]
    else
      emit .debug "emcdi_engine::supervisor" "Attempt timed out, retrying"
        (fields ++ [("attempts", .nat attempts)])
      let s := s.modifyAt idx fun k => { k with state := .retry }
      return ({ s with counters := { s.counters with retries := s.counters.retries + 1 },
                       running := none }, #[])

/-- The attempt timer of `handle`'s send number `generation` ran out. It does nothing
when the command is gone or was sent again since. -/
def attemptTimedOut (c : Channel) (handle generation : Nat) : Sim Unit := do
  let s ← chan c
  match s.position handle with
  | none => pure ()
  | some idx =>
    match s.pending[idx]? with
    | none => pure ()
    | some cmd =>
      if cmd.generation != generation || !cmd.state.isInFlight then pure ()
      else
        let s := s.modifyAt idx fun k => { k with timer := none }
        let (s, done) ← expire c s idx cmd
        let (s, done) ← pump c s done
        settle c s done

def backoffElapsed (c : Channel) : Sim Unit := do
  let s ← chan c
  let (s, done) ← pump c { s with backoff := none } #[]
  settle c s done

def status (c : Channel) : Sim ChannelStatus := return (← get).engine.status c

/-- A world running a fresh engine with every channel disabled, or why its settings are
refused. -/
def start (config : EngineConfig) (link : Link) (filter : Option Log.Filter) (program : String) :
    Except EngineError World :=
  match config.validate with
  | some m => .error (.invalidConfig ("Configuration error: " ++ m))
  | none =>
    let created : Sim Unit :=
      emit .debug "emcdi_engine::engine" "Engine created"
        [("local", .shown config.localMac.text), ("remote", .shown config.remoteMac.text)]
    .ok (created.run (World.initial config link filter program)).2

end FrameRpc.Engine
