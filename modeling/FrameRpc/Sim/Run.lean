import FrameRpc.Engine.Ops

/-!
Running tasks.

A task runs until it has to wait: for its timer, for the outcome of its call, or for a
channel to become idle. A call submits its command, then waits for the outcome at most
the hard timeout (every attempt timing out); past that it cancels the command and fails
with a timeout. The outcome is looked at before the deadline, so an outcome and the
deadline arriving together give the outcome. A hard timeout too long for a duration
breaks the call's task once the command is submitted: the command goes on, but nobody
hears its outcome.

The scheduler serves tasks in turns of at most 61. Between turns, and whenever no task
is ready, it looks at the clock: timers that are due fire, and when nothing at all is
ready the clock jumps to the next deadline. The main program, once woken, runs before
any task.
-/

namespace FrameRpc.Sim

/-- The result of looking at a call: still waiting, finished with an outcome, or broken
off because its deadline cannot be set. -/
inductive CallPoll where
  | pending (phase : CallPhase)
  | ready (r : Outcome)
  | broken

/-- The hard timeout of a call, every attempt timing out; `none` when it does not fit a
duration. -/
def hardTimeout : Sim (Option Nat) := do
  return (← Engine.config).hardTimeoutMs

def callExpired (spec : CallSpec) (handle : Nat) : Sim CallPoll := do
  emit .warn "emcdi_engine::sync_call" "Call exceeded hard timeout, cancelling"
    [("channel", Engine.channelText spec.channel), ("handle", Engine.handleText handle),
     ("opcode", .nat spec.opcode.toNat)]
  discard <| Engine.cancel spec.channel handle
  return .ready (.error .timeout)

def pollCall (self : Waker) (spec : CallSpec) : CallPhase → Sim CallPoll
  | .start => do
    let slot ← newSlot (some self)
    match ← Engine.submit spec.channel spec.opcode spec.payload (.slot slot) with
    | .error e => return .ready (.error e)
    | .ok h =>
      match ← hardTimeout with
      | none => return .broken
      | some limit =>
        let deadline := (← now) + limit
        match ← slotValue slot with
        | some r => return .ready r
        | none =>
          if ← setTimer deadline self then callExpired spec h
          else return .pending (.waiting h slot deadline)
  | .waiting h slot deadline => do
    match ← slotValue slot with
    | some r =>
      dropTimers self
      return .ready r
    | none =>
      if (← now) ≥ deadline then callExpired spec h
      else return .pending (.waiting h slot deadline)

/-- The outcome of a call into a buffer of `capacity` bytes: an answer that does not fit
is an error. -/
def fitOutcome : Option Nat → Outcome → Outcome
  | some cap, .ok bytes =>
    if bytes.length > cap then .error (.outputOverflow bytes.length cap) else .ok bytes
  | _, r => r

/-- Advances a soak worker: its calls run one after another until one has to wait or
all are done. -/
def pollWorker (self : Waker) : Nat → Worker → Sim (Worker × Bool)
  | 0, w => return (w, false)
  | fuel + 1, w => do
    match w.opcodes with
    | [] => return (w, true)
    | op :: rest =>
      match ← pollCall self { channel := w.channel, opcode := op, payload := w.payload } w.phase with
      | .pending ph => return ({ w with phase := ph }, false)
      | .broken => return ({ w with broken := true }, true)
      | .ready r =>
        match r with
        | .error e =>
          emit .warn (← ownTarget "commands") "Soak call failed"
            [("channel", Engine.channelText w.channel), ("opcode", .nat op.toNat),
             ("error", .shown e.message)]
        | .ok _ => pure ()
        pollWorker self fuel { w with opcodes := rest, phase := .start, tally := w.tally.record r }

def forgetWaiter (c : Channel) (id : Nat) : Sim Unit :=
  modify fun w => { w with idleWaiters := w.idleWaiters.set c ((w.idleWaiters.get c).filter (· != id)) }

def pollTask (id : Nat) : TaskKind → Sim (TaskKind × Bool)
  | .attemptTimer c h g d armed => do
    if armed || (← setTimer d (.task id)) then
      Engine.attemptTimedOut c h g
      return (.attemptTimer c h g d true, true)
    else return (.attemptTimer c h g d true, false)
  | .backoff c d armed => do
    if armed || (← setTimer d (.task id)) then
      Engine.backoffElapsed c
      return (.backoff c d true, true)
    else return (.backoff c d true, false)
  | .delivery f lat armed => do
    if armed || lat == 0 || (← setTimer ((← now) + lat) (.task id)) then
      Engine.receive f
      return (.delivery f lat true, true)
    else return (.delivery f lat true, false)
  | .call cid spec cap phase => do
    match ← pollCall (.task id) spec phase with
    | .pending ph => return (.call cid spec cap ph, false)
    | .broken => return (.call cid spec cap phase, true)
    | .ready r =>
      report (.called cid (fitOutcome cap r) cap.isSome)
      return (.call cid spec cap phase, true)
  | .waitIdle wid c => do
    forgetWaiter c id
    if (← Engine.chan c).isIdle then
      report (.idle wid c)
      return (.waitIdle wid c, true)
    else
      modify fun w => { w with idleWaiters := w.idleWaiters.set c (w.idleWaiters.get c ++ [id]) }
      return (.waitIdle wid c, false)
  | .worker wk => do
    let (wk, finished) ← pollWorker (.task id) (wk.opcodes.length + 1) wk
    return (.worker wk, finished)

/-- Runs a queued task once: an aborted one is dropped; one woken while it ran is queued
again; the main program is woken when it waits for this task to end. -/
def runTask (id : Nat) : Sim Unit := do
  match ← task? id with
  | none => pure ()
  | some t =>
    if t.run != .queued then pure ()
    else if t.aborted then modifyTask id fun t => { t with run := .done }
    else
      modifyTask id fun t => { t with run := .running, wokenWhileRunning := false }
      let (k, finished) ← pollTask id t.kind
      if finished then
        modifyTask id fun t => { t with kind := k, run := .done }
        dropTimers (.task id)
        if (← get).joinWaiter == some id then wake .main
      else
        let again := ((← task? id).map (·.wokenWhileRunning)).getD false
        modifyTask id fun t => { t with kind := k, run := if again then .queued else .idle }
        if again then enqueue id

/-- Takes the next task: from the local queue, or from the queue of the other thread when
the local one is empty; every 31st turn the other thread's queue comes first. -/
def nextTask : Sim (Option Nat) := do
  let w ← get
  let fromLocal : Option (Nat × World) := match w.localQueue with
    | t :: rest => some (t, { w with localQueue := rest })
    | [] => none
  let fromRemote : Option (Nat × World) := match w.remoteQueue with
    | t :: rest => some (t, { w with remoteQueue := rest })
    | [] => none
  let pick := if w.tick % 31 == 0 then fromRemote <|> fromLocal else fromLocal <|> fromRemote
  match pick with
  | some (t, w') => set w'; return some t
  | none => return none

/-- Fires every timer that is due, earliest first and in the order they were set. -/
def fireDue : Sim Unit := do
  let w ← get
  let due := (w.timers.filter (·.deadline ≤ w.now)).mergeSort (fun a b => a.deadline ≤ b.deadline)
  set { w with timers := w.timers.filter (·.deadline > w.now) }
  for t in due do wake t.waker

def parkBriefly : Sim Unit := do
  fireDue
  if (← get).mainYielded then
    modify fun w => { w with mainYielded := false }
    wake .main

/-- Nothing is ready: the clock jumps to the next deadline and the timers due then fire.
`false` when there is no timer left, so nothing can ever happen. -/
def parkUntilNext : Sim Bool := do
  let w ← get
  match (w.timers.map (·.deadline)).min? with
  | none => return false
  | some d =>
    if d > w.now then set { w with now := d }
    fireDue
    return true

inductive TurnEnd where
  | parked
  | full
  | stuck

/-- One turn: at most `n` tasks, stopping to pause when the queues are empty. -/
def turn : Nat → Sim TurnEnd
  | 0 => do parkBriefly; return .full
  | n + 1 => do
    modify fun w => { w with tick := w.tick + 1 }
    match ← nextTask with
    | some t => runTask t; turn n
    | none =>
      if (← get).mainYielded then parkBriefly; return .parked
      else if ← parkUntilNext then return .parked
      else return .stuck

/-- Runs the scheduler until the main program is woken; `false` when nothing more can
happen or `fuel` turns were not enough. -/
def untilMainWakes : Nat → Sim Bool
  | 0 => return false
  | fuel + 1 => do
    if (← get).mainWoken then
      modify fun w => { w with mainWoken := false }
      return true
    match ← turn 61 with
    | .stuck => return false
    | _ => untilMainWakes fuel

def turnBudget : Nat := 1000000

def yieldNow : Sim Unit := do
  modify fun w => { w with mainYielded := true }
  discard <| untilMainWakes turnBudget

def yieldTimes : Nat → Sim Unit
  | 0 => pure ()
  | n + 1 => do yieldNow; yieldTimes n

def sleepMain (ms : Nat) : Sim Unit := do
  let deadline := (← now) + ms
  if ← setTimer deadline .main then return
  let rec wait : Nat → Sim Unit
    | 0 => pure ()
    | fuel + 1 => do
      if ← untilMainWakes turnBudget then
        if (← now) < deadline then wait fuel
  wait 64

def joinTask (id : Nat) : Sim Unit := do
  let rec wait : Nat → Sim Unit
    | 0 => pure ()
    | fuel + 1 => do
      match ← task? id with
      | some t =>
        if t.run == .done then pure ()
        else
          modify fun w => { w with joinWaiter := some id }
          if ← untilMainWakes turnBudget then wait fuel
          modify fun w => { w with joinWaiter := none }
      | none => pure ()
  wait 64

end FrameRpc.Sim
