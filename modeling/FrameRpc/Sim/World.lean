import FrameRpc.Engine.State
import FrameRpc.Log.Filter

/-!
The simulated world an engine runs in.

A single-threaded runtime with a virtual clock runs the engine's timers and the tasks
that use it. Tasks wait in a local run queue, served first in, first out; work handed
over from another thread waits in a second queue, which is looked at first on every
31st turn and whenever the local queue is empty. A task that is woken while queued is
not queued twice; one woken while it runs is queued again when it stops.

Timers fire in order of deadline, and in the order they were set for equal deadlines. A
timer set for a moment that has already come fires at once. When nothing is ready, the
clock jumps to the next deadline.

The world also holds the engine, the link it sends frames on, the one-shot slots that
calls wait on, the outcomes reported to a script, and the log records that pass the
filter. Records raised on the other thread are not kept.
-/

namespace FrameRpc.Sim

inductive Waker where
  | main
  | task (id : Nat)
  deriving DecidableEq, Repr

structure Timer where
  deadline : Nat
  waker : Waker
  deriving DecidableEq, Repr

/-- A recording link: it keeps the frames it accepts and can be told to refuse sends or
to report that it is not ready. -/
structure Recorder where
  frames : Array (List UInt8)
  failures : List TransmitError
  ready : Bool
  deriving DecidableEq, Repr

structure Faults where
  busy : Float
  loss : Float
  queueFull : Float
  latency : Nat

structure PeerStats where
  received : Nat
  refusedBusy : Nat
  lost : Nat
  queueFull : Nat
  answered : Nat
  undecodable : Nat
  deriving DecidableEq, Repr

def PeerStats.zero : PeerStats := ⟨0, 0, 0, 0, 0, 0⟩

/-- The simulated peer: it answers each request it can read, after a delay. -/
structure Peer where
  addressing : Addressing
  faults : Faults
  attached : Bool
  stats : PeerStats

inductive Link where
  | recorder (r : Recorder)
  | peer (p : Peer)

structure Tally where
  ok : Nat
  timeout : Nat
  remote : Nat
  transport : Nat
  cancelled : Nat
  other : Nat
  deriving DecidableEq, Repr

namespace Tally

def zero : Tally := ⟨0, 0, 0, 0, 0, 0⟩

def record (t : Tally) : Outcome → Tally
  | .ok _ => { t with ok := t.ok + 1 }
  | .error .timeout => { t with timeout := t.timeout + 1 }
  | .error (.remote _) => { t with remote := t.remote + 1 }
  | .error (.transportUnavailable _) => { t with transport := t.transport + 1 }
  | .error .cancelled => { t with cancelled := t.cancelled + 1 }
  | .error _ => { t with other := t.other + 1 }

def merge (a b : Tally) : Tally :=
  ⟨a.ok + b.ok, a.timeout + b.timeout, a.remote + b.remote, a.transport + b.transport,
    a.cancelled + b.cancelled, a.other + b.other⟩

def total (t : Tally) : Nat := t.ok + t.timeout + t.remote + t.transport + t.cancelled + t.other

end Tally

/-- Where a call stands: not started, or waiting for the outcome in a slot until a hard
deadline. -/
inductive CallPhase where
  | start
  | waiting (handle slot deadline : Nat)
  deriving DecidableEq, Repr

structure CallSpec where
  channel : Channel
  opcode : UInt16
  payload : List UInt8
  deriving DecidableEq, Repr

/-- A soak worker: calls one after another on one channel, tallying the outcomes; it
breaks off, losing its tally, when a call cannot set its deadline. -/
structure Worker where
  channel : Channel
  opcodes : List UInt16
  payload : List UInt8
  phase : CallPhase
  tally : Tally
  broken : Bool := false

inductive TaskKind where
  /-- Waits until `deadline`, then reports that the attempt of `handle` sent as
  `generation` has run out of time. -/
  | attemptTimer (channel : Channel) (handle generation deadline : Nat) (armed : Bool)
  | backoff (channel : Channel) (deadline : Nat) (armed : Bool)
  | delivery (frame : List UInt8) (latency : Nat) (armed : Bool)
  /-- A call reported to the script as `id`; with a capacity, the answer must fit it. -/
  | call (id : Nat) (spec : CallSpec) (capacity : Option Nat) (phase : CallPhase)
  | waitIdle (id : Nat) (channel : Channel)
  | worker (w : Worker)

inductive RunState where
  | queued
  | running
  | idle
  | done
  deriving DecidableEq, Repr

structure Task where
  kind : TaskKind
  run : RunState
  aborted : Bool
  wokenWhileRunning : Bool

structure Slot where
  value : Option Outcome
  waiter : Option Waker

inductive Event where
  | submitted (id : Nat) (outcome : Outcome)
  /-- Call `id` finished; `withLen` for a call into a buffer. -/
  | called (id : Nat) (outcome : Outcome) (withLen : Bool)
  | idle (id : Nat) (channel : Channel)

structure World where
  engine : EngineState
  link : Link
  now : Nat
  tasks : Array Task
  localQueue : List Nat
  remoteQueue : List Nat
  timers : List Timer
  tick : Nat
  mainWoken : Bool
  /-- The main program has yielded and is woken at the next turn of the scheduler. -/
  mainYielded : Bool
  /-- Actions happen on a thread outside the runtime. -/
  otherThread : Bool
  slots : Array Slot
  idleWaiters : PerChannel (List Nat)
  events : Array Event
  accepted : Array (List UInt8)
  filter : Option Log.Filter
  /-- The program running the world: the bench's and the simulated peer's records come
  from its modules `commands` and `simulator`. -/
  program : String
  records : Array Log.Record
  spans : List Log.Span
  joinWaiter : Option Nat

def World.initial (config : EngineConfig) (link : Link) (filter : Option Log.Filter)
    (program : String) : World :=
  { engine := EngineState.initial config, link, now := 0, tasks := #[], localQueue := [],
    remoteQueue := [], timers := [], tick := 0, mainWoken := false, mainYielded := false,
    otherThread := false, slots := #[], idleWaiters := PerChannel.uniform [], events := #[],
    accepted := #[], filter, program, records := #[], spans := [], joinWaiter := none }

end FrameRpc.Sim

namespace FrameRpc

abbrev Sim := StateM Sim.World

end FrameRpc

namespace FrameRpc.Sim

def now : Sim Nat := return (← get).now

/-- Raises a log record whose call site also names the `unset` fields; it is kept when
raised on the runtime thread and the filter lets it through. -/
def emitWith (level : Log.Level) (target message : String) (fields : List (String × Log.FieldValue))
    (unset : List String) : Sim Unit :=
  modify fun w =>
    match w.filter with
    | some f =>
      match (if w.otherThread then none
        else f.keep { level, target, message := some message, fields, unset, spans := w.spans }) with
      | some r => { w with records := w.records.push r }
      | none => w
    | none => w

/-- Raises a log record whose call site names exactly the given fields. -/
def emit (level : Log.Level) (target message : String) (fields : List (String × Log.FieldValue)) :
    Sim Unit :=
  emitWith level target message fields []

def ownTarget (module : String) : Sim String := return (← get).program ++ "::" ++ module

def enqueue (id : Nat) : Sim Unit :=
  modify fun w =>
    if w.otherThread then { w with remoteQueue := w.remoteQueue ++ [id] }
    else { w with localQueue := w.localQueue ++ [id] }

def spawn (k : TaskKind) : Sim Nat := do
  let id := (← get).tasks.size
  let t : Task := { kind := k, run := .queued, aborted := false, wokenWhileRunning := false }
  modify fun w => { w with tasks := w.tasks.push t }
  enqueue id
  return id

def modifyTask (id : Nat) (f : Task → Task) : Sim Unit :=
  modify fun w => { w with tasks := w.tasks.modify id f }

def task? (id : Nat) : Sim (Option Task) := return (← get).tasks[id]?

/-- Wakes the main program or a task. A waiting task is queued; a queued or finished one
is left alone; a running one is queued again when it stops. -/
def wake : Waker → Sim Unit
  | .main => modify fun w => { w with mainWoken := true }
  | .task id => do
    match ← task? id with
    | some t =>
      match t.run with
      | .idle => modifyTask id (fun t => { t with run := .queued }); enqueue id
      | .running => modifyTask id (fun t => { t with wokenWhileRunning := true })
      | _ => pure ()
    | none => pure ()

def dropTimers (w : Waker) : Sim Unit :=
  modify fun s => { s with timers := s.timers.filter (·.waker != w) }

/-- Stops a task: it will not run again. A waiting task is queued once more so that the
scheduler can drop it. -/
def abort (id : Nat) : Sim Unit := do
  match ← task? id with
  | some t =>
    if t.run == .done || t.aborted then pure ()
    else
      modifyTask id (fun t => { t with aborted := true })
      dropTimers (.task id)
      if t.run == .idle then
        modifyTask id (fun t => { t with run := .queued })
        enqueue id
  | none => pure ()

/-- Sets a timer for `w`; `true` when the deadline has already come and nothing was set. -/
def setTimer (deadline : Nat) (w : Waker) : Sim Bool := do
  if deadline ≤ (← now) then return true
  modify fun s => { s with timers := s.timers ++ [{ deadline, waker := w }] }
  return false

def newSlot (waiter : Option Waker) : Sim Nat := do
  let n := (← get).slots.size
  modify fun w => { w with slots := w.slots.push { value := none, waiter } }
  return n

def slotValue (n : Nat) : Sim (Option Outcome) :=
  return ((← get).slots[n]?).bind (·.value)

def fill (n : Nat) (r : Outcome) : Sim Unit := do
  modify fun w => { w with slots := w.slots.modify n fun s => { s with value := some r } }
  match ((← get).slots[n]?).bind (·.waiter) with
  | some k => wake k
  | none => pure ()

/-- Hands an outcome to its owner: a callback reports it, a slot keeps it and wakes its
reader. A callback that panics reports nothing, and `false` says that it never returned. -/
def deliver : Owner → Outcome → Sim Bool
  | .callback id, r => do
    if (← get).engine.panicking.contains id then return false
    modify fun w => { w with events := w.events.push (.submitted id r) }
    return true
  | .slot n, r => do
    fill n r
    return true

/-- Drops an owner without its outcome: a callback is never run, and the reader of a slot
finds its sender gone, which a call takes as a cancel. -/
def abandon : Owner → Sim Unit
  | .callback _ => pure ()
  | .slot n => fill n (.error .cancelled)

def report (e : Event) : Sim Unit := modify fun w => { w with events := w.events.push e }

def onOtherThread {α : Type} (x : Sim α) : Sim α := do
  let before := (← get).otherThread
  modify fun w => { w with otherThread := true }
  let a ← x
  modify fun w => { w with otherThread := before }
  return a

end FrameRpc.Sim
