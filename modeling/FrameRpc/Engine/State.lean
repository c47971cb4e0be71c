import FrameRpc.Engine.Error
import FrameRpc.Config.Settings

/-!
The engine's state.

Each channel keeps its unfinished commands in submission order, the handle of the one
command in flight, the last sequence number it sent, and its counters. A command is
queued, running, waiting to be sent again, or cancelled while its attempt is still out;
it leaves the list exactly once, and its completion is taken out at that moment (or when
it is cancelled while running), so it is delivered once.

Timers are tasks of the runtime the engine lives on; the state keeps their task numbers
so that they can be stopped.
-/

namespace FrameRpc

structure PerChannel (α : Type) where
  control : α
  counter : α
  upgrade : α
  spawn : α
  logger : α
  deriving DecidableEq, Repr

namespace PerChannel

def uniform {α : Type} (a : α) : PerChannel α := ⟨a, a, a, a, a⟩

def get {α : Type} (p : PerChannel α) : Channel → α
  | .control => p.control
  | .counter => p.counter
  | .upgrade => p.upgrade
  | .spawn => p.spawn
  | .logger => p.logger

def set {α : Type} (p : PerChannel α) (c : Channel) (a : α) : PerChannel α :=
  match c with
  | .control => { p with control := a }
  | .counter => { p with counter := a }
  | .upgrade => { p with upgrade := a }
  | .spawn => { p with spawn := a }
  | .logger => { p with logger := a }

@[simp] theorem get_set_self {α : Type} (p : PerChannel α) (c : Channel) (a : α) :
    (p.set c a).get c = a := by
  cases c <;> rfl

@[simp] theorem get_set_other {α : Type} (p : PerChannel α) (c d : Channel) (a : α)
    (h : d ≠ c) : (p.set c a).get d = p.get d := by
  cases c <;> cases d <;> first | rfl | exact absurd rfl h

end PerChannel

inductive Owner where
  /-- A callback registered by a submitter, known by its number. -/
  | callback (id : Nat)
  /-- A one-shot slot that a waiting call reads. -/
  | slot (n : Nat)
  deriving DecidableEq, Repr

abbrev Outcome := Except EngineError (List UInt8)

inductive CommandState where
  | queued
  | running
  | retry
  /-- Cancelled while its attempt is out; its owner already knows. -/
  | runningCancelled
  deriving DecidableEq, Repr

namespace CommandState

def isSendable : CommandState → Bool
  | .queued | .retry => true
  | _ => false

def isInFlight : CommandState → Bool
  | .running | .runningCancelled => true
  | _ => false

def name : CommandState → String
  | .queued => "queued"
  | .running => "running"
  | .retry => "retry"
  | .runningCancelled => "running_cancelled"

end CommandState

structure Command where
  handle : Nat
  opcode : UInt16
  input : List UInt8
  state : CommandState
  seq : UInt16
  /-- Failed attempts so far: timeouts, refused sends and busy answers. -/
  attempts : Nat
  /-- Raised on every send; an attempt timer only acts on its own generation. -/
  generation : Nat
  /-- When it was submitted, in milliseconds. -/
  started : Nat
  owner : Option Owner
  timer : Option Nat
  deriving DecidableEq, Repr

structure Counters where
  submitted : Nat
  sent : Nat
  completed : Nat
  failed : Nat
  retries : Nat
  timeouts : Nat
  cancelled : Nat
  droppedFrames : Nat
  deriving DecidableEq, Repr

def Counters.zero : Counters := ⟨0, 0, 0, 0, 0, 0, 0, 0⟩

structure ChannelState where
  enabled : Bool
  pending : List Command
  /-- The command in flight (running or cancelled while running). -/
  running : Option Nat
  lastSeq : UInt16
  nextHandle : Nat
  /-- Outcomes collected and not yet delivered. -/
  cleanupPending : Nat
  /-- The task of the armed back-off, which holds off sends. -/
  backoff : Option Nat
  counters : Counters
  deriving DecidableEq, Repr

def ChannelState.initial : ChannelState :=
  { enabled := false, pending := [], running := none, lastSeq := 0, nextHandle := 0,
    cleanupPending := 0, backoff := none, counters := Counters.zero }

namespace ChannelState

/-- Whether nothing is unfinished and no outcome waits to be delivered. -/
def isIdle (s : ChannelState) : Bool := s.pending.isEmpty && s.cleanupPending == 0

def position (s : ChannelState) (handle : Nat) : Option Nat :=
  s.pending.findIdx? (·.handle == handle)

def nextSendable (s : ChannelState) : Option Nat :=
  s.pending.findIdx? (·.state.isSendable)

def commandState (s : ChannelState) (handle : Nat) : Option CommandState :=
  (s.pending.find? (·.handle == handle)).map (·.state)

def modifyAt (s : ChannelState) (idx : Nat) (f : Command → Command) : ChannelState :=
  { s with pending := s.pending.modify idx f }

/-- Why an answer with sequence number `seq` is dropped, if it is: the channel must be
enabled and have a command in flight, and the answer must carry the last number sent. -/
def rejection (s : ChannelState) (seq : UInt16) : Option String :=
  if !s.enabled then some "channel disabled"
  else if s.running.isNone then some "no command in flight"
  else if seq != s.lastSeq then some "sequence mismatch"
  else none

/-- The position of the command an answer with sequence number `seq` is for, when the
answer passes the checks. -/
def answering (s : ChannelState) (seq : UInt16) : Option Nat :=
  match s.rejection seq, s.running with
  | none, some h => s.position h
  | _, _ => none

end ChannelState

structure ChannelStatus where
  channel : Channel
  enabled : Bool
  pending : Nat
  running : Option Nat
  lastSeq : UInt16
  cleanupPending : Nat
  counters : Counters
  deriving DecidableEq, Repr

/-- Rate limit for warnings about dropped frames: at most `burst` per window; the window
restarts at the first drop once it has run out. -/
structure DropLimiter where
  burst : Nat
  window : Nat
  windowStart : Option Nat
  emitted : Nat
  suppressed : Nat
  deriving DecidableEq, Repr

/-- Counts a drop at time `now`: the number of warnings held back since the last one let
through when this one may be logged, `none` when it stays quiet. -/
def DropLimiter.admit (l : DropLimiter) (now : Nat) : DropLimiter × Option Nat :=
  let l := match l.windowStart with
    | some start => if now - start ≥ l.window then { l with windowStart := some now, emitted := 0 } else l
    | none => { l with windowStart := some now, emitted := 0 }
  if l.emitted < l.burst then ({ l with emitted := l.emitted + 1, suppressed := 0 }, some l.suppressed)
  else ({ l with suppressed := l.suppressed + 1 }, none)

structure EngineState where
  config : EngineConfig
  channels : PerChannel ChannelState
  drops : DropLimiter
  /-- The submissions whose callbacks panic when run. A fresh engine holds none and the
  engine never adds one. -/
  panicking : List Nat
  deriving DecidableEq

def EngineState.initial (config : EngineConfig) : EngineState :=
  { config, channels := PerChannel.uniform ChannelState.initial,
    drops := { burst := config.dropLogBurst, window := config.dropLogWindowMs,
               windowStart := none, emitted := 0, suppressed := 0 },
    panicking := [] }

/-- Whether an owner panics when handed its outcome: a callback among the `panicking`
submissions does, a slot never. -/
def Owner.panics (panicking : List Nat) : Owner → Bool
  | .callback id => panicking.contains id
  | .slot _ => false

def EngineState.addressing (e : EngineState) : Addressing := e.config.addressing

def EngineState.status (e : EngineState) (c : Channel) : ChannelStatus :=
  let s := e.channels.get c
  { channel := c, enabled := s.enabled, pending := s.pending.length, running := s.running,
    lastSeq := s.lastSeq, cleanupPending := s.cleanupPending, counters := s.counters }

end FrameRpc
