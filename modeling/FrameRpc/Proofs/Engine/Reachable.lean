import FrameRpc.Proofs.Engine.Steps
set_option autoImplicit false

/-!
The worlds an engine reaches.

An engine starts with every channel disabled. From then on anything may happen to it, in
any order: the calls of its interface, frames arriving from the link, and its attempt
timers and back-offs running out, whether or not they are still armed. Whatever happens
around the engine in between (the link taking or refusing frames, the clock, the other
tasks of the runtime) is free as long as it leaves the engine itself alone. Every run of
the simulated runtime stays inside this set, and the engine's invariants are proved
over all of it.
-/

namespace FrameRpc.Engine

open Sim

inductive Action where
  | enable (c : Channel)
  | disable (c : Channel)
  | shutdown
  | submit (c : Channel) (opcode : UInt16) (input : List UInt8) (owner : Owner)
  | cancel (c : Channel) (handle : Nat)
  | receive (bytes : List UInt8)
  | attemptTimedOut (c : Channel) (handle generation : Nat)
  | backoffElapsed (c : Channel)

def Action.run : Action → Sim Unit
  | .enable c => discard (Engine.enable c)
  | .disable c => Engine.disable c
  | .shutdown => Engine.shutdown
  | .submit c opcode input owner => discard (Engine.submit c opcode input owner)
  | .cancel c handle => discard (Engine.cancel c handle)
  | .receive bytes => Engine.receive bytes
  | .attemptTimedOut c handle generation => Engine.attemptTimedOut c handle generation
  | .backoffElapsed c => Engine.backoffElapsed c

def Action.step (a : Action) (w : World) : World := (StateT.run a.run w).2

section step

variable (w : World)

@[simp] theorem Action.step_enable (c : Channel) : (Action.enable c).step w = ((Engine.enable c).run w).2 := by
  rw [Action.step, Action.run, run_discard]

@[simp] theorem Action.step_disable (c : Channel) : (Action.disable c).step w = ((Engine.disable c).run w).2 :=
  rfl

@[simp] theorem Action.step_shutdown : Action.shutdown.step w = (Engine.shutdown.run w).2 := rfl

@[simp] theorem Action.step_submit (c : Channel) (opcode : UInt16) (input : List UInt8) (owner : Owner) :
    (Action.submit c opcode input owner).step w = ((Engine.submit c opcode input owner).run w).2 := by
  rw [Action.step, Action.run, run_discard]

@[simp] theorem Action.step_cancel (c : Channel) (handle : Nat) :
    (Action.cancel c handle).step w = ((Engine.cancel c handle).run w).2 := by
  rw [Action.step, Action.run, run_discard]

@[simp] theorem Action.step_receive (bytes : List UInt8) :
    (Action.receive bytes).step w = ((Engine.receive bytes).run w).2 := rfl

@[simp] theorem Action.step_attemptTimedOut (c : Channel) (handle generation : Nat) :
    (Action.attemptTimedOut c handle generation).step w =
      ((Engine.attemptTimedOut c handle generation).run w).2 := rfl

@[simp] theorem Action.step_backoffElapsed (c : Channel) :
    (Action.backoffElapsed c).step w = ((Engine.backoffElapsed c).run w).2 := rfl

end step

inductive Reachable : World → Prop where
  | start {config : EngineConfig} {link : Link} {filter : Option Log.Filter} {program : String}
      {w : World} : start config link filter program = .ok w → Reachable w
  | act {w : World} (a : Action) : Reachable w → Reachable (a.step w)
  | outside {w w' : World} : Reachable w → w'.engine = w.engine → Reachable w'

section start

variable {config : EngineConfig} {link : Link} {filter : Option Log.Filter} {program : String}
  {w : World}

theorem start_engine (h : start config link filter program = .ok w) :
    w.engine = EngineState.initial config := by
  unfold start at h
  split at h
  · cases h
  · cases h
    exact emit_engine _ _ _ _ _

theorem start_view (h : start config link filter program = .ok w) :
    w.view = (World.initial config link filter program).view := by
  unfold start at h
  split at h
  · cases h
  · cases h
    exact emit_view _ _ _ _ _

end start

theorem Reachable.initial {config : EngineConfig} (link : Link) (filter : Option Log.Filter)
    (program : String) (h : config.validate = none) :
    Reachable (World.initial config link filter program) := by
  obtain ⟨w, started⟩ : ∃ w, Engine.start config link filter program = .ok w :=
    ⟨_, by rw [Engine.start, h]⟩
  exact .outside (.start started) (by rw [start_engine started]; rfl)

def Action.accepted (a : Action) (w : World) : List (Channel × Nat × Owner) :=
  match a with
  | .submit c opcode input owner =>
    match ((Engine.submit c opcode input owner).run w).1 with
    | .ok h => [(c, h, owner)]
    | .error _ => []
  | _ => []

/-- The runs of an engine from its start, with the submissions it accepted on the way,
oldest first. Between actions the world around the engine changes freely, but for the
engine itself, the frames the link took, whether the link records them, and the callbacks
reported as run. -/
inductive Run : World → List (Channel × Nat × Owner) → Prop where
  | start {config : EngineConfig} {link : Link} {filter : Option Log.Filter} {program : String}
      {w : World} : start config link filter program = .ok w → Run w []
  | act {w : World} {acc : List (Channel × Nat × Owner)} (a : Action) : Run w acc →
      Run (a.step w) (acc ++ a.accepted w)
  | outside {w w' : World} {acc : List (Channel × Nat × Owner)} : Run w acc →
      w'.engine = w.engine → w'.accepted = w.accepted → w'.link.recording = w.link.recording →
      w'.events.toList.filterMap Event.callback? = w.events.toList.filterMap Event.callback? →
      Run w' acc

theorem Run.reachable {w : World} {acc : List (Channel × Nat × Owner)} (h : Run w acc) :
    Reachable w := by
  induction h with
  | start h => exact .start h
  | act a _ ih => exact .act a ih
  | outside _ same _ _ _ ih => exact .outside ih same

theorem Run.initial {config : EngineConfig} (link : Link) (filter : Option Log.Filter)
    (program : String) (h : config.validate = none) :
    Run (World.initial config link filter program) [] := by
  obtain ⟨w, started⟩ : ∃ w, Engine.start config link filter program = .ok w :=
    ⟨_, by rw [Engine.start, h]⟩
  have shown := start_view started
  simp only [World.view, View.mk.injEq] at shown
  exact .outside (.start started) (by rw [start_engine started]; rfl) shown.2.1.symm shown.1.symm
    (by rw [shown.2.2])

theorem Reachable.engine_induction {P : EngineState → Prop}
    (init : ∀ config, P (EngineState.initial config))
    (step : ∀ (a : Action) (w : World), P w.engine → P (a.step w).engine)
    {w : World} (hw : Reachable w) : P w.engine := by
  induction hw with
  | start h => rw [start_engine h]; exact init _
  | act a _ ih => exact step a _ ih
  | outside _ same ih => rw [same]; exact ih

end FrameRpc.Engine
