import FrameRpc.Proofs.Sim.Clock
import FrameRpc.Proofs.Engine.Operations
set_option autoImplicit false

/-!
Deadlines of the timer tasks the engine starts.

An attempt timer is started when a request is handed to the link, and a back-off when the
link refuses one or the peer answers busy; each reads its deadline off the clock at that
moment, the attempt timeout or the busy back-off later. `World.Starts w w'` says that from
`w` to `w'` the clock and the settings stay, no task goes away, and every live timer task of
`w'` was live in `w` with the same kind, or is new: its deadline its delay after `w`'s clock,
its timer not set. The engine's operations are `StartingWith` their settings from every world with
the scheduling invariant; the proofs follow the `Steady` ones of `Clock` step by step, with
the settings read at the start carried to the timer tasks started later.
-/

namespace FrameRpc.Sim

/-- How long a timer task waits under the settings `cfg`: the attempt timeout for an attempt
timer, the busy back-off for a back-off. -/
def TaskKind.delay (cfg : EngineConfig) : TaskKind → Nat
  | .attemptTimer .. => cfg.attemptTimeoutMs
  | .backoff .. => cfg.busyBackoffMs
  | _ => 0

/-- From `w` to `w'` the clock and the settings stay, every task stays, and each live timer
task of `w'` was live in `w` with the same kind or is new, started at `w`'s clock for its
delay. -/
structure World.Starts (w w' : World) : Prop where
  now : w'.now = w.now
  config : w'.engine.config = w.engine.config
  kept : ∀ (id : Nat) (t : Task), w.tasks[id]? = some t → ∃ t' : Task, w'.tasks[id]? = some t'
  timers : ∀ (id : Nat) (t' : Task), w'.tasks[id]? = some t' → t'.kind.clock.isSome → t'.Live →
    (∃ t : Task, w.tasks[id]? = some t ∧ t.kind = t'.kind ∧ t.Live) ∨
      (w.tasks[id]? = none ∧ t'.kind.clock = some (w.now + t'.kind.delay w.engine.config, false))

namespace World.Starts

variable {w w' w'' : World}

theorem refl (w : World) : w.Starts w :=
  ⟨rfl, rfl, fun _ t ht => ⟨t, ht⟩, fun _ t' ht' _ live => .inl ⟨t', ht', rfl, live⟩⟩

theorem trans (h : w.Starts w') (h' : w'.Starts w'') : w.Starts w'' where
  now := h'.now.trans h.now
  config := h'.config.trans h.config
  kept id t ht := by
    obtain ⟨t', ht'⟩ := h.kept id t ht
    exact h'.kept id t' ht'
  timers id t'' ht'' timer live := by
    rcases h'.timers id t'' ht'' timer live with ⟨t', ht', kind, live'⟩ | ⟨fresh, stamped⟩
    · rcases h.timers id t' ht' (kind ▸ timer) live' with ⟨t, ht, kind0, live0⟩ | ⟨none, stamped⟩
      · exact .inl ⟨t, ht, kind0.trans kind, live0⟩
      · exact .inr ⟨none, kind ▸ stamped⟩
    · -- a task new in `w''` was in neither world before
      have none : w.tasks[id]? = none := by
        cases ht : w.tasks[id]? with
        | none => rfl
        | some t =>
          obtain ⟨t', ht'⟩ := h.kept id t ht
          rw [ht'] at fresh
          cases fresh
      rw [h.now, h.config] at stamped
      exact .inr ⟨none, stamped⟩

theorem of_calm (h : Calm w w') (config : w'.engine.config = w.engine.config) : w.Starts w' :=
  ⟨h.now, config, fun id t ht => (h.kept id t ht).imp fun _ h => h.1,
    fun id t' ht' timer live => .inl (h.live id t' ht' timer live)⟩

end World.Starts

variable {α β : Type} {cfg : EngineConfig}

/-- From every world with the scheduling invariant and the settings `cfg`, `x` keeps the
settings and starts timer tasks only with their deadlines. -/
def StartingWith (cfg : EngineConfig) (x : Sim α) : Prop :=
  ∀ w : World, w.Timed → w.engine.config = cfg → w.Starts (x.run w).2

namespace StartingWith

theorem bind {x : Sim α} {f : α → Sim β} (hx : StartingWith cfg x) (sx : Steady x)
    (hf : ∀ a, StartingWith cfg (f a)) : StartingWith cfg (x >>= f) := fun w hw hc => by
  rw [run_bind]
  have first := hx w hw hc
  exact first.trans (hf _ _ (sx w hw).1 (first.config.trans hc))

theorem pure (a : α) : StartingWith cfg (pure a : Sim α) := fun w _ _ => .refl w

theorem of_quiet {x : Sim α} (hx : Quiet x) (hc : ∀ w, (x.run w).2.engine.config = w.engine.config) :
    StartingWith cfg x := fun w hw _ => .of_calm (hx w hw) (hc w)

theorem config_bind {f : EngineConfig → Sim β} (hf : StartingWith cfg (f cfg)) :
    StartingWith cfg (Engine.config >>= f) := fun w hw hc => by
  rw [run_bind, Engine.config_run, hc]
  exact hf w hw hc

theorem now_spawn {k : Nat → TaskKind} (hk : ∀ t, (k t).clock = some (t + (k t).delay cfg, false))
    {f : Nat → Sim β} (hf : ∀ id, StartingWith cfg (f id)) :
    StartingWith cfg (now >>= fun t => spawn (k t) >>= f) := fun w hw hc => by
  simp only [run_bind, now_run]
  have started : w.Starts ((spawn (k w.now)).run w).2 := by
    refine ⟨spawn_now _ _, by rw [spawn_engine], fun id t ht => ⟨t, ?_⟩, fun id t' ht' _ live => ?_⟩
    · rw [spawn_tasks]
      exact getElem?_push_of_some ht
    rw [spawn_tasks, Array.getElem?_push] at ht'
    split at ht'
    · next fresh =>
      cases ht'
      rw [hc, fresh]
      exact .inr ⟨by simp, hk w.now⟩
    · exact .inl ⟨t', ht', rfl, live⟩
  have timed := hw.spawn_timer (hk w.now) (Nat.le_add_right _ _)
  exact started.trans (hf _ _ timed (by rw [spawn_engine]; exact hc))

end StartingWith

end FrameRpc.Sim

namespace FrameRpc.Engine

open Sim

variable {cfg : EngineConfig}

section primitives

theorem startingWith_chan (c : Channel) : StartingWith cfg (chan c) :=
  .of_quiet (quiet_chan c) fun _ => rfl

theorem startingWith_emit (l : Log.Level) (t m : String) (fs : List (String × Log.FieldValue)) :
    StartingWith cfg (emit l t m fs) :=
  .of_quiet (quiet_emit l t m fs) fun w => by rw [emit_engine]

theorem startingWith_settle (c : Channel) (s : ChannelState) (done : Done) :
    StartingWith cfg (settle c s done) :=
  .of_quiet (quiet_settle c s done) fun w => by rw [settle_engine]

theorem startingWith_finish (s : ChannelState) (idx : Nat) (r : Outcome) (done : Done) :
    StartingWith cfg (finish s idx r done) :=
  .of_quiet (quiet_finish s idx r done) fun w => by rw [finish_engine]

theorem startingWith_reap (s : ChannelState) (idx : Nat) : StartingWith cfg (reap s idx) :=
  .of_quiet (quiet_reap s idx) fun w => by rw [reap_engine]

theorem startingWith_transmit (c : Channel) (cmd : Command) (seq : UInt16) :
    StartingWith cfg (transmit c cmd seq) :=
  .of_quiet (quiet_transmit c cmd seq) fun w => by rw [transmit_engine]

theorem startingWith_stopTimer (t : Option Nat) : StartingWith cfg (stopTimer t) :=
  .of_quiet (quiet_stopTimer t) fun w => by rw [stopTimer_engine]

theorem startingWith_reportDrop (c : Option Channel) (seq : Option UInt16) (reason : String) :
    StartingWith cfg (reportDrop c seq reason) :=
  .of_quiet (quiet_reportDrop c seq reason) (reportDrop_config c seq reason)

end primitives

section operations

theorem quiet_expire (c : Channel) (s : ChannelState) (idx : Nat) (cmd : Command) :
    Quiet (expire c s idx cmd) := by
  refine Quiet.bind quiet_config fun cfg => ?_
  split
  · exact Quiet.bind (quiet_reap _ _) fun _ => Quiet.pure _
  · refine Quiet.bind (quiet_of_run fun _ => rfl) fun t => ?_
    split
    · exact Quiet.bind (quiet_emit _ _ _ _) fun _ => quiet_finish _ _ _ _
    · exact Quiet.bind (quiet_emit _ _ _ _) fun _ => Quiet.pure _

theorem startingWith_sendAttempt (c : Channel) (s : ChannelState) (idx : Nat) (done : Done) :
    StartingWith cfg (sendAttempt c s idx done) := by
  refine StartingWith.config_bind ?_
  split
  · exact .pure _
  refine StartingWith.bind (startingWith_transmit _ _ _) (quiet_transmit _ _ _).steady fun sent => ?_
  split
  · exact .now_spawn (fun _ => rfl) fun _ =>
      .bind (startingWith_emit _ _ _ _) (quiet_emit _ _ _ _).steady fun _ => .pure _
  · dsimp only
    split
    · exact .bind (startingWith_emit _ _ _ _) (quiet_emit _ _ _ _).steady fun _ => startingWith_finish _ _ _ _
    · exact .bind (startingWith_emit _ _ _ _) (quiet_emit _ _ _ _).steady fun _ =>
        .now_spawn (fun _ => rfl) fun _ => .pure _

theorem startingWith_pumpWith (c : Channel) (fuel : Nat) (s : ChannelState) (done : Done) :
    StartingWith cfg (pumpWith c fuel s done) := by
  induction fuel generalizing s done with
  | zero => exact .pure _
  | succ fuel ih =>
    unfold pumpWith
    split
    · split
      · exact .bind (startingWith_sendAttempt _ _ _ _) (steady_sendAttempt _ _ _ _) fun p => ih p.1 p.2
      · exact .pure _
    · exact .pure _

theorem startingWith_pump (c : Channel) (s : ChannelState) (done : Done) :
    StartingWith cfg (pump c s done) :=
  startingWith_pumpWith c _ s done

theorem startingWith_answer (c : Channel) (s : ChannelState) (idx : Nat) (cmd : Command) (f : Frame) :
    StartingWith cfg (answer c s idx cmd f) := by
  refine StartingWith.config_bind ?_
  split
  · exact .bind (startingWith_reap _ _) (quiet_reap _ _).steady fun _ => .pure _
  split
  · dsimp only
    split
    · exact .bind (startingWith_emit _ _ _ _) (quiet_emit _ _ _ _).steady fun _ => startingWith_finish _ _ _ _
    · exact .bind (startingWith_emit _ _ _ _) (quiet_emit _ _ _ _).steady fun _ =>
        .now_spawn (fun _ => rfl) fun _ => .pure _
  split
  · exact startingWith_finish _ _ _ _
  · exact .bind (startingWith_emit _ _ _ _) (quiet_emit _ _ _ _).steady fun _ => startingWith_finish _ _ _ _

theorem startingWith_dispatch (f : Frame) : StartingWith cfg (dispatch f) := by
  refine StartingWith.bind (startingWith_chan _) (quiet_chan _).steady fun s => ?_
  split
  · exact .of_quiet (Quiet.bind (quiet_putChan _ _) fun _ => quiet_reportDrop _ _ _) fun w => by
      rw [run_bind, reportDrop_config, putChan_engine]
  · split
    · exact .pure _
    · refine .bind (startingWith_stopTimer _) (quiet_stopTimer _).steady fun _ => ?_
      refine .bind (startingWith_emit _ _ _ _) (quiet_emit _ _ _ _).steady fun _ => ?_
      refine .bind (startingWith_answer _ _ _ _ _) (steady_answer _ _ _ _ _) fun p => ?_
      exact .bind (startingWith_pump _ _ _) (steady_pump _ _ _) fun q => startingWith_settle _ _ _

theorem startingWith_receive (bytes : List UInt8) : StartingWith cfg (receive bytes) := by
  have routed : ∀ r, StartingWith cfg (route r) := fun r => by
    cases r with
    | error e =>
      rw [route]
      exact startingWith_reportDrop _ _ _
    | ok f =>
      rw [route]
      exact startingWith_dispatch f
  refine StartingWith.bind (.of_quiet quiet_config fun _ => rfl) quiet_config.steady fun c => ?_
  split
  · exact .bind (startingWith_emit _ _ _ _) (quiet_emit _ _ _ _).steady fun _ => routed _
  · exact routed _

theorem startingWith_submit (c : Channel) (opcode : UInt16) (input : List UInt8) (owner : Owner) :
    StartingWith cfg (submit c opcode input owner) := by
  refine StartingWith.bind (.of_quiet quiet_config fun _ => rfl) quiet_config.steady fun _ => ?_
  split
  · exact .pure _
  refine .bind (startingWith_chan c) (quiet_chan c).steady fun s => ?_
  split
  · exact .pure _
  refine .bind (startingWith_emit _ _ _ _) (quiet_emit _ _ _ _).steady fun _ => ?_
  refine .bind (.of_quiet (quiet_of_run fun _ => rfl) fun _ => rfl) (quiet_of_run fun _ => rfl).steady fun t => ?_
  refine .bind (startingWith_pump _ _ _) (steady_pump _ _ _) fun p => ?_
  exact .bind (startingWith_settle _ _ _) (quiet_settle _ _ _).steady fun _ => .pure _

theorem startingWith_attemptTimedOut (c : Channel) (handle generation : Nat) :
    StartingWith cfg (attemptTimedOut c handle generation) := by
  refine StartingWith.bind (startingWith_chan c) (quiet_chan c).steady fun s => ?_
  split
  · exact .pure _
  · split
    · exact .pure _
    · split
      · exact .pure _
      · -- the attempt is spent: a retry or a failure, and no timer is started
        refine .bind ?_ (quiet_expire _ _ _ _).steady fun p =>
          .bind (startingWith_pump _ _ _) (steady_pump _ _ _) fun q => startingWith_settle _ _ _
        exact .of_quiet (quiet_expire _ _ _ _) fun w => by rw [(expire_run _ _ w _ _).2.1]

theorem startingWith_backoffElapsed (c : Channel) : StartingWith cfg (backoffElapsed c) :=
  .bind (startingWith_chan c) (quiet_chan c).steady fun _ =>
    .bind (startingWith_pump _ _ _) (steady_pump _ _ _) fun _ => startingWith_settle _ _ _

end operations

end FrameRpc.Engine
