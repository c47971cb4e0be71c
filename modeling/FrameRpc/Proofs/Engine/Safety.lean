import FrameRpc.Proofs.Engine.Coherence
import FrameRpc.Proofs.Engine.Reachable
set_option autoImplicit false

/-!
What holds of every reachable engine.

Each operation is checked against its case lemma from `Operations`: in every case the
channel it stores is one of the shapes `Coherence` knows to keep a channel coherent.
Induction over reachability then gives the invariant in every world the engine reaches,
whatever the link does and whenever the timers run out.
-/

namespace FrameRpc.Engine

open Sim ChannelState

section cases

variable {w w' : World}

theorem settled_coherent {w1 : World} (he : w.engine.Coherent) (same : w1.engine = w.engine)
    (c : Channel) {q : ChannelState × Done} (hq : q.1.Coherent) : (settled c q w1).engine.Coherent := by
  rw [settled_engine, same]
  exact he.set c (hq.delivered _)

theorem pumped_coherent {w1 : World} (he : w.engine.Coherent) (same : w1.engine = w.engine)
    (c : Channel) {p : ChannelState × Done} (hp : p.1.Coherent) : (pumped c p w1).engine.Coherent := by
  obtain ⟨q, pumping, stored⟩ := pumped_engine c p w1
  rw [stored, same]
  rw [same] at pumping
  exact he.set c ((hp.pumping pumping).delivered _)

theorem Dispatched.coherent {f : Frame} (h : Dispatched w f w') (he : w.engine.Coherent) :
    w'.engine.Coherent := by
  cases h with
  | dropped _ stored _ _ =>
    intro d
    rw [stored]
    exact he.set _ (he _).countDrop d
  | vanished _ _ same _ => rw [same]; exact he
  | answered p w1 hidx hcmd answered same _ =>
    obtain ⟨rfl, rest, hp, hf⟩ := (he _).answering_head hidx hcmd
    exact pumped_coherent he same _ ((he _).answer hp hf answered)

theorem TimedOut.coherent {c : Channel} {handle generation : Nat}
    (h : TimedOut w c handle generation w') (he : w.engine.Coherent) : w'.engine.Coherent := by
  cases h with
  | stale _ => exact he
  | expired p w1 _ hcmd _ hf expired same _ =>
    obtain ⟨rfl, rest, hp⟩ := (he c).front_of_inFlight hcmd hf
    exact pumped_coherent he same c ((he c).expiry hp hf expired)

theorem Cancelled.coherent {c : Channel} {handle : Nat} {answer : Bool}
    (h : Cancelled w c handle answer w') (he : w.engine.Coherent) : w'.engine.Coherent := by
  cases h with
  | ignored w1 _ same _ => exact settled_coherent he same c (he c)
  | dequeued w1 _ hcmd hsend same _ =>
    exact settled_coherent he same c ((he c).dequeue hcmd hsend _ _)
  | abandoned w1 _ hcmd hrun same _ =>
    obtain ⟨rfl, rest, hp⟩ :=
      (he c).front_of_inFlight hcmd (by simp [hrun, CommandState.isInFlight])
    exact settled_coherent he same c ((he c).abandon hp hrun)

theorem Submitted.coherent {c : Channel} {opcode : UInt16} {input : List UInt8} {owner : Owner}
    {r : Except EngineError Nat} (h : Submitted w c opcode input owner r w') (he : w.engine.Coherent) :
    w'.engine.Coherent := by
  cases h with
  | tooLarge _ => exact he
  | disabled _ _ => exact he
  | queued w1 _ on same _ =>
    exact pumped_coherent he same c ((he c).enqueue on opcode input owner w.now)

end cases

section operations

variable {w : World}

theorem enable_coherent (c : Channel) (hw : w.engine.Coherent) :
    ((enable c).run w).2.engine.Coherent := by
  rw [(enable_run c w).1]
  split
  · exact hw.set c (hw c).enable
  · exact hw

theorem disable_coherent (c : Channel) (hw : w.engine.Coherent) :
    ((disable c).run w).2.engine.Coherent := by
  rw [disable_engine]
  exact hw.set c (hw c).close

theorem shutdown_coherent (hw : w.engine.Coherent) : (shutdown.run w).2.engine.Coherent :=
  shutdown_preserves (I := fun w => w.engine.Coherent) (fun c _ he => disable_coherent c he)
    (fun _ _ _ _ _ he => by rw [emit_engine]; exact he) hw

theorem submit_coherent (c : Channel) (opcode : UInt16) (input : List UInt8) (owner : Owner)
    (hw : w.engine.Coherent) : ((submit c opcode input owner).run w).2.engine.Coherent :=
  (submit_run c opcode input owner w).coherent hw

theorem cancel_coherent (c : Channel) (handle : Nat) (hw : w.engine.Coherent) :
    ((cancel c handle).run w).2.engine.Coherent :=
  (cancel_run c handle w).coherent hw

theorem receive_coherent (bytes : List UInt8) (hw : w.engine.Coherent) :
    ((receive bytes).run w).2.engine.Coherent := by
  rcases receive_run bytes w with ⟨_, _, same, _⟩ | ⟨_, _, dispatched⟩
  · intro c
    rw [same]
    exact hw c
  · exact dispatched.coherent hw

theorem attemptTimedOut_coherent (c : Channel) (handle generation : Nat)
    (hw : w.engine.Coherent) : ((attemptTimedOut c handle generation).run w).2.engine.Coherent :=
  (attemptTimedOut_run c handle generation w).coherent hw

theorem backoffElapsed_coherent (c : Channel) (hw : w.engine.Coherent) :
    ((backoffElapsed c).run w).2.engine.Coherent := by
  rw [backoffElapsed_run]
  exact pumped_coherent hw rfl c (hw c).clearBackoff

end operations

theorem Action.step_coherent (a : Action) {w : World} (hw : w.engine.Coherent) :
    (a.step w).engine.Coherent := by
  cases a with
  | enable c => rw [Action.step_enable]; exact enable_coherent c hw
  | disable c => rw [Action.step_disable]; exact disable_coherent c hw
  | shutdown => rw [Action.step_shutdown]; exact shutdown_coherent hw
  | submit c opcode input owner =>
    rw [Action.step_submit]
    exact submit_coherent c opcode input owner hw
  | cancel c handle => rw [Action.step_cancel]; exact cancel_coherent c handle hw
  | receive bytes => rw [Action.step_receive]; exact receive_coherent bytes hw
  | attemptTimedOut c handle generation =>
    rw [Action.step_attemptTimedOut]
    exact attemptTimedOut_coherent c handle generation hw
  | backoffElapsed c => rw [Action.step_backoffElapsed]; exact backoffElapsed_coherent c hw

theorem Reachable.coherent {w : World} (hw : Reachable w) : w.engine.Coherent :=
  hw.engine_induction EngineState.coherent_initial fun a _ h => a.step_coherent h

section callbacks

variable {w w' : World}

theorem pumped_panicking {w1 : World} (same : w1.engine = w.engine) (c : Channel) (p : ChannelState × Done) :
    (pumped c p w1).engine.panicking = w.engine.panicking := by
  rw [pumped, settled_engine, pump_engine, same]

theorem TimedOut.panicking {c : Channel} {handle generation : Nat} (h : TimedOut w c handle generation w') :
    w'.engine.panicking = w.engine.panicking := by
  cases h with
  | stale _ => rfl
  | expired p w1 _ _ _ _ _ same _ => exact pumped_panicking same c p

theorem Cancelled.panicking {c : Channel} {handle : Nat} {answer : Bool} (h : Cancelled w c handle answer w') :
    w'.engine.panicking = w.engine.panicking := by
  cases h with
  | ignored w1 _ same _ | dequeued w1 _ _ _ same _ | abandoned w1 _ _ _ same _ =>
    rw [settled_engine, same]

theorem Submitted.panicking {c : Channel} {opcode : UInt16} {input : List UInt8} {owner : Owner}
    {r : Except EngineError Nat} (h : Submitted w c opcode input owner r w') :
    w'.engine.panicking = w.engine.panicking := by
  cases h with
  | tooLarge _ | disabled _ _ => rfl
  | queued w1 _ _ same _ => exact pumped_panicking same c _

theorem Action.step_panicking (a : Action) (w : World) : (a.step w).engine.panicking = w.engine.panicking := by
  cases a with
  | enable c => rw [Action.step_enable, (enable_run c w).1]; split <;> rfl
  | disable c => rw [Action.step_disable, disable_engine]
  | shutdown =>
    rw [Action.step_shutdown]
    exact shutdown_relates (R := fun u v => v.engine.panicking = u.engine.panicking) (fun _ => rfl)
      (fun first later => later.trans first) (fun c w => by rw [disable_engine])
      (fun _ _ _ _ w => by rw [emit_engine]) w
  | submit c opcode input owner => rw [Action.step_submit]; exact (submit_run c opcode input owner w).panicking
  | cancel c handle => rw [Action.step_cancel]; exact (cancel_run c handle w).panicking
  | receive bytes => rw [Action.step_receive]; exact (receive_frame bytes w).2
  | attemptTimedOut c handle generation =>
    rw [Action.step_attemptTimedOut]
    exact (attemptTimedOut_run c handle generation w).panicking
  | backoffElapsed c => rw [Action.step_backoffElapsed, backoffElapsed_run]; exact pumped_panicking rfl c _

theorem Reachable.calm {w : World} (hw : Reachable w) : w.engine.panicking = [] :=
  hw.engine_induction (P := fun e => e.panicking = []) (fun _ => rfl) fun a w calm =>
    (a.step_panicking w).trans calm

end callbacks

/-- In every reachable world every channel keeps its unfinished commands in the order of
their handles, none above the handle counter; only the first has ever been sent; `running`
names the first command exactly when that one has an attempt out; a command has lost its
owner exactly when it was cancelled while running, and has an attempt timer exactly while
an attempt is out; the command in flight carries the last sequence number and no back-off
is armed meanwhile; a disabled channel is empty, idle and without back-off. So at most one
command is in flight, and an answer is only ever dropped for a check it failed. -/
theorem channel_invariant {w : World} (hw : Reachable w) (c : Channel) :
    let s := w.engine.channels.get c
    (s.pending.Pairwise (·.handle < ·.handle) ∧ ∀ cmd ∈ s.pending, cmd.handle ≤ s.nextHandle) ∧
    (∀ i (hi : i < s.pending.length), 0 < i → s.pending[i].state = .queued) ∧
    (∀ h, s.running = some h ↔ ∃ cmd rest, s.pending = cmd :: rest ∧ cmd.handle = h ∧
      (cmd.state = .running ∨ cmd.state = .runningCancelled)) ∧
    (∀ cmd ∈ s.pending, (cmd.owner = none ↔ cmd.state = .runningCancelled) ∧
      (cmd.timer.isSome ↔ (cmd.state = .running ∨ cmd.state = .runningCancelled))) ∧
    (∀ h, s.running = some h →
      ∃ cmd rest, s.pending = cmd :: rest ∧ cmd.seq = s.lastSeq ∧ s.backoff = none) ∧
    (s.enabled = false → s.pending = [] ∧ s.running = none ∧ s.backoff = none) ∧
    (s.pending.filter (·.state.isInFlight)).length ≤ 1 ∧
    (∀ seq, s.answering seq = none → ∃ reason, s.rejection seq = some reason) := by
  intro s
  have hs : s.Coherent := hw.coherent c
  exact ⟨⟨hs.sorted, hs.bounded⟩, hs.queued_at, hs.running_iff,
    fun cmd h => ⟨(hs.consistent cmd h).owner, (hs.consistent cmd h).timer_iff⟩,
    fun _ hr => hs.running_seq hr, hs.disabled_empty, hs.inFlight_count,
    fun _ h => hs.rejection_of_answering h⟩

theorem channel_invariant_after_submit :
    Reachable ((Action.submit .control 7 [1, 2] (.callback 1)).step ((Action.enable .control).step
      (World.initial EngineConfig.default (.recorder ⟨#[], [], true⟩) none ""))) ∧
    let s := ((Action.submit .control 7 [1, 2] (.callback 1)).step ((Action.enable .control).step
      (World.initial EngineConfig.default (.recorder ⟨#[], [], true⟩) none ""))).engine.channels.get
        .control
    (s.pending.Pairwise (·.handle < ·.handle) ∧ ∀ cmd ∈ s.pending, cmd.handle ≤ s.nextHandle) ∧
    (∀ i (hi : i < s.pending.length), 0 < i → s.pending[i].state = .queued) ∧
    (∀ h, s.running = some h ↔ ∃ cmd rest, s.pending = cmd :: rest ∧ cmd.handle = h ∧
      (cmd.state = .running ∨ cmd.state = .runningCancelled)) ∧
    (∀ cmd ∈ s.pending, (cmd.owner = none ↔ cmd.state = .runningCancelled) ∧
      (cmd.timer.isSome ↔ (cmd.state = .running ∨ cmd.state = .runningCancelled))) ∧
    (∀ h, s.running = some h →
      ∃ cmd rest, s.pending = cmd :: rest ∧ cmd.seq = s.lastSeq ∧ s.backoff = none) ∧
    (s.enabled = false → s.pending = [] ∧ s.running = none ∧ s.backoff = none) ∧
    (s.pending.filter (·.state.isInFlight)).length ≤ 1 ∧
    (∀ seq, s.answering seq = none → ∃ reason, s.rejection seq = some reason) :=
  have reached := Reachable.act _ (Reachable.act _ (Reachable.initial _ _ _ (by decide)))
  ⟨reached, channel_invariant reached .control⟩

end FrameRpc.Engine
