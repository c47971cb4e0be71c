import FrameRpc.Proofs.Engine.Steps
set_option autoImplicit false

/-!
What each operation does.

An operation reads one channel (shutting down reads them all in turn), changes it through
the helpers of `Steps`, pumps it, and settles it: the channel is stored once and the
outcomes collected on the way are delivered. The settings are never written. For every
operation the relations here give the world it leaves, one case for each way it can go,
with the guard of that case. Until the pump, nothing the engine's callers see changes
(`World.view`). Invariants are then checked against these cases and never against the
operations themselves.
-/

namespace FrameRpc

namespace ChannelState

theorem position_handle {s : ChannelState} {h idx : Nat} {k : Command} (hpos : s.position h = some idx)
    (hk : s.pending[idx]? = some k) : k.handle = h := by
  obtain ⟨hlt, found, -⟩ := List.findIdx?_eq_some_iff_getElem.mp hpos
  rw [List.getElem?_eq_getElem hlt, Option.some.injEq] at hk
  subst hk
  simpa using found

def countDrop (s : ChannelState) : ChannelState :=
  { s with counters := { s.counters with droppedFrames := s.counters.droppedFrames + 1 } }

def stopAt (s : ChannelState) (idx : Nat) : ChannelState :=
  s.modifyAt idx fun k => { k with timer := none }

def countCancel (s : ChannelState) : ChannelState :=
  { s with counters := { s.counters with cancelled := s.counters.cancelled + 1 } }

/-- What cancelling the running command `cmd` at `idx` leaves: it stays in flight, marked
as cancelled and without its owner, whose outcome is collected at once. -/
def abandonAt (s : ChannelState) (idx : Nat) (cmd : Command) : ChannelState × Engine.Done :=
  let s := s.modifyAt idx fun k => { k with state := .runningCancelled, owner := none }
  let (s, done) : ChannelState × Engine.Done := match cmd.owner with
    | some o => ({ s with cleanupPending := s.cleanupPending + 1 }, #[(o, .error .cancelled)])
    | none => (s, #[])
  (s.countCancel, done)

theorem abandonAt_fst (s : ChannelState) (idx : Nat) (cmd : Command) :
    (s.abandonAt idx cmd).1 =
      { (s.modifyAt idx fun k => { k with state := .runningCancelled, owner := none }).countCancel with
        cleanupPending := (s.abandonAt idx cmd).1.cleanupPending } := by
  unfold abandonAt
  cases cmd.owner <;> rfl

/-- What disabling leaves of a channel before it is stored, with the outcomes to deliver:
an enabled one loses its back-off and every unfinished command; a disabled one is left as
it is. -/
def closing (s : ChannelState) : ChannelState × Engine.Done :=
  if s.enabled then drain (s.pending.length + 1) { s with enabled := false, backoff := none } #[]
  else (s, #[])

def close (s : ChannelState) : ChannelState := s.closing.1.delivered s.closing.2.size

theorem close_enabled (s : ChannelState) : s.close.enabled = false := by
  show s.closing.1.enabled = false
  unfold closing
  split
  · exact (drain_keeps _ _ _).1
  · rename_i off
    simpa using off

/-- The channel with a new command queued under the next handle, whose outcome goes to
`owner`. -/
def enqueue (s : ChannelState) (opcode : UInt16) (input : List UInt8) (owner : Owner)
    (started : Nat) : ChannelState :=
  let handle := s.nextHandle + 1
  let cmd : Command := { handle, opcode, input, state := .queued, seq := 0, attempts := 0,
                         generation := 0, started, owner := some owner, timer := none }
  { s with nextHandle := handle, pending := s.pending ++ [cmd],
           counters := { s.counters with submitted := s.counters.submitted + 1 } }

end ChannelState

namespace Engine

open Sim ChannelState

@[simp] theorem reportDrop_channels (c : Option Channel) (seq : Option UInt16) (reason : String)
    (w : World) : ((reportDrop c seq reason).run w).2.engine.channels = w.engine.channels := by
  simp only [reportDrop, run_bind, run_get, run_set]
  split <;> simp only [emitWith_engine, run_pure]

@[simp] theorem reportDrop_config (c : Option Channel) (seq : Option UInt16) (reason : String)
    (w : World) : ((reportDrop c seq reason).run w).2.engine.config = w.engine.config := by
  simp only [reportDrop, run_bind, run_get, run_set]
  split <;> simp only [emitWith_engine, run_pure]

@[simp] theorem reportDrop_panicking (c : Option Channel) (seq : Option UInt16) (reason : String)
    (w : World) : ((reportDrop c seq reason).run w).2.engine.panicking = w.engine.panicking := by
  simp only [reportDrop, run_bind, run_get, run_set]
  split <;> simp only [emitWith_engine, run_pure]

@[simp] theorem reportDrop_view (c : Option Channel) (seq : Option UInt16) (reason : String)
    (w : World) : ((reportDrop c seq reason).run w).2.view = w.view := by
  simp only [reportDrop, run_bind, run_get, run_set]
  split <;> simp only [emitWith_view, run_pure] <;> rfl

def settled (c : Channel) (q : ChannelState × Done) (w : World) : World :=
  ((settle c q.1 q.2).run w).2

def pumped (c : Channel) (p : ChannelState × Done) (w : World) : World :=
  settled c ((pump c p.1 p.2).run w).1 ((pump c p.1 p.2).run w).2

@[simp] theorem settled_engine (c : Channel) (q : ChannelState × Done) (w : World) :
    (settled c q w).engine =
      { w.engine with channels := w.engine.channels.set c (q.1.delivered q.2.size) } :=
  settle_engine c q.1 q.2 w

theorem settled_view (c : Channel) (q : ChannelState × Done) {w : World} (calm : w.engine.panicking = []) :
    (settled c q w).view = w.view.report (q.2.toList.flatMap fun x => x.1.reported x.2) :=
  settle_view c q.1 q.2 calm

theorem pumped_engine (c : Channel) (p : ChannelState × Done) (w : World) :
    ∃ q, Pumping w.engine.config.retryBudget p q ∧
      (pumped c p w).engine =
        { w.engine with channels := w.engine.channels.set c (q.1.delivered q.2.size) } :=
  ⟨_, pump_pumping p.1 p.2 w c, by rw [pumped, settled_engine, pump_engine]⟩

inductive Dispatched (w : World) (f : Frame) : World → Prop where
  | dropped {w' : World} : (w.engine.channels.get f.channel).answering f.seq = none →
      w'.engine.channels = w.engine.channels.set f.channel (w.engine.channels.get f.channel).countDrop →
      w'.engine.config = w.engine.config → w'.view = w.view →
      w'.engine.panicking = w.engine.panicking → Dispatched w f w'
  | vanished {idx : Nat} {w' : World} : (w.engine.channels.get f.channel).answering f.seq = some idx →
      (w.engine.channels.get f.channel).pending[idx]? = none →
      w'.engine = w.engine → w'.view = w.view → Dispatched w f w'
  | answered {idx : Nat} {cmd : Command} (p : ChannelState × Done) (w1 : World) :
      (w.engine.channels.get f.channel).answering f.seq = some idx →
      (w.engine.channels.get f.channel).pending[idx]? = some cmd →
      ((w.engine.channels.get f.channel).stopAt idx).Answer w.engine.config.retryBudget idx cmd f p →
      w1.engine = w.engine → w1.view = w.view → Dispatched w f (pumped f.channel p w1)

theorem Dispatched.of_same {w w0 w' : World} {f : Frame} (h : Dispatched w0 f w')
    (engine : w0.engine = w.engine) (view : w0.view = w.view) : Dispatched w f w' := by
  cases h with
  | dropped hidx stored config shown calm =>
    rw [engine] at hidx stored config calm
    exact .dropped hidx stored config (shown.trans view) calm
  | vanished hidx hcmd same shown =>
    rw [engine] at hidx hcmd
    exact .vanished hidx hcmd (same.trans engine) (shown.trans view)
  | answered p w1 hidx hcmd answered same shown =>
    rw [engine] at hidx hcmd answered
    exact .answered p w1 hidx hcmd answered (same.trans engine) (shown.trans view)

theorem dispatch_run (f : Frame) (w : World) : Dispatched w f ((dispatch f).run w).2 := by
  rw [dispatch, run_bind, chan_run]
  dsimp only
  cases hidx : (w.engine.channels.get f.channel).answering f.seq with
  | none =>
    refine .dropped hidx ?_ ?_ ?_ ?_ <;>
      simp only [run_bind, reportDrop_channels, reportDrop_config, reportDrop_view,
        reportDrop_panicking, putChan_engine, putChan_view]
    rfl
  | some idx =>
    dsimp only
    cases hcmd : (w.engine.channels.get f.channel).pending[idx]? with
    | none => exact .vanished hidx hcmd rfl rfl
    | some cmd =>
      simp only [run_bind]
      generalize hw1 : (StateT.run (emit _ _ _ _) _).snd = w1
      have same : w1.engine = w.engine := by rw [← hw1]; simp only [emit_engine, stopTimer_engine]
      have shown : w1.view = w.view := by rw [← hw1]; simp only [emit_view, stopTimer_view]
      obtain ⟨answered, kept, kept'⟩ := answer_run ((w.engine.channels.get f.channel).stopAt idx) idx w1
        f.channel cmd f
      rw [same] at answered
      exact .answered _ _ hidx hcmd answered (kept.trans same) (kept'.trans shown)

theorem route_run (r : Except FrameError Frame) (w : World) :
    (∃ err, r = .error err ∧ ((route r).run w).2.engine.channels = w.engine.channels ∧
        ((route r).run w).2.view = w.view) ∨
      (∃ f, r = .ok f ∧ Dispatched w f ((route r).run w).2) := by
  cases r with
  | error err =>
    rw [route]
    exact .inl ⟨err, rfl, reportDrop_channels .., reportDrop_view ..⟩
  | ok f => exact .inr ⟨f, rfl, dispatch_run f w⟩

theorem receive_run (bytes : List UInt8) (w : World) :
    (∃ err, Wire.decode w.engine.config.addressing bytes = .error err ∧
        ((receive bytes).run w).2.engine.channels = w.engine.channels ∧
        ((receive bytes).run w).2.view = w.view) ∨
      (∃ f, Wire.decode w.engine.config.addressing bytes = .ok f ∧
        Dispatched w f ((receive bytes).run w).2) := by
  rw [receive, run_bind, config_run]
  dsimp only
  cases w.engine.config.traceFrames with
  | false => exact route_run _ w
  | true =>
    simp only [↓reduceIte, run_bind]
    generalize hw1 : (StateT.run (emit _ _ _ _) w).snd = w1
    have same : w1.engine = w.engine := by rw [← hw1]; exact emit_engine ..
    have shown : w1.view = w.view := by rw [← hw1]; exact emit_view ..
    rcases route_run (Wire.decode w.engine.config.addressing bytes) w1 with
      ⟨err, hdec, stored, shown'⟩ | ⟨f, hdec, dispatched⟩
    · exact .inl ⟨err, hdec, stored.trans (by rw [same]), shown'.trans shown⟩
    · exact .inr ⟨f, hdec, dispatched.of_same same shown⟩

theorem Dispatched.frame {w w' : World} {f : Frame} (h : Dispatched w f w') :
    w'.engine.config = w.engine.config ∧ w'.engine.panicking = w.engine.panicking := by
  cases h with
  | dropped _ _ config _ calm => exact ⟨config, calm⟩
  | vanished _ _ same _ => rw [same]; exact ⟨rfl, rfl⟩
  | answered p w1 _ _ _ same _ =>
    rw [pumped, settled_engine, pump_engine, same]
    exact ⟨rfl, rfl⟩

theorem receive_frame (bytes : List UInt8) (w : World) :
    ((receive bytes).run w).2.engine.config = w.engine.config ∧
      ((receive bytes).run w).2.engine.panicking = w.engine.panicking := by
  have routed : ∀ (r : Except FrameError Frame) (w : World),
      ((route r).run w).2.engine.config = w.engine.config ∧
        ((route r).run w).2.engine.panicking = w.engine.panicking := by
    intro r w
    cases r with
    | error err =>
      rw [route]
      exact ⟨reportDrop_config .., reportDrop_panicking ..⟩
    | ok f =>
      rw [route]
      exact (dispatch_run f w).frame
  rw [receive, run_bind, config_run]
  dsimp only
  cases w.engine.config.traceFrames with
  | false => exact routed _ w
  | true =>
    simp only [↓reduceIte, run_bind]
    rw [(routed _ _).1, (routed _ _).2, emit_engine]
    exact ⟨rfl, rfl⟩

/-- What the end of the attempt timer of `handle`'s send number `generation` on `c` does to
the world `w`. -/
inductive TimedOut (w : World) (c : Channel) (handle generation : Nat) : World → Prop where
  | stale : (∀ idx cmd, (w.engine.channels.get c).position handle = some idx →
        (w.engine.channels.get c).pending[idx]? = some cmd → cmd.generation = generation →
        cmd.state.isInFlight = false) →
      TimedOut w c handle generation w
  | expired {idx : Nat} {cmd : Command} (p : ChannelState × Done) (w1 : World) :
      (w.engine.channels.get c).position handle = some idx →
      (w.engine.channels.get c).pending[idx]? = some cmd →
      cmd.generation = generation → cmd.state.isInFlight = true →
      ((w.engine.channels.get c).stopAt idx).Expiry w.engine.config.retryBudget idx cmd p →
      w1.engine = w.engine → w1.view = w.view → TimedOut w c handle generation (pumped c p w1)

theorem attemptTimedOut_run (c : Channel) (handle generation : Nat) (w : World) :
    TimedOut w c handle generation ((attemptTimedOut c handle generation).run w).2 := by
  rw [attemptTimedOut, run_bind, chan_run]
  dsimp only
  cases hidx : (w.engine.channels.get c).position handle with
  | none =>
    refine .stale fun idx cmd h => ?_
    rw [hidx] at h
    cases h
  | some idx =>
    dsimp only
    cases hcmd : (w.engine.channels.get c).pending[idx]? with
    | none =>
      refine .stale fun idx' cmd h h' => ?_
      rw [hidx, Option.some.injEq] at h
      rw [← h, hcmd] at h'
      cases h'
    | some cmd =>
      dsimp only
      by_cases live : cmd.generation = generation ∧ cmd.state.isInFlight = true
      · have go : (cmd.generation != generation || !cmd.state.isInFlight) = false := by
          simp [live.1, live.2]
        simp only [go, Bool.false_eq_true, ↓reduceIte, run_bind]
        obtain ⟨expired, kept, shown⟩ := expire_run ((w.engine.channels.get c).stopAt idx) idx w c cmd
        exact .expired _ _ hidx hcmd live.1 live.2 expired kept shown
      · have stop : (cmd.generation != generation || !cmd.state.isInFlight) = true := by
          by_cases hg : cmd.generation = generation
          · simpa [hg] using live
          · simp [hg]
        simp only [stop, ↓reduceIte, run_pure]
        refine .stale fun idx' cmd' h h' hg => ?_
        rw [hidx, Option.some.injEq] at h
        rw [← h, hcmd, Option.some.injEq] at h'
        subst h'
        simpa [hg] using live

inductive Cancelled (w : World) (c : Channel) (handle : Nat) : Bool → World → Prop where
  | ignored (w1 : World) : (∀ idx cmd, (w.engine.channels.get c).position handle = some idx →
        (w.engine.channels.get c).pending[idx]? = some cmd → cmd.state = .runningCancelled) →
      w1.engine = w.engine → w1.view = w.view →
      Cancelled w c handle false (settled c (w.engine.channels.get c, #[]) w1)
  | dequeued {idx : Nat} {cmd : Command} (w1 : World) :
      (w.engine.channels.get c).position handle = some idx →
      (w.engine.channels.get c).pending[idx]? = some cmd → cmd.state.isSendable = true →
      w1.engine = w.engine → w1.view = w.view →
      Cancelled w c handle true
        (settled c ((w.engine.channels.get c).countCancel.finishAt idx (.error .cancelled) #[]) w1)
  | abandoned {idx : Nat} {cmd : Command} (w1 : World) :
      (w.engine.channels.get c).position handle = some idx →
      (w.engine.channels.get c).pending[idx]? = some cmd → cmd.state = .running →
      w1.engine = w.engine → w1.view = w.view →
      Cancelled w c handle true (settled c ((w.engine.channels.get c).abandonAt idx cmd) w1)

theorem cancel_run (c : Channel) (handle : Nat) (w : World) :
    Cancelled w c handle ((cancel c handle).run w).1 ((cancel c handle).run w).2 := by
  rw [cancel, run_bind, chan_run]
  dsimp only
  cases hidx : (w.engine.channels.get c).position handle with
  | none =>
    simp only [run_bind, run_pure]
    refine .ignored _ (fun idx cmd h => ?_) (emit_engine ..) (emit_view ..)
    rw [hidx] at h
    cases h
  | some idx =>
    dsimp only
    cases hcmd : (w.engine.channels.get c).pending[idx]? with
    | none =>
      simp only [Option.map_none, run_bind, run_pure]
      refine .ignored _ (fun idx' cmd h h' => ?_) (emit_engine ..) (emit_view ..)
      rw [hidx, Option.some.injEq] at h
      rw [← h, hcmd] at h'
      cases h'
    | some cmd =>
      simp only [Option.map_some]
      cases hst : cmd.state with
      | queued | retry =>
        simp only [run_bind, run_pure, finish_fst]
        exact .dequeued _ hidx hcmd (by simp [hst, CommandState.isSendable])
          (by simp only [emit_engine, finish_engine]) (by simp only [emit_view, finish_view])
      | running =>
        simp only [run_bind, run_pure, Option.bind_some]
        exact .abandoned _ hidx hcmd hst (emit_engine ..) (emit_view ..)
      | runningCancelled =>
        simp only [run_bind, run_pure]
        refine .ignored _ (fun idx' cmd' h h' => ?_) (emit_engine ..) (emit_view ..)
        rw [hidx, Option.some.injEq] at h
        rw [← h, hcmd, Option.some.injEq] at h'
        exact h' ▸ hst

section found

variable {w w' : World} {c : Channel} {handle idx : Nat} {cmd : Command} {b : Bool}
  (hidx : (w.engine.channels.get c).position handle = some idx)
  (hcmd : (w.engine.channels.get c).pending[idx]? = some cmd)
include hidx hcmd

theorem Cancelled.of_running (h : Cancelled w c handle b w') (hst : cmd.state = .running) :
    b = true ∧ ∃ w1 : World, w' = settled c ((w.engine.channels.get c).abandonAt idx cmd) w1 ∧
      w1.engine = w.engine ∧ w1.view = w.view := by
  cases h with
  | ignored _ untouched _ _ =>
    have marked := untouched idx cmd hidx hcmd
    rw [hst] at marked
    cases marked
  | dequeued _ hidx' hcmd' sendable _ _ =>
    rw [hidx, Option.some.injEq] at hidx'
    subst hidx'
    rw [hcmd, Option.some.injEq] at hcmd'
    subst hcmd'
    rw [hst] at sendable
    cases sendable
  | abandoned w1 hidx' hcmd' _ same shown =>
    rw [hidx, Option.some.injEq] at hidx'
    subst hidx'
    rw [hcmd, Option.some.injEq] at hcmd'
    subst hcmd'
    exact ⟨rfl, w1, rfl, same, shown⟩

theorem Cancelled.of_sendable (h : Cancelled w c handle b w') (hst : cmd.state.isSendable = true) :
    b = true ∧ ∃ w1 : World,
      w' = settled c ((w.engine.channels.get c).countCancel.finishAt idx (.error .cancelled) #[]) w1 ∧
      w1.engine = w.engine ∧ w1.view = w.view := by
  cases h with
  | ignored _ untouched _ _ =>
    rw [untouched idx cmd hidx hcmd] at hst
    cases hst
  | dequeued w1 hidx' _ _ same shown =>
    rw [hidx, Option.some.injEq] at hidx'
    subst hidx'
    exact ⟨rfl, w1, rfl, same, shown⟩
  | abandoned _ hidx' hcmd' running _ _ =>
    rw [hidx, Option.some.injEq] at hidx'
    subst hidx'
    rw [hcmd, Option.some.injEq] at hcmd'
    subst hcmd'
    rw [running] at hst
    cases hst

end found

/-- What submitting a command on `c` answers and does to the world `w`: a payload over the
ceiling is refused first, then a disabled channel. -/
inductive Submitted (w : World) (c : Channel) (opcode : UInt16) (input : List UInt8)
    (owner : Owner) : Except EngineError Nat → World → Prop where
  | tooLarge : w.engine.config.maxPayload < input.length →
      Submitted w c opcode input owner
        (.error (.payloadTooLarge input.length w.engine.config.maxPayload)) w
  | disabled : input.length ≤ w.engine.config.maxPayload → (w.engine.channels.get c).enabled = false →
      Submitted w c opcode input owner (.error (.channelDisabled c)) w
  | queued (w1 : World) : input.length ≤ w.engine.config.maxPayload →
      (w.engine.channels.get c).enabled = true → w1.engine = w.engine → w1.view = w.view →
      Submitted w c opcode input owner (.ok ((w.engine.channels.get c).nextHandle + 1))
        (pumped c ((w.engine.channels.get c).enqueue opcode input owner w.now, #[]) w1)

theorem submit_run (c : Channel) (opcode : UInt16) (input : List UInt8) (owner : Owner)
    (w : World) :
    Submitted w c opcode input owner ((submit c opcode input owner).run w).1
      ((submit c opcode input owner).run w).2 := by
  rw [submit, run_bind, config_run]
  dsimp only
  by_cases large : input.length > w.engine.config.maxPayload
  · simp only [large, ↓reduceIte, run_pure]
    exact .tooLarge large
  simp only [large, ↓reduceIte]
  rw [run_bind, chan_run]
  dsimp only
  by_cases off : (!(w.engine.channels.get c).enabled) = true
  · simp only [off, ↓reduceIte, run_pure]
    exact .disabled (Nat.le_of_not_gt large) (by simpa using off)
  simp only [off, Bool.false_eq_true, ↓reduceIte, run_bind, now_run, emit_now, run_pure]
  exact .queued _ (Nat.le_of_not_gt large) (by simpa using off) (emit_engine ..) (emit_view ..)

theorem enable_run (c : Channel) (w : World) :
    ((enable c).run w).2.engine =
        (if (w.engine.channels.get c).enabled = false ∧ (linkReady.run w).1 = true then
          { w.engine with channels :=
              w.engine.channels.set c ({ (w.engine.channels.get c) with enabled := true }) }
        else w.engine) ∧
      ((enable c).run w).2.view = w.view := by
  rw [enable, run_bind, chan_run]
  dsimp only
  by_cases on : (w.engine.channels.get c).enabled = true
  · simp only [on, ↓reduceIte, run_pure, Bool.true_eq_false, false_and, and_self]
  simp only [on, Bool.false_eq_true, ↓reduceIte, run_bind]
  rw [linkReady_run]
  by_cases ready : (linkReady.run w).1 = true
  · simp only [ready, Bool.not_true, Bool.false_eq_true, and_self, ↓reduceIte, run_bind,
      run_pure, emit_engine, emit_view, putChan_engine, putChan_view]
  · simp only [ready, Bool.not_false, Bool.false_eq_true, and_false, ↓reduceIte, run_bind,
      run_pure, emit_engine, emit_view, and_self]

theorem disable_run (c : Channel) (w : World) :
    ∃ w1 : World, w1.engine = w.engine ∧ w1.view = w.view ∧
      ((disable c).run w).2 = settled c (w.engine.channels.get c).closing w1 := by
  rw [disable, run_bind, chan_run]
  dsimp only
  by_cases on : (w.engine.channels.get c).enabled = true
  · simp only [on, ↓reduceIte, run_bind, drainAll_fst, closing]
    generalize hw1 : (StateT.run (emit _ _ _ _) _).snd = w1
    refine ⟨w1, ?_, ?_, rfl⟩ <;> rw [← hw1]
    · simp only [emit_engine, drainAll_engine, stopTimer_engine]
    · simp only [emit_view, drainAll_view, stopTimer_view]
  · simp only [on, Bool.false_eq_true, ↓reduceIte, closing]
    exact ⟨w, rfl, rfl, rfl⟩

theorem disable_engine (c : Channel) (w : World) :
    ((disable c).run w).2.engine =
      { w.engine with channels := w.engine.channels.set c (w.engine.channels.get c).close } := by
  obtain ⟨w1, same, -, settles⟩ := disable_run c w
  rw [settles, settled_engine, same]
  rfl

theorem forIn_disable (l : List Channel) (w : World) :
    ((forIn l PUnit.unit fun c _ => do
        disable c
        pure (ForInStep.yield PUnit.unit)).run w).2 =
      l.foldl (fun w c => ((disable c).run w).2) w := by
  induction l generalizing w with
  | nil => rfl
  | cons c rest ih => simp only [List.forIn_cons, run_bind, run_pure, ih, List.foldl_cons]

theorem shutdown_run (w : World) :
    (shutdown.run w).2.engine = (Channel.all.foldl (fun w c => ((disable c).run w).2) w).engine ∧
      (shutdown.run w).2.view = (Channel.all.foldl (fun w c => ((disable c).run w).2) w).view := by
  simp only [shutdown, run_bind, forIn_disable, emit_engine, emit_view, and_self]

/-- The fold rule for disabling channels in turn: an invariant `I` that every disable keeps,
and a reflexive, transitive relation `R` that every disable from a world with `I`
establishes, carry over any list of channels. -/
theorem disables_induction {I : World → Prop} {R : World → World → Prop} (refl : ∀ w, R w w)
    (trans : ∀ {u v x : World}, R u v → R v x → R u x)
    (step : ∀ (c : Channel) (w : World), I w → I ((disable c).run w).2 ∧ R w ((disable c).run w).2)
    (l : List Channel) {w : World} (hw : I w) :
    I (l.foldl (fun w c => ((disable c).run w).2) w) ∧
      R w (l.foldl (fun w c => ((disable c).run w).2) w) := by
  induction l generalizing w with
  | nil => exact ⟨hw, refl w⟩
  | cons c rest ih =>
    obtain ⟨kept, first⟩ := step c w hw
    obtain ⟨kept', later⟩ := ih kept
    exact ⟨kept', trans first later⟩

theorem shutdown_induction {I : World → Prop} {R : World → World → Prop} (refl : ∀ w, R w w)
    (trans : ∀ {u v x : World}, R u v → R v x → R u x)
    (step : ∀ (c : Channel) (w : World), I w → I ((disable c).run w).2 ∧ R w ((disable c).run w).2)
    (recorded : ∀ (level : Log.Level) (t m : String) (fs : List (String × Log.FieldValue)) (w : World),
      I w → I ((emit level t m fs).run w).2 ∧ R w ((emit level t m fs).run w).2)
    {w : World} (hw : I w) : I (shutdown.run w).2 ∧ R w (shutdown.run w).2 := by
  obtain ⟨disabled, first⟩ := disables_induction refl trans step Channel.all hw
  obtain ⟨kept, last⟩ := recorded .info "emcdi_engine::engine" "Engine shut down" [] _ disabled
  simp only [shutdown, run_bind, forIn_disable]
  exact ⟨kept, trans first last⟩

theorem shutdown_preserves {I : World → Prop}
    (step : ∀ (c : Channel) (w : World), I w → I ((disable c).run w).2)
    (recorded : ∀ (level : Log.Level) (t m : String) (fs : List (String × Log.FieldValue)) (w : World),
      I w → I ((emit level t m fs).run w).2)
    {w : World} (hw : I w) : I (shutdown.run w).2 :=
  (shutdown_induction (R := fun _ _ => True) (fun _ => trivial) (fun _ _ => trivial)
    (fun c w hw => ⟨step c w hw, trivial⟩) (fun level t m fs w hw => ⟨recorded level t m fs w hw, trivial⟩)
    hw).1

theorem shutdown_relates {R : World → World → Prop} (refl : ∀ w, R w w)
    (trans : ∀ {u v x : World}, R u v → R v x → R u x)
    (step : ∀ (c : Channel) (w : World), R w ((disable c).run w).2)
    (recorded : ∀ (level : Log.Level) (t m : String) (fs : List (String × Log.FieldValue)) (w : World),
      R w ((emit level t m fs).run w).2)
    (w : World) : R w (shutdown.run w).2 :=
  (shutdown_induction (I := fun _ => True) refl trans (fun c w _ => ⟨trivial, step c w⟩)
    (fun level t m fs w _ => ⟨trivial, recorded level t m fs w⟩) trivial).2

theorem backoffElapsed_run (c : Channel) (w : World) :
    ((backoffElapsed c).run w).2 = pumped c ({ (w.engine.channels.get c) with backoff := none }, #[]) w :=
  rfl

end Engine

end FrameRpc
