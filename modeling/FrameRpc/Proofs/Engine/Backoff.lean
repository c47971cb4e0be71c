import FrameRpc.Proofs.Engine.Marks
import FrameRpc.Proofs.Engine.OneChannel
set_option autoImplicit false

/-!
The back-off of a channel on the virtual clock.

A refused request, and a busy answer to the command in flight, arm the channel's back-off
when the command has attempts left: a task due the busy back-off after the clock of that
moment (`Engine.Tick.backsOff_of_armed`). A refusal that spends the last attempt fails the
command instead and arms nothing (`ChannelState.Attempt.backoff_iff`).

While the back-off is armed the channel is not free, so pumping it sends nothing; the
commands it has left have no attempt out, so no answer is accepted and no attempt timer
acts on it. Every tick before the deadline therefore keeps the back-off and leaves the
counters' marks of requests alone, unless it disables the channel
(`Engine.Tick.backingOff`), and along such ticks no history records a request of the
channel. The back-off ends only when its task acts, exactly at its deadline, clearing it
and pumping the channel, or when the channel is disabled (`Engine.Tick.backoff_ends`); and
the clock never passes the deadline while it is armed (`Sim.World.BacksOff.now_le`).
-/

namespace FrameRpc

open Sim

namespace ChannelState

variable {s : ChannelState} {b : Nat}

theorem Coherent.idle_of_backoff (hs : s.Coherent) (hb : s.backoff = some b) {idx : Nat}
    {cmd : Command} (hcmd : s.pending[idx]? = some cmd) : cmd.state.isInFlight = false := by
  cases hf : cmd.state.isInFlight with
  | false => rfl
  | true =>
    obtain ⟨-, rest, hp⟩ := hs.front_of_inFlight hcmd hf
    have clear := (hs.inFlight_seq cmd (by simp [inFlight_cons s hp, hf])).2
    rw [hb] at clear
    cases clear

theorem Coherent.answering_of_backoff (hs : s.Coherent) (hb : s.backoff = some b) (seq : UInt16) :
    s.answering seq = none := by
  rw [hs.answering_eq]
  split
  · next hrej =>
    obtain ⟨cmd, rest, hp, -, hf⟩ := hs.front_of_rejection hrej
    have first : s.pending[0]? = some cmd := by simp [hp]
    have idle := hs.idle_of_backoff hb first
    rw [hf] at idle
    cases idle
  · rfl

theorem Attempt.backoff_iff {budget idx : Nat} {cmd : Command} {done : Engine.Done}
    {e : TransmitError} {q : ChannelState × Engine.Done} (h : s.Attempt budget idx cmd done (.error e) q)
    (clear : s.backoff = none) : q.1.backoff.isSome ↔ cmd.attempts + 1 < budget := by
  cases h with
  | gaveUp spent =>
    rw [refusedFinal, finishAt_backoff]
    simp only [modifyAt, clear, Option.isSome_none, Bool.false_eq_true, false_iff]
    omega
  | backedOff backoff left => simp [refusedRetry, left]

theorem Answer.backoff_iff {budget idx : Nat} {cmd : Command} {f : Frame}
    {p : ChannelState × Engine.Done} (h : s.Answer budget idx cmd f p) (clear : s.backoff = none)
    (busy : f.status = Status.queueFull) (live : cmd.state ≠ .runningCancelled) :
    p.1.backoff.isSome ↔ cmd.attempts + 1 < budget := by
  cases h with
  | reaped cancelled => exact absurd cancelled live
  | gaveUp _ _ spent =>
    rw [failAt, finishAt_backoff]
    simp only [spendAt, modifyAt, clear, Option.isSome_none, Bool.false_eq_true, false_iff]
    omega
  | backedOff backoff _ _ left => simp [left]
  | completed _ ok => rw [busy] at ok; cases ok
  | failed _ notBusy => exact absurd busy notBusy

end ChannelState

namespace Sim

variable {w : World} {c : Channel} {b d : Nat}

structure World.BacksOff (w : World) (c : Channel) (b d : Nat) : Prop where
  named : (w.engine.channels.get c).backoff = some b
  armed : ∃ a, w.Arms c b (.backoff c d a)

theorem World.Arms.now_le {id : Nat} {k : TaskKind} (h : w.Arms c id k) (hw : w.Timed) {a : Bool}
    (clock : k.clock = some (d, a)) : w.now ≤ d := by
  obtain ⟨t, ht, live, kind, -⟩ := h
  have stage := hw.stage id t d a ht (by rw [kind, clock]) live
  generalize t.run = r at stage
  cases stage with
  | fresh early => exact early
  | waiting set => exact hw.ahead _ set
  | due at_ => exact Nat.le_of_eq at_

theorem World.BacksOff.now_le (h : w.BacksOff c b d) (hw : w.Timed) : w.now ≤ d := by
  obtain ⟨a, armed⟩ := h.armed
  exact armed.now_le hw (a := a) rfl

theorem World.BacksOff.task_eq (h : w.BacksOff c b d) (hw : w.Armed) {id d' : Nat} {a : Bool}
    (ha : w.Arms c id (.backoff c d' a)) : id = b ∧ d' = d := by
  have named : (w.engine.channels.get c).backoff = some id := (hw.holds c).named id _ ha
  rw [h.named, Option.some.injEq] at named
  subst named
  obtain ⟨a0, armed⟩ := h.armed
  cases ha.kind_eq armed
  exact ⟨rfl, rfl⟩

end Sim

namespace Engine

variable {c : Channel} {b d : Nat}

section disabling

theorem disable_attemptMarks (e : Channel) (w : World) :
    ((((disable e).run w).2.engine.channels.get c).attemptMarks) = (w.engine.channels.get c).attemptMarks := by
  rw [disable_engine]
  by_cases same : c = e
  · subst same
    simp only [PerChannel.get_set_self, ChannelState.attemptMarks_close]
  · simp only [PerChannel.get_set_other _ _ _ _ same]

theorem shutdown_attemptMarks (w : World) :
    ((shutdown.run w).2.engine.channels.get c).attemptMarks = (w.engine.channels.get c).attemptMarks :=
  shutdown_relates (R := fun u v => (v.engine.channels.get c).attemptMarks = (u.engine.channels.get c).attemptMarks)
    (fun _ => rfl) (fun first later => later.trans first) (fun e w => disable_attemptMarks e w)
    (fun _ _ _ _ _ => by rw [emit_engine]) w

end disabling

section holding

open ChannelState

variable {w w' : World}

theorem Submitted.backingOff {opcode : UInt16} {input : List UInt8} {owner : Owner}
    {r : Except EngineError Nat} (h : Submitted w c opcode input owner r w')
    (hb : (w.engine.channels.get c).backoff = some b) :
    (w'.engine.channels.get c).attemptMarks = (w.engine.channels.get c).attemptMarks ∧
      (w'.engine.channels.get c).backoff = some b := by
  cases h with
  | tooLarge => exact ⟨rfl, hb⟩
  | disabled => exact ⟨rfl, hb⟩
  | queued w1 _ _ same =>
    rw [pumped_get_of_blocked _ _ (.inr (.inr (by simp [ChannelState.enqueue, hb])))]
    exact ⟨by simp, by simp [ChannelState.enqueue, hb]⟩

theorem Cancelled.backingOff {handle : Nat} {answer : Bool} (h : Cancelled w c handle answer w')
    (hb : (w.engine.channels.get c).backoff = some b) :
    (w'.engine.channels.get c).attemptMarks = (w.engine.channels.get c).attemptMarks ∧
      (w'.engine.channels.get c).backoff = some b := by
  cases h with
  | ignored w1 _ same => simp [settled_engine, same, hb]
  | dequeued w1 _ _ _ same =>
    simp only [settled_engine, same, PerChannel.get_set_self, attemptMarks_delivered,
      attemptMarks_finishAt, attemptMarks_countCancel, true_and]
    rw [delivered, finishAt_backoff]
    exact hb
  | abandoned w1 _ _ _ same =>
    simp only [settled_engine, same, PerChannel.get_set_self, attemptMarks_delivered,
      attemptMarks_abandonAt, true_and]
    rw [delivered, abandonAt_fst]
    exact hb

theorem Dispatched.backingOff {f : Frame} (h : Dispatched w f w')
    (hs : (w.engine.channels.get c).Coherent) (hb : (w.engine.channels.get c).backoff = some b) :
    (w'.engine.channels.get c).attemptMarks = (w.engine.channels.get c).attemptMarks ∧
      (w'.engine.channels.get c).backoff = some b := by
  by_cases hf : c = f.channel
  · subst hf
    cases h with
    | dropped _ channels =>
      rw [channels, PerChannel.get_set_self]
      exact ⟨attemptMarks_countDrop _, hb⟩
    | vanished _ _ same => exact ⟨by rw [same], by rw [same, hb]⟩
    | answered p w1 hidx => rw [hs.answering_of_backoff hb] at hidx; cases hidx
  · exact ⟨by rw [h.get_other hf], by rw [h.get_other hf, hb]⟩

theorem TimedOut.backingOff {handle generation : Nat} (h : TimedOut w c handle generation w')
    (hs : (w.engine.channels.get c).Coherent) (hb : (w.engine.channels.get c).backoff = some b) :
    w' = w := by
  cases h with
  | stale => rfl
  | expired p w1 _ hcmd _ flying => rw [hs.idle_of_backoff hb hcmd] at flying; cases flying

theorem Action.step_backingOff (a : Action) (w : World) (hs : (w.engine.channels.get c).Coherent)
    (hb : (w.engine.channels.get c).backoff = some b) (hen : (w.engine.channels.get c).enabled = true)
    (other : a ≠ .backoffElapsed c) :
    ((a.step w).engine.channels.get c).attemptMarks = (w.engine.channels.get c).attemptMarks ∧
      (((a.step w).engine.channels.get c).backoff = some b ∨
        ((a.step w).engine.channels.get c).enabled = false) := by
  have spared : a.Spares w c →
      ((a.step w).engine.channels.get c).attemptMarks = (w.engine.channels.get c).attemptMarks ∧
        (((a.step w).engine.channels.get c).backoff = some b ∨
          ((a.step w).engine.channels.get c).enabled = false) := fun h => by
    rw [a.step_get_of_spares w h]
    exact ⟨rfl, .inl hb⟩
  cases a with
  | enable e =>
    by_cases same : e = c
    · subst same
      rw [Action.step_enable, (enable_run e w).1, if_neg (by simp [hen])]
      exact ⟨rfl, .inl hb⟩
    · exact spared same
  | disable e =>
    by_cases same : e = c
    · subst same
      rw [Action.step_disable, disable_engine, PerChannel.get_set_self]
      exact ⟨attemptMarks_close _, .inr (close_enabled _)⟩
    · exact spared same
  | shutdown =>
    rw [Action.step_shutdown]
    exact ⟨shutdown_attemptMarks w, .inr (shutdown_disabled w c)⟩
  | submit e opcode input owner =>
    by_cases same : e = c
    · subst same
      rw [Action.step_submit]
      obtain ⟨marks, held⟩ := (submit_run e opcode input owner w).backingOff hb
      exact ⟨marks, .inl held⟩
    · exact spared same
  | cancel e handle =>
    by_cases same : e = c
    · subst same
      rw [Action.step_cancel]
      obtain ⟨marks, held⟩ := (cancel_run e handle w).backingOff hb
      exact ⟨marks, .inl held⟩
    · exact spared same
  | receive bytes =>
    rw [Action.step_receive]
    rcases receive_run bytes w with ⟨_, _, channels, _⟩ | ⟨f, _, dispatched⟩
    · rw [channels]
      exact ⟨rfl, .inl hb⟩
    · obtain ⟨marks, held⟩ := dispatched.backingOff hs hb
      exact ⟨marks, .inl held⟩
  | attemptTimedOut e handle generation =>
    by_cases same : e = c
    · subst same
      rw [Action.step_attemptTimedOut, (attemptTimedOut_run e handle generation w).backingOff hs hb]
      exact ⟨rfl, .inl hb⟩
    · exact spared same
  | backoffElapsed e =>
    by_cases same : e = c
    · subst same
      exact absurd rfl other
    · exact spared same

end holding

section ticks

variable {u0 u u' : World}

theorem Tick.backsOff_of_named (h : Tick u u') (hu : u.Sound) (off : u.BacksOff c b d)
    (named : (u'.engine.channels.get c).backoff = some b) : u'.BacksOff c b d := by
  have sound := h.sound hu
  obtain ⟨d', a', t', ht', live', kind', -⟩ := (sound.armed.holds c).backoff b named
  obtain ⟨a, t, ht, -, kind, -⟩ := off.armed
  obtain ⟨t'', ht'', arm⟩ := (h.paces hu).kept b t ht
  rw [ht', Option.some.injEq] at ht''
  subst ht''
  have arm := arm (by rw [kind]; rfl)
  rw [kind, kind'] at arm
  simp only [TaskKind.arm, TaskKind.backoff.injEq, and_true] at arm
  rw [arm.2] at kind'
  exact ⟨named, a', t', ht', live', kind', rfl⟩

theorem Tick.backsOff_of_armed (h : Tick u0 u) (hu0 : u0.Sound)
    (before : (u0.engine.channels.get c).backoff = none) (after : (u.engine.channels.get c).backoff = some b) :
    u.BacksOff c b (u0.now + u0.engine.config.busyBackoffMs) := by
  have sound := h.sound hu0
  obtain ⟨d, a, t, ht, live, kind, -⟩ := (sound.armed.holds c).backoff b after
  refine ⟨after, ?_⟩
  rcases (h.paces hu0).timers b t ht (by rw [kind]; rfl) live with
    ⟨t0, ht0, arm, live0⟩ | ⟨-, a', clock⟩
  · -- a live back-off task of `c` before the tick would have been named then
    rw [kind] at arm
    obtain ⟨a0, kind0⟩ := TaskKind.arm_eq_backoff arm
    have named : (u0.engine.channels.get c).backoff = some b :=
      (hu0.armed.holds c).named b _ ⟨t0, ht0, live0, kind0, rfl⟩
    rw [before] at named
    cases named
  · rw [kind] at clock
    simp only [TaskKind.clock, TaskKind.delay, Option.some.injEq, Prod.mk.injEq] at clock
    rw [← clock.1]
    exact ⟨a, t, ht, live, kind, rfl⟩

theorem Tick.backingOff (h : Tick u u') (hu : u.Sound) (off : u.BacksOff c b d) (early : u.now < d)
    (hen : (u.engine.channels.get c).enabled = true) :
    (u'.engine.channels.get c).attemptMarks = (u.engine.channels.get c).attemptMarks ∧
      (u'.BacksOff c b d ∨ (u'.engine.channels.get c).enabled = false) := by
  have hs := hu.reachable.coherent c
  have held : (u'.engine.channels.get c).attemptMarks = (u.engine.channels.get c).attemptMarks ∧
      ((u'.engine.channels.get c).backoff = some b ∨ (u'.engine.channels.get c).enabled = false) := by
    rcases h.cases_engine hu.timed with same | ⟨a, byTimer, rfl⟩ |
        ⟨id, w1, t, -, ht, live, ⟨a', due⟩, -, engine1, -, acted⟩
    · rw [same]
      exact ⟨rfl, .inl off.named⟩
    · exact a.step_backingOff u hs off.named hen (by rintro rfl; cases byTimer)
    · rw [acted]
      rw [← engine1] at hs
      have hb := engine1 ▸ off.named
      have hen' := engine1 ▸ hen
      rcases TaskKind.expiry_cases due (w1.starting id) with ⟨e, h', g', -, expiry⟩ | ⟨e, hk, expiry⟩
      · rw [expiry, ← engine1]
        exact Action.step_backingOff _ _ hs hb hen' (by simp)
      · rw [expiry, ← engine1]
        refine Action.step_backingOff _ _ hs hb hen' fun same => ?_
        cases same
        have at_ := (off.task_eq hu.armed ⟨t, ht, live, hk, rfl⟩).2
        omega
  obtain ⟨marks, named | off'⟩ := held
  · exact ⟨marks, .inl (h.backsOff_of_named hu off named)⟩
  · exact ⟨marks, .inr off'⟩

/-- Along ticks taken before the deadline from worlds where the channel is enabled, the
back-off stays and the marks of requests stand still, unless the last tick disables the
channel. -/
theorem TicksWhile.backingOff
    (h : TicksWhile (fun v => v.now < d ∧ (v.engine.channels.get c).enabled = true) u u')
    (hu : u.Sound) (off : u.BacksOff c b d) :
    u'.Sound ∧ (u'.engine.channels.get c).attemptMarks = (u.engine.channels.get c).attemptMarks ∧
      (u'.BacksOff c b d ∨ (u'.engine.channels.get c).enabled = false) := by
  induction h with
  | refl => exact ⟨hu, rfl, .inl off⟩
  | tick _ before step ih =>
    obtain ⟨sound, marks, off' | disabled⟩ := ih
    · obtain ⟨marks', held⟩ := step.backingOff sound off' before.1 before.2
      exact ⟨step.sound sound, marks'.trans marks, held⟩
    · rw [before.2] at disabled
      cases disabled

theorem Tick.backoff_ends (h : Tick u u') (hu : u.Sound) (off : u.BacksOff c b d)
    (ended : (u'.engine.channels.get c).backoff ≠ some b) :
    (u'.engine.channels.get c).enabled = false ∨
      (u.now = d ∧ ∃ ws : World, ws.engine = u.engine ∧ ws.now = u.now ∧
        u'.engine = ((backoffElapsed c).run ws).2.engine) := by
  have hs := hu.reachable.coherent c
  have hen : (u.engine.channels.get c).enabled = true := by
    cases hen : (u.engine.channels.get c).enabled with
    | true => rfl
    | false =>
      have named := off.named
      rw [(hs.disabled hen).2] at named
      cases named
  have kept : ∀ (a : Action) (ws : World), ws.engine = u.engine → a ≠ .backoffElapsed c →
      u'.engine = (a.step ws).engine → (u'.engine.channels.get c).enabled = false := by
    intro a ws same other acted
    rw [acted]
    rw [← same] at hs hen
    have hb : (ws.engine.channels.get c).backoff = some b := same ▸ off.named
    rcases (a.step_backingOff ws hs hb hen other).2 with named | disabled
    · rw [acted] at ended
      exact absurd named ended
    · exact disabled
  rcases h.cases_engine hu.timed with same | ⟨a, byTimer, rfl⟩ |
      ⟨id, w1, t, -, ht, live, ⟨a', due⟩, -, engine1, now1, acted⟩
  · rw [same] at ended
    exact absurd off.named ended
  · exact .inl (kept a u rfl (by rintro rfl; cases byTimer) rfl)
  · rcases TaskKind.expiry_cases due (w1.starting id) with ⟨e, h', g', -, expiry⟩ | ⟨e, hk, expiry⟩
    · rw [expiry] at acted
      exact .inl (kept _ _ engine1 (by simp) acted)
    · rw [expiry] at acted
      by_cases same : e = c
      · subst same
        exact .inr ⟨(off.task_eq hu.armed ⟨t, ht, live, hk, rfl⟩).2, _, engine1, now1, acted⟩
      · exact .inl (kept _ _ engine1 (by simp [same]) acted)

end ticks

end Engine

end FrameRpc
