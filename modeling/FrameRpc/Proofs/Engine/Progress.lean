import FrameRpc.Proofs.Engine.Safety
set_option autoImplicit false

/-!
No command is stranded.

Between operations the first unfinished command of a channel is always looked after: it
has an attempt out, whose timer is armed, or a back-off is armed, at whose end the
channel sends again. The operations that free a channel (an answer, the end of an
attempt timer or of a back-off, a submission) all pump it, and pumping stops only once
the channel is busy, backing off, disabled, or has nothing to send (`pumpWith_pumped`).
Cancelling never pumps, but it never frees a channel either: it removes a command that
is not in flight, which leaves the command in flight or the back-off that looked after
the channel, or it leaves the cancelled command in flight. Enabling finds the channel
empty, and disabling empties it.

The invariant is `ChannelState.Attended`. Every action keeps it together with coherence,
and `no_stranded_command` reads it back as a statement about the channels.
-/

namespace FrameRpc

theorem CommandState.isSendable_eq_not_isInFlight (st : CommandState) :
    st.isSendable = !st.isInFlight := by
  cases st <;> rfl

namespace ChannelState

/-- Pumping has nothing left to do: the channel is disabled, busy, backing off, or has no
command that may be sent. -/
def Pumped (s : ChannelState) : Prop :=
  s.enabled = true → s.running = none → s.backoff = none → s.nextSendable = none

def Attended (s : ChannelState) : Prop :=
  s.pending ≠ [] → s.inFlight.isSome ∨ s.backoff.isSome

section attended

variable {s t : ChannelState}

theorem pumped_of_busy (busy : (s.enabled && s.running.isNone && s.backoff.isNone) = false) :
    s.Pumped := by
  intro he hr hb
  simp [he, hr, hb] at busy

theorem Attended.congr (hs : s.Attended) (hp : t.pending = s.pending) (hb : t.backoff = s.backoff) :
    t.Attended := by
  intro hne
  rw [inFlight, hp, hb]
  exact hs (hp ▸ hne)

theorem Attended.countDrop (hs : s.Attended) : s.countDrop.Attended := hs.congr rfl rfl

theorem attended_initial : initial.Attended := fun hne => absurd rfl hne

theorem Coherent.attended_of_disabled (hs : s.Coherent) (hd : s.enabled = false) : s.Attended :=
  fun hne => absurd (hs.disabled hd).1 hne

theorem Coherent.attended_of_pumped (hs : s.Coherent) (hpumped : s.Pumped) : s.Attended := by
  intro hne
  obtain ⟨cmd, rest, hp⟩ := List.exists_cons_of_ne_nil hne
  by_cases hf : cmd.state.isInFlight = true
  · left
    rw [inFlight_cons s hp, if_pos hf]
    rfl
  cases hb : s.backoff with
  | some _ => exact .inr rfl
  | none =>
    have idle : s.running = none := by
      rw [hs.running_eq, inFlight_cons s hp, if_neg hf]
      rfl
    have sendable : cmd.state.isSendable = true := by
      simpa [CommandState.isSendable_eq_not_isInFlight] using hf
    have stuck := hpumped (hs.enabled_of_cons hp) idle hb
    simp [nextSendable, hp, List.findIdx?_cons, sendable] at stuck

theorem Attended.removeIdle (hs : s.Attended) {idx : Nat} {cmd : Command}
    (hcmd : s.pending[idx]? = some cmd) (hf : cmd.state.isInFlight = false)
    (ht : t.pending = s.pending.eraseIdx idx) (hb : t.backoff = s.backoff) : t.Attended := by
  intro hne
  rw [hb]
  cases hp : s.pending with
  | nil => simp [hp] at hcmd
  | cons x rest =>
    have attended := hs (by simp [hp])
    cases idx with
    | zero =>
      have hx : x = cmd := by simpa [hp] using hcmd
      rw [inFlight_cons s hp, hx, if_neg (by simp [hf])] at attended
      exact .inr (by simpa using attended)
    | succ k =>
      have same : t.inFlight = s.inFlight := by
        rw [inFlight, inFlight, ht, hp, List.eraseIdx_cons_succ]
        rfl
      rwa [same]

theorem attended_abandonAt {cmd : Command} {rest : List Command} (hp : s.pending = cmd :: rest) :
    (s.abandonAt 0 cmd).1.Attended := by
  intro _
  left
  rw [abandonAt_fst]
  simp [inFlight, countCancel, modifyAt, hp, CommandState.isInFlight]

end attended

end ChannelState

def EngineState.Attended (e : EngineState) : Prop := ∀ c, (e.channels.get c).Attended

theorem EngineState.attended_initial (config : EngineConfig) :
    (EngineState.initial config).Attended := fun c => by
  cases c <;> exact ChannelState.attended_initial

namespace Engine

open Sim ChannelState

section pump

theorem pumpWith_busy (c : Channel) (fuel : Nat) {s : ChannelState} (done : Done) (w : World)
    (busy : (s.enabled && s.running.isNone && s.backoff.isNone) = false) :
    ((pumpWith c fuel s done).run w).1 = (s, done) := by
  cases fuel with
  | zero => rfl
  | succ fuel => simp only [pumpWith, busy, Bool.false_eq_true, ↓reduceIte, run_pure]

/-- Pumping with more fuel than there are unfinished commands stops only when it has
nothing left to do: each attempt puts a command in flight, arms the back-off, or removes a
command. -/
theorem pumpWith_pumped (c : Channel) (fuel : Nat) (s : ChannelState) (done : Done) (w : World)
    (enough : s.pending.length < fuel) : ((pumpWith c fuel s done).run w).1.1.Pumped := by
  induction fuel generalizing s done w with
  | zero => omega
  | succ fuel ih =>
    by_cases free : (s.enabled && s.running.isNone && s.backoff.isNone) = true
    · cases hnext : s.nextSendable with
      | none =>
        simp only [pumpWith, free, ↓reduceIte, hnext, run_pure]
        exact fun _ _ _ => hnext
      | some idx =>
        obtain ⟨cmd, hcmd, -⟩ := nextSendable_some hnext
        have hlt : idx < s.pending.length := (List.getElem?_eq_some_iff.mp hcmd).1
        simp only [pumpWith, free, ↓reduceIte, hnext, run_bind]
        obtain ⟨attempt, -, -⟩ := sendAttempt_run s idx done w c hcmd
        generalize ((transmit c cmd (s.lastSeq + 1)).run w).1 = answer at attempt
        generalize ((sendAttempt c s idx done).run w).1 = q at attempt ⊢
        cases attempt with
        | sent timer =>
          rw [pumpWith_busy c fuel done _ (by simp [launch, modifyAt])]
          exact pumped_of_busy (by simp [launch, modifyAt])
        | gaveUp spent =>
          refine ih _ _ _ ?_
          simp only [refusedFinal, finishAt_pending, modifyAt, List.length_eraseIdx,
            List.length_modify, hlt, ↓reduceIte]
          omega
        | backedOff backoff left =>
          rw [pumpWith_busy c fuel done _ (by simp [refusedRetry])]
          exact pumped_of_busy (by simp [refusedRetry])
    · have busy : (s.enabled && s.running.isNone && s.backoff.isNone) = false := Bool.eq_false_iff.mpr free
      rw [pumpWith_busy c (fuel + 1) done w busy]
      exact pumped_of_busy busy

theorem pump_pumped (c : Channel) (s : ChannelState) (done : Done) (w : World) :
    ((pump c s done).run w).1.1.Pumped :=
  pumpWith_pumped c _ s done w (Nat.lt_succ_self _)

end pump

section cases

variable {w w' : World}

theorem settled_attended {w1 : World} (ha : w.engine.Attended) (same : w1.engine = w.engine)
    (c : Channel) {q : ChannelState × Done} (hq : q.1.Attended) : (settled c q w1).engine.Attended := by
  rw [settled_engine, same]
  exact PerChannel.get_set_of_forall ha c (hq.congr rfl rfl)

theorem pumped_attended {w1 : World} (ha : w.engine.Attended) (same : w1.engine = w.engine)
    (c : Channel) {p : ChannelState × Done} (hp : p.1.Coherent) : (pumped c p w1).engine.Attended := by
  rw [pumped, settled_engine, pump_engine, same]
  refine PerChannel.get_set_of_forall ha c (Attended.congr ?_ rfl rfl)
  exact (hp.pumping (pump_pumping p.1 p.2 w1 c)).attended_of_pumped (pump_pumped c p.1 p.2 w1)

theorem Dispatched.attended {f : Frame} (h : Dispatched w f w') (he : w.engine.Coherent)
    (ha : w.engine.Attended) : w'.engine.Attended := by
  cases h with
  | dropped _ stored _ _ =>
    intro d
    rw [stored]
    exact PerChannel.get_set_of_forall ha _ (ha _).countDrop d
  | vanished _ _ same _ => rw [same]; exact ha
  | answered p w1 hidx hcmd answered same _ =>
    obtain ⟨rfl, rest, hp, hf⟩ := (he _).answering_head hidx hcmd
    exact pumped_attended ha same _ ((he _).answer hp hf answered)

theorem TimedOut.attended {c : Channel} {handle generation : Nat}
    (h : TimedOut w c handle generation w') (he : w.engine.Coherent) (ha : w.engine.Attended) :
    w'.engine.Attended := by
  cases h with
  | stale _ => exact ha
  | expired p w1 _ hcmd _ hf expired same _ =>
    obtain ⟨rfl, rest, hp⟩ := (he c).front_of_inFlight hcmd hf
    exact pumped_attended ha same c ((he c).expiry hp hf expired)

theorem Cancelled.attended {c : Channel} {handle : Nat} {answer : Bool}
    (h : Cancelled w c handle answer w') (he : w.engine.Coherent) (ha : w.engine.Attended) :
    w'.engine.Attended := by
  cases h with
  | ignored w1 _ same _ => exact settled_attended ha same c (ha c)
  | @dequeued idx cmd w1 _ hcmd hsend same _ =>
    have idle : cmd.state.isInFlight = false := by
      simpa [CommandState.isSendable_eq_not_isInFlight] using hsend
    refine settled_attended ha same c ((ha c).removeIdle hcmd idle ?_ ?_)
    · rw [finishAt_pending]
      rfl
    · rw [finishAt_backoff]
      rfl
  | abandoned w1 _ hcmd hrun same _ =>
    obtain ⟨rfl, rest, hp⟩ :=
      (he c).front_of_inFlight hcmd (by simp [hrun, CommandState.isInFlight])
    exact settled_attended ha same c (attended_abandonAt hp)

theorem Submitted.attended {c : Channel} {opcode : UInt16} {input : List UInt8} {owner : Owner}
    {r : Except EngineError Nat} (h : Submitted w c opcode input owner r w')
    (he : w.engine.Coherent) (ha : w.engine.Attended) : w'.engine.Attended := by
  cases h with
  | tooLarge _ => exact ha
  | disabled _ _ => exact ha
  | queued w1 _ on same _ =>
    exact pumped_attended ha same c ((he c).enqueue on opcode input owner w.now)

end cases

section operations

variable {w : World}

theorem enable_attended (c : Channel) (ha : w.engine.Attended) :
    ((enable c).run w).2.engine.Attended := by
  rw [(enable_run c w).1]
  split
  · exact PerChannel.get_set_of_forall ha c ((ha c).congr rfl rfl)
  · exact ha

theorem disable_attended (c : Channel) (hw : w.engine.Coherent) (ha : w.engine.Attended) :
    ((disable c).run w).2.engine.Attended := by
  rw [disable_engine]
  exact PerChannel.get_set_of_forall ha c ((hw c).close.attended_of_disabled (close_enabled _))

theorem shutdown_attended (hw : w.engine.Coherent) (ha : w.engine.Attended) :
    (shutdown.run w).2.engine.Attended :=
  (shutdown_preserves (I := fun w => w.engine.Coherent ∧ w.engine.Attended)
    (fun c _ ⟨he, ha⟩ => ⟨disable_coherent c he, disable_attended c he ha⟩)
    (fun _ _ _ _ _ ⟨he, ha⟩ => by rw [emit_engine]; exact ⟨he, ha⟩) ⟨hw, ha⟩).2

theorem receive_attended (bytes : List UInt8) (hw : w.engine.Coherent) (ha : w.engine.Attended) :
    ((receive bytes).run w).2.engine.Attended := by
  rcases receive_run bytes w with ⟨_, _, same, _⟩ | ⟨_, _, dispatched⟩
  · intro c
    rw [same]
    exact ha c
  · exact dispatched.attended hw ha

theorem backoffElapsed_attended (c : Channel) (hw : w.engine.Coherent) (ha : w.engine.Attended) :
    ((backoffElapsed c).run w).2.engine.Attended := by
  rw [backoffElapsed_run]
  exact pumped_attended ha rfl c (hw c).clearBackoff

end operations

theorem Action.step_attended (a : Action) {w : World} (hw : w.engine.Coherent)
    (ha : w.engine.Attended) : (a.step w).engine.Attended := by
  cases a with
  | enable c => rw [Action.step_enable]; exact enable_attended c ha
  | disable c => rw [Action.step_disable]; exact disable_attended c hw ha
  | shutdown => rw [Action.step_shutdown]; exact shutdown_attended hw ha
  | submit c opcode input owner =>
    rw [Action.step_submit]
    exact (submit_run c opcode input owner w).attended hw ha
  | cancel c handle => rw [Action.step_cancel]; exact (cancel_run c handle w).attended hw ha
  | receive bytes => rw [Action.step_receive]; exact receive_attended bytes hw ha
  | attemptTimedOut c handle generation =>
    rw [Action.step_attemptTimedOut]
    exact (attemptTimedOut_run c handle generation w).attended hw ha
  | backoffElapsed c => rw [Action.step_backoffElapsed]; exact backoffElapsed_attended c hw ha

theorem Reachable.attended {w : World} (hw : Reachable w) : w.engine.Attended := by
  have both : w.engine.Coherent ∧ w.engine.Attended :=
    @Reachable.engine_induction (fun e => e.Coherent ∧ e.Attended)
      (fun config => ⟨EngineState.coherent_initial config, EngineState.attended_initial config⟩)
      (fun a _ h => ⟨a.step_coherent h.1, a.step_attended h.1 h.2⟩) w hw
  exact both.2

theorem attemptTimedOut_head {w : World} {c : Channel} {cmd : Command} {rest : List Command}
    (hp : (w.engine.channels.get c).pending = cmd :: rest) (hf : cmd.state.isInFlight = true) :
    ∃ p w1, ((w.engine.channels.get c).stopAt 0).Expiry w.engine.config.retryBudget 0 cmd p ∧
      w1.engine = w.engine ∧ ((attemptTimedOut c cmd.handle cmd.generation).run w).2 = pumped c p w1 := by
  have hpos : (w.engine.channels.get c).position cmd.handle = some 0 := by
    simp [position, hp, List.findIdx?_cons]
  have hcmd : (w.engine.channels.get c).pending[0]? = some cmd := by simp [hp]
  have timed := attemptTimedOut_run c cmd.handle cmd.generation w
  generalize ((attemptTimedOut c cmd.handle cmd.generation).run w).2 = w' at timed ⊢
  cases timed with
  | stale fresh => simp [fresh 0 cmd hpos hcmd rfl] at hf
  | expired p w1 hidx hcmd' _ _ expiry same _ =>
    rw [hpos, Option.some.injEq] at hidx
    subst hidx
    rw [hcmd, Option.some.injEq] at hcmd'
    subst hcmd'
    exact ⟨p, w1, expiry, same, rfl⟩

/-- In every reachable world no unfinished command is stranded. A channel with work is
enabled, and either its first command has an attempt out, with its attempt timer armed and
the end of that timer for the command's current generation resolving it, or a back-off is
armed. So an enabled channel with nothing in flight and no back-off has nothing left to
do, although cancelling never pumps. -/
theorem no_stranded_command {w : World} (hw : Reachable w) (c : Channel) :
    let s := w.engine.channels.get c
    (∀ cmd rest, s.pending = cmd :: rest → s.enabled = true ∧
      (((cmd.state = .running ∨ cmd.state = .runningCancelled) ∧ cmd.timer.isSome ∧
          ∃ p w1, (s.stopAt 0).Expiry w.engine.config.retryBudget 0 cmd p ∧ w1.engine = w.engine ∧
            ((attemptTimedOut c cmd.handle cmd.generation).run w).2 = pumped c p w1) ∨
        s.backoff.isSome)) ∧
    (s.enabled = true → s.running = none → s.backoff = none → s.pending = []) := by
  intro s
  have hs : s.Coherent := hw.coherent c
  have attended : s.Attended := hw.attended c
  constructor
  · intro cmd rest hp
    refine ⟨hs.enabled_of_cons hp, ?_⟩
    rcases attended (by simp [hp]) with hf | hb
    · -- the first command is the one in flight
      have hf : cmd.state.isInFlight = true := by
        rw [inFlight_cons s hp] at hf
        split at hf
        · assumption
        · cases hf
      have consistent := hs.consistent cmd (by simp [hp])
      have inFlight : cmd.state = .running ∨ cmd.state = .runningCancelled := by
        revert hf; cases cmd.state <;> simp [CommandState.isInFlight]
      exact .inl ⟨inFlight, consistent.timer_iff.mpr inFlight, attemptTimedOut_head hp hf⟩
    · exact .inr hb
  · intro _ hr hb
    cases hp : s.pending with
    | nil => rfl
    | cons cmd rest =>
      -- nothing is in flight and no back-off is armed, so nothing looks after the first command
      have hnone : s.inFlight = none := by rw [← Option.map_eq_none_iff, ← hs.running_eq, hr]
      have := attended (by simp [hp])
      simp [hnone, hb] at this

theorem no_stranded_command_after_refusal :
    let w := (Action.submit .control 7 [1, 2] (.callback 1)).step ((Action.enable .control).step
      (World.initial EngineConfig.default (.recorder ⟨#[], [.busy], true⟩) none ""))
    Reachable w ∧
    let s := w.engine.channels.get .control
    (∀ cmd rest, s.pending = cmd :: rest → s.enabled = true ∧
      (((cmd.state = .running ∨ cmd.state = .runningCancelled) ∧ cmd.timer.isSome ∧
          ∃ p w1, (s.stopAt 0).Expiry w.engine.config.retryBudget 0 cmd p ∧ w1.engine = w.engine ∧
            ((attemptTimedOut .control cmd.handle cmd.generation).run w).2 = pumped .control p w1) ∨
        s.backoff.isSome)) ∧
    (s.enabled = true → s.running = none → s.backoff = none → s.pending = []) :=
  have reached := Reachable.act _ (Reachable.act _ (Reachable.initial _ _ _ (by decide)))
  ⟨reached, no_stranded_command reached .control⟩

end Engine

end FrameRpc
