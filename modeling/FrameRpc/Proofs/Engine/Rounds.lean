import FrameRpc.Proofs.Engine.Progress
set_option autoImplicit false

/-!
Pumping ends by itself.

Pumping a channel is a loop: while the channel is enabled, has nothing in flight and no
back-off armed, the first command that may be sent gets one attempt. An attempt puts that
command in flight or arms the back-off, and the loop's guard fails next; or it spends the
command's last attempt and removes it (`Attempt.round`). So the loop attempts each
unfinished command at most once before its guard fails or nothing is left to send, and
given one round more than there are unfinished commands it has always stopped by itself:
any further rounds change nothing (`pumpWith_eq_of_lt`). On a coherent channel, which every
channel the engine pumps is, the command attempted is the first, and each attempt leaves
the channel coherent, so a command that spends its last attempt is the head of the queue.
Main statement: `pump_rounds`.
-/

namespace FrameRpc

theorem eraseIdx_modify_self {α : Type} (f : α → α) (l : List α) (i : Nat) :
    (l.modify i f).eraseIdx i = l.eraseIdx i := by
  induction l generalizing i with
  | nil => simp
  | cons a l ih =>
    cases i with
    | zero => rfl
    | succ i => rw [List.modify_succ_cons, List.eraseIdx_cons_succ, List.eraseIdx_cons_succ, ih]

namespace ChannelState

theorem Attempt.round {budget idx : Nat} {s : ChannelState} {cmd : Command}
    {done : Engine.Done} {answer : Except TransmitError Unit} {q : ChannelState × Engine.Done}
    (ha : s.Attempt budget idx cmd done answer q) :
    q.1.running = some cmd.handle ∨ (q.1.backoff.isSome ∧ cmd.attempts + 1 < budget) ∨
      (budget ≤ cmd.attempts + 1 ∧ q.1.pending = s.pending.eraseIdx idx) := by
  cases ha with
  | sent timer => exact .inl rfl
  | gaveUp spent =>
    refine .inr (.inr ⟨spent, ?_⟩)
    rw [refusedFinal, finishAt_pending]
    exact eraseIdx_modify_self _ s.pending idx
  | backedOff backoff left => exact .inr (.inl ⟨rfl, left⟩)

end ChannelState

namespace Engine

open Sim ChannelState

theorem pumpWith_of_busy (c : Channel) (fuel : Nat) {s : ChannelState} (done : Done)
    (busy : (s.enabled && s.running.isNone && s.backoff.isNone) = false) :
    pumpWith c fuel s done = pure (s, done) := by
  cases fuel with
  | zero => rfl
  | succ fuel => simp only [pumpWith, busy, Bool.false_eq_true, ↓reduceIte]

theorem pumpWith_eq_of_lt (c : Channel) {fuel fuel' : Nat} {s : ChannelState} {done : Done}
    (enough : s.pending.length < fuel) (enough' : s.pending.length < fuel') :
    pumpWith c fuel s done = pumpWith c fuel' s done := by
  -- on the rounds: an attempt makes the channel busy, and both loops stop, or removes a
  -- command, and both still have a round more than commands left
  induction fuel generalizing fuel' s done with
  | zero => omega
  | succ fuel ih =>
    obtain ⟨fuel', rfl⟩ : ∃ k, fuel' = k + 1 := ⟨fuel' - 1, by omega⟩
    by_cases free : (s.enabled && s.running.isNone && s.backoff.isNone) = true
    · cases hnext : s.nextSendable with
      | none => simp only [pumpWith, free, ↓reduceIte, hnext]
      | some idx =>
        obtain ⟨cmd, hcmd, -⟩ := nextSendable_some hnext
        have hlt : idx < s.pending.length := (List.getElem?_eq_some_iff.mp hcmd).1
        simp only [pumpWith, free, ↓reduceIte, hnext]
        apply StateT.ext
        intro w
        simp only [run_bind]
        obtain ⟨attempt, -, -⟩ := sendAttempt_run s idx done w c hcmd
        generalize ((transmit c cmd (s.lastSeq + 1)).run w).1 = answer at attempt
        generalize ((sendAttempt c s idx done).run w).1 = q at attempt ⊢
        rcases attempt.round with running | ⟨armed, -⟩ | ⟨-, removed⟩
        · have busy : (q.1.enabled && q.1.running.isNone && q.1.backoff.isNone) = false := by
            simp [running]
          rw [pumpWith_of_busy c fuel q.2 busy, pumpWith_of_busy c fuel' q.2 busy]
        · have busy : (q.1.enabled && q.1.running.isNone && q.1.backoff.isNone) = false := by
            simp [armed]
          rw [pumpWith_of_busy c fuel q.2 busy, pumpWith_of_busy c fuel' q.2 busy]
        · have shorter : q.1.pending.length + 1 = s.pending.length := by
            rw [removed, List.length_eraseIdx, if_pos hlt]
            omega
          rw [@ih fuel' q.1 q.2 (by omega) (by omega)]
    · have busy := Bool.eq_false_iff.mpr free
      rw [pumpWith_of_busy c _ done busy, pumpWith_of_busy c _ done busy]

/-- Pumping a channel ends by itself within one round more than the channel has unfinished
commands, whatever the link answers: given more rounds it does the same, and it stops with
the channel disabled, busy, backing off or without a command to send. In each round the
attempt puts the command in flight, or arms the back-off with attempts left, after which
the loop's guard fails; or it spends the command's last attempt and removes it. On a
coherent channel the command attempted is the first, and the attempt leaves the channel
coherent. -/
theorem pump_rounds (c : Channel) (s : ChannelState) (done : Done) :
    (∀ fuel, s.pending.length < fuel → pumpWith c fuel s done = pump c s done) ∧
    (∀ w : World, ((pump c s done).run w).1.1.Pumped) ∧
    (∀ (w : World) (idx : Nat) (cmd : Command), s.enabled = true → s.running = none →
      s.backoff = none → s.nextSendable = some idx → s.pending[idx]? = some cmd →
      let q := ((sendAttempt c s idx done).run w).1.1
      (q.running = some cmd.handle ∨
        (q.backoff.isSome ∧ cmd.attempts + 1 < w.engine.config.retryBudget) ∨
        (w.engine.config.retryBudget ≤ cmd.attempts + 1 ∧ q.pending = s.pending.eraseIdx idx)) ∧
      (s.Coherent → idx = 0 ∧ q.Coherent)) := by
  refine ⟨fun fuel enough => pumpWith_eq_of_lt c enough (Nat.lt_succ_self _),
    pump_pumped c s done, ?_⟩
  intro w idx cmd hen hr hb hnext hcmd
  obtain ⟨attempt, -, -⟩ := sendAttempt_run s idx done w c hcmd
  exact ⟨attempt.round,
    fun hs => ⟨hs.nextSendable_zero hr hnext, hs.attempt hen hr hb hnext hcmd attempt⟩⟩

end Engine

end FrameRpc
