import FrameRpc.Proofs.Sim.Footprint
set_option autoImplicit false

/-!
The channel changes the engine's helpers make.

An operation reads a channel, passes it through these helpers and stores the result
once. Each helper gets one lemma for what it returns and one for the engine it leaves,
which it never writes. Removing a command (`finish`, `reap`) and draining a channel do
not depend on the world at all, and their results are given here as plain functions.
A send attempt depends on the link, so its result is given as a relation with one case
for each answer (`Attempt`), and pumping as any chain of such attempts (`Pumping`).
-/

namespace FrameRpc

namespace ChannelState

/-- The channel without the command `cmd` at `idx`; `running` is cleared when it named
that command. -/
def removeAt (s : ChannelState) (idx : Nat) (cmd : Command) : ChannelState :=
  let s := { s with pending := s.pending.eraseIdx idx }
  if s.running == some cmd.handle then { s with running := none } else s

section removeAt

variable (s : ChannelState) (idx : Nat) (cmd : Command)

@[simp] theorem removeAt_pending : (s.removeAt idx cmd).pending = s.pending.eraseIdx idx := by
  unfold removeAt; dsimp only; split <;> rfl

@[simp] theorem removeAt_running :
    (s.removeAt idx cmd).running = if s.running = some cmd.handle then none else s.running := by
  unfold removeAt; dsimp only; split <;> simp_all

@[simp] theorem removeAt_enabled : (s.removeAt idx cmd).enabled = s.enabled := by
  unfold removeAt; dsimp only; split <;> rfl

@[simp] theorem removeAt_lastSeq : (s.removeAt idx cmd).lastSeq = s.lastSeq := by
  unfold removeAt; dsimp only; split <;> rfl

@[simp] theorem removeAt_nextHandle : (s.removeAt idx cmd).nextHandle = s.nextHandle := by
  unfold removeAt; dsimp only; split <;> rfl

@[simp] theorem removeAt_cleanupPending : (s.removeAt idx cmd).cleanupPending = s.cleanupPending := by
  unfold removeAt; dsimp only; split <;> rfl

@[simp] theorem removeAt_backoff : (s.removeAt idx cmd).backoff = s.backoff := by
  unfold removeAt; dsimp only; split <;> rfl

@[simp] theorem removeAt_counters : (s.removeAt idx cmd).counters = s.counters := by
  unfold removeAt; dsimp only; split <;> rfl

end removeAt

/-- What finishing the command at `idx` with outcome `r` leaves: the command is gone and
its outcome is collected for its owner, if it has one. -/
def finishAt (s : ChannelState) (idx : Nat) (r : Outcome) (done : Engine.Done) : ChannelState × Engine.Done :=
  match s.pending[idx]? with
  | none => (s, done)
  | some cmd =>
    let s := s.removeAt idx cmd
    match cmd.owner with
    | some o => ({ s with cleanupPending := s.cleanupPending + 1 }, done.push (o, r))
    | none => (s, done)

def reapAt (s : ChannelState) (idx : Nat) : ChannelState :=
  match s.pending[idx]? with
  | none => s
  | some cmd => s.removeAt idx cmd

section removal

variable (s : ChannelState) (idx : Nat) (r : Outcome) (done : Engine.Done)

theorem finishAt_fst :
    (s.finishAt idx r done).1 = { s.reapAt idx with cleanupPending := (s.finishAt idx r done).1.cleanupPending } := by
  unfold finishAt reapAt
  cases s.pending[idx]? with
  | none => rfl
  | some cmd =>
    dsimp only
    cases cmd.owner <;> rfl

@[simp] theorem reapAt_pending : (s.reapAt idx).pending = s.pending.eraseIdx idx := by
  unfold reapAt
  cases h : s.pending[idx]? with
  | none => exact (List.eraseIdx_of_length_le (List.getElem?_eq_none_iff.mp h)).symm
  | some cmd => simp

theorem reapAt_running {cmd : Command} (h : s.pending[idx]? = some cmd) :
    (s.reapAt idx).running = if s.running = some cmd.handle then none else s.running := by
  simp [reapAt, h]

@[simp] theorem reapAt_enabled : (s.reapAt idx).enabled = s.enabled := by
  unfold reapAt; split <;> simp

@[simp] theorem reapAt_lastSeq : (s.reapAt idx).lastSeq = s.lastSeq := by
  unfold reapAt; split <;> simp

@[simp] theorem reapAt_nextHandle : (s.reapAt idx).nextHandle = s.nextHandle := by
  unfold reapAt; split <;> simp

@[simp] theorem reapAt_backoff : (s.reapAt idx).backoff = s.backoff := by
  unfold reapAt; split <;> simp

@[simp] theorem reapAt_counters : (s.reapAt idx).counters = s.counters := by
  unfold reapAt; split <;> simp

@[simp] theorem finishAt_pending : (s.finishAt idx r done).1.pending = s.pending.eraseIdx idx := by
  rw [finishAt_fst, reapAt_pending]

@[simp] theorem finishAt_backoff : (s.finishAt idx r done).1.backoff = s.backoff := by
  rw [finishAt_fst, reapAt_backoff]

end removal

/-- What draining leaves: the unfinished commands are cancelled from the front, those
already cancelled while running are reaped, at most `fuel` of them. -/
def drain : Nat → ChannelState → Engine.Done → ChannelState × Engine.Done
  | 0, s, done => (s, done)
  | fuel + 1, s, done =>
    match s.pending with
    | [] => (s, done)
    | cmd :: _ =>
      if cmd.state == .runningCancelled then drain fuel (s.reapAt 0) done
      else
        let s := { s with counters := { s.counters with cancelled := s.counters.cancelled + 1 } }
        let (s, done) := s.finishAt 0 (.error .cancelled) done
        drain fuel s done

section drain

theorem reapAt_zero_running {s : ChannelState} {cmd : Command} {rest : List Command}
    (hp : s.pending = cmd :: rest) (hr : s.running = none ∨ s.running = some cmd.handle) :
    (s.reapAt 0).running = none := by
  rw [@reapAt_running s 0 cmd (by simp [hp])]
  rcases hr with hr | hr <;> simp [hr]

theorem drain_empties (fuel : Nat) (s : ChannelState) (done : Engine.Done)
    (hr : s.running = none ∨ s.running = s.pending.head?.map (·.handle))
    (hf : s.pending.length < fuel) :
    (s.drain fuel done).1.pending = [] ∧ (s.drain fuel done).1.running = none := by
  induction fuel generalizing s done with
  | zero => omega
  | succ fuel ih =>
    cases hp : s.pending with
    | nil =>
      rw [hp] at hr
      simp only [drain, hp, true_and]
      simpa using hr
    | cons cmd rest =>
      rw [hp] at hr hf
      have hr' : s.running = none ∨ s.running = some cmd.handle := by simpa using hr
      have shorter : rest.length < fuel := by simpa using hf
      simp only [drain, hp]
      split
      · exact ih _ _ (.inl (reapAt_zero_running hp hr')) (by simpa [hp] using shorter)
      · -- the command is counted as cancelled first, which keeps the list and `running`
        refine ih _ _ (.inl ?_) ?_
        · rw [finishAt_fst]
          exact reapAt_zero_running rfl hr'
        · rw [finishAt_fst]
          simpa using shorter

theorem drain_keeps (fuel : Nat) (s : ChannelState) (done : Engine.Done) :
    (s.drain fuel done).1.enabled = s.enabled ∧ (s.drain fuel done).1.lastSeq = s.lastSeq ∧
      (s.drain fuel done).1.nextHandle = s.nextHandle ∧
      (s.drain fuel done).1.backoff = s.backoff := by
  induction fuel generalizing s done with
  | zero => exact ⟨rfl, rfl, rfl, rfl⟩
  | succ fuel ih =>
    cases hp : s.pending with
    | nil => simp only [drain, hp, and_self]
    | cons cmd rest =>
      simp only [drain, hp]
      split
      · simp [ih]
      · simp only [ih]
        rw [finishAt_fst]
        simp

end drain

/-- The command `cmd` at `idx` sent with sequence number `seq`, its attempt timer being the
task `timer`: it runs, and the channel has it in flight. -/
def launch (s : ChannelState) (idx : Nat) (cmd : Command) (seq : UInt16) (timer : Nat) :
    ChannelState :=
  let s := s.modifyAt idx fun k =>
    { k with seq, generation := cmd.generation + 1, state := .running, timer := some timer }
  { s with lastSeq := seq, running := some cmd.handle,
           counters := { s.counters with sent := s.counters.sent + 1 } }

/-- A refused send of the command `cmd` at `idx` with the attempt budget spent: the
command fails for want of a transport. -/
def refusedFinal (s : ChannelState) (idx : Nat) (cmd : Command) (done : Engine.Done) :
    ChannelState × Engine.Done :=
  let s := s.modifyAt idx fun k => { k with attempts := cmd.attempts + 1 }
  let s := { s with counters := { s.counters with failed := s.counters.failed + 1 } }
  s.finishAt idx (.error (.transportUnavailable (cmd.attempts + 1))) done

/-- A refused send of the command `cmd` at `idx` with attempts left: the command waits to
be sent again until the back-off task `backoff` ends. -/
def refusedRetry (s : ChannelState) (idx : Nat) (cmd : Command) (backoff : Nat) : ChannelState :=
  let s := s.modifyAt idx fun k => { k with attempts := cmd.attempts + 1 }
  let s := s.modifyAt idx fun k => { k with state := .retry }
  { s with counters := { s.counters with retries := s.counters.retries + 1 },
           backoff := some backoff }

def spendAt (s : ChannelState) (idx : Nat) (cmd : Command) : ChannelState :=
  s.modifyAt idx fun k => { k with attempts := cmd.attempts + 1 }

def timeoutAt (s : ChannelState) (idx : Nat) (cmd : Command) : ChannelState :=
  let s := s.spendAt idx cmd
  { s with counters := { s.counters with timeouts := s.counters.timeouts + 1 } }

def requeueAt (s : ChannelState) (idx : Nat) : ChannelState :=
  let s := s.modifyAt idx fun k => { k with state := .retry }
  { s with counters := { s.counters with retries := s.counters.retries + 1 }, running := none }

def failAt (s : ChannelState) (idx : Nat) (r : Outcome) : ChannelState × Engine.Done :=
  let s := { s with counters := { s.counters with failed := s.counters.failed + 1 } }
  s.finishAt idx r #[]

def completeAt (s : ChannelState) (idx : Nat) (payload : List UInt8) : ChannelState × Engine.Done :=
  let s := { s with counters := { s.counters with completed := s.counters.completed + 1 } }
  s.finishAt idx (.ok payload) #[]

/-- What one attempt to send the command `cmd` at `idx` can leave, by the answer of the
link. -/
inductive Attempt (budget : Nat) (s : ChannelState) (idx : Nat) (cmd : Command)
    (done : Engine.Done) : Except TransmitError Unit → ChannelState × Engine.Done → Prop where
  | sent (timer : Nat) :
      Attempt budget s idx cmd done (.ok ()) (s.launch idx cmd (s.lastSeq + 1) timer, done)
  | gaveUp {e : TransmitError} : budget ≤ cmd.attempts + 1 →
      Attempt budget s idx cmd done (.error e) (s.refusedFinal idx cmd done)
  | backedOff {e : TransmitError} (backoff : Nat) : cmd.attempts + 1 < budget →
      Attempt budget s idx cmd done (.error e) (s.refusedRetry idx cmd backoff, done)

/-- The states pumping passes through: while the channel is enabled, has nothing in flight
and no back-off armed, the first command that may be sent gets one attempt. -/
inductive Pumping (budget : Nat) : ChannelState × Engine.Done → ChannelState × Engine.Done → Prop where
  | stop (p : ChannelState × Engine.Done) : Pumping budget p p
  | attempt {s : ChannelState} {done : Engine.Done} {idx : Nat} {cmd : Command}
      {answer : Except TransmitError Unit} {q r : ChannelState × Engine.Done} :
      s.enabled = true → s.running = none → s.backoff = none → s.nextSendable = some idx →
      s.pending[idx]? = some cmd → s.Attempt budget idx cmd done answer q → Pumping budget q r →
      Pumping budget (s, done) r

/-- What the answer `f` does to the command `cmd` at `idx`, whose timer is stopped: one
case for each status, and a command cancelled while running is reaped whatever the
status. -/
inductive Answer (budget : Nat) (s : ChannelState) (idx : Nat) (cmd : Command) (f : Frame) :
    ChannelState × Engine.Done → Prop where
  | reaped : cmd.state = .runningCancelled → Answer budget s idx cmd f (s.reapAt idx, #[])
  | gaveUp : cmd.state ≠ .runningCancelled → f.status = Status.queueFull →
      budget ≤ cmd.attempts + 1 →
      Answer budget s idx cmd f ((s.spendAt idx cmd).failAt idx (.error (.remote f.status.code)))
  | backedOff (backoff : Nat) : cmd.state ≠ .runningCancelled → f.status = Status.queueFull →
      cmd.attempts + 1 < budget →
      Answer budget s idx cmd f ({ (s.spendAt idx cmd).requeueAt idx with backoff := some backoff }, #[])
  | completed : cmd.state ≠ .runningCancelled → f.status = Status.ok →
      Answer budget s idx cmd f (s.completeAt idx f.payload)
  | failed : cmd.state ≠ .runningCancelled → f.status ≠ Status.queueFull → f.status ≠ Status.ok →
      Answer budget s idx cmd f (s.failAt idx (.error (.remote f.status.code)))

/-- What the end of the attempt timer does to the command `cmd` at `idx`, whose timer is
stopped: the attempt is spent, and a command cancelled while running is reaped. -/
inductive Expiry (budget : Nat) (s : ChannelState) (idx : Nat) (cmd : Command) :
    ChannelState × Engine.Done → Prop where
  | reaped : cmd.state = .runningCancelled → Expiry budget s idx cmd (s.reapAt idx, #[])
  | timedOut : cmd.state ≠ .runningCancelled → budget ≤ cmd.attempts + 1 →
      Expiry budget s idx cmd ((s.timeoutAt idx cmd).failAt idx (.error .timeout))
  | retried : cmd.state ≠ .runningCancelled → cmd.attempts + 1 < budget →
      Expiry budget s idx cmd ((s.timeoutAt idx cmd).requeueAt idx, #[])

theorem Pumping.snoc {budget : Nat} {p q : ChannelState × Engine.Done} {s : ChannelState}
    {done : Engine.Done} {idx : Nat} {cmd : Command} {answer : Except TransmitError Unit}
    (h : Pumping budget p (s, done)) (hen : s.enabled = true) (hr : s.running = none)
    (hb : s.backoff = none) (hn : s.nextSendable = some idx) (hc : s.pending[idx]? = some cmd)
    (ha : s.Attempt budget idx cmd done answer q) : Pumping budget p q := by
  generalize hp : (s, done) = last at h
  induction h with
  | stop => cases hp; exact .attempt hen hr hb hn hc ha (.stop _)
  | attempt hen' hr' hb' hn' hc' ha' _ ih => exact .attempt hen' hr' hb' hn' hc' ha' (ih hp)

theorem nextSendable_some {s : ChannelState} {idx : Nat} (h : s.nextSendable = some idx) :
    ∃ cmd, s.pending[idx]? = some cmd ∧ cmd.state.isSendable = true := by
  obtain ⟨hlt, hsend, -⟩ := List.findIdx?_eq_some_iff_getElem.mp h
  exact ⟨_, List.getElem?_eq_getElem hlt, hsend⟩

end ChannelState

namespace Engine

open Sim

variable (s : ChannelState) (idx : Nat) (r : Outcome) (done : Done) (w : World)

theorem finish_run :
    ((finish s idx r done).run w).1 = s.finishAt idx r done ∧
      ((finish s idx r done).run w).2.engine = w.engine ∧
      ((finish s idx r done).run w).2.view = w.view := by
  unfold finish ChannelState.finishAt
  cases hcmd : s.pending[idx]? with
  | none => exact ⟨rfl, rfl, rfl⟩
  | some cmd =>
    simp only [run_bind]
    cases cmd.owner <;> simp only [run_pure, stopTimer_engine, stopTimer_view, and_true] <;> rfl

@[simp] theorem finish_fst : ((finish s idx r done).run w).1 = s.finishAt idx r done :=
  (finish_run s idx r done w).1

@[simp] theorem finish_engine : ((finish s idx r done).run w).2.engine = w.engine :=
  (finish_run s idx r done w).2.1

@[simp] theorem finish_view : ((finish s idx r done).run w).2.view = w.view :=
  (finish_run s idx r done w).2.2

theorem reap_run :
    ((reap s idx).run w).1 = s.reapAt idx ∧ ((reap s idx).run w).2.engine = w.engine ∧
      ((reap s idx).run w).2.view = w.view := by
  unfold reap ChannelState.reapAt
  cases s.pending[idx]? with
  | none => exact ⟨rfl, rfl, rfl⟩
  | some cmd =>
    simp only [run_bind, run_pure, emit_engine, emit_view, stopTimer_engine, stopTimer_view,
      and_true]
    rfl

@[simp] theorem reap_fst : ((reap s idx).run w).1 = s.reapAt idx := (reap_run s idx w).1

@[simp] theorem reap_engine : ((reap s idx).run w).2.engine = w.engine := (reap_run s idx w).2.1

@[simp] theorem reap_view : ((reap s idx).run w).2.view = w.view := (reap_run s idx w).2.2

theorem sendAttempt_run (c : Channel) {cmd : Command} (hcmd : s.pending[idx]? = some cmd) :
    s.Attempt w.engine.config.retryBudget idx cmd done ((transmit c cmd (s.lastSeq + 1)).run w).1
        ((sendAttempt c s idx done).run w).1 ∧
      ((sendAttempt c s idx done).run w).2.engine = w.engine ∧
      ((sendAttempt c s idx done).run w).2.view = ((transmit c cmd (s.lastSeq + 1)).run w).2.view := by
  simp only [sendAttempt, run_bind, config_run, hcmd]
  split
  · next sent =>
    simp only [run_bind, run_pure, now_run, spawn_engine, spawn_view, emit_engine, emit_view,
      transmit_engine, and_true]
    rw [sent]
    exact .sent _
  · next e refused =>
    rw [refused]
    by_cases spent : w.engine.config.retryBudget ≤ cmd.attempts + 1
    · simp only [ge_iff_le, spent, ↓reduceIte, run_bind, emit_engine, emit_view, finish_fst,
        finish_engine, finish_view, transmit_engine, and_true]
      exact .gaveUp spent
    · simp only [ge_iff_le, spent, ↓reduceIte, run_bind, run_pure, now_run, emit_engine,
        emit_view, spawn_engine, spawn_view, transmit_engine, and_true]
      exact .backedOff _ (Nat.lt_of_not_le spent)

theorem answer_run (c : Channel) (cmd : Command) (f : Frame) :
    s.Answer w.engine.config.retryBudget idx cmd f ((answer c s idx cmd f).run w).1 ∧
      ((answer c s idx cmd f).run w).2.engine = w.engine ∧
      ((answer c s idx cmd f).run w).2.view = w.view := by
  rw [answer, run_bind, config_run]
  dsimp only
  by_cases cancelled : cmd.state = .runningCancelled
  · simp only [cancelled, beq_self_eq_true, ↓reduceIte, run_bind, run_pure, reap_fst,
      reap_engine, reap_view, and_true]
    exact .reaped cancelled
  have live : (cmd.state == .runningCancelled) = false := by simpa using cancelled
  simp only [live, Bool.false_eq_true, ↓reduceIte]
  by_cases busy : f.status = Status.queueFull
  · by_cases spent : w.engine.config.retryBudget ≤ cmd.attempts + 1
    · simp only [busy, beq_self_eq_true, ↓reduceIte, ge_iff_le, spent, run_bind, emit_engine, emit_view,
        finish_fst, finish_engine, finish_view, and_true]
      exact busy ▸ .gaveUp cancelled busy spent
    · simp only [busy, beq_self_eq_true, ↓reduceIte, ge_iff_le, spent, run_bind, run_pure,
        emit_engine, emit_view, now_run, spawn_engine, spawn_view, and_true]
      exact .backedOff _ cancelled busy (Nat.lt_of_not_le spent)
  · have notBusy : (f.status == Status.queueFull) = false := by simpa using busy
    by_cases ok : f.status = Status.ok
    · have isOk : (f.status == Status.ok) = true := by simpa using ok
      simp only [notBusy, isOk, Bool.false_eq_true, ↓reduceIte, finish_fst, finish_engine, finish_view,
        and_true]
      exact .completed cancelled ok
    · have notOk : (f.status == Status.ok) = false := by simpa using ok
      simp only [notBusy, notOk, Bool.false_eq_true, ↓reduceIte, run_bind, emit_engine, emit_view,
        finish_fst, finish_engine, finish_view, and_true]
      exact .failed cancelled busy ok

theorem expire_run (c : Channel) (cmd : Command) :
    s.Expiry w.engine.config.retryBudget idx cmd ((expire c s idx cmd).run w).1 ∧
      ((expire c s idx cmd).run w).2.engine = w.engine ∧
      ((expire c s idx cmd).run w).2.view = w.view := by
  rw [expire, run_bind, config_run]
  dsimp only
  by_cases cancelled : cmd.state = .runningCancelled
  · simp only [cancelled, beq_self_eq_true, ↓reduceIte, run_bind, run_pure, reap_fst,
      reap_engine, reap_view, and_true]
    exact .reaped cancelled
  have live : (cmd.state == .runningCancelled) = false := by simpa using cancelled
  simp only [live, Bool.false_eq_true, ↓reduceIte, run_bind, now_run]
  by_cases spent : w.engine.config.retryBudget ≤ cmd.attempts + 1
  · simp only [ge_iff_le, spent, ↓reduceIte, run_bind, emit_engine, emit_view, finish_fst, finish_engine, finish_view,
      and_true]
    exact .timedOut cancelled spent
  · simp only [ge_iff_le, spent, ↓reduceIte, run_bind, run_pure, emit_engine, emit_view, and_true]
    exact .retried cancelled (Nat.lt_of_not_le spent)

theorem drainAll_run (c : Channel) (fuel : Nat) (s : ChannelState) (done : Done) (w : World) :
    ((drainAll c fuel s done).run w).1 = s.drain fuel done ∧
      ((drainAll c fuel s done).run w).2.engine = w.engine ∧
      ((drainAll c fuel s done).run w).2.view = w.view := by
  induction fuel generalizing s done w with
  | zero => exact ⟨rfl, rfl, rfl⟩
  | succ fuel ih =>
    simp only [drainAll, ChannelState.drain]
    cases s.pending with
    | nil => exact ⟨rfl, rfl, rfl⟩
    | cons cmd rest =>
      simp only
      split
      · simp only [run_bind, reap_fst, ih, reap_engine, reap_view, and_self]
      · simp only [run_bind, finish_fst, ih, finish_engine, finish_view, and_self]

@[simp] theorem drainAll_fst (c : Channel) (fuel : Nat) :
    ((drainAll c fuel s done).run w).1 = s.drain fuel done :=
  (drainAll_run c fuel s done w).1

@[simp] theorem drainAll_engine (c : Channel) (fuel : Nat) :
    ((drainAll c fuel s done).run w).2.engine = w.engine :=
  (drainAll_run c fuel s done w).2.1

@[simp] theorem drainAll_view (c : Channel) (fuel : Nat) :
    ((drainAll c fuel s done).run w).2.view = w.view :=
  (drainAll_run c fuel s done w).2.2

@[simp] theorem sendAttempt_engine (c : Channel) :
    ((sendAttempt c s idx done).run w).2.engine = w.engine := by
  cases hcmd : s.pending[idx]? with
  | none => simp only [sendAttempt, run_bind, config_run, hcmd, run_pure]
  | some cmd => exact (sendAttempt_run s idx done w c hcmd).2.1

theorem pumpWith_induction (c : Channel) (P : ChannelState × Done → World → Prop)
    (step : ∀ s done w idx cmd, s.enabled = true → s.running = none → s.backoff = none →
      s.nextSendable = some idx → s.pending[idx]? = some cmd → P (s, done) w →
      P ((sendAttempt c s idx done).run w).1 ((sendAttempt c s idx done).run w).2)
    (fuel : Nat) (s : ChannelState) (done : Done) (w : World) (h : P (s, done) w) :
    P ((pumpWith c fuel s done).run w).1 ((pumpWith c fuel s done).run w).2 := by
  induction fuel generalizing s done w with
  | zero => exact h
  | succ fuel ih =>
    simp only [pumpWith]
    by_cases free : (s.enabled && s.running.isNone && s.backoff.isNone) = true
    · simp only [Bool.and_eq_true, Option.isNone_iff_eq_none] at free
      obtain ⟨⟨enabled, idle⟩, clear⟩ := free
      simp only [enabled, idle, clear, Option.isNone_none, Bool.and_self, ↓reduceIte]
      cases hnext : s.nextSendable with
      | none => simpa only [run_pure] using h
      | some idx =>
        obtain ⟨cmd, hcmd, -⟩ := ChannelState.nextSendable_some hnext
        simp only [run_bind]
        exact ih _ _ _ (step s done w idx cmd enabled idle clear hnext hcmd h)
    · simpa only [free, Bool.false_eq_true, ↓reduceIte, run_pure] using h

theorem pumpWith_run (c : Channel) (fuel : Nat) (s : ChannelState) (done : Done) (w : World) :
    ChannelState.Pumping w.engine.config.retryBudget (s, done) ((pumpWith c fuel s done).run w).1 ∧
      ((pumpWith c fuel s done).run w).2.engine = w.engine := by
  refine pumpWith_induction c (fun p w' => ChannelState.Pumping w.engine.config.retryBudget (s, done) p ∧
    w'.engine = w.engine) ?_ fuel s done w ⟨.stop _, rfl⟩
  intro s' done' w' idx cmd enabled idle clear hnext hcmd ⟨pumped, same⟩
  obtain ⟨attempt, kept, -⟩ := sendAttempt_run s' idx done' w' c hcmd
  rw [same] at attempt
  exact ⟨pumped.snoc enabled idle clear hnext hcmd attempt, kept.trans same⟩

theorem sendAttempt_view (c : Channel) :
    ((sendAttempt c s idx done).run w).2.view.events = w.view.events ∧
      ((sendAttempt c s idx done).run w).2.view.recording = w.view.recording := by
  cases hcmd : s.pending[idx]? with
  | none => simp only [sendAttempt, run_bind, config_run, hcmd, run_pure, and_self]
  | some cmd =>
    rw [(sendAttempt_run s idx done w c hcmd).2.2]
    rcases transmit_view c cmd (s.lastSeq + 1) w with ⟨frame, -, -, -, taken⟩ | ⟨-, same⟩
    · rw [taken]
      exact ⟨rfl, rfl⟩
    · rw [same]
      exact ⟨rfl, rfl⟩

theorem pumpWith_view (c : Channel) (fuel : Nat) (s : ChannelState) (done : Done) (w : World) :
    ((pumpWith c fuel s done).run w).2.view.events = w.view.events ∧
      ((pumpWith c fuel s done).run w).2.view.recording = w.view.recording := by
  refine pumpWith_induction c (fun _ w' => w'.view.events = w.view.events ∧
    w'.view.recording = w.view.recording) ?_ fuel s done w ⟨rfl, rfl⟩
  intro s' done' w' idx _ _ _ _ _ _ ⟨events, recording⟩
  obtain ⟨events', recording'⟩ := sendAttempt_view s' idx done' w' c
  exact ⟨events'.trans events, recording'.trans recording⟩

@[simp] theorem pump_engine (c : Channel) :
    ((pump c s done).run w).2.engine = w.engine :=
  (pumpWith_run c _ s done w).2

theorem pump_pumping (c : Channel) :
    ChannelState.Pumping w.engine.config.retryBudget (s, done) ((pump c s done).run w).1 :=
  (pumpWith_run c _ s done w).1

theorem pump_view (c : Channel) :
    ((pump c s done).run w).2.view.events = w.view.events ∧
      ((pump c s done).run w).2.view.recording = w.view.recording :=
  pumpWith_view c _ s done w

end Engine

end FrameRpc
