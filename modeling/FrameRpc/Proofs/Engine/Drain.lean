import FrameRpc.Proofs.Engine.History
import FrameRpc.Proofs.Engine.Counters
import FrameRpc.Proofs.Sim.Clock
import Mathlib.Data.List.Basic
set_option autoImplicit false

/-!
Disabling drains a channel.

Main statement: `disable_drains`. Disabling an enabled channel stops its back-off and
cancels its unfinished commands from the front: each command that waits to be sent, waits
to be sent again or runs tells its owner that it was cancelled and is counted, and a
command already cancelled while running is dropped without a word. Nothing is sent, and
the channel keeps its last sequence number, its handle counter and its other counters.
Every outcome collected by an operation is delivered before the operation ends, so
between operations no channel has an outcome waiting (`Chronicle.cleanupPending`), and a
drained channel has none either.

`ChannelState.Drained` says what a drained channel is, relative to the channel before, and
`Coherent.drained` shows that disabling leaves one. The count of waiting outcomes is
carried through every move by `ChannelState.Collects`: what a change adds to the count it
adds to the outcomes it collects.

A batch whose callback panics unwinds (`complete_panic_unwinds`): every outcome is still
counted off and the idle waiters woken, but the callbacks after the one that panics are
dropped uncalled.
-/

namespace FrameRpc

namespace ChannelState

/-- `t` is `s` disabled and emptied, having told `told` in order: a cancel to the owner of
each command of `s` that was not cancelled while running, each counted as cancelled. Its
last sequence number, handle counter, other counters and waiting outcomes are those of `s`. -/
structure Drained (s t : ChannelState) (told : List (Owner × Outcome)) : Prop where
  disabled : t.enabled = false
  empty : t.pending = []
  idle : t.running = none
  calm : t.backoff = none
  cancels : List.Forall₂ (fun x k => k.owner = some x.1 ∧ x.2 = .error .cancelled) told
    (s.pending.filter (·.state != .runningCancelled))
  counted : t.counters = { s.counters with cancelled := s.counters.cancelled + told.length }
  lastSeq : t.lastSeq = s.lastSeq
  nextHandle : t.nextHandle = s.nextHandle
  cleanupPending : t.cleanupPending = s.cleanupPending

section drain

variable {s : ChannelState} {idx fuel : Nat} {cmd : Command} {rest : List Command} {o : Owner}
  {done : Engine.Done}

@[simp] theorem reapAt_cleanupPending (s : ChannelState) (idx : Nat) :
    (s.reapAt idx).cleanupPending = s.cleanupPending := by
  unfold reapAt; split <;> simp

theorem finishAt_owned (h : s.pending[idx]? = some cmd) (ho : cmd.owner = some o) (r : Outcome)
    (done : Engine.Done) :
    s.finishAt idx r done = ({ s.removeAt idx cmd with cleanupPending := s.cleanupPending + 1 },
      done.push (o, r)) := by
  simp [finishAt, h, ho]

theorem drain_nil (hp : s.pending = []) : s.drain fuel done = (s, done) := by
  cases fuel <;> simp [drain, hp]

theorem drain_reaped (hp : s.pending = cmd :: rest) (hrc : cmd.state = .runningCancelled) :
    s.drain (fuel + 1) done = (s.reapAt 0).drain fuel done := by
  simp only [drain]
  split
  · next h =>
    rw [hp] at h
    cases h
  · next h =>
    rw [hp, List.cons.injEq] at h
    obtain ⟨rfl, rfl⟩ := h
    simp [hrc]

theorem drain_cancelled (hp : s.pending = cmd :: rest) (live : cmd.state ≠ .runningCancelled) :
    s.drain (fuel + 1) done =
      (s.countCancel.finishAt 0 (.error .cancelled) done).1.drain fuel
        (s.countCancel.finishAt 0 (.error .cancelled) done).2 := by
  simp only [drain]
  split
  · next h =>
    rw [hp] at h
    cases h
  · next h =>
    rw [hp, List.cons.injEq] at h
    obtain ⟨rfl, rfl⟩ := h
    have kept : (cmd.state == .runningCancelled) = false := by simpa using live
    simp only [kept, Bool.false_eq_true, ↓reduceIte]
    rfl

/-- Draining with more fuel than commands tells, in order, a cancel to the owner of every
command not cancelled while running and counts it; the other commands are dropped without
a word. -/
theorem drain_told (fuel : Nat) (s : ChannelState) (done : Engine.Done) (hf : s.pending.length < fuel)
    (owned : ∀ k ∈ s.pending, k.owner = none ↔ k.state = .runningCancelled) :
    ∃ told, (s.drain fuel done).2.toList = done.toList ++ told ∧
      List.Forall₂ (fun x k => k.owner = some x.1 ∧ x.2 = .error .cancelled) told
        (s.pending.filter (·.state != .runningCancelled)) ∧
      (s.drain fuel done).1.counters = { s.counters with cancelled := s.counters.cancelled + told.length } ∧
      (s.drain fuel done).1.cleanupPending = s.cleanupPending + told.length := by
  induction fuel generalizing s done with
  | zero => omega
  | succ fuel ih =>
    cases hp : s.pending with
    | nil =>
      rw [drain_nil hp]
      exact ⟨[], by simp, .nil, rfl, rfl⟩
    | cons cmd rest =>
      have hcmd : s.pending[0]? = some cmd := by simp [hp]
      rw [hp] at hf owned
      have shorter : rest.length < fuel := by simpa using hf
      have later : ∀ k ∈ rest, k.owner = none ↔ k.state = .runningCancelled :=
        fun k hk => owned k (List.mem_cons_of_mem _ hk)
      by_cases hrc : cmd.state = .runningCancelled
      · -- a command cancelled while running is reaped, and told nothing
        rw [drain_reaped hp hrc]
        have reaped : (s.reapAt 0).pending = rest := by simp [hp]
        obtain ⟨told, delivered, cancels, counted, collected⟩ :=
          ih (s.reapAt 0) done (by rw [reaped]; exact shorter) (by rw [reaped]; exact later)
        refine ⟨told, delivered, ?_, by rw [counted, reapAt_counters], by rw [collected, reapAt_cleanupPending]⟩
        rw [reaped] at cancels
        simpa [hrc] using cancels
      · -- any other command is counted, and its owner told it was cancelled
        obtain ⟨o, ho⟩ := Option.ne_none_iff_exists'.mp fun silent => hrc ((owned cmd (.head _)).mp silent)
        rw [drain_cancelled hp hrc, finishAt_owned (by simpa [countCancel] using hcmd) ho]
        have removed : (s.countCancel.removeAt 0 cmd).pending = rest := by simp [countCancel, hp]
        obtain ⟨told, delivered, cancels, counted, collected⟩ :=
          ih { s.countCancel.removeAt 0 cmd with cleanupPending := s.countCancel.cleanupPending + 1 }
            (done.push (o, .error .cancelled)) (by rw [removed]; exact shorter) (by rw [removed]; exact later)
        refine ⟨(o, .error .cancelled) :: told, by rw [delivered]; simp, ?_, ?_, ?_⟩
        · rw [removed] at cancels
          rw [List.filter_cons_of_pos (by simpa using hrc)]
          exact .cons ⟨ho, rfl⟩ cancels
        · rw [counted]
          simp only [removeAt_counters, countCancel, List.length_cons]
          congr 1
          omega
        · rw [collected]
          simp only [countCancel, List.length_cons]
          omega

end drain

theorem Coherent.drained {s : ChannelState} (hs : s.Coherent) : s.Drained s.close s.closing.2.toList := by
  unfold ChannelState.close ChannelState.closing
  split
  · obtain ⟨empty, idle⟩ := drain_empties (s.pending.length + 1)
      { s with enabled := false, backoff := none } #[] hs.running_cases (by simp)
    obtain ⟨disabled, seq, handles, calm⟩ := drain_keeps (s.pending.length + 1)
      { s with enabled := false, backoff := none } #[]
    obtain ⟨told, delivered, cancels, counted, collected⟩ := drain_told (s.pending.length + 1)
      { s with enabled := false, backoff := none } #[] (by simp) fun k hk => (hs.consistent k hk).owner
    simp only [List.nil_append] at delivered
    rw [delivered, ← Array.length_toList, delivered]
    exact { disabled, empty, idle, calm, cancels, counted, lastSeq := seq, nextHandle := handles,
            cleanupPending := by simp only [ChannelState.delivered, collected]; omega }
  · next on =>
    have off : s.enabled = false := by simpa using on
    obtain ⟨empty, calm⟩ := hs.disabled off
    have idle : s.running = none := by rw [hs.running_eq, inFlight_nil s empty]; rfl
    exact { disabled := off, empty, idle, calm, cancels := by simp [empty], counted := rfl,
            lastSeq := rfl, nextHandle := rfl, cleanupPending := rfl }

/-- What a change to a channel and its collected outcomes adds to the count of waiting
outcomes, it adds to the outcomes. -/
def Collects (p q : ChannelState × Engine.Done) : Prop :=
  q.1.cleanupPending + p.2.size = p.1.cleanupPending + q.2.size

section collects

variable {p q r : ChannelState × Engine.Done} {s : ChannelState} {done : Engine.Done}

theorem Collects.refl (p : ChannelState × Engine.Done) : Collects p p := rfl

theorem Collects.trans (h : Collects p q) (h' : Collects q r) : Collects p r := by
  unfold Collects at *
  omega

theorem Collects.keep (h : Collects p q) (hc : r.1.cleanupPending = q.1.cleanupPending) (hd : r.2 = q.2) :
    Collects p r := by
  unfold Collects at *
  rw [hc, hd]
  exact h

theorem collects_finishAt (s : ChannelState) (idx : Nat) (r : Outcome) (done : Engine.Done) :
    Collects (s, done) (s.finishAt idx r done) := by
  unfold Collects finishAt
  split
  · rfl
  · split
    · simp only [Array.size_push, removeAt_cleanupPending]
      omega
    · simp

theorem collects_reapAt (s : ChannelState) (idx : Nat) (done : Engine.Done) :
    Collects (s, done) (s.reapAt idx, done) := by
  simp [Collects]

theorem collects_abandonAt (s : ChannelState) (idx : Nat) (cmd : Command) :
    Collects (s, #[]) (s.abandonAt idx cmd) := by
  unfold Collects abandonAt
  cases cmd.owner <;> rfl

theorem Attempt.collects {budget idx : Nat} {cmd : Command} {answer : Except TransmitError Unit}
    (ha : s.Attempt budget idx cmd done answer q) : Collects (s, done) q := by
  cases ha with
  | sent timer => exact .refl _
  | gaveUp _ => exact collects_finishAt _ idx _ done
  | backedOff backoff _ => exact .refl _

theorem Pumping.collects {budget : Nat} (h : Pumping budget p q) : Collects p q := by
  induction h with
  | stop p => exact .refl p
  | attempt _ _ _ _ _ ha _ ih => exact ha.collects.trans ih

theorem Answer.collects {budget idx : Nat} {cmd : Command} {f : Frame}
    (ha : s.Answer budget idx cmd f q) : Collects (s, #[]) q := by
  cases ha with
  | reaped _ => exact collects_reapAt s idx #[]
  | gaveUp _ _ _ => exact collects_finishAt _ idx _ #[]
  | backedOff backoff _ _ _ => exact .refl _
  | completed _ _ => exact collects_finishAt _ idx _ #[]
  | failed _ _ _ => exact collects_finishAt _ idx _ #[]

theorem Expiry.collects {budget idx : Nat} {cmd : Command} (he : s.Expiry budget idx cmd q) :
    Collects (s, #[]) q := by
  cases he with
  | reaped _ => exact collects_reapAt s idx #[]
  | timedOut _ _ => exact collects_finishAt _ idx _ #[]
  | retried _ _ => exact .refl _

theorem collects_drain (fuel : Nat) (s : ChannelState) (done : Engine.Done) :
    Collects (s, done) (s.drain fuel done) := by
  induction fuel generalizing s done with
  | zero => exact .refl _
  | succ fuel ih =>
    cases hp : s.pending with
    | nil =>
      rw [drain_nil hp]
      exact .refl _
    | cons cmd rest =>
      by_cases hrc : cmd.state = .runningCancelled
      · rw [drain_reaped hp hrc]
        exact (collects_reapAt s 0 done).trans (ih _ _)
      · rw [drain_cancelled hp hrc]
        exact (collects_finishAt s.countCancel 0 _ done).trans (ih _ _)

theorem collects_closing (s : ChannelState) : Collects (s, #[]) s.closing := by
  unfold closing
  split
  · exact collects_drain _ _ _
  · exact .refl _

theorem Collects.stored (h : Collects (s, #[]) q) : (stored q).cleanupPending = s.cleanupPending := by
  unfold Collects at h
  show q.1.cleanupPending - q.2.size = s.cleanupPending
  simp only [Array.size_empty, Nat.add_zero] at h
  omega

theorem Moves.cleanupPending {cfg : EngineConfig} {c : Channel} {evs : List (Nat × Happening)}
    {t : ChannelState} (h : s.Moves cfg c evs t) : t.cleanupPending = s.cleanupPending := by
  cases h with
  | enable _ => rfl
  | close => exact (collects_closing s).stored
  | drop => rfl
  | dequeue _ _ => exact (collects_finishAt s.countCancel _ _ #[]).stored
  | abandon _ _ => exact (collects_abandonAt s _ _).stored
  | submit _ _ served => exact served.pumping.collects.stored
  | answer _ _ answered served => exact (answered.collects.trans served.pumping.collects).stored
  | expire _ _ expired served => exact (expired.collects.trans served.pumping.collects).stored
  | resume served => exact served.pumping.collects.stored

end collects

end ChannelState

theorem EngineState.Chronicle.cleanupPending {e : EngineState} {evs : List Happened}
    (h : e.Chronicle evs) (c : Channel) : (e.channels.get c).cleanupPending = 0 := by
  induction h generalizing c with
  | start _ => simp [ChannelState.initial]
  | move _ moved _ stored ih =>
    rw [stored]
    exact PerChannel.get_set_of_forall (P := fun t : ChannelState => t.cleanupPending = 0) ih _
      (moved.cleanupPending.trans (ih _)) c
  | quiet _ _ stored ih =>
    rw [stored]
    exact ih c

namespace Engine

open Sim ChannelState

theorem disable_view (c : Channel) {w : World} (calm : w.engine.panicking = []) :
    ((disable c).run w).2.view =
      w.view.report ((w.engine.channels.get c).closing.2.toList.flatMap fun x => x.1.reported x.2) := by
  obtain ⟨w1, same, shown, settles⟩ := disable_run c w
  rw [settles, settled_view c _ (by rw [same, calm]), shown]

/-- Disabling the channels of a list without repeats, one after another, closes each of them
as it was, leaves the others and the settings alone, and tells in turn what each closing
collected. -/
theorem disables_run (l : List Channel) (nodup : l.Nodup) {w : World} (calm : w.engine.panicking = []) :
    let w' := l.foldl (fun w c => ((disable c).run w).2) w
    w'.engine.config = w.engine.config ∧
    (∀ c, w'.engine.channels.get c =
      if c ∈ l then (w.engine.channels.get c).close else w.engine.channels.get c) ∧
    w'.view = w.view.report (l.flatMap fun c =>
      (w.engine.channels.get c).closing.2.toList.flatMap fun x => x.1.reported x.2) := by
  induction l generalizing w with
  | nil => simp
  | cons d rest ih =>
    obtain ⟨fresh, nodup⟩ := List.nodup_cons.mp nodup
    obtain ⟨config, channels, shown⟩ := ih nodup (w := ((disable d).run w).2) (by rw [disable_engine, calm])
    simp only [List.foldl_cons]
    have other : ∀ c ∈ rest, (((disable d).run w).2.engine.channels.get c) = w.engine.channels.get c :=
      fun c hc => by
        rw [disable_engine, PerChannel.get_set_other _ _ _ _ (fun same : c = d => fresh (same ▸ hc))]
    refine ⟨by rw [config, disable_engine], fun c => ?_, ?_⟩
    · rw [channels c]
      by_cases hc : c ∈ rest
      · simp [hc, other c hc]
      · by_cases hd : c = d
        · subst hd
          simp [hc, disable_engine]
        · simp [hc, hd, disable_engine, PerChannel.get_set_other _ _ _ _ hd]
    · rw [shown, disable_view d calm, List.flatMap_cons, View.report_report]
      congr 2
      exact List.flatMap_congr fun c hc => by rw [other c hc]

theorem disable_drained (c : Channel) {w : World} (hs : (w.engine.channels.get c).Coherent) :
    (w.engine.channels.get c).Drained (((disable c).run w).2.engine.channels.get c)
      (w.engine.channels.get c).closing.2.toList := by
  rw [disable_engine, PerChannel.get_set_self]
  exact hs.drained

theorem disable_of_disabled (c : Channel) {w : World} (calm : w.engine.panicking = [])
    (off : (w.engine.channels.get c).enabled = false) :
    ((disable c).run w).2.engine = w.engine ∧ ((disable c).run w).2.view = w.view := by
  have closed : (w.engine.channels.get c).closing = (w.engine.channels.get c, #[]) := by
    simp [ChannelState.closing, off]
  refine ⟨?_, by rw [disable_view c calm, closed]; simp⟩
  rw [disable_engine, ChannelState.close, closed]
  cases c <;> rfl

/-- Disabling drains the channel. In every reachable world, disabling `c` leaves it disabled
and empty, with no command in flight, no back-off and no outcome waiting; every command
that waited to be sent, waited to be sent again or ran is told, in the order of the queue,
that it was cancelled, and counted; a command cancelled while running goes without a word;
nothing is sent, and the last sequence number, the handle counter and the other counters
stay. The other channels and the settings are left alone, and a disabled channel is left as
it is. Shutting down drains every channel in this way, in index order. -/
theorem disable_drains {w : World} (hw : Reachable w) (c : Channel) :
    let s := w.engine.channels.get c
    let w' := (Action.disable c).step w
    ((∃ told, s.Drained (w'.engine.channels.get c) told ∧
        w'.view = w.view.report (told.flatMap fun x => x.1.reported x.2)) ∧
      (w'.engine.channels.get c).cleanupPending = 0 ∧
      (∀ d, d ≠ c → w'.engine.channels.get d = w.engine.channels.get d) ∧
      w'.engine.config = w.engine.config ∧
      (s.enabled = false → w'.engine = w.engine ∧ w'.view = w.view)) ∧
    ∃ told : Channel → List (Owner × Outcome),
      (∀ d, (w.engine.channels.get d).Drained ((Action.shutdown.step w).engine.channels.get d) (told d) ∧
        ((Action.shutdown.step w).engine.channels.get d).cleanupPending = 0) ∧
      (Action.shutdown.step w).engine.config = w.engine.config ∧
      (Action.shutdown.step w).view =
        w.view.report (Channel.all.flatMap fun d => (told d).flatMap fun x => x.1.reported x.2) := by
  dsimp only
  rw [Action.step_disable, Action.step_shutdown]
  obtain ⟨evs, chronicle⟩ := hw.chronicle
  have coherent := chronicle.coherent
  -- a drained channel keeps the count of waiting outcomes, which is zero between operations
  have waiting : ∀ d, (w.engine.channels.get d).cleanupPending = 0 := chronicle.cleanupPending
  have drained := disable_drained c (coherent c)
  refine ⟨⟨⟨_, drained, disable_view c hw.calm⟩, drained.cleanupPending.trans (waiting c), fun d hd => ?_,
    by rw [disable_engine], disable_of_disabled c hw.calm⟩, ?_⟩
  · rw [disable_engine, PerChannel.get_set_other _ _ _ _ hd]
  obtain ⟨config, channels, shown⟩ := disables_run Channel.all (by decide) hw.calm
  obtain ⟨shutEngine, shutView⟩ := shutdown_run w
  refine ⟨fun d => (w.engine.channels.get d).closing.2.toList, fun d => ?_,
    by rw [shutEngine, config], by rw [shutView, shown]⟩
  have shut : (w.engine.channels.get d).Drained ((shutdown.run w).2.engine.channels.get d)
      (w.engine.channels.get d).closing.2.toList := by
    rw [shutEngine, channels d, if_pos (by cases d <;> decide)]
    exact (coherent d).drained
  exact ⟨shut, shut.cleanupPending.trans (waiting d)⟩

theorem disable_drains_after_submit :
    Reachable ((Action.submit .control 7 [1, 2] (.callback 1)).step ((Action.enable .control).step
      (World.initial EngineConfig.default (.recorder ⟨#[], [], true⟩) none ""))) ∧
    let w := (Action.submit .control 7 [1, 2] (.callback 1)).step ((Action.enable .control).step
      (World.initial EngineConfig.default (.recorder ⟨#[], [], true⟩) none ""))
    let s := w.engine.channels.get .control
    let w' := (Action.disable .control).step w
    ((∃ told, s.Drained (w'.engine.channels.get .control) told ∧
        w'.view = w.view.report (told.flatMap fun x => x.1.reported x.2)) ∧
      (w'.engine.channels.get .control).cleanupPending = 0 ∧
      (∀ d, d ≠ .control → w'.engine.channels.get d = w.engine.channels.get d) ∧
      w'.engine.config = w.engine.config ∧
      (s.enabled = false → w'.engine = w.engine ∧ w'.view = w.view)) ∧
    ∃ told : Channel → List (Owner × Outcome),
      (∀ d, (w.engine.channels.get d).Drained ((Action.shutdown.step w).engine.channels.get d) (told d) ∧
        ((Action.shutdown.step w).engine.channels.get d).cleanupPending = 0) ∧
      (Action.shutdown.step w).engine.config = w.engine.config ∧
      (Action.shutdown.step w).view =
        w.view.report (Channel.all.flatMap fun d => (told d).flatMap fun x => x.1.reported x.2) :=
  have reached := Reachable.act _ (Reachable.act _ (Reachable.initial _ _ _ (by decide)))
  ⟨reached, disable_drains reached .control⟩

section unwinding

theorem forIn_wake_idleWaiters (ids : List Nat) (w : World) :
    ((forIn ids PUnit.unit fun id _ => do
      wake (.task id)
      pure (ForInStep.yield PUnit.unit)).run w).2.idleWaiters = w.idleWaiters := by
  induction ids generalizing w with
  | nil => rfl
  | cons id rest ih => simp only [List.forIn_cons, run_bind, run_pure, ih, wake_idleWaiters]

theorem notifyIfIdle_idleWaiters (c : Channel) (w : World) (idle : (w.engine.channels.get c).isIdle = true) :
    ((notifyIfIdle c).run w).2.idleWaiters.get c = [] := by
  simp only [notifyIfIdle, run_bind, chan_run, idle, ↓reduceIte, run_get, run_modify, run_pure]
  rw [forIn_wake_idleWaiters]
  exact PerChannel.get_set_self _ _ _

theorem release_idleWaiters (c : Channel) (w : World)
    (idle : (((release c).run w).2.engine.channels.get c).isIdle = true) :
    ((release c).run w).2.idleWaiters.get c = [] := by
  simp only [release, run_bind, chan_run] at idle ⊢
  rw [notifyIfIdle_engine] at idle
  exact notifyIfIdle_idleWaiters c _ idle

theorem abandon_idleWaiters (o : Owner) (w : World) : ((abandon o).run w).2.idleWaiters = w.idleWaiters := by
  cases o with
  | callback id => rfl
  | slot n =>
    simp only [abandon, fill, run_bind, run_modify, run_get]
    split <;> simp only [wake_idleWaiters, run_pure]

theorem completeWith_idleWaiters (c : Channel) (unwinding : Bool) (l : List (Owner × Outcome))
    (w : World) (hl : l ≠ [])
    (idle : (((completeWith c unwinding l).run w).2.engine.channels.get c).isIdle = true) :
    ((completeWith c unwinding l).run w).2.idleWaiters.get c = [] := by
  induction l generalizing unwinding w with
  | nil => contradiction
  | cons x rest ih =>
    obtain ⟨o, r⟩ := x
    cases rest with
    | nil =>
      cases unwinding with
      | false =>
        simp only [completeWith, run_bind, run_pure] at idle ⊢
        exact release_idleWaiters c _ idle
      | true =>
        simp only [completeWith, run_bind, run_pure, abandon_engine, abandon_idleWaiters] at idle ⊢
        exact release_idleWaiters c _ idle
    | cons y more =>
      cases unwinding
      · rw [completeWith.eq_2] at idle ⊢
        exact ih _ _ (List.cons_ne_nil _ _) idle
      · rw [completeWith.eq_3] at idle ⊢
        exact ih _ _ (List.cons_ne_nil _ _) idle

/-- Delivering a batch in which a callback panics. The panic unwinds through the rest of the
batch, and every ticket of it is still dropped: the channel's cleanup counter falls by the
size of the batch and nothing else of the engine changes, and once the channel is idle
no one is left waiting on it. But the callbacks reported are those before the first one
that panics, in order: no callback after it runs. -/
theorem complete_panic_unwinds (c : Channel) (done : Done) (w : World) :
    let w' := ((complete c done).run w).2
    w'.engine = { w.engine with
      channels := w.engine.channels.set c ({ w.engine.channels.get c with
        cleanupPending := (w.engine.channels.get c).cleanupPending - done.size }) } ∧
    (done.size ≠ 0 → (w'.engine.channels.get c).isIdle = true → w'.idleWaiters.get c = []) ∧
    w'.events.toList = w.events.toList ++
      (done.toList.takeWhile fun x => !x.1.panics w.engine.panicking).flatMap
        fun x => x.1.reported x.2 := by
  refine ⟨complete_engine c done w, fun nonempty idle => ?_, ?_⟩
  · have listed : done.toList ≠ [] := by simpa [← Array.length_toList] using nonempty
    exact completeWith_idleWaiters c false _ w listed idle
  · have shown := congrArg View.events (completeWith_view c done.toList w)
    simpa [View.report, complete] using shown

/-- Disabling a channel with two unfinished commands whose first callback panics: both are
counted cancelled and the cleanup counter is back at zero, but neither callback is reported,
the second one never having run. -/
theorem panicking_callback_drops_next :
    let w0 : World := { World.initial EngineConfig.default (.recorder ⟨#[], [], true⟩) none "" with
      engine := { EngineState.initial EngineConfig.default with panicking := [1] } }
    let w := (Action.submit .control 7 [] (.callback 2)).step
      ((Action.submit .control 7 [] (.callback 1)).step ((Action.enable .control).step w0))
    let w' := (Action.disable .control).step w
    (w.engine.channels.get .control).pending.length = 2 ∧ w.events.size = 0 ∧
      (w'.engine.channels.get .control).counters.cancelled = 2 ∧
      (w'.engine.channels.get .control).cleanupPending = 0 ∧ w'.events.size = 0 := by
  decide +kernel

end unwinding

end Engine

end FrameRpc
