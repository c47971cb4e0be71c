import FrameRpc.Proofs.Sim.Armed
set_option autoImplicit false

/-!
The engine's operations keep its timer tasks and the names its channels give them in step.

An operation holds one channel's state while it works (`World.Inside`). Every helper it
calls changes that state and the world together: removing a command or answering it stops
the attempt timer the command names, a send starts a new attempt timer and names it, a
refused send or a busy answer starts the back-off and names it, and everything else leaves
the timer tasks alone. Storing the state puts the invariant back (`World.Armed`). Coherence
of the channel supplies the facts each step needs: the command sent has no timer, the
command answered is the one in flight, and no back-off is armed while one is.
-/

namespace FrameRpc

namespace ChannelState

theorem timed_modify (l : List Command) (idx : Nat) {f : Command → Command}
    (hf : ∀ k, (f k).timer = k.timer ∧ (f k).handle = k.handle ∧ (f k).generation = k.generation) :
    (l.modify idx f).filterMap (fun k => k.timer.map fun id => (id, k.handle, k.generation)) =
      l.filterMap fun k => k.timer.map fun id => (id, k.handle, k.generation) := by
  induction l generalizing idx with
  | nil => simp
  | cons k rest ih =>
    cases idx with
    | zero =>
      obtain ⟨ht, hh, hg⟩ := hf k
      simp only [List.modify_zero_cons, List.filterMap_cons, ht, hh, hg]
    | succ idx => simp only [List.modify_succ_cons, List.filterMap_cons, ih]

theorem timed_modifyAt (s : ChannelState) (idx : Nat) {f : Command → Command}
    (hf : ∀ k, (f k).timer = k.timer ∧ (f k).handle = k.handle ∧ (f k).generation = k.generation) :
    (s.modifyAt idx f).timed = s.timed :=
  timed_modify s.pending idx hf

theorem eq_of_mem_modify {l : List Command} (sorted : l.Pairwise (·.handle < ·.handle)) {idx : Nat}
    {cmd : Command} (hcmd : l[idx]? = some cmd) {f : Command → Command} {k : Command}
    (hk : k ∈ l.modify idx f) (hh : k.handle = cmd.handle) : k = f cmd := by
  obtain ⟨i, hi⟩ := List.mem_iff_getElem?.mp hk
  by_cases same : idx = i
  · subst same
    rw [List.getElem?_modify_eq, hcmd] at hi
    exact (Option.some.inj hi).symm
  · rw [List.getElem?_modify_ne _ _ same] at hi
    exact absurd (index_eq_of_handle_eq sorted hi hcmd hh).symm same

theorem handles_modify (l : List Command) (idx : Nat) {f : Command → Command}
    (hf : ∀ k, (f k).handle = k.handle) : (l.modify idx f).map (·.handle) = l.map (·.handle) := by
  induction l generalizing idx with
  | nil => simp
  | cons k rest ih => cases idx <;> simp [hf, ih]

theorem sorted_modify {l : List Command} (sorted : l.Pairwise (·.handle < ·.handle)) (idx : Nat)
    {f : Command → Command} (hf : ∀ k, (f k).handle = k.handle) :
    (l.modify idx f).Pairwise (·.handle < ·.handle) := by
  have same := handles_modify l idx hf
  rw [← List.pairwise_map] at sorted ⊢
  rwa [same]

section send

variable {s : ChannelState} (sorted : s.pending.Pairwise (·.handle < ·.handle)) {idx : Nat} {cmd : Command}
  (hcmd : s.pending[idx]? = some cmd)
include sorted hcmd

theorem mem_timed_launch (idle : cmd.timer = none) (seq : UInt16) (timer : Nat) (x : Nat × Nat × Nat) :
    x ∈ (s.launch idx cmd seq timer).timed ↔ x ∈ s.timed ∨ x = (timer, cmd.handle, cmd.generation + 1) := by
  rw [mem_timed_modify sorted hcmd (t := s.launch idx cmd seq timer)
    (f := fun k => { k with seq, generation := cmd.generation + 1, state := .running, timer := some timer })
    rfl rfl x]
  obtain ⟨x1, x2, x3⟩ := x
  constructor
  · rintro (⟨hx, -⟩ | ⟨hx1, hx2, hx3⟩)
    · exact .inl hx
    · simp only [Option.some.injEq] at hx1 hx2 hx3
      subst hx1 hx2 hx3
      exact .inr rfl
  · rintro (hx | hx)
    · exact .inl ⟨hx, handle_ne_of_timed sorted hcmd idle hx⟩
    · cases hx
      exact .inr ⟨rfl, rfl, rfl⟩

theorem generation_launch (seq : UInt16) (timer : Nat) :
    ∀ k ∈ (s.launch idx cmd seq timer).pending, k.handle = cmd.handle → cmd.generation + 1 ≤ k.generation := by
  intro k hk hh
  exact Nat.le_of_eq (by rw [eq_of_mem_modify sorted hcmd hk hh])

end send

theorem timed_spendAt (s : ChannelState) (idx : Nat) (cmd : Command) : (s.spendAt idx cmd).timed = s.timed :=
  timed_modifyAt s idx (f := fun k => { k with attempts := cmd.attempts + 1 }) fun _ => ⟨rfl, rfl, rfl⟩

theorem timed_requeueAt (s : ChannelState) (idx : Nat) : (s.requeueAt idx).timed = s.timed :=
  timed_modifyAt s idx (f := fun k => { k with state := .retry }) fun _ => ⟨rfl, rfl, rfl⟩

theorem timed_refusedRetry (s : ChannelState) (idx : Nat) (cmd : Command) (backoff : Nat) :
    (s.refusedRetry idx cmd backoff).timed = s.timed :=
  (timed_modifyAt (s.spendAt idx cmd) idx (f := fun k => { k with state := .retry })
    fun _ => ⟨rfl, rfl, rfl⟩).trans (timed_spendAt s idx cmd)

end ChannelState

open Sim ChannelState

namespace Sim

variable {w : World} {c : Channel} {s s' : ChannelState}

theorem World.Arms.kind_eq {d : Channel} {id : Nat} {k k' : TaskKind} (h : w.Arms c id k) (h' : w.Arms d id k') :
    k = k' := by
  obtain ⟨t, ht, -, rfl, -⟩ := h
  obtain ⟨t', ht', -, rfl, -⟩ := h'
  rw [ht, Option.some.injEq] at ht'
  rw [ht']

/-- The task timing a command's send is named by that send alone: in the names of a channel
whose commands have distinct handles, an entry is for the command's handle exactly when it
is for that task. -/
theorem World.Holds.handle_iff (h : w.Holds c s) (sorted : s.pending.Pairwise (·.handle < ·.handle))
    {idx : Nat} {cmd : Command} (hcmd : s.pending[idx]? = some cmd) {id : Nat} (ht : cmd.timer = some id)
    {x : Nat × Nat × Nat} (hx : x ∈ s.timed) : x.2.1 = cmd.handle ↔ x.1 = id := by
  obtain ⟨k, hk, hkt, hkh, hkg⟩ := mem_timed.mp hx
  constructor
  · intro same
    obtain ⟨i, hi⟩ := List.mem_iff_getElem?.mp hk
    obtain rfl := index_eq_of_handle_eq sorted hi hcmd (hkh.trans same)
    rw [hcmd, Option.some.injEq] at hi
    subst hi
    rw [ht, Option.some.injEq] at hkt
    exact hkt.symm
  · intro named
    obtain ⟨d, a, mine⟩ := h.timers x.1 x.2.1 x.2.2 hx
    obtain ⟨d', a', theirs⟩ := h.timers id cmd.handle cmd.generation (timed_of_timer hcmd ht)
    rw [named] at mine
    have same := mine.kind_eq theirs
    simp only [TaskKind.attemptTimer.injEq] at same
    exact same.2.1

theorem World.Holds.backoff_ne_timer (h : w.Holds c s) {idx : Nat} {cmd : Command}
    (hcmd : s.pending[idx]? = some cmd) {id : Nat} (ht : cmd.timer = some id) : s.backoff ≠ some id := by
  intro hb
  obtain ⟨d, a, back⟩ := h.backoff id hb
  obtain ⟨d', a', timer⟩ := h.timers id cmd.handle cmd.generation (timed_of_timer hcmd ht)
  cases back.kind_eq timer

theorem World.Inside.drop (h : w.Inside c s) (sorted : s.pending.Pairwise (·.handle < ·.handle))
    {idx : Nat} {cmd : Command} (hcmd : s.pending[idx]? = some cmd)
    (ht : ∀ x, x ∈ s'.timed ↔ x ∈ s.timed ∧ x.2.1 ≠ cmd.handle) (hb : s'.backoff = s.backoff)
    (hsu : s.Succeeds s') : ((Engine.stopTimer cmd.timer).run w).2.Inside c s' := by
  cases htm : cmd.timer with
  | none =>
    refine h.rename hb (fun x => (ht x).trans ⟨fun hx => hx.1, fun hx => ⟨hx, ?_⟩⟩) hsu
    exact handle_ne_of_timed sorted hcmd htm hx
  | some id =>
    obtain ⟨d, a, mine⟩ := h.holds.timers id cmd.handle cmd.generation (timed_of_timer hcmd htm)
    refine h.abort mine (fun j => ?_) (fun x => ?_) hsu
    · rw [hb]
      refine ⟨fun hj => ⟨hj, ?_⟩, fun hj => hj.1⟩
      rintro rfl
      exact h.holds.backoff_ne_timer hcmd htm hj
    · rw [ht]
      exact and_congr_right fun hx => not_congr (h.holds.handle_iff sorted hcmd htm hx)

theorem World.Inside.finish (h : w.Inside c s) (sorted : s.pending.Pairwise (·.handle < ·.handle))
    (idx : Nat) (r : Outcome) (done : Engine.Done) :
    ((Engine.finish s idx r done).run w).2.Inside c ((Engine.finish s idx r done).run w).1.1 := by
  rw [Engine.finish_fst]
  cases hcmd : s.pending[idx]? with
  | none =>
    simp only [Engine.finish, hcmd, run_pure]
    simpa [finishAt, hcmd] using h
  | some cmd =>
    have stopped := h.drop sorted hcmd
      (mem_timed_eraseIdx sorted hcmd (finishAt_pending s idx r done)) (finishAt_backoff s idx r done)
      (succeeds_finishAt s idx r done)
    simp only [Engine.finish, hcmd, run_bind]
    cases cmd.owner <;> exact stopped

theorem World.Inside.reap (h : w.Inside c s) (sorted : s.pending.Pairwise (·.handle < ·.handle))
    (idx : Nat) : ((Engine.reap s idx).run w).2.Inside c ((Engine.reap s idx).run w).1 := by
  rw [Engine.reap_fst]
  cases hcmd : s.pending[idx]? with
  | none =>
    simp only [Engine.reap, hcmd, run_pure]
    simpa [reapAt, hcmd] using h
  | some cmd =>
    have stopped := h.drop sorted hcmd
      (mem_timed_eraseIdx sorted hcmd (reapAt_pending s idx)) (reapAt_backoff s idx) (succeeds_reapAt s idx)
    simp only [Engine.reap, hcmd, run_bind, run_pure]
    exact stopped.inert (inert_emit _ _ _ _) (emit_engine ..)

theorem World.Inside.sendAttempt (h : w.Inside c s) (hs : s.Coherent) (hb : s.backoff = none) {idx : Nat} (hnext : s.nextSendable = some idx) (done : Engine.Done) :
    ((Engine.sendAttempt c s idx done).run w).2.Inside c ((Engine.sendAttempt c s idx done).run w).1.1 := by
  obtain ⟨cmd, hcmd, sendable⟩ := nextSendable_some hnext
  have mem : cmd ∈ s.pending := List.mem_of_getElem? hcmd
  have idle : cmd.timer = none := by
    have := (hs.consistent cmd mem).timer
    revert this sendable
    cases cmd.state <;> cases cmd.timer <;> simp [CommandState.isSendable, CommandState.isInFlight]
  have sent := h.inert (inert_transmit c cmd (s.lastSeq + 1)) (Engine.transmit_engine ..)
  simp only [Engine.sendAttempt, run_bind, Engine.config_run, hcmd]
  generalize (Engine.transmit c cmd (s.lastSeq + 1)).run w = r1 at sent ⊢
  obtain ⟨answer, w1⟩ := r1
  cases answer with
  | ok u =>
    simp only [run_bind, now_run, run_pure, spawn_fst]
    refine World.Inside.inert ?_ (inert_emit _ _ _ _) (emit_engine ..)
    exact sent.spawnTimer (mem_timed_launch hs.sorted hcmd idle (s.lastSeq + 1) w1.tasks.size) rfl
      (succeeds_launch hcmd _ _) ⟨cmd, mem, rfl, Nat.lt_succ_self _⟩
      ⟨hs.bounded cmd mem, generation_launch hs.sorted hcmd _ _⟩
  | error e =>
    dsimp only
    have emitted := fun (l : Log.Level) (t m : String) (fs : List (String × Log.FieldValue)) =>
      sent.inert (inert_emit l t m fs) (emit_engine ..)
    by_cases spent : w.engine.config.retryBudget ≤ cmd.attempts + 1
    · -- the command fails, and it had no timer to stop
      simp only [ge_iff_le, spent, ↓reduceIte, run_bind]
      refine World.Inside.finish ?_
        (sorted_modify hs.sorted idx (f := fun k => { k with attempts := cmd.attempts + 1 }) fun _ => rfl) idx _ done
      exact (emitted _ _ _ _).rename rfl (fun x => by rw [← timed_spendAt s idx cmd]; rfl)
        ((succeeds_spendAt idx cmd).keep rfl rfl)
    · -- the command waits for the back-off, which is named as it starts
      simp only [ge_iff_le, spent, ↓reduceIte, run_bind, now_run, run_pure, spawn_fst]
      exact (emitted _ _ _ _).spawnBackoff hb rfl
        (fun x => Iff.of_eq (congrArg (x ∈ ·) (timed_refusedRetry s idx cmd _)))
        (succeeds_refusedRetry idx cmd _)

theorem World.Inside.pumpWith (h : w.Inside c s) (hs : s.Coherent) (fuel : Nat) (done : Engine.Done) :
    ((Engine.pumpWith c fuel s done).run w).2.Inside c ((Engine.pumpWith c fuel s done).run w).1.1 ∧
      ((Engine.pumpWith c fuel s done).run w).1.1.Coherent := by
  refine Engine.pumpWith_induction c (fun p w' => w'.Inside c p.1 ∧ p.1.Coherent) ?_ fuel s done w ⟨h, hs⟩
  intro s' done' w' idx cmd enabled idle clear hnext hcmd ⟨inside, coherent⟩
  refine ⟨inside.sendAttempt coherent clear hnext done', ?_⟩
  obtain ⟨attempt, -, -⟩ := Engine.sendAttempt_run s' idx done' w' c hcmd
  exact coherent.attempt enabled idle clear hnext hcmd attempt

theorem World.Inside.pump (h : w.Inside c s) (hs : s.Coherent) (done : Engine.Done) :
    ((Engine.pump c s done).run w).2.Inside c ((Engine.pump c s done).run w).1.1 ∧
      ((Engine.pump c s done).run w).1.1.Coherent :=
  h.pumpWith hs _ done

theorem World.Inside.pumped (h : w.Inside c s) (hs : s.Coherent) (done : Engine.Done) :
    (Engine.pumped c (s, done) w).Armed :=
  (h.pump hs done).1.settle _

theorem World.Inside.answer (h : w.Inside c s) (sorted : s.pending.Pairwise (·.handle < ·.handle))
    (free : s.backoff = none) (idx : Nat) (cmd : Command) (f : Frame) :
    ((Engine.answer c s idx cmd f).run w).2.Inside c ((Engine.answer c s idx cmd f).run w).1.1 := by
  have emitted := fun (l : Log.Level) (t m : String) (fs : List (String × Log.FieldValue)) =>
    h.inert (inert_emit l t m fs) (emit_engine ..)
  rw [Engine.answer, run_bind, Engine.config_run]
  dsimp only
  by_cases cancelled : cmd.state = .runningCancelled
  · simp only [cancelled, beq_self_eq_true, ↓reduceIte, run_bind, run_pure]
    exact h.reap sorted idx
  have live : (cmd.state == .runningCancelled) = false := by simpa using cancelled
  simp only [live, Bool.false_eq_true, ↓reduceIte]
  by_cases busy : f.status = Status.queueFull
  · by_cases spent : w.engine.config.retryBudget ≤ cmd.attempts + 1
    · simp only [busy, beq_self_eq_true, ↓reduceIte, ge_iff_le, spent, run_bind]
      refine World.Inside.finish ?_
        (sorted_modify sorted idx (f := fun k => { k with attempts := cmd.attempts + 1 }) fun _ => rfl) idx _ _
      exact (emitted _ _ _ _).rename rfl (fun x => by rw [← timed_spendAt s idx cmd]; rfl)
        ((succeeds_spendAt idx cmd).keep rfl rfl)
    · simp only [busy, beq_self_eq_true, ↓reduceIte, ge_iff_le, spent, run_bind, run_pure, now_run, spawn_fst]
      refine (emitted _ _ _ _).spawnBackoff free rfl (fun x => Iff.of_eq (congrArg (x ∈ ·) ?_)) ?_
      · exact (timed_requeueAt (s.spendAt idx cmd) idx).trans (timed_spendAt s idx cmd)
      · exact ((succeeds_spendAt idx cmd).trans (succeeds_requeueAt idx)).keep rfl rfl
  · have notBusy : (f.status == Status.queueFull) = false := by simpa using busy
    by_cases ok : f.status = Status.ok
    · have isOk : (f.status == Status.ok) = true := by simpa using ok
      simp only [notBusy, isOk, Bool.false_eq_true, ↓reduceIte]
      refine World.Inside.finish ?_ ?_ idx _ _
      · exact h.rename rfl (fun _ => Iff.rfl) (.of_same rfl rfl)
      · exact sorted
    · have notOk : (f.status == Status.ok) = false := by simpa using ok
      simp only [notBusy, notOk, Bool.false_eq_true, ↓reduceIte, run_bind]
      refine World.Inside.finish ?_ ?_ idx _ _
      · exact (emitted _ _ _ _).rename rfl (fun _ => Iff.rfl) (.of_same rfl rfl)
      · exact sorted

theorem World.Inside.expire (h : w.Inside c s) (sorted : s.pending.Pairwise (·.handle < ·.handle))
    (idx : Nat) (cmd : Command) :
    ((Engine.expire c s idx cmd).run w).2.Inside c ((Engine.expire c s idx cmd).run w).1.1 := by
  have emitted := fun (l : Log.Level) (t m : String) (fs : List (String × Log.FieldValue)) =>
    h.inert (inert_emit l t m fs) (emit_engine ..)
  rw [Engine.expire, run_bind, Engine.config_run]
  dsimp only
  by_cases cancelled : cmd.state = .runningCancelled
  · simp only [cancelled, beq_self_eq_true, ↓reduceIte, run_bind, run_pure]
    exact h.reap sorted idx
  have live : (cmd.state == .runningCancelled) = false := by simpa using cancelled
  simp only [live, Bool.false_eq_true, ↓reduceIte, run_bind, now_run]
  by_cases spent : w.engine.config.retryBudget ≤ cmd.attempts + 1
  · simp only [ge_iff_le, spent, ↓reduceIte, run_bind]
    refine World.Inside.finish ?_
      (sorted_modify sorted idx (f := fun k => { k with attempts := cmd.attempts + 1 }) fun _ => rfl) idx _ _
    exact (emitted _ _ _ _).rename rfl (fun x => by rw [← timed_spendAt s idx cmd]; rfl)
      ((succeeds_timeoutAt idx cmd).keep rfl rfl)
  · simp only [ge_iff_le, spent, ↓reduceIte, run_bind, run_pure]
    refine (emitted _ _ _ _).rename rfl (fun x => Iff.of_eq (congrArg (x ∈ ·) ?_)) ?_
    · exact (timed_requeueAt (s.timeoutAt idx cmd) idx).trans (timed_spendAt s idx cmd)
    · exact (succeeds_timeoutAt idx cmd).trans (succeeds_requeueAt idx)

theorem World.Inside.drainAll (h : w.Inside c s) (sorted : s.pending.Pairwise (·.handle < ·.handle))
    (fuel : Nat) (done : Engine.Done) :
    ((Engine.drainAll c fuel s done).run w).2.Inside c ((Engine.drainAll c fuel s done).run w).1.1 := by
  induction fuel generalizing s done w with
  | zero => exact h
  | succ fuel ih =>
    simp only [Engine.drainAll]
    cases hp : s.pending with
    | nil => exact h
    | cons cmd rest =>
      simp only
      split
      · simp only [run_bind]
        refine ih (h.reap sorted 0) ?_ done
        rw [Engine.reap_fst, reapAt_pending]
        exact sorted.eraseIdx 0
      · simp only [run_bind]
        refine ih (World.Inside.finish ?_ ?_ 0 _ _) ?_ _
        · rw [← hp]
          exact h.rename rfl (fun _ => Iff.rfl) (.of_same rfl rfl)
        · rw [← hp]
          exact sorted
        · rw [Engine.finish_fst, finishAt_pending, ← hp]
          exact sorted.eraseIdx 0

theorem World.Holds.timer_ne_backoff (h : w.Holds c s) {x : Nat × Nat × Nat} (hx : x ∈ s.timed) {id : Nat}
    (hb : s.backoff = some id) : x.1 ≠ id := by
  rintro rfl
  obtain ⟨d, a, back⟩ := h.backoff x.1 hb
  obtain ⟨d', a', timer⟩ := h.timers x.1 x.2.1 x.2.2 hx
  cases back.kind_eq timer

theorem World.Inside.stopBackoff (h : w.Inside c s) (hb : s'.backoff = none)
    (ht : ∀ x, x ∈ s'.timed ↔ x ∈ s.timed) (hsu : s.Succeeds s') :
    ((Engine.stopTimer s.backoff).run w).2.Inside c s' := by
  cases hbo : s.backoff with
  | none => exact h.rename (hb.trans hbo.symm) ht hsu
  | some id =>
    obtain ⟨d, a, mine⟩ := h.holds.backoff id hbo
    refine h.abort mine (fun j => ?_) (fun x => ?_) hsu
    · rw [hb, hbo]
      constructor
      · intro gone
        cases gone
      · rintro ⟨same, other⟩
        exact absurd (Option.some.inj same).symm other
    · rw [ht]
      exact ⟨fun hx => ⟨hx, h.holds.timer_ne_backoff hx hbo⟩, fun hx => hx.1⟩

theorem World.Armed.spares (h : w.Armed) {w' : World} (hs : w.Spares w')
    (he : w'.engine.channels = w.engine.channels) : w'.Armed :=
  (h.inside .control).store hs (by rw [he, PerChannel.set_get]) rfl rfl rfl

theorem World.Armed.inert (h : w.Armed) {α : Type} {x : Sim α} (hx : Inert x)
    (he : (x.run w).2.engine.channels = w.engine.channels) : (x.run w).2.Armed :=
  h.spares (hx w) he

end Sim

namespace ChannelState

theorem timed_enqueue (s : ChannelState) (opcode : UInt16) (input : List UInt8) (owner : Owner) (started : Nat) :
    (s.enqueue opcode input owner started).timed = s.timed := by
  simp [timed, enqueue]

theorem mem_timed_stopAt {s : ChannelState} (sorted : s.pending.Pairwise (·.handle < ·.handle)) {idx : Nat}
    {cmd : Command} (hcmd : s.pending[idx]? = some cmd) (x : Nat × Nat × Nat) :
    x ∈ (s.stopAt idx).timed ↔ x ∈ s.timed ∧ x.2.1 ≠ cmd.handle := by
  rw [mem_timed_modify sorted hcmd (t := s.stopAt idx) (f := fun k => { k with timer := none }) rfl rfl x]
  simp only [reduceCtorEq, false_and, or_false]

end ChannelState

namespace Sim

variable {w : World}

theorem World.Armed.enable (h : w.Armed) (c : Channel) : ((Engine.enable c).run w).2.Armed := by
  rw [Engine.enable, run_bind, Engine.chan_run]
  dsimp only
  by_cases on : (w.engine.channels.get c).enabled = true
  · simp only [on, ↓reduceIte, run_pure]
    exact h
  simp only [on, Bool.false_eq_true, ↓reduceIte, run_bind]
  rw [linkReady_run]
  by_cases ready : (linkReady.run w).1 = true
  · simp only [ready, Bool.not_true, Bool.false_eq_true, ↓reduceIte, run_bind, run_pure]
    refine World.Armed.inert ?_ (inert_emit _ _ _ _) (by rw [emit_engine])
    exact World.Inside.put ((h.inside c).rename rfl (fun _ => Iff.rfl) (.of_same rfl rfl))
  · simp only [ready, Bool.not_false, ↓reduceIte, run_bind, run_pure]
    exact h.inert (inert_emit _ _ _ _) (by rw [emit_engine])

theorem World.Armed.disable (h : w.Armed) (he : w.engine.Coherent) (c : Channel) :
    ((Engine.disable c).run w).2.Armed := by
  rw [Engine.disable, run_bind, Engine.chan_run]
  dsimp only
  by_cases on : (w.engine.channels.get c).enabled = true
  · simp only [on, ↓reduceIte, run_bind]
    refine World.Inside.settle ?_ _
    refine World.Inside.inert ?_ (inert_emit _ _ _ _) (emit_engine ..)
    refine World.Inside.drainAll ?_ ?_ _ _
    · exact (h.inside c).stopBackoff rfl (fun _ => Iff.rfl) (.of_same rfl rfl)
    · exact (he c).sorted
  · simp only [on, Bool.false_eq_true, ↓reduceIte]
    exact (h.inside c).settle #[]

theorem World.Armed.submit (h : w.Armed) (he : w.engine.Coherent) (c : Channel) (opcode : UInt16)
    (input : List UInt8) (owner : Owner) : ((Engine.submit c opcode input owner).run w).2.Armed := by
  rw [Engine.submit, run_bind, Engine.config_run]
  dsimp only
  by_cases large : input.length > w.engine.config.maxPayload
  · simp only [large, ↓reduceIte, run_pure]
    exact h
  simp only [large, ↓reduceIte]
  rw [run_bind, Engine.chan_run]
  dsimp only
  by_cases off : (!(w.engine.channels.get c).enabled) = true
  · simp only [off, ↓reduceIte, run_pure]
    exact h
  have enabled : (w.engine.channels.get c).enabled = true := by simpa using off
  simp only [off, Bool.false_eq_true, ↓reduceIte, run_bind, now_run, emit_now, run_pure]
  have queued : ∀ (l : Log.Level) (t m : String) (fs : List (String × Log.FieldValue)),
      ((emit l t m fs).run w).2.Inside c ((w.engine.channels.get c).enqueue opcode input owner w.now) :=
    fun l t m fs => ((h.inside c).inert (inert_emit l t m fs) (emit_engine ..)).rename rfl
      (fun x => Iff.of_eq (congrArg (x ∈ ·) (timed_enqueue _ opcode input owner w.now)))
      (succeeds_enqueue opcode input owner w.now)
  exact ((queued _ _ _ _).pump ((he c).enqueue enabled opcode input owner w.now) _).1.settle _


theorem inert_reportDrop (c : Option Channel) (seq : Option UInt16) (reason : String) :
    Inert (Engine.reportDrop c seq reason) := fun w => by
  simp only [Engine.reportDrop, run_bind, run_get, run_set]
  split
  · refine World.Spares.trans ?_ (inert_emitWith _ _ _ _ _ _)
    exact World.Spares.of_tasks rfl
  · exact World.Spares.of_tasks rfl

theorem World.Armed.shutdown (h : w.Armed) (he : w.engine.Coherent) : (Engine.shutdown.run w).2.Armed :=
  (Engine.shutdown_preserves (I := fun w => w.Armed ∧ w.engine.Coherent)
    (fun c _ ⟨h, he⟩ => ⟨h.disable he c, by rw [Engine.disable_engine]; exact he.set c (he c).close⟩)
    (fun _ _ _ _ _ ⟨h, he⟩ => ⟨h.inert (inert_emit _ _ _ _) (by rw [emit_engine]), by rw [emit_engine]; exact he⟩)
    ⟨h, he⟩).1

theorem World.Armed.cancel (h : w.Armed) (he : w.engine.Coherent) (c : Channel) (handle : Nat) :
    ((Engine.cancel c handle).run w).2.Armed := by
  have emitted := fun (l : Log.Level) (t m : String) (fs : List (String × Log.FieldValue)) =>
    (h.inside c).inert (inert_emit l t m fs) (emit_engine ..)
  rw [Engine.cancel, run_bind, Engine.chan_run]
  dsimp only
  cases hidx : (w.engine.channels.get c).position handle with
  | none =>
    simp only [run_bind, run_pure]
    exact (emitted _ _ _ _).settle #[]
  | some idx =>
    dsimp only
    cases hcmd : (w.engine.channels.get c).pending[idx]? with
    | none =>
      simp only [Option.map_none, run_bind, run_pure]
      exact (emitted _ _ _ _).settle #[]
    | some cmd =>
      simp only [Option.map_some]
      cases hst : cmd.state with
      | queued | retry =>
        simp only [run_bind, run_pure]
        refine World.Inside.settle ?_ _
        refine World.Inside.inert ?_ (inert_emit _ _ _ _) (emit_engine ..)
        refine World.Inside.finish ?_ ?_ idx _ _
        · exact (h.inside c).rename rfl (fun _ => Iff.rfl) (.of_same rfl rfl)
        · exact (he c).sorted
      | running =>
        simp only [run_bind, run_pure, Option.bind_some]
        have marked : ∀ (l : Log.Level) (t m : String) (fs : List (String × Log.FieldValue)),
            ((emit l t m fs).run w).2.Inside c ((w.engine.channels.get c).abandonAt idx cmd).1 :=
          fun l t m fs => (emitted l t m fs).rename (by rw [abandonAt_fst]; rfl)
            (fun x => Iff.of_eq (congrArg (x ∈ ·) (by
              rw [abandonAt_fst]
              exact timed_modifyAt _ idx fun _ => ⟨rfl, rfl, rfl⟩)))
            (succeeds_abandonAt hcmd hst)
        exact (marked _ _ _ _).settle _
      | runningCancelled =>
        simp only [run_bind, run_pure]
        exact (emitted _ _ _ _).settle #[]

theorem World.Armed.dispatch (h : w.Armed) (he : w.engine.Coherent) (f : Frame) :
    ((Engine.dispatch f).run w).2.Armed := by
  rw [Engine.dispatch, run_bind, Engine.chan_run]
  dsimp only
  cases hidx : (w.engine.channels.get f.channel).answering f.seq with
  | none =>
    simp only [run_bind]
    refine World.Armed.inert ?_ (inert_reportDrop _ _ _) (Engine.reportDrop_channels ..)
    exact World.Inside.put ((h.inside f.channel).rename rfl (fun _ => Iff.rfl) (.of_same rfl rfl))
  | some idx =>
    dsimp only
    cases hcmd : (w.engine.channels.get f.channel).pending[idx]? with
    | none => exact h
    | some cmd =>
      simp only [run_bind]
      obtain ⟨rfl, rest, hp, hf⟩ := (he f.channel).answering_head hidx hcmd
      have sorted := (he f.channel).sorted
      have free : ((w.engine.channels.get f.channel).stopAt 0).backoff = none :=
        ((he f.channel).inFlight_seq cmd (by rw [inFlight_cons _ hp, hf]; rfl)).2
      have stopped : ((Engine.stopTimer cmd.timer).run w).2.Inside f.channel
          ((w.engine.channels.get f.channel).stopAt 0) :=
        (h.inside f.channel).drop sorted hcmd (mem_timed_stopAt sorted hcmd) rfl (succeeds_stopAt 0)
      generalize hw1 : (StateT.run (emit _ _ _ _) _).snd = w1
      have emitted : w1.Inside f.channel ((w.engine.channels.get f.channel).stopAt 0) := by
        rw [← hw1]
        exact stopped.inert (inert_emit _ _ _ _) (emit_engine ..)
      have answered := emitted.answer (sorted_modify sorted 0 fun _ => rfl) free 0 cmd f
      have resolved : ((w.engine.channels.get f.channel).stopAt 0).Answer w1.engine.config.retryBudget 0 cmd f
          ((Engine.answer f.channel ((w.engine.channels.get f.channel).stopAt 0) 0 cmd f).run w1).1 :=
        (Engine.answer_run _ 0 w1 f.channel cmd f).1
      have pumped := answered.pump ((he f.channel).answer hp hf resolved)
        ((Engine.answer f.channel ((w.engine.channels.get f.channel).stopAt 0) 0 cmd f).run w1).1.2
      exact pumped.1.settle _

theorem World.Armed.route (h : w.Armed) (he : w.engine.Coherent) (r : Except FrameError Frame) :
    ((Engine.route r).run w).2.Armed := by
  cases r with
  | error e =>
    rw [Engine.route]
    exact h.inert (inert_reportDrop _ _ _) (Engine.reportDrop_channels ..)
  | ok f =>
    rw [Engine.route]
    exact h.dispatch he f

theorem World.Armed.receive (h : w.Armed) (he : w.engine.Coherent) (bytes : List UInt8) :
    ((Engine.receive bytes).run w).2.Armed := by
  rw [Engine.receive, run_bind, Engine.config_run]
  dsimp only
  cases w.engine.config.traceFrames with
  | false => exact h.route he _
  | true =>
    simp only [↓reduceIte, run_bind]
    refine World.Armed.route ?_ ?_ _
    · exact h.inert (inert_emit _ _ _ _) (by rw [emit_engine])
    · rw [emit_engine]
      exact he

end Sim

end FrameRpc
