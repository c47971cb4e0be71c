import FrameRpc.Proofs.Engine.Arming
import FrameRpc.Proofs.Engine.Deadlines
set_option autoImplicit false

/-!
The scheduler's own steps keep the timer tasks armed.

When a timer task is taken off its run queue it sets its timer and waits, ends at once because
it was aborted, or acts at its deadline. Setting the timer marks the task's kind as armed,
which no channel looks at (`World.Rearms`). A task that acts is marked running first, so it is
no longer live: the channel that named it forgets it before the action reads the channel, and
the action (an attempt running out, a back-off ending) then keeps the invariant as the
engine's operations do. Firing the due timers and moving the clock on only wake tasks.
-/

namespace FrameRpc

namespace Sim

@[simp] theorem TaskKind.timerChannel_arm (k : TaskKind) : k.arm.timerChannel = k.timerChannel := by
  cases k <;> rfl

@[simp] theorem TaskKind.arm_arm (k : TaskKind) : k.arm.arm = k.arm := by
  cases k <;> rfl

theorem TaskKind.arm_eq_backoff {k : TaskKind} {c : Channel} {d : Nat} {a : Bool}
    (h : k.arm = .backoff c d a) : ∃ a0, k = .backoff c d a0 := by
  cases k <;> simp_all [TaskKind.arm]

theorem TaskKind.arm_eq_attemptTimer {k : TaskKind} {c : Channel} {hh g d : Nat} {a : Bool}
    (h : k.arm = .attemptTimer c hh g d a) : ∃ a0, k = .attemptTimer c hh g d a0 := by
  cases k <;> simp_all [TaskKind.arm]

end Sim

theorem ChannelState.names_arm (s : ChannelState) (id : Nat) (k : Sim.TaskKind) :
    s.Names id k.arm ↔ s.Names id k := by
  cases k <;> rfl

open Sim ChannelState

namespace Sim

section rearms

variable {w w' : World} {c : Channel} {s : ChannelState}

/-- `w'` has the timer tasks of `w` and no other, each live exactly when it was, its timer
perhaps set since. -/
structure World.Rearms (w w' : World) : Prop where
  kept : ∀ (id : Nat) (t : Task), w.tasks[id]? = some t → t.kind.clock.isSome →
    ∃ t' : Task, w'.tasks[id]? = some t' ∧ t'.kind.arm = t.kind.arm ∧ (t'.Live ↔ t.Live)
  kinds : ∀ (id : Nat) (t' : Task), w'.tasks[id]? = some t' → t'.kind.clock.isSome →
    ∃ t : Task, w.tasks[id]? = some t ∧ t.kind.arm = t'.kind.arm

theorem World.Rearms.of_task {id : Nat} {t v : Task} (ht : w.tasks[id]? = some t)
    (hk : v.kind.arm = t.kind.arm) (hl : v.Live ↔ t.Live)
    (tasks : ∀ j, w'.tasks[j]? = if id = j then some v else w.tasks[j]?) : w.Rearms w' where
  kept j u hu _ := by
    rw [tasks j]
    by_cases same : id = j
    · subst same
      rw [ht, Option.some.injEq] at hu
      subst hu
      exact ⟨v, by simp, hk, hl⟩
    · exact ⟨u, by simp [same, hu], rfl, Iff.rfl⟩
  kinds j u' hu' _ := by
    rw [tasks j] at hu'
    by_cases same : id = j
    · subst same
      simp only [↓reduceIte, Option.some.injEq] at hu'
      subst hu'
      exact ⟨t, ht, hk.symm⟩
    · simp only [same, ↓reduceIte] at hu'
      exact ⟨u', hu', rfl⟩

theorem World.Rearms.arms (h : w.Rearms w') {id : Nat} {k' : TaskKind} (ha : w'.Arms c id k') :
    ∃ k, k.arm = k'.arm ∧ w.Arms c id k := by
  obtain ⟨t', ht', live', rfl, hc⟩ := ha
  obtain ⟨t, ht, kind⟩ := h.kinds id t' ht' (TaskKind.clock_isSome hc)
  have mine : t.kind.timerChannel = some c := by
    rw [← TaskKind.timerChannel_arm, kind, TaskKind.timerChannel_arm, hc]
  obtain ⟨t2, ht2, -, live⟩ := h.kept id t ht (TaskKind.clock_isSome mine)
  rw [ht', Option.some.injEq] at ht2
  subst ht2
  exact ⟨t.kind, kind, t, ht, live.mp live', rfl, mine⟩

theorem World.Rearms.arms_of (h : w.Rearms w') {id : Nat} {k : TaskKind} (ha : w.Arms c id k) :
    ∃ k', k'.arm = k.arm ∧ w'.Arms c id k' := by
  obtain ⟨t, ht, live, rfl, hc⟩ := ha
  obtain ⟨t', ht', kind, live'⟩ := h.kept id t ht (TaskKind.clock_isSome hc)
  refine ⟨t'.kind, kind, t', ht', live'.mpr live, rfl, ?_⟩
  rw [← TaskKind.timerChannel_arm, kind, TaskKind.timerChannel_arm, hc]

theorem World.Holds.rearms (h : w.Holds c s) (hr : w.Rearms w') : w'.Holds c s where
  named id k' ha := by
    obtain ⟨k, same, ha⟩ := hr.arms ha
    rw [← names_arm, ← same, names_arm]
    exact h.named id k ha
  backoff id hb := by
    obtain ⟨d, a, ha⟩ := h.backoff id hb
    obtain ⟨k', same, ha'⟩ := hr.arms_of ha
    obtain ⟨a', rfl⟩ := TaskKind.arm_eq_backoff same
    exact ⟨d, a', ha'⟩
  timers id hh g ht := by
    obtain ⟨d, a, ha⟩ := h.timers id hh g ht
    obtain ⟨k', same, ha'⟩ := hr.arms_of ha
    obtain ⟨a', rfl⟩ := TaskKind.arm_eq_attemptTimer same
    exact ⟨d, a', ha'⟩

theorem World.Issued.rearms (h : w.Issued c s) (hr : w.Rearms w') : w'.Issued c s := by
  intro id t' hh g d a ht' kind
  obtain ⟨t, ht, same⟩ := hr.kinds id t' ht' (by simp [kind, TaskKind.clock])
  rw [kind] at same
  obtain ⟨a0, k⟩ := TaskKind.arm_eq_attemptTimer same
  exact h id t hh g d a0 ht k

theorem World.Single.rearms (h : w.Single) (hr : w.Rearms w') : w'.Single := by
  intro i j ti tj c hh g di dj ai aj hi hj ki kj
  obtain ⟨ti0, hi0, si⟩ := hr.kinds i ti hi (by simp [ki, TaskKind.clock])
  obtain ⟨tj0, hj0, sj⟩ := hr.kinds j tj hj (by simp [kj, TaskKind.clock])
  rw [ki] at si
  rw [kj] at sj
  obtain ⟨ai0, ki0⟩ := TaskKind.arm_eq_attemptTimer si
  obtain ⟨aj0, kj0⟩ := TaskKind.arm_eq_attemptTimer sj
  exact h i j ti0 tj0 c hh g di dj ai0 aj0 hi0 hj0 ki0 kj0

theorem World.Armed.rearms (h : w.Armed) (hr : w.Rearms w') (he : w'.engine.channels = w.engine.channels) :
    w'.Armed where
  holds d := by rw [he]; exact (h.holds d).rearms hr
  issued d := by rw [he]; exact (h.issued d).rearms hr
  single := h.single.rearms hr

end rearms

section starting

variable {w : World} {id : Nat} {c : Channel} {s s' : ChannelState}

theorem World.Arms.other {k : TaskKind} (mine : w.Arms c id k) {d : Channel} (hd : d ≠ c) (k' : TaskKind) :
    ¬ w.Arms d id k' := by
  rintro ⟨t', ht', -, kind, hc'⟩
  obtain ⟨t, ht, -, rfl, hc⟩ := mine
  rw [ht, Option.some.injEq] at ht'
  subst ht'
  rw [← kind, hc] at hc'
  exact hd (Option.some.inj hc').symm

theorem World.starting_arms {j : Nat} {k : TaskKind} :
    (w.starting id).Arms c j k ↔ w.Arms c j k ∧ j ≠ id := by
  by_cases same : j = id
  · subst same
    refine iff_of_false ?_ fun h => h.2 rfl
    rintro ⟨t, ht, live, -⟩
    rw [World.starting_tasks, if_pos rfl] at ht
    obtain ⟨t0, -, rfl⟩ := Option.map_eq_some_iff.mp ht
    simp [Task.Live] at live
  · simp only [World.Arms, World.starting_tasks, if_neg (Ne.symm same)]
    exact ⟨fun h => ⟨h, same⟩, fun h => h.1⟩

theorem World.starting_kinds : w.Kinds (w.starting id) := by
  intro j t' ht' _
  rw [World.starting_tasks] at ht'
  split at ht'
  · obtain ⟨t, ht, rfl⟩ := Option.map_eq_some_iff.mp ht'
    exact ⟨t, ht, rfl⟩
  · exact ⟨t', ht', rfl⟩

theorem World.Inside.start (h : w.Inside c s) {k : TaskKind} (mine : w.Arms c id k)
    (hb : ∀ j, s'.backoff = some j ↔ s.backoff = some j ∧ j ≠ id)
    (ht : ∀ x, x ∈ s'.timed ↔ x ∈ s.timed ∧ x.1 ≠ id) (hsu : s.Succeeds s') :
    (w.starting id).Inside c s' where
  holds := h.holds.forget (fun _ _ => World.starting_arms) hb ht
  issued := (h.issued.succeeds hsu).of_kinds World.starting_kinds
  others d hd := by
    rw [World.starting_engine]
    exact ⟨(h.others d hd).1.forget_other (fun _ _ => World.starting_arms) (mine.other hd),
      (h.others d hd).2.of_kinds World.starting_kinds⟩
  single := h.single.of_kinds World.starting_kinds

theorem World.Armed.attempt_of_timer (h : w.Armed) (he : w.engine.Coherent) {t : Task}
    (ht : w.tasks[id]? = some t) (live : t.Live) {hh g d : Nat} {a : Bool}
    (hk : t.kind = .attemptTimer c hh g d a) :
    ∃ cmd rest, (w.engine.channels.get c).pending = cmd :: rest ∧ cmd.handle = hh ∧
      cmd.generation = g ∧ cmd.state.isInFlight = true ∧ cmd.timer = some id := by
  have named := (h.holds c).named id _ ⟨t, ht, live, hk, rfl⟩
  obtain ⟨cmd, hmem, htm, rfl, rfl⟩ := mem_timed.mp named
  have hf : cmd.state.isInFlight = true := by
    rw [← ((he c).consistent cmd hmem).timer, htm]
    rfl
  obtain ⟨i, hi⟩ := List.mem_iff_getElem?.mp hmem
  obtain ⟨-, rest, hp⟩ := (he c).front_of_inFlight hi hf
  exact ⟨cmd, rest, hp, rfl, rfl, hf, htm⟩

theorem World.Armed.backoff_of_timer (h : w.Armed) {t : Task} (ht : w.tasks[id]? = some t) (live : t.Live)
    {d : Nat} {a : Bool} (hk : t.kind = .backoff c d a) : (w.engine.channels.get c).backoff = some id :=
  (h.holds c).named id _ ⟨t, ht, live, hk, rfl⟩

end starting

section expiry

variable {w : World} {c : Channel}

/-- The timer of the attempt out on channel `c` runs out, in a world where the channel no
longer names the timer: the attempt is resolved, the channel pumped, and every timer started
on the way is named. -/
theorem World.Inside.timedOut (h : w.Inside c ((w.engine.channels.get c).stopAt 0))
    (he : w.engine.Coherent) {cmd : Command} {rest : List Command}
    (hp : (w.engine.channels.get c).pending = cmd :: rest) (hf : cmd.state.isInFlight = true) :
    ((Engine.attemptTimedOut c cmd.handle cmd.generation).run w).2.Armed := by
  have hpos : (w.engine.channels.get c).position cmd.handle = some 0 := by
    simp [position, hp, List.findIdx?_cons]
  have hcmd : (w.engine.channels.get c).pending[0]? = some cmd := by simp [hp]
  have go : (cmd.generation != cmd.generation || !cmd.state.isInFlight) = false := by simp [hf]
  rw [Engine.attemptTimedOut, run_bind, Engine.chan_run]
  simp only [hpos, hcmd, go, Bool.false_eq_true, ↓reduceIte, run_bind]
  have expired := h.expire (sorted_modify (he c).sorted 0 fun _ => rfl) 0 cmd
  have resolved := (Engine.expire_run ((w.engine.channels.get c).stopAt 0) 0 w c cmd).1
  exact (expired.pump ((he c).expiry hp hf resolved) _).1.settle _

theorem World.Inside.backoffEnds (h : w.Inside c { (w.engine.channels.get c) with backoff := none })
    (he : w.engine.Coherent) : ((Engine.backoffElapsed c).run w).2.Armed := by
  rw [Engine.backoffElapsed_run]
  exact h.pumped (he c).clearBackoff #[]

theorem World.Armed.expiry (h : w.Armed) (he : w.engine.Coherent) {id : Nat} {t : Task}
    (ht : w.tasks[id]? = some t) (live : t.Live) (clocked : t.kind.clock.isSome) :
    (t.kind.expiry.run (w.starting id)).2.Armed := by
  cases hk : t.kind with
  | attemptTimer c hh g d a =>
    obtain ⟨cmd, rest, hp, rfl, rfl, hf, htm⟩ := h.attempt_of_timer he ht live hk
    have hcmd : (w.engine.channels.get c).pending[0]? = some cmd := by simp [hp]
    have sorted := (he c).sorted
    have free : (w.engine.channels.get c).backoff = none :=
      ((he c).inFlight_seq cmd (by rw [inFlight_cons _ hp, hf]; rfl)).2
    have started : (w.starting id).Inside c ((w.engine.channels.get c).stopAt 0) := by
      refine (h.inside c).start ⟨t, ht, live, hk, rfl⟩ (fun j => ?_) (fun x => ?_) (succeeds_stopAt 0)
      · show (w.engine.channels.get c).backoff = some j ↔ _
        simp [free]
      · rw [mem_timed_stopAt sorted hcmd]
        exact and_congr_right fun hx => not_congr ((h.holds c).handle_iff sorted hcmd htm hx)
    exact World.Inside.timedOut started he hp hf
  | backoff c d a =>
    have named := h.backoff_of_timer ht live hk
    have started : (w.starting id).Inside c { (w.engine.channels.get c) with backoff := none } := by
      refine (h.inside c).start ⟨t, ht, live, hk, rfl⟩ (fun j => ?_) (fun x => ?_) (.of_same rfl rfl)
      · simp only [named, Option.some.injEq, reduceCtorEq, false_iff, not_and, not_not]
        exact fun same => same.symm
      · exact ⟨fun hx => ⟨hx, (h.holds c).timer_ne_backoff hx named⟩, fun hx => hx.1⟩
    exact World.Inside.backoffEnds started he
  | delivery => simp [hk, TaskKind.clock] at clocked
  | call => simp [hk, TaskKind.clock] at clocked
  | waitIdle => simp [hk, TaskKind.clock] at clocked
  | worker => simp [hk, TaskKind.clock] at clocked

end expiry

theorem startingWith_expiry {cfg : EngineConfig} (k : TaskKind) : StartingWith cfg k.expiry := by
  cases k with
  | attemptTimer c h g d a => exact Engine.startingWith_attemptTimedOut c h g
  | backoff c d a => exact Engine.startingWith_backoffElapsed c
  | _ => exact .pure _

section turn

variable {w w1 : World} {id : Nat}

theorem World.Timed.acted (hw : w.Timed) (pop : w.Pops id w1) {t : Task} (ht : w.tasks[id]? = some t)
    (clocked : t.kind.clock.isSome) (hq : t.run = .queued) :
    ∃ u : Task, (t.kind.expiry.run (w1.starting id)).2.tasks[id]? = some u ∧ u.kind = t.kind ∧ ¬ u.Live := by
  obtain ⟨-, -, tasks, -, -, -⟩ := pop.same
  have running : (w1.starting id).tasks[id]? = some { t with run := .running, wokenWhileRunning := false } := by
    simp [World.starting_tasks, tasks, ht]
  have starts := startingWith_expiry t.kind _ (hw.starting pop ht clocked hq) rfl
  obtain ⟨-, -, kept⟩ := steady_expiry t.kind _ (hw.starting pop ht clocked hq)
  obtain ⟨u, hu, kind⟩ := kept id _ running
  refine ⟨u, hu, kind, fun live => ?_⟩
  rcases starts.timers id u hu (by rw [kind]; exact clocked) live with ⟨t0, ht0, -, live0⟩ | ⟨none, -⟩
  · rw [running, Option.some.injEq] at ht0
    subst ht0
    simp [Task.Live] at live0
  · rw [running] at none
    cases none

theorem World.Armed.runTimer (h : w.Armed) (he : w.engine.Coherent) (hw : w.Timed) (pop : w.Pops id w1)
    {t : Task} (ht : w.tasks[id]? = some t) (clocked : t.kind.clock.isSome) :
    ((runTask id).run w1).2.Armed := by
  obtain ⟨engine, -, tasks, -, -, -⟩ := pop.same
  have popped : w1.Armed := h.spares (.of_tasks tasks) (by rw [engine])
  have ht1 : w1.tasks[id]? = some t := tasks ▸ ht
  have turn := hw.timerTurn pop ht clocked
  generalize ((runTask id).run w1).2 = w' at turn ⊢
  cases turn with
  | unqueued => exact popped
  | aborted hq hl =>
    refine popped.rearms (.of_task ht1 (v := { t with run := .done }) rfl ?_ (tasks_modify_of ht1 _)) rfl
    simp [Task.Live, hl]
  | fires hq hl hk due =>
    obtain ⟨engine', -, -, -, -, -, -, tasks'⟩ := runTask_fires ht1 hq hl hk (Nat.le_of_eq due)
    have acted := popped.expiry (engine ▸ he) ht1 ⟨hl, .inl hq⟩ clocked
    obtain ⟨u, hu, kind, dead⟩ := hw.acted pop ht clocked hq
    refine acted.rearms (.of_task hu (v := { u with kind := t.kind.arm, run := .done })
      (by simp [kind]) ?_ fun j => ?_) (by rw [engine'])
    · exact iff_of_false (by simp [Task.Live]) dead
    · rw [tasks' j]
      by_cases same : id = j
      · subst same
        simp [hu]
      · simp [same]
  | waits hq hl hk ha early =>
    obtain ⟨engine', -, -, -, -, -, -, tasks'⟩ := runTask_waits ht1 hq hl hk ha early
    refine popped.rearms (.of_task ht1
      (v := { t with kind := t.kind.arm, run := .idle, wokenWhileRunning := false }) (by simp) ?_ tasks')
      (by rw [engine'])
    simp [Task.Live, hl, hq]

end turn

section clock

variable {w : World}

theorem World.Armed.fire (h : w.Armed) : (fireDue.run w).2.Armed := by
  obtain ⟨-, -, -, -, engine, tasks, -, -⟩ := fireDue_run w
  refine h.spares (.of_woken fun i => ?_) (by rw [engine])
  rw [tasks i]
  split
  · exact .inr rfl
  · exact .inl rfl

theorem World.Armed.park (h : w.Armed) : (parkUntilNext.run w).2.Armed := by
  simp only [parkUntilNext, run_bind, run_get]
  split
  · exact h
  · next d _ =>
    by_cases ahead : d > w.now
    · simp only [ahead, ↓reduceIte, run_bind, run_set, run_pure]
      have moved : ({ w with now := d } : World).Armed := h.spares (.of_tasks rfl) rfl
      exact moved.fire
    · simp only [ahead, ↓reduceIte, run_bind, run_pure]
      exact h.fire

end clock

end Sim

end FrameRpc
