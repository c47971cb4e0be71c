import FrameRpc.Proofs.Engine.Turns
import FrameRpc.Proofs.Engine.History
set_option autoImplicit false

/-!
Runs on the virtual clock.

A run of the simulated runtime is a sequence of ticks (`Engine.Tick`). The program and the
tasks it started call the engine's operations; the scheduler takes a timer task off a run
queue and runs it; the due timers fire; with nothing queued the clock moves on to the next
deadline; and everything else the runtime does leaves the engine and its timer tasks alone
(`World.Aside`): other tasks start, wait on their own timers, slots and idle channels, run
and end. Only a timer task ever reports its own timer running out.

Along every run from a started engine the world stays sound (`World.Sound`): the engine is
reachable, the timer tasks keep to the clock (`World.Timed`), and they agree with the
channels (`World.Armed`). A tick keeps the settings and every task, a timer task with its
kind up to its timer being set, and starts timer tasks only with their deadlines
(`World.Paces`).
-/

namespace FrameRpc

namespace Sim

@[simp] theorem TaskKind.isSome_clock_arm (k : TaskKind) : k.arm.clock.isSome = k.clock.isSome := by
  cases k <;> rfl

theorem TaskKind.clock_of_arm {k k' : TaskKind} (h : k'.arm = k.arm) {d : Nat} {a : Bool}
    (hk : k.clock = some (d, a)) : ∃ a', k'.clock = some (d, a') := by
  cases k <;> cases k' <;> simp_all [TaskKind.arm, TaskKind.clock]

theorem TaskKind.delay_of_arm {k k' : TaskKind} (h : k'.arm = k.arm) (cfg : EngineConfig) :
    k'.delay cfg = k.delay cfg := by
  cases k <;> cases k' <;> simp_all [TaskKind.arm, TaskKind.delay]

section aside

variable {w w' : World}

/-- What the runtime does around the engine and its timer tasks: the engine and the clock
stay, every task stays, the timer tasks, their timers and their places in the run queues
are untouched, and new timers, slots and idle waits are for other tasks. -/
structure World.Aside (w w' : World) : Prop where
  engine : w'.engine = w.engine
  now : w'.now = w.now
  kept : ∀ (id : Nat) (t : Task), w.tasks[id]? = some t → ∃ t' : Task, w'.tasks[id]? = some t'
  timerTasks : ∀ (id : Nat) (t : Task), w.tasks[id]? = some t → t.kind.clock.isSome →
    w'.tasks[id]? = some t
  fresh : ∀ (id : Nat) (t' : Task), w'.tasks[id]? = some t' → t'.kind.clock.isSome →
    w.tasks[id]? = some t'
  timers : ∀ tm ∈ w'.timers, tm ∈ w.timers ∨
    (w.now ≤ tm.deadline ∧ ∀ id : Nat, tm.waker = .task id → w'.Untimed id)
  ringing : ∀ (d id : Nat) (t : Task), ⟨d, .task id⟩ ∈ w.timers → w.tasks[id]? = some t →
    t.kind.clock.isSome → ⟨d, .task id⟩ ∈ w'.timers
  queues : ∀ (id : Nat) (t : Task), w.tasks[id]? = some t → t.kind.clock.isSome →
    id ∈ w.localQueue ∨ id ∈ w.remoteQueue → id ∈ w'.localQueue ∨ id ∈ w'.remoteQueue
  slots : ∀ (n : Nat) (s : Slot) (id : Nat), w'.slots[n]? = some s → s.waiter = some (.task id) →
    w'.Untimed id
  idlers : ∀ (c : Channel) (id : Nat), id ∈ w'.idleWaiters.get c → w'.Untimed id

theorem World.Timed.aside (hw : w.Timed) (h : w.Aside w') : w'.Timed where
  ahead tm htm := by
    rw [h.now]
    rcases h.timers tm htm with old | ⟨late, -⟩
    · exact hw.ahead tm old
    · exact late
  named d id htm := by
    rcases h.timers _ htm with old | ⟨-, untimed⟩
    · obtain ⟨t, ht⟩ := hw.named d id old
      exact h.kept id t ht
    · obtain ⟨t, ht, -⟩ := untimed id rfl
      exact ⟨t, ht⟩
  listed id t' ht' timer live queued :=
    have ht := h.fresh id t' ht' timer
    h.queues id t' ht timer (hw.listed id t' ht timer live queued)
  stage id t' d a ht' clock live := by
    have timer : t'.kind.clock.isSome := by rw [clock]; rfl
    have ht := h.fresh id t' ht' timer
    exact (hw.stage id t' d a ht clock live).move h.now fun set => h.ringing d id t' set ht timer
  ringing d id t' htm ht' timer := by
    have ht := h.fresh id t' ht' timer
    rcases h.timers _ htm with old | ⟨-, untimed⟩
    · exact hw.ringing d id t' old ht timer
    · obtain ⟨u, hu, clock⟩ := untimed id rfl
      rw [ht', Option.some.injEq] at hu
      subst hu
      rw [clock] at timer
      cases timer
  slots := h.slots
  idlers := h.idlers

theorem World.Aside.spares (h : w.Aside w') : w.Spares w' where
  kept id t ht timer := ⟨t, h.timerTasks id t ht timer, rfl, Iff.rfl⟩
  kinds id t' ht' timer := ⟨t', h.fresh id t' ht' timer, rfl⟩

end aside

theorem parkUntilNext_fires (w : World) :
    ∃ w1 : World, w1.engine = w.engine ∧ w1.tasks = w.tasks ∧
      ((parkUntilNext.run w).2 = w1 ∨ (parkUntilNext.run w).2 = (fireDue.run w1).2) := by
  simp only [parkUntilNext, run_bind, run_get]
  split
  · exact ⟨w, rfl, rfl, .inl rfl⟩
  · next d _ =>
    by_cases ahead : d > w.now
    · simp only [ahead, ↓reduceIte, run_bind, run_set, run_pure]
      exact ⟨{ w with now := d }, rfl, rfl, .inr rfl⟩
    · simp only [ahead, ↓reduceIte, run_bind, run_pure]
      exact ⟨w, rfl, rfl, .inr rfl⟩

theorem parkUntilNext_engine (w : World) : (parkUntilNext.run w).2.engine = w.engine := by
  obtain ⟨w1, engine, -, parked | fired⟩ := parkUntilNext_fires w
  · rw [parked, engine]
  · rw [fired, (fireDue_run w1).2.2.2.2.1, engine]

section paces

variable {w w' w'' : World}

/-- What a tick does to the timer tasks: the settings stay and every task stays, a timer
task with its kind up to its timer being set; a live timer task afterwards was live before,
or is new, its deadline its delay after the clock before. -/
structure World.Paces (w w' : World) : Prop where
  config : w'.engine.config = w.engine.config
  kept : ∀ (id : Nat) (t : Task), w.tasks[id]? = some t →
    ∃ t' : Task, w'.tasks[id]? = some t' ∧ (t.kind.clock.isSome → t'.kind.arm = t.kind.arm)
  timers : ∀ (id : Nat) (t' : Task), w'.tasks[id]? = some t' → t'.kind.clock.isSome → t'.Live →
    (∃ t : Task, w.tasks[id]? = some t ∧ t.kind.arm = t'.kind.arm ∧ t.Live) ∨
      (w.tasks[id]? = none ∧ ∃ a, t'.kind.clock = some (w.now + t'.kind.delay w.engine.config, a))

theorem World.Paces.trans (h : w.Paces w') (h' : w'.Paces w'') (now : w'.now = w.now) : w.Paces w'' where
  config := h'.config.trans h.config
  kept id t ht := by
    obtain ⟨t', ht', kind⟩ := h.kept id t ht
    obtain ⟨t'', ht'', kind'⟩ := h'.kept id t' ht'
    refine ⟨t'', ht'', fun timer => ?_⟩
    have timer' : t'.kind.clock.isSome := by rw [← TaskKind.isSome_clock_arm, kind timer]; simpa using timer
    rw [kind' timer', kind timer]
  timers id t'' ht'' timer live := by
    rcases h'.timers id t'' ht'' timer live with ⟨t', ht', kind', live'⟩ | ⟨gone', d, stamped⟩
    · have timer' : t'.kind.clock.isSome := by rw [← TaskKind.isSome_clock_arm, kind']; simpa using timer
      rcases h.timers id t' ht' timer' live' with ⟨t, ht, kind, live0⟩ | ⟨gone, a, stamped⟩
      · exact .inl ⟨t, ht, kind.trans kind', live0⟩
      · obtain ⟨a', clock⟩ := TaskKind.clock_of_arm kind'.symm stamped
        refine .inr ⟨gone, a', ?_⟩
        rw [clock, TaskKind.delay_of_arm kind'.symm]
    · -- a task new in `w''` was in neither world before
      have gone : w.tasks[id]? = none := by
        cases ht : w.tasks[id]? with
        | none => rfl
        | some t =>
          obtain ⟨t', ht', -⟩ := h.kept id t ht
          rw [ht'] at gone'
          cases gone'
      rw [now, h.config] at stamped
      exact .inr ⟨gone, d, stamped⟩

theorem World.Paces.of_starts (h : w.Starts w') (keeps : w.Keeps w') : w.Paces w' where
  config := h.config
  kept id t ht := (keeps id t ht).imp fun t' ⟨ht', kind⟩ => ⟨ht', fun _ => by rw [kind]⟩
  timers id t' ht' timer live := (h.timers id t' ht' timer live).imp
    (fun ⟨t, ht, kind, live0⟩ => ⟨t, ht, by rw [kind], live0⟩) fun ⟨gone, stamped⟩ => ⟨gone, false, stamped⟩

theorem World.Paces.of_task {id : Nat} {t v : Task} (ht : w.tasks[id]? = some t)
    (hk : v.kind.arm = t.kind.arm) (hl : v.Live → t.Live)
    (tasks : ∀ j, w'.tasks[j]? = if id = j then some v else w.tasks[j]?)
    (config : w'.engine.config = w.engine.config) : w.Paces w' where
  config := config
  kept j u hu := by
    rw [tasks j]
    by_cases same : id = j
    · subst same
      rw [ht, Option.some.injEq] at hu
      subst hu
      exact ⟨v, by simp, fun _ => hk⟩
    · exact ⟨u, by simp [same, hu], fun _ => rfl⟩
  timers j u' hu' _ live := by
    rw [tasks j] at hu'
    by_cases same : id = j
    · subst same
      simp only [↓reduceIte, Option.some.injEq] at hu'
      subst hu'
      exact .inl ⟨t, ht, hk.symm, hl live⟩
    · simp only [same, ↓reduceIte] at hu'
      exact .inl ⟨u', hu', rfl, live⟩

theorem World.Paces.of_woken
    (h : ∀ i : Nat, w'.tasks[i]? = w.tasks[i]? ∨ w'.tasks[i]? = (w.tasks[i]?).map Task.woken)
    (config : w'.engine.config = w.engine.config) : w.Paces w' where
  config := config
  kept id t ht := by
    rcases h id with same | woken
    · exact ⟨t, by rw [same, ht], fun _ => rfl⟩
    · exact ⟨t.woken, by rw [woken, ht]; rfl, fun _ => by rw [Task.woken_kind]⟩
  timers id t' ht' _ live := by
    rcases h id with same | woken
    · exact .inl ⟨t', by rw [← same, ht'], rfl, live⟩
    · rw [woken] at ht'
      obtain ⟨t, ht, rfl⟩ := Option.map_eq_some_iff.mp ht'
      exact .inl ⟨t, ht, by rw [Task.woken_kind], (Task.woken_live t).mp live⟩

theorem World.Paces.of_tasks (h : w'.tasks = w.tasks) (config : w'.engine.config = w.engine.config) :
    w.Paces w' :=
  .of_woken (fun i => .inl (by rw [h])) config

theorem World.Aside.paces (h : w.Aside w') : w.Paces w' where
  config := by rw [h.engine]
  kept id t ht := by
    by_cases timer : t.kind.clock.isSome
    · exact ⟨t, h.timerTasks id t ht timer, fun _ => rfl⟩
    · obtain ⟨t', ht'⟩ := h.kept id t ht
      exact ⟨t', ht', fun yes => absurd yes timer⟩
  timers id t' ht' timer live := .inl ⟨t', h.fresh id t' ht' timer, rfl, live⟩

theorem World.Paces.fire (w : World) : w.Paces (fireDue.run w).2 := by
  obtain ⟨-, -, -, -, engine, tasks, -, -⟩ := fireDue_run w
  refine .of_woken (fun i => ?_) (by rw [engine])
  rw [tasks i]
  split
  · exact .inr rfl
  · exact .inl rfl

theorem World.Paces.park (w : World) : w.Paces (parkUntilNext.run w).2 := by
  obtain ⟨w1, engine, tasks, parked | fired⟩ := parkUntilNext_fires w
  · rw [parked]
    exact .of_tasks tasks (by rw [engine])
  · obtain ⟨-, -, -, -, engine', tasks', -, -⟩ := fireDue_run w1
    rw [fired]
    refine .of_woken (fun i => ?_) (by rw [engine', engine])
    rw [tasks' i, tasks]
    split
    · exact .inr rfl
    · exact .inl rfl

end paces

section turn

variable {w w1 : World} {id : Nat}

theorem World.Timed.turn (hw : w.Timed) (pop : w.Pops id w1) {t : Task} (ht : w.tasks[id]? = some t)
    (clocked : t.kind.clock.isSome) :
    w.Paces ((runTask id).run w1).2 ∧ ((runTask id).run w1).2.now = w.now ∧
      (((runTask id).run w1).2.engine = w.engine ∨
        t.Live ∧ (∃ a, t.kind.clock = some (w.now, a)) ∧
          ((runTask id).run w1).2.engine = (t.kind.expiry.run (w1.starting id)).2.engine) := by
  obtain ⟨engine, now, tasks, -, -, -⟩ := pop.same
  have popped : w.Paces w1 := .of_tasks tasks (by rw [engine])
  have ht1 : w1.tasks[id]? = some t := tasks ▸ ht
  have turn := hw.timerTurn pop ht clocked
  generalize ((runTask id).run w1).2 = w' at turn ⊢
  cases turn with
  | unqueued => exact ⟨popped, now, .inl engine⟩
  | aborted =>
    exact ⟨popped.trans (.of_task ht1 (v := { t with run := .done }) rfl (by simp [Task.Live])
      (tasks_modify_of ht1 _) rfl) now, now, .inl engine⟩
  | fires hq hl hk due =>
    obtain ⟨engine', now', -, -, -, -, -, tasks'⟩ := runTask_fires ht1 hq hl hk (Nat.le_of_eq due)
    have timed := hw.starting pop ht clocked hq
    obtain ⟨-, acted, kept⟩ := steady_expiry t.kind _ timed
    have started : w1.Paces (w1.starting id) :=
      .of_task ht1 (v := { t with run := .running, wokenWhileRunning := false }) rfl
        (fun live => by simp [Task.Live] at live) (tasks_modify_of ht1 _) rfl
    have starts := startingWith_expiry t.kind _ timed rfl
    obtain ⟨u, hu, kind, dead⟩ := hw.acted pop ht clocked hq
    have finished : (t.kind.expiry.run (w1.starting id)).2.Paces ((runTask id).run w1).2 :=
      .of_task hu (v := { u with kind := t.kind.arm, run := .done }) (by simp [kind])
        (fun live => absurd live (by simp [Task.Live])) (fun j => by rw [tasks' j]; split <;> simp_all)
        (by rw [engine'])
    refine ⟨((popped.trans started now).trans (.of_starts starts kept) now).trans finished
      (acted.trans now), now'.trans (acted.trans now),
      .inr ⟨⟨hl, .inl hq⟩, ⟨_, (due.trans now) ▸ hk⟩, engine'⟩⟩
  | waits hq hl hk ha early =>
    obtain ⟨engine', now', -, -, -, -, -, tasks'⟩ := runTask_waits ht1 hq hl hk ha early
    refine ⟨popped.trans (.of_task ht1
      (v := { t with kind := t.kind.arm, run := .idle, wokenWhileRunning := false }) (by simp)
      (fun _ => ⟨hl, .inl hq⟩) tasks' (by rw [engine'])) now, now'.trans now, .inl (engine'.trans engine)⟩

end turn

end Sim

open Sim

namespace EngineState

theorem Leads.config {e e' : EngineState} {evs : List Happened} (h : e.Leads evs e') : e'.config = e.config := by
  induction h with
  | refl => rfl
  | move _ _ hc _ ih => exact hc.trans ih
  | quiet _ hc _ ih => exact hc.trans ih

end EngineState

namespace Engine

def Action.byTimer : Action → Bool
  | .attemptTimedOut .. => true
  | .backoffElapsed _ => true
  | _ => false

section actions

variable {w : World}

theorem Action.step_config (a : Action) (hw : Reachable w) : (a.step w).engine.config = w.engine.config := by
  obtain ⟨evs, history⟩ := hw.chronicle
  obtain ⟨_, led⟩ := a.step_leads history
  exact led.config

theorem Action.step_steady (a : Action) (hw : w.Timed) :
    (a.step w).Timed ∧ (a.step w).now = w.now ∧ w.Keeps (a.step w) := by
  cases a with
  | enable c => rw [Action.step_enable]; exact (quiet_enable c).steady w hw
  | disable c => rw [Action.step_disable]; exact (quiet_disable c).steady w hw
  | shutdown => rw [Action.step_shutdown]; exact quiet_shutdown.steady w hw
  | submit c opcode input owner => rw [Action.step_submit]; exact steady_submit c opcode input owner w hw
  | cancel c handle => rw [Action.step_cancel]; exact (quiet_cancel c handle).steady w hw
  | receive bytes => rw [Action.step_receive]; exact steady_receive bytes w hw
  | attemptTimedOut c handle generation =>
    rw [Action.step_attemptTimedOut]
    exact steady_attemptTimedOut c handle generation w hw
  | backoffElapsed c => rw [Action.step_backoffElapsed]; exact steady_backoffElapsed c w hw

theorem Action.step_starts (a : Action) (hw : Reachable w) (ht : w.Timed) : w.Starts (a.step w) := by
  have config := a.step_config hw
  cases a with
  | enable c =>
    rw [Action.step_enable] at config ⊢
    exact .of_calm (quiet_enable c w ht) config
  | disable c =>
    rw [Action.step_disable] at config ⊢
    exact .of_calm (quiet_disable c w ht) config
  | shutdown =>
    rw [Action.step_shutdown] at config ⊢
    exact .of_calm (quiet_shutdown w ht) config
  | submit c opcode input owner =>
    rw [Action.step_submit]
    exact startingWith_submit c opcode input owner w ht rfl
  | cancel c handle =>
    rw [Action.step_cancel] at config ⊢
    exact .of_calm (quiet_cancel c handle w ht) config
  | receive bytes =>
    rw [Action.step_receive]
    exact startingWith_receive bytes w ht rfl
  | attemptTimedOut c handle generation =>
    rw [Action.step_attemptTimedOut]
    exact startingWith_attemptTimedOut c handle generation w ht rfl
  | backoffElapsed c =>
    rw [Action.step_backoffElapsed]
    exact startingWith_backoffElapsed c w ht rfl

theorem Action.step_armed (a : Action) (h : w.Armed) (he : w.engine.Coherent) (hb : a.byTimer = false) :
    (a.step w).Armed := by
  cases a with
  | enable c => rw [Action.step_enable]; exact h.enable c
  | disable c => rw [Action.step_disable]; exact h.disable he c
  | shutdown => rw [Action.step_shutdown]; exact h.shutdown he
  | submit c opcode input owner => rw [Action.step_submit]; exact h.submit he c opcode input owner
  | cancel c handle => rw [Action.step_cancel]; exact h.cancel he c handle
  | receive bytes => rw [Action.step_receive]; exact h.receive he bytes
  | attemptTimedOut => cases hb
  | backoffElapsed => cases hb

theorem Reachable.expiry (hw : Reachable w) (k : TaskKind) : Reachable (k.expiry.run w).2 := by
  cases k with
  | attemptTimer c h g d a => exact hw.act (.attemptTimedOut c h g)
  | backoff c d a => exact hw.act (.backoffElapsed c)
  | _ => exact hw

end actions

inductive Tick : World → World → Prop where
  | call {w : World} (a : Action) : a.byTimer = false → Tick w (a.step w)
  | timer {w w1 : World} {id : Nat} {t : Task} : w.Pops id w1 → w.tasks[id]? = some t →
      t.kind.clock.isSome → Tick w ((runTask id).run w1).2
  | fire {w : World} : Tick w (fireDue.run w).2
  | park {w : World} : w.localQueue = [] → w.remoteQueue = [] → Tick w (parkUntilNext.run w).2
  | aside {w w' : World} : w.Aside w' → Tick w w'

inductive Ticking : World → Prop where
  | start {config : EngineConfig} {link : Link} {filter : Option Log.Filter} {program : String}
      {w : World} : start config link filter program = .ok w → Ticking w
  | tick {w w' : World} : Ticking w → Tick w w' → Ticking w'

inductive TicksWhile (P : World → Prop) (w : World) : World → Prop where
  | refl : TicksWhile P w w
  | tick {u v : World} : TicksWhile P w u → P u → Tick u v → TicksWhile P w v

end Engine

namespace Sim

open Engine

/-- A world a run keeps sound: its engine is reachable, its timer tasks keep to the clock,
and they agree with its channels. -/
structure World.Sound (w : World) : Prop where
  reachable : Reachable w
  timed : w.Timed
  armed : w.Armed

theorem World.initial_timed (config : EngineConfig) (link : Link) (filter : Option Log.Filter)
    (program : String) : (World.initial config link filter program).Timed where
  ahead tm htm := by simp [World.initial] at htm
  named d id htm := by simp [World.initial] at htm
  listed id t ht := by simp [World.initial] at ht
  stage id t d a ht := by simp [World.initial] at ht
  ringing d id t htm := by simp [World.initial] at htm
  slots n s id hs := by simp [World.initial] at hs
  idlers c id hid := by cases c <;> simp [World.initial, PerChannel.uniform, PerChannel.get] at hid

theorem World.initial_armed (config : EngineConfig) (link : Link) (filter : Option Log.Filter)
    (program : String) : (World.initial config link filter program).Armed where
  holds c := ⟨fun id k ⟨t, ht, _⟩ => by simp [World.initial] at ht,
    fun id hb => by simp [World.initial, ChannelState.initial] at hb,
    fun id h g ht => by simp [World.initial, ChannelState.timed, ChannelState.initial] at ht⟩
  issued c id t h g d a ht := by simp [World.initial] at ht
  single i j ti tj c h g di dj ai aj hi := by simp [World.initial] at hi

theorem World.Sound.start {config : EngineConfig} {link : Link} {filter : Option Log.Filter}
    {program : String} {w : World} (h : Engine.start config link filter program = .ok w) : w.Sound := by
  refine ⟨.start h, ?_, ?_⟩ <;> unfold Engine.start at h <;> split at h
  · cases h
  · cases h
    exact (quiet_emit _ _ _ _ _ (World.initial_timed _ _ _ _)).timed
  · cases h
  · cases h
    exact (World.initial_armed _ _ _ _).inert (inert_emit _ _ _ _) (by rw [emit_engine])

end Sim

namespace Engine

variable {w w' : World}

theorem Tick.sound (h : Tick w w') (hw : w.Sound) : w'.Sound := by
  cases h with
  | call a hb =>
    exact ⟨hw.reachable.act a, (a.step_steady hw.timed).1,
      a.step_armed hw.armed hw.reachable.coherent hb⟩
  | @timer w1 id t pop ht clocked =>
    obtain ⟨engine, -, -, -, -, -⟩ := pop.same
    have timer : ∀ t', w.tasks[id]? = some t' → t'.kind.clock.isSome := fun t' h' => by
      rw [ht, Option.some.injEq] at h'
      exact h' ▸ clocked
    have armed := hw.armed.runTimer hw.reachable.coherent hw.timed pop ht clocked
    obtain ⟨-, -, same | ⟨-, -, acted⟩⟩ := hw.timed.turn pop ht clocked
    · exact ⟨hw.reachable.outside same, hw.timed.runTimer pop timer, armed⟩
    · -- the task acted from the world where it started, whose engine is that of `w`
      have started : Reachable (w1.starting id) := hw.reachable.outside (by rw [World.starting_engine, engine])
      exact ⟨(started.expiry t.kind).outside acted, hw.timed.runTimer pop timer, armed⟩
  | fire =>
    exact ⟨hw.reachable.outside (fireDue_run w).2.2.2.2.1, hw.timed.fire, hw.armed.fire⟩
  | park hl hr =>
    exact ⟨hw.reachable.outside (parkUntilNext_engine w), hw.timed.park hl hr, hw.armed.park⟩
  | aside h =>
    exact ⟨hw.reachable.outside h.engine, hw.timed.aside h, hw.armed.spares h.spares (by rw [h.engine])⟩

theorem Ticking.sound (h : Ticking w) : w.Sound := by
  induction h with
  | start started => exact .start started
  | tick _ ht ih => exact ht.sound ih

theorem Tick.paces (h : Tick w w') (hw : w.Sound) : w.Paces w' := by
  cases h with
  | call a _ =>
    exact .of_starts (a.step_starts hw.reachable hw.timed) (a.step_steady hw.timed).2.2
  | timer pop ht clocked => exact (hw.timed.turn pop ht clocked).1
  | fire => exact .fire w
  | park => exact .park w
  | aside h => exact h.paces

end Engine

end FrameRpc
