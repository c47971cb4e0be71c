import FrameRpc.Proofs.Sim.Alike
import FrameRpc.Sim.Run
set_option autoImplicit false

/-!
Timer tasks on the virtual clock.

Attempt timers and back-offs are tasks started with a deadline. When first run, such a
task acts at once if its deadline has come and otherwise sets its timer; when the timer
fires the task is queued again, and it acts when run. The scheduler moves the clock only
when no task is queued, and then to the earliest deadline, where the timers due fire.

`World.Timed` is what keeps this exact. Every timer is ahead of the clock; every live
timer task is at one of three stages: queued before it ever ran, no later than its
deadline; waiting on the timer it set; or woken by that timer at its deadline. A timer that
names a timer task is that task's own, and no slot and no idle channel waits for a timer
task, so nothing else can wake one. The engine's operations keep the invariant (`Calm`):
they read the clock without moving it, wake only tasks that are no timers, and end timer
tasks only by aborting them, which forgets their timers.
-/

namespace FrameRpc.Sim

/-- The deadline of an attempt timer or a back-off, and whether its timer is set; other
tasks have none. -/
def TaskKind.clock : TaskKind → Option (Nat × Bool)
  | .attemptTimer _ _ _ d armed => some (d, armed)
  | .backoff _ d armed => some (d, armed)
  | _ => none

def Task.Live (t : Task) : Prop := t.aborted = false ∧ (t.run = .queued ∨ t.run = .idle)

def World.Untimed (w : World) (id : Nat) : Prop :=
  ∃ t, w.tasks[id]? = some t ∧ t.kind.clock = none

/-- Where a live timer task with deadline `d` stands: queued before it ever ran, no later
than its deadline; waiting on the timer it set; or woken by that timer at its deadline. -/
inductive TimerStage (w : World) (id d : Nat) : Bool → RunState → Prop where
  | fresh : w.now ≤ d → TimerStage w id d false .queued
  | waiting : ⟨d, .task id⟩ ∈ w.timers → TimerStage w id d true .idle
  | due : w.now = d → TimerStage w id d true .queued

theorem TimerStage.move {w w' : World} {id d : Nat} {a : Bool} {r : RunState}
    (h : TimerStage w id d a r) (now : w'.now = w.now)
    (timer : ⟨d, .task id⟩ ∈ w.timers → ⟨d, .task id⟩ ∈ w'.timers) : TimerStage w' id d a r := by
  cases h with
  | fresh early => exact .fresh (now ▸ early)
  | waiting set => exact .waiting (timer set)
  | due at_ => exact .due (now ▸ at_)

structure World.Timed (w : World) : Prop where
  ahead : ∀ tm ∈ w.timers, w.now ≤ tm.deadline
  named : ∀ d id : Nat, ⟨d, .task id⟩ ∈ w.timers → ∃ t : Task, w.tasks[id]? = some t
  listed : ∀ (id : Nat) (t : Task), w.tasks[id]? = some t → t.kind.clock.isSome → t.Live → t.run = .queued →
    id ∈ w.localQueue ∨ id ∈ w.remoteQueue
  stage : ∀ (id : Nat) (t : Task) (d : Nat) (a : Bool), w.tasks[id]? = some t → t.kind.clock = some (d, a) → t.Live →
    TimerStage w id d a t.run
  ringing : ∀ (d id : Nat) (t : Task), ⟨d, .task id⟩ ∈ w.timers → w.tasks[id]? = some t → t.kind.clock.isSome →
    t.Live ∧ t.run = .idle ∧ t.kind.clock = some (d, true)
  slots : ∀ (n : Nat) (s : Slot) (id : Nat), w.slots[n]? = some s → s.waiter = some (.task id) →
    w.Untimed id
  idlers : ∀ (c : Channel) (id : Nat), id ∈ w.idleWaiters.get c → w.Untimed id

/-- What the engine's operations do to the runtime: the invariant kept, the clock not
moved, every task kept with its kind, no timer task started, and none brought to life: a
live timer task afterwards was live before, with the same kind. -/
structure Calm (w w' : World) : Prop where
  timed : w'.Timed
  now : w'.now = w.now
  kept : ∀ (id : Nat) (t : Task), w.tasks[id]? = some t →
    ∃ t' : Task, w'.tasks[id]? = some t' ∧ t'.kind = t.kind
  fresh : ∀ (id : Nat) (t' : Task), w'.tasks[id]? = some t' → w.tasks[id]? = none → t'.kind.clock = none
  live : ∀ (id : Nat) (t' : Task), w'.tasks[id]? = some t' → t'.kind.clock.isSome → t'.Live →
    ∃ t : Task, w.tasks[id]? = some t ∧ t.kind = t'.kind ∧ t.Live

namespace Calm

variable {w w' w'' : World}

theorem refl (hw : w.Timed) : Calm w w :=
  ⟨hw, rfl, fun _ t h => ⟨t, h, rfl⟩, fun _ t h none => by simp [h] at none,
    fun _ t h _ live => ⟨t, h, rfl, live⟩⟩

theorem trans (h : Calm w w') (h' : Calm w' w'') : Calm w w'' where
  timed := h'.timed
  now := h'.now.trans h.now
  kept id t ht := by
    obtain ⟨t1, ht1, k1⟩ := h.kept id t ht
    obtain ⟨t2, ht2, k2⟩ := h'.kept id t1 ht1
    exact ⟨t2, ht2, k2.trans k1⟩
  fresh id t'' ht'' none := by
    cases ht' : w'.tasks[id]? with
    | none => exact h'.fresh id t'' ht'' ht'
    | some t' =>
      obtain ⟨t2, ht2, kind⟩ := h'.kept id t' ht'
      rw [ht'', Option.some.injEq] at ht2
      subst ht2
      rw [kind]
      exact h.fresh id t' ht' none
  live id t'' ht'' timer live := by
    obtain ⟨t', ht', k', live'⟩ := h'.live id t'' ht'' timer live
    obtain ⟨t, ht, k, live0⟩ := h.live id t' ht' (k' ▸ timer) live'
    exact ⟨t, ht, k.trans k', live0⟩

theorem untimed (h : Calm w w') {id : Nat} (hu : w.Untimed id) : w'.Untimed id := by
  obtain ⟨t, ht, clock⟩ := hu
  obtain ⟨t', ht', kind⟩ := h.kept id t ht
  exact ⟨t', ht', kind ▸ clock⟩

end Calm

theorem tasks_modify_of {tasks : Array Task} {id : Nat} {t : Task} (ht : tasks[id]? = some t)
    (f : Task → Task) (j : Nat) : (tasks.modify id f)[j]? = if id = j then some (f t) else tasks[j]? := by
  rw [Array.getElem?_modify]
  by_cases same : id = j
  · subst same
    simp [ht]
  · simp [same]

section frame

variable {w w' : World}

/-- A change of the world that keeps the clock, lets timers only go, keeps the timers of
live timer tasks, changes a timer task only by ending it, starts no timer task, and lets
nothing new wait for a task, is calm. -/
theorem World.Timed.calm_of_frame (hw : w.Timed) (now : w'.now = w.now)
    (timers : ∀ tm ∈ w'.timers, tm ∈ w.timers)
    (ringing : ∀ (d id : Nat) (t' : Task), ⟨d, .task id⟩ ∈ w'.timers → w'.tasks[id]? = some t' →
      t'.kind.clock.isSome → w.tasks[id]? = some t')
    (waiting : ∀ (d id : Nat) (t' : Task), ⟨d, .task id⟩ ∈ w.timers → w'.tasks[id]? = some t' →
      t'.kind.clock.isSome → t'.Live → ⟨d, .task id⟩ ∈ w'.timers)
    (tasks : ∀ (id : Nat) (t' : Task), w'.tasks[id]? = some t' →
      (∃ t : Task, w.tasks[id]? = some t ∧ t'.kind = t.kind ∧ (t.kind.clock.isSome → t'.Live → t' = t)) ∨
        (w.tasks[id]? = none ∧ t'.kind.clock = none))
    (kept : ∀ (id : Nat) (t : Task), w.tasks[id]? = some t → ∃ t' : Task, w'.tasks[id]? = some t')
    (queues : ∀ id : Nat, id ∈ w.localQueue ∨ id ∈ w.remoteQueue → id ∈ w'.localQueue ∨ id ∈ w'.remoteQueue)
    (slots : ∀ (n : Nat) (s' : Slot) (id : Nat), w'.slots[n]? = some s' → s'.waiter = some (.task id) →
      ∃ s : Slot, w.slots[n]? = some s ∧ s.waiter = s'.waiter)
    (idlers : ∀ (c : Channel) (id : Nat), id ∈ w'.idleWaiters.get c → id ∈ w.idleWaiters.get c) : Calm w w' := by
  have same : ∀ (id : Nat) (t' : Task), w'.tasks[id]? = some t' → t'.kind.clock.isSome → t'.Live →
      w.tasks[id]? = some t' := by
    intro id t' ht' timer live
    rcases tasks id t' ht' with ⟨t, ht, kind, keep⟩ | ⟨-, none⟩
    · rw [ht, keep (kind ▸ timer) live]
    · simp [none] at timer
  have kinds : ∀ (id : Nat) (t : Task), w.tasks[id]? = some t →
      ∃ t' : Task, w'.tasks[id]? = some t' ∧ t'.kind = t.kind := by
    intro id t ht
    obtain ⟨t', ht'⟩ := kept id t ht
    rcases tasks id t' ht' with ⟨t0, ht0, kind, -⟩ | ⟨none, -⟩
    · rw [ht] at ht0
      cases ht0
      exact ⟨t', ht', kind⟩
    · simp [ht] at none
  have untimed : ∀ id : Nat, w.Untimed id → w'.Untimed id := by
    rintro id ⟨t, ht, clock⟩
    obtain ⟨t', ht', kind⟩ := kinds id t ht
    exact ⟨t', ht', kind ▸ clock⟩
  refine ⟨⟨?_, ?_, ?_, ?_, ?_, ?_, ?_⟩, now, kinds, fun id t' ht' none => ?_, ?_⟩
  · intro tm htm
    rw [now]
    exact hw.ahead tm (timers tm htm)
  · intro d id htm
    obtain ⟨t, ht⟩ := hw.named d id (timers _ htm)
    exact kept id t ht
  · intro id t' ht' timer live queued
    exact queues id (hw.listed id t' (same id t' ht' timer live) timer live queued)
  · intro id t' d a ht' clock live
    exact (hw.stage id t' d a (same id t' ht' (by simp [clock]) live) clock live).move now
      fun set => waiting d id t' set ht' (by simp [clock]) live
  · intro d id t' htm ht' timer
    exact hw.ringing d id t' (timers _ htm) (ringing d id t' htm ht' timer) timer
  · intro n s' id hs' waiter
    obtain ⟨s, hs, same⟩ := slots n s' id hs' waiter
    exact untimed id (hw.slots n s id hs (same.trans waiter))
  · intro c id hid
    exact untimed id (hw.idlers c id (idlers c id hid))
  · rcases tasks id t' ht' with ⟨t, ht, -, -⟩ | ⟨-, clock⟩
    · simp [ht] at none
    · exact clock
  · intro id t' ht' timer live
    exact ⟨t', same id t' ht' timer live, rfl, live⟩

theorem World.Timed.calm_of_queues (hw : w.Timed) (now : w'.now = w.now) (tasks : w'.tasks = w.tasks)
    (timers : w'.timers = w.timers) (slots : w'.slots = w.slots)
    (idlers : w'.idleWaiters = w.idleWaiters)
    (queues : ∀ id : Nat, id ∈ w.localQueue ∨ id ∈ w.remoteQueue →
      id ∈ w'.localQueue ∨ id ∈ w'.remoteQueue) : Calm w w' := by
  refine hw.calm_of_frame now (fun tm h => timers ▸ h) (fun d id t' _ h _ => tasks ▸ h)
    (fun d id t' h _ _ _ => timers ▸ h) (fun id t' h => .inl ⟨t', tasks ▸ h, rfl, fun _ _ => rfl⟩)
    (fun id t h => ⟨t, tasks ▸ h⟩) queues (fun n s' id h _ => ⟨s', slots ▸ h, rfl⟩)
    (fun c id h => idlers ▸ h)

theorem World.Timed.calm_of_same (hw : w.Timed) (now : w'.now = w.now) (tasks : w'.tasks = w.tasks)
    (timers : w'.timers = w.timers) (local_ : w'.localQueue = w.localQueue)
    (remote : w'.remoteQueue = w.remoteQueue) (slots : w'.slots = w.slots)
    (idlers : w'.idleWaiters = w.idleWaiters) : Calm w w' :=
  hw.calm_of_queues now tasks timers slots idlers fun _ h => local_ ▸ remote ▸ h

end frame

variable {α β : Type}

def Quiet (x : Sim α) : Prop := ∀ w : World, w.Timed → Calm w (x.run w).2

theorem Quiet.bind {x : Sim α} {f : α → Sim β} (hx : Quiet x) (hf : ∀ a, Quiet (f a)) :
    Quiet (x >>= f) := fun w hw => by
  rw [run_bind]
  have first := hx w hw
  exact first.trans (hf _ _ first.timed)

theorem Quiet.pure (a : α) : Quiet (pure a : Sim α) := fun _ hw => .refl hw

theorem quiet_of_run {x : Sim α} (hx : ∀ w, (x.run w).2 = w) : Quiet x := fun w hw => by
  rw [hx w]
  exact .refl hw

def World.Keeps (w w' : World) : Prop :=
  ∀ (id : Nat) (t : Task), w.tasks[id]? = some t → ∃ t' : Task, w'.tasks[id]? = some t' ∧ t'.kind = t.kind

theorem World.Keeps.trans {w w' w'' : World} (h : w.Keeps w') (h' : w'.Keeps w'') : w.Keeps w'' :=
  fun id t ht => by
    obtain ⟨t1, ht1, k1⟩ := h id t ht
    obtain ⟨t2, ht2, k2⟩ := h' id t1 ht1
    exact ⟨t2, ht2, k2.trans k1⟩

def Steady (x : Sim α) : Prop :=
  ∀ w : World, w.Timed → (x.run w).2.Timed ∧ (x.run w).2.now = w.now ∧ w.Keeps (x.run w).2

theorem Quiet.steady {x : Sim α} (hx : Quiet x) : Steady x := fun w hw =>
  ⟨(hx w hw).timed, (hx w hw).now, (hx w hw).kept⟩

theorem Steady.bind {x : Sim α} {f : α → Sim β} (hx : Steady x) (hf : ∀ a, Steady (f a)) :
    Steady (x >>= f) := fun w hw => by
  rw [run_bind]
  obtain ⟨timed, now, kept⟩ := hx w hw
  obtain ⟨timed', now', kept'⟩ := hf _ _ timed
  exact ⟨timed', now'.trans now, kept.trans kept'⟩

theorem quiet_forIn {γ : Type} (l : List γ) (b : β) {f : γ → β → Sim (ForInStep β)}
    (hf : ∀ a b, Quiet (f a b)) : Quiet (forIn l b f) := by
  induction l generalizing b with
  | nil => exact Quiet.pure b
  | cons a rest ih =>
    rw [List.forIn_cons]
    refine Quiet.bind (hf a b) fun step => ?_
    cases step with
    | done b' => exact Quiet.pure b'
    | yield b' => exact ih b'

section primitives

theorem quiet_emitWith (l : Log.Level) (t m : String) (fs : List (String × Log.FieldValue))
    (u : List String) : Quiet (emitWith l t m fs u) := fun w hw => by
  simp only [emitWith, run_modify]
  split
  · split
    · exact hw.calm_of_same rfl rfl rfl rfl rfl rfl rfl
    · exact .refl hw
  · exact .refl hw

theorem quiet_emit (l : Log.Level) (t m : String) (fs : List (String × Log.FieldValue)) :
    Quiet (emit l t m fs) :=
  quiet_emitWith l t m fs []

theorem quiet_enqueue (id : Nat) : Quiet (enqueue id) := fun w hw => by
  simp only [enqueue, run_modify]
  split <;> refine hw.calm_of_queues rfl rfl rfl rfl rfl fun j h => ?_ <;>
    rcases h with h | h <;> simp [h]

theorem Calm.enqueue {w w1 : World} (h : Calm w w1) (id : Nat) : Calm w ((enqueue id).run w1).2 :=
  h.trans (quiet_enqueue id w1 h.timed)

theorem quiet_spawn {k : TaskKind} (hk : k.clock = none) : Quiet (spawn k) := fun w hw => by
  simp only [spawn, run_bind, run_get, run_modify, run_pure]
  have pushed : Calm w { w with tasks := w.tasks.push ⟨k, .queued, false, false⟩ } := by
    refine hw.calm_of_frame rfl (fun tm h => h) (fun d id t' _ ht' timer => ?_)
      (fun d id t' h _ _ _ => h) (fun id t' ht' => ?_) (fun id t ht => ⟨t, ?_⟩) (fun id h => h)
      (fun n s' id h _ => ⟨s', h, rfl⟩) (fun c id h => h)
    · simp only [Array.getElem?_push] at ht'
      split at ht'
      · cases ht'
        simp [hk] at timer
      · exact ht'
    · simp only [Array.getElem?_push] at ht'
      split at ht'
      · next hid =>
        cases ht'
        exact .inr ⟨by simp [hid], hk⟩
      · exact .inl ⟨t', ht', rfl, fun _ _ => rfl⟩
    · have : id ≠ w.tasks.size := fun hid => by simp [hid] at ht
      simp [Array.getElem?_push, this, ht]
  exact pushed.trans (quiet_enqueue _ _ pushed.timed)

theorem World.Timed.calm_modifyTask {w : World} (hw : w.Timed) {id : Nat} {t : Task}
    (ht : w.tasks[id]? = some t) (clock : t.kind.clock = none) {f : Task → Task}
    (hf : ∀ t, (f t).kind = t.kind) : Calm w ((modifyTask id f).run w).2 := by
  simp only [modifyTask, run_modify]
  have modified := tasks_modify_of ht f
  refine hw.calm_of_frame rfl (fun tm h => h) (fun d j t' _ ht' timer => ?_)
    (fun d j t' h _ _ _ => h) (fun j t' ht' => ?_) (fun j t0 ht0 => ?_) (fun j h => h)
    (fun n s' j h _ => ⟨s', h, rfl⟩) (fun c j h => h)
  · rw [modified] at ht'
    split at ht'
    · cases ht'
      simp [hf, clock] at timer
    · exact ht'
  · rw [modified] at ht'
    split at ht'
    · next same =>
      subst same
      cases ht'
      exact .inl ⟨t, ht, hf t, fun timer => by simp [clock] at timer⟩
    · exact .inl ⟨t', ht', rfl, fun _ _ => rfl⟩
  · rw [modified]
    split <;> simp [ht0]

theorem calm_wake_untimed {w : World} (hw : w.Timed) {id : Nat} (hu : w.Untimed id) :
    Calm w ((wake (.task id)).run w).2 := by
  obtain ⟨t, ht, clock⟩ := hu
  simp only [wake, run_bind, task?_run, ht]
  split
  · simp only [run_bind]
    have first := hw.calm_modifyTask ht clock (f := fun t => { t with run := .queued }) fun _ => rfl
    exact first.trans (quiet_enqueue id _ first.timed)
  · exact hw.calm_modifyTask ht clock fun _ => rfl
  · exact .refl hw

theorem calm_wake_main {w : World} (hw : w.Timed) : Calm w ((wake .main).run w).2 :=
  hw.calm_of_same rfl rfl rfl rfl rfl rfl rfl

theorem World.Timed.calm_of_ending {w w' : World} (hw : w.Timed) {id : Nat} {f : Task → Task}
    (hf : ∀ t, (f t).kind = t.kind ∧ (f t).aborted = true) (now : w'.now = w.now)
    (tasks : ∀ j, w'.tasks[j]? = if id = j then (w.tasks[j]?).map f else w.tasks[j]?)
    (timers : w'.timers = w.timers.filter (·.waker != .task id))
    (queues : ∀ j : Nat, j ∈ w.localQueue ∨ j ∈ w.remoteQueue →
      j ∈ w'.localQueue ∨ j ∈ w'.remoteQueue)
    (slots : w'.slots = w.slots) (idlers : w'.idleWaiters = w.idleWaiters) : Calm w w' := by
  refine hw.calm_of_frame now (fun tm h => by rw [timers] at h; exact (List.mem_filter.mp h).1)
    (fun d j t' htm ht' _ => ?_) (fun d j t' htm ht' _ live => ?_) (fun j t' ht' => ?_)
    (fun j t0 ht0 => ?_) queues (fun n s' j h _ => ⟨s', slots ▸ h, rfl⟩)
    (fun c j h => idlers ▸ h)
  · rw [timers] at htm
    have other : id ≠ j := by
      intro same
      subst same
      simp at htm
    rw [tasks] at ht'
    simpa [other] using ht'
  · rw [tasks] at ht'
    split at ht'
    · next same =>
      subst same
      obtain ⟨t, -, rfl⟩ := Option.map_eq_some_iff.mp ht'
      simp [Task.Live, (hf t).2] at live
    · rw [timers]
      exact List.mem_filter.mpr ⟨htm, by simp [Ne.symm ‹¬id = j›]⟩
  · rw [tasks] at ht'
    split at ht'
    · obtain ⟨t, ht, rfl⟩ := Option.map_eq_some_iff.mp ht'
      exact .inl ⟨t, ht, (hf t).1, fun _ live => by simp [Task.Live, (hf t).2] at live⟩
    · exact .inl ⟨t', ht', rfl, fun _ _ => rfl⟩
  · rw [tasks]
    split <;> simp [ht0]

theorem quiet_abort (id : Nat) : Quiet (abort id) := fun w hw => by
  simp only [abort, run_bind, task?_run]
  cases ht : w.tasks[id]? with
  | none => exact .refl hw
  | some t =>
    dsimp only
    split
    · exact .refl hw
    · simp only [modifyTask, dropTimers, run_bind, run_modify]
      split
      · -- aborted, its timers forgotten, and queued once more so that the scheduler drops it
        simp only [run_bind, run_modify]
        refine Calm.enqueue ?_ id
        refine hw.calm_of_ending (f := fun t => { t with aborted := true, run := .queued })
          (fun _ => ⟨rfl, rfl⟩) rfl (fun j => ?_) rfl (fun j h => h) rfl rfl
        simp only [Array.getElem?_modify]
        split
        · simp only [Option.map_map]
          rfl
        · rfl
      · exact hw.calm_of_ending (f := fun t => { t with aborted := true })
          (fun _ => ⟨rfl, rfl⟩) rfl (fun j => Array.getElem?_modify) rfl (fun j h => h) rfl rfl

theorem quiet_fill (n : Nat) (r : Outcome) : Quiet (fill n r) := fun w hw => by
  simp only [fill, run_bind, run_modify, run_get]
  have stored : Calm w { w with slots := w.slots.modify n fun s => { s with value := some r } } := by
    refine hw.calm_of_frame rfl (fun tm h => h) (fun d id t' _ h _ => h) (fun d id t' h _ _ _ => h)
      (fun id t' h => .inl ⟨t', h, rfl, fun _ _ => rfl⟩) (fun id t h => ⟨t, h⟩) (fun id h => h)
      (fun m s' id hs' _ => ?_) (fun c id h => h)
    simp only [Array.getElem?_modify] at hs'
    split at hs'
    · obtain ⟨s, hs, rfl⟩ := Option.map_eq_some_iff.mp hs'
      exact ⟨s, hs, rfl⟩
    · exact ⟨s', hs', rfl⟩
  split
  · next k hk =>
    obtain ⟨s, hs, waiter⟩ := Option.bind_eq_some_iff.mp hk
    cases k with
    | main => exact stored.trans (calm_wake_main stored.timed)
    | task id => exact stored.trans (calm_wake_untimed stored.timed (stored.timed.slots n s id hs waiter))
  · exact stored

theorem quiet_deliver (o : Owner) (r : Outcome) : Quiet (deliver o r) := by
  cases o with
  | callback id =>
    refine Quiet.bind (quiet_of_run fun _ => rfl) fun _ => ?_
    split
    · exact Quiet.pure _
    · exact fun w hw => hw.calm_of_same rfl rfl rfl rfl rfl rfl rfl
  | slot n => exact Quiet.bind (quiet_fill n r) fun _ => Quiet.pure _

theorem quiet_abandon (o : Owner) : Quiet (abandon o) := by
  cases o with
  | callback id => exact Quiet.pure _
  | slot n => exact quiet_fill n _

theorem calm_forIn_wake {w : World} (hw : w.Timed) (ids : List Nat) (hu : ∀ id ∈ ids, w.Untimed id) :
    Calm w ((forIn ids PUnit.unit fun id _ => do
      wake (.task id)
      pure (ForInStep.yield PUnit.unit)).run w).2 := by
  induction ids generalizing w with
  | nil => exact .refl hw
  | cons id rest ih =>
    simp only [List.forIn_cons, run_bind, run_pure]
    have first := calm_wake_untimed hw (hu id List.mem_cons_self)
    exact first.trans (ih first.timed fun j hj => first.untimed (hu j (List.mem_cons_of_mem id hj)))

theorem quiet_updatePeer (f : Peer → Peer) : Quiet (updatePeer f) := fun w hw => by
  simp only [updatePeer, run_modify]
  split
  · exact hw.calm_of_same rfl rfl rfl rfl rfl rfl rfl
  · exact .refl hw

theorem quiet_ownTarget (m : String) : Quiet (ownTarget m) := quiet_of_run fun _ => rfl

theorem quiet_peerSend (p : Peer) (frame : List UInt8) : Quiet (peerSend p frame) := by
  unfold peerSend
  split
  · exact Quiet.bind (quiet_updatePeer _) fun _ => Quiet.pure _
  refine Quiet.bind (quiet_updatePeer _) fun _ => ?_
  split
  · refine Quiet.bind (quiet_ownTarget _) fun _ => Quiet.bind (quiet_emit _ _ _ _) fun _ => ?_
    exact Quiet.bind (quiet_updatePeer _) fun _ => Quiet.pure _
  split
  · refine Quiet.bind (quiet_ownTarget _) fun _ => Quiet.bind (quiet_emit _ _ _ _) fun _ => ?_
    exact Quiet.bind (quiet_updatePeer _) fun _ => Quiet.pure _
  dsimp only
  split
  all_goals
    try refine Quiet.bind (quiet_updatePeer _) fun _ => ?_
    split
    · exact Quiet.bind (quiet_updatePeer _) fun _ => Quiet.pure _
    · split
      · refine Quiet.bind (quiet_updatePeer _) fun _ => ?_
        exact Quiet.bind (Quiet.bind (quiet_spawn rfl) fun _ => Quiet.pure _) fun _ => Quiet.pure _
      · exact Quiet.pure _

theorem quiet_linkSend (frame : List UInt8) : Quiet (linkSend frame) := by
  refine Quiet.bind (quiet_of_run fun _ => rfl) fun l => ?_
  split
  · split
    · exact fun w hw => hw.calm_of_same rfl rfl rfl rfl rfl rfl rfl
    · exact fun w hw => hw.calm_of_same rfl rfl rfl rfl rfl rfl rfl
  · exact quiet_peerSend _ frame

section spawning

variable (k : TaskKind) (w : World)

theorem spawn_run : (spawn k).run w =
    (w.tasks.size, ((enqueue w.tasks.size).run { w with tasks := w.tasks.push ⟨k, .queued, false, false⟩ }).2) :=
  rfl

@[simp] theorem enqueue_tasks (id : Nat) : ((enqueue id).run w).2.tasks = w.tasks := by
  simp only [enqueue, run_modify]; split <;> rfl

@[simp] theorem enqueue_timers (id : Nat) : ((enqueue id).run w).2.timers = w.timers := by
  simp only [enqueue, run_modify]; split <;> rfl

@[simp] theorem enqueue_now (id : Nat) : ((enqueue id).run w).2.now = w.now := by
  simp only [enqueue, run_modify]; split <;> rfl

@[simp] theorem enqueue_slots (id : Nat) : ((enqueue id).run w).2.slots = w.slots := by
  simp only [enqueue, run_modify]; split <;> rfl

@[simp] theorem enqueue_idleWaiters (id : Nat) :
    ((enqueue id).run w).2.idleWaiters = w.idleWaiters := by
  simp only [enqueue, run_modify]; split <;> rfl

theorem mem_enqueue_queues (id j : Nat) :
    (j ∈ ((enqueue id).run w).2.localQueue ∨ j ∈ ((enqueue id).run w).2.remoteQueue) ↔
      (j = id ∨ j ∈ w.localQueue ∨ j ∈ w.remoteQueue) := by
  simp only [enqueue, run_modify]
  split <;> by_cases hj : j = id <;> simp [hj]

@[simp] theorem spawn_fst : ((spawn k).run w).1 = w.tasks.size := rfl

@[simp] theorem spawn_tasks :
    ((spawn k).run w).2.tasks = w.tasks.push ⟨k, .queued, false, false⟩ := by
  simp only [spawn_run, enqueue_tasks]

@[simp] theorem spawn_timers : ((spawn k).run w).2.timers = w.timers := by
  simp only [spawn_run, enqueue_timers]

@[simp] theorem spawn_now : ((spawn k).run w).2.now = w.now := by
  simp only [spawn_run, enqueue_now]

@[simp] theorem spawn_slots : ((spawn k).run w).2.slots = w.slots := by
  simp only [spawn_run, enqueue_slots]

@[simp] theorem spawn_idleWaiters : ((spawn k).run w).2.idleWaiters = w.idleWaiters := by
  simp only [spawn_run, enqueue_idleWaiters]

theorem mem_spawn_queues (j : Nat) :
    (j ∈ ((spawn k).run w).2.localQueue ∨ j ∈ ((spawn k).run w).2.remoteQueue) ↔
      (j = w.tasks.size ∨ j ∈ w.localQueue ∨ j ∈ w.remoteQueue) := by
  rw [spawn_run, mem_enqueue_queues]

end spawning

theorem getElem?_push_of_some {γ : Type} {xs : Array γ} {j : Nat} {a b : γ} (h : xs[j]? = some a) :
    (xs.push b)[j]? = some a := by
  have : j ≠ xs.size := fun hj => by simp [hj] at h
  simp [Array.getElem?_push, this, h]

theorem World.Timed.spawn_timer {w : World} (hw : w.Timed) {k : TaskKind} {d : Nat}
    (hk : k.clock = some (d, false)) (hd : w.now ≤ d) : ((spawn k).run w).2.Timed := by
  have old : ∀ j t, w.tasks[j]? = some t → ((spawn k).run w).2.tasks[j]? = some t := fun j t h => by
    rw [spawn_tasks]
    exact getElem?_push_of_some h
  have cases : ∀ j t, ((spawn k).run w).2.tasks[j]? = some t →
      (j = w.tasks.size ∧ t = ⟨k, .queued, false, false⟩) ∨ w.tasks[j]? = some t := fun j t h => by
    rw [spawn_tasks, Array.getElem?_push] at h
    split at h
    · exact .inl ⟨‹_›, (Option.some.inj h).symm⟩
    · exact .inr h
  have untimed : ∀ j, w.Untimed j → ((spawn k).run w).2.Untimed j := fun j ⟨t, ht, clock⟩ =>
    ⟨t, old j t ht, clock⟩
  refine ⟨?_, ?_, ?_, ?_, ?_, ?_, ?_⟩
  · rw [spawn_timers, spawn_now]; exact hw.ahead
  · intro d' j htm
    rw [spawn_timers] at htm
    obtain ⟨t, ht⟩ := hw.named d' j htm
    exact ⟨t, old j t ht⟩
  · intro j t ht timer live queued
    rw [mem_spawn_queues]
    rcases cases j t ht with ⟨rfl, -⟩ | ht
    · exact .inl rfl
    · exact .inr (hw.listed j t ht timer live queued)
  · intro j t d' a ht clock live
    rcases cases j t ht with ⟨-, rfl⟩ | ht
    · rw [hk, Option.some.injEq, Prod.mk.injEq] at clock
      obtain ⟨rfl, rfl⟩ := clock
      exact .fresh (by rw [spawn_now]; exact hd)
    · exact (hw.stage j t d' a ht clock live).move (spawn_now k w) fun h => by rw [spawn_timers]; exact h
  · intro d' j t htm ht timer
    rw [spawn_timers] at htm
    obtain ⟨t0, ht0⟩ := hw.named d' j htm
    rw [old j t0 ht0, Option.some.injEq] at ht
    subst ht
    exact hw.ringing d' j t0 htm ht0 timer
  · intro n s j hs waiter
    rw [spawn_slots] at hs
    exact untimed j (hw.slots n s j hs waiter)
  · intro c j hj
    rw [spawn_idleWaiters] at hj
    exact untimed j (hw.idlers c j hj)

section waking

/-- A task as waking leaves it: a waiting task is queued, and a running one is queued
again when it stops. -/
def Task.woken (t : Task) : Task :=
  match t.run with
  | .idle => { t with run := .queued }
  | .running => { t with wokenWhileRunning := true }
  | _ => t

@[simp] theorem Task.woken_kind (t : Task) : t.woken.kind = t.kind := by
  unfold Task.woken; split <;> rfl

@[simp] theorem Task.woken_aborted (t : Task) : t.woken.aborted = t.aborted := by
  unfold Task.woken; split <;> rfl

theorem Task.woken_woken (t : Task) : t.woken.woken = t.woken := by
  unfold Task.woken
  cases h : t.run <;> simp [h]

theorem Task.woken_of_idle {t : Task} (h : t.run = .idle) : t.woken = { t with run := .queued } := by
  simp [Task.woken, h]

theorem Task.woken_of_queued {t : Task} (h : t.run = .queued) : t.woken = t := by
  simp [Task.woken, h]

variable (w : World)

theorem wake_frame (k : Waker) : ∃ (tasks : Array Task) (lq rq : List Nat) (woken : Bool),
    ((wake k).run w).2 = { w with tasks, localQueue := lq, remoteQueue := rq, mainWoken := woken } := by
  cases k with
  | main => exact ⟨_, _, _, _, rfl⟩
  | task j =>
    simp only [wake, run_bind, task?_run]
    split
    · split
      · simp only [modifyTask, enqueue, run_bind, run_modify]
        split <;> exact ⟨_, _, _, _, rfl⟩
      · exact ⟨_, _, _, _, rfl⟩
      · exact ⟨_, _, _, _, rfl⟩
    · exact ⟨_, _, _, _, rfl⟩

@[simp] theorem wake_now (k : Waker) : ((wake k).run w).2.now = w.now := by
  obtain ⟨_, _, _, _, woken⟩ := wake_frame w k
  rw [woken]

@[simp] theorem wake_timers (k : Waker) : ((wake k).run w).2.timers = w.timers := by
  obtain ⟨_, _, _, _, woken⟩ := wake_frame w k
  rw [woken]

@[simp] theorem wake_slots (k : Waker) : ((wake k).run w).2.slots = w.slots := by
  obtain ⟨_, _, _, _, woken⟩ := wake_frame w k
  rw [woken]

@[simp] theorem wake_idleWaiters (k : Waker) : ((wake k).run w).2.idleWaiters = w.idleWaiters := by
  obtain ⟨_, _, _, _, woken⟩ := wake_frame w k
  rw [woken]

theorem wake_task_tasks (j i : Nat) : ((wake (.task j)).run w).2.tasks[i]? =
    if j = i then (w.tasks[i]?).map Task.woken else w.tasks[i]? := by
  simp only [wake, run_bind, task?_run]
  split
  · next t ht =>
    split
    · next idle =>
      simp only [modifyTask, run_bind, run_modify, enqueue_tasks, Array.getElem?_modify]
      split
      · next same => subst same; simp [ht, Task.woken_of_idle idle]
      · rfl
    · next running =>
      simp only [modifyTask, run_modify, Array.getElem?_modify]
      split
      · next same => subst same; simp [ht, Task.woken, running]
      · rfl
    · next other _ =>
      show w.tasks[i]? = _
      split
      · next same =>
        subst same
        rw [ht]
        cases hr : t.run <;> simp_all [Task.woken]
      · rfl
  · next none =>
    show w.tasks[i]? = _
    split
    · next same => subst same; simp [none]
    · rfl

theorem wake_tasks_of_ne (k : Waker) (i : Nat) (h : k ≠ .task i) :
    ((wake k).run w).2.tasks[i]? = w.tasks[i]? := by
  cases k with
  | main => rfl
  | task j =>
    rw [wake_task_tasks]
    have : j ≠ i := fun same => h (by rw [same])
    simp [this]

theorem wake_queues (k : Waker) :
    (∀ i, i ∈ w.localQueue ∨ i ∈ w.remoteQueue →
      i ∈ ((wake k).run w).2.localQueue ∨ i ∈ ((wake k).run w).2.remoteQueue) ∧
    (∀ j t, k = .task j → w.tasks[j]? = some t → t.run = .idle →
      j ∈ ((wake k).run w).2.localQueue ∨ j ∈ ((wake k).run w).2.remoteQueue) := by
  cases k with
  | main => exact ⟨fun i h => h, fun j t h => by cases h⟩
  | task j =>
    simp only [wake, run_bind, task?_run]
    split
    · next t ht =>
      split
      · simp only [modifyTask, run_bind, run_modify, mem_enqueue_queues]
        refine ⟨fun i h => .inr h, fun j' t' same _ _ => .inl ?_⟩
        cases same
        rfl
      · next running =>
        simp only [modifyTask, run_modify]
        refine ⟨fun i h => h, fun j' t' same h idle => ?_⟩
        cases same
        rw [ht, Option.some.injEq] at h
        subst h
        simp [running] at idle
      · next other _ =>
        refine ⟨fun i h => h, fun j' t' same h idle => ?_⟩
        cases same
        rw [ht, Option.some.injEq] at h
        subst h
        exact absurd idle other
    · next none =>
      refine ⟨fun i h => h, fun j' t' same h _ => ?_⟩
      cases same
      simp [none] at h

theorem forIn_wake_run (l : List Timer) :
    let w' := ((forIn l PUnit.unit fun (t : Timer) _ => do
      wake t.waker
      pure (ForInStep.yield PUnit.unit)).run w).2
    w'.now = w.now ∧ w'.timers = w.timers ∧ w'.slots = w.slots ∧ w'.idleWaiters = w.idleWaiters ∧
    w'.engine = w.engine ∧ (∀ i, w'.tasks[i]? =
      if l.any (·.waker == .task i) then (w.tasks[i]?).map Task.woken else w.tasks[i]?) ∧
    (∀ i, i ∈ w.localQueue ∨ i ∈ w.remoteQueue → i ∈ w'.localQueue ∨ i ∈ w'.remoteQueue) ∧
    (∀ i t, l.any (·.waker == .task i) = true → w.tasks[i]? = some t → t.run = .idle →
      i ∈ w'.localQueue ∨ i ∈ w'.remoteQueue) := by
  induction l generalizing w with
  | nil => exact ⟨rfl, rfl, rfl, rfl, rfl, fun i => by simp; rfl, fun i h => h, fun i t h => by simp at h⟩
  | cons tm rest ih =>
    simp only [List.forIn_cons, run_bind, run_pure]
    obtain ⟨now, timers, slots, idlers, engine, tasks, kept, woke⟩ := ih ((wake tm.waker).run w).2
    obtain ⟨kept1, woke1⟩ := wake_queues w tm.waker
    have first : ∀ i, ((wake tm.waker).run w).2.tasks[i]? =
        if tm.waker = .task i then (w.tasks[i]?).map Task.woken else w.tasks[i]? := by
      intro i
      by_cases named : tm.waker = .task i
      · rw [named, wake_task_tasks]
        simp
      · rw [wake_tasks_of_ne w _ i named]
        simp [named]
    refine ⟨by rw [now, wake_now], by rw [timers, wake_timers], by rw [slots, wake_slots],
      by rw [idlers, wake_idleWaiters], by rw [engine, wake_engine], fun i => ?_,
      fun i h => kept i (kept1 i h), fun i t h ht idle => ?_⟩
    · rw [tasks, first]
      by_cases named : tm.waker = .task i <;> by_cases later : rest.any (·.waker == .task i) = true <;>
        simp [named, later, Option.map_map, Function.comp_def, Task.woken_woken]
    · by_cases named : tm.waker = .task i
      · exact kept i (woke1 i t named ht idle)
      · have later : rest.any (·.waker == .task i) = true := by simpa [named] using h
        refine woke i t later ?_ idle
        rw [first]
        simp [named, ht]

end waking

section scheduler

variable {w : World}

theorem fireDue_run (w : World) :
    (fireDue.run w).2.now = w.now ∧
    (fireDue.run w).2.timers = w.timers.filter (·.deadline > w.now) ∧
    (fireDue.run w).2.slots = w.slots ∧ (fireDue.run w).2.idleWaiters = w.idleWaiters ∧
    (fireDue.run w).2.engine = w.engine ∧
    (∀ i, (fireDue.run w).2.tasks[i]? =
      if (∃ tm ∈ w.timers, tm.deadline ≤ w.now ∧ tm.waker = .task i) then (w.tasks[i]?).map Task.woken
      else w.tasks[i]?) ∧
    (∀ i, i ∈ w.localQueue ∨ i ∈ w.remoteQueue →
      i ∈ (fireDue.run w).2.localQueue ∨ i ∈ (fireDue.run w).2.remoteQueue) ∧
    (∀ i t, (∃ tm ∈ w.timers, tm.deadline ≤ w.now ∧ tm.waker = .task i) → w.tasks[i]? = some t →
      t.run = .idle → i ∈ (fireDue.run w).2.localQueue ∨ i ∈ (fireDue.run w).2.remoteQueue) := by
  simp only [fireDue, run_bind, run_get, run_set, run_pure]
  obtain ⟨now, timers, slots, idlers, engine, tasks, kept, woke⟩ := forIn_wake_run
    { w with timers := w.timers.filter (·.deadline > w.now) }
    ((w.timers.filter (·.deadline ≤ w.now)).mergeSort fun a b => a.deadline ≤ b.deadline)
  -- a task is named by a due timer exactly when some timer due now wakes it
  have due : ∀ i, ((w.timers.filter (·.deadline ≤ w.now)).mergeSort fun a b => a.deadline ≤ b.deadline).any
      (·.waker == .task i) = true ↔ ∃ tm ∈ w.timers, tm.deadline ≤ w.now ∧ tm.waker = .task i := by
    intro i
    simp only [List.any_eq_true, List.mem_mergeSort, List.mem_filter, decide_eq_true_eq, beq_iff_eq]
    constructor
    · rintro ⟨tm, ⟨htm, hd⟩, hk⟩
      exact ⟨tm, htm, hd, hk⟩
    · rintro ⟨tm, htm, hd, hk⟩
      exact ⟨tm, ⟨htm, hd⟩, hk⟩
  refine ⟨now, timers, slots, idlers, engine, fun i => (tasks i).trans ?_, kept,
    fun i t h ht idle => woke i t ((due i).mpr h) ht idle⟩
  by_cases named : ∃ tm ∈ w.timers, tm.deadline ≤ w.now ∧ tm.waker = .task i
  · simp only [(due i).mpr named, if_pos named]
    rfl
  · have : ¬ (_ = true) := fun h => named ((due i).mp h)
    simp only [this, if_neg named]
    rfl

theorem fireDue_task {i : Nat} {t' : Task} (h : (fireDue.run w).2.tasks[i]? = some t') :
    ((∃ tm ∈ w.timers, tm.deadline ≤ w.now ∧ tm.waker = .task i) ∧
        ∃ t, w.tasks[i]? = some t ∧ t' = t.woken) ∨
      (¬ (∃ tm ∈ w.timers, tm.deadline ≤ w.now ∧ tm.waker = .task i) ∧ w.tasks[i]? = some t') := by
  rw [(fireDue_run w).2.2.2.2.2.1 i] at h
  split at h
  · next named =>
    obtain ⟨t, ht, rfl⟩ := Option.map_eq_some_iff.mp h
    exact .inl ⟨named, t, ht, rfl⟩
  · next named => exact .inr ⟨named, h⟩

theorem Task.woken_live (t : Task) : t.woken.Live ↔ t.Live := by
  unfold Task.woken Task.Live
  cases h : t.run <;> simp [h]

theorem fireDue_kept {i : Nat} {t : Task} (h : w.tasks[i]? = some t) :
    ∃ t', (fireDue.run w).2.tasks[i]? = some t' ∧ t'.kind = t.kind := by
  rw [(fireDue_run w).2.2.2.2.2.1 i, h]
  split
  · exact ⟨t.woken, rfl, Task.woken_kind t⟩
  · exact ⟨t, rfl, rfl⟩

theorem World.Timed.fire (hw : w.Timed) : (fireDue.run w).2.Timed := by
  obtain ⟨now, timers, slots, idlers, -, -, kept, woke⟩ := fireDue_run w
  have waited : ∀ i t, w.tasks[i]? = some t → t.kind.clock.isSome →
      (∃ tm ∈ w.timers, tm.deadline ≤ w.now ∧ tm.waker = .task i) →
      t.Live ∧ t.run = .idle ∧ t.kind.clock = some (w.now, true) := by
    rintro i t ht timer ⟨⟨d, k⟩, htm, hd, hk⟩
    simp only at hd hk
    subst hk
    obtain ⟨live, idle, clock⟩ := hw.ringing d i t htm ht timer
    have : d = w.now := Nat.le_antisymm hd (hw.ahead _ htm)
    exact ⟨live, idle, this ▸ clock⟩
  have untimed : ∀ i, w.Untimed i → (fireDue.run w).2.Untimed i := by
    rintro i ⟨t, ht, clock⟩
    obtain ⟨t', ht', kind⟩ := fireDue_kept ht
    exact ⟨t', ht', kind ▸ clock⟩
  refine ⟨?_, ?_, ?_, ?_, ?_, ?_, ?_⟩
  · intro tm htm
    rw [timers, List.mem_filter] at htm
    rw [now]
    exact Nat.le_of_lt (by simpa using htm.2)
  · intro d i htm
    rw [timers, List.mem_filter] at htm
    obtain ⟨t, ht⟩ := hw.named d i htm.1
    obtain ⟨t', ht', -⟩ := fireDue_kept ht
    exact ⟨t', ht'⟩
  · intro i t' ht' timer live queued
    rcases fireDue_task ht' with ⟨named, t, ht, rfl⟩ | ⟨-, ht⟩
    · -- woken from waiting, it was queued just now
      obtain ⟨-, idle, -⟩ := waited i t ht (by simpa using timer) named
      exact woke i t named ht idle
    · exact kept i (hw.listed i t' ht timer live queued)
  · intro i t' d a ht' clock live
    rcases fireDue_task ht' with ⟨named, t, ht, rfl⟩ | ⟨named, ht⟩
    · obtain ⟨-, idle, clock'⟩ := waited i t ht (by rw [← Task.woken_kind t, clock]; rfl) named
      rw [Task.woken_kind, clock', Option.some.injEq, Prod.mk.injEq] at clock
      obtain ⟨rfl, rfl⟩ := clock
      rw [Task.woken_of_idle idle]
      exact .due now
    · refine (hw.stage i t' d a ht clock live).move now fun set => ?_
      rw [timers, List.mem_filter]
      refine ⟨set, ?_⟩
      have : ¬ d ≤ w.now := fun hd => named ⟨_, set, hd, rfl⟩
      simpa using this
  · intro d i t' htm ht' timer
    rw [timers, List.mem_filter] at htm
    have later : w.now < d := by simpa using htm.2
    rcases fireDue_task ht' with ⟨named, t, ht, rfl⟩ | ⟨-, ht⟩
    · -- every timer of a timer task has its one deadline, so none of them was due
      obtain ⟨-, -, clock⟩ := hw.ringing d i t htm.1 ht (by simpa using timer)
      obtain ⟨-, -, clock'⟩ := waited i t ht (by simpa using timer) named
      rw [clock', Option.some.injEq, Prod.mk.injEq] at clock
      omega
    · exact hw.ringing d i t' htm.1 ht timer
  · intro n s i hs waiter
    rw [slots] at hs
    exact untimed i (hw.slots n s i hs waiter)
  · intro c i hi
    rw [idlers] at hi
    exact untimed i (hw.idlers c i hi)

theorem World.Timed.park (hw : w.Timed) (hl : w.localQueue = []) (hr : w.remoteQueue = []) :
    (parkUntilNext.run w).2.Timed := by
  simp only [parkUntilNext, run_bind, run_get]
  split
  · exact hw
  · next d hd =>
    -- no timer task is queued, so each live one waits on its timer
    have waits : ∀ (i : Nat) (t : Task), w.tasks[i]? = some t → t.kind.clock.isSome → t.Live →
        t.run ≠ .queued := by
      intro i t ht timer live queued
      have := hw.listed i t ht timer live queued
      simp [hl, hr] at this
    have later : ∀ tm ∈ w.timers, d ≤ tm.deadline := fun tm htm =>
      (List.min?_eq_some_iff.mp hd).2 _ (List.mem_map_of_mem htm)
    have moved : ({ w with now := d } : World).Timed := by
      refine ⟨later, hw.named, fun i t ht timer live queued => absurd queued (waits i t ht timer live),
        fun i t d' a ht clock live => ?_, hw.ringing, hw.slots, hw.idlers⟩
      cases hs : t.run with
      | queued => exact absurd hs (waits i t ht (by simp [clock]) live)
      | running => simp [Task.Live, hs] at live
      | done => simp [Task.Live, hs] at live
      | idle =>
        have stage := hw.stage i t d' a ht clock live
        rw [hs] at stage
        cases stage with
        | waiting set => exact .waiting set
    by_cases ahead : d > w.now
    · simp only [ahead, ↓reduceIte, run_bind, run_set, run_pure]
      exact moved.fire
    · simp only [ahead, ↓reduceIte, run_bind, run_pure]
      exact hw.fire

theorem parkUntilNext_now (w : World) :
    (parkUntilNext.run w).2.now = w.now ∨
      (w.now < (parkUntilNext.run w).2.now ∧ ∀ tm ∈ w.timers, (parkUntilNext.run w).2.now ≤ tm.deadline) := by
  simp only [parkUntilNext, run_bind, run_get]
  split
  · exact .inl rfl
  · next d hd =>
    by_cases ahead : d > w.now
    · simp only [ahead, ↓reduceIte, run_bind, run_set, run_pure]
      refine .inr ⟨?_, fun tm htm => ?_⟩
      · rw [(fireDue_run _).1]
        exact ahead
      · rw [(fireDue_run _).1]
        exact (List.min?_eq_some_iff.mp hd).2 _ (List.mem_map_of_mem htm)
    · simp only [ahead, ↓reduceIte, run_bind, run_pure]
      exact .inl (fireDue_run w).1

/-- What a timer task does when its deadline comes: an attempt timer reports its attempt
as run out, a back-off lets its channel send again. -/
def TaskKind.expiry : TaskKind → Sim Unit
  | .attemptTimer c h g _ _ => Engine.attemptTimedOut c h g
  | .backoff c _ _ => Engine.backoffElapsed c
  | _ => pure ()

def TaskKind.arm : TaskKind → TaskKind
  | .attemptTimer c h g d _ => .attemptTimer c h g d true
  | .backoff c d _ => .backoff c d true
  | k => k

theorem TaskKind.arm_clock {k : TaskKind} {d : Nat} {a : Bool} (hk : k.clock = some (d, a)) :
    k.arm.clock = some (d, true) := by
  cases k <;> simp_all [TaskKind.clock, TaskKind.arm]

theorem pollTask_timer (id : Nat) {k : TaskKind} {d : Nat} {a : Bool} (hk : k.clock = some (d, a))
    (w : World) (ha : a = true → d ≤ w.now) :
    (pollTask id k).run w = if d ≤ w.now then ((k.arm, true), (k.expiry.run w).2)
      else ((k.arm, false), { w with timers := w.timers ++ [⟨d, .task id⟩] }) := by
  cases k with
  | attemptTimer c h g d' a' =>
    simp only [TaskKind.clock, Option.some.injEq, Prod.mk.injEq] at hk
    obtain ⟨h1, h2⟩ := hk
    subst d' a'
    by_cases due : d ≤ w.now
    · simp only [pollTask, setTimer, run_bind, now_run, due, ↓reduceIte, run_pure, Bool.or_true,
        TaskKind.arm, TaskKind.expiry]
    · have : a = false := by cases a <;> simp_all
      subst this
      simp only [pollTask, setTimer, run_bind, now_run, due, ↓reduceIte, run_modify,
        run_pure, Bool.or_false, Bool.false_eq_true, TaskKind.arm]
  | backoff c d' a' =>
    simp only [TaskKind.clock, Option.some.injEq, Prod.mk.injEq] at hk
    obtain ⟨h1, h2⟩ := hk
    subst d' a'
    by_cases due : d ≤ w.now
    · simp only [pollTask, setTimer, run_bind, now_run, due, ↓reduceIte, run_pure, Bool.or_true,
        TaskKind.arm, TaskKind.expiry]
    · have : a = false := by cases a <;> simp_all
      subst this
      simp only [pollTask, setTimer, run_bind, now_run, due, ↓reduceIte, run_modify,
        run_pure, Bool.or_false, Bool.false_eq_true, TaskKind.arm]
  | delivery => simp [TaskKind.clock] at hk
  | call => simp [TaskKind.clock] at hk
  | waitIdle => simp [TaskKind.clock] at hk
  | worker => simp [TaskKind.clock] at hk

def World.starting (w : World) (id : Nat) : World :=
  { w with tasks := w.tasks.modify id fun t => { t with run := .running, wokenWhileRunning := false } }

section turn

variable {w : World} {id : Nat} {t : Task} {d : Nat} {a : Bool}

@[simp] theorem World.starting_now : (w.starting id).now = w.now := rfl

@[simp] theorem World.starting_engine : (w.starting id).engine = w.engine := rfl

theorem World.starting_tasks (j : Nat) : (w.starting id).tasks[j]? =
    if id = j then (w.tasks[j]?).map fun t => { t with run := .running, wokenWhileRunning := false }
    else w.tasks[j]? :=
  Array.getElem?_modify

theorem run_wakeMain_if (p : Prop) [Decidable p] (w : World) :
    ((if p then wake .main else pure ()).run w).2 = { w with mainWoken := w.mainWoken || decide p } := by
  by_cases h : p <;> simp only [h, ↓reduceIte, decide_true, decide_false, Bool.or_false, Bool.or_true] <;> rfl

theorem runTask_fires (ht : w.tasks[id]? = some t) (hq : t.run = .queued) (hl : t.aborted = false)
    (hk : t.kind.clock = some (d, a)) (due : d ≤ w.now) :
    let w1 := (t.kind.expiry.run (w.starting id)).2
    let w' := ((runTask id).run w).2
    w'.engine = w1.engine ∧ w'.now = w1.now ∧ w'.localQueue = w1.localQueue ∧
    w'.remoteQueue = w1.remoteQueue ∧ w'.slots = w1.slots ∧ w'.idleWaiters = w1.idleWaiters ∧
    w'.timers = w1.timers.filter (·.waker != .task id) ∧
    ∀ j, w'.tasks[j]? = if id = j then
      (w1.tasks[j]?).map fun u => { u with kind := t.kind.arm, run := .done } else w1.tasks[j]? := by
  simp only [runTask, run_bind, task?_run, ht, hq, bne_self_eq_false, Bool.false_eq_true, ↓reduceIte,
    hl, modifyTask, run_modify]
  rw [pollTask_timer id hk _ ?_]
  · simp only [World.starting] at *
    simp only [due, ↓reduceIte, dropTimers, run_modify, run_bind]
    rw [run_wakeMain_if]
    exact ⟨rfl, rfl, rfl, rfl, rfl, rfl, rfl, fun j => Array.getElem?_modify⟩
  · exact fun _ => due

theorem runTask_waits (ht : w.tasks[id]? = some t) (hq : t.run = .queued) (hl : t.aborted = false)
    (hk : t.kind.clock = some (d, a)) (ha : a = true → d ≤ w.now) (early : w.now < d) :
    let w' := ((runTask id).run w).2
    w'.engine = w.engine ∧ w'.now = w.now ∧ w'.localQueue = w.localQueue ∧
    w'.remoteQueue = w.remoteQueue ∧ w'.slots = w.slots ∧ w'.idleWaiters = w.idleWaiters ∧
    w'.timers = w.timers ++ [⟨d, .task id⟩] ∧
    ∀ j, w'.tasks[j]? = if id = j then
      some { t with kind := t.kind.arm, run := .idle, wokenWhileRunning := false } else w.tasks[j]? := by
  have notDue : ¬ d ≤ w.now := by omega
  have again : (((w.tasks.modify id fun t => { t with run := .running, wokenWhileRunning := false })[id]?).map
      (·.wokenWhileRunning)).getD false = false := by
    simp [Array.getElem?_modify, ht]
  simp only [runTask, run_bind, task?_run, ht, hq, bne_self_eq_false, Bool.false_eq_true, ↓reduceIte,
    hl, modifyTask, run_modify]
  rw [pollTask_timer id hk _ ?_]
  · simp only [notDue, ↓reduceIte, run_bind, task?_run, run_modify, again, Bool.false_eq_true,
      run_pure]
    refine ⟨trivial, trivial, trivial, trivial, trivial, trivial, trivial, fun j => ?_⟩
    by_cases same : id = j
    · subst same
      simp [Array.getElem?_modify, ht, hl]
    · simp [Array.getElem?_modify, same]
  · exact ha

theorem runTask_unqueued (h : ∀ t, w.tasks[id]? = some t → t.run ≠ .queued) :
    ((runTask id).run w).2 = w := by
  simp only [runTask, run_bind, task?_run]
  cases ht : w.tasks[id]? with
  | none => rfl
  | some t =>
    have hq : (t.run != .queued) = true := by simpa using h t ht
    simp only [hq, ↓reduceIte, run_pure]

theorem runTask_aborted (ht : w.tasks[id]? = some t) (hq : t.run = .queued) (hl : t.aborted = true) :
    ((runTask id).run w).2 = { w with tasks := w.tasks.modify id fun t => { t with run := .done } } := by
  simp only [runTask, run_bind, task?_run, ht, hq, bne_self_eq_false, Bool.false_eq_true, ↓reduceIte,
    hl, modifyTask, run_modify]

inductive World.Pops (w : World) (id : Nat) : World → Prop where
  | ofLocal {rest : List Nat} : w.localQueue = id :: rest → w.Pops id { w with localQueue := rest }
  | ofRemote {rest : List Nat} : w.remoteQueue = id :: rest → w.Pops id { w with remoteQueue := rest }

section pops

variable {w1 : World} (pop : w.Pops id w1)
include pop

theorem World.Pops.same : w1.engine = w.engine ∧ w1.now = w.now ∧ w1.tasks = w.tasks ∧
    w1.timers = w.timers ∧ w1.slots = w.slots ∧ w1.idleWaiters = w.idleWaiters := by
  cases pop <;> exact ⟨rfl, rfl, rfl, rfl, rfl, rfl⟩

theorem World.Pops.queues (j : Nat) (hj : j ≠ id) (h : j ∈ w.localQueue ∨ j ∈ w.remoteQueue) :
    j ∈ w1.localQueue ∨ j ∈ w1.remoteQueue := by
  cases pop with
  | ofLocal hl => rw [hl] at h; simpa [hj] using h
  | ofRemote hr => rw [hr] at h; simpa [hj] using h

end pops

theorem World.Timed.at_task (hw : w.Timed) (ht : w.tasks[id]? = some t) (timer : t.kind.clock.isSome)
    {w' : World} (now : w'.now = w.now) (tasks : ∀ j, j ≠ id → w'.tasks[j]? = w.tasks[j]?)
    (timers : ∀ tm ∈ w'.timers, (tm ∈ w.timers ∧ tm.waker ≠ .task id) ∨ tm.waker = .task id)
    (kept : ∀ tm ∈ w.timers, tm.waker ≠ .task id → tm ∈ w'.timers)
    (queues : ∀ j, j ≠ id → j ∈ w.localQueue ∨ j ∈ w.remoteQueue → j ∈ w'.localQueue ∨ j ∈ w'.remoteQueue)
    (slots : w'.slots = w.slots) (idlers : w'.idleWaiters = w.idleWaiters)
    (self : ∃ t' : Task, w'.tasks[id]? = some t' ∧ t'.kind.clock.isSome ∧
      (t'.Live → t'.run = .queued → id ∈ w'.localQueue ∨ id ∈ w'.remoteQueue) ∧
      (∀ d a, t'.kind.clock = some (d, a) → t'.Live → TimerStage w' id d a t'.run) ∧
      (∀ d, ⟨d, .task id⟩ ∈ w'.timers → w'.now ≤ d ∧ t'.Live ∧ t'.run = .idle ∧ t'.kind.clock = some (d, true))) :
    w'.Timed := by
  obtain ⟨t', ht', timer', listed, stage, ringing⟩ := self
  -- the task is no other task's waker: slots and idle channels name tasks that are no timers
  have untimed : ∀ j, w.Untimed j → w'.Untimed j := by
    rintro j ⟨u, hu, clock⟩
    have hj : j ≠ id := by
      rintro rfl
      rw [ht, Option.some.injEq] at hu
      subst hu
      simp [clock] at timer
    exact ⟨u, by rw [tasks j hj]; exact hu, clock⟩
  refine ⟨fun ⟨d, k⟩ htm => ?_, fun d j htm => ?_, fun j u hu timer live queued => ?_,
    fun j u d a hu clock live => ?_, fun d j u htm hu timer => ?_,
    fun n s j hs waiter => untimed j (hw.slots n s j (slots ▸ hs) waiter),
    fun c j hj => untimed j (hw.idlers c j (idlers ▸ hj))⟩
  · rcases timers _ htm with ⟨old, -⟩ | mine
    · rw [now]; exact hw.ahead _ old
    · simp only at mine
      subst mine
      exact (ringing d htm).1
  · by_cases hj : j = id
    · subst hj; exact ⟨t', ht'⟩
    · rcases timers _ htm with ⟨old, -⟩ | mine
      · obtain ⟨u, hu⟩ := hw.named d j old
        exact ⟨u, by rw [tasks j hj]; exact hu⟩
      · simp at mine; exact absurd mine hj
  · by_cases hj : j = id
    · subst hj
      rw [ht', Option.some.injEq] at hu
      subst hu
      exact listed live queued
    · rw [tasks j hj] at hu
      exact queues j hj (hw.listed j u hu timer live queued)
  · by_cases hj : j = id
    · subst hj
      rw [ht', Option.some.injEq] at hu
      subst hu
      exact stage d a clock live
    · rw [tasks j hj] at hu
      exact (hw.stage j u d a hu clock live).move now fun set => kept _ set (by simpa using hj)
  · by_cases hj : j = id
    · subst hj
      rw [ht', Option.some.injEq] at hu
      subst hu
      exact (ringing d htm).2
    · rw [tasks j hj] at hu
      rcases timers _ htm with ⟨old, -⟩ | mine
      · exact hw.ringing d j u old hu timer
      · simp at mine; exact absurd mine hj

end turn

end scheduler

end primitives

end FrameRpc.Sim

namespace FrameRpc.Engine

open Sim

section operations

theorem quiet_chan (c : Channel) : Quiet (chan c) := quiet_of_run fun _ => rfl

theorem quiet_config : Quiet config := quiet_of_run fun _ => rfl

theorem quiet_putChan (c : Channel) (s : ChannelState) : Quiet (putChan c s) := fun _ hw =>
  hw.calm_of_same rfl rfl rfl rfl rfl rfl rfl

theorem quiet_stopTimer (t : Option Nat) : Quiet (stopTimer t) := by
  cases t with
  | none => exact Quiet.pure _
  | some id => exact quiet_abort id

theorem quiet_notifyIfIdle (c : Channel) : Quiet (notifyIfIdle c) := fun w hw => by
  simp only [notifyIfIdle, run_bind, chan_run]
  by_cases idle : (w.engine.channels.get c).isIdle = true
  · simp only [idle, ↓reduceIte, run_bind, run_get, run_modify, run_pure]
    have cleared : Calm w { w with idleWaiters := w.idleWaiters.set c [] } := by
      refine hw.calm_of_frame rfl (fun tm h => h) (fun d id t' _ h _ => h) (fun d id t' h _ _ _ => h)
        (fun id t' h => .inl ⟨t', h, rfl, fun _ _ => rfl⟩) (fun id t h => ⟨t, h⟩) (fun id h => h)
        (fun n s' id h _ => ⟨s', h, rfl⟩) (fun d id h => ?_)
      by_cases same : d = c
      · subst same
        simp at h
      · rwa [PerChannel.get_set_other _ _ _ _ same] at h
    exact cleared.trans (calm_forIn_wake cleared.timed _ fun id h => cleared.untimed (hw.idlers c id h))
  · simp only [idle, Bool.false_eq_true, ↓reduceIte, run_pure]
    exact .refl hw

theorem quiet_release (c : Channel) : Quiet (release c) :=
  Quiet.bind (quiet_chan c) fun _ => Quiet.bind (quiet_putChan c _) fun _ => quiet_notifyIfIdle c

theorem quiet_complete (c : Channel) (done : Done) : Quiet (complete c done) :=
  completeWith_of (P := Quiet) Quiet.pure Quiet.bind quiet_deliver quiet_abandon (quiet_release c) _ _

theorem quiet_settle (c : Channel) (s : ChannelState) (done : Done) : Quiet (settle c s done) :=
  Quiet.bind (quiet_putChan c s) fun _ => Quiet.bind (quiet_notifyIfIdle c) fun _ => quiet_complete c done

theorem quiet_finish (s : ChannelState) (idx : Nat) (r : Outcome) (done : Done) :
    Quiet (finish s idx r done) := by
  unfold finish
  split
  · exact Quiet.pure _
  · refine Quiet.bind (quiet_stopTimer _) fun _ => ?_
    dsimp only
    split <;> exact Quiet.pure _

theorem quiet_reap (s : ChannelState) (idx : Nat) : Quiet (reap s idx) := by
  unfold reap
  split
  · exact Quiet.pure _
  · refine Quiet.bind (quiet_stopTimer _) fun _ => ?_
    exact Quiet.bind (quiet_emit _ _ _ _) fun _ => Quiet.pure _

theorem quiet_transmit (c : Channel) (cmd : Command) (seq : UInt16) : Quiet (transmit c cmd seq) := by
  refine Quiet.bind quiet_config fun cfg => ?_
  split
  · exact Quiet.bind (quiet_emit _ _ _ _) fun _ => Quiet.pure _
  · split
    · exact Quiet.bind (quiet_emit _ _ _ _) fun _ => quiet_linkSend _
    · exact quiet_linkSend _

theorem quiet_drainAll (c : Channel) (fuel : Nat) (s : ChannelState) (done : Done) :
    Quiet (drainAll c fuel s done) := by
  induction fuel generalizing s done with
  | zero => exact Quiet.pure _
  | succ fuel ih =>
    unfold drainAll
    split
    · exact Quiet.pure _
    · split
      · exact Quiet.bind (quiet_reap _ _) fun s' => ih s' done
      · exact Quiet.bind (quiet_finish _ _ _ _) fun p => ih p.1 p.2

theorem quiet_reportDrop (c : Option Channel) (seq : Option UInt16) (reason : String) :
    Quiet (reportDrop c seq reason) := fun w hw => by
  simp only [reportDrop, run_bind, run_get, run_set]
  have counted : Calm w { w with engine := { w.engine with drops := ( w.engine.drops.admit w.now).1 } } :=
    hw.calm_of_same rfl rfl rfl rfl rfl rfl rfl
  split
  · exact counted.trans (quiet_emitWith _ _ _ _ _ _ counted.timed)
  · exact counted

theorem quiet_enable (c : Channel) : Quiet (enable c) := by
  refine Quiet.bind (quiet_chan c) fun s => ?_
  split
  · exact Quiet.pure _
  refine Quiet.bind (quiet_of_run fun w => (linkReady_run w).symm ▸ rfl) fun ready => ?_
  split
  · exact Quiet.bind (quiet_emit _ _ _ _) fun _ => Quiet.pure _
  · refine Quiet.bind (quiet_putChan _ _) fun _ => ?_
    exact Quiet.bind (quiet_emit _ _ _ _) fun _ => Quiet.pure _

theorem quiet_disable (c : Channel) : Quiet (disable c) := by
  refine Quiet.bind (quiet_chan c) fun s => ?_
  split
  · refine Quiet.bind (quiet_stopTimer _) fun _ => Quiet.bind (quiet_drainAll _ _ _ _) fun p => ?_
    exact Quiet.bind (quiet_emit _ _ _ _) fun _ => quiet_settle _ _ _
  · exact quiet_settle _ _ _

theorem quiet_shutdown : Quiet shutdown := by
  refine Quiet.bind (quiet_forIn _ _ fun c _ => ?_) fun _ => quiet_emit _ _ _ _
  exact Quiet.bind (quiet_disable c) fun _ => Quiet.pure _

theorem quiet_cancel (c : Channel) (handle : Nat) : Quiet (cancel c handle) := by
  refine Quiet.bind (quiet_chan c) fun s => ?_
  split
  · refine Quiet.bind (quiet_emit _ _ _ _) fun _ => ?_
    exact Quiet.bind (quiet_settle _ _ _) fun _ => Quiet.pure _
  · split
    · refine Quiet.bind (quiet_finish _ _ _ _) fun p => ?_
      refine Quiet.bind (quiet_emit _ _ _ _) fun _ => ?_
      exact Quiet.bind (quiet_settle _ _ _) fun _ => Quiet.pure _
    · refine Quiet.bind (quiet_finish _ _ _ _) fun p => ?_
      refine Quiet.bind (quiet_emit _ _ _ _) fun _ => ?_
      exact Quiet.bind (quiet_settle _ _ _) fun _ => Quiet.pure _
    · dsimp only
      refine Quiet.bind (quiet_emit _ _ _ _) fun _ => ?_
      exact Quiet.bind (quiet_settle _ _ _) fun _ => Quiet.pure _
    · refine Quiet.bind (quiet_emit _ _ _ _) fun _ => ?_
      exact Quiet.bind (quiet_settle _ _ _) fun _ => Quiet.pure _

theorem steady_now_spawn {β : Type} {k : Nat → TaskKind}
    (hk : ∀ t, ∃ d, (k t).clock = some (d, false) ∧ t ≤ d) {f : Nat → Sim β}
    (hf : ∀ id, Steady (f id)) : Steady (now >>= fun t => spawn (k t) >>= f) := fun w hw => by
  simp only [run_bind, now_run]
  obtain ⟨d, clock, later⟩ := hk w.now
  obtain ⟨timed, same, kept⟩ := hf _ _ (hw.spawn_timer clock later)
  have pushed : w.Keeps ((spawn (k w.now)).run w).2 := fun id t ht =>
    ⟨t, by rw [spawn_tasks]; exact getElem?_push_of_some ht, rfl⟩
  exact ⟨timed, same.trans (spawn_now _ _), pushed.trans kept⟩

theorem steady_sendAttempt (c : Channel) (s : ChannelState) (idx : Nat) (done : Done) :
    Steady (sendAttempt c s idx done) := by
  refine Steady.bind quiet_config.steady fun cfg => ?_
  split
  · exact (Quiet.pure _).steady
  refine Steady.bind (quiet_transmit _ _ _).steady fun sent => ?_
  split
  · exact steady_now_spawn (fun t => ⟨_, rfl, Nat.le_add_right _ _⟩) fun _ =>
      (Quiet.bind (quiet_emit _ _ _ _) fun _ => Quiet.pure _).steady
  · dsimp only
    split
    · exact (Quiet.bind (quiet_emit _ _ _ _) fun _ => quiet_finish _ _ _ _).steady
    · exact (quiet_emit _ _ _ _).steady.bind fun _ =>
        steady_now_spawn (fun t => ⟨_, rfl, Nat.le_add_right _ _⟩) fun _ => (Quiet.pure _).steady

theorem steady_pumpWith (c : Channel) (fuel : Nat) (s : ChannelState) (done : Done) :
    Steady (pumpWith c fuel s done) := by
  induction fuel generalizing s done with
  | zero => exact (Quiet.pure _).steady
  | succ fuel ih =>
    unfold pumpWith
    split
    · split
      · exact Steady.bind (steady_sendAttempt _ _ _ _) fun p => ih p.1 p.2
      · exact (Quiet.pure _).steady
    · exact (Quiet.pure _).steady

theorem steady_pump (c : Channel) (s : ChannelState) (done : Done) : Steady (pump c s done) :=
  steady_pumpWith c _ s done

theorem steady_answer (c : Channel) (s : ChannelState) (idx : Nat) (cmd : Command) (f : Frame) :
    Steady (answer c s idx cmd f) := by
  refine Steady.bind quiet_config.steady fun cfg => ?_
  split
  · exact (Quiet.bind (quiet_reap _ _) fun _ => Quiet.pure _).steady
  split
  · dsimp only
    split
    · exact (Quiet.bind (quiet_emit _ _ _ _) fun _ => quiet_finish _ _ _ _).steady
    · exact (quiet_emit _ _ _ _).steady.bind fun _ =>
        steady_now_spawn (fun t => ⟨_, rfl, Nat.le_add_right _ _⟩) fun _ => (Quiet.pure _).steady
  split
  · exact (quiet_finish _ _ _ _).steady
  · exact (Quiet.bind (quiet_emit _ _ _ _) fun _ => quiet_finish _ _ _ _).steady

theorem steady_dispatch (f : Frame) : Steady (dispatch f) := by
  refine Steady.bind (quiet_chan _).steady fun s => ?_
  split
  · exact (Quiet.bind (quiet_putChan _ _) fun _ => quiet_reportDrop _ _ _).steady
  · split
    · exact (Quiet.pure _).steady
    · refine Steady.bind (quiet_stopTimer _).steady fun _ => ?_
      refine Steady.bind (quiet_emit _ _ _ _).steady fun _ => ?_
      refine Steady.bind (steady_answer _ _ _ _ _) fun p => ?_
      exact Steady.bind (steady_pump _ _ _) fun q => (quiet_settle _ _ _).steady

theorem steady_route (r : Except FrameError Frame) : Steady (route r) := by
  cases r with
  | error e =>
    rw [route]
    exact (quiet_reportDrop _ _ _).steady
  | ok f =>
    rw [route]
    exact steady_dispatch f

theorem steady_receive (bytes : List UInt8) : Steady (receive bytes) := by
  refine Steady.bind quiet_config.steady fun cfg => ?_
  split
  · exact Steady.bind (quiet_emit _ _ _ _).steady fun _ => steady_route _
  · exact steady_route _

theorem steady_submit (c : Channel) (opcode : UInt16) (input : List UInt8) (owner : Owner) :
    Steady (submit c opcode input owner) := by
  refine Steady.bind quiet_config.steady fun cfg => ?_
  split
  · exact (Quiet.pure _).steady
  refine Steady.bind (quiet_chan c).steady fun s => ?_
  split
  · exact (Quiet.pure _).steady
  refine Steady.bind (quiet_emit _ _ _ _).steady fun _ => ?_
  refine Steady.bind (quiet_of_run fun _ => rfl).steady fun t => ?_
  refine Steady.bind (steady_pump _ _ _) fun p => ?_
  exact Steady.bind (quiet_settle _ _ _).steady fun _ => (Quiet.pure _).steady

theorem steady_attemptTimedOut (c : Channel) (handle generation : Nat) :
    Steady (attemptTimedOut c handle generation) := by
  refine Steady.bind (quiet_chan c).steady fun s => ?_
  split
  · exact (Quiet.pure _).steady
  · split
    · exact (Quiet.pure _).steady
    · split
      · exact (Quiet.pure _).steady
      · refine Steady.bind ?_ fun p => Steady.bind (steady_pump _ _ _) fun q => (quiet_settle _ _ _).steady
        refine Steady.bind quiet_config.steady fun cfg => ?_
        split
        · exact (Quiet.bind (quiet_reap _ _) fun _ => Quiet.pure _).steady
        · refine Steady.bind (quiet_of_run fun _ => rfl).steady fun t => ?_
          split
          · exact (Quiet.bind (quiet_emit _ _ _ _) fun _ => quiet_finish _ _ _ _).steady
          · exact (Quiet.bind (quiet_emit _ _ _ _) fun _ => Quiet.pure _).steady

theorem steady_backoffElapsed (c : Channel) : Steady (backoffElapsed c) :=
  Steady.bind (quiet_chan c).steady fun _ =>
    Steady.bind (steady_pump _ _ _) fun _ => (quiet_settle _ _ _).steady

end operations

end FrameRpc.Engine

namespace FrameRpc.Sim

theorem steady_expiry (k : TaskKind) : Steady k.expiry := by
  cases k with
  | attemptTimer c h g d a => exact Engine.steady_attemptTimedOut c h g
  | backoff c d a => exact Engine.steady_backoffElapsed c
  | _ => exact (Quiet.pure _).steady

section timerTurn

variable {w w1 : World} {id : Nat}

theorem World.Timed.pop (hw : w.Timed) (pop : w.Pops id w1)
    (idle : ∀ t, w.tasks[id]? = some t → t.kind.clock.isSome → t.Live → t.run ≠ .queued) : w1.Timed := by
  have listed : ∀ (j : Nat) (t : Task), w.tasks[j]? = some t → t.kind.clock.isSome → t.Live →
      t.run = .queued → j ∈ w1.localQueue ∨ j ∈ w1.remoteQueue := by
    intro j t ht timer live queued
    have hj : j ≠ id := by
      rintro rfl
      exact idle t ht timer live queued
    exact pop.queues j hj (hw.listed j t ht timer live queued)
  cases pop with
  | ofLocal _ =>
    exact { hw with listed, stage := fun j t d a ht clock live => (hw.stage j t d a ht clock live).move rfl fun h => h }
  | ofRemote _ =>
    exact { hw with listed, stage := fun j t d a ht clock live => (hw.stage j t d a ht clock live).move rfl fun h => h }

theorem World.Timed.unset (hw : w.Timed) {t : Task} (ht : w.tasks[id]? = some t)
    (timer : t.kind.clock.isSome) (hq : t.run = .queued) (tm : Timer) (htm : tm ∈ w.timers) :
    tm.waker ≠ .task id := by
  intro named
  obtain ⟨d, k⟩ := tm
  simp only at named
  subst named
  obtain ⟨-, idle, -⟩ := hw.ringing d id t htm ht timer
  rw [hq] at idle
  cases idle

/-- What the turn of a timer task does: one not queued is left alone; an aborted one ends
without acting; a live one acts at its deadline, which has come, or sets its timer for a
deadline still ahead. -/
inductive TimerTurn (w1 : World) (id : Nat) (t : Task) : World → Prop where
  | unqueued : t.run ≠ .queued → TimerTurn w1 id t w1
  | aborted : t.run = .queued → t.aborted = true →
      TimerTurn w1 id t { w1 with tasks := w1.tasks.modify id fun t => { t with run := .done } }
  | fires {d : Nat} {a : Bool} : t.run = .queued → t.aborted = false → t.kind.clock = some (d, a) →
      d = w1.now → TimerTurn w1 id t ((runTask id).run w1).2
  | waits {d : Nat} {a : Bool} : t.run = .queued → t.aborted = false → t.kind.clock = some (d, a) →
      (a = true → d ≤ w1.now) → w1.now < d → TimerTurn w1 id t ((runTask id).run w1).2

theorem World.Timed.timerTurn (hw : w.Timed) (pop : w.Pops id w1) {t : Task} (ht : w.tasks[id]? = some t)
    (clocked : t.kind.clock.isSome) : TimerTurn w1 id t ((runTask id).run w1).2 := by
  obtain ⟨-, now, tasks, -⟩ := pop.same
  have ht1 : w1.tasks[id]? = some t := tasks ▸ ht
  by_cases hq' : t.run ≠ .queued
  · rw [runTask_unqueued fun t' h' => by rw [ht1, Option.some.injEq] at h'; exact h' ▸ hq']
    exact .unqueued hq'
  have hq : t.run = .queued := by simpa using hq'
  cases hl : t.aborted with
  | true =>
    rw [runTask_aborted ht1 hq hl]
    exact .aborted hq hl
  | false =>
    obtain ⟨⟨d, a⟩, hk⟩ := Option.isSome_iff_exists.mp clocked
    have stage := hw.stage id t d a ht hk ⟨hl, .inl hq⟩
    rw [hq] at stage
    by_cases due : d ≤ w1.now
    · refine .fires hq hl hk ?_
      cases stage with
      | fresh early => omega
      | due at_ => omega
    · refine .waits hq hl hk (fun armed => ?_) (Nat.lt_of_not_le due)
      subst armed
      cases stage with
      | due at_ => omega

theorem World.Timed.retire (hw : w.Timed) (pop : w.Pops id w1) {t : Task} (ht : w.tasks[id]? = some t)
    (clocked : t.kind.clock.isSome) (hq : t.run = .queued) (f : Task → Task)
    (kind : (f t).kind = t.kind) (gone : ¬ (f t).Live) :
    ({ w1 with tasks := w1.tasks.modify id f } : World).Timed := by
  obtain ⟨-, now, tasks, timers, slots, idlers⟩ := pop.same
  have ht1 : w1.tasks[id]? = some t := tasks ▸ ht
  have unset := hw.unset ht clocked hq
  refine hw.at_task ht clocked now (fun j hj => ?_)
    (fun tm htm => .inl ⟨timers ▸ htm, unset tm (timers ▸ htm)⟩) (fun tm htm _ => timers ▸ htm)
    pop.queues slots idlers ⟨f t, ?_, by rw [kind]; exact clocked, fun live => absurd live gone,
      fun _ _ _ live => absurd live gone, fun d htm => absurd rfl (unset _ (timers ▸ htm))⟩
  · show (w1.tasks.modify id f)[j]? = _
    rw [Array.getElem?_modify, if_neg (Ne.symm hj), tasks]
  · show (w1.tasks.modify id f)[id]? = _
    simp [Array.getElem?_modify, ht1]

theorem World.Timed.starting (hw : w.Timed) (pop : w.Pops id w1) {t : Task} (ht : w.tasks[id]? = some t)
    (clocked : t.kind.clock.isSome) (hq : t.run = .queued) : (w1.starting id).Timed :=
  hw.retire pop ht clocked hq _ rfl (by simp [Task.Live])

theorem World.Timed.fires (hw : w.Timed) (pop : w.Pops id w1) {t : Task} {d : Nat} {a : Bool}
    (ht : w.tasks[id]? = some t) (hq : t.run = .queued) (hl : t.aborted = false)
    (hk : t.kind.clock = some (d, a)) (due : d ≤ w1.now) : ((runTask id).run w1).2.Timed := by
  have ht1 : w1.tasks[id]? = some t := pop.same.2.2.1 ▸ ht
  have clocked : t.kind.clock.isSome := by simp [hk]
  obtain ⟨engine', now', local', remote', slots', idlers', timers', tasks'⟩ :=
    runTask_fires ht1 hq hl hk due
  -- marked running the task is no longer live, and its action keeps the invariant
  obtain ⟨acted, -, kept⟩ := steady_expiry t.kind _ (hw.starting pop ht clocked hq)
  obtain ⟨u, hu, kind⟩ := kept id { t with run := .running, wokenWhileRunning := false }
    (by simp [World.starting_tasks, ht1])
  refine acted.at_task hu (by simp [kind, hk]) now' (fun j hj => by rw [tasks', if_neg (Ne.symm hj)])
    (fun tm htm => ?_) (fun tm htm hn => ?_) (fun j _ h => by rw [local', remote']; exact h) slots'
    idlers' ⟨{ u with kind := t.kind.arm, run := .done }, by simp [tasks', hu],
      by simp [TaskKind.arm_clock hk], fun live => by simp [Task.Live] at live,
      fun _ _ _ live => by simp [Task.Live] at live, fun d htm => ?_⟩
  · rw [timers', List.mem_filter] at htm
    exact .inl ⟨htm.1, by simpa using htm.2⟩
  · rw [timers', List.mem_filter]
    exact ⟨htm, by simpa using hn⟩
  · rw [timers', List.mem_filter] at htm
    simp at htm

theorem World.Timed.waits (hw : w.Timed) (pop : w.Pops id w1) {t : Task} {d : Nat} {a : Bool}
    (ht : w.tasks[id]? = some t) (hq : t.run = .queued) (hl : t.aborted = false)
    (hk : t.kind.clock = some (d, a)) (ha : a = true → d ≤ w1.now) (early : w1.now < d) :
    ((runTask id).run w1).2.Timed := by
  obtain ⟨-, now, tasks, timers, slots, idlers⟩ := pop.same
  have ht1 : w1.tasks[id]? = some t := tasks ▸ ht
  have clocked : t.kind.clock.isSome := by simp [hk]
  have unset := hw.unset ht clocked hq
  obtain ⟨engine', now', local', remote', slots', idlers', timers', tasks'⟩ :=
    runTask_waits ht1 hq hl hk ha early
  rw [now] at now' early
  refine hw.at_task ht clocked now' (fun j hj => by rw [tasks', if_neg (Ne.symm hj), tasks])
    (fun tm htm => ?_) (fun tm htm _ => by rw [timers', timers]; exact List.mem_append_left _ htm)
    (fun j hj h => by rw [local', remote']; exact pop.queues j hj h) (slots'.trans slots)
    (idlers'.trans idlers)
    ⟨{ t with kind := t.kind.arm, run := .idle, wokenWhileRunning := false }, by simp [tasks'],
      by simp [TaskKind.arm_clock hk], fun _ idle => by simp at idle, fun d' a' clock _ => ?_,
      fun d' htm => ?_⟩
  · rw [timers', timers, List.mem_append, List.mem_singleton] at htm
    rcases htm with old | rfl
    · exact .inl ⟨old, unset _ old⟩
    · exact .inr rfl
  · -- the task waits on the timer it has just set
    simp only [TaskKind.arm_clock hk, Option.some.injEq, Prod.mk.injEq] at clock
    obtain ⟨rfl, rfl⟩ := clock
    exact .waiting (by rw [timers', timers]; simp)
  · rw [timers', timers, List.mem_append, List.mem_singleton] at htm
    rcases htm with old | new
    · exact absurd rfl (unset _ old)
    · simp only [Timer.mk.injEq] at new
      obtain ⟨rfl, -⟩ := new
      refine ⟨by rw [now']; omega, ⟨hl, .inr rfl⟩, rfl, TaskKind.arm_clock hk⟩

theorem World.Timed.runTimer (hw : w.Timed) (pop : w.Pops id w1)
    (timer : ∀ t, w.tasks[id]? = some t → t.kind.clock.isSome) : ((runTask id).run w1).2.Timed := by
  cases ht : w.tasks[id]? with
  | none =>
    rw [runTask_unqueued fun t h => by rw [pop.same.2.2.1, ht] at h; cases h]
    exact hw.pop pop fun t h => by rw [ht] at h; cases h
  | some t =>
    have turn := hw.timerTurn pop ht (timer t ht)
    generalize ((runTask id).run w1).2 = w' at turn ⊢
    cases turn with
    | unqueued hq => exact hw.pop pop fun t' h _ _ => by rw [ht, Option.some.injEq] at h; exact h ▸ hq
    | aborted hq _ => exact hw.retire pop ht (timer t ht) hq _ rfl (by simp [Task.Live])
    | fires hq hl hk due => exact hw.fires pop ht hq hl hk (Nat.le_of_eq due)
    | waits hq hl hk ha early => exact hw.waits pop ht hq hl hk ha early

end timerTurn

end FrameRpc.Sim
