import FrameRpc.Proofs.Sim.Clock
import FrameRpc.Proofs.Engine.Timers
set_option autoImplicit false

/-!
The timer tasks the engine has armed.

A channel names its timer tasks: the task of its back-off, and for each command the attempt
timer of its last send. `World.Holds` says that the live timer tasks of a channel are
exactly those its state names, each by the kind of task it is: a back-off task for the
back-off, and for a command an attempt timer of that command's handle and send number.
`World.Issued` and `World.Single` say that every attempt timer, live or not, times a send
the channel has made, and that no two tasks time the same send.

An operation holds its channel's state while it works on it, so the invariant is carried
through an operation as `World.Inside`, and stored as `World.Armed` when the state is
put back. A timer task is started only together with the name the channel gives it, and
a name is dropped only together with the task: by aborting it, or because the task itself
is the one that runs.
-/

namespace FrameRpc

namespace Sim

def TaskKind.timerChannel : TaskKind → Option Channel
  | .attemptTimer c _ _ _ _ => some c
  | .backoff c _ _ => some c
  | _ => none

theorem TaskKind.clock_isSome {k : TaskKind} {c : Channel} (h : k.timerChannel = some c) :
    k.clock.isSome := by
  cases k <;> simp_all [timerChannel, clock]

end Sim

open Sim

namespace ChannelState

/-- The attempt timers the commands of a channel record: the task, the command's handle
and the send it times. -/
def timed (s : ChannelState) : List (Nat × Nat × Nat) :=
  s.pending.filterMap fun k => k.timer.map fun id => (id, k.handle, k.generation)

theorem mem_timed {s : ChannelState} {x : Nat × Nat × Nat} :
    x ∈ s.timed ↔ ∃ k ∈ s.pending, k.timer = some x.1 ∧ k.handle = x.2.1 ∧ k.generation = x.2.2 := by
  obtain ⟨id, h, g⟩ := x
  simp only [timed, List.mem_filterMap, Option.map_eq_some_iff, Prod.mk.injEq]
  constructor
  · rintro ⟨k, hk, id', hid, rfl, rfl, rfl⟩
    exact ⟨k, hk, hid, rfl, rfl⟩
  · rintro ⟨k, hk, hid, rfl, rfl⟩
    exact ⟨k, hk, id, hid, rfl, rfl, rfl⟩

theorem timed_of_timer {s : ChannelState} {idx : Nat} {cmd : Command} (hcmd : s.pending[idx]? = some cmd)
    {id : Nat} (ht : cmd.timer = some id) : (id, cmd.handle, cmd.generation) ∈ s.timed :=
  mem_timed.mpr ⟨cmd, List.mem_of_getElem? hcmd, ht, rfl, rfl⟩

theorem index_eq_of_handle_eq {l : List Command} (sorted : l.Pairwise (·.handle < ·.handle))
    {i j : Nat} {k k' : Command} (hi : l[i]? = some k) (hj : l[j]? = some k') (h : k.handle = k'.handle) :
    i = j := by
  obtain ⟨hi', rfl⟩ := List.getElem?_eq_some_iff.mp hi
  obtain ⟨hj', rfl⟩ := List.getElem?_eq_some_iff.mp hj
  rcases Nat.lt_trichotomy i j with lt | eq | gt
  · have := List.pairwise_iff_getElem.mp sorted i j hi' hj' lt
    omega
  · exact eq
  · have := List.pairwise_iff_getElem.mp sorted j i hj' hi' gt
    omega

section timed

variable {s t : ChannelState} (sorted : s.pending.Pairwise (·.handle < ·.handle)) {idx : Nat} {cmd : Command}
  (hcmd : s.pending[idx]? = some cmd)
include sorted hcmd

theorem mem_timed_eraseIdx (hp : t.pending = s.pending.eraseIdx idx) (x : Nat × Nat × Nat) :
    x ∈ t.timed ↔ x ∈ s.timed ∧ x.2.1 ≠ cmd.handle := by
  simp only [mem_timed, hp, List.mem_eraseIdx_iff_getElem?]
  constructor
  · rintro ⟨k, ⟨i, hi, hk⟩, ht, hh, hg⟩
    exact ⟨⟨k, List.mem_of_getElem? hk, ht, hh, hg⟩,
      fun same => hi (index_eq_of_handle_eq sorted hk hcmd (hh.trans same))⟩
  · rintro ⟨⟨k, hk, ht, hh, hg⟩, other⟩
    obtain ⟨i, hi⟩ := List.mem_iff_getElem?.mp hk
    refine ⟨k, ⟨i, fun same => other ?_, hi⟩, ht, hh, hg⟩
    subst same
    rw [hcmd, Option.some.injEq] at hi
    rw [← hh, hi]

theorem mem_timed_modify {f : Command → Command} (hf : (f cmd).handle = cmd.handle)
    (hp : t.pending = s.pending.modify idx f) (x : Nat × Nat × Nat) :
    x ∈ t.timed ↔ (x ∈ s.timed ∧ x.2.1 ≠ cmd.handle) ∨
      ((f cmd).timer = some x.1 ∧ cmd.handle = x.2.1 ∧ (f cmd).generation = x.2.2) := by
  simp only [mem_timed, hp]
  constructor
  · rintro ⟨k, hk, ht, hh, hg⟩
    obtain ⟨i, hi⟩ := List.mem_iff_getElem?.mp hk
    by_cases same : idx = i
    · subst same
      rw [List.getElem?_modify_eq, hcmd] at hi
      cases hi
      exact .inr ⟨ht, hf ▸ hh, hg⟩
    · rw [List.getElem?_modify_ne _ _ same] at hi
      exact .inl ⟨⟨k, List.mem_of_getElem? hi, ht, hh, hg⟩,
        fun other => same (index_eq_of_handle_eq sorted hi hcmd (hh.trans other)).symm⟩
  · rintro (⟨⟨k, hk, ht, hh, hg⟩, other⟩ | ⟨ht, hh, hg⟩)
    · obtain ⟨i, hi⟩ := List.mem_iff_getElem?.mp hk
      have moved : idx ≠ i := by
        rintro rfl
        rw [hcmd, Option.some.injEq] at hi
        subst hi
        exact other hh.symm
      exact ⟨k, List.mem_of_getElem? (by rw [List.getElem?_modify_ne _ _ moved]; exact hi), ht, hh, hg⟩
    · refine ⟨f cmd, List.mem_of_getElem? (by rw [List.getElem?_modify_eq, hcmd]; rfl), ht, hf.trans hh, hg⟩

theorem handle_ne_of_timed (ht : cmd.timer = none) {x : Nat × Nat × Nat} (hx : x ∈ s.timed) :
    x.2.1 ≠ cmd.handle := by
  obtain ⟨k, hk, hkt, hh, -⟩ := mem_timed.mp hx
  intro same
  obtain ⟨i, hi⟩ := List.mem_iff_getElem?.mp hk
  obtain rfl := index_eq_of_handle_eq sorted hi hcmd (hh.trans same)
  rw [hcmd, Option.some.injEq] at hi
  subst hi
  rw [ht] at hkt
  cases hkt

end timed

/-- The channel names task `id` as a timer of this kind: as its back-off, or as the timer of
a command's send. -/
def Names (s : ChannelState) (id : Nat) : TaskKind → Prop
  | .backoff _ _ _ => s.backoff = some id
  | .attemptTimer _ h g _ _ => (id, h, g) ∈ s.timed
  | _ => False

end ChannelState

namespace Sim

def World.Arms (w : World) (c : Channel) (id : Nat) (k : TaskKind) : Prop :=
  ∃ t : Task, w.tasks[id]? = some t ∧ t.Live ∧ t.kind = k ∧ k.timerChannel = some c

structure World.Holds (w : World) (c : Channel) (s : ChannelState) : Prop where
  named : ∀ (id : Nat) (k : TaskKind), w.Arms c id k → s.Names id k
  backoff : ∀ id : Nat, s.backoff = some id → ∃ d a, w.Arms c id (.backoff c d a)
  timers : ∀ id h g : Nat, (id, h, g) ∈ s.timed → ∃ d a, w.Arms c id (.attemptTimer c h g d a)

/-- Every attempt timer of channel `c`, live or not, times a send the channel has made: its
command's handle was given out, and the command, while unfinished, has been sent at least
as often. -/
def World.Issued (w : World) (c : Channel) (s : ChannelState) : Prop :=
  ∀ (id : Nat) (t : Task) (h g d : Nat) (a : Bool), w.tasks[id]? = some t →
    t.kind = .attemptTimer c h g d a → h ≤ s.nextHandle ∧ ∀ k ∈ s.pending, k.handle = h → g ≤ k.generation

def World.Single (w : World) : Prop :=
  ∀ (i j : Nat) (ti tj : Task) (c : Channel) (h g di dj : Nat) (ai aj : Bool),
    w.tasks[i]? = some ti → w.tasks[j]? = some tj →
    ti.kind = .attemptTimer c h g di ai → tj.kind = .attemptTimer c h g dj aj → i = j

/-- What an operation on channel `c` keeps while it holds the channel's state as `s`: the
timer tasks of `c` agree with `s`, those of every other channel with its stored state, and
no two tasks time the same send. -/
structure World.Inside (w : World) (c : Channel) (s : ChannelState) : Prop where
  holds : w.Holds c s
  issued : w.Issued c s
  others : ∀ d, d ≠ c → w.Holds d (w.engine.channels.get d) ∧ w.Issued d (w.engine.channels.get d)
  single : w.Single

structure World.Armed (w : World) : Prop where
  holds : ∀ c, w.Holds c (w.engine.channels.get c)
  issued : ∀ c, w.Issued c (w.engine.channels.get c)
  single : w.Single

theorem World.Armed.inside {w : World} (h : w.Armed) (c : Channel) :
    w.Inside c (w.engine.channels.get c) :=
  ⟨h.holds c, h.issued c, fun d _ => ⟨h.holds d, h.issued d⟩, h.single⟩

section holds

variable {w w' : World} {c : Channel} {s s' : ChannelState}

theorem World.Holds.congr (h : w.Holds c s) (arms : ∀ id k, w'.Arms c id k ↔ w.Arms c id k) :
    w'.Holds c s where
  named id k ha := h.named id k ((arms id k).mp ha)
  backoff id hb := by
    obtain ⟨d, a, ha⟩ := h.backoff id hb
    exact ⟨d, a, (arms id _).mpr ha⟩
  timers id hh g ht := by
    obtain ⟨d, a, ha⟩ := h.timers id hh g ht
    exact ⟨d, a, (arms id _).mpr ha⟩

theorem World.Holds.rename (h : w.Holds c s) (hb : s'.backoff = s.backoff)
    (ht : ∀ x, x ∈ s'.timed ↔ x ∈ s.timed) : w.Holds c s' where
  named id k ha := by
    have named := h.named id k ha
    cases k with
    | backoff => exact hb.trans named
    | attemptTimer => exact (ht _).mpr named
    | _ => exact named
  backoff id hb' := h.backoff id (hb ▸ hb')
  timers id hh g ht' := h.timers id hh g ((ht _).mp ht')

theorem World.Holds.forget (h : w.Holds c s) {id : Nat}
    (arms : ∀ j k, w'.Arms c j k ↔ w.Arms c j k ∧ j ≠ id)
    (hb : ∀ j, s'.backoff = some j ↔ s.backoff = some j ∧ j ≠ id)
    (ht : ∀ x, x ∈ s'.timed ↔ x ∈ s.timed ∧ x.1 ≠ id) : w'.Holds c s' where
  named j k ha := by
    obtain ⟨ha, hj⟩ := (arms j k).mp ha
    have named := h.named j k ha
    cases k with
    | backoff => exact (hb j).mpr ⟨named, hj⟩
    | attemptTimer => exact (ht _).mpr ⟨named, hj⟩
    | _ => exact named
  backoff j hb' := by
    obtain ⟨old, hj⟩ := (hb j).mp hb'
    obtain ⟨d, a, ha⟩ := h.backoff j old
    exact ⟨d, a, (arms j _).mpr ⟨ha, hj⟩⟩
  timers j hh g ht' := by
    obtain ⟨old, hj⟩ := (ht _).mp ht'
    obtain ⟨d, a, ha⟩ := h.timers j hh g old
    exact ⟨d, a, (arms j _).mpr ⟨ha, hj⟩⟩

theorem World.Holds.forget_other (h : w.Holds c s) {id : Nat}
    (arms : ∀ j k, w'.Arms c j k ↔ w.Arms c j k ∧ j ≠ id) (other : ∀ k, ¬ w.Arms c id k) :
    w'.Holds c s := by
  refine h.forget arms (fun j => ⟨fun hb => ⟨hb, ?_⟩, fun hb => hb.1⟩) (fun x => ⟨fun hx => ⟨hx, ?_⟩, fun hx => hx.1⟩)
  · rintro rfl
    obtain ⟨d, a, ha⟩ := h.backoff j hb
    exact other _ ha
  · obtain ⟨j, hh, g⟩ := x
    rintro rfl
    obtain ⟨d, a, ha⟩ := h.timers j hh g hx
    exact other _ ha

theorem World.Holds.adopt (h : w.Holds c s) {id : Nat} {k : TaskKind}
    (arms : ∀ j k', w'.Arms c j k' ↔ w.Arms c j k' ∨ (j = id ∧ k' = k ∧ k.timerChannel = some c))
    (fresh : ∀ k', ¬ w.Arms c id k') (names : k.timerChannel = some c → s'.Names id k)
    (hb : ∀ j, s'.backoff = some j ↔ s.backoff = some j ∨ (j = id ∧ ∃ d a, k = .backoff c d a))
    (ht : ∀ x, x ∈ s'.timed ↔ x ∈ s.timed ∨ (x.1 = id ∧ ∃ d a, k = .attemptTimer c x.2.1 x.2.2 d a)) :
    w'.Holds c s' where
  named j k' ha := by
    rcases (arms j k').mp ha with old | ⟨rfl, rfl, mine⟩
    · have named := h.named j k' old
      cases k' with
      | backoff => exact (hb j).mpr (.inl named)
      | attemptTimer => exact (ht _).mpr (.inl named)
      | _ => exact named
    · exact names mine
  backoff j hb' := by
    rcases (hb j).mp hb' with old | ⟨rfl, d, a, rfl⟩
    · obtain ⟨d, a, ha⟩ := h.backoff j old
      exact ⟨d, a, (arms j _).mpr (.inl ha)⟩
    · exact ⟨d, a, (arms j _).mpr (.inr ⟨rfl, rfl, rfl⟩)⟩
  timers j hh g ht' := by
    rcases (ht _).mp ht' with old | ⟨rfl, d, a, rfl⟩
    · obtain ⟨d, a, ha⟩ := h.timers j hh g old
      exact ⟨d, a, (arms j _).mpr (.inl ha)⟩
    · exact ⟨d, a, (arms j _).mpr (.inr ⟨rfl, rfl, rfl⟩)⟩

theorem World.Holds.adopt_other (h : w.Holds c s) {id : Nat} {k : TaskKind}
    (arms : ∀ j k', w'.Arms c j k' ↔ w.Arms c j k' ∨ (j = id ∧ k' = k ∧ k.timerChannel = some c))
    (other : k.timerChannel ≠ some c) : w'.Holds c s :=
  h.congr fun j k' => ⟨fun ha => ((arms j k').mp ha).resolve_right fun ⟨_, _, mine⟩ => other mine,
    fun ha => (arms j k').mpr (.inl ha)⟩

end holds

section kinds

variable {w w' : World} {c : Channel} {s s' : ChannelState}

def World.Kinds (w w' : World) : Prop :=
  ∀ (id : Nat) (t' : Task), w'.tasks[id]? = some t' → t'.kind.clock.isSome →
    ∃ t : Task, w.tasks[id]? = some t ∧ t.kind = t'.kind

theorem Calm.kinds (h : Calm w w') : w.Kinds w' := by
  intro id t' ht' timer
  cases ht : w.tasks[id]? with
  | none => simp [h.fresh id t' ht' ht] at timer
  | some t =>
    obtain ⟨t2, ht2, kind⟩ := h.kept id t ht
    rw [ht', Option.some.injEq] at ht2
    subst ht2
    exact ⟨t, rfl, kind.symm⟩

theorem World.Issued.of_kinds (h : w.Issued c s) (kinds : w.Kinds w') : w'.Issued c s := by
  intro id t' hh g d a ht' kind
  obtain ⟨t, ht, same⟩ := kinds id t' ht' (by simp [kind, TaskKind.clock])
  exact h id t hh g d a ht (same.trans kind)

theorem World.Single.of_kinds (h : w.Single) (kinds : w.Kinds w') : w'.Single := by
  intro i j ti tj c hh g di dj ai aj hi hj ki kj
  obtain ⟨ti0, hi0, si⟩ := kinds i ti hi (by simp [ki, TaskKind.clock])
  obtain ⟨tj0, hj0, sj⟩ := kinds j tj hj (by simp [kj, TaskKind.clock])
  exact h i j ti0 tj0 c hh g di dj ai aj hi0 hj0 (si.trans ki) (sj.trans kj)

theorem World.Issued.succeeds (h : w.Issued c s) (hs : s.Succeeds s') : w.Issued c s' := by
  intro id t hh g d a ht kind
  obtain ⟨bounded, sent⟩ := h id t hh g d a ht kind
  refine ⟨Nat.le_trans bounded hs.handles, fun k' hk' same => ?_⟩
  rcases hs.commands k' hk' with ⟨k, hk, follows⟩ | fresh
  · have old := sent k hk (follows.1.symm.trans same)
    rcases follows.2 with lt | ⟨eq, -⟩
    · omega
    · omega
  · omega

end kinds

section spares

variable {w w' w'' : World}

/-- `w'` spares the timer tasks of `w`: each is kept with its kind, live exactly when it
was, and there is no new one. -/
structure World.Spares (w w' : World) : Prop where
  kept : ∀ (id : Nat) (t : Task), w.tasks[id]? = some t → t.kind.clock.isSome →
    ∃ t' : Task, w'.tasks[id]? = some t' ∧ t'.kind = t.kind ∧ (t'.Live ↔ t.Live)
  kinds : w.Kinds w'

theorem World.Spares.refl (w : World) : w.Spares w :=
  ⟨fun _ t h _ => ⟨t, h, rfl, Iff.rfl⟩, fun _ t h _ => ⟨t, h, rfl⟩⟩

theorem World.Spares.trans (h : w.Spares w') (h' : w'.Spares w'') : w.Spares w'' where
  kept id t ht timer := by
    obtain ⟨t1, ht1, k1, l1⟩ := h.kept id t ht timer
    obtain ⟨t2, ht2, k2, l2⟩ := h'.kept id t1 ht1 (k1 ▸ timer)
    exact ⟨t2, ht2, k2.trans k1, l2.trans l1⟩
  kinds id t2 ht2 timer := by
    obtain ⟨t1, ht1, k1⟩ := h'.kinds id t2 ht2 timer
    obtain ⟨t, ht, k⟩ := h.kinds id t1 ht1 (k1 ▸ timer)
    exact ⟨t, ht, k.trans k1⟩

theorem World.Spares.arms (h : w.Spares w') {c : Channel} {id : Nat} {k : TaskKind} :
    w'.Arms c id k ↔ w.Arms c id k := by
  constructor
  · rintro ⟨t', ht', live', rfl, hc⟩
    obtain ⟨t, ht, kind⟩ := h.kinds id t' ht' (TaskKind.clock_isSome hc)
    obtain ⟨t2, ht2, -, live⟩ := h.kept id t ht (kind ▸ TaskKind.clock_isSome hc)
    rw [ht', Option.some.injEq] at ht2
    subst ht2
    exact ⟨t, ht, live.mp live', kind, hc⟩
  · rintro ⟨t, ht, live, rfl, hc⟩
    obtain ⟨t', ht', kind, live'⟩ := h.kept id t ht (TaskKind.clock_isSome hc)
    exact ⟨t', ht', live'.mpr live, kind, hc⟩

theorem World.Spares.of_tasks (h : w'.tasks = w.tasks) : w.Spares w' :=
  ⟨fun _ t ht _ => ⟨t, by rw [h]; exact ht, rfl, Iff.rfl⟩, fun _ t ht _ => ⟨t, by rw [← h]; exact ht, rfl⟩⟩

theorem World.Spares.of_woken
    (h : ∀ i : Nat, w'.tasks[i]? = w.tasks[i]? ∨ w'.tasks[i]? = (w.tasks[i]?).map Task.woken) :
    w.Spares w' where
  kept id t ht _ := by
    rcases h id with same | woken
    · exact ⟨t, by rw [same, ht], rfl, Iff.rfl⟩
    · exact ⟨t.woken, by rw [woken, ht]; rfl, Task.woken_kind t, Task.woken_live t⟩
  kinds id t' ht' _ := by
    rcases h id with same | woken
    · exact ⟨t', by rw [← same, ht'], rfl⟩
    · rw [woken] at ht'
      obtain ⟨t, ht, rfl⟩ := Option.map_eq_some_iff.mp ht'
      exact ⟨t, ht, (Task.woken_kind t).symm⟩

theorem World.Spares.of_push {t0 : Task} (hk : t0.kind.clock = none) (h : w'.tasks = w.tasks.push t0) :
    w.Spares w' where
  kept id t ht _ := ⟨t, by rw [h]; exact getElem?_push_of_some ht, rfl, Iff.rfl⟩
  kinds id t' ht' timer := by
    rw [h, Array.getElem?_push] at ht'
    split at ht'
    · cases ht'
      simp [hk] at timer
    · exact ⟨t', ht', rfl⟩

variable {α β : Type}

def Inert (x : Sim α) : Prop := ∀ w : World, w.Spares (x.run w).2

theorem Inert.bind {x : Sim α} {f : α → Sim β} (hx : Inert x) (hf : ∀ a, Inert (f a)) :
    Inert (x >>= f) := fun w => by
  rw [run_bind]
  exact (hx w).trans (hf _ _)

theorem Inert.pure (a : α) : Inert (pure a : Sim α) := fun w => .refl w

theorem inert_of_tasks {x : Sim α} (hx : ∀ w, (x.run w).2.tasks = w.tasks) : Inert x :=
  fun w => .of_tasks (hx w)

theorem inert_forIn {γ : Type} (l : List γ) (b : β) {f : γ → β → Sim (ForInStep β)}
    (hf : ∀ a b, Inert (f a b)) : Inert (forIn l b f) := by
  induction l generalizing b with
  | nil => exact Inert.pure b
  | cons a rest ih =>
    rw [List.forIn_cons]
    refine Inert.bind (hf a b) fun step => ?_
    cases step with
    | done b' => exact Inert.pure b'
    | yield b' => exact ih b'

theorem inert_emitWith (l : Log.Level) (t m : String) (fs : List (String × Log.FieldValue))
    (u : List String) : Inert (emitWith l t m fs u) := inert_of_tasks fun w => by
  simp only [emitWith, run_modify]
  split
  · split <;> rfl
  · rfl

theorem inert_emit (l : Log.Level) (t m : String) (fs : List (String × Log.FieldValue)) :
    Inert (emit l t m fs) :=
  inert_emitWith l t m fs []

theorem inert_wake (k : Waker) : Inert (wake k) := fun w => by
  cases k with
  | main => exact .of_tasks rfl
  | task j =>
    refine .of_woken fun i => ?_
    rw [wake_task_tasks]
    split
    · exact .inr rfl
    · exact .inl rfl

theorem inert_fill (n : Nat) (r : Outcome) : Inert (fill n r) := by
  refine Inert.bind (inert_of_tasks fun _ => rfl) fun _ => Inert.bind (inert_of_tasks fun _ => rfl) fun _ => ?_
  split
  · exact inert_wake _
  · exact Inert.pure _

theorem inert_deliver (o : Owner) (r : Outcome) : Inert (deliver o r) := by
  cases o with
  | callback id =>
    refine Inert.bind (inert_of_tasks fun _ => rfl) fun _ => ?_
    split
    · exact Inert.pure _
    · exact inert_of_tasks fun _ => rfl
  | slot n => exact Inert.bind (inert_fill n r) fun _ => Inert.pure _

theorem inert_abandon (o : Owner) : Inert (abandon o) := by
  cases o with
  | callback id => exact Inert.pure _
  | slot n => exact inert_fill n _

theorem inert_spawn {k : TaskKind} (hk : k.clock = none) : Inert (spawn k) := fun w => by
  rw [spawn_run]
  exact .of_push hk (enqueue_tasks _ _)

theorem inert_updatePeer (f : Peer → Peer) : Inert (updatePeer f) := inert_of_tasks fun w => by
  simp only [updatePeer, run_modify]
  split <;> rfl

theorem inert_peerSend (p : Peer) (frame : List UInt8) : Inert (peerSend p frame) := by
  unfold peerSend
  split
  · exact Inert.bind (inert_updatePeer _) fun _ => Inert.pure _
  refine Inert.bind (inert_updatePeer _) fun _ => ?_
  split
  · refine Inert.bind (inert_of_tasks fun _ => rfl) fun _ => Inert.bind (inert_emit _ _ _ _) fun _ => ?_
    exact Inert.bind (inert_updatePeer _) fun _ => Inert.pure _
  split
  · refine Inert.bind (inert_of_tasks fun _ => rfl) fun _ => Inert.bind (inert_emit _ _ _ _) fun _ => ?_
    exact Inert.bind (inert_updatePeer _) fun _ => Inert.pure _
  dsimp only
  split
  all_goals
    try refine Inert.bind (inert_updatePeer _) fun _ => ?_
    split
    · exact Inert.bind (inert_updatePeer _) fun _ => Inert.pure _
    · split
      · refine Inert.bind (inert_updatePeer _) fun _ => ?_
        exact Inert.bind (Inert.bind (inert_spawn rfl) fun _ => Inert.pure _) fun _ => Inert.pure _
      · exact Inert.pure _

theorem inert_linkSend (frame : List UInt8) : Inert (linkSend frame) := by
  refine Inert.bind (inert_of_tasks fun _ => rfl) fun l => ?_
  split
  · split
    · exact inert_of_tasks fun _ => rfl
    · exact inert_of_tasks fun _ => rfl
  · exact inert_peerSend _ frame

theorem inert_putChan (c : Channel) (s : ChannelState) : Inert (Engine.putChan c s) :=
  inert_of_tasks fun _ => rfl

theorem inert_notifyIfIdle (c : Channel) : Inert (Engine.notifyIfIdle c) := by
  refine Inert.bind (inert_of_tasks fun _ => rfl) fun s => ?_
  split
  · refine Inert.bind (inert_of_tasks fun _ => rfl) fun _ => Inert.bind (inert_of_tasks fun _ => rfl) fun _ => ?_
    exact inert_forIn _ _ fun _ _ => Inert.bind (inert_wake _) fun _ => Inert.pure _
  · exact Inert.pure _

theorem inert_release (c : Channel) : Inert (Engine.release c) :=
  Inert.bind (inert_of_tasks fun _ => rfl) fun _ => Inert.bind (inert_putChan c _) fun _ => inert_notifyIfIdle c

theorem inert_complete (c : Channel) (done : Engine.Done) : Inert (Engine.complete c done) :=
  Engine.completeWith_of (P := Inert) Inert.pure Inert.bind inert_deliver inert_abandon (inert_release c) _ _

theorem inert_settle (c : Channel) (s : ChannelState) (done : Engine.Done) : Inert (Engine.settle c s done) :=
  Inert.bind (inert_putChan c s) fun _ => Inert.bind (inert_notifyIfIdle c) fun _ => inert_complete c done

theorem inert_transmit (c : Channel) (cmd : Command) (seq : UInt16) : Inert (Engine.transmit c cmd seq) := by
  refine Inert.bind (inert_of_tasks fun _ => rfl) fun cfg => ?_
  split
  · exact Inert.bind (inert_emit _ _ _ _) fun _ => Inert.pure _
  · split
    · exact Inert.bind (inert_emit _ _ _ _) fun _ => inert_linkSend _
    · exact inert_linkSend _

end spares

section tasks

variable (w : World) (id : Nat)

theorem abort_tasks_other {j : Nat} (hj : j ≠ id) : ((abort id).run w).2.tasks[j]? = w.tasks[j]? := by
  simp only [abort, run_bind, task?_run]
  split
  · split
    · rfl
    · simp only [modifyTask, dropTimers, run_bind, run_modify]
      split <;> simp only [run_bind, run_modify, run_pure, enqueue_tasks] <;>
        simp [Array.getElem?_modify, Ne.symm hj]
  · rfl

theorem abort_self {t : Task} (ht : w.tasks[id]? = some t) :
    ∃ t' : Task, ((abort id).run w).2.tasks[id]? = some t' ∧ t'.kind = t.kind ∧ ¬ t'.Live := by
  simp only [abort, run_bind, task?_run, ht]
  split
  · next stop =>
    refine ⟨t, ht, rfl, ?_⟩
    rintro ⟨hl, hr | hr⟩ <;> simp [hl, hr] at stop
  · simp only [modifyTask, dropTimers, run_bind, run_modify]
    split <;> simp only [run_bind, run_modify, run_pure, enqueue_tasks] <;>
      simp [Array.getElem?_modify, ht, Task.Live]

theorem abort_of_none (hn : w.tasks[id]? = none) : ((abort id).run w).2 = w := by
  simp only [abort, run_bind, task?_run, hn]
  rfl

theorem abort_arms {c : Channel} {j : Nat} {k : TaskKind} :
    ((abort id).run w).2.Arms c j k ↔ w.Arms c j k ∧ j ≠ id := by
  by_cases hj : j = id
  · subst hj
    refine iff_of_false ?_ fun h => h.2 rfl
    rintro ⟨t', ht', live', -⟩
    cases ht : w.tasks[j]? with
    | none => rw [abort_of_none w j ht, ht] at ht'; cases ht'
    | some t =>
      obtain ⟨t'', ht'', -, dead⟩ := abort_self w j ht
      rw [ht', Option.some.injEq] at ht''
      subst ht''
      exact dead live'
  · simp only [World.Arms, abort_tasks_other w id hj]
    exact ⟨fun h => ⟨h, hj⟩, fun h => h.1⟩

theorem abort_kinds : w.Kinds ((abort id).run w).2 := by
  intro j t' ht' _
  by_cases hj : j = id
  · subst hj
    cases ht : w.tasks[j]? with
    | none => rw [abort_of_none w j ht, ht] at ht'; cases ht'
    | some t =>
      obtain ⟨t'', ht'', kind, -⟩ := abort_self w j ht
      rw [ht', Option.some.injEq] at ht''
      subst ht''
      exact ⟨t, rfl, kind.symm⟩
  · exact ⟨t', by rw [← abort_tasks_other w id hj]; exact ht', rfl⟩

variable {w}

theorem spawn_task {k : TaskKind} {j : Nat} {t' : Task} (h : ((spawn k).run w).2.tasks[j]? = some t') :
    (j = w.tasks.size ∧ t' = ⟨k, .queued, false, false⟩) ∨ w.tasks[j]? = some t' := by
  rw [spawn_tasks, Array.getElem?_push] at h
  split at h
  · exact .inl ⟨‹_›, (Option.some.inj h).symm⟩
  · exact .inr h

variable (w)

theorem spawn_arms (k : TaskKind) {c : Channel} {j : Nat} {k' : TaskKind} :
    ((spawn k).run w).2.Arms c j k' ↔ w.Arms c j k' ∨ (j = w.tasks.size ∧ k' = k ∧ k.timerChannel = some c) := by
  constructor
  · rintro ⟨t', ht', live', rfl, hc⟩
    rcases spawn_task ht' with ⟨rfl, rfl⟩ | old
    · exact .inr ⟨rfl, rfl, hc⟩
    · exact .inl ⟨t', old, live', rfl, hc⟩
  · rintro (⟨t, ht, live, rfl, hc⟩ | ⟨rfl, rfl, hc⟩)
    · exact ⟨t, by rw [spawn_tasks]; exact getElem?_push_of_some ht, live, rfl, hc⟩
    · exact ⟨⟨k', .queued, false, false⟩, by simp, ⟨rfl, .inl rfl⟩, rfl, hc⟩

theorem not_arms_size {c : Channel} {k : TaskKind} : ¬ w.Arms c w.tasks.size k := by
  rintro ⟨t, ht, -⟩
  simp at ht

variable {w}

theorem World.Issued.spawn {d : Channel} {s : ChannelState} (h : w.Issued d s) {k : TaskKind}
    (hk : ∀ hh g dl a, k = .attemptTimer d hh g dl a →
      hh ≤ s.nextHandle ∧ ∀ k' ∈ s.pending, k'.handle = hh → g ≤ k'.generation) :
    ((spawn k).run w).2.Issued d s := by
  intro j t hh g dl a ht kind
  rcases spawn_task ht with ⟨-, rfl⟩ | old
  · exact hk hh g dl a kind
  · exact h j t hh g dl a old kind

theorem World.Single.spawn (h : w.Single) {k : TaskKind}
    (fresh : ∀ c hh g dl a, k = .attemptTimer c hh g dl a →
      ∀ (j : Nat) (t : Task) (dl' : Nat) (a' : Bool), w.tasks[j]? = some t → t.kind ≠ .attemptTimer c hh g dl' a') :
    ((spawn k).run w).2.Single := by
  intro i j ti tj c hh g di dj ai aj hi hj ki kj
  rcases spawn_task hi with ⟨rfl, rfl⟩ | oi <;> rcases spawn_task hj with ⟨rfl, rfl⟩ | oj
  · rfl
  · exact absurd kj (fresh c hh g di ai ki j tj dj aj oj)
  · exact absurd ki (fresh c hh g dj aj kj i ti di ai oi)
  · exact h i j ti tj c hh g di dj ai aj oi oj ki kj

end tasks

section inside

variable {w w' : World} {c : Channel} {s s' : ChannelState}

theorem World.Inside.spares (h : w.Inside c s) (hs : w.Spares w')
    (others : ∀ d, d ≠ c → w'.engine.channels.get d = w.engine.channels.get d) : w'.Inside c s where
  holds := h.holds.congr fun _ _ => hs.arms
  issued := h.issued.of_kinds hs.kinds
  others d hd := by
    rw [others d hd]
    exact ⟨(h.others d hd).1.congr fun _ _ => hs.arms, (h.others d hd).2.of_kinds hs.kinds⟩
  single := h.single.of_kinds hs.kinds

theorem World.Inside.inert (h : w.Inside c s) {α : Type} {x : Sim α} (hx : Inert x)
    (he : (x.run w).2.engine = w.engine) : (x.run w).2.Inside c s :=
  h.spares (hx w) fun d _ => by rw [he]

theorem World.Inside.rename (h : w.Inside c s) (hb : s'.backoff = s.backoff)
    (ht : ∀ x, x ∈ s'.timed ↔ x ∈ s.timed) (hsu : s.Succeeds s') : w.Inside c s' :=
  { h with holds := h.holds.rename hb ht, issued := h.issued.succeeds hsu }

theorem World.Inside.abort (h : w.Inside c s) {id : Nat} {k : TaskKind} (mine : w.Arms c id k)
    (hb : ∀ j, s'.backoff = some j ↔ s.backoff = some j ∧ j ≠ id)
    (ht : ∀ x, x ∈ s'.timed ↔ x ∈ s.timed ∧ x.1 ≠ id) (hsu : s.Succeeds s') :
    ((abort id).run w).2.Inside c s' where
  holds := h.holds.forget (fun _ _ => abort_arms w id) hb ht
  issued := (h.issued.succeeds hsu).of_kinds (abort_kinds w id)
  others d hd := by
    rw [abort_engine]
    refine ⟨(h.others d hd).1.forget_other (fun _ _ => abort_arms w id) fun k' other => ?_,
      (h.others d hd).2.of_kinds (abort_kinds w id)⟩
    obtain ⟨t, ht, -, rfl, hc⟩ := mine
    obtain ⟨t', ht', -, kind, hc'⟩ := other
    rw [ht, Option.some.injEq] at ht'
    subst ht'
    rw [← kind, hc] at hc'
    exact hd (Option.some.inj hc').symm
  single := h.single.of_kinds (abort_kinds w id)

theorem World.Inside.spawnTimer (h : w.Inside c s) {hh g dl : Nat}
    (ht : ∀ x, x ∈ s'.timed ↔ x ∈ s.timed ∨ x = (w.tasks.size, hh, g)) (hb : s'.backoff = s.backoff)
    (hsu : s.Succeeds s') (sent : ∃ k ∈ s.pending, k.handle = hh ∧ k.generation < g)
    (issued : hh ≤ s'.nextHandle ∧ ∀ k ∈ s'.pending, k.handle = hh → g ≤ k.generation) :
    ((spawn (.attemptTimer c hh g dl false)).run w).2.Inside c s' where
  holds := by
    refine h.holds.adopt (fun _ _ => spawn_arms w _) (fun _ => not_arms_size w) (fun _ => (ht _).mpr (.inr rfl))
      (fun j => ?_) (fun x => ?_)
    · rw [hb]
      exact ⟨.inl, fun h => h.resolve_right fun ⟨_, _, _, k⟩ => by cases k⟩
    · rw [ht]
      refine or_congr_right ⟨fun same => ⟨by rw [same], dl, false, by rw [same]⟩, ?_⟩
      rintro ⟨hx, dl', a', k⟩
      obtain ⟨x1, x2, x3⟩ := x
      simp only [TaskKind.attemptTimer.injEq] at k
      obtain ⟨-, rfl, rfl, -, -⟩ := k
      simp only at hx
      rw [hx]
  issued := (h.issued.succeeds hsu).spawn fun _ _ _ _ k => by
    simp only [TaskKind.attemptTimer.injEq] at k
    obtain ⟨-, rfl, rfl, -, -⟩ := k
    exact issued
  others d hd := by
    rw [spawn_engine]
    refine ⟨(h.others d hd).1.adopt_other (fun _ _ => spawn_arms w _) fun same => hd ?_,
      (h.others d hd).2.spawn fun _ _ _ _ k => ?_⟩
    · exact (Option.some.inj same).symm
    · simp only [TaskKind.attemptTimer.injEq] at k
      exact absurd k.1.symm hd
  single := World.Single.spawn h.single fun c' hh' g' dl' a' k j t dl'' a'' hj kind => by
    simp only [TaskKind.attemptTimer.injEq] at k
    obtain ⟨rfl, rfl, rfl, -, -⟩ := k
    obtain ⟨k, hk, hkh, hkg⟩ := sent
    have := (h.issued j t hh g dl'' a'' hj kind).2 k hk hkh
    omega

theorem World.Inside.spawnBackoff (h : w.Inside c s) {dl : Nat} (free : s.backoff = none)
    (hb : s'.backoff = some w.tasks.size) (ht : ∀ x, x ∈ s'.timed ↔ x ∈ s.timed) (hsu : s.Succeeds s') :
    ((spawn (.backoff c dl false)).run w).2.Inside c s' where
  holds := by
    refine h.holds.adopt (fun _ _ => spawn_arms w _) (fun _ => not_arms_size w) (fun _ => hb)
      (fun j => ?_) (fun x => ?_)
    · rw [hb, free]
      refine ⟨fun same => .inr ⟨(Option.some.inj same).symm, dl, false, rfl⟩, ?_⟩
      rintro (none | ⟨rfl, -⟩)
      · cases none
      · rfl
    · rw [ht]
      exact ⟨.inl, fun h => h.resolve_right fun ⟨_, _, _, k⟩ => by cases k⟩
  issued := (h.issued.succeeds hsu).spawn fun _ _ _ _ k => by cases k
  others d hd := by
    rw [spawn_engine]
    refine ⟨(h.others d hd).1.adopt_other (fun _ _ => spawn_arms w _) fun same => hd ?_,
      (h.others d hd).2.spawn fun _ _ _ _ k => by cases k⟩
    exact (Option.some.inj same).symm
  single := World.Single.spawn h.single fun _ _ _ _ _ k => by cases k

theorem World.Inside.store (h : w.Inside c s) (hs : w.Spares w')
    (he : w'.engine.channels = w.engine.channels.set c s') (hb : s'.backoff = s.backoff)
    (hp : s'.pending = s.pending) (hn : s'.nextHandle = s.nextHandle) : w'.Armed := by
  have named : ∀ x, x ∈ s'.timed ↔ x ∈ s.timed := fun x => by rw [ChannelState.timed, hp]; rfl
  refine ⟨fun d => ?_, fun d => ?_, h.single.of_kinds hs.kinds⟩
  · rw [he]
    by_cases hd : d = c
    · subst hd
      rw [PerChannel.get_set_self]
      exact (h.holds.rename hb named).congr fun _ _ => hs.arms
    · rw [PerChannel.get_set_other _ _ _ _ hd]
      exact (h.others d hd).1.congr fun _ _ => hs.arms
  · rw [he]
    by_cases hd : d = c
    · subst hd
      rw [PerChannel.get_set_self]
      exact (h.issued.succeeds (.of_same hp hn)).of_kinds hs.kinds
    · rw [PerChannel.get_set_other _ _ _ _ hd]
      exact (h.others d hd).2.of_kinds hs.kinds

theorem World.Inside.put (h : w.Inside c s) : ((Engine.putChan c s).run w).2.Armed :=
  h.store (inert_putChan c s w) rfl rfl rfl rfl

theorem World.Inside.settle (h : w.Inside c s) (done : Engine.Done) :
    ((Engine.settle c s done).run w).2.Armed := by
  have he : ((Engine.settle c s done).run w).2.engine.channels =
      w.engine.channels.set c (s.delivered done.size) := by
    rw [Engine.settle_engine]
  exact h.store (inert_settle c s done w) he rfl rfl rfl

end inside

end Sim

end FrameRpc
