import FrameRpc.Proofs.Engine.Backoff
import FrameRpc.Proofs.Engine.Timers
set_option autoImplicit false

/-!
The attempt timer of a channel on the virtual clock.

A request the link takes starts an attempt: the command runs, and a timer task is armed for
the attempt timeout after the clock of that moment (`Engine.Tick.attempt_timer_of_sent`).
While the attempt is out the same task times it with the same deadline
(`Engine.TicksWhile.attempt_timer`), and the clock never passes that deadline. Every
operation leaves the attempt out except an answer that passes the dispatcher's checks,
disabling the channel, shutting down, and the end of that attempt's own timer
(`Engine.Action.step_attemptLive`); cancelling the running command keeps its attempt out. A
tick therefore ends an attempt only by such a call, or by its timer acting exactly at its
deadline (`Engine.Tick.attempt_ends`). When that timer finds the command running with
attempts left, the command waits to be sent again with nothing in flight and no back-off, and
the same operation hands it to the link at once (`Engine.attemptTimedOut_resends`).

The last theorem puts this together with the back-off of `Backoff`.
-/

namespace FrameRpc

open Sim

namespace ChannelState

variable {s t : ChannelState} {h g : Nat}

theorem attemptLive_congr (hp : t.pending = s.pending) : t.AttemptLive h g ↔ s.AttemptLive h g := by
  unfold AttemptLive
  rw [hp]

theorem Coherent.front_of_attemptLive (hs : s.Coherent) (live : s.AttemptLive h g) :
    ∃ k rest, s.pending = k :: rest ∧ k.handle = h ∧ k.generation = g ∧ k.state.isInFlight = true := by
  obtain ⟨k, hk, hh, hg, hf⟩ := live
  obtain ⟨i, hi⟩ := List.mem_iff_getElem?.mp hk
  obtain ⟨-, rest, hp⟩ := hs.front_of_inFlight hi hf
  exact ⟨k, rest, hp, hh, hg, hf⟩

theorem Coherent.running_of_attemptLive (hs : s.Coherent) (live : s.AttemptLive h g) :
    s.running = some h := by
  obtain ⟨k, rest, hp, hh, -, hf⟩ := hs.front_of_attemptLive live
  rw [hs.running_eq, inFlight_cons s hp, if_pos hf, Option.map_some, hh]

theorem rejection_of_answering {seq : UInt16} {idx : Nat} (ha : s.answering seq = some idx) :
    s.rejection seq = none := by
  cases hrej : s.rejection seq with
  | none => rfl
  | some reason => simp [answering, hrej] at ha

theorem Coherent.attemptLive_eraseIdx (hs : s.Coherent) (live : s.AttemptLive h g) {idx : Nat}
    {cmd : Command} (hcmd : s.pending[idx]? = some cmd) (waiting : cmd.state.isSendable = true)
    (hp : t.pending = s.pending.eraseIdx idx) : t.AttemptLive h g := by
  obtain ⟨k, rest, hpk, hh, hg, hf⟩ := hs.front_of_attemptLive live
  have other : 0 ≠ idx := by
    rintro rfl
    rw [hpk, List.getElem?_cons_zero, Option.some.injEq] at hcmd
    subst hcmd
    cases hst : k.state <;> simp_all [CommandState.isSendable, CommandState.isInFlight]
  refine ⟨k, ?_, hh, hg, hf⟩
  rw [hp, List.mem_eraseIdx_iff_getElem?]
  exact ⟨0, other, by rw [hpk, List.getElem?_cons_zero]⟩

theorem Coherent.attemptLive_abandonAt (hs : s.Coherent) (live : s.AttemptLive h g) {idx : Nat}
    {cmd : Command} (hcmd : s.pending[idx]? = some cmd) (running : cmd.state = .running) :
    (s.abandonAt idx cmd).1.AttemptLive h g := by
  obtain ⟨k, rest, hpk, hh, hg, -⟩ := hs.front_of_attemptLive live
  obtain rfl := hs.index_of_inFlight hcmd (by rw [running]; rfl)
  rw [abandonAt_fst]
  refine ⟨{ k with state := .runningCancelled, owner := none }, ?_, hh, hg, rfl⟩
  simp [countCancel, modifyAt, hpk]

/-- When the attempt timer of the command in flight runs out with attempts left, the command
waits at the head to be sent again, its attempt spent, and the channel is free: enabled, with
nothing in flight and no back-off armed. -/
theorem Coherent.requeued (hs : s.Coherent) {k : Command} {rest : List Command}
    (hp : s.pending = k :: rest) (flying : k.state.isInFlight = true) :
    let t := ((s.stopAt 0).timeoutAt 0 k).requeueAt 0
    t.enabled = true ∧ t.running = none ∧ t.backoff = none ∧ t.nextSendable = some 0 ∧
      ∃ k', t.pending[0]? = some k' ∧ k'.handle = k.handle ∧ k'.attempts = k.attempts + 1 := by
  intro t
  have hen : s.enabled = true := by
    cases hen : s.enabled with
    | true => rfl
    | false => rw [(hs.disabled hen).1] at hp; cases hp
  have hb : s.backoff = none := (hs.inFlight_seq k (by rw [inFlight_cons s hp, if_pos flying]; rfl)).2
  have hp' : t.pending = { k with timer := none, attempts := k.attempts + 1, state := .retry } :: rest := by
    simp [t, requeueAt, timeoutAt, spendAt, stopAt, modifyAt, hp]
  refine ⟨by simpa [t, requeueAt, timeoutAt, spendAt, stopAt, modifyAt] using hen, rfl,
    by simpa [t, requeueAt, timeoutAt, spendAt, stopAt, modifyAt] using hb, ?_,
    { k with timer := none, attempts := k.attempts + 1, state := .retry }, ?_, rfl, rfl⟩
  · rw [nextSendable, hp', List.findIdx?_cons, if_pos (by rfl)]
  · rw [hp', List.getElem?_cons_zero]

end ChannelState

namespace Sim

variable {w : World} {c : Channel} {s : ChannelState} {h g : Nat}

theorem World.Holds.attemptLive_of_arms (holds : w.Holds c s) (hs : s.Coherent) {id d : Nat} {a : Bool}
    (ha : w.Arms c id (.attemptTimer c h g d a)) : s.AttemptLive h g := by
  obtain ⟨k, hk, htm, hh, hg⟩ := ChannelState.mem_timed.mp (holds.named id _ ha)
  refine ⟨k, hk, hh, hg, ?_⟩
  rw [← (hs.consistent k hk).timer, htm]
  rfl

theorem World.Holds.arms_of_attemptLive (holds : w.Holds c s) (hs : s.Coherent)
    (live : s.AttemptLive h g) : ∃ id d a, w.Arms c id (.attemptTimer c h g d a) := by
  obtain ⟨k, hk, hh, hg, hf⟩ := live
  have timed : k.timer.isSome = true := (hs.consistent k hk).timer.trans hf
  obtain ⟨id, htm⟩ := Option.isSome_iff_exists.mp timed
  exact ⟨id, holds.timers id h g (ChannelState.mem_timed.mpr ⟨k, hk, htm, hh, hg⟩)⟩

theorem World.Arms.attempt_eq (hw : w.Single) {i j d d' : Nat} {a a' : Bool}
    (hi : w.Arms c i (.attemptTimer c h g d a)) (hj : w.Arms c j (.attemptTimer c h g d' a')) :
    i = j ∧ d = d' := by
  obtain ⟨ti, hti, -, ki, -⟩ := hi
  obtain ⟨tj, htj, -, kj, -⟩ := hj
  have same := hw i j ti tj c h g d d' a a' hti htj ki kj
  subst same
  rw [hti, Option.some.injEq] at htj
  subst htj
  rw [ki, TaskKind.attemptTimer.injEq] at kj
  exact ⟨rfl, kj.2.2.2.1⟩

end Sim

namespace Engine

open ChannelState

variable {c : Channel} {h g : Nat}

section live

variable {w w' : World}

theorem Submitted.attemptLive {opcode : UInt16} {input : List UInt8} {owner : Owner}
    {r : Except EngineError Nat} (sub : Submitted w c opcode input owner r w')
    (hs : (w.engine.channels.get c).Coherent) (live : (w.engine.channels.get c).AttemptLive h g) :
    (w'.engine.channels.get c).AttemptLive h g := by
  cases sub with
  | tooLarge => exact live
  | disabled => exact live
  | queued w1 =>
    have busy := hs.running_of_attemptLive live
    rw [pumped_get_of_blocked _ _ (.inr (.inl (by simp [ChannelState.enqueue, busy])))]
    obtain ⟨k, hk, rest⟩ := live
    exact ⟨k, by simp [ChannelState.enqueue, delivered, hk], rest⟩

theorem Cancelled.attemptLive {handle : Nat} {answer : Bool} (can : Cancelled w c handle answer w')
    (hs : (w.engine.channels.get c).Coherent) (live : (w.engine.channels.get c).AttemptLive h g) :
    (w'.engine.channels.get c).AttemptLive h g := by
  cases can with
  | ignored w1 => rwa [settled_engine, PerChannel.get_set_self]
  | dequeued w1 _ hcmd waiting =>
    rw [settled_engine, PerChannel.get_set_self]
    exact hs.attemptLive_eraseIdx live hcmd waiting (by simp [delivered, countCancel])
  | abandoned w1 _ hcmd running =>
    rw [settled_engine, PerChannel.get_set_self]
    exact (attemptLive_congr rfl).mpr (hs.attemptLive_abandonAt live hcmd running)

theorem Dispatched.attemptLive {f : Frame} (dis : Dispatched w f w')
    (live : (w.engine.channels.get c).AttemptLive h g) :
    (w'.engine.channels.get c).AttemptLive h g ∨
      (f.channel = c ∧ (w.engine.channels.get c).rejection f.seq = none) := by
  by_cases hf : c = f.channel
  · subst hf
    cases dis with
    | dropped _ channels =>
      rw [channels, PerChannel.get_set_self]
      exact .inl live
    | vanished _ _ same => exact .inl (by rwa [same])
    | answered p w1 hidx => exact .inr ⟨rfl, rejection_of_answering hidx⟩
  · exact .inl (by rwa [dis.get_other hf])

theorem TimedOut.attemptLive {h' g' : Nat} (out : TimedOut w c h' g' w')
    (hs : (w.engine.channels.get c).Coherent) (live : (w.engine.channels.get c).AttemptLive h g) :
    (w'.engine.channels.get c).AttemptLive h g ∨ (h' = h ∧ g' = g) := by
  cases out with
  | stale => exact .inl live
  | expired p w1 hidx hcmd hg flying =>
    obtain ⟨k, rest, hpk, hh, hgk, -⟩ := hs.front_of_attemptLive live
    obtain ⟨rfl, -⟩ := hs.front_of_inFlight hcmd flying
    rw [hpk, List.getElem?_cons_zero, Option.some.injEq] at hcmd
    subst hcmd
    have first : (w.engine.channels.get c).pending[0]? = some k := by rw [hpk, List.getElem?_cons_zero]
    exact .inr ⟨(position_handle hidx first).symm.trans hh, hg.symm.trans hgk⟩

theorem backoffElapsed_attemptLive (w : World) (hs : (w.engine.channels.get c).Coherent)
    (live : (w.engine.channels.get c).AttemptLive h g) :
    (((backoffElapsed c).run w).2.engine.channels.get c).AttemptLive h g := by
  have busy := hs.running_of_attemptLive live
  rw [backoffElapsed_run, pumped_get_of_blocked _ _ (.inr (.inl (by simp [busy])))]
  exact live

end live

/-- Action `a`, taken in `w`, may end the attempt out on channel `c`: it is an answer for
`c` that passes the dispatcher's checks, or it disables `c`, or it shuts the engine down. -/
def Action.Ends (a : Action) (w : World) (c : Channel) : Prop :=
  match a with
  | .receive bytes => ∃ f, Wire.decode w.engine.config.addressing bytes = .ok f ∧ f.channel = c ∧
      (w.engine.channels.get c).rejection f.seq = none
  | .disable d => d = c
  | .shutdown => True
  | _ => False

theorem Action.step_attemptLive (a : Action) (w : World) (hs : (w.engine.channels.get c).Coherent)
    (live : (w.engine.channels.get c).AttemptLive h g) :
    ((a.step w).engine.channels.get c).AttemptLive h g ∨ a.Ends w c ∨ a = .attemptTimedOut c h g := by
  have spared : a.Spares w c → ((a.step w).engine.channels.get c).AttemptLive h g := fun sp => by
    rw [a.step_get_of_spares w sp]
    exact live
  cases a with
  | enable d =>
    by_cases same : d = c
    · subst same
      refine .inl ?_
      rw [Action.step_enable, (enable_run d w).1]
      split
      · rw [PerChannel.get_set_self]
        exact live
      · exact live
    · exact .inl (spared same)
  | disable d =>
    by_cases same : d = c
    · exact .inr (.inl same)
    · exact .inl (spared same)
  | shutdown => exact .inr (.inl trivial)
  | submit d opcode input owner =>
    by_cases same : d = c
    · subst same
      rw [Action.step_submit]
      exact .inl ((submit_run d opcode input owner w).attemptLive hs live)
    · exact .inl (spared same)
  | cancel d handle =>
    by_cases same : d = c
    · subst same
      rw [Action.step_cancel]
      exact .inl ((cancel_run d handle w).attemptLive hs live)
    · exact .inl (spared same)
  | receive bytes =>
    rw [Action.step_receive]
    rcases receive_run bytes w with ⟨_, _, channels, _⟩ | ⟨f, decoded, dis⟩
    · rw [channels]
      exact .inl live
    · rcases dis.attemptLive live with kept | ⟨hf, rej⟩
      · exact .inl kept
      · exact .inr (.inl ⟨f, decoded, hf, rej⟩)
  | attemptTimedOut d h' g' =>
    by_cases same : d = c
    · subst same
      rw [Action.step_attemptTimedOut]
      rcases (attemptTimedOut_run d h' g' w).attemptLive hs live with kept | ⟨rfl, rfl⟩
      · exact .inl kept
      · exact .inr (.inr rfl)
    · exact .inl (spared same)
  | backoffElapsed d =>
    by_cases same : d = c
    · subst same
      rw [Action.step_backoffElapsed]
      exact .inl (backoffElapsed_attemptLive w hs live)
    · exact .inl (spared same)

section resend

theorem pump_attempts (c : Channel) {s : ChannelState} {done : Done} (w : World)
    (hen : s.enabled = true) (hr : s.running = none) (hb : s.backoff = none) {idx : Nat}
    (hn : s.nextSendable = some idx) {cmd : Command} (hcmd : s.pending[idx]? = some cmd) :
    ∃ answer q, s.Attempt w.engine.config.retryBudget idx cmd done answer q ∧
      Pumping w.engine.config.retryBudget q ((pump c s done).run w).1 := by
  have free : (s.enabled && s.running.isNone && s.backoff.isNone) = true := by simp [hen, hr, hb]
  obtain ⟨attempt, kept, -⟩ := sendAttempt_run s idx done w c hcmd
  obtain ⟨pumping, -⟩ := pumpWith_run c s.pending.length ((sendAttempt c s idx done).run w).1.1
    ((sendAttempt c s idx done).run w).1.2 ((sendAttempt c s idx done).run w).2
  rw [kept] at pumping
  simp only [pump, pumpWith, free, ↓reduceIte, hn, run_bind]
  exact ⟨_, _, attempt, pumping⟩

/-- The end of a timer that finds its attempt out on a running command with attempts left
spends the attempt, and the command waits to be sent again with nothing in flight; the
channel backs off from nothing, so the same operation hands the command to the link at once,
before pumping on. -/
theorem attemptTimedOut_resends (w : World) (hs : (w.engine.channels.get c).Coherent) {k : Command}
    {rest : List Command} (hp : (w.engine.channels.get c).pending = k :: rest) (hk : k.state = .running)
    (left : k.attempts + 1 < w.engine.config.retryBudget) :
    ∃ p k' answer q r, ((w.engine.channels.get c).stopAt 0).Expiry w.engine.config.retryBudget 0 k p ∧
      p.1.pending[0]? = some k' ∧ k'.handle = k.handle ∧ k'.attempts = k.attempts + 1 ∧
      p.1.Attempt w.engine.config.retryBudget 0 k' p.2 answer q ∧
      Pumping w.engine.config.retryBudget q r ∧
      ((Action.attemptTimedOut c k.handle k.generation).step w).engine.channels.get c =
        r.1.delivered r.2.size := by
  have flying : k.state.isInFlight = true := by rw [hk]; rfl
  have first : (w.engine.channels.get c).pending[0]? = some k := by rw [hp, List.getElem?_cons_zero]
  have hpos : (w.engine.channels.get c).position k.handle = some 0 := by
    simp [ChannelState.position, hp, List.findIdx?_cons]
  rw [Action.step_attemptTimedOut]
  have ran := attemptTimedOut_run c k.handle k.generation w
  generalize ((attemptTimedOut c k.handle k.generation).run w).2 = w' at ran
  cases ran with
  | stale stale =>
    rw [stale 0 k hpos first rfl] at flying
    cases flying
  | expired p w1 hidx hcmd _ _ expiry same =>
    rw [hpos, Option.some.injEq] at hidx
    subst hidx
    rw [first, Option.some.injEq] at hcmd
    subst hcmd
    cases expiry with
    | reaped cancelled => rw [hk] at cancelled; cases cancelled
    | timedOut _ spent => omega
    | retried live _ =>
      obtain ⟨hen, hr, hb, hn, k', first', hh', ha'⟩ := hs.requeued hp flying
      obtain ⟨answer, q, attempt, pumping⟩ := pump_attempts c w1 hen hr hb hn first'
      rw [same] at attempt pumping
      refine ⟨_, k', answer, q, _, .retried live (by omega), first', hh', ha', attempt, pumping, ?_⟩
      rw [pumped, settled_engine, PerChannel.get_set_self]

end resend

section ticks

variable {u0 u1 u u' : World}

/-- A tick that ends an attempt is a call that may end it, or the attempt's own timer acting
at its deadline from a world with the engine and the clock of the tick's start; that tick
keeps the clock. -/
theorem Tick.attempt_ends (tick : Tick u u') (hu : u.Sound)
    (live : (u.engine.channels.get c).AttemptLive h g) (gone : ¬ (u'.engine.channels.get c).AttemptLive h g) :
    (∃ a : Action, a.byTimer = false ∧ a.Ends u c ∧ u' = a.step u) ∨
      ∃ id d a, u.Arms c id (.attemptTimer c h g d a) ∧ u.now = d ∧ u'.now = u.now ∧
        ∃ ws : World, ws.engine = u.engine ∧ ws.now = u.now ∧
          u'.engine = ((Action.attemptTimedOut c h g).step ws).engine := by
  have hs := hu.reachable.coherent c
  rcases tick.cases_engine hu.timed with same | ⟨a, byTimer, rfl⟩ |
      ⟨id, w1, t, pop, ht, tlive, ⟨a', due⟩, stepped, engine1, now1, acted⟩
  · rw [same] at gone
    exact absurd live gone
  · rcases a.step_attemptLive u hs live with kept | ends | rfl
    · exact absurd kept gone
    · exact .inl ⟨a, byTimer, ends, rfl⟩
    · cases byTimer
  · -- a timer task acts, from a world with the engine of `u`
    have clocked : t.kind.clock.isSome := by rw [due]; rfl
    have now' : u'.now = u.now := stepped ▸ (hu.timed.turn pop ht clocked).2.1
    rw [← engine1] at hs live
    rcases TaskKind.expiry_cases due (w1.starting id) with ⟨e, h', g', hk, expiry⟩ | ⟨e, -, expiry⟩
    · rw [expiry] at acted
      rcases (Action.attemptTimedOut e h' g').step_attemptLive _ hs live with kept | ends | same
      · rw [acted] at gone
        exact absurd kept gone
      · cases ends
      · cases same
        exact .inr ⟨id, u.now, a', ⟨t, ht, tlive, hk, rfl⟩, rfl, now', _, engine1, now1, acted⟩
    · rw [expiry] at acted
      rcases (Action.backoffElapsed e).step_attemptLive _ hs live with kept | ends | same
      · rw [acted] at gone
        exact absurd kept gone
      · cases ends
      · cases same

theorem Tick.attempt_timer_of_sent (tick : Tick u0 u) (hu0 : u0.Sound)
    (before : ¬ (u0.engine.channels.get c).AttemptLive h g) (after : (u.engine.channels.get c).AttemptLive h g) :
    ∃ id a, u.Arms c id (.attemptTimer c h g (u0.now + u0.engine.config.attemptTimeoutMs) a) := by
  have sound := tick.sound hu0
  obtain ⟨id, d, a, t, ht, tlive, kind, -⟩ :=
    (sound.armed.holds c).arms_of_attemptLive (sound.reachable.coherent c) after
  rcases (tick.paces hu0).timers id t ht (by rw [kind]; rfl) tlive with
    ⟨t0, ht0, arm, live0⟩ | ⟨-, a', clock⟩
  · -- a live timer of this attempt before the tick would have had the attempt out then
    rw [kind] at arm
    obtain ⟨a0, kind0⟩ := TaskKind.arm_eq_attemptTimer arm
    exact absurd ((hu0.armed.holds c).attemptLive_of_arms (hu0.reachable.coherent c)
      ⟨t0, ht0, live0, kind0, rfl⟩) before
  · rw [kind] at clock
    simp only [TaskKind.clock, TaskKind.delay, Option.some.injEq, Prod.mk.injEq] at clock
    rw [← clock.1]
    exact ⟨id, a, t, ht, tlive, kind, rfl⟩

theorem Tick.attempt_timer_kept (tick : Tick u u') (hu : u.Sound) {id d : Nat} {a : Bool}
    (ha : u.Arms c id (.attemptTimer c h g d a)) (after : (u'.engine.channels.get c).AttemptLive h g) :
    ∃ a', u'.Arms c id (.attemptTimer c h g d a') := by
  have sound := tick.sound hu
  obtain ⟨id', d', a', t', ht', live', kind', -⟩ :=
    (sound.armed.holds c).arms_of_attemptLive (sound.reachable.coherent c) after
  obtain ⟨t, ht, -, kind, -⟩ := ha
  obtain ⟨t'', ht'', arm⟩ := (tick.paces hu).kept id t ht
  have arm := arm (by rw [kind]; rfl)
  rw [kind] at arm
  obtain ⟨a0, kind''⟩ := TaskKind.arm_eq_attemptTimer arm
  -- one task times the attempt, so the live timer after the tick is the one before it
  have same := sound.armed.single id id' t'' t' c h g d d' a0 a' ht'' ht' kind'' kind'
  subst same
  rw [ht', Option.some.injEq] at ht''
  subst ht''
  rw [kind', TaskKind.attemptTimer.injEq] at kind''
  rw [kind''.2.2.2.1] at kind'
  exact ⟨a', t', ht', live', kind', rfl⟩

theorem TicksWhile.attempt_timer (start : Tick u0 u1) (hu0 : u0.Sound)
    (before : ¬ (u0.engine.channels.get c).AttemptLive h g)
    (run : TicksWhile (fun v => (v.engine.channels.get c).AttemptLive h g) u1 u)
    (live : (u.engine.channels.get c).AttemptLive h g) :
    u.Sound ∧ ∃ id a, u.Arms c id (.attemptTimer c h g (u0.now + u0.engine.config.attemptTimeoutMs) a) := by
  induction run with
  | refl => exact ⟨start.sound hu0, start.attempt_timer_of_sent hu0 before live⟩
  | tick _ out step ih =>
    obtain ⟨sound, id, a, ha⟩ := ih out
    exact ⟨step.sound sound, id, step.attempt_timer_kept sound ha live⟩

/-- An attempt that a tick from `u0` sends stays out, and the clock stays within the attempt
timeout after `u0`'s clock, until a call ends it or its timer acts exactly at that deadline,
in a tick that keeps the clock. A running command with attempts left is then handed to the
link again in that same tick. -/
theorem TicksWhile.attempt_discipline (start : Tick u0 u1) (hu0 : u0.Sound)
    (before : ¬ (u0.engine.channels.get c).AttemptLive h g)
    (run : TicksWhile (fun v => (v.engine.channels.get c).AttemptLive h g) u1 u)
    (live : (u.engine.channels.get c).AttemptLive h g) :
    u.now ≤ u0.now + u0.engine.config.attemptTimeoutMs ∧
      ∀ u', Tick u u' → ¬ (u'.engine.channels.get c).AttemptLive h g →
        (∃ a : Action, a.byTimer = false ∧ a.Ends u c ∧ u' = a.step u) ∨
        (u.now = u0.now + u0.engine.config.attemptTimeoutMs ∧ u'.now = u.now ∧
          (∃ ws : World, ws.engine = u.engine ∧ ws.now = u.now ∧
            u'.engine = ((Action.attemptTimedOut c h g).step ws).engine) ∧
          ∀ k rest, (u.engine.channels.get c).pending = k :: rest → k.state = .running →
            k.attempts + 1 < u.engine.config.retryBudget →
            ∃ p k' answer q r, ((u.engine.channels.get c).stopAt 0).Expiry u.engine.config.retryBudget 0 k p ∧
              p.1.pending[0]? = some k' ∧ k'.handle = h ∧ k'.attempts = k.attempts + 1 ∧
              p.1.Attempt u.engine.config.retryBudget 0 k' p.2 answer q ∧
              Pumping u.engine.config.retryBudget q r ∧ u'.engine.channels.get c = r.1.delivered r.2.size) := by
  obtain ⟨sound, id, a, ha⟩ := run.attempt_timer start hu0 before live
  have hs := sound.reachable.coherent c
  refine ⟨ha.now_le sound.timed (a := a) rfl, fun u' tick gone => ?_⟩
  rcases tick.attempt_ends sound live gone with called | ⟨id', d, a', ha', due, now', ws, engine, nowws, timer⟩
  · exact .inl called
  · -- the task that acts is the attempt's own, due at its deadline
    obtain ⟨-, rfl⟩ := ha.attempt_eq sound.armed.single ha'
    refine .inr ⟨due, now', ⟨ws, engine, nowws, timer⟩, fun k rest hp hk left => ?_⟩
    obtain ⟨k0, rest0, hp0, rfl, rfl, -⟩ := hs.front_of_attemptLive live
    rw [hp0, List.cons.injEq] at hp
    obtain ⟨rfl, rfl⟩ := hp
    rw [← engine] at hs hp0 left ⊢
    rw [timer]
    exact attemptTimedOut_resends ws hs hp0 hk left

end ticks

section discipline

variable {u0 u1 : World}

/-- The timers of channel `c` along a run on the virtual clock, from a sound world `u0` and a
tick to `u1`.

An attempt the tick sends stays out, and the clock within the attempt timeout after `u0`'s
clock, until a call ends it (an answer that passes the dispatcher's checks, disabling the
channel, or shutting down) or its timer acts, exactly at that deadline and without moving the
clock; a running command with attempts left is then handed to the link again in that same
tick.

A back-off the tick arms is due the busy back-off after `u0`'s clock. Along ticks that start
before that deadline with the channel enabled, no history records a request of the channel,
and the back-off stays unless the channel is disabled. In every sound world a back-off keeps
the clock from passing its deadline, and ends only by disabling or by being cleared at its
deadline, the channel then pumped.

A refused request, and a busy answer to a running command, arm a back-off only while the
command has attempts left: the one that spends the last attempt fails the command and arms
none, so nothing holds the channel's next command back. -/
theorem timer_discipline (hu0 : u0.Sound) (start : Tick u0 u1) (c : Channel) :
    (∀ h g : Nat, ¬ (u0.engine.channels.get c).AttemptLive h g →
      ∀ u : World, TicksWhile (fun v => (v.engine.channels.get c).AttemptLive h g) u1 u →
        (u.engine.channels.get c).AttemptLive h g →
        u.now ≤ u0.now + u0.engine.config.attemptTimeoutMs ∧
        ∀ u' : World, Tick u u' → ¬ (u'.engine.channels.get c).AttemptLive h g →
          (∃ a : Action, a.byTimer = false ∧ a.Ends u c ∧ u' = a.step u) ∨
          (u.now = u0.now + u0.engine.config.attemptTimeoutMs ∧ u'.now = u.now ∧
            (∃ ws : World, ws.engine = u.engine ∧ ws.now = u.now ∧
              u'.engine = ((Action.attemptTimedOut c h g).step ws).engine) ∧
            ∀ k rest, (u.engine.channels.get c).pending = k :: rest → k.state = .running →
              k.attempts + 1 < u.engine.config.retryBudget →
              ∃ p k' answer q r,
                ((u.engine.channels.get c).stopAt 0).Expiry u.engine.config.retryBudget 0 k p ∧
                p.1.pending[0]? = some k' ∧ k'.handle = h ∧ k'.attempts = k.attempts + 1 ∧
                p.1.Attempt u.engine.config.retryBudget 0 k' p.2 answer q ∧
                Pumping u.engine.config.retryBudget q r ∧
                u'.engine.channels.get c = r.1.delivered r.2.size)) ∧
    (∀ b : Nat, (u0.engine.channels.get c).backoff = none → (u1.engine.channels.get c).backoff = some b →
      u1.BacksOff c b (u0.now + u0.engine.config.busyBackoffMs) ∧
      ∀ u : World, TicksWhile (fun v => v.now < u0.now + u0.engine.config.busyBackoffMs ∧
          (v.engine.channels.get c).enabled = true) u1 u →
        (∀ evs, u1.engine.Leads evs u.engine → ∀ x ∈ Happened.on c evs, x.2.isSent = false) ∧
        (u.BacksOff c b (u0.now + u0.engine.config.busyBackoffMs) ∨
          (u.engine.channels.get c).enabled = false)) ∧
    (∀ (u u' : World) (b d : Nat), u.Sound → u.BacksOff c b d →
      u.now ≤ d ∧ (Tick u u' → (u'.engine.channels.get c).backoff ≠ some b →
        (u'.engine.channels.get c).enabled = false ∨
        (u.now = d ∧ ∃ ws : World, ws.engine = u.engine ∧ ws.now = u.now ∧
          u'.engine = (pumped c ({ ws.engine.channels.get c with backoff := none }, #[]) ws).engine))) ∧
    (∀ (s : ChannelState) (budget idx : Nat) (cmd : Command) (done : Done) (e : TransmitError)
        (q : ChannelState × Done), s.Attempt budget idx cmd done (.error e) q → s.backoff = none →
      (q.1.backoff.isSome ↔ cmd.attempts + 1 < budget)) ∧
    (∀ (s : ChannelState) (budget idx : Nat) (cmd : Command) (f : Frame) (p : ChannelState × Done),
      s.Answer budget idx cmd f p → s.backoff = none → f.status = Status.queueFull →
      cmd.state ≠ .runningCancelled → (p.1.backoff.isSome ↔ cmd.attempts + 1 < budget)) := by
  refine ⟨fun h g before u run live => run.attempt_discipline start hu0 before live, ?_, ?_,
    fun s budget idx cmd done e q tried clear => tried.backoff_iff clear,
    fun s budget idx cmd f p answered clear busy running => answered.backoff_iff clear busy running⟩
  · intro b clear armed
    have off := start.backsOff_of_armed hu0 clear armed
    refine ⟨off, fun u run => ?_⟩
    obtain ⟨-, marks, held⟩ := run.backingOff (start.sound hu0) off
    exact ⟨fun evs led => led.unsent (Nat.le_of_eq marks), held⟩
  · intro u u' b d hu off
    refine ⟨off.now_le hu.timed, fun tick ended => ?_⟩
    rcases tick.backoff_ends hu off ended with disabled | ⟨due, ws, engine, now, acted⟩
    · exact .inl disabled
    · exact .inr ⟨due, ws, engine, now, by rw [acted, backoffElapsed_run]⟩

theorem timer_discipline_after_enable :
    let u0 := World.initial EngineConfig.default (.recorder ⟨#[], [], true⟩) none ""
    let u1 := (Action.enable .control).step u0
    u0.Sound ∧ Tick u0 u1 ∧
    (∀ h g : Nat, ¬ (u0.engine.channels.get .control).AttemptLive h g →
      ∀ u : World, TicksWhile (fun v => (v.engine.channels.get .control).AttemptLive h g) u1 u →
        (u.engine.channels.get .control).AttemptLive h g →
        u.now ≤ u0.now + u0.engine.config.attemptTimeoutMs ∧
        ∀ u' : World, Tick u u' → ¬ (u'.engine.channels.get .control).AttemptLive h g →
          (∃ a : Action, a.byTimer = false ∧ a.Ends u .control ∧ u' = a.step u) ∨
          (u.now = u0.now + u0.engine.config.attemptTimeoutMs ∧ u'.now = u.now ∧
            (∃ ws : World, ws.engine = u.engine ∧ ws.now = u.now ∧
              u'.engine = ((Action.attemptTimedOut .control h g).step ws).engine) ∧
            ∀ k rest, (u.engine.channels.get .control).pending = k :: rest → k.state = .running →
              k.attempts + 1 < u.engine.config.retryBudget →
              ∃ p k' answer q r,
                ((u.engine.channels.get .control).stopAt 0).Expiry u.engine.config.retryBudget 0 k p ∧
                p.1.pending[0]? = some k' ∧ k'.handle = h ∧ k'.attempts = k.attempts + 1 ∧
                p.1.Attempt u.engine.config.retryBudget 0 k' p.2 answer q ∧
                Pumping u.engine.config.retryBudget q r ∧
                u'.engine.channels.get .control = r.1.delivered r.2.size)) ∧
    (∀ b : Nat, (u0.engine.channels.get .control).backoff = none → (u1.engine.channels.get .control).backoff = some b →
      u1.BacksOff .control b (u0.now + u0.engine.config.busyBackoffMs) ∧
      ∀ u : World, TicksWhile (fun v => v.now < u0.now + u0.engine.config.busyBackoffMs ∧
          (v.engine.channels.get .control).enabled = true) u1 u →
        (∀ evs, u1.engine.Leads evs u.engine → ∀ x ∈ Happened.on .control evs, x.2.isSent = false) ∧
        (u.BacksOff .control b (u0.now + u0.engine.config.busyBackoffMs) ∨
          (u.engine.channels.get .control).enabled = false)) ∧
    (∀ (u u' : World) (b d : Nat), u.Sound → u.BacksOff .control b d →
      u.now ≤ d ∧ (Tick u u' → (u'.engine.channels.get .control).backoff ≠ some b →
        (u'.engine.channels.get .control).enabled = false ∨
        (u.now = d ∧ ∃ ws : World, ws.engine = u.engine ∧ ws.now = u.now ∧
          u'.engine = (pumped .control ({ ws.engine.channels.get .control with backoff := none }, #[]) ws).engine))) ∧
    (∀ (s : ChannelState) (budget idx : Nat) (cmd : Command) (done : Done) (e : TransmitError)
        (q : ChannelState × Done), s.Attempt budget idx cmd done (.error e) q → s.backoff = none →
      (q.1.backoff.isSome ↔ cmd.attempts + 1 < budget)) ∧
    (∀ (s : ChannelState) (budget idx : Nat) (cmd : Command) (f : Frame) (p : ChannelState × Done),
      s.Answer budget idx cmd f p → s.backoff = none → f.status = Status.queueFull →
      cmd.state ≠ .runningCancelled → (p.1.backoff.isSome ↔ cmd.attempts + 1 < budget)) :=
  have sound : (World.initial EngineConfig.default (.recorder ⟨#[], [], true⟩) none "").Sound :=
    ⟨Reachable.initial _ _ _ (by decide), World.initial_timed _ _ _ _, World.initial_armed _ _ _ _⟩
  have tick := Tick.call (w := World.initial EngineConfig.default (.recorder ⟨#[], [], true⟩) none "")
    (Action.enable .control) rfl
  ⟨sound, tick, timer_discipline sound tick .control⟩

/-- With a budget of one attempt, the refused request of the first command on a channel fails
it at once and arms no back-off, and the next command, submitted at the same instant, is
handed to the link: within the busy back-off after the refusal. -/
theorem refusal_spending_budget_sends_next :
    let u1 := (Action.enable .spawn).step
      (World.initial { EngineConfig.default with retryBudget := 1 } (.recorder ⟨#[], [.busy], true⟩) none "")
    let u2 := (Action.submit .spawn 1 [] (.callback 1)).step u1
    let u3 := (Action.submit .spawn 2 [] (.callback 2)).step u2
    (u2.engine.channels.get .spawn).counters.failed = 1 ∧ (u2.engine.channels.get .spawn).backoff = none ∧
      (u3.engine.channels.get .spawn).counters.sent = 1 ∧ (u3.engine.channels.get .spawn).running = some 2 ∧
      u3.accepted.size = 1 ∧ u3.now = u1.now ∧ u1.now < u1.now + u1.engine.config.busyBackoffMs := by
  decide +kernel

end discipline

end Engine

end FrameRpc
