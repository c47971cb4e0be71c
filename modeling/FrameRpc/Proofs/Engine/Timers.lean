import FrameRpc.Proofs.Engine.History
set_option autoImplicit false

/-!
Attempt timers that fire late.

Main statement: `stale_timers_harmless`. Every send starts a new attempt of its command,
numbered by the command's generation, and arms a timer for that attempt alone. When such a
timer runs out, the engine acts only if the attempt is still out: the command is unfinished,
was last sent as that attempt, and waits for its answer. Otherwise nothing in the world
changes. An attempt that is over (its command has finished, has been sent again, or no
longer waits for that send) stays over whatever happens next, and one that is out is still
out or is over; so the timer of an attempt only ever acts on that attempt, and once the
attempt has been answered, resent, cancelled and reaped, or finished, it does nothing.

The reason is that every move of a channel takes each command it keeps to the same point
of its life or a later one (`ChannelState.Succeeds`): a command is sent again only under a
new generation, and a send it no longer waits for is never waited for again.
-/

namespace FrameRpc

namespace Command

/-- `k'` is the command `k` at the same point of its life or a later one: sent again since,
or sent as often and waiting for an answer only if `k` was. -/
def Follows (k k' : Command) : Prop :=
  k'.handle = k.handle ∧ (k.generation < k'.generation ∨
    (k'.generation = k.generation ∧ (k'.state.isInFlight = true → k.state.isInFlight = true)))

theorem Follows.refl (k : Command) : k.Follows k := ⟨rfl, .inr ⟨rfl, id⟩⟩

theorem Follows.trans {k k' k'' : Command} (h : k.Follows k') (h' : k'.Follows k'') :
    k.Follows k'' := by
  obtain ⟨hh, hg⟩ := h
  obtain ⟨hh', hg'⟩ := h'
  refine ⟨hh'.trans hh, ?_⟩
  rcases hg with lt | ⟨eq, out⟩ <;> rcases hg' with lt' | ⟨eq', out'⟩
  · exact .inl (Nat.lt_trans lt lt')
  · exact .inl (eq' ▸ lt)
  · exact .inl (eq ▸ lt')
  · exact .inr ⟨eq'.trans eq, out ∘ out'⟩

theorem follows_of_state {k k' : Command} (hh : k'.handle = k.handle)
    (hg : k'.generation = k.generation) (hs : k'.state = k.state) : k.Follows k' :=
  ⟨hh, .inr ⟨hg, fun out => hs ▸ out⟩⟩

theorem follows_of_idle {k k' : Command} (hh : k'.handle = k.handle)
    (hg : k'.generation = k.generation) (idle : k'.state.isInFlight = false) : k.Follows k' :=
  ⟨hh, .inr ⟨hg, fun out => absurd (idle ▸ out) Bool.false_ne_true⟩⟩

end Command

namespace ChannelState

/-- Every command of `t` is a command of `s` at the same point of its life or a later one,
or was queued under a handle that `s` had not given out; and `t` has given out every handle
that `s` had. -/
structure Succeeds (s t : ChannelState) : Prop where
  handles : s.nextHandle ≤ t.nextHandle
  commands : ∀ k' ∈ t.pending, (∃ k ∈ s.pending, k.Follows k') ∨ s.nextHandle < k'.handle

theorem eq_of_handle_eq {l : List Command} (sorted : l.Pairwise (·.handle < ·.handle))
    {k k' : Command} (hk : k ∈ l) (hk' : k' ∈ l) (h : k.handle = k'.handle) : k = k' := by
  induction l with
  | nil => cases hk
  | cons x rest ih =>
    obtain ⟨below, sorted⟩ := List.pairwise_cons.mp sorted
    rcases List.mem_cons.mp hk with rfl | later <;> rcases List.mem_cons.mp hk' with rfl | later'
    · rfl
    · exact absurd h (Nat.ne_of_lt (below k' later'))
    · exact absurd h.symm (Nat.ne_of_lt (below k later))
    · exact ih sorted later later'

section succeeds

variable {s t u : ChannelState}

theorem Succeeds.refl (s : ChannelState) : s.Succeeds s :=
  ⟨Nat.le_refl _, fun k hk => .inl ⟨k, hk, .refl k⟩⟩

theorem Succeeds.trans (h : s.Succeeds t) (h' : t.Succeeds u) : s.Succeeds u := by
  refine ⟨Nat.le_trans h.handles h'.handles, fun k'' hk'' => ?_⟩
  rcases h'.commands k'' hk'' with ⟨k', hk', later⟩ | fresh
  · rcases h.commands k' hk' with ⟨k, hk, earlier⟩ | fresh
    · exact .inl ⟨k, hk, earlier.trans later⟩
    · exact .inr (later.1 ▸ fresh)
  · exact .inr (Nat.lt_of_le_of_lt h.handles fresh)

theorem Succeeds.of_same (hp : t.pending = s.pending) (hn : t.nextHandle = s.nextHandle) :
    s.Succeeds t :=
  ⟨Nat.le_of_eq hn.symm, fun k hk => .inl ⟨k, hp ▸ hk, .refl k⟩⟩

theorem Succeeds.of_subset (hp : ∀ k ∈ t.pending, k ∈ s.pending) (hn : t.nextHandle = s.nextHandle) :
    s.Succeeds t :=
  ⟨Nat.le_of_eq hn.symm, fun k hk => .inl ⟨k, hp k hk, .refl k⟩⟩

theorem Succeeds.modify {idx : Nat} {f : Command → Command} (hp : t.pending = s.pending.modify idx f)
    (hn : t.nextHandle = s.nextHandle) (hf : ∀ k, s.pending[idx]? = some k → k.Follows (f k)) :
    s.Succeeds t := by
  refine ⟨Nat.le_of_eq hn.symm, fun k' hk' => .inl ?_⟩
  obtain ⟨j, hj⟩ := List.mem_iff_getElem?.mp (hp ▸ hk')
  rw [List.getElem?_modify] at hj
  cases hold : s.pending[j]? with
  | none => simp [hold] at hj
  | some k =>
    refine ⟨k, List.mem_of_getElem? hold, ?_⟩
    simp only [hold, Option.map_eq_map, Option.map_some, Option.some.injEq] at hj
    split at hj
    · next same =>
      subst hj same
      exact hf k hold
    · subst hj
      exact .refl k

theorem succeeds_finishAt (s : ChannelState) (idx : Nat) (r : Outcome) (done : Engine.Done) :
    s.Succeeds (s.finishAt idx r done).1 :=
  .of_subset (fun _ hk => List.mem_of_mem_eraseIdx (finishAt_pending s idx r done ▸ hk))
    (by rw [finishAt_fst]; exact reapAt_nextHandle s idx)

theorem succeeds_reapAt (s : ChannelState) (idx : Nat) : s.Succeeds (s.reapAt idx) :=
  .of_subset (fun _ hk => List.mem_of_mem_eraseIdx (reapAt_pending s idx ▸ hk)) (reapAt_nextHandle s idx)

/-! The shapes below are composed from the right, so that each intermediate channel is read
off the goal. -/

theorem Succeeds.keep (hsu : s.Succeeds t) (hp : u.pending = t.pending) (hn : u.nextHandle = t.nextHandle) :
    s.Succeeds u :=
  hsu.trans (.of_same hp hn)

theorem Succeeds.finish (hsu : s.Succeeds t) (idx : Nat) (r : Outcome) (done : Engine.Done) :
    s.Succeeds (t.finishAt idx r done).1 :=
  hsu.trans (succeeds_finishAt t idx r done)

theorem succeeds_launch {idx : Nat} {cmd : Command} (h : s.pending[idx]? = some cmd) (seq : UInt16)
    (timer : Nat) : s.Succeeds (s.launch idx cmd seq timer) :=
  .modify rfl rfl fun k hk => by
    obtain rfl := Option.some.inj (h.symm.trans hk)
    exact ⟨rfl, .inl (Nat.lt_succ_self _)⟩

theorem succeeds_spendAt (idx : Nat) (cmd : Command) : s.Succeeds (s.spendAt idx cmd) :=
  .modify rfl rfl fun _ _ => Command.follows_of_state rfl rfl rfl

theorem succeeds_timeoutAt (idx : Nat) (cmd : Command) : s.Succeeds (s.timeoutAt idx cmd) :=
  .modify rfl rfl fun _ _ => Command.follows_of_state rfl rfl rfl

theorem succeeds_stopAt (idx : Nat) : s.Succeeds (s.stopAt idx) :=
  .modify rfl rfl fun _ _ => Command.follows_of_state rfl rfl rfl

theorem succeeds_requeueAt (idx : Nat) : s.Succeeds (s.requeueAt idx) :=
  .modify rfl rfl fun _ _ => Command.follows_of_idle rfl rfl rfl

theorem succeeds_refusedRetry (idx : Nat) (cmd : Command) (backoff : Nat) :
    s.Succeeds (s.refusedRetry idx cmd backoff) :=
  (succeeds_spendAt idx cmd).trans (.modify rfl rfl fun _ _ => Command.follows_of_idle rfl rfl rfl)

theorem succeeds_refusedFinal (idx : Nat) (cmd : Command) (done : Engine.Done) :
    s.Succeeds (s.refusedFinal idx cmd done).1 := by
  refine Succeeds.finish ?_ idx _ done
  exact (succeeds_spendAt idx cmd).keep rfl rfl

theorem succeeds_failAt (idx : Nat) (r : Outcome) : s.Succeeds (s.failAt idx r).1 := by
  refine Succeeds.finish ?_ idx r #[]
  exact .of_same rfl rfl

theorem succeeds_completeAt (idx : Nat) (payload : List UInt8) : s.Succeeds (s.completeAt idx payload).1 := by
  refine Succeeds.finish ?_ idx _ #[]
  exact .of_same rfl rfl

theorem succeeds_abandonAt {idx : Nat} {cmd : Command} (h : s.pending[idx]? = some cmd)
    (hrun : cmd.state = .running) : s.Succeeds (s.abandonAt idx cmd).1 := by
  rw [abandonAt_fst]
  refine .modify rfl rfl fun k hk => ?_
  obtain rfl := Option.some.inj (h.symm.trans hk)
  exact ⟨rfl, .inr ⟨rfl, fun _ => by simp [hrun, CommandState.isInFlight]⟩⟩

theorem succeeds_enqueue (opcode : UInt16) (input : List UInt8) (owner : Owner) (started : Nat) :
    s.Succeeds (s.enqueue opcode input owner started) := by
  refine ⟨Nat.le_succ _, fun k hk => ?_⟩
  simp only [enqueue, List.mem_append, List.mem_singleton] at hk
  rcases hk with old | rfl
  · exact .inl ⟨k, old, .refl k⟩
  · exact .inr (Nat.lt_succ_self _)

theorem succeeds_drain (fuel : Nat) (s : ChannelState) (done : Engine.Done) :
    s.Succeeds (s.drain fuel done).1 := by
  induction fuel generalizing s done with
  | zero => exact .refl s
  | succ fuel ih =>
    cases hp : s.pending with
    | nil =>
      simp only [drain, hp]
      exact .refl s
    | cons cmd rest =>
      simp only [drain, hp]
      split
      · exact (succeeds_reapAt s 0).trans (ih _ _)
      · -- the command is counted as cancelled, then removed
        refine Succeeds.trans ?_ (ih _ _)
        refine Succeeds.finish ?_ 0 _ done
        exact .of_same hp.symm rfl

theorem succeeds_closing (s : ChannelState) : s.Succeeds s.closing.1 := by
  unfold closing
  split
  · refine Succeeds.trans ?_ (succeeds_drain _ _ _)
    exact .of_same rfl rfl
  · exact .refl s

theorem Attempt.succeeds {budget idx : Nat} {cmd : Command} {done : Engine.Done}
    {answer : Except TransmitError Unit} {q : ChannelState × Engine.Done}
    (h : s.pending[idx]? = some cmd) (ha : s.Attempt budget idx cmd done answer q) : s.Succeeds q.1 := by
  cases ha with
  | sent timer => exact succeeds_launch h _ timer
  | gaveUp _ => exact succeeds_refusedFinal idx cmd done
  | backedOff backoff _ => exact succeeds_refusedRetry idx cmd backoff

theorem Pumping.succeeds {budget : Nat} {p q : ChannelState × Engine.Done} (h : Pumping budget p q) :
    p.1.Succeeds q.1 := by
  induction h with
  | stop p => exact .refl _
  | attempt _ _ _ _ hcmd ha _ ih => exact (ha.succeeds hcmd).trans ih

theorem Answer.succeeds {budget idx : Nat} {cmd : Command} {f : Frame} {q : ChannelState × Engine.Done}
    (ha : s.Answer budget idx cmd f q) : s.Succeeds q.1 := by
  cases ha with
  | reaped _ => exact succeeds_reapAt s idx
  | gaveUp _ _ _ => exact (succeeds_spendAt idx cmd).trans (succeeds_failAt idx _)
  | backedOff backoff _ _ _ =>
    exact ((succeeds_spendAt idx cmd).trans (succeeds_requeueAt idx)).trans (.of_same rfl rfl)
  | completed _ _ => exact succeeds_completeAt idx _
  | failed _ _ _ => exact succeeds_failAt idx _

theorem Expiry.succeeds {budget idx : Nat} {cmd : Command} {q : ChannelState × Engine.Done}
    (he : s.Expiry budget idx cmd q) : s.Succeeds q.1 := by
  cases he with
  | reaped _ => exact succeeds_reapAt s idx
  | timedOut _ _ => exact (succeeds_timeoutAt idx cmd).trans (succeeds_failAt idx _)
  | retried _ _ => exact (succeeds_timeoutAt idx cmd).trans (succeeds_requeueAt idx)

theorem Moves.succeeds {cfg : EngineConfig} {c : Channel} {evs : List (Nat × Happening)}
    (h : s.Moves cfg c evs t) : s.Succeeds t := by
  cases h with
  | enable _ => exact .of_same rfl rfl
  | close => exact (succeeds_closing s).keep rfl rfl
  | drop => exact .of_same rfl rfl
  | @dequeue idx _ _ _ =>
    have counted : s.Succeeds s.countCancel := .of_same rfl rfl
    exact (counted.finish idx _ #[]).keep rfl rfl
  | abandon hcmd hrun => exact (succeeds_abandonAt hcmd hrun).keep rfl rfl
  | submit _ _ served =>
    exact ((succeeds_enqueue _ _ _ _).trans served.pumping.succeeds).keep rfl rfl
  | answer _ _ answered served =>
    exact (((succeeds_stopAt _).trans answered.succeeds).trans served.pumping.succeeds).keep rfl rfl
  | expire _ _ expired served =>
    exact (((succeeds_stopAt _).trans expired.succeeds).trans served.pumping.succeeds).keep rfl rfl
  | resume served =>
    have cleared : s.Succeeds { s with backoff := none } := .of_same rfl rfl
    exact (cleared.trans served.pumping.succeeds).keep rfl rfl

end succeeds

/-- Attempt `g` of command `h` is out: the command is unfinished, was last sent as its
`g`-th send, and waits for the answer to it. -/
def AttemptLive (s : ChannelState) (h g : Nat) : Prop :=
  ∃ k ∈ s.pending, k.handle = h ∧ k.generation = g ∧ k.state.isInFlight = true

/-- Attempt `g` of command `h` is over: the handle was given out, and the command has left
the channel, has been sent again since, or no longer waits for that send. -/
def AttemptOver (s : ChannelState) (h g : Nat) : Prop :=
  h ≤ s.nextHandle ∧ ∀ k ∈ s.pending, k.handle = h →
    g < k.generation ∨ (k.generation = g ∧ k.state.isInFlight = false)

section attempts

variable {s t : ChannelState} {h g : Nat}

theorem AttemptOver.not_live (ho : s.AttemptOver h g) : ¬ s.AttemptLive h g := by
  rintro ⟨k, hk, hh, hg, out⟩
  rcases ho.2 k hk hh with lt | ⟨-, idle⟩
  · exact Nat.lt_irrefl _ (hg ▸ lt)
  · rw [out] at idle
    cases idle

theorem Succeeds.attemptOver (hsu : s.Succeeds t) (ho : s.AttemptOver h g) : t.AttemptOver h g := by
  refine ⟨Nat.le_trans ho.1 hsu.handles, fun k' hk' hh => ?_⟩
  rcases hsu.commands k' hk' with ⟨k, hk, same, later⟩ | fresh
  · -- the command was there before, at an earlier point of its life
    rcases ho.2 k hk (same.symm.trans hh) with lt | ⟨eq, idle⟩ <;> rcases later with lt' | ⟨eq', out⟩
    · exact .inl (Nat.lt_trans lt lt')
    · exact .inl (eq' ▸ lt)
    · exact .inl (eq ▸ lt')
    · refine .inr ⟨eq'.trans eq, ?_⟩
      cases hout : k'.state.isInFlight
      · rfl
      · rw [out hout] at idle
        cases idle
  · have := ho.1
    omega

theorem Succeeds.attemptLive (hs : s.Coherent) (hsu : s.Succeeds t) (hl : s.AttemptLive h g) :
    t.AttemptLive h g ∨ t.AttemptOver h g := by
  obtain ⟨k, hk, hh, hg, -⟩ := hl
  by_cases still : t.AttemptLive h g
  · exact .inl still
  have bounded := hs.bounded k hk
  refine .inr ⟨Nat.le_trans (hh ▸ bounded) hsu.handles, fun k' hk' hh' => ?_⟩
  rcases hsu.commands k' hk' with ⟨k0, hk0, same, later⟩ | fresh
  · -- handles are unique, so `k'` is the command whose attempt was out
    obtain rfl : k0 = k := eq_of_handle_eq hs.sorted hk0 hk (same.symm.trans (hh'.trans hh.symm))
    rcases later with lt | ⟨eq, -⟩
    · exact .inl (hg ▸ lt)
    · refine .inr ⟨eq.trans hg, ?_⟩
      cases hout : k'.state.isInFlight
      · rfl
      · exact absurd ⟨k', hk', hh', eq.trans hg, hout⟩ still
  · omega

end attempts

theorem Expiry.eq_of_cancelled {s : ChannelState} {budget idx : Nat} {cmd : Command}
    {p : ChannelState × Engine.Done} (he : s.Expiry budget idx cmd p)
    (hrc : cmd.state = .runningCancelled) : p = (s.reapAt idx, #[]) := by
  cases he with
  | reaped _ => rfl
  | timedOut live _ => exact absurd hrc live
  | retried live _ => exact absurd hrc live

end ChannelState

theorem EngineState.Leads.succeeds {e e' : EngineState} {evs : List Happened} (hl : e.Leads evs e')
    (c : Channel) : (e.channels.get c).Succeeds (e'.channels.get c) := by
  induction hl with
  | refl => exact .refl _
  | @move _ _ _ d _ _ _ hm _ hs ih =>
    rw [hs]
    by_cases hd : c = d
    · subst hd
      rw [PerChannel.get_set_self]
      exact ih.trans hm.succeeds
    · rw [PerChannel.get_set_other _ _ _ _ hd]
      exact ih
  | quiet _ _ hs ih =>
    rw [hs]
    exact ih

namespace Engine

open Sim ChannelState

/-- The worlds a world leads to: actions one after another, with the world around the engine
changing freely in between. -/
inductive Reaches (w : World) : World → Prop where
  | refl : Reaches w w
  | act {w' : World} (a : Action) : Reaches w w' → Reaches w (a.step w')
  | outside {w' w'' : World} : Reaches w w' → w''.engine = w'.engine → Reaches w w''

theorem Reaches.leads {w w' : World} (hr : Reaches w w') {evs : List Happened}
    (h : w.engine.Chronicle evs) : ∃ evs', w.engine.Leads evs' w'.engine := by
  induction hr with
  | refl => exact ⟨[], .refl⟩
  | act a _ ih =>
    obtain ⟨evs', led⟩ := ih
    obtain ⟨_, next⟩ := a.step_leads (h.leads led)
    exact ⟨_, led.trans next⟩
  | outside _ same ih =>
    obtain ⟨evs', led⟩ := ih
    exact ⟨evs', .quiet led (by rw [same]) (by rw [same])⟩

section expiry

variable {w : World} {c : Channel} {h g : Nat}

theorem attemptTimedOut_stale (hl : ¬ (w.engine.channels.get c).AttemptLive h g) :
    ((attemptTimedOut c h g).run w).2 = w := by
  have ran := attemptTimedOut_run c h g w
  generalize ((attemptTimedOut c h g).run w).2 = w' at ran
  cases ran with
  | stale _ => rfl
  | expired _ _ hidx hcmd hg out _ _ _ =>
    exact absurd ⟨_, List.mem_of_getElem? hcmd, position_handle hidx hcmd, hg, out⟩ hl

theorem attemptTimedOut_reaps {idx : Nat} {cmd : Command}
    (hidx : (w.engine.channels.get c).position h = some idx)
    (hcmd : (w.engine.channels.get c).pending[idx]? = some cmd) (hg : cmd.generation = g)
    (hrc : cmd.state = .runningCancelled) :
    ∃ w1 : World, w1.engine = w.engine ∧ w1.view = w.view ∧
      ((attemptTimedOut c h g).run w).2 =
        pumped c (((w.engine.channels.get c).stopAt idx).reapAt idx, #[]) w1 := by
  have ran := attemptTimedOut_run c h g w
  generalize ((attemptTimedOut c h g).run w).2 = w' at ran
  cases ran with
  | stale stale =>
    have idle := stale idx cmd hidx hcmd hg
    simp [hrc, CommandState.isInFlight] at idle
  | expired p w1 hidx' hcmd' _ _ expired same shown =>
    rw [hidx, Option.some.injEq] at hidx'
    subst hidx'
    rw [hcmd, Option.some.injEq] at hcmd'
    subst hcmd'
    exact ⟨w1, same, shown, by rw [expired.eq_of_cancelled hrc]⟩

end expiry

/-- In every reachable world, the end of the attempt timer of command `h`'s send number `g`
on channel `c` changes nothing at all unless that attempt is out: the command is unfinished,
was last sent as send `g` and waits for its answer (running, or cancelled while running).
Along everything that happens afterwards, an attempt that is over stays over, and one that
is out stays out until it is over; so a timer that fires after its command was sent again,
finished or reaped, or after an answer resolved its attempt, does nothing. A timer that does
find its attempt out on a command cancelled while running removes the command without
telling anyone or counting anything, and then the channel sends again if it can. -/
theorem stale_timers_harmless {w : World} (hw : Reachable w) (c : Channel) (h g : Nat) :
    let s := w.engine.channels.get c
    (¬ s.AttemptLive h g → (Action.attemptTimedOut c h g).step w = w) ∧
    (∀ w', Reaches w w' →
      (s.AttemptOver h g → (w'.engine.channels.get c).AttemptOver h g) ∧
      (s.AttemptLive h g →
        (w'.engine.channels.get c).AttemptLive h g ∨ (w'.engine.channels.get c).AttemptOver h g)) ∧
    (∀ idx cmd, s.position h = some idx → s.pending[idx]? = some cmd → cmd.generation = g →
      cmd.state = .runningCancelled →
      ((s.stopAt idx).reapAt idx).pending = s.pending.eraseIdx idx ∧
      ((s.stopAt idx).reapAt idx).counters = s.counters ∧
      ∃ w1 : World, w1.engine = w.engine ∧ w1.view = w.view ∧
        (Action.attemptTimedOut c h g).step w = pumped c ((s.stopAt idx).reapAt idx, #[]) w1) := by
  intro s
  obtain ⟨evs, history⟩ := hw.chronicle
  refine ⟨fun hl => by rw [Action.step_attemptTimedOut]; exact attemptTimedOut_stale hl,
    fun w' later => ?_, fun idx cmd hidx hcmd hg hrc => ⟨?_, ?_, ?_⟩⟩
  · obtain ⟨_, led⟩ := later.leads history
    have moved := led.succeeds c
    exact ⟨moved.attemptOver, moved.attemptLive (hw.coherent c)⟩
  · rw [reapAt_pending]
    exact List.eraseIdx_modify_of_eq _ _ _
  · rw [reapAt_counters]
    rfl
  · rw [Action.step_attemptTimedOut]
    exact attemptTimedOut_reaps hidx hcmd hg hrc

theorem stale_timers_harmless_after_submit :
    Reachable ((Action.submit .control 7 [1, 2] (.callback 1)).step ((Action.enable .control).step
      (World.initial EngineConfig.default (.recorder ⟨#[], [], true⟩) none ""))) ∧
    let w := (Action.submit .control 7 [1, 2] (.callback 1)).step ((Action.enable .control).step
      (World.initial EngineConfig.default (.recorder ⟨#[], [], true⟩) none ""))
    let s := w.engine.channels.get .control
    (¬ s.AttemptLive 1 0 → (Action.attemptTimedOut .control 1 0).step w = w) ∧
    (∀ w', Reaches w w' →
      (s.AttemptOver 1 0 → (w'.engine.channels.get .control).AttemptOver 1 0) ∧
      (s.AttemptLive 1 0 →
        (w'.engine.channels.get .control).AttemptLive 1 0 ∨
          (w'.engine.channels.get .control).AttemptOver 1 0)) ∧
    (∀ idx cmd, s.position 1 = some idx → s.pending[idx]? = some cmd → cmd.generation = 0 →
      cmd.state = .runningCancelled →
      ((s.stopAt idx).reapAt idx).pending = s.pending.eraseIdx idx ∧
      ((s.stopAt idx).reapAt idx).counters = s.counters ∧
      ∃ w1 : World, w1.engine = w.engine ∧ w1.view = w.view ∧
        (Action.attemptTimedOut .control 1 0).step w = pumped .control ((s.stopAt idx).reapAt idx, #[]) w1) :=
  have reached := Reachable.act _ (Reachable.act _ (Reachable.initial _ _ _ (by decide)))
  ⟨reached, stale_timers_harmless reached .control 1 0⟩

end Engine

end FrameRpc
