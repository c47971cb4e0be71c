import FrameRpc.Proofs.Engine.Ticks
set_option autoImplicit false

/-!
What a tick does to one channel.

A tick changes the engine in one of three ways: not at all; by an operation the program
calls; or by a timer task that is due now, acting as its action from a world with the
engine and the clock of the tick's start (`Engine.Tick.cases_engine`). Every operation
works on one channel, and only shutting down on all of them; every other channel is left
as it was (`Engine.Action.step_get_of_spares`). A channel with a back-off armed, or with a
command in flight, is not free, and pumping it leaves it as it is
(`ChannelState.Pumping.eq_of_blocked`). Proofs about one channel along a run look at the
operations on that channel alone.
-/

namespace FrameRpc

open Sim

namespace ChannelState

theorem Pumping.eq_of_blocked {budget : Nat} {p q : ChannelState × Engine.Done}
    (h : Pumping budget p q)
    (blocked : p.1.enabled = false ∨ p.1.running ≠ none ∨ p.1.backoff ≠ none) : q = p := by
  cases h with
  | stop => rfl
  | attempt hen hr hb =>
    simp only [hen, hr, hb, Bool.true_eq_false, ne_eq, not_true_eq_false, or_self] at blocked

end ChannelState

namespace Engine

variable {c d : Channel}

section frame

theorem settled_get_other (hd : c ≠ d) (q : ChannelState × Done) (w : World) :
    (settled d q w).engine.channels.get c = w.engine.channels.get c := by
  rw [settled_engine]
  exact PerChannel.get_set_other _ _ _ _ hd

theorem pumped_get_other (hd : c ≠ d) (p : ChannelState × Done) (w : World) :
    (pumped d p w).engine.channels.get c = w.engine.channels.get c := by
  rw [pumped, settled_get_other hd, pump_engine]

theorem pumped_get_of_blocked (p : ChannelState × Done) (w : World)
    (blocked : p.1.enabled = false ∨ p.1.running ≠ none ∨ p.1.backoff ≠ none) :
    (pumped c p w).engine.channels.get c = p.1.delivered p.2.size := by
  obtain ⟨q, pumping, engine⟩ := pumped_engine c p w
  rw [engine, pumping.eq_of_blocked blocked]
  exact PerChannel.get_set_self _ _ _

variable {w w' : World}

theorem Submitted.get_other {opcode : UInt16} {input : List UInt8} {owner : Owner}
    {r : Except EngineError Nat} (h : Submitted w d opcode input owner r w') (hd : c ≠ d) :
    w'.engine.channels.get c = w.engine.channels.get c := by
  cases h with
  | tooLarge => rfl
  | disabled => rfl
  | queued w1 _ _ same => rw [pumped_get_other hd, same]

theorem Cancelled.get_other {handle : Nat} {answer : Bool} (h : Cancelled w d handle answer w')
    (hd : c ≠ d) : w'.engine.channels.get c = w.engine.channels.get c := by
  cases h with
  | ignored w1 _ same => rw [settled_get_other hd, same]
  | dequeued w1 _ _ _ same => rw [settled_get_other hd, same]
  | abandoned w1 _ _ _ same => rw [settled_get_other hd, same]

theorem Dispatched.get_other {f : Frame} (h : Dispatched w f w') (hd : c ≠ f.channel) :
    w'.engine.channels.get c = w.engine.channels.get c := by
  cases h with
  | dropped _ channels => rw [channels]; exact PerChannel.get_set_other _ _ _ _ hd
  | vanished _ _ same => rw [same]
  | answered p w1 _ _ _ same => rw [pumped_get_other hd, same]

theorem TimedOut.get_other {handle generation : Nat} (h : TimedOut w d handle generation w')
    (hd : c ≠ d) : w'.engine.channels.get c = w.engine.channels.get c := by
  cases h with
  | stale => rfl
  | expired p w1 _ _ _ _ _ same => rw [pumped_get_other hd, same]

end frame

/-- Action `a`, taken in `w`, works on a channel other than `c`: on the one it names, or on
the one the frame it receives is addressed to. Shutting down works on every channel. -/
def Action.Spares (a : Action) (w : World) (c : Channel) : Prop :=
  match a with
  | .enable d | .disable d | .submit d _ _ _ | .cancel d _ | .attemptTimedOut d _ _
  | .backoffElapsed d => d ≠ c
  | .shutdown => False
  | .receive bytes => ∀ f, Wire.decode w.engine.config.addressing bytes = .ok f → f.channel ≠ c

theorem Action.step_get_of_spares (a : Action) (w : World) (h : a.Spares w c) :
    (a.step w).engine.channels.get c = w.engine.channels.get c := by
  cases a with
  | enable d =>
    rw [Action.step_enable, (enable_run d w).1]
    split
    · exact PerChannel.get_set_other _ _ _ _ (Ne.symm h)
    · rfl
  | disable d =>
    rw [Action.step_disable, disable_engine]
    exact PerChannel.get_set_other _ _ _ _ (Ne.symm h)
  | shutdown => exact h.elim
  | submit d opcode input owner =>
    rw [Action.step_submit]
    exact (submit_run d opcode input owner w).get_other (Ne.symm h)
  | cancel d handle =>
    rw [Action.step_cancel]
    exact (cancel_run d handle w).get_other (Ne.symm h)
  | receive bytes =>
    rw [Action.step_receive]
    rcases receive_run bytes w with ⟨_, _, channels, _⟩ | ⟨f, decoded, dispatched⟩
    · rw [channels]
    · exact dispatched.get_other (Ne.symm (h f decoded))
  | attemptTimedOut d handle generation =>
    rw [Action.step_attemptTimedOut]
    exact (attemptTimedOut_run d handle generation w).get_other (Ne.symm h)
  | backoffElapsed d =>
    rw [Action.step_backoffElapsed, backoffElapsed_run]
    exact pumped_get_other (Ne.symm h) _ _

theorem TaskKind.expiry_cases {k : TaskKind} {d : Nat} {a : Bool} (clock : k.clock = some (d, a))
    (w : World) :
    (∃ c h g, k = .attemptTimer c h g d a ∧ (k.expiry.run w).2 = (Action.attemptTimedOut c h g).step w) ∨
      ∃ c, k = .backoff c d a ∧ (k.expiry.run w).2 = (Action.backoffElapsed c).step w := by
  cases k with
  | attemptTimer c h g d' a' =>
    simp only [TaskKind.clock, Option.some.injEq, Prod.mk.injEq] at clock
    obtain ⟨rfl, rfl⟩ := clock
    exact .inl ⟨c, h, g, rfl, rfl⟩
  | backoff c d' a' =>
    simp only [TaskKind.clock, Option.some.injEq, Prod.mk.injEq] at clock
    obtain ⟨rfl, rfl⟩ := clock
    exact .inr ⟨c, rfl, rfl⟩
  | _ => cases clock

/-- What a tick does to the engine: nothing; an operation the program calls; or the action
of a timer task that was live and is due now, taken from a world with the engine and the
clock of the tick's start. -/
theorem Tick.cases_engine {u u' : World} (h : Tick u u') (hu : u.Timed) :
    u'.engine = u.engine ∨ (∃ a : Action, a.byTimer = false ∧ u' = a.step u) ∨
      ∃ (id : Nat) (w1 : World) (t : Task), u.Pops id w1 ∧ u.tasks[id]? = some t ∧ t.Live ∧
        (∃ a, t.kind.clock = some (u.now, a)) ∧ u' = ((runTask id).run w1).2 ∧
        (w1.starting id).engine = u.engine ∧ (w1.starting id).now = u.now ∧
        u'.engine = (t.kind.expiry.run (w1.starting id)).2.engine := by
  cases h with
  | call a hb => exact .inr (.inl ⟨a, hb, rfl⟩)
  | @timer w1 id t pop ht clocked =>
    obtain ⟨engine, now, -, -, -, -⟩ := pop.same
    obtain ⟨-, -, same | ⟨live, due, acted⟩⟩ := hu.turn pop ht clocked
    · exact .inl same
    · exact .inr (.inr ⟨id, w1, t, pop, ht, live, due, rfl, engine, now, acted⟩)
  | fire => exact .inl (fireDue_run u).2.2.2.2.1
  | park => exact .inl (parkUntilNext_engine u)
  | aside h => exact .inl h.engine

end Engine

end FrameRpc
