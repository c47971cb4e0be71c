import FrameRpc.Proofs.Engine.Operations
import FrameRpc.Sim.Run
set_option autoImplicit false

/-!
The hard timeout of a call.

A call waits for its command at most the hard timeout, every attempt timing out: the
attempt timeout times the attempt budget. Durations count whole seconds in 64 bits, so the
hard timeout exists, and is that product exactly, when the product in whole seconds is
below `2^64` (`hardTimeoutMs_eq_some_iff`). `validate` checks each setting on its own and
never this product, so a validated engine may have no hard timeout
(`validate_allows_overflow`). A call on such an engine still submits its command first:
when the command is accepted, the call breaks off and the command runs on with nobody to
hear its outcome (`calls_need_hard_timeout`).
-/

namespace FrameRpc

namespace EngineConfig

variable (c : EngineConfig)

theorem hardTimeoutMs_eq_some_iff (t : Nat) :
    c.hardTimeoutMs = some t ↔
      t = c.attemptTimeoutMs * c.retryBudget ∧ c.attemptTimeoutMs * c.retryBudget / 1000 < Nat.pow 2 64 := by
  unfold hardTimeoutMs
  dsimp only
  split
  · next fits => exact ⟨fun h => ⟨(Option.some.inj h).symm, fits⟩, fun ⟨h, _⟩ => h ▸ rfl⟩
  · next tooLong => exact ⟨(fun h => nomatch h), fun ⟨_, fits⟩ => absurd fits tooLong⟩

theorem hardTimeoutMs_eq_none_iff :
    c.hardTimeoutMs = none ↔ Nat.pow 2 64 ≤ c.attemptTimeoutMs * c.retryBudget / 1000 := by
  unfold hardTimeoutMs
  dsimp only
  split
  · next fits => exact ⟨(fun h => nomatch h), fun tooLong => absurd fits (Nat.not_lt.mpr tooLong)⟩
  · next tooLong => exact ⟨fun _ => Nat.not_lt.mp tooLong, fun _ => rfl⟩

end EngineConfig

namespace Engine

open Sim

theorem Submitted.config {w w' : World} {c : Channel} {opcode : UInt16} {input : List UInt8}
    {owner : Owner} {r : Except EngineError Nat} (h : Submitted w c opcode input owner r w') :
    w'.engine.config = w.engine.config := by
  cases h with
  | tooLarge _ => rfl
  | disabled _ _ => rfl
  | queued w1 _ _ same _ =>
    obtain ⟨q, _, stored⟩ := pumped_engine c _ w1
    rw [stored, same]

end Engine

namespace Sim

open Engine

/-- Starting a call on an engine with no hard timeout: the call makes a slot for its outcome
and submits its command with that slot as owner; a refused command fails the call, and an
accepted one breaks it off. -/
theorem pollCall_start_run (self : Waker) (spec : CallSpec) (w : World)
    (overflow : w.engine.config.hardTimeoutMs = none) {p : Except EngineError Nat × World}
    (submitted : (Engine.submit spec.channel spec.opcode spec.payload (.slot w.slots.size)).run
      { w with slots := w.slots.push { value := none, waiter := some self } } = p) :
    (pollCall self spec .start).run w =
      ((match p.1 with
        | .error e => .ready (.error e)
        | .ok _ => .broken), p.2) := by
  obtain ⟨r, w'⟩ := p
  have keeps : w'.engine.config = w.engine.config := by
    have := (submit_run spec.channel spec.opcode spec.payload (.slot w.slots.size)
      { w with slots := w.slots.push { value := none, waiter := some self } }).config
    rwa [submitted] at this
  simp only [pollCall, run_bind, newSlot, run_get, run_modify, run_pure, submitted]
  cases r with
  | error e => rfl
  | ok h => simp only [hardTimeout, run_bind, config_run, keeps, overflow, run_pure]

/-- A call is bounded only by a hard timeout that exists. For every engine, the hard
timeout exists, and is the attempt timeout times the attempt budget, exactly when that
product in whole seconds is below `2^64`. When it is not, a call still submits its command
with a fresh slot as owner before it looks at the hard timeout: a refused command fails the
call, and an accepted one breaks the call off, leaving the command queued with nobody
waiting for its outcome. -/
theorem calls_need_hard_timeout (self : Waker) (spec : CallSpec) (w : World) :
    let c := w.engine.config
    (c.hardTimeoutMs = some (c.attemptTimeoutMs * c.retryBudget) ↔
      c.attemptTimeoutMs * c.retryBudget / 1000 < Nat.pow 2 64) ∧
    (Nat.pow 2 64 ≤ c.attemptTimeoutMs * c.retryBudget / 1000 →
      let call := (pollCall self spec .start).run w
      ∃ r, Submitted { w with slots := w.slots.push { value := none, waiter := some self } }
          spec.channel spec.opcode spec.payload (.slot w.slots.size) r call.2 ∧
        call.1 = match r with
          | .error e => .ready (.error e)
          | .ok _ => .broken) := by
  refine ⟨(EngineConfig.hardTimeoutMs_eq_some_iff _ _).trans (and_iff_right rfl), fun tooLong => ?_⟩
  rw [pollCall_start_run self spec w ((EngineConfig.hardTimeoutMs_eq_none_iff _).mpr tooLong) rfl]
  exact ⟨_, submit_run _ _ _ _ _, rfl⟩

/-- A call on an engine just started with an attempt timeout of 18446744073709552 ms and a
budget of a million attempts: in whole seconds the hard timeout passes `2^64`. -/
theorem calls_need_hard_timeout_on_overflow :
    let w := World.initial { EngineConfig.default with
      attemptTimeoutMs := 18446744073709552, retryBudget := 1000000 } (.recorder ⟨#[], [], true⟩) none ""
    Nat.pow 2 64 ≤ w.engine.config.attemptTimeoutMs * w.engine.config.retryBudget / 1000 ∧
    let call := (pollCall .main ⟨.control, 7, [1, 2]⟩ .start).run w
    ∃ r, Submitted { w with slots := w.slots.push { value := none, waiter := some .main } }
        .control 7 [1, 2] (.slot w.slots.size) r call.2 ∧
      call.1 = match r with
        | .error e => .ready (.error e)
        | .ok _ => .broken :=
  ⟨by decide, (calls_need_hard_timeout .main ⟨.control, 7, [1, 2]⟩ _).2 (by decide)⟩

/-- Every setting passes `validate` on its own, yet the hard timeout, in whole seconds,
does not fit in 64 bits. -/
theorem validate_allows_overflow :
    let c : EngineConfig := { EngineConfig.default with
      attemptTimeoutMs := 18446744073709552, retryBudget := 1000000 }
    c.validate = none ∧ c.hardTimeoutMs = none := by
  decide

end Sim

end FrameRpc
