import FrameRpc.Proofs.Engine.Delivery
import FrameRpc.Proofs.Engine.HardTimeout
set_option autoImplicit false

/-!
Synchronous calls.

A call submits its command with a fresh slot as owner and waits for the outcome in that
slot, at most the hard timeout; past it, the call cancels its command and times out. Like
a one-shot, the slot is pending while a command still holds it and is told once: the
command is accepted once, a command tells its owner once, and nothing else tells the slot.

`CallRun c h n` follows the engine from the acceptance of the call's command, as `h` on
`c`, with `told`, what slot `n` has been told since. Along it (`CallRun.state`) the slot
holds the last outcome told to it, and it is held by the command or told once: so once the
slot holds an outcome, it was told exactly that one, and the command no longer waits, is
sent or waits to be sent again (`CallState.released`). Every poll of a call keeps to this
(`pollCall_start_law`, `pollCall_waiting_law`): the call returns the outcome its slot was
told, or, when the deadline comes first, cancels its command, which tells the slot
`Cancelled`, and times out.
-/

namespace FrameRpc

namespace Sim

def slotTold (n : Nat) (told : List (Owner × Outcome)) : List Outcome :=
  told.filterMap fun x => if x.1 = .slot n then some x.2 else none

section slotTold

variable (n : Nat)

theorem length_slotTold (told : List (Owner × Outcome)) :
    (slotTold n told).length = told.countP (·.1 == .slot n) := by
  induction told with
  | nil => rfl
  | cons x t ih =>
    by_cases hx : x.1 = .slot n <;> simp [slotTold, hx] at ih ⊢ <;>
      omega

theorem outcomeAfter_getLast? (told : List (Owner × Outcome)) (l : List Outcome) :
    outcomeAfter n told l.getLast? = (l ++ slotTold n told).getLast? := by
  induction told generalizing l with
  | nil => simp [slotTold]
  | cons x t ih =>
    rw [outcomeAfter_cons]
    by_cases hx : x.1 = .slot n
    · have told : outcomeAfter n [x] l.getLast? = (l ++ [x.2]).getLast? := by
        simp [outcomeAfter, hx]
      rw [told, ih]
      simp [slotTold, hx]
    · have untold : outcomeAfter n [x] l.getLast? = l.getLast? := by simp [outcomeAfter, hx]
      rw [untold, ih]
      simp [slotTold, hx]

@[simp] theorem slotTold_cancelled : slotTold n [(.slot n, .error .cancelled)] = [.error .cancelled] := by
  simp [slotTold]

end slotTold

end Sim

namespace Engine

open Sim ChannelState

/-- The runs of an engine since a call's command was accepted as `h` on channel `c`, its
outcome going to slot `n`, with the submissions accepted so far and `told`, what the slot
has been told since, oldest first. When the command was submitted the slot was there and
empty, and no accepted submission had it as owner; no submission is accepted with it as
owner after, and around the engine the slot keeps what it holds. -/
inductive CallRun (c : Channel) (h n : Nat) :
    World → List (Channel × Nat × Owner) → List Outcome → Prop where
  | submit {w : World} {acc : List (Channel × Nat × Owner)} {opcode : UInt16} {input : List UInt8}
      {told : List (Owner × Outcome)} : Run w acc → n < w.slots.size → w.slotOutcome n = none →
      (∀ x ∈ acc, x.2.2 ≠ .slot n) →
      (Action.submit c opcode input (.slot n)).accepted w = [(c, h, .slot n)] →
      Delivered w ((Action.submit c opcode input (.slot n)).step w) told [.slot n] →
      CallRun c h n ((Action.submit c opcode input (.slot n)).step w) (acc ++ [(c, h, .slot n)])
        (slotTold n told)
  | act {w : World} {acc : List (Channel × Nat × Owner)} {ds : List Outcome}
      {told : List (Owner × Outcome)} (a : Action) : CallRun c h n w acc ds →
      (∀ x ∈ a.accepted w, x.2.2 ≠ .slot n) →
      Delivered w (a.step w) told ((a.accepted w).map (·.2.2)) →
      CallRun c h n (a.step w) (acc ++ a.accepted w) (ds ++ slotTold n told)
  | outside {w w' : World} {acc : List (Channel × Nat × Owner)} {ds : List Outcome} :
      CallRun c h n w acc ds → w'.engine = w.engine → w'.accepted = w.accepted →
      w'.link.recording = w.link.recording →
      w'.events.toList.filterMap Event.callback? = w.events.toList.filterMap Event.callback? →
      n < w'.slots.size → w'.slotOutcome n = w.slotOutcome n → CallRun c h n w' acc ds

/-- What holds all along a call: the engine's run, with the call's submission accepted
once; the slot, holding the last outcome told to it; and the slot held by a command until
it is told, and then told once. -/
structure CallState (c : Channel) (h n : Nat) (w : World) (acc : List (Channel × Nat × Owner))
    (ds : List Outcome) : Prop where
  run : Run w acc
  mem : (c, h, .slot n) ∈ acc
  once : acc.countP (·.2.2 == .slot n) = 1
  size : n < w.slots.size
  outcome : w.slotOutcome n = ds.getLast?
  held : heldBy w.engine.channels (.slot n) + ds.length = 1

section state

variable {c : Channel} {h n : Nat} {w : World} {acc : List (Channel × Nat × Owner)} {ds : List Outcome}

theorem countP_slot_eq_zero {l : List (Channel × Nat × Owner)} (hl : ∀ x ∈ l, x.2.2 ≠ .slot n) :
    l.countP (·.2.2 == .slot n) = 0 :=
  List.countP_eq_zero.mpr fun x hx => by simpa using hl x hx

theorem count_map_slot_eq_zero {l : List (Channel × Nat × Owner)} (hl : ∀ x ∈ l, x.2.2 ≠ .slot n) :
    (l.map (·.2.2)).count (.slot n) = 0 :=
  List.count_eq_zero.mpr fun hx => by
    obtain ⟨x, hx, owned⟩ := List.mem_map.mp hx
    exact hl x hx owned

theorem CallRun.state (hr : CallRun c h n w acc ds) : CallState c h n w acc ds := by
  induction hr with
  | @submit w acc opcode input told hw hn empty unowned accepted delivered =>
    -- before the submission nothing held the slot, and the submission adds one holder
    have free : heldBy w.engine.channels (.slot n) = 0 := heldBy_eq_zero fun d x hx owned =>
      unowned _ (hw.accounted.claimed d x hx) owned
    have before := delivered.held (.slot n)
    rw [free, List.count_singleton_self, ← length_slotTold] at before
    refine ⟨?_, List.mem_append_right _ (List.mem_singleton_self _), ?_, delivered.size ▸ hn, ?_, by omega⟩
    · rw [← accepted]
      exact .act _ hw
    · simp [countP_slot_eq_zero unowned]
    · rw [delivered.outcome n hn, empty]
      exact outcomeAfter_getLast? n told []
  | @act w acc ds told a _ unowned delivered ih =>
    have step := delivered.held (.slot n)
    rw [count_map_slot_eq_zero unowned, ← length_slotTold] at step
    have before := ih.held
    refine ⟨.act a ih.run, List.mem_append_left _ ih.mem, ?_, delivered.size ▸ ih.size, ?_, ?_⟩
    · rw [List.countP_append, ih.once, countP_slot_eq_zero unowned]
    · rw [delivered.outcome n ih.size, ih.outcome]
      exact outcomeAfter_getLast? n told ds
    · rw [List.length_append]
      omega
  | outside _ engine accepted recording callbacks hn kept ih =>
    exact ⟨.outside ih.run engine accepted recording callbacks, ih.mem, ih.once, hn,
      kept.trans ih.outcome, by rw [engine]; exact ih.held⟩

variable (hs : CallState c h n w acc ds)
include hs

theorem CallState.claimed {d : Channel} {h' : Nat} (held : (h', .slot n) ∈ (w.engine.channels.get d).claims) :
    d = c ∧ h' = h := by
  have same := eq_of_countP_eq_one hs.once (hs.run.accounted.claimed d _ held) hs.mem (by simp) (by simp)
  simp only [Prod.mk.injEq] at same
  exact ⟨same.1, same.2.1⟩

theorem CallState.told_le_one : ds.length ≤ 1 := by
  have := hs.held
  omega

theorem CallState.waiting_iff : ds = [] ↔ (h, .slot n) ∈ (w.engine.channels.get c).claims := by
  constructor
  · intro untold
    have held := hs.held
    rw [untold, List.length_nil, Nat.add_zero] at held
    -- some channel holds the slot, and only the call's command can
    obtain ⟨d, x, hx, owned⟩ : ∃ d, ∃ x ∈ (w.engine.channels.get d).claims, x.2 = .slot n :=
      Classical.byContradiction fun none => by
        rw [heldBy_eq_zero fun d x hx owned => none ⟨d, x, hx, owned⟩] at held
        cases held
    obtain ⟨h', o⟩ := x
    simp only at owned
    subst owned
    obtain ⟨rfl, rfl⟩ := hs.claimed hx
    exact hx
  · intro held
    have := one_le_heldBy held
    have := hs.held
    exact List.length_eq_zero_iff.mp (by omega)

theorem CallState.untold (hv : w.slotOutcome n = none) : ds = [] := by
  have last := hs.outcome
  rw [hv] at last
  exact List.getLast?_eq_none_iff.mp last.symm

theorem CallState.told_eq {r : Outcome} (hv : w.slotOutcome n = some r) : ds = [r] := by
  have last := hs.outcome
  rw [hv] at last
  have short := hs.told_le_one
  match ds, last, short with
  | [r'], last, _ => rw [List.getLast?_singleton, Option.some.injEq] at last; rw [last]

theorem CallState.released (told : ds ≠ []) :
    ∀ cmd ∈ (w.engine.channels.get c).pending, cmd.handle = h → cmd.state = .runningCancelled := by
  intro cmd mem hh
  have consistent := (hs.run.reachable.coherent c).consistent cmd mem
  refine Classical.byContradiction fun live => told (hs.waiting_iff.mpr ?_)
  obtain ⟨o, owned⟩ := Option.ne_none_iff_exists'.mp fun silent => live (consistent.owner.mp silent)
  have held : (h, o) ∈ (w.engine.channels.get c).claims := mem_claims.mpr ⟨cmd, mem, hh, owned⟩
  rw [hs.run.accounted.owner_of_claim held hs.mem] at held
  exact held

end state

/-- A call whose command was accepted as `h` on `c`, with its outcome going to slot `n`, has
ended at `w` with the slot told `d`: since the acceptance the slot was told `d` and nothing
else, no command holds it any more, and the call's command no longer waits, is sent or waits
to be sent again. -/
structure CallEnded (c : Channel) (h n : Nat) (w : World) (d : Outcome) : Prop where
  run : ∃ acc, CallRun c h n w acc [d]
  free : heldBy w.engine.channels (.slot n) = 0
  released : ∀ cmd ∈ (w.engine.channels.get c).pending, cmd.handle = h → cmd.state = .runningCancelled

theorem CallRun.ended {c : Channel} {h n : Nat} {w : World} {acc : List (Channel × Nat × Owner)}
    {d : Outcome} (hr : CallRun c h n w acc [d]) : CallEnded c h n w d := by
  have hs := hr.state
  have held := hs.held
  rw [List.length_singleton] at held
  exact ⟨⟨acc, hr⟩, by omega, hs.released (List.cons_ne_nil _ _)⟩

section steps

variable {c : Channel} {h n : Nat} {w w' : World} {acc : List (Channel × Nat × Owner)} {ds : List Outcome}

theorem CallRun.keep (hr : CallRun c h n w acc ds) (engine : w'.engine = w.engine)
    (view : w'.view = w.view) (slots : w'.slots = w.slots) : CallRun c h n w' acc ds :=
  .outside hr engine (World.accepted_eq_of_view view) (congrArg View.recording view)
    (by rw [← World.view_events, view, World.view_events]) (slots ▸ hr.state.size)
    (World.slotOutcome_of_slots slots n)

theorem CallRun.start {acc : List (Channel × Nat × Owner)} (hw : Run w acc)
    (made : ∀ x ∈ acc, ∀ m, x.2.2 = .slot m → m < w.slots.size) {w0 w1 : World} {opcode : UInt16}
    {input : List UInt8} (accepted : (Engine.submit c opcode input (.slot w.slots.size)).run w0 = (.ok h, w1))
    (engine : w0.engine = w.engine) (view : w0.view = w.view) {slot : Slot}
    (slots : w0.slots = w.slots.push slot) (empty : slot.value = none) :
    ∃ ds, CallRun c h w.slots.size w1 (acc ++ [(c, h, .slot w.slots.size)]) ds := by
  have opened : Run w0 acc := .outside hw engine (World.accepted_eq_of_view view)
    (congrArg View.recording view) (by rw [← World.view_events, view, World.view_events])
  have unowned : ∀ x ∈ acc, x.2.2 ≠ .slot w.slots.size := fun x hx owned =>
    Nat.lt_irrefl _ (made x hx _ owned)
  have named : (Action.submit c opcode input (.slot w.slots.size)).accepted w0 =
      [(c, h, .slot w.slots.size)] := by
    simp only [Action.accepted, accepted]
  obtain ⟨told, delivered⟩ :=
    submit_delivered c opcode input (.slot w.slots.size) w0 (by rw [engine]; exact hw.reachable.calm)
  rw [named] at delivered
  have start := CallRun.submit opened (by simp [slots]) (by simp [World.slotOutcome, slots, empty])
    unowned named (by rw [Action.step_submit]; exact delivered)
  rw [Action.step_submit, accepted] at start
  exact ⟨_, start⟩

theorem CallRun.act' (hr : CallRun c h n w acc ds) (a : Action)
    (unowned : ∀ x ∈ a.accepted w, x.2.2 ≠ .slot n) :
    ∃ ds', CallRun c h n (a.step w) (acc ++ a.accepted w) ds' := by
  obtain ⟨told, delivered⟩ := a.step_delivered hr.state.run.reachable.coherent hr.state.run.reachable.calm
  exact ⟨_, .act a hr unowned delivered⟩

theorem CallRun.cancel (hr : CallRun c h n w acc []) :
    CallRun c h n ((Action.cancel c h).step w) acc [.error .cancelled] := by
  have hs := hr.state
  obtain ⟨told, delivered, exact⟩ := cancel_delivered c h hs.run.reachable.coherent hs.run.reachable.calm
  rw [exact (.slot n) (hs.waiting_iff.mp rfl)] at delivered
  have cancelled := CallRun.act (Action.cancel c h) hr (fun _ hx => nomatch hx)
    (by rw [Action.step_cancel]; exact delivered)
  simpa [Action.accepted] using cancelled

end steps

end Engine

namespace Sim

open Engine

@[simp] theorem slotValue_run (n : Nat) (w : World) : (slotValue n).run w = (w.slotOutcome n, w) := rfl

theorem setTimer_run (d : Nat) (k : Waker) (w : World) :
    (setTimer d k).run w =
      if d ≤ w.now then (true, w) else (false, { w with timers := w.timers ++ [{ deadline := d, waker := k }] }) := by
  simp only [setTimer, run_bind, now_run]
  by_cases due : d ≤ w.now <;> simp [due] <;> rfl

theorem callExpired_run (spec : CallSpec) (handle : Nat) (w : World) :
    ∃ w1 : World, (callExpired spec handle).run w =
        (.ready (.error .timeout), (Action.cancel spec.channel handle).step w1) ∧
      w1.engine = w.engine ∧ w1.view = w.view ∧ w1.slots = w.slots := by
  simp only [callExpired, run_bind, run_discard, run_pure]
  exact ⟨_, rfl, emit_engine .., emit_view .., emit_keepsSlots ..⟩

/-- A call that was accepted looks at its slot at once: it returns what the slot holds, or
times out at once when the hard timeout is zero, or else sets its deadline the hard timeout
ahead and waits. -/
theorem pollCall_start_accepted (self : Waker) (spec : CallSpec) (w : World) {h : Nat} {w1 : World}
    (accepted : (submit spec.channel spec.opcode spec.payload (.slot w.slots.size)).run
      { w with slots := w.slots.push { value := none, waiter := some self } } = (.ok h, w1))
    {limit : Nat} (hlimit : w1.engine.config.hardTimeoutMs = some limit) :
    (∃ r, w1.slotOutcome w.slots.size = some r ∧ (pollCall self spec .start).run w = (.ready r, w1)) ∨
    (w1.slotOutcome w.slots.size = none ∧ limit = 0 ∧
      (pollCall self spec .start).run w = (callExpired spec h).run w1) ∨
    (w1.slotOutcome w.slots.size = none ∧ 0 < limit ∧
      (pollCall self spec .start).run w = (.pending (.waiting h w.slots.size (w1.now + limit)),
        { w1 with timers := w1.timers ++ [{ deadline := w1.now + limit, waker := self }] })) := by
  simp only [pollCall, run_bind, newSlot, run_get, run_modify, run_pure, accepted, hardTimeout,
    config_run, hlimit, now_run, slotValue_run]
  cases hv : w1.slotOutcome w.slots.size with
  | some r => exact .inl ⟨r, rfl, rfl⟩
  | none =>
    by_cases zero : limit = 0
    · subst zero
      refine .inr (.inl ⟨rfl, rfl, ?_⟩)
      simp only [run_bind, setTimer_run, Nat.add_zero, Nat.le_refl, ↓reduceIte]
    · have later : ¬ w1.now + limit ≤ w1.now := by omega
      refine .inr (.inr ⟨rfl, Nat.pos_of_ne_zero zero, ?_⟩)
      simp only [run_bind, setTimer_run, later, ↓reduceIte, Bool.false_eq_true, run_pure]

theorem pollCall_waiting_run (self : Waker) (spec : CallSpec) (h n deadline : Nat) (w : World) :
    (∃ r, w.slotOutcome n = some r ∧ (pollCall self spec (.waiting h n deadline)).run w =
      (.ready r, { w with timers := w.timers.filter (·.waker != self) })) ∨
    (w.slotOutcome n = none ∧ deadline ≤ w.now ∧
      (pollCall self spec (.waiting h n deadline)).run w = (callExpired spec h).run w) ∨
    (w.slotOutcome n = none ∧ w.now < deadline ∧
      (pollCall self spec (.waiting h n deadline)).run w = (.pending (.waiting h n deadline), w)) := by
  simp only [pollCall, run_bind, slotValue_run]
  cases hv : w.slotOutcome n with
  | some r => exact .inl ⟨r, rfl, rfl⟩
  | none =>
    right
    by_cases due : deadline ≤ w.now
    · exact .inl ⟨rfl, due, by simp only [run_bind, now_run, ge_iff_le, due, ↓reduceIte]⟩
    · exact .inr ⟨rfl, by omega, by simp only [run_bind, now_run, ge_iff_le, due, ↓reduceIte, run_pure]⟩

theorem pollCall_start_refused (self : Waker) (spec : CallSpec) (w : World) {e : EngineError}
    {w1 : World}
    (refused : (submit spec.channel spec.opcode spec.payload (.slot w.slots.size)).run
      { w with slots := w.slots.push { value := none, waiter := some self } } = (.error e, w1)) :
    (pollCall self spec .start).run w = (.ready (.error e), w1) := by
  simp only [pollCall, run_bind, newSlot, run_get, run_modify, run_pure, refused]

section laws

variable {c : Channel} {h n : Nat} {w : World} {acc : List (Channel × Nat × Owner)} {ds : List Outcome}

/-- Polling a waiting call: it waits on while the slot is empty and the deadline to come;
once the slot was told an outcome, the call has ended and returns it; and when the deadline
comes first it cancels its command, which tells the slot `Cancelled`, and times out. -/
theorem pollCall_waiting_law (hr : CallRun c h n w acc ds) (self : Waker) (spec : CallSpec)
    (hc : spec.channel = c) (deadline : Nat) :
    (ds = [] ∧ w.now < deadline ∧
        (pollCall self spec (.waiting h n deadline)).run w = (.pending (.waiting h n deadline), w)) ∨
      ∃ r d, ((pollCall self spec (.waiting h n deadline)).run w).1 = .ready r ∧
        CallEnded c h n ((pollCall self spec (.waiting h n deadline)).run w).2 d ∧
        (ds = [r] ∧ d = r ∨ ds = [] ∧ deadline ≤ w.now ∧ r = .error .timeout ∧ d = .error .cancelled) := by
  have hs := hr.state
  rcases pollCall_waiting_run self spec h n deadline w with
    ⟨r, hv, polled⟩ | ⟨empty, due, polled⟩ | ⟨empty, early, polled⟩
  · -- the slot holds an outcome, and it was told exactly that one
    have told := hs.told_eq hv
    subst told
    refine .inr ⟨r, r, by rw [polled], ?_, .inl ⟨rfl, rfl⟩⟩
    rw [polled]
    have kept : CallRun c h n { w with timers := w.timers.filter (·.waker != self) } acc [r] :=
      hr.keep rfl rfl rfl
    exact kept.ended
  · -- the deadline came first: the call cancels its command, which still holds the slot
    obtain ⟨w1, expired, engine, view, slots⟩ := callExpired_run spec h w
    have untold := hs.untold empty
    subst untold
    refine .inr ⟨.error .timeout, .error .cancelled, by rw [polled, expired], ?_,
      .inr ⟨rfl, due, rfl, rfl⟩⟩
    rw [polled, expired, hc]
    exact (hr.keep engine view slots).cancel.ended
  · exact .inl ⟨hs.untold empty, early, polled⟩

/-- Starting a call on an engine whose hard timeout is `limit`: a refused command fails the
call and queues nothing. An accepted one starts the call's run, and the call waits for the
hard timeout from now, or has ended: it returns the outcome the slot was told or, with a
hard timeout of zero, cancels its command at once, which tells the slot `Cancelled`, and
times out. -/
theorem pollCall_start_law (hw : Run w acc) (made : ∀ x ∈ acc, ∀ m, x.2.2 = .slot m → m < w.slots.size)
    (self : Waker) (spec : CallSpec) {limit : Nat} (hlimit : w.engine.config.hardTimeoutMs = some limit)
    {res : Except EngineError Nat} {w1 : World}
    (submitted : (submit spec.channel spec.opcode spec.payload (.slot w.slots.size)).run
      { w with slots := w.slots.push { value := none, waiter := some self } } = (res, w1)) :
    (∀ e, res = .error e → (pollCall self spec .start).run w =
      (.ready (.error e), { w with slots := w.slots.push { value := none, waiter := some self } })) ∧
    ∀ h, res = .ok h →
      (∃ acc', CallRun spec.channel h w.slots.size ((pollCall self spec .start).run w).2 acc' [] ∧
        0 < limit ∧ ((pollCall self spec .start).run w).1 =
          .pending (.waiting h w.slots.size (((pollCall self spec .start).run w).2.now + limit))) ∨
      ∃ r d, ((pollCall self spec .start).run w).1 = .ready r ∧
        CallEnded spec.channel h w.slots.size ((pollCall self spec .start).run w).2 d ∧
        (r = d ∨ limit = 0 ∧ r = .error .timeout ∧ d = .error .cancelled) := by
  have hsub := submit_run spec.channel spec.opcode spec.payload (.slot w.slots.size)
    { w with slots := w.slots.push { value := none, waiter := some self } }
  rw [submitted] at hsub
  dsimp only at hsub
  refine ⟨fun e refused => ?_, fun h accepted => ?_⟩
  · subst refused
    rw [pollCall_start_refused self spec w submitted, hsub.eq_of_error]
  subst accepted
  obtain ⟨ds, start⟩ := CallRun.start hw made submitted rfl rfl rfl rfl
  have hs := start.state
  rcases pollCall_start_accepted self spec w submitted (hsub.config ▸ hlimit) with
    ⟨r, hv, polled⟩ | ⟨empty, zero, polled⟩ | ⟨empty, later, polled⟩
  · have told := hs.told_eq hv
    subst told
    rw [polled]
    exact .inr ⟨r, r, rfl, start.ended, .inl rfl⟩
  · -- a hard timeout of zero has passed at once
    obtain ⟨w2, expired, engine, view, slots⟩ := callExpired_run spec h w1
    have untold := hs.untold empty
    subst untold
    rw [polled, expired]
    exact .inr ⟨_, _, rfl, (start.keep engine view slots).cancel.ended, .inr ⟨zero, rfl, rfl⟩⟩
  · have untold := hs.untold empty
    subst untold
    rw [polled]
    exact .inl ⟨_, start.keep rfl rfl rfl, later, rfl⟩

end laws

theorem fitOutcome_ok (cap : Nat) (bytes : List UInt8) :
    fitOutcome (some cap) (.ok bytes) =
      if bytes.length ≤ cap then .ok bytes else .error (.outputOverflow bytes.length cap) := by
  by_cases fits : bytes.length ≤ cap
  · simp [fitOutcome, fits]
  · simp [fitOutcome, fits, Nat.lt_of_not_le fits]

@[simp] theorem fitOutcome_error (cap : Option Nat) (e : EngineError) : fitOutcome cap (.error e) = .error e := by
  cases cap <;> rfl

theorem pollTask_call_ready (id cid : Nat) (spec : CallSpec) (cap : Option Nat) (phase : CallPhase)
    (w : World) {r : Outcome} (ready : ((pollCall (.task id) spec phase).run w).1 = .ready r) :
    ((pollTask id (.call cid spec cap phase)).run w).2.events =
      ((pollCall (.task id) spec phase).run w).2.events.push (.called cid (fitOutcome cap r) cap.isSome) := by
  simp only [pollTask, run_bind, ready]
  rfl

end Sim

end FrameRpc
