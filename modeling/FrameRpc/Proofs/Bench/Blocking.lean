import FrameRpc.Proofs.Sim.Calls
import FrameRpc.Bench.Script
set_option autoImplicit false

/-!
Blocking calls in a script.

A blocking call runs on a thread outside the runtime: it makes a slot that nobody waits
on, submits its command with the slot as owner, and, while it blocks, the script may
answer the command's request and disable its channel. Then it looks at the slot once: the
outcome it holds is returned, and an empty slot means that the hard deadline passed, so
the call cancels its command and times out. Each part keeps the call's run going
(`Stays`), and the step's reply follows the law of calls (`Ends`), whichever way the
script's answer went.

With the laws of a call's polls, this gives the law of every synchronous call
(`sync_calls_end_once`): when it returns, its slot was told exactly once and its command
is no longer live.
-/

namespace FrameRpc.Bench

open Sim Engine

variable {α β : Type}

theorem act_run_bind (x : Act α) (f : α → Act β) (k : Nat) (w : World) :
    ((x >>= f).run k).run w =
      ((f ((x.run k).run w).1.1).run ((x.run k).run w).1.2).run ((x.run k).run w).2 := rfl

theorem act_run_liftM (x : Sim α) (k : Nat) (w : World) :
    ((liftM x : Act α).run k).run w = (((x.run w).1, k), (x.run w).2) := rfl

theorem act_run_pure (a : α) (k : Nat) (w : World) : ((pure a : Act α).run k).run w = ((a, k), w) := rfl

theorem onOtherThread_run (x : Sim α) (w : World) :
    (onOtherThread x).run w = ((x.run { w with otherThread := true }).1,
      { (x.run { w with otherThread := true }).2 with otherThread := w.otherThread }) := rfl

theorem status_run (c : Channel) (w : World) : (Engine.status c).run w = (w.engine.status c, w) := rfl

def Stays (P : World → Prop) (x : Act α) : Prop := ∀ k w, P w → P ((x.run k).run w).2

def Ends (P : World → Prop) (Q : Reply → World → Prop) (x : Act (Reply × Statuses)) : Prop :=
  ∀ k w, P w → Q ((x.run k).run w).1.1.1 ((x.run k).run w).2

section combinators

variable {P : World → Prop} {Q : Reply → World → Prop}

theorem Ends.bind {x : Act α} {f : α → Act (Reply × Statuses)} (hx : Stays P x)
    (hf : ∀ a, Ends P Q (f a)) : Ends P Q (x >>= f) := fun k w hw => by
  rw [act_run_bind]
  exact hf _ _ _ (hx k w hw)

theorem Ends.ite {b : Bool} {t e : Act (Reply × Statuses)} (ht : Ends P Q t) (he : Ends P Q e) :
    Ends P Q (if b = true then t else e) := by
  cases b
  · exact he
  · exact ht

theorem Stays.pure (a : α) : Stays P (pure a : Act α) := fun _ _ hw => hw

theorem Stays.lift_of_run {x : Sim α} (hx : ∀ w, (x.run w).2 = w) : Stays P (liftM x) := fun k w hw => by
  rw [act_run_liftM, hx]
  exact hw

end combinators

def Going (c : Channel) (n : Nat) (res : Except EngineError Nat) (w : World) : Prop :=
  ∀ h, res = .ok h → ∃ acc ds, CallRun c h n w acc ds

/-- The law of a blocking call's reply `r`, left at `w`: a refused command gives the refusal;
an accepted one has ended, and the call gives the outcome its slot was told, or times out,
its own cancel having told the slot `Cancelled`. -/
def Answered (c : Channel) (n : Nat) (res : Except EngineError Nat) (r : Reply) (w : World) : Prop :=
  (∀ e, res = .error e → ∃ a, r = .blocking (.error e) a) ∧
  ∀ h, res = .ok h → ∃ r' a d, r = .blocking r' a ∧ CallEnded c h n w d ∧
    (r' = d ∨ r' = .error .timeout ∧ d = .error .cancelled)

section going

variable {c : Channel} {n : Nat} {res : Except EngineError Nat}

theorem Going.act (a : Action) {w : World} (hw : Going c n res w) (none_accepted : a.accepted w = []) :
    Going c n res (a.step w) := fun h accepted => by
  obtain ⟨acc, ds, hr⟩ := hw h accepted
  obtain ⟨ds', hr'⟩ := hr.act' a (by rw [none_accepted]; exact fun _ hx => nomatch hx)
  exact ⟨_, ds', hr'⟩

theorem stays_disable (d : Channel) : Stays (Going c n res) (liftM (Engine.disable d)) := fun k w hw => by
  rw [act_run_liftM, ← Action.step_disable]
  exact hw.act _ rfl

theorem stays_answerFrame (frame : List UInt8) (status : UInt8) (payload : List UInt8) :
    Stays (Going c n res) (liftM (answerFrame frame status payload)) := fun k w hw => by
  rw [act_run_liftM]
  simp only [answerFrame, run_bind, run_get]
  split
  · exact hw
  · rw [run_bind, run_pure, ← Action.step_receive]
    exact hw.act _ rfl

theorem answered_refused {e : EngineError} (refused : res = .error e) (answer : Option (List UInt8))
    (w : World) : Answered c n res (.blocking (.error e) answer) w := by
  subst refused
  exact ⟨fun e' he => ⟨answer, by cases he; rfl⟩, fun h he => (nomatch he)⟩

theorem answered_told {h : Nat} (accepted : res = .ok h) {w : World} {acc : List (Channel × Nat × Owner)}
    {ds : List Outcome} (hr : CallRun c h n w acc ds) {r : Outcome} (hv : w.slotOutcome n = some r)
    (answer : Option (List UInt8)) : Answered c n res (.blocking r answer) w := by
  subst accepted
  have told := hr.state.told_eq hv
  subst told
  exact ⟨fun e he => (nomatch he), fun h' he => by
    cases he
    exact ⟨r, answer, r, rfl, hr.ended, .inl rfl⟩⟩

theorem answered_timeout {h : Nat} (accepted : res = .ok h) {w : World} {acc : List (Channel × Nat × Owner)}
    {ds : List Outcome} (hr : CallRun c h n w acc ds) (hv : w.slotOutcome n = none)
    (answer : Option (List UInt8)) {x : Sim Unit}
    (cancels : ∀ w : World, ∃ w1 : World, (x.run w).2 = (Action.cancel c h).step w1 ∧
      w1.engine = w.engine ∧ w1.view = w.view ∧ w1.slots = w.slots) :
    Answered c n res (.blocking (.error .timeout) answer) ((onOtherThread x).run w).2 := by
  subst accepted
  have untold := hr.state.untold hv
  subst untold
  obtain ⟨w1, cancelled, engine, view, slots⟩ := cancels { w with otherThread := true }
  have told : CallRun c h n ((onOtherThread x).run w).2 acc [.error .cancelled] := by
    rw [onOtherThread_run, cancelled]
    have aside : CallRun c h n { w with otherThread := true } acc [] := hr.keep rfl rfl rfl
    exact (aside.keep engine view slots).cancel.keep rfl rfl rfl
  exact ⟨fun e he => (nomatch he), fun h' he => by
    cases he
    exact ⟨_, answer, _, rfl, told.ended, .inr ⟨rfl, rfl⟩⟩⟩

end going

/-- A blocking call in a script, on an engine with a hard timeout: a refused command gives the
refusal, and an accepted one has ended when the call returns, with the outcome its slot was
told, or timed out. -/
theorem callBlocking_answered {w : World} {acc : List (Channel × Nat × Owner)} (hw : Run w acc)
    (made : ∀ x ∈ acc, ∀ m, x.2.2 = .slot m → m < w.slots.size)
    (fits : w.engine.config.hardTimeoutMs ≠ none) (c : Channel) (opcode : UInt16) (payload : List UInt8)
    (reply : Option (UInt8 × List UInt8)) (disable : Bool) (k : Nat) :
    Answered c w.slots.size
      ((submit c opcode payload (.slot w.slots.size)).run
        { w with slots := w.slots.push { value := none, waiter := none }, otherThread := true }).1
      (((runOp (.callBlocking c opcode payload reply disable)).run k).run w).1.1.1
      (((runOp (.callBlocking c opcode payload reply disable)).run k).run w).2 := by
  obtain ⟨res, w1, submitted⟩ : ∃ res w1, (submit c opcode payload (.slot w.slots.size)).run
      { w with slots := w.slots.push { value := none, waiter := none }, otherThread := true } = (res, w1) :=
    ⟨_, _, rfl⟩
  rw [submitted]
  have going : Going c w.slots.size res { w1 with otherThread := w.otherThread } := fun h accepted => by
    subst accepted
    obtain ⟨ds, start⟩ := CallRun.start hw made submitted rfl rfl rfl rfl
    exact ⟨_, ds, start.keep rfl rfl rfl⟩
  have keeps : w1.engine.config = w.engine.config := by
    have := (submit_run c opcode payload (.slot w.slots.size)
      { w with slots := w.slots.push { value := none, waiter := none }, otherThread := true }).config
    rwa [submitted] at this
  rw [runOp]
  simp only [act_run_bind, act_run_liftM, newSlot, run_bind, run_get, run_modify, run_pure,
    onOtherThread_run, submitted, config_run, keeps]
  have timed : w.engine.config.hardTimeoutMs.isNone = false := by
    cases h : w.engine.config.hardTimeoutMs
    · exact absurd h fits
    · rfl
  simp only [timed, Bool.and_false, Bool.false_eq_true, ↓reduceIte]
  refine (?_ : Ends (Going c w.slots.size res) (Answered c w.slots.size res) _) k _ going
  split
  refine Ends.bind (Stays.lift_of_run fun _ => rfl) fun _ => ?_
  refine Ends.bind (Stays.lift_of_run fun _ => ?_) fun _ => ?_
  · simp only [recorder, run_bind, run_get]
    split <;> rfl
  split
  refine Ends.bind (stays_answerFrame _ _ _) fun _ => ?_
  split
  all_goals
    refine Ends.bind (Stays.pure _) fun answer => ?_
    refine Ends.ite (Ends.bind (stays_disable c) fun _ => ?_) ?_
    all_goals
      intro k v hv
      cases res with
      | error e =>
        simp only [act_run_bind, act_run_pure, act_run_liftM, status_run]
        exact answered_refused rfl _ _
      | ok h =>
        obtain ⟨acc, ds, hr⟩ := hv h rfl
        simp only [act_run_bind, act_run_liftM, slotValue_run]
        cases hv : v.slotOutcome w.slots.size with
        | some r =>
          simp only [act_run_bind, act_run_pure, act_run_liftM, status_run]
          exact answered_told rfl hr hv _
        | none =>
          simp only [act_run_bind, act_run_pure, act_run_liftM, status_run]
          refine answered_timeout rfl hr hv _ fun u => ?_
          exact ⟨_, rfl, emit_engine .., emit_view .., emit_keepsSlots ..⟩

/-- Synchronous calls end their commands. On an engine whose hard timeout fits a duration, a
call whose command is refused fails with the refusal and queues nothing. Once accepted, the
call waits for its slot until the hard deadline, the attempt timeout times the attempt
budget after the submission, and when it returns it has ended: its slot was told exactly
one outcome and the command no longer waits, is sent or waits to be sent again. It returns
that outcome, unless the deadline came first: then it times out, and its own cancel told
the slot `Cancelled`. A call into a buffer reports the outcome fitted to the buffer, and a
blocking call in a script keeps to the same law. -/
theorem sync_calls_end_once {w : World} {acc : List (Channel × Nat × Owner)} (hw : Run w acc)
    (made : ∀ x ∈ acc, ∀ m, x.2.2 = .slot m → m < w.slots.size)
    (fits : w.engine.config.attemptTimeoutMs * w.engine.config.retryBudget / 1000 < Nat.pow 2 64)
    (self : Waker) (spec : CallSpec) :
    let limit := w.engine.config.attemptTimeoutMs * w.engine.config.retryBudget
    let opened := { w with slots := w.slots.push { value := none, waiter := some self } }
    let p := (pollCall self spec .start).run w
    ((∀ e, ((submit spec.channel spec.opcode spec.payload (.slot w.slots.size)).run opened).1 = .error e →
        p = (.ready (.error e), opened)) ∧
      ∀ h, ((submit spec.channel spec.opcode spec.payload (.slot w.slots.size)).run opened).1 = .ok h →
        (∃ acc', CallRun spec.channel h w.slots.size p.2 acc' [] ∧ 0 < limit ∧
          p.1 = .pending (.waiting h w.slots.size (p.2.now + limit))) ∨
        ∃ r d, p.1 = .ready r ∧ CallEnded spec.channel h w.slots.size p.2 d ∧
          (r = d ∨ limit = 0 ∧ r = .error .timeout ∧ d = .error .cancelled)) ∧
    (∀ (v : World) (acc' : List (Channel × Nat × Owner)) (ds : List Outcome) (h n deadline : Nat),
      CallRun spec.channel h n v acc' ds →
      (ds = [] ∧ v.now < deadline ∧
          (pollCall self spec (.waiting h n deadline)).run v = (.pending (.waiting h n deadline), v)) ∨
        ∃ r d, ((pollCall self spec (.waiting h n deadline)).run v).1 = .ready r ∧
          CallEnded spec.channel h n ((pollCall self spec (.waiting h n deadline)).run v).2 d ∧
          (ds = [r] ∧ d = r ∨ ds = [] ∧ deadline ≤ v.now ∧ r = .error .timeout ∧ d = .error .cancelled)) ∧
    (∀ (id cid : Nat) (cap : Option Nat) (phase : CallPhase) (v : World) (r : Outcome),
      ((pollCall (.task id) spec phase).run v).1 = .ready r →
      ((pollTask id (.call cid spec cap phase)).run v).2.events =
        ((pollCall (.task id) spec phase).run v).2.events.push (.called cid (fitOutcome cap r) cap.isSome)) ∧
    (∀ (cap : Nat) (bytes : List UInt8), fitOutcome (some cap) (.ok bytes) =
      if bytes.length ≤ cap then .ok bytes else .error (.outputOverflow bytes.length cap)) ∧
    (∀ cap e, fitOutcome cap (.error e) = .error e) ∧
    ∀ c opcode payload reply disable k, Answered c w.slots.size
      ((submit c opcode payload (.slot w.slots.size)).run
        { w with slots := w.slots.push { value := none, waiter := none }, otherThread := true }).1
      (((runOp (.callBlocking c opcode payload reply disable)).run k).run w).1.1.1
      (((runOp (.callBlocking c opcode payload reply disable)).run k).run w).2 := by
  intro limit opened p
  have hlimit : w.engine.config.hardTimeoutMs = some limit :=
    (EngineConfig.hardTimeoutMs_eq_some_iff _ _).mpr ⟨rfl, fits⟩
  obtain ⟨res, w1, submitted⟩ : ∃ res w1,
      (submit spec.channel spec.opcode spec.payload (.slot w.slots.size)).run opened = (res, w1) :=
    ⟨_, _, rfl⟩
  obtain ⟨refused, accepted⟩ := pollCall_start_law hw made self spec hlimit submitted
  rw [submitted]
  refine ⟨⟨refused, accepted⟩, fun v acc' ds h n deadline hr => pollCall_waiting_law hr self spec rfl deadline,
    fun id cid cap phase v r => pollTask_call_ready id cid spec cap phase v, fitOutcome_ok, fitOutcome_error,
    fun c opcode payload reply disable k => callBlocking_answered hw made ?_ c opcode payload reply disable k⟩
  rw [hlimit]
  exact Option.some_ne_none limit

theorem sync_calls_end_once_at_start :
    let w := World.initial EngineConfig.default (.recorder ⟨#[], [], true⟩) none ""
    let spec : CallSpec := ⟨.control, 7, [1, 2]⟩
    Run w [] ∧ (∀ x ∈ ([] : List (Channel × Nat × Owner)), ∀ m, x.2.2 = .slot m → m < w.slots.size) ∧
    w.engine.config.attemptTimeoutMs * w.engine.config.retryBudget / 1000 < Nat.pow 2 64 ∧
    let limit := w.engine.config.attemptTimeoutMs * w.engine.config.retryBudget
    let opened := { w with slots := w.slots.push { value := none, waiter := some .main } }
    let p := (pollCall .main spec .start).run w
    ((∀ e, ((submit spec.channel spec.opcode spec.payload (.slot w.slots.size)).run opened).1 = .error e →
        p = (.ready (.error e), opened)) ∧
      ∀ h, ((submit spec.channel spec.opcode spec.payload (.slot w.slots.size)).run opened).1 = .ok h →
        (∃ acc', CallRun spec.channel h w.slots.size p.2 acc' [] ∧ 0 < limit ∧
          p.1 = .pending (.waiting h w.slots.size (p.2.now + limit))) ∨
        ∃ r d, p.1 = .ready r ∧ CallEnded spec.channel h w.slots.size p.2 d ∧
          (r = d ∨ limit = 0 ∧ r = .error .timeout ∧ d = .error .cancelled)) ∧
    (∀ (v : World) (acc' : List (Channel × Nat × Owner)) (ds : List Outcome) (h n deadline : Nat),
      CallRun spec.channel h n v acc' ds →
      (ds = [] ∧ v.now < deadline ∧
          (pollCall .main spec (.waiting h n deadline)).run v = (.pending (.waiting h n deadline), v)) ∨
        ∃ r d, ((pollCall .main spec (.waiting h n deadline)).run v).1 = .ready r ∧
          CallEnded spec.channel h n ((pollCall .main spec (.waiting h n deadline)).run v).2 d ∧
          (ds = [r] ∧ d = r ∨ ds = [] ∧ deadline ≤ v.now ∧ r = .error .timeout ∧ d = .error .cancelled)) ∧
    (∀ (id cid : Nat) (cap : Option Nat) (phase : CallPhase) (v : World) (r : Outcome),
      ((pollCall (.task id) spec phase).run v).1 = .ready r →
      ((pollTask id (.call cid spec cap phase)).run v).2.events =
        ((pollCall (.task id) spec phase).run v).2.events.push (.called cid (fitOutcome cap r) cap.isSome)) ∧
    (∀ (cap : Nat) (bytes : List UInt8), fitOutcome (some cap) (.ok bytes) =
      if bytes.length ≤ cap then .ok bytes else .error (.outputOverflow bytes.length cap)) ∧
    (∀ cap e, fitOutcome cap (.error e) = .error e) ∧
    ∀ c opcode payload reply disable k, Answered c w.slots.size
      ((submit c opcode payload (.slot w.slots.size)).run
        { w with slots := w.slots.push { value := none, waiter := none }, otherThread := true }).1
      (((runOp (.callBlocking c opcode payload reply disable)).run k).run w).1.1.1
      (((runOp (.callBlocking c opcode payload reply disable)).run k).run w).2 := by
  intro w spec
  have started : Run w [] := Run.initial _ _ _ (by decide)
  have made : ∀ x ∈ ([] : List (Channel × Nat × Owner)), ∀ m, x.2.2 = .slot m → m < w.slots.size :=
    fun _ hx => nomatch hx
  have fits : w.engine.config.attemptTimeoutMs * w.engine.config.retryBudget / 1000 < Nat.pow 2 64 := by
    decide
  exact ⟨started, made, fits, sync_calls_end_once started made fits .main spec⟩

end FrameRpc.Bench
