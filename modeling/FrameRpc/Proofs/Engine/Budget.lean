import FrameRpc.Proofs.Engine.Service
set_option autoImplicit false

/-!
The retry budget of a command.

Main statement: `failures_spend_budget`. Along every history of an engine, the attempt
counter of every command in a channel is the number of its failed attempts so far (a
refused request, a busy answer while it runs, an expiry of its attempt timer while it
runs), and it stays under the budget. The failure that spends the last attempt finishes the
command at once, with the outcome of its kind: unavailable link after a refused request,
the busy status after a busy answer, timeout after an expiry. No other path gives these
outcomes, and no command has more requests handed to the link than the budget allows.

Each part is read off the grammar of a command's story (`Lifecycle`): a story is either
`Command.Lived` or `Ended`, and both are `Budgeted`.
-/

namespace FrameRpc

namespace Happening

/-- The outcome a failed attempt finishes its command with when it spends the last
attempt the budget allows. -/
def exhausts (budget : Nat) : Happening → Option Outcome
  | .sent false => some (.error (.transportUnavailable budget))
  | .busy => some (.error (.remote Status.queueFull.code))
  | .expired => some (.error .timeout)
  | _ => none

theorem failed_of_exhausts {budget : Nat} {x : Happening} {o : Outcome}
    (h : x.exhausts budget = some o) : x.failed = true := by
  cases x with
  | sent taken => cases taken <;> simp_all [exhausts, failed]
  | _ => simp_all [exhausts, failed]

end Happening

def EngineError.spent : EngineError → Bool
  | .transportUnavailable _ | .timeout => true
  | .remote code => code == Status.queueFull.code
  | _ => false

namespace History

def failures (story : List Happening) : Nat := story.countP Happening.failed

def sends (story : List Happening) : Nat := story.countP Happening.isSent

@[simp] theorem failures_append (a b : List Happening) :
    failures (a ++ b) = failures a + failures b :=
  List.countP_append

@[simp] theorem sends_append (a b : List Happening) : sends (a ++ b) = sends a + sends b :=
  List.countP_append

@[simp] theorem failures_queued (σ : List Happening) : failures (.queued :: σ) = failures σ := by
  simp [failures, Happening.failed]

@[simp] theorem sends_queued (σ : List Happening) : sends (.queued :: σ) = sends σ := by
  simp [sends, Happening.isSent]

/-- What a story says of the retry budget: the failed attempts never pass it, the one that
reaches it is followed by the finish of its kind and by nothing else, the outcomes of a
spent budget come from it only, and no more requests than the budget are handed out. -/
structure Budgeted (budget : Nat) (σ : List Happening) : Prop where
  failures_le : failures σ ≤ budget
  spent : budget ≤ failures σ → ∃ pre x o, σ = pre ++ [x, .finished o] ∧
    failures pre + 1 = budget ∧ x.exhausts budget = some o
  spent_only : ∀ err, .finished (.error err) ∈ σ → err.spent = true → failures σ = budget
  sends_le : sends σ ≤ budget

end History

open History

theorem Failure.failures_eq {r : List Happening} (h : Failure r) : failures r = 1 := by
  cases h <;> rfl

theorem Failure.sends_eq {r : List Happening} (h : Failure r) : sends r = 1 := by
  cases h <;> rfl

theorem Tries.counts {n : Nat} {w : List Happening} (h : Tries n w) :
    failures w = n ∧ sends w = n := by
  induction h with
  | none => exact ⟨rfl, rfl⟩
  | more _ failure ih =>
    rw [failures_append, sends_append, ih.1, ih.2, failure.failures_eq, failure.sends_eq]
    exact ⟨rfl, rfl⟩

theorem Tries.unfinished {n : Nat} {w : List Happening} (h : Tries n w) (o : Outcome) :
    .finished o ∉ w := fun hmem => by
  have := h.open _ hmem
  simp [Happening.closes] at this

theorem CommandState.failures_trail (s : CommandState) : failures s.trail = 0 := by
  cases s <;> rfl

theorem CommandState.sends_trail_le (s : CommandState) : sends s.trail ≤ 1 := by
  cases s <;> decide

/-- An ending either keeps within the budget (no failure, at most one request, none of the
outcomes of a spent budget) or spends it: the last failed attempt, one request, and the
finish of the failure's kind. -/
theorem Ending.within_or_spending {budget n : Nat} {e : List Happening} (h : Ending budget n e) :
    (n < budget ∧ failures e = 0 ∧ sends e ≤ 1 ∧
      ∀ err, .finished (.error err) ∈ e → err.spent = false) ∨
    (n + 1 = budget ∧ sends e = 1 ∧
      ∃ e0 x o, e = e0 ++ [x, .finished o] ∧ failures e0 = 0 ∧ x.exhausts budget = some o) := by
  cases h with
  | cancelled within => exact .inl ⟨within, rfl, by decide, by simp [EngineError.spent]⟩
  | closed within => exact .inl ⟨within, rfl, by decide, by simp [EngineError.spent]⟩
  | reaped within => exact .inl ⟨within, rfl, by decide, by simp⟩
  | completed _ within => exact .inl ⟨within, rfl, Nat.le_of_eq rfl, by simp⟩
  | rejected code within busy =>
    refine .inl ⟨within, rfl, Nat.le_of_eq rfl, ?_⟩
    simp [EngineError.spent, busy]
  | unsent spent => exact .inr ⟨spent, rfl, [], _, _, rfl, rfl, spent ▸ rfl⟩
  | busy spent => exact .inr ⟨spent, rfl, [.sent true], _, _, rfl, rfl, rfl⟩
  | timedOut spent => exact .inr ⟨spent, rfl, [.sent true], _, _, rfl, rfl, rfl⟩

theorem Command.Lived.failures_eq {budget : Nat} {cmd : Command} {σ : List Happening}
    (h : cmd.Lived budget σ) : failures σ = cmd.attempts := by
  obtain ⟨w, tries, -, rfl⟩ := h
  rw [failures_queued, failures_append, tries.counts.1, CommandState.failures_trail]
  rfl

theorem Command.Lived.unfinished {budget : Nat} {cmd : Command} {σ : List Happening}
    (h : cmd.Lived budget σ) (o : Outcome) : .finished o ∉ σ := by
  obtain ⟨w, tries, -, rfl⟩ := h
  intro hmem
  rcases List.mem_cons.mp hmem with hq | hmem
  · cases hq
  rcases List.mem_append.mp hmem with old | late
  · exact tries.unfinished o old
  · cases hst : cmd.state <;> simp [hst, CommandState.trail] at late

theorem Command.Lived.budgeted {budget : Nat} {cmd : Command} {σ : List Happening}
    (h : cmd.Lived budget σ) : Budgeted budget σ := by
  have counted := h.failures_eq
  have below := h.lt
  refine ⟨by omega, fun spent => by omega, fun err hmem _ => absurd hmem (h.unfinished _), ?_⟩
  obtain ⟨w, tries, -, rfl⟩ := h
  have trail := CommandState.sends_trail_le cmd.state
  rw [sends_queued, sends_append, tries.counts.2]
  omega

theorem Ended.budgeted {budget : Nat} {σ : List Happening} (hb : 0 < budget)
    (h : Ended budget σ) : Budgeted budget σ := by
  rcases h with rfl | ⟨n, w, e, tries, ending, rfl⟩
  · exact ⟨Nat.zero_le _, fun spent => absurd spent (by simp [failures]; omega),
      fun _ hmem => absurd hmem List.not_mem_nil, Nat.zero_le _⟩
  obtain ⟨failed, sent⟩ := tries.counts
  have story_failures : failures (.queued :: (w ++ e)) = n + failures e := by
    rw [failures_queued, failures_append, failed]
  have story_sends : sends (.queued :: (w ++ e)) = n + sends e := by
    rw [sends_queued, sends_append, sent]
  -- a finish in the story is in its ending: the failed attempts before it finish nothing
  have in_ending : ∀ o, .finished o ∈ Happening.queued :: (w ++ e) → .finished o ∈ e := by
    intro o hmem
    rcases List.mem_cons.mp hmem with hq | hmem
    · cases hq
    rcases List.mem_append.mp hmem with old | late
    · exact absurd old (tries.unfinished o)
    · exact late
  rcases ending.within_or_spending with ⟨within, quiet, one, plain⟩ |
    ⟨spent, one, e0, x, o, rfl, quiet, exhausts⟩
  · refine ⟨by omega, fun spent => by omega, fun err hmem hspent => ?_, by omega⟩
    rw [plain err (in_ending _ hmem)] at hspent
    cases hspent
  · have last : failures (e0 ++ [x, .finished o]) = 1 := by
      have failed_last := Happening.failed_of_exhausts exhausts
      rw [failures_append, quiet]
      simp only [failures, List.countP_cons, List.countP_nil, failed_last]
      rfl
    refine ⟨by omega, fun _ => ⟨.queued :: (w ++ e0), x, o, by simp, ?_, exhausts⟩,
      fun _ _ _ => by omega, by omega⟩
    rw [failures_queued, failures_append, failed, quiet]
    exact spent

theorem ChannelState.Told.budgeted {budget : Nat} {s : ChannelState}
    {hist : List (Nat × Happening)} (ht : s.Told budget hist) (hb : 0 < budget) (h : Nat) :
    Budgeted budget (story hist h) := by
  rcases ht.lived_or_ended h with ⟨cmd, -, -, lived⟩ | ended
  · exact lived.budgeted
  · exact ended.budgeted hb

namespace Engine

open Sim

/-- Along every history of an engine, on every channel: the budget is at least one; the
attempt counter of every queued command is the number of its failed attempts so far (a
refused request, a busy answer while it runs, an expiry of its attempt timer while it
runs) and stays under the budget; no story has more failed attempts than the budget, and
one that reaches it ends right after its last failure with the finish of that failure's
kind; the outcomes of a spent budget come only so; and no command has more requests handed
to the link than the budget. -/
theorem failures_spend_budget {e : EngineState} {evs : List Happened} (h : e.Chronicle evs)
    (c : Channel) :
    0 < e.config.retryBudget ∧
    (∀ cmd ∈ (e.channels.get c).pending,
      cmd.attempts = failures (story (Happened.on c evs) cmd.handle) ∧
        cmd.attempts < e.config.retryBudget) ∧
    (∀ handle, failures (story (Happened.on c evs) handle) ≤ e.config.retryBudget) ∧
    (∀ handle, e.config.retryBudget ≤ failures (story (Happened.on c evs) handle) →
      ∃ pre x o, story (Happened.on c evs) handle = pre ++ [x, .finished o] ∧
        failures pre + 1 = e.config.retryBudget ∧ x.exhausts e.config.retryBudget = some o) ∧
    (∀ handle err, .finished (.error err) ∈ story (Happened.on c evs) handle →
      err.spent = true → failures (story (Happened.on c evs) handle) = e.config.retryBudget) ∧
    ∀ handle, sends (story (Happened.on c evs) handle) ≤ e.config.retryBudget := by
  have hb := EngineConfig.budget_pos_of_valid h.valid
  have told := h.told c
  refine ⟨hb, fun cmd hcmd => ?_, fun handle => (told.budgeted hb handle).failures_le,
    fun handle => (told.budgeted hb handle).spent, fun handle => (told.budgeted hb handle).spent_only,
    fun handle => (told.budgeted hb handle).sends_le⟩
  have lived := told.lived cmd hcmd
  exact ⟨lived.failures_eq.symm, lived.lt⟩

theorem failures_spend_budget_after_submit :
    let w := (Action.submit .control 7 [1, 2] (.callback 1)).step ((Action.enable .control).step
      (World.initial EngineConfig.default (.recorder ⟨#[], [], true⟩) none ""))
    ∃ evs, w.engine.Chronicle evs ∧
    0 < w.engine.config.retryBudget ∧
    (∀ cmd ∈ (w.engine.channels.get .control).pending,
      cmd.attempts = failures (story (Happened.on .control evs) cmd.handle) ∧
        cmd.attempts < w.engine.config.retryBudget) ∧
    (∀ handle, failures (story (Happened.on .control evs) handle) ≤ w.engine.config.retryBudget) ∧
    (∀ handle, w.engine.config.retryBudget ≤ failures (story (Happened.on .control evs) handle) →
      ∃ pre x o, story (Happened.on .control evs) handle = pre ++ [x, .finished o] ∧
        failures pre + 1 = w.engine.config.retryBudget ∧
        x.exhausts w.engine.config.retryBudget = some o) ∧
    (∀ handle err, .finished (.error err) ∈ story (Happened.on .control evs) handle →
      err.spent = true →
        failures (story (Happened.on .control evs) handle) = w.engine.config.retryBudget) ∧
    ∀ handle, sends (story (Happened.on .control evs) handle) ≤ w.engine.config.retryBudget := by
  intro w
  have reached : Reachable w := Reachable.act _ (Reachable.act _ (Reachable.initial _ _ _ (by decide)))
  obtain ⟨evs, h⟩ := reached.chronicle
  exact ⟨evs, h, failures_spend_budget h .control⟩

end Engine

end FrameRpc
