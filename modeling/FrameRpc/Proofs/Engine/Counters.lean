import FrameRpc.Proofs.Engine.Completion
set_option autoImplicit false

/-!
The counters balance.

A channel counts every submission it accepts, and every command it finishes under exactly
one of completed, failed and cancelled, at the moment the command's owner is told: a
command cancelled while running is counted then, and reaped later without a count. So
between operations the submitted counter is the finished counters plus the unfinished
commands whose owner has not been told yet (`ChannelState.Balanced`).

Every change an operation makes moves this tally by the submissions it accepts and by
nothing else (`ChannelState.Tallied`), one lemma for each shape of change; the balance then
holds in every reachable world, and over a run the submitted counter is the number of
submissions the channel accepted. As each owner is told once, the callbacks reported as run
for the submissions a channel accepted number its finished commands, whenever each of those
submissions registered a callback of its own (`callbackRunsOn`).
-/

namespace FrameRpc

namespace ChannelState

def finished (s : ChannelState) : Nat :=
  s.counters.completed + s.counters.failed + s.counters.cancelled

def untold (s : ChannelState) : Nat := s.pending.countP (·.state != .runningCancelled)

def Balanced (s : ChannelState) : Prop := s.counters.submitted = s.finished + s.untold

/-- `t` counts `k` more submissions than `s`, each of them also untold, and nothing else
moves the tally. -/
structure Tallied (k : Nat) (s t : ChannelState) : Prop where
  submitted : t.counters.submitted = s.counters.submitted + k
  balance : t.finished + t.untold = s.finished + s.untold + k

section untold

variable {s t : ChannelState} {idx : Nat} {cmd : Command}

theorem untold_congr (h : t.pending = s.pending) : t.untold = s.untold := by
  rw [untold, untold, h]

theorem untold_around (h : s.pending[idx]? = some cmd) :
    s.untold = (s.pending.take idx).countP (·.state != .runningCancelled) +
      (if cmd.state != .runningCancelled then 1 else 0) +
      (s.pending.drop (idx + 1)).countP (·.state != .runningCancelled) := by
  obtain ⟨hlt, rfl⟩ := List.getElem?_eq_some_iff.mp h
  have split : s.pending = s.pending.take idx ++ s.pending[idx] :: s.pending.drop (idx + 1) := by
    rw [← List.drop_eq_getElem_cons hlt, List.take_append_drop]
  refine (congrArg (List.countP _) split).trans ?_
  rw [List.countP_append, List.countP_cons]
  omega

theorem untold_modify {f : Command → Command} (ht : t.pending = s.pending.modify idx f)
    (hf : ∀ k, s.pending[idx]? = some k → ((f k).state = .runningCancelled ↔ k.state = .runningCancelled)) :
    t.untold = s.untold := by
  cases h : s.pending[idx]? with
  | none => rw [untold, untold, ht, List.modify_eq_self (List.getElem?_eq_none_iff.mp h)]
  | some k =>
    have hlt := (List.getElem?_eq_some_iff.mp h).1
    obtain rfl : s.pending[idx] = k := (List.getElem?_eq_some_iff.mp h).2
    have same : ((f s.pending[idx]).state != .runningCancelled) = (s.pending[idx].state != .runningCancelled) :=
      Bool.eq_iff_iff.mpr (by simpa only [bne_iff_ne] using not_congr (hf _ h))
    rw [untold_around h, untold, ht, List.modify_eq_take_cons_drop hlt, List.countP_append,
      List.countP_cons, same]
    omega

theorem untold_eraseIdx (h : s.pending[idx]? = some cmd) (ht : t.pending = s.pending.eraseIdx idx) :
    t.untold + (if cmd.state != .runningCancelled then 1 else 0) = s.untold := by
  rw [untold_around h, untold, ht, List.eraseIdx_eq_take_drop_succ, List.countP_append]
  omega

theorem claims_length (hc : ∀ cmd ∈ s.pending, cmd.Consistent) : s.claims.length = s.untold := by
  rw [claims, List.length_filterMap_eq_countP, untold]
  refine List.countP_congr fun cmd mem => ?_
  have owned := (hc cmd mem).owner
  simp only [Command.claim, Option.isSome_map, bne_iff_ne, ne_eq]
  rw [← owned]
  cases cmd.owner <;> simp

theorem finishAt_counters (r : Outcome) (done : Engine.Done) :
    (s.finishAt idx r done).1.counters = s.counters := by
  rw [finishAt_fst, reapAt_counters]

end untold

namespace Tallied

variable {k : Nat} {s t u : ChannelState}

theorem refl (s : ChannelState) : Tallied 0 s s := ⟨rfl, rfl⟩

theorem trans (h : Tallied k s t) (h' : Tallied 0 t u) : Tallied k s u :=
  ⟨by rw [h'.submitted, h.submitted]; rfl, by rw [h'.balance, h.balance]; rfl⟩

theorem balanced (h : Tallied k s t) (hs : s.Balanced) : t.Balanced := by
  have submitted := h.submitted
  have balance := h.balance
  unfold Balanced at hs ⊢
  omega

theorem of_same (hs : t.counters.submitted = s.counters.submitted) (hf : t.finished = s.finished)
    (hu : t.untold = s.untold) : Tallied 0 s t :=
  ⟨hs, by rw [hf, hu]; rfl⟩

theorem modify {idx : Nat} {f : Command → Command} (ht : t.pending = s.pending.modify idx f)
    (hf : ∀ k, s.pending[idx]? = some k → ((f k).state = .runningCancelled ↔ k.state = .runningCancelled))
    (hs : t.counters.submitted = s.counters.submitted) (hfin : t.finished = s.finished) :
    Tallied 0 s t :=
  of_same hs hfin (untold_modify ht hf)

theorem finish {idx : Nat} {cmd : Command} (h : t.pending[idx]? = some cmd)
    (live : cmd.state ≠ .runningCancelled) (hs : t.counters.submitted = s.counters.submitted)
    (hf : t.finished = s.finished + 1) (hu : t.untold = s.untold) (r : Outcome)
    (done : Engine.Done) : Tallied 0 s (t.finishAt idx r done).1 := by
  have removed := untold_eraseIdx h (finishAt_pending t idx r done)
  have counters : (t.finishAt idx r done).1.counters = t.counters := finishAt_counters r done
  simp only [live, bne_iff_ne, ne_eq, not_false_eq_true, ↓reduceIte] at removed
  refine ⟨by rw [counters, hs]; rfl, ?_⟩
  rw [finished, counters, ← finished]
  omega

end Tallied

section shapes

variable {s : ChannelState} {idx : Nat} {cmd : Command}

theorem tallied_reapAt (h : s.pending[idx]? = some cmd) (hrc : cmd.state = .runningCancelled) :
    Tallied 0 s (s.reapAt idx) := by
  have removed := untold_eraseIdx h (reapAt_pending s idx)
  simp only [hrc, bne_self_eq_false, Bool.false_eq_true, ↓reduceIte, Nat.add_zero] at removed
  exact .of_same (by rw [reapAt_counters]) (by rw [finished, finished, reapAt_counters]) removed

theorem tallied_launch (h : s.pending[idx]? = some cmd) (live : cmd.state ≠ .runningCancelled)
    (seq : UInt16) (timer : Nat) : Tallied 0 s (s.launch idx cmd seq timer) :=
  .modify rfl (fun k hk => by simp [Option.some.inj (h.symm.trans hk) ▸ live]) rfl rfl

theorem tallied_refusedRetry (h : s.pending[idx]? = some cmd) (live : cmd.state ≠ .runningCancelled)
    (backoff : Nat) : Tallied 0 s (s.refusedRetry idx cmd backoff) := by
  have spent : Tallied 0 s (s.spendAt idx cmd) := .modify rfl (fun _ _ => Iff.rfl) rfl rfl
  refine spent.trans (.modify rfl (fun k hk => ?_) rfl rfl)
  rw [spendAt, modifyAt, List.getElem?_modify_eq, h] at hk
  cases hk
  simp [live]

theorem tallied_failAt (h : s.pending[idx]? = some cmd) (live : cmd.state ≠ .runningCancelled)
    (r : Outcome) : Tallied 0 s (s.failAt idx r).1 := by
  unfold failAt
  refine .finish ?_ live ?_ ?_ ?_ r #[]
  · exact h
  · rfl
  · simp only [finished]
    omega
  · rfl

theorem tallied_completeAt (h : s.pending[idx]? = some cmd) (live : cmd.state ≠ .runningCancelled)
    (payload : List UInt8) : Tallied 0 s (s.completeAt idx payload).1 := by
  unfold completeAt
  refine .finish ?_ live ?_ ?_ ?_ _ #[]
  · exact h
  · rfl
  · simp only [finished]
    omega
  · rfl

theorem tallied_refusedFinal (h : s.pending[idx]? = some cmd) (live : cmd.state ≠ .runningCancelled)
    (done : Engine.Done) : Tallied 0 s (s.refusedFinal idx cmd done).1 := by
  unfold refusedFinal
  refine @Tallied.finish s _ idx { cmd with attempts := cmd.attempts + 1 } ?_ live ?_ ?_ ?_ _ done
  · simp [modifyAt, List.getElem?_modify_eq, h]
  · rfl
  · simp only [finished, modifyAt]
    omega
  · exact untold_modify rfl fun _ _ => Iff.rfl

theorem tallied_spendAt : Tallied 0 s (s.spendAt idx cmd) := .modify rfl (fun _ _ => Iff.rfl) rfl rfl

theorem tallied_timeoutAt : Tallied 0 s (s.timeoutAt idx cmd) := .modify rfl (fun _ _ => Iff.rfl) rfl rfl

theorem tallied_stopAt : Tallied 0 s (s.stopAt idx) := .modify rfl (fun _ _ => Iff.rfl) rfl rfl

theorem tallied_requeueAt (h : s.pending[idx]? = some cmd) (live : cmd.state ≠ .runningCancelled) :
    Tallied 0 s (s.requeueAt idx) :=
  .modify rfl (fun k hk => by simp [Option.some.inj (h.symm.trans hk) ▸ live]) rfl rfl

theorem tallied_dequeue (h : s.pending[idx]? = some cmd) (live : cmd.state ≠ .runningCancelled)
    (r : Outcome) (done : Engine.Done) : Tallied 0 s (s.countCancel.finishAt idx r done).1 := by
  refine .finish ?_ live ?_ ?_ ?_ r done
  · exact h
  · rfl
  · simp only [finished, countCancel]
    omega
  · rfl

theorem tallied_abandonAt (h : s.pending[idx]? = some cmd) (hrun : cmd.state = .running) :
    Tallied 0 s (s.abandonAt idx cmd).1 := by
  let marked := s.modifyAt idx fun k => { k with state := .runningCancelled, owner := none }
  have silenced : marked.untold + 1 = s.untold := by
    have hlt := (List.getElem?_eq_some_iff.mp h).1
    have around := untold_around h
    obtain rfl : s.pending[idx] = cmd := (List.getElem?_eq_some_iff.mp h).2
    rw [untold, show marked.pending = s.pending.modify idx _ from rfl, List.modify_eq_take_cons_drop hlt,
      List.countP_append, List.countP_cons]
    simp only [hrun, ne_eq, reduceCtorEq, not_false_eq_true, bne_iff_ne, ↓reduceIte,
      bne_self_eq_false, Bool.false_eq_true] at around ⊢
    omega
  have hu : (s.abandonAt idx cmd).1.untold = marked.untold := untold_congr (by rw [abandonAt_fst]; rfl)
  have hc : (s.abandonAt idx cmd).1.counters = s.countCancel.counters := by rw [abandonAt_fst]; rfl
  refine ⟨by rw [hc]; rfl, ?_⟩
  rw [finished, hc, hu]
  simp only [finished, countCancel]
  omega

theorem tallied_enqueue (opcode : UInt16) (input : List UInt8) (owner : Owner) (started : Nat) :
    Tallied 1 s (s.enqueue opcode input owner started) := by
  refine ⟨rfl, ?_⟩
  simp only [finished, untold, enqueue, List.countP_append, List.countP_cons, List.countP_nil]
  simp only [bne_iff_ne, ne_eq, reduceCtorEq, not_false_eq_true, ↓reduceIte]
  omega

theorem tallied_delivered (k : Nat) : Tallied 0 s (s.delivered k) := ⟨rfl, rfl⟩

theorem tallied_countDrop : Tallied 0 s s.countDrop := ⟨rfl, rfl⟩

end shapes

section relations

variable {s : ChannelState} {idx : Nat} {cmd : Command} {done : Engine.Done}

theorem Attempt.tallied {budget : Nat} {answer : Except TransmitError Unit}
    {q : ChannelState × Engine.Done} (h : s.pending[idx]? = some cmd)
    (live : cmd.state ≠ .runningCancelled) (ha : s.Attempt budget idx cmd done answer q) :
    Tallied 0 s q.1 := by
  cases ha with
  | sent timer => exact tallied_launch h live _ timer
  | gaveUp _ => exact tallied_refusedFinal h live done
  | backedOff backoff _ => exact tallied_refusedRetry h live backoff

theorem Pumping.tallied {budget : Nat} {p q : ChannelState × Engine.Done}
    (h : Pumping budget p q) : Tallied 0 p.1 q.1 := by
  induction h with
  | stop p => exact .refl _
  | attempt _ _ _ hnext hcmd ha _ ih =>
    obtain ⟨k, hk, sendable⟩ := nextSendable_some hnext
    obtain rfl : k = _ := Option.some.inj (hk.symm.trans hcmd)
    have live : k.state ≠ .runningCancelled := fun hrc => by
      simp [hrc, CommandState.isSendable] at sendable
    exact (ha.tallied hcmd live).trans ih

section resolve

variable {k : Command} (hk : s.pending[idx]? = some k) (hks : k.state = cmd.state)
include hk hks

theorem Answer.tallied {budget : Nat} {f : Frame} {q : ChannelState × Engine.Done}
    (ha : s.Answer budget idx cmd f q) : Tallied 0 s q.1 := by
  have spent : (s.spendAt idx cmd).pending[idx]? = some { k with attempts := cmd.attempts + 1 } := by
    simp [spendAt, modifyAt, List.getElem?_modify_eq, hk]
  cases ha with
  | reaped hrc => exact tallied_reapAt hk (hks.trans hrc)
  | gaveUp live _ _ => exact tallied_spendAt.trans (tallied_failAt spent (hks ▸ live) _)
  | backedOff backoff live _ _ =>
    exact tallied_spendAt.trans ((tallied_requeueAt spent (hks ▸ live)).trans (.of_same rfl rfl rfl))
  | completed live _ => exact tallied_completeAt hk (hks ▸ live) _
  | failed live _ _ => exact tallied_failAt hk (hks ▸ live) _

theorem Expiry.tallied {budget : Nat} {q : ChannelState × Engine.Done}
    (he : s.Expiry budget idx cmd q) : Tallied 0 s q.1 := by
  have spent : (s.timeoutAt idx cmd).pending[idx]? = some { k with attempts := cmd.attempts + 1 } := by
    simp [timeoutAt, spendAt, modifyAt, List.getElem?_modify_eq, hk]
  cases he with
  | reaped hrc => exact tallied_reapAt hk (hks.trans hrc)
  | timedOut live _ => exact tallied_timeoutAt.trans (tallied_failAt spent (hks ▸ live) _)
  | retried live _ => exact tallied_timeoutAt.trans (tallied_requeueAt spent (hks ▸ live))

end resolve

theorem stopAt_getElem? (h : s.pending[idx]? = some cmd) :
    (s.stopAt idx).pending[idx]? = some { cmd with timer := none } := by
  simp [stopAt, modifyAt, List.getElem?_modify_eq, h]

theorem tallied_drain (fuel : Nat) (s : ChannelState) (done : Engine.Done) :
    Tallied 0 s (s.drain fuel done).1 := by
  induction fuel generalizing s done with
  | zero => exact .refl _
  | succ fuel ih =>
    cases hp : s.pending with
    | nil =>
      simp only [drain, hp]
      exact .refl _
    | cons cmd rest =>
      have hcmd : s.pending[0]? = some cmd := by simp [hp]
      simp only [drain, hp]
      split
      · next hrc => exact (tallied_reapAt hcmd (by simpa using hrc)).trans (ih _ _)
      · next live =>
        refine (Tallied.finish ?_ (by simpa using live) ?_ ?_ ?_ _ done).trans (ih _ _)
        · simp
        · rfl
        · simp only [finished]
          omega
        · exact untold_congr hp.symm

theorem tallied_closing (s : ChannelState) : Tallied 0 s s.closing.1 := by
  unfold closing
  split
  · refine Tallied.trans ?_ (tallied_drain _ _ _)
    exact .of_same rfl rfl rfl
  · exact .refl _

theorem tallied_close (s : ChannelState) : Tallied 0 s s.close :=
  (tallied_closing s).trans (tallied_delivered _)

end relations

end ChannelState

/-- Every channel of `e'` counts over its state in `e` the submissions of `acc` accepted on
it, and nothing else moves its tally. -/
def EngineState.Tallies (acc : List (Channel × Nat × Owner)) (e e' : EngineState) : Prop :=
  ∀ c, ChannelState.Tallied (acc.countP (·.1 == c)) (e.channels.get c) (e'.channels.get c)

theorem EngineState.Tallies.trans {acc : List (Channel × Nat × Owner)} {e e' e'' : EngineState}
    (h : EngineState.Tallies acc e e') (h' : EngineState.Tallies [] e' e'') :
    EngineState.Tallies acc e e'' :=
  fun c => (h c).trans (h' c)

section counting

variable {α : Type} [DecidableEq α]

theorem countP_beq_or (l : List α) (a : α) (q : α → Bool) (h : q a = false) :
    l.countP (fun o => (a == o) || q o) = l.count a + l.countP q := by
  induction l with
  | nil => rfl
  | cons b l ih =>
    rw [List.countP_cons, List.count_cons, List.countP_cons, ih]
    by_cases hb : b = a
    · subst hb
      simp [h]
      omega
    · simp [hb, Ne.symm hb]
      omega

/-- The items of two lists whose key is the key of some chosen element of `L` number the
chosen elements, when each of them has a key that no other element of `L` has and that is
held once between the two lists. -/
theorem countP_keyed {X : Type} (P : X → Bool) (g : X → α) (l₁ l₂ : List α) (L : List X)
    (keys : ∀ x ∈ L, P x = true →
      L.countP (fun y => g y == g x) = 1 ∧ l₁.count (g x) + l₂.count (g x) = 1) :
    l₁.countP (fun o => L.any fun x => P x && g x == o) +
      l₂.countP (fun o => L.any fun x => P x && g x == o) = L.countP P := by
  induction L with
  | nil => simp
  | cons x L ih =>
    have rest : ∀ y ∈ L, P y = true →
        L.countP (fun z => g z == g y) = 1 ∧ l₁.count (g y) + l₂.count (g y) = 1 := by
      intro y hy hPy
      obtain ⟨once, held⟩ := keys y (List.mem_cons_of_mem x hy) hPy
      have atLeast : 1 ≤ L.countP (fun z => g z == g y) := List.one_le_countP_iff.mpr ⟨y, hy, by simp⟩
      rw [List.countP_cons] at once
      exact ⟨by omega, held⟩
    by_cases hPx : P x = true
    · obtain ⟨once, held⟩ := keys x List.mem_cons_self hPx
      have fresh : (L.any fun y => P y && g y == g x) = false := by
        rw [List.countP_cons] at once
        simp only [beq_self_eq_true, ↓reduceIte, Nat.add_eq_right, List.countP_eq_zero] at once
        simpa using fun y hy _ => by simpa using once y hy
      have split : (fun o => (x :: L).any fun y => P y && g y == o) =
          fun o => (g x == o) || L.any fun y => P y && g y == o := by
        funext o
        simp [hPx]
      rw [split, countP_beq_or l₁ (g x) _ fresh, countP_beq_or l₂ (g x) _ fresh, List.countP_cons,
        ← ih rest]
      simp only [hPx, ↓reduceIte]
      omega
    · have split : (fun o => (x :: L).any fun y => P y && g y == o) =
          fun o => L.any fun y => P y && g y == o := by
        funext o
        simp [hPx]
      rw [split, List.countP_cons, ih rest]
      simp [hPx]

end counting

namespace Engine

open Sim ChannelState

section tallies

variable {w w' : World} {acc : List (Channel × Nat × Owner)}

theorem tallies_same (h : w'.engine.channels = w.engine.channels) : EngineState.Tallies [] w.engine w'.engine :=
  fun c => by rw [h]; exact .refl _

theorem tallies_set {c : Channel} {t : ChannelState} {k : Nat}
    (h : Tallied k (w.engine.channels.get c) t) (hk : acc.countP (·.1 == c) = k)
    (others : ∀ d, d ≠ c → acc.countP (·.1 == d) = 0) {e' : EngineState}
    (stored : e'.channels = w.engine.channels.set c t) : EngineState.Tallies acc w.engine e' := by
  intro d
  rw [stored]
  by_cases hd : d = c
  · subst hd
    rw [hk, PerChannel.get_set_self]
    exact h
  · rw [PerChannel.get_set_other _ _ _ _ hd, others d hd]
    exact .refl _

theorem settled_tallies {w1 : World} (same : w1.engine = w.engine) (c : Channel)
    {q : ChannelState × Done} (hq : Tallied 0 (w.engine.channels.get c) q.1) :
    EngineState.Tallies [] w.engine (settled c q w1).engine :=
  tallies_set (hq.trans (tallied_delivered _)) rfl (fun _ _ => rfl) (by rw [settled_engine, same])

theorem pumped_tallies {w1 : World} (same : w1.engine = w.engine) (c : Channel)
    {p : ChannelState × Done} {k : Nat} (hp : Tallied k (w.engine.channels.get c) p.1)
    (hk : acc.countP (·.1 == c) = k) (others : ∀ d, d ≠ c → acc.countP (·.1 == d) = 0) :
    EngineState.Tallies acc w.engine (pumped c p w1).engine := by
  have stored : (pumped c p w1).engine.channels = w.engine.channels.set c
      (((pump c p.1 p.2).run w1).1.1.delivered ((pump c p.1 p.2).run w1).1.2.size) := by
    rw [pumped, settled_engine, pump_engine, same]
  exact tallies_set ((hp.trans (pump_pumping p.1 p.2 w1 c).tallied).trans (tallied_delivered _)) hk
    others stored

theorem Dispatched.tallies {f : Frame} (h : Dispatched w f w') :
    EngineState.Tallies [] w.engine w'.engine := by
  cases h with
  | dropped _ stored _ _ => exact tallies_set tallied_countDrop rfl (fun _ _ => rfl) stored
  | vanished _ _ same _ => exact tallies_same (congrArg EngineState.channels same)
  | answered p w1 _ hcmd answered same _ =>
    exact pumped_tallies same _
      (tallied_stopAt.trans (answered.tallied (stopAt_getElem? hcmd) (by rfl))) rfl (fun _ _ => rfl)

theorem TimedOut.tallies {c : Channel} {handle generation : Nat}
    (h : TimedOut w c handle generation w') : EngineState.Tallies [] w.engine w'.engine := by
  cases h with
  | stale _ => exact tallies_same rfl
  | expired p w1 _ hcmd _ _ expired same _ =>
    exact pumped_tallies same c
      (tallied_stopAt.trans (expired.tallied (stopAt_getElem? hcmd) (by rfl))) rfl (fun _ _ => rfl)

theorem Cancelled.tallies {c : Channel} {handle : Nat} {answer : Bool}
    (h : Cancelled w c handle answer w') : EngineState.Tallies [] w.engine w'.engine := by
  cases h with
  | ignored w1 _ same _ => exact settled_tallies same c (.refl _)
  | @dequeued idx cmd w1 _ hcmd hsend same _ =>
    have live : cmd.state ≠ .runningCancelled := fun hrc => by
      simp [hrc, CommandState.isSendable] at hsend
    exact settled_tallies same c (tallied_dequeue hcmd live _ _)
  | abandoned w1 _ hcmd hrun same _ => exact settled_tallies same c (tallied_abandonAt hcmd hrun)

theorem Submitted.tallies {c : Channel} {opcode : UInt16} {input : List UInt8} {owner : Owner}
    {handle : Nat} (h : Submitted w c opcode input owner (.ok handle) w') :
    EngineState.Tallies [(c, handle, owner)] w.engine w'.engine := by
  cases h with
  | queued w1 _ _ same _ =>
    refine pumped_tallies same c (tallied_enqueue opcode input owner w.now) (by simp) fun d hd => ?_
    simp [Ne.symm hd]

end tallies

section operations

variable {w : World}

theorem enable_tallies (c : Channel) : EngineState.Tallies [] w.engine ((enable c).run w).2.engine := by
  have stored := (enable_run c w).1
  split at stored
  · exact tallies_set (by exact .of_same rfl rfl rfl) rfl (fun _ _ => rfl) (congrArg EngineState.channels stored)
  · exact tallies_same (congrArg EngineState.channels stored)

theorem disable_tallies (c : Channel) : EngineState.Tallies [] w.engine ((disable c).run w).2.engine :=
  tallies_set (tallied_close _) rfl (fun _ _ => rfl) (by rw [disable_engine])

theorem shutdown_tallies : EngineState.Tallies [] w.engine (shutdown.run w).2.engine :=
  shutdown_relates (R := fun u v => EngineState.Tallies [] u.engine v.engine) (fun _ => tallies_same rfl)
    EngineState.Tallies.trans (fun c _ => disable_tallies c)
    (fun _ _ _ _ _ => tallies_same (by rw [emit_engine])) w

theorem receive_tallies (bytes : List UInt8) : EngineState.Tallies [] w.engine ((receive bytes).run w).2.engine := by
  rcases receive_run bytes w with ⟨_, _, same, _⟩ | ⟨_, _, dispatched⟩
  · exact tallies_same same
  · exact dispatched.tallies

theorem backoffElapsed_tallies (c : Channel) :
    EngineState.Tallies [] w.engine ((backoffElapsed c).run w).2.engine := by
  rw [backoffElapsed_run]
  exact pumped_tallies rfl c (by exact .of_same rfl rfl rfl) rfl (fun _ _ => rfl)

end operations

theorem Action.step_tallies (a : Action) (w : World) :
    EngineState.Tallies (a.accepted w) w.engine (a.step w).engine := by
  cases a with
  | submit c opcode input owner =>
    have submitted := submit_run c opcode input owner w
    rw [Action.step_submit, Action.accepted]
    split
    · next handle answered =>
      rw [answered] at submitted
      exact submitted.tallies
    · next e refused =>
      rw [refused] at submitted
      rw [submitted.eq_of_error]
      exact tallies_same rfl
  | enable c => rw [Action.step_enable]; exact enable_tallies c
  | disable c => rw [Action.step_disable]; exact disable_tallies c
  | shutdown => rw [Action.step_shutdown]; exact shutdown_tallies
  | cancel c handle => rw [Action.step_cancel]; exact (cancel_run c handle w).tallies
  | receive bytes => rw [Action.step_receive]; exact receive_tallies bytes
  | attemptTimedOut c handle generation =>
    rw [Action.step_attemptTimedOut]
    exact (attemptTimedOut_run c handle generation w).tallies
  | backoffElapsed c => rw [Action.step_backoffElapsed]; exact backoffElapsed_tallies c

theorem balanced_initial (config : EngineConfig) (c : Channel) :
    ((EngineState.initial config).channels.get c).Balanced := by
  cases c <;> rfl

theorem Reachable.balanced {w : World} (hw : Reachable w) (c : Channel) :
    (w.engine.channels.get c).Balanced :=
  @Reachable.engine_induction (fun e => ∀ c, (e.channels.get c).Balanced) balanced_initial
    (fun a w h c => (a.step_tallies w c).balanced (h c)) w hw c

theorem Run.submitted_eq {w : World} {acc : List (Channel × Nat × Owner)} (hw : Run w acc)
    (c : Channel) : acc.countP (·.1 == c) = (w.engine.channels.get c).counters.submitted := by
  induction hw with
  | start started => rw [start_engine started]; cases c <;> rfl
  | act a _ ih => rw [List.countP_append, ih, (a.step_tallies _ c).submitted]
  | outside _ same _ _ _ ih => rw [same]; exact ih

/-- How many times the callbacks of the submissions accepted on `c` have been reported as
run. -/
def callbackRunsOn (w : World) (acc : List (Channel × Nat × Owner)) (c : Channel) : Nat :=
  (w.events.toList.filterMap Event.callback?).countP fun id =>
    acc.any fun x => x.1 == c && x.2.2 == .callback id

section runs

variable {w : World} {acc : List (Channel × Nat × Owner)}

theorem heldBy_eq_holding (ha : Accounted w.engine.channels (callbackRuns w) acc) {c : Channel}
    {h id : Nat} (mem : (c, h, .callback id) ∈ acc) (once : acc.countP (·.2.2 == .callback id) = 1) :
    heldBy w.engine.channels (.callback id) = (w.engine.channels.get c).holding (.callback id) := by
  have elsewhere : heldBy (w.engine.channels.set c .initial) (.callback id) = 0 :=
    heldBy_eq_zero fun d x hx owned => by
      by_cases hd : d = c
      · subst hd
        simp [initial, claims] at hx
      · rw [PerChannel.get_set_other _ _ _ _ hd] at hx
        have same := eq_of_countP_eq_one once (ha.claimed d x hx) mem (by simp [owned]) (by simp)
        exact hd (congrArg Prod.fst same)
  have moved := heldBy_set w.engine.channels c .initial (.callback id)
  rw [elsewhere, Nat.zero_add, show initial.holding (.callback id) = 0 from rfl, Nat.add_zero] at moved
  exact moved.symm

theorem Run.callbackRunsOn_eq (hw : Run w acc) (c : Channel)
    (own : ∀ x ∈ acc, x.1 = c → ∃ id, x.2.2 = .callback id ∧ acc.countP (·.2.2 == .callback id) = 1) :
    callbackRunsOn w acc c = (w.engine.channels.get c).finished := by
  have ha := hw.accounted
  let runs := (w.events.toList.filterMap Event.callback?).map Owner.callback
  let held := (w.engine.channels.get c).claims.map (·.2)
  -- each submission accepted on `c` has either run its callback or still holds it
  have keyed := countP_keyed (fun x => x.1 == c) (·.2.2) runs held acc fun x hx hc => by
    obtain ⟨id, hid, once⟩ := own x hx (by simpa using hc)
    refine ⟨by rw [hid]; exact once, ?_⟩
    have conserved := ha.conserved id
    rw [once, heldBy_eq_holding ha (show (c, x.2.1, .callback id) ∈ acc by
      rw [← hid, ← (by simpa using hc : x.1 = c)]; exact hx) once] at conserved
    have injective : ∀ n, (Owner.callback n == Owner.callback id) = (n == id) := by
      intro n
      rw [Bool.eq_iff_iff]
      simp
    simp only [hid, runs, held, List.count_eq_countP, List.countP_map, Function.comp_def, injective]
    simpa [callbackRuns, holding, List.count_eq_countP] using conserved
  have told : runs.countP (fun o => acc.any fun x => (x.1 == c) && x.2.2 == o) = callbackRunsOn w acc c := by
    simp only [runs, List.countP_map, callbackRunsOn]
    rfl
  have holding : held.countP (fun o => acc.any fun x => (x.1 == c) && x.2.2 == o) =
      (w.engine.channels.get c).claims.length := by
    simp only [held, List.countP_map]
    refine List.countP_eq_length.mpr fun y hy => ?_
    show (acc.any fun x => (x.1 == c) && x.2.2 == y.2) = true
    exact List.any_eq_true.mpr ⟨(c, y), ha.claimed c y hy, by simp⟩
  have untold := claims_length (hw.reachable.coherent c).consistent
  have balanced := hw.reachable.balanced c
  have submitted := hw.submitted_eq c
  unfold ChannelState.Balanced at balanced
  omega

end runs

/-- In every reachable world each channel's submitted counter is its completed, failed and
cancelled counters plus its unfinished commands not cancelled while running. Over every run
it is the number of submissions the channel accepted, and when each of these registered a
callback accepted with no other submission, the callbacks reported as run for them number
exactly the channel's completed, failed and cancelled commands. -/
theorem counters_balance {w : World} (hw : Reachable w) (c : Channel) :
    let s := w.engine.channels.get c
    s.counters.submitted = s.counters.completed + s.counters.failed + s.counters.cancelled +
      s.pending.countP (·.state != .runningCancelled) ∧
    ∀ acc, Run w acc → acc.countP (·.1 == c) = s.counters.submitted ∧
      ((∀ x ∈ acc, x.1 = c → ∃ id, x.2.2 = .callback id ∧ acc.countP (·.2.2 == .callback id) = 1) →
        callbackRunsOn w acc c = s.counters.completed + s.counters.failed + s.counters.cancelled) :=
  ⟨hw.balanced c, fun _ run => ⟨run.submitted_eq c, run.callbackRunsOn_eq c⟩⟩

theorem counters_balance_after_cancel :
    let w := (Action.cancel .control 1).step ((Action.submit .control 7 [1, 2] (.callback 1)).step
      ((Action.enable .control).step
        (World.initial EngineConfig.default (.recorder ⟨#[], [], true⟩) none "")))
    let acc := [(Channel.control, 1, Owner.callback 1)]
    Reachable w ∧ Run w acc ∧
    let s := w.engine.channels.get .control
    s.counters.cancelled = 1 ∧
    s.counters.submitted = s.counters.completed + s.counters.failed + s.counters.cancelled +
      s.pending.countP (·.state != .runningCancelled) ∧
    acc.countP (·.1 == .control) = s.counters.submitted ∧
    callbackRunsOn w acc .control = s.counters.completed + s.counters.failed + s.counters.cancelled := by
  intro w acc
  have run : Run w acc :=
    Run.act (Action.cancel .control 1) (Run.act (Action.submit .control 7 [1, 2] (.callback 1))
      (Run.act (Action.enable .control) (Run.initial (.recorder ⟨#[], [], true⟩) none "" (by decide))))
  have own : ∀ x ∈ acc, x.1 = .control →
      ∃ id, x.2.2 = .callback id ∧ acc.countP (·.2.2 == .callback id) = 1 := by
    intro x hx _
    rw [List.mem_singleton] at hx
    exact ⟨1, by rw [hx], by rfl⟩
  obtain ⟨balanced, runs⟩ := counters_balance run.reachable .control
  obtain ⟨submitted, callbacks⟩ := runs acc run
  exact ⟨run.reachable, run, by decide, balanced, submitted, callbacks own⟩

end Engine

end FrameRpc
