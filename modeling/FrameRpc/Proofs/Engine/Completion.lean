import FrameRpc.Proofs.Engine.Safety
set_option autoImplicit false

/-!
Every accepted callback runs exactly once.

An accepted submission gives its owner to a command, and the command tells that owner its
outcome once: when it finishes, or at once when it is cancelled while running, which
takes the owner off it. A told outcome is collected and delivered when the channel is
settled. `Accounts` says that a change of a channel keeps what every owner is owed: the
commands still holding it and the outcomes collected for it stay as many as before. Over a
run, the runs reported for a callback and the commands still holding it together make up
the submissions accepted with it (`Accounted`).
-/

namespace FrameRpc

def Command.claim (cmd : Command) : Option (Nat × Owner) := cmd.owner.map (cmd.handle, ·)

theorem Command.countP_claim (cmd : Command) (o : Owner) :
    cmd.claim.toList.countP (·.2 == o) = if cmd.owner = some o then 1 else 0 := by
  cases h : cmd.owner <;> simp [Command.claim, h]

namespace ChannelState

def claims (s : ChannelState) : List (Nat × Owner) := s.pending.filterMap Command.claim

def holding (s : ChannelState) (o : Owner) : Nat := s.claims.countP (·.2 == o)

section claims

variable {s t : ChannelState} {idx : Nat} {cmd : Command}

theorem claims_congr (h : t.pending = s.pending) : t.claims = s.claims := by
  rw [claims, claims, h]

theorem claims_around (h : s.pending[idx]? = some cmd) :
    s.claims = (s.pending.take idx).filterMap Command.claim ++ cmd.claim.toList ++
      (s.pending.drop (idx + 1)).filterMap Command.claim := by
  obtain ⟨hlt, rfl⟩ := List.getElem?_eq_some_iff.mp h
  have split : s.pending = s.pending.take idx ++ s.pending[idx] :: s.pending.drop (idx + 1) := by
    rw [← List.drop_eq_getElem_cons hlt, List.take_append_drop]
  rw [claims]
  refine (congrArg (List.filterMap Command.claim) split).trans ?_
  rw [List.filterMap_append, List.filterMap_cons]
  cases s.pending[idx].claim <;> simp

theorem claims_modifyAt (h : s.pending[idx]? = some cmd) (f : Command → Command) :
    (s.modifyAt idx f).claims = (s.pending.take idx).filterMap Command.claim ++
      (f cmd).claim.toList ++ (s.pending.drop (idx + 1)).filterMap Command.claim := by
  obtain ⟨hlt, rfl⟩ := List.getElem?_eq_some_iff.mp h
  rw [claims, modifyAt, List.modify_eq_take_cons_drop hlt, List.filterMap_append,
    List.filterMap_cons]
  cases (f s.pending[idx]).claim <;> simp

theorem claims_modifyAt_of {f : Command → Command} (hf : ∀ k, (f k).claim = k.claim) :
    (s.modifyAt idx f).claims = s.claims := by
  cases h : s.pending[idx]? with
  | none =>
    rw [claims, modifyAt, List.modify_eq_self (List.getElem?_eq_none_iff.mp h)]
    rfl
  | some cmd => rw [claims_modifyAt h, hf, ← claims_around h]

theorem claims_drop (h : s.pending[idx]? = some cmd)
    (ht : t.claims = (s.pending.take idx).filterMap Command.claim ++
      (s.pending.drop (idx + 1)).filterMap Command.claim) :
    t.claims ⊆ s.claims ∧
      ∀ o, t.holding o + (if cmd.owner = some o then 1 else 0) = s.holding o := by
  refine ⟨?_, fun o => ?_⟩
  · intro x hx
    rw [claims_around h]
    simp only [ht, List.mem_append] at hx ⊢
    rcases hx with hx | hx
    · exact .inl (.inl hx)
    · exact .inr hx
  · simp only [holding, ht, claims_around h, List.countP_append, Command.countP_claim]
    omega

theorem claims_eraseIdx (ht : t.pending = s.pending.eraseIdx idx) :
    t.claims = (s.pending.take idx).filterMap Command.claim ++
      (s.pending.drop (idx + 1)).filterMap Command.claim := by
  rw [claims, ht, List.eraseIdx_eq_take_drop_succ, List.filterMap_append]

theorem mem_claims {h : Nat} {o : Owner} :
    (h, o) ∈ s.claims ↔ ∃ cmd ∈ s.pending, cmd.handle = h ∧ cmd.owner = some o := by
  simp only [claims, List.mem_filterMap, Command.claim, Option.map_eq_some_iff, Prod.mk.injEq]
  constructor
  · rintro ⟨cmd, mem, o', owned, rfl, rfl⟩
    exact ⟨cmd, mem, rfl, owned⟩
  · rintro ⟨cmd, mem, rfl, owned⟩
    exact ⟨cmd, mem, o, owned, rfl, rfl⟩

end claims

end ChannelState

def Engine.outcomesFor (done : Engine.Done) (o : Owner) : Nat := done.countP (·.1 == o)

@[simp] theorem Engine.outcomesFor_empty (o : Owner) : Engine.outcomesFor #[] o = 0 := rfl

@[simp] theorem Engine.outcomesFor_push (done : Engine.Done) (x : Owner × Outcome) (o : Owner) :
    Engine.outcomesFor (done.push x) o = Engine.outcomesFor done o + if x.1 = o then 1 else 0 := by
  simp [Engine.outcomesFor, Array.countP_push]

open Engine (outcomesFor)

/-- The channel and collected outcomes `q` keep what `p` owes: the claims of `q` are among
those of `p`, every owner is owed as many outcomes, held or collected, and the handle
counter stands. -/
structure Accounts (p q : ChannelState × Engine.Done) : Prop where
  claims : q.1.claims ⊆ p.1.claims
  owed : ∀ o, q.1.holding o + outcomesFor q.2 o = p.1.holding o + outcomesFor p.2 o
  nextHandle : q.1.nextHandle = p.1.nextHandle

namespace Accounts

variable {p q r : ChannelState × Engine.Done}

theorem refl (p : ChannelState × Engine.Done) : Accounts p p := ⟨fun _ h => h, fun _ => rfl, rfl⟩

theorem trans (h : Accounts p q) (h' : Accounts q r) : Accounts p r :=
  ⟨fun _ hx => h.claims (h'.claims hx), fun o => (h'.owed o).trans (h.owed o),
    h'.nextHandle.trans h.nextHandle⟩

theorem of_claims (hc : q.1.claims = p.1.claims) (hn : q.1.nextHandle = p.1.nextHandle)
    (hd : q.2 = p.2) : Accounts p q :=
  ⟨hc ▸ fun _ h => h, fun o => by rw [ChannelState.holding, ChannelState.holding, hc, hd], hn⟩

end Accounts

namespace ChannelState

variable {s : ChannelState} {idx : Nat} {cmd : Command} {done : Engine.Done}

theorem accounts_finishAt (s : ChannelState) (idx : Nat) (r : Outcome) (done : Engine.Done) :
    Accounts (s, done) (s.finishAt idx r done) := by
  cases h : s.pending[idx]? with
  | none =>
    rw [finishAt, h]
    exact .refl _
  | some cmd =>
    obtain ⟨sub, held⟩ := claims_drop h (claims_eraseIdx (removeAt_pending s idx cmd))
    -- the owner, if there is one, moves from the claims to the collected outcomes
    simp only [finishAt, h]
    refine ⟨?_, fun o => ?_, ?_⟩
    · cases cmd.owner <;> exact sub
    · rw [← held o]
      cases cmd.owner with
      | none => simp [holding, claims]
      | some o' => simp [holding, claims]; omega
    · cases cmd.owner <;> simp

theorem accounts_reapAt (silent : ∀ cmd, s.pending[idx]? = some cmd → cmd.owner = none) :
    Accounts (s, done) (s.reapAt idx, done) := by
  cases h : s.pending[idx]? with
  | none =>
    rw [reapAt, h]
    exact .refl _
  | some cmd =>
    obtain ⟨sub, held⟩ := claims_drop h (claims_eraseIdx (reapAt_pending s idx))
    refine ⟨sub, fun o => ?_, reapAt_nextHandle s idx⟩
    rw [← held o, silent cmd h]
    simp

theorem accounts_abandonAt (h : s.pending[idx]? = some cmd) :
    Accounts (s, #[]) (s.abandonAt idx cmd) := by
  have silenced : (s.abandonAt idx cmd).1.claims = (s.pending.take idx).filterMap Command.claim ++
      (s.pending.drop (idx + 1)).filterMap Command.claim := by
    rw [abandonAt_fst]
    exact (claims_modifyAt h _).trans (by simp [Command.claim])
  obtain ⟨sub, held⟩ := claims_drop h silenced
  have told : ∀ o, outcomesFor (s.abandonAt idx cmd).2 o = if cmd.owner = some o then 1 else 0 := by
    intro o
    unfold abandonAt
    cases cmd.owner <;> simp [outcomesFor]
  refine ⟨sub, fun o => ?_, by rw [abandonAt_fst]; rfl⟩
  rw [← held o, told]
  simp

theorem claims_of_modify {t : ChannelState} {f : Command → Command}
    (hp : t.pending = s.pending.modify idx f) (hf : ∀ k, (f k).claim = k.claim) :
    t.claims = s.claims :=
  (claims_congr (s := s.modifyAt idx f) hp).trans (claims_modifyAt_of hf)

theorem accounts_finishAt_of {t : ChannelState} (hc : t.claims = s.claims)
    (hn : t.nextHandle = s.nextHandle) (r : Outcome) :
    Accounts (s, done) (t.finishAt idx r done) :=
  (@Accounts.of_claims (s, done) (t, done) hc hn rfl).trans (accounts_finishAt t idx r done)

section helpers

variable (s : ChannelState) (idx : Nat) (cmd : Command)

@[simp] theorem claims_launch (seq : UInt16) (timer : Nat) :
    (s.launch idx cmd seq timer).claims = s.claims :=
  claims_of_modify rfl (by intro _; rfl)

@[simp] theorem claims_spendAt : (s.spendAt idx cmd).claims = s.claims :=
  claims_of_modify rfl (by intro _; rfl)

@[simp] theorem claims_timeoutAt : (s.timeoutAt idx cmd).claims = s.claims :=
  claims_of_modify rfl (by intro _; rfl)

@[simp] theorem claims_requeueAt : (s.requeueAt idx).claims = s.claims :=
  claims_of_modify rfl (by intro _; rfl)

@[simp] theorem claims_stopAt : (s.stopAt idx).claims = s.claims :=
  claims_of_modify rfl (by intro _; rfl)

@[simp] theorem claims_refusedRetry (backoff : Nat) :
    (s.refusedRetry idx cmd backoff).claims = s.claims :=
  calc (s.refusedRetry idx cmd backoff).claims
      = (s.modifyAt idx fun k => { k with attempts := cmd.attempts + 1 }).claims :=
        claims_of_modify rfl (by intro _; rfl)
    _ = s.claims := claims_modifyAt_of (by intro _; rfl)

end helpers

theorem Attempt.accounts {budget : Nat} {answer : Except TransmitError Unit}
    {q : ChannelState × Engine.Done} (ha : s.Attempt budget idx cmd done answer q) :
    Accounts (s, done) q := by
  cases ha with
  | sent timer => exact .of_claims (claims_launch ..) rfl rfl
  | gaveUp _ =>
    exact accounts_finishAt_of (by exact claims_of_modify rfl (by intro _; rfl)) (by rfl) _
  | backedOff backoff _ => exact .of_claims (claims_refusedRetry ..) rfl rfl

theorem Pumping.accounts {budget : Nat} {p q : ChannelState × Engine.Done}
    (h : Pumping budget p q) : Accounts p q := by
  induction h with
  | stop p => exact .refl p
  | attempt _ _ _ _ _ ha _ ih => exact ha.accounts.trans ih

section resolve

variable (hown : ∀ k, s.pending[idx]? = some k → k.owner = cmd.owner) (hc : cmd.Consistent)
include hown hc

theorem accounts_reap (hrc : cmd.state = .runningCancelled) : Accounts (s, done) (s.reapAt idx, done) :=
  accounts_reapAt fun k hk => (hown k hk).trans (hc.owner.mpr hrc)

theorem Answer.accounts {budget : Nat} {f : Frame} {q : ChannelState × Engine.Done}
    (ha : s.Answer budget idx cmd f q) : Accounts (s, #[]) q := by
  cases ha with
  | reaped hrc => exact accounts_reap hown hc hrc
  | gaveUp _ _ _ => exact accounts_finishAt_of (by exact claims_spendAt ..) (by rfl) _
  | backedOff backoff _ _ _ =>
    exact .of_claims ((claims_requeueAt ..).trans (claims_spendAt ..)) rfl rfl
  | completed _ _ => exact accounts_finishAt_of (by rfl) (by rfl) _
  | failed _ _ _ => exact accounts_finishAt_of (by rfl) (by rfl) _

theorem Expiry.accounts {budget : Nat} {q : ChannelState × Engine.Done}
    (he : s.Expiry budget idx cmd q) : Accounts (s, #[]) q := by
  cases he with
  | reaped hrc => exact accounts_reap hown hc hrc
  | timedOut _ _ => exact accounts_finishAt_of (by exact claims_timeoutAt ..) (by rfl) _
  | retried _ _ => exact .of_claims ((claims_requeueAt ..).trans (claims_timeoutAt ..)) rfl rfl

end resolve

theorem stopAt_owner (h : s.pending[idx]? = some cmd) :
    ∀ k, (s.stopAt idx).pending[idx]? = some k → k.owner = cmd.owner := by
  intro k hk
  rw [stopAt, modifyAt, List.getElem?_modify_eq, h] at hk
  cases hk
  rfl

theorem accounts_drain (fuel : Nat) (s : ChannelState) (done : Engine.Done)
    (hc : ∀ cmd ∈ s.pending, cmd.Consistent) : Accounts (s, done) (s.drain fuel done) := by
  induction fuel generalizing s done with
  | zero => exact .refl _
  | succ fuel ih =>
    cases hp : s.pending with
    | nil =>
      simp only [drain, hp]
      exact .refl _
    | cons cmd rest =>
      have hrest : ∀ k ∈ rest, k.Consistent := fun k hk => hc k (by simp [hp, hk])
      simp only [drain, hp]
      -- the first command is reaped when it was cancelled while running, and finished otherwise
      split
      · rename_i hrc
        have hown : ∀ k, s.pending[0]? = some k → k.owner = cmd.owner := by simp [hp]
        refine (accounts_reap hown (hc cmd (by simp [hp])) (by simpa using hrc)).trans (ih _ _ ?_)
        simpa [hp] using hrest
      · refine Accounts.trans ?_ (ih _ _ ?_)
        · rw [Prod.eta]
          exact accounts_finishAt_of (by exact claims_congr hp.symm) (by rfl) _
        · rw [finishAt_fst]
          simpa [hp] using hrest

theorem accounts_closing (hc : ∀ cmd ∈ s.pending, cmd.Consistent) : Accounts (s, #[]) s.closing := by
  unfold closing
  split
  · exact (@Accounts.of_claims (s, #[]) ({ s with enabled := false, backoff := none }, #[])
      rfl rfl rfl).trans (accounts_drain _ _ _ hc)
  · exact .refl _

theorem claims_enqueue (opcode : UInt16) (input : List UInt8) (owner : Owner) (started : Nat) :
    (s.enqueue opcode input owner started).claims = s.claims ++ [(s.nextHandle + 1, owner)] := by
  simp [enqueue, claims, Command.claim]

theorem holding_enqueue (opcode : UInt16) (input : List UInt8) (owner : Owner) (started : Nat)
    (o : Owner) :
    (s.enqueue opcode input owner started).holding o = s.holding o + if owner = o then 1 else 0 := by
  simp [holding, claims_enqueue, List.countP_append]

@[simp] theorem claims_delivered (k : Nat) : (s.delivered k).claims = s.claims := rfl

theorem accounts_stopAt : Accounts (s, done) (s.stopAt idx, done) :=
  .of_claims (claims_stopAt ..) rfl rfl

end ChannelState

namespace Engine

open Sim ChannelState

def callbackRuns (w : World) (id : Nat) : Nat := (w.events.toList.filterMap Event.callback?).count id

def heldBy (ch : PerChannel ChannelState) (o : Owner) : Nat :=
  Channel.all.foldr (fun c n => (ch.get c).holding o + n) 0

theorem heldBy_set (ch : PerChannel ChannelState) (c : Channel) (t : ChannelState) (o : Owner) :
    heldBy (ch.set c t) o + (ch.get c).holding o = heldBy ch o + t.holding o := by
  cases c <;> simp [heldBy, Channel.all, PerChannel.set, PerChannel.get] <;> omega

theorem one_le_heldBy {ch : PerChannel ChannelState} {c : Channel} {h : Nat} {o : Owner}
    (held : (h, o) ∈ (ch.get c).claims) : 1 ≤ heldBy ch o := by
  have : 1 ≤ (ch.get c).holding o := List.one_le_countP_iff.mpr ⟨_, held, by simp⟩
  cases c <;> simp [heldBy, Channel.all] at this ⊢ <;> omega

theorem heldBy_eq_zero {ch : PerChannel ChannelState} {o : Owner}
    (h : ∀ d, ∀ x ∈ (ch.get d).claims, x.2 ≠ o) : heldBy ch o = 0 := by
  have none : ∀ d, (ch.get d).holding o = 0 := fun d =>
    List.countP_eq_zero.mpr fun x hx => by simpa using h d x hx
  simp [heldBy, Channel.all, none]

theorem count_reported (l : List (Owner × Outcome)) (id : Nat) :
    ((l.flatMap fun x => x.1.reported x.2).filterMap Event.callback?).count id =
      l.countP (·.1 == .callback id) := by
  induction l with
  | nil => rfl
  | cons x l ih =>
    obtain ⟨o, r⟩ := x
    rw [List.flatMap_cons, List.filterMap_append, List.count_append, ih, List.countP_cons,
      Nat.add_comm]
    cases o <;> simp [Owner.reported, Event.callback?, List.count_singleton]

theorem callbackRuns_settled (c : Channel) (q : ChannelState × Done) {w : World}
    (calm : w.engine.panicking = []) (id : Nat) :
    callbackRuns (settled c q w) id = callbackRuns w id + outcomesFor q.2 (.callback id) := by
  have reported := congrArg View.events (settled_view c q calm)
  simp only [World.view_events, View.report] at reported
  rw [callbackRuns, reported, List.filterMap_append, List.count_append, count_reported,
    callbackRuns, outcomesFor, ← Array.countP_toList]

theorem callbackRuns_of_events {w w' : World} (h : w'.view.events = w.view.events) :
    callbackRuns w' = callbackRuns w := by
  funext id
  simp only [World.view_events] at h
  rw [callbackRuns, callbackRuns, h]

/-- The submissions `acc` are accounted for by the channels `ch`, `runs id` being how many
times the callback of submission `id` ran: every callback ran as often as it was accepted,
less the commands still holding it; every claim of a channel is an accepted submission of
it; every accepted handle was given out by its channel, and no two accepted submissions
share a channel and a handle. -/
structure Accounted (ch : PerChannel ChannelState) (runs : Nat → Nat)
    (acc : List (Channel × Nat × Owner)) : Prop where
  conserved : ∀ id, runs id + heldBy ch (.callback id) = acc.countP (·.2.2 == .callback id)
  claimed : ∀ c, ∀ x ∈ (ch.get c).claims, (c, x) ∈ acc
  fresh : ∀ x ∈ acc, x.2.1 ≤ (ch.get x.1).nextHandle
  unique : ∀ x ∈ acc, ∀ y ∈ acc, x.1 = y.1 → x.2.1 = y.2.1 → x = y

section accounted

variable {ch : PerChannel ChannelState} {runs : Nat → Nat} {acc : List (Channel × Nat × Owner)}

theorem Accounted.congr (ha : Accounted ch runs acc) {ch' : PerChannel ChannelState}
    {runs' : Nat → Nat} (hch : ch' = ch) (hr : ∀ id, runs' id = runs id) : Accounted ch' runs' acc := by
  obtain rfl := hch
  obtain rfl : runs' = runs := funext hr
  exact ha

theorem Accounted.settle (ha : Accounted ch runs acc) (c : Channel) {q : ChannelState × Done}
    (hq : Accounts (ch.get c, #[]) q) :
    Accounted (ch.set c (q.1.delivered q.2.size)) (fun id => runs id + outcomesFor q.2 (.callback id))
      acc where
  conserved id := by
    -- what left the channel's claims was collected, and settling runs what was collected
    have moved := heldBy_set ch c (q.1.delivered q.2.size) (.callback id)
    have owed := hq.owed (.callback id)
    have before := ha.conserved id
    simp only [outcomesFor_empty, Nat.add_zero] at owed
    simp only [holding, claims_delivered] at moved owed ⊢
    omega
  claimed d x hx := by
    by_cases hd : d = c
    · subst hd
      rw [PerChannel.get_set_self, claims_delivered] at hx
      exact ha.claimed d x (hq.claims hx)
    · rw [PerChannel.get_set_other _ _ _ _ hd] at hx
      exact ha.claimed d x hx
  fresh x hx := by
    by_cases hd : x.1 = c
    · rw [hd, PerChannel.get_set_self]
      have := ha.fresh x hx
      rw [hd] at this
      exact Nat.le_trans this (Nat.le_of_eq hq.nextHandle.symm)
    · rw [PerChannel.get_set_other _ _ _ _ hd]
      exact ha.fresh x hx
  unique := ha.unique

theorem Accounted.store (ha : Accounted ch runs acc) (c : Channel) (t : ChannelState)
    (hc : t.claims = (ch.get c).claims) (hn : t.nextHandle = (ch.get c).nextHandle) :
    Accounted (ch.set c t) runs acc :=
  (ha.settle c (@Accounts.of_claims (ch.get c, #[]) (t, #[]) hc hn rfl)).congr rfl fun _ => rfl

theorem Accounted.enqueue (ha : Accounted ch runs acc) (c : Channel) (opcode : UInt16)
    (input : List UInt8) (owner : Owner) (started : Nat) :
    Accounted (ch.set c ((ch.get c).enqueue opcode input owner started)) runs
      (acc ++ [(c, (ch.get c).nextHandle + 1, owner)]) := by
  have above : ∀ x ∈ acc, x.1 = c → x.2.1 < (ch.get c).nextHandle + 1 := fun x hx hc => by
    have := ha.fresh x hx
    rw [hc] at this
    omega
  refine ⟨fun id => ?_, fun d x hx => ?_, fun x hx => ?_, fun x hx y hy h1 h2 => ?_⟩
  · have moved := heldBy_set ch c ((ch.get c).enqueue opcode input owner started) (.callback id)
    have before := ha.conserved id
    rw [holding_enqueue] at moved
    have added : [(c, (ch.get c).nextHandle + 1, owner)].countP (·.2.2 == .callback id) =
        if owner = .callback id then 1 else 0 := by
      simp
    rw [List.countP_append, added]
    omega
  · by_cases hd : d = c
    · subst hd
      rw [PerChannel.get_set_self, claims_enqueue, List.mem_append, List.mem_singleton] at hx
      rcases hx with hx | rfl
      · exact List.mem_append_left _ (ha.claimed d x hx)
      · exact List.mem_append_right _ (List.mem_singleton_self _)
    · rw [PerChannel.get_set_other _ _ _ _ hd] at hx
      exact List.mem_append_left _ (ha.claimed d x hx)
  · rw [List.mem_append, List.mem_singleton] at hx
    by_cases hd : x.1 = c
    · rw [hd, PerChannel.get_set_self]
      show x.2.1 ≤ (ch.get c).nextHandle + 1
      rcases hx with hx | rfl
      · exact Nat.le_of_lt (above x hx hd)
      · exact Nat.le_refl _
    · rw [PerChannel.get_set_other _ _ _ _ hd]
      rcases hx with hx | rfl
      · exact ha.fresh x hx
      · exact absurd rfl hd
  · rw [List.mem_append, List.mem_singleton] at hx hy
    rcases hx with hx | rfl <;> rcases hy with hy | rfl
    · exact ha.unique x hx y hy h1 h2
    · exact absurd h2 (Nat.ne_of_lt (above x hx h1))
    · exact absurd h2.symm (Nat.ne_of_lt (above y hy h1.symm))
    · rfl

theorem eq_of_countP_eq_one {α : Type} {p : α → Bool} {l : List α} {a b : α}
    (once : l.countP p = 1) (ha : a ∈ l) (hb : b ∈ l) (pa : p a) (pb : p b) : a = b := by
  obtain ⟨z, hz⟩ := List.length_eq_one_iff.mp (List.countP_eq_length_filter.symm.trans once)
  have ha' : a ∈ l.filter p := List.mem_filter.mpr ⟨ha, pa⟩
  have hb' : b ∈ l.filter p := List.mem_filter.mpr ⟨hb, pb⟩
  rw [hz, List.mem_singleton] at ha' hb'
  exact ha'.trans hb'.symm

section once

variable (ha : Accounted ch runs acc) {id : Nat} (once : acc.countP (·.2.2 == .callback id) = 1)
include ha once

theorem Accounted.runs_le_one : runs id ≤ 1 := by
  have := ha.conserved id
  omega

theorem Accounted.runs_eq_zero {c : Channel} {h : Nat} (held : (h, .callback id) ∈ (ch.get c).claims) :
    runs id = 0 := by
  have := ha.conserved id
  have := one_le_heldBy held
  omega

theorem Accounted.runs_eq_one {c : Channel} {h : Nat} (mem : (c, h, .callback id) ∈ acc)
    (released : (h, .callback id) ∉ (ch.get c).claims) : runs id = 1 := by
  have none_held : heldBy ch (.callback id) = 0 := heldBy_eq_zero fun d x hx owned => by
    have same := eq_of_countP_eq_one once (ha.claimed d x hx) mem (by simp [owned]) (by simp)
    simp only [Prod.mk.injEq] at same
    obtain ⟨rfl, rfl⟩ := same
    exact released hx
  have := ha.conserved id
  omega

end once

theorem Accounted.owner_of_claim (ha : Accounted ch runs acc) {c : Channel} {h : Nat}
    {o o' : Owner} (held : (h, o) ∈ (ch.get c).claims) (mem : (c, h, o') ∈ acc) : o = o' := by
  have same := ha.unique _ (ha.claimed c _ held) _ mem rfl rfl
  simp only [Prod.mk.injEq] at same
  exact same.2.2

end accounted

section operations

variable {w w' : World} {acc : List (Channel × Nat × Owner)}

theorem accounted_same (ha : Accounted w.engine.channels (callbackRuns w) acc)
    (channels : w'.engine.channels = w.engine.channels) (events : w'.view.events = w.view.events) :
    Accounted w'.engine.channels (callbackRuns w') acc :=
  ha.congr channels fun id => congrFun (callbackRuns_of_events events) id

theorem accounted_settled {w1 : World} {c : Channel} {s0 : ChannelState} {q : ChannelState × Done}
    (ha : Accounted (w.engine.channels.set c s0) (callbackRuns w) acc) (calm : w.engine.panicking = [])
    (same : w1.engine = w.engine) (events : w1.view.events = w.view.events) (hq : Accounts (s0, #[]) q) :
    Accounted (settled c q w1).engine.channels (callbackRuns (settled c q w1)) acc := by
  refine (ha.settle c (by rwa [PerChannel.get_set_self])).congr ?_ fun id => ?_
  · rw [settled_engine, same, PerChannel.set_set]
  · rw [callbackRuns_settled c q (by rw [same, calm]), callbackRuns_of_events events]

theorem accounted_pumped {w1 : World} {c : Channel} {s0 : ChannelState} {p : ChannelState × Done}
    (ha : Accounted (w.engine.channels.set c s0) (callbackRuns w) acc) (calm : w.engine.panicking = [])
    (same : w1.engine = w.engine) (events : w1.view.events = w.view.events) (hp : Accounts (s0, #[]) p) :
    Accounted (pumped c p w1).engine.channels (callbackRuns (pumped c p w1)) acc :=
  accounted_settled ha calm (by rw [pump_engine, same]) ((pump_view p.1 p.2 w1 c).1.trans events)
    (hp.trans (pump_pumping p.1 p.2 w1 c).accounts)

variable (ha : Accounted w.engine.channels (callbackRuns w) acc)
include ha

theorem Dispatched.accounted {f : Frame} (h : Dispatched w f w') (he : w.engine.Coherent)
    (calm : w.engine.panicking = []) :
    Accounted w'.engine.channels (callbackRuns w') acc := by
  cases h with
  | dropped _ stored _ shown =>
    exact (ha.store f.channel (w.engine.channels.get f.channel).countDrop rfl rfl).congr stored
      fun id => congrFun (callbackRuns_of_events (congrArg View.events shown)) id
  | vanished _ _ same shown =>
    exact accounted_same ha (congrArg EngineState.channels same) (congrArg View.events shown)
  | answered p w1 _ hcmd answered same shown =>
    have hc := (he f.channel).consistent _ (List.mem_of_getElem? hcmd)
    exact accounted_pumped (by rwa [PerChannel.set_get]) calm same (congrArg View.events shown)
      (accounts_stopAt.trans (answered.accounts (stopAt_owner hcmd) hc))

theorem TimedOut.accounted {c : Channel} {handle generation : Nat}
    (h : TimedOut w c handle generation w') (he : w.engine.Coherent) (calm : w.engine.panicking = []) :
    Accounted w'.engine.channels (callbackRuns w') acc := by
  cases h with
  | stale _ => exact ha
  | expired p w1 _ hcmd _ _ expired same shown =>
    have hc := (he c).consistent _ (List.mem_of_getElem? hcmd)
    exact accounted_pumped (by rwa [PerChannel.set_get]) calm same (congrArg View.events shown)
      (accounts_stopAt.trans (expired.accounts (stopAt_owner hcmd) hc))

theorem Cancelled.accounted {c : Channel} {handle : Nat} {answer : Bool}
    (h : Cancelled w c handle answer w') (calm : w.engine.panicking = []) :
    Accounted w'.engine.channels (callbackRuns w') acc := by
  have ha' : Accounted (w.engine.channels.set c (w.engine.channels.get c)) (callbackRuns w) acc := by
    rwa [PerChannel.set_get]
  cases h with
  | ignored w1 _ same shown => exact accounted_settled ha' calm same (congrArg View.events shown) (.refl _)
  | dequeued w1 _ _ _ same shown =>
    exact accounted_settled ha' calm same (congrArg View.events shown)
      (accounts_finishAt_of (by rfl) (by rfl) _)
  | abandoned w1 _ hcmd _ same shown =>
    exact accounted_settled ha' calm same (congrArg View.events shown) (accounts_abandonAt hcmd)

theorem Submitted.accounted {c : Channel} {opcode : UInt16} {input : List UInt8} {owner : Owner}
    {handle : Nat} (h : Submitted w c opcode input owner (.ok handle) w') (calm : w.engine.panicking = []) :
    Accounted w'.engine.channels (callbackRuns w') (acc ++ [(c, handle, owner)]) := by
  cases h with
  | queued w1 _ _ same shown =>
    exact accounted_pumped (ha.enqueue c opcode input owner w.now) calm same (congrArg View.events shown)
      (.refl _)

theorem enable_accounted (c : Channel) :
    Accounted ((enable c).run w).2.engine.channels (callbackRuns ((enable c).run w).2) acc := by
  obtain ⟨stored, shown⟩ := enable_run c w
  have events := congrArg View.events shown
  split at stored
  · exact (ha.store c { w.engine.channels.get c with enabled := true } rfl rfl).congr
      (congrArg EngineState.channels stored)
      fun id => congrFun (callbackRuns_of_events events) id
  · exact accounted_same ha (congrArg EngineState.channels stored) events

theorem disable_accounted (he : w.engine.Coherent) (calm : w.engine.panicking = []) (c : Channel) :
    Accounted ((disable c).run w).2.engine.channels (callbackRuns ((disable c).run w).2) acc := by
  obtain ⟨w1, same, shown, settles⟩ := disable_run c w
  rw [settles]
  exact accounted_settled (by rwa [PerChannel.set_get]) calm same (congrArg View.events shown)
    (accounts_closing (he c).consistent)

theorem shutdown_accounted (he : w.engine.Coherent) (calm : w.engine.panicking = []) :
    Accounted (shutdown.run w).2.engine.channels (callbackRuns (shutdown.run w).2) acc :=
  (shutdown_preserves
    (I := fun w => w.engine.Coherent ∧ w.engine.panicking = [] ∧
      Accounted w.engine.channels (callbackRuns w) acc)
    (fun c _ ⟨he, calm, ha⟩ => ⟨disable_coherent c he, by rw [disable_engine]; exact calm,
      disable_accounted ha he calm c⟩)
    (fun _ _ _ _ _ ⟨he, calm, ha⟩ => ⟨by rw [emit_engine]; exact he, by rw [emit_engine]; exact calm,
      accounted_same ha (by rw [emit_engine]) (congrArg View.events (emit_view ..))⟩)
    ⟨he, calm, ha⟩).2.2

theorem backoffElapsed_accounted (c : Channel) (calm : w.engine.panicking = []) :
    Accounted ((backoffElapsed c).run w).2.engine.channels
      (callbackRuns ((backoffElapsed c).run w).2) acc := by
  rw [backoffElapsed_run]
  exact accounted_pumped (ha.store c { w.engine.channels.get c with backoff := none } rfl rfl) calm rfl rfl
    (.refl _)

end operations

theorem Submitted.eq_of_error {w w' : World} {c : Channel} {opcode : UInt16} {input : List UInt8}
    {owner : Owner} {e : EngineError} (h : Submitted w c opcode input owner (.error e) w') :
    w' = w := by
  cases h <;> rfl

theorem Action.step_accounted (a : Action) {w : World} {acc : List (Channel × Nat × Owner)}
    (he : w.engine.Coherent) (calm : w.engine.panicking = [])
    (ha : Accounted w.engine.channels (callbackRuns w) acc) :
    Accounted (a.step w).engine.channels (callbackRuns (a.step w)) (acc ++ a.accepted w) := by
  cases a with
  | submit c opcode input owner =>
    have submitted := submit_run c opcode input owner w
    rw [Action.step_submit, Action.accepted]
    split
    · rename_i handle answered
      rw [answered] at submitted
      exact submitted.accounted ha calm
    · rename_i e refused
      rw [refused] at submitted
      rw [submitted.eq_of_error, List.append_nil]
      exact ha
  | enable c =>
    rw [Action.step_enable]
    simp only [Action.accepted, List.append_nil]
    exact enable_accounted ha c
  | disable c =>
    rw [Action.step_disable]
    simp only [Action.accepted, List.append_nil]
    exact disable_accounted ha he calm c
  | shutdown =>
    rw [Action.step_shutdown]
    simp only [Action.accepted, List.append_nil]
    exact shutdown_accounted ha he calm
  | cancel c handle =>
    rw [Action.step_cancel]
    simp only [Action.accepted, List.append_nil]
    exact (cancel_run c handle w).accounted ha calm
  | receive bytes =>
    rw [Action.step_receive]
    simp only [Action.accepted, List.append_nil]
    rcases receive_run bytes w with ⟨_, _, stored, shown⟩ | ⟨_, _, dispatched⟩
    · exact accounted_same ha stored (congrArg View.events shown)
    · exact dispatched.accounted ha he calm
  | attemptTimedOut c handle generation =>
    rw [Action.step_attemptTimedOut]
    simp only [Action.accepted, List.append_nil]
    exact (attemptTimedOut_run c handle generation w).accounted ha he calm
  | backoffElapsed c =>
    rw [Action.step_backoffElapsed]
    simp only [Action.accepted, List.append_nil]
    exact backoffElapsed_accounted ha c calm

theorem Run.accounted {w : World} {acc : List (Channel × Nat × Owner)} (hw : Run w acc) :
    Accounted w.engine.channels (callbackRuns w) acc := by
  induction hw with
  | @start config link filter program w0 started =>
    have events := congrArg View.events (start_view started)
    refine ⟨fun id => ?_, fun c x hx => ?_, fun x hx => (nomatch hx), fun x hx => (nomatch hx)⟩
    · rw [callbackRuns_of_events events, start_engine started]
      rfl
    · rw [start_engine started] at hx
      cases c <;> cases hx
  | act a hw ih => exact a.step_accounted hw.reachable.coherent hw.reachable.calm ih
  | outside _ engine _ _ callbacks ih =>
    refine ih.congr (congrArg EngineState.channels engine) fun id => ?_
    rw [callbackRuns, callbackRuns, callbacks]

section closed

theorem disable_disabled (c : Channel) (w : World) :
    (((disable c).run w).2.engine.channels.get c).enabled = false := by
  rw [disable_engine]
  simp only [PerChannel.get_set_self]
  exact close_enabled _

theorem shutdown_disabled (w : World) (c : Channel) :
    ((shutdown.run w).2.engine.channels.get c).enabled = false := by
  obtain ⟨pre, post, split⟩ : ∃ pre post, Channel.all = pre ++ c :: post :=
    List.append_of_mem (by cases c <;> decide)
  rw [(shutdown_run w).1, split, List.foldl_append, List.foldl_cons]
  refine (disables_induction (I := fun w => (w.engine.channels.get c).enabled = false)
    (R := fun _ _ => True) (fun _ => trivial) (fun _ _ => trivial) (fun d w off => ⟨?_, trivial⟩) post
    (disable_disabled c _)).1
  by_cases same : d = c
  · subst same
    exact disable_disabled d w
  · rw [disable_engine, PerChannel.get_set_other _ _ _ _ (Ne.symm same)]
    exact off

end closed

section once

variable {w : World} {acc : List (Channel × Nat × Owner)} (hw : Run w acc) {c : Channel} {h id : Nat}
  (mem : (c, h, .callback id) ∈ acc) (once : acc.countP (·.2.2 == .callback id) = 1)
include hw mem once

theorem Run.runs_eq_zero
    (waiting : ∃ cmd ∈ (w.engine.channels.get c).pending, cmd.handle = h ∧
      cmd.state ≠ .runningCancelled) : callbackRuns w id = 0 := by
  obtain ⟨cmd, hmem, hh, live⟩ := waiting
  have consistent := (hw.reachable.coherent c).consistent cmd hmem
  obtain ⟨o, owned⟩ := Option.ne_none_iff_exists'.mp fun silent => live (consistent.owner.mp silent)
  have held : (h, o) ∈ (w.engine.channels.get c).claims := mem_claims.mpr ⟨cmd, hmem, hh, owned⟩
  rw [hw.accounted.owner_of_claim held mem] at held
  exact hw.accounted.runs_eq_zero once held

theorem Run.runs_eq_one
    (released : ∀ cmd ∈ (w.engine.channels.get c).pending, cmd.handle = h →
      cmd.state = .runningCancelled) : callbackRuns w id = 1 := by
  refine hw.accounted.runs_eq_one once mem fun held => ?_
  obtain ⟨cmd, hmem, hh, owned⟩ := mem_claims.mp held
  have silent := ((hw.reachable.coherent c).consistent cmd hmem).owner.mpr (released cmd hmem hh)
  rw [silent] at owned
  cases owned

theorem Run.runs_eq_one_of_disabled (disabled : (w.engine.channels.get c).enabled = false) :
    callbackRuns w id = 1 := by
  refine hw.runs_eq_one mem once fun cmd hmem _ => ?_
  rw [((hw.reachable.coherent c).disabled disabled).1] at hmem
  cases hmem

end once

/-- In every run, each callback has run as often as it was accepted, less the unfinished
commands that still have to tell it, and a callback never accepted has not run; a refused
submission leaves the world as it was. The callback of a submission accepted once runs at
most once: not while its command waits, is sent or waits to be sent again, and exactly once
as soon as the command has finished or was cancelled while running, so in particular once
its channel is disabled or the engine shut down. -/
theorem callbacks_run_once {w : World} {acc : List (Channel × Nat × Owner)} (hw : Run w acc) :
    (∀ id, callbackRuns w id + heldBy w.engine.channels (.callback id) =
      acc.countP (·.2.2 == .callback id)) ∧
    (∀ id, (∀ x ∈ acc, x.2.2 ≠ .callback id) → callbackRuns w id = 0) ∧
    (∀ c opcode input owner e, ((submit c opcode input owner).run w).1 = .error e →
      ((submit c opcode input owner).run w).2 = w) ∧
    ∀ c h id, (c, h, .callback id) ∈ acc → acc.countP (·.2.2 == .callback id) = 1 →
      callbackRuns w id ≤ 1 ∧
      ((∃ cmd ∈ (w.engine.channels.get c).pending, cmd.handle = h ∧
        cmd.state ≠ .runningCancelled) → callbackRuns w id = 0) ∧
      ((∀ cmd ∈ (w.engine.channels.get c).pending, cmd.handle = h →
        cmd.state = .runningCancelled) → callbackRuns w id = 1) ∧
      callbackRuns ((Action.disable c).step w) id = 1 ∧
      callbackRuns (Action.shutdown.step w) id = 1 := by
  have ha := hw.accounted
  refine ⟨ha.conserved, fun id never => ?_, fun c opcode input owner e refused => ?_,
    fun c h id mem once => ⟨ha.runs_le_one once, hw.runs_eq_zero mem once,
      hw.runs_eq_one mem once, ?_, ?_⟩⟩
  · have := ha.conserved id
    rw [List.countP_eq_zero.mpr fun x hx => by simpa using never x hx] at this
    omega
  · have submitted := submit_run c opcode input owner w
    rw [refused] at submitted
    exact submitted.eq_of_error
  · -- disabling accepts nothing
    have disabled := hw.act (.disable c)
    rw [show (Action.disable c).accepted w = [] from rfl, List.append_nil] at disabled
    refine disabled.runs_eq_one_of_disabled mem once ?_
    rw [Action.step_disable]
    exact disable_disabled c w
  · have shut := hw.act .shutdown
    rw [show Action.shutdown.accepted w = [] from rfl, List.append_nil] at shut
    refine shut.runs_eq_one_of_disabled mem once ?_
    rw [Action.step_shutdown]
    exact shutdown_disabled w c

theorem callbacks_run_once_after_cancel :
    let w := (Action.cancel .control 1).step ((Action.submit .control 7 [1, 2] (.callback 1)).step
      ((Action.enable .control).step
        (World.initial EngineConfig.default (.recorder ⟨#[], [], true⟩) none "")))
    ∃ acc, Run w acc ∧
    (∀ id, callbackRuns w id + heldBy w.engine.channels (.callback id) =
      acc.countP (·.2.2 == .callback id)) ∧
    (∀ id, (∀ x ∈ acc, x.2.2 ≠ .callback id) → callbackRuns w id = 0) ∧
    (∀ c opcode input owner e, ((submit c opcode input owner).run w).1 = .error e →
      ((submit c opcode input owner).run w).2 = w) ∧
    ∀ c h id, (c, h, .callback id) ∈ acc → acc.countP (·.2.2 == .callback id) = 1 →
      callbackRuns w id ≤ 1 ∧
      ((∃ cmd ∈ (w.engine.channels.get c).pending, cmd.handle = h ∧
        cmd.state ≠ .runningCancelled) → callbackRuns w id = 0) ∧
      ((∀ cmd ∈ (w.engine.channels.get c).pending, cmd.handle = h →
        cmd.state = .runningCancelled) → callbackRuns w id = 1) ∧
      callbackRuns ((Action.disable c).step w) id = 1 ∧
      callbackRuns (Action.shutdown.step w) id = 1 :=
  have reached := Run.act _ (Run.act _ (Run.act _ (Run.initial _ _ _ (by decide))))
  ⟨_, reached, callbacks_run_once reached⟩

end Engine

end FrameRpc
