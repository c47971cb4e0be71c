import FrameRpc.Proofs.Engine.History
set_option autoImplicit false

/-!
The life of a command, as the history of its channel tells it.

Read for one handle, the history of a channel is a word of a small grammar: the command is
queued; then comes each failed attempt (a refused send, or a send answered busy or
outlived by its timer), as many as its attempt counter says and fewer than the budget;
then what its state shows (nothing while it waits, the send of the attempt out while it
runs, and the cancel after it once it is cancelled while running); and once the command
has left its channel, one of the endings of `Ending`, the failure that spends the last
attempt among them. Across handles, requests are handed to the link and commands are
queued in the order of their handles.

`ChannelState.Told` says all of this of a channel and its history. Every move keeps it,
shape by shape as `Coherence` does (the first command changed, a command removed, a
command appended, the channel closed), so it holds of every chronicle
(`Chronicle.told`).
-/

namespace FrameRpc

namespace Happening

def isQueued : Happening → Bool
  | .queued => true
  | _ => false

def isSent : Happening → Bool
  | .sent _ => true
  | _ => false

/-- Whether an attempt failed: the link refused the request, the peer was busy, or the
attempt timer ran out. -/
def failed : Happening → Bool
  | .sent false | .busy | .expired => true
  | _ => false

def closes : Happening → Bool
  | .finished _ | .abandoned => true
  | _ => false

end Happening

namespace History

def story (hist : List (Nat × Happening)) (handle : Nat) : List Happening :=
  hist.filterMap fun e => if e.1 = handle then some e.2 else none

def handles (p : Happening → Bool) (hist : List (Nat × Happening)) : List Nat :=
  hist.filterMap fun e => if p e.2 then some e.1 else none

@[simp] theorem story_nil (h : Nat) : story [] h = [] := rfl

@[simp] theorem story_append (a b : List (Nat × Happening)) (h : Nat) :
    story (a ++ b) h = story a h ++ story b h :=
  List.filterMap_append

@[simp] theorem story_cons_self (x : Happening) (rest : List (Nat × Happening)) (h : Nat) :
    story ((h, x) :: rest) h = x :: story rest h := by
  simp [story]

theorem story_cons_other (x : Happening) (rest : List (Nat × Happening)) {h h' : Nat} (hne : h' ≠ h) :
    story ((h, x) :: rest) h' = story rest h' := by
  simp [story, Ne.symm hne]

@[simp] theorem story_about_self (l : List Happening) (h : Nat) : story (l.map (h, ·)) h = l := by
  induction l with
  | nil => rfl
  | cons x rest ih => rw [List.map_cons, story_cons_self, ih]

theorem story_about_other (l : List Happening) {h h' : Nat} (hne : h' ≠ h) :
    story (l.map (h, ·)) h' = [] := by
  induction l with
  | nil => rfl
  | cons x rest ih => rw [List.map_cons, story_cons_other x _ hne, ih]

@[simp] theorem handles_append (p : Happening → Bool) (a b : List (Nat × Happening)) :
    handles p (a ++ b) = handles p a ++ handles p b :=
  List.filterMap_append

theorem mem_handles {p : Happening → Bool} {hist : List (Nat × Happening)} {x : Nat}
    (hx : x ∈ handles p hist) : ∃ e ∈ hist, e.1 = x ∧ p e.2 = true := by
  obtain ⟨e, he, hsome⟩ := List.mem_filterMap.mp hx
  by_cases hp : p e.2 = true
  · simp only [hp, ↓reduceIte, Option.some.injEq] at hsome
    exact ⟨e, he, hsome, hp⟩
  · simp [hp] at hsome

theorem mem_handles_about {p : Happening → Bool} {l : List Happening} {h x : Nat}
    (hx : x ∈ handles p (l.map (h, ·))) : x = h := by
  obtain ⟨e, he, rfl, -⟩ := mem_handles hx
  obtain ⟨y, -, rfl⟩ := List.mem_map.mp he
  rfl

theorem handles_about_nil {p : Happening → Bool} {l : List Happening} (h : Nat)
    (hl : ∀ x ∈ l, p x = false) : handles p (l.map (h, ·)) = [] := by
  induction l with
  | nil => rfl
  | cons x rest ih =>
    simp only [handles, List.map_cons, List.filterMap_cons, hl x List.mem_cons_self,
      Bool.false_eq_true, ↓reduceIte]
    exact ih fun y hy => hl y (List.mem_cons_of_mem x hy)

theorem handles_sorted_about {p : Happening → Bool} {hist : List (Nat × Happening)}
    {l : List Happening} {h : Nat} (sorted : (handles p hist).Pairwise (· ≤ ·))
    (below : ∀ x ∈ handles p hist, x ≤ h) : (handles p (hist ++ l.map (h, ·))).Pairwise (· ≤ ·) := by
  rw [handles_append, List.pairwise_append]
  refine ⟨sorted, ?_, fun a ha b hb => (mem_handles_about hb) ▸ below a ha⟩
  refine List.Pairwise.imp (R := fun a b => a = h ∧ b = h) ?_ ?_
  · rintro a b ⟨rfl, rfl⟩
    exact Nat.le_refl _
  · rw [List.pairwise_iff_getElem]
    intro i j hi hj _
    exact ⟨mem_handles_about (List.getElem_mem hi), mem_handles_about (List.getElem_mem hj)⟩

end History

inductive Failure : List Happening → Prop where
  | refused : Failure [.sent false]
  | busy : Failure [.sent true, .busy]
  | expired : Failure [.sent true, .expired]

inductive Tries : Nat → List Happening → Prop where
  | none : Tries 0 []
  | more {n : Nat} {w r : List Happening} : Tries n w → Failure r → Tries (n + 1) (w ++ r)

/-- How the history of a command that has left its channel ends, after `n` failed attempts
of the `budget` it had. -/
inductive Ending (budget n : Nat) : List Happening → Prop where
  | cancelled : n < budget → Ending budget n [.finished (.error .cancelled)]
  | closed : n < budget → Ending budget n [.sent true, .finished (.error .cancelled)]
  | reaped : n < budget → Ending budget n [.sent true, .abandoned]
  | completed (payload : List UInt8) : n < budget →
      Ending budget n [.sent true, .finished (.ok payload)]
  | rejected (code : UInt8) : n < budget → code ≠ Status.queueFull.code →
      Ending budget n [.sent true, .finished (.error (.remote code))]
  | unsent : n + 1 = budget →
      Ending budget n [.sent false, .finished (.error (.transportUnavailable budget))]
  | busy : n + 1 = budget →
      Ending budget n [.sent true, .busy, .finished (.error (.remote Status.queueFull.code))]
  | timedOut : n + 1 = budget →
      Ending budget n [.sent true, .expired, .finished (.error .timeout)]

def CommandState.trail : CommandState → List Happening
  | .queued | .retry => []
  | .running => [.sent true]
  | .runningCancelled => [.sent true, .abandoned]

theorem CommandState.trail_of_sendable {st : CommandState} (h : st.isSendable = true) : st.trail = [] := by
  cases st <;> simp_all [isSendable, trail]

theorem CommandState.running_of_inFlight {st : CommandState} (hf : st.isInFlight = true)
    (hne : st ≠ .runningCancelled) : st = .running := by
  cases st <;> simp_all [isInFlight]

/-- The history of an unfinished command: it was queued, failed as many attempts as its
counter says and fewer than the budget, and its state shows the rest. -/
def Command.Lived (budget : Nat) (cmd : Command) (story : List Happening) : Prop :=
  ∃ w, Tries cmd.attempts w ∧ cmd.attempts < budget ∧ story = .queued :: (w ++ cmd.state.trail)

def Ended (budget : Nat) (story : List Happening) : Prop :=
  story = [] ∨ ∃ n w e, Tries n w ∧ Ending budget n e ∧ story = .queued :: (w ++ e)

namespace Command

variable {budget : Nat} {cmd cmd' : Command} {story : List Happening}

theorem Lived.lt (h : cmd.Lived budget story) : cmd.attempts < budget := by
  obtain ⟨-, -, left, -⟩ := h
  exact left

theorem Lived.stay (h : cmd.Lived budget story) {l : List Happening}
    (ht : cmd.state.trail ++ l = cmd'.state.trail) (ha : cmd'.attempts = cmd.attempts) :
    cmd'.Lived budget (story ++ l) := by
  obtain ⟨w, tries, left, rfl⟩ := h
  refine ⟨w, ha ▸ tries, ha ▸ left, ?_⟩
  rw [← ht]
  simp

theorem Lived.retry (h : cmd.Lived budget story) {l r : List Happening} (hr : Failure r)
    (ht : cmd.state.trail ++ l = r) (left : cmd.attempts + 1 < budget)
    (ha : cmd'.attempts = cmd.attempts + 1) (hst : cmd'.state = .retry) :
    cmd'.Lived budget (story ++ l) := by
  obtain ⟨w, tries, -, rfl⟩ := h
  refine ⟨w ++ r, ha ▸ tries.more hr, ha ▸ left, ?_⟩
  rw [hst, ← ht]
  simp [CommandState.trail]

theorem Lived.finish (h : cmd.Lived budget story) {l : List Happening}
    (he : Ending budget cmd.attempts (cmd.state.trail ++ l)) : Ended budget (story ++ l) := by
  obtain ⟨w, tries, -, rfl⟩ := h
  exact .inr ⟨cmd.attempts, w, _, tries, he, by simp⟩

theorem Lived.closed (h : cmd.Lived budget story) :
    Ended budget (story ++ if cmd.state != .runningCancelled then [.finished (.error .cancelled)] else []) := by
  apply h.finish
  cases hst : cmd.state with
  | queued => exact .cancelled h.lt
  | retry => exact .cancelled h.lt
  | running => exact .closed h.lt
  | runningCancelled => exact .reaped h.lt

end Command

namespace History

theorem story_cancelled (L : List Command) (sorted : L.Pairwise (·.handle < ·.handle))
    (x : Happening) (p : Command → Bool) :
    (∀ k ∈ L, story ((L.filter p).map fun k => (k.handle, x)) k.handle = if p k then [x] else []) ∧
      ∀ h, (∀ k ∈ L, k.handle ≠ h) → story ((L.filter p).map fun k => (k.handle, x)) h = [] := by
  induction L with
  | nil => exact ⟨by simp, fun _ _ => rfl⟩
  | cons k rest ih =>
    obtain ⟨below, sorted⟩ := List.pairwise_cons.mp sorted
    obtain ⟨own, others⟩ := ih sorted
    have skip : ∀ h, h ≠ k.handle → story (((k :: rest).filter p).map fun k => (k.handle, x)) h =
        story ((rest.filter p).map fun k => (k.handle, x)) h := by
      intro h hne
      rw [List.filter_cons]
      split
      · rw [List.map_cons, story_cons_other _ _ hne]
      · rfl
    refine ⟨fun k' hk' => ?_, fun h hgone => ?_⟩
    · rcases List.mem_cons.mp hk' with rfl | later
      · have fresh := others k'.handle fun j hj => Nat.ne_of_gt (below j hj)
        rw [List.filter_cons]
        split
        · rw [List.map_cons, story_cons_self, fresh]
        · rw [fresh]
      · rw [skip _ (Nat.ne_of_gt (below k' later)), own k' later]
    · rw [skip h (Ne.symm (hgone k List.mem_cons_self))]
      exact others h fun j hj => hgone j (List.mem_cons_of_mem k hj)

theorem handles_cancelled {p : Happening → Bool} {x : Happening} (hx : p x = false)
    (L : List Command) : handles p (L.map fun k => (k.handle, x)) = [] := by
  induction L with
  | nil => rfl
  | cons k rest ih =>
    simp only [handles, List.map_cons, List.filterMap_cons, hx, Bool.false_eq_true, ↓reduceIte]
    exact ih

theorem story_fresh {hist : List (Nat × Happening)} {n : Nat} (h : ∀ e ∈ hist, e.1 ≤ n) :
    story hist (n + 1) = [] := by
  induction hist with
  | nil => rfl
  | cons e rest ih =>
    have below := h e List.mem_cons_self
    obtain ⟨handle, x⟩ := e
    rw [story_cons_other x rest (Nat.ne_of_gt (Nat.lt_succ_of_le below))]
    exact ih fun e' he' => h e' (List.mem_cons_of_mem _ he')

end History

namespace ChannelState

open History

/-- What the history `hist` of a channel says of its state `s` under the attempt budget
`budget`: every handle it names was issued; every request handed to the link so far is of
a command no later than any unfinished one; requests went out, and commands were queued,
in the order of their handles; every unfinished command lived as its state shows; and
every other handle's life is over or never began. -/
structure Told (budget : Nat) (s : ChannelState) (hist : List (Nat × Happening)) : Prop where
  issued : ∀ e ∈ hist, e.1 ≤ s.nextHandle
  served : ∀ h ∈ handles Happening.isSent hist, ∀ cmd ∈ s.pending, h ≤ cmd.handle
  sent_sorted : (handles Happening.isSent hist).Pairwise (· ≤ ·)
  queued_sorted : (handles Happening.isQueued hist).Pairwise (· < ·)
  lived : ∀ cmd ∈ s.pending, cmd.Lived budget (story hist cmd.handle)
  ended : ∀ h, (∀ cmd ∈ s.pending, cmd.handle ≠ h) → Ended budget (story hist h)

theorem told_initial (budget : Nat) : initial.Told budget [] where
  issued := by simp
  served := by simp [handles]
  sent_sorted := .nil
  queued_sorted := .nil
  lived := by simp [initial]
  ended := fun _ _ => .inl rfl

section handles

variable {s : ChannelState}

theorem Coherent.handle_ne_of_mem_eraseIdx (hs : s.Coherent) {idx : Nat} {cmd k : Command}
    (hcmd : s.pending[idx]? = some cmd) (hk : k ∈ s.pending.eraseIdx idx) : k.handle ≠ cmd.handle := by
  obtain ⟨j, hj, hkj⟩ := List.mem_eraseIdx_iff_getElem?.mp hk
  obtain ⟨hjl, rfl⟩ := List.getElem?_eq_some_iff.mp hkj
  obtain ⟨hil, rfl⟩ := List.getElem?_eq_some_iff.mp hcmd
  -- handles rise strictly along the list, so two positions never share one
  have sorted := List.pairwise_iff_getElem.mp hs.sorted
  rcases Nat.lt_or_gt_of_ne hj with lt | gt
  · exact Nat.ne_of_lt (sorted j idx hjl hil lt)
  · exact Nat.ne_of_gt (sorted idx j hil hjl gt)

theorem mem_eraseIdx_of_handle_ne {idx : Nat} {cmd k : Command}
    (hcmd : s.pending[idx]? = some cmd) (hk : k ∈ s.pending) (hne : k.handle ≠ cmd.handle) :
    k ∈ s.pending.eraseIdx idx := by
  obtain ⟨j, hkj⟩ := List.mem_iff_getElem?.mp hk
  refine List.mem_eraseIdx_iff_getElem?.mpr ⟨j, fun hj => hne ?_, hkj⟩
  subst hj
  rw [hcmd, Option.some.injEq] at hkj
  rw [hkj]

end handles

section shapes

variable {budget : Nat} {s t : ChannelState} {hist : List (Nat × Happening)}

theorem Told.congr (ht : s.Told budget hist) (hp : t.pending = s.pending)
    (hn : t.nextHandle = s.nextHandle) : t.Told budget hist where
  issued := fun e he => hn ▸ ht.issued e he
  served := fun h hh k hk => ht.served h hh k (hp ▸ hk)
  sent_sorted := ht.sent_sorted
  queued_sorted := ht.queued_sorted
  lived := fun k hk => ht.lived k (hp ▸ hk)
  ended := fun h hgone => ht.ended h fun k hk => hgone k (hp ▸ hk)

theorem Told.newHead (ht : s.Told budget hist) (hs : s.Coherent) {cmd : Command}
    {rest : List Command} (hp : s.pending = cmd :: rest) (cmd' : Command)
    (htp : t.pending = cmd' :: rest) (hh : cmd'.handle = cmd.handle)
    (hn : t.nextHandle = s.nextHandle) {l : List Happening} (hq : ∀ x ∈ l, x.isQueued = false)
    (hl : cmd.Lived budget (story hist cmd.handle) → cmd'.Lived budget (story hist cmd.handle ++ l)) :
    t.Told budget (hist ++ l.map (cmd.handle, ·)) := by
  have first : cmd ∈ s.pending := by simp [hp]
  have later : ∀ k ∈ rest, cmd.handle < k.handle := (List.pairwise_cons.mp (hp ▸ hs.sorted)).1
  constructor
  case issued =>
    intro e he
    rw [hn]
    rcases List.mem_append.mp he with old | new
    · exact ht.issued e old
    · obtain ⟨x, -, rfl⟩ := List.mem_map.mp new
      exact hs.bounded cmd first
  case served =>
    intro h hsent k hk
    rw [htp] at hk
    rcases List.mem_append.mp ((handles_append ..) ▸ hsent) with old | new
    · rcases List.mem_cons.mp hk with rfl | hk
      · exact hh ▸ ht.served h old cmd first
      · exact ht.served h old k (by simp [hp, hk])
    · rw [mem_handles_about new]
      rcases List.mem_cons.mp hk with rfl | hk
      · exact Nat.le_of_eq hh.symm
      · exact Nat.le_of_lt (later k hk)
  case sent_sorted => exact handles_sorted_about ht.sent_sorted fun x hx => ht.served x hx cmd first
  case queued_sorted =>
    rw [handles_append, handles_about_nil _ hq, List.append_nil]
    exact ht.queued_sorted
  case lived =>
    intro k hk
    rw [htp] at hk
    rcases List.mem_cons.mp hk with rfl | hk
    · rw [hh, story_append, story_about_self]
      exact hl (ht.lived cmd first)
    · rw [story_append, story_about_other _ (Nat.ne_of_gt (later k hk)), List.append_nil]
      exact ht.lived k (by simp [hp, hk])
  case ended =>
    intro h hgone
    rw [htp] at hgone
    have hne : cmd.handle ≠ h := hh ▸ hgone _ List.mem_cons_self
    rw [story_append, story_about_other _ (Ne.symm hne), List.append_nil]
    refine ht.ended h fun k hk => ?_
    rw [hp] at hk
    rcases List.mem_cons.mp hk with rfl | hk
    · exact hne
    · exact hgone k (List.mem_cons_of_mem _ hk)

theorem Told.remove (ht : s.Told budget hist) (hs : s.Coherent) {idx : Nat} {cmd : Command}
    (hcmd : s.pending[idx]? = some cmd) (htp : t.pending = s.pending.eraseIdx idx)
    (hn : t.nextHandle = s.nextHandle) {l : List Happening} (hq : ∀ x ∈ l, x.isQueued = false)
    (hsent : ∀ x ∈ l, x.isSent = true → ∀ k ∈ t.pending, cmd.handle ≤ k.handle)
    (hl : cmd.Lived budget (story hist cmd.handle) → Ended budget (story hist cmd.handle ++ l)) :
    t.Told budget (hist ++ l.map (cmd.handle, ·)) := by
  have member : cmd ∈ s.pending := List.mem_of_getElem? hcmd
  have kept : ∀ k ∈ t.pending, k ∈ s.pending := fun k hk => List.mem_of_mem_eraseIdx (htp ▸ hk)
  have other : ∀ k ∈ t.pending, k.handle ≠ cmd.handle :=
    fun k hk => hs.handle_ne_of_mem_eraseIdx hcmd (htp ▸ hk)
  constructor
  case issued =>
    intro e he
    rw [hn]
    rcases List.mem_append.mp he with old | new
    · exact ht.issued e old
    · obtain ⟨x, -, rfl⟩ := List.mem_map.mp new
      exact hs.bounded cmd member
  case served =>
    intro h hh k hk
    rcases List.mem_append.mp ((handles_append ..) ▸ hh) with old | new
    · exact ht.served h old k (kept k hk)
    · obtain ⟨e, he, rfl, sent⟩ := mem_handles new
      obtain ⟨x, hx, rfl⟩ := List.mem_map.mp he
      exact hsent x hx sent k hk
  case sent_sorted => exact handles_sorted_about ht.sent_sorted fun x hx => ht.served x hx cmd member
  case queued_sorted =>
    rw [handles_append, handles_about_nil _ hq, List.append_nil]
    exact ht.queued_sorted
  case lived =>
    intro k hk
    rw [story_append, story_about_other _ (other k hk), List.append_nil]
    exact ht.lived k (kept k hk)
  case ended =>
    intro h hgone
    rw [story_append]
    by_cases own : h = cmd.handle
    · subst own
      rw [story_about_self]
      exact hl (ht.lived cmd member)
    · rw [story_about_other _ own, List.append_nil]
      refine ht.ended h fun k hk hkh => ?_
      exact hgone k (htp ▸ mem_eraseIdx_of_handle_ne hcmd hk (hkh ▸ own)) hkh

theorem Told.enqueue (ht : s.Told budget hist) (hs : s.Coherent) (hb : 0 < budget) (opcode : UInt16)
    (input : List UInt8) (owner : Owner) (started : Nat) :
    (s.enqueue opcode input owner started).Told budget (hist ++ [(s.nextHandle + 1, .queued)]) := by
  have fresh : story hist (s.nextHandle + 1) = [] := story_fresh ht.issued
  have older : ∀ k ∈ s.pending, k.handle ≠ s.nextHandle + 1 :=
    fun k hk => Nat.ne_of_lt (Nat.lt_succ_of_le (hs.bounded k hk))
  have unsent : handles Happening.isSent [(s.nextHandle + 1, .queued)] = [] := rfl
  constructor
  case issued =>
    intro e he
    rcases List.mem_append.mp he with old | new
    · exact Nat.le_succ_of_le (ht.issued e old)
    · rw [List.mem_singleton.mp new]
      exact Nat.le_refl _
  case served =>
    intro h hh k hk
    rw [handles_append, unsent, List.append_nil] at hh
    rcases List.mem_append.mp hk with old | new
    · exact ht.served h hh k old
    · obtain ⟨e, he, rfl, -⟩ := mem_handles hh
      rw [List.mem_singleton.mp new]
      exact Nat.le_succ_of_le (ht.issued e he)
  case sent_sorted =>
    rw [handles_append, unsent, List.append_nil]
    exact ht.sent_sorted
  case queued_sorted =>
    rw [handles_append, List.pairwise_append]
    refine ⟨ht.queued_sorted, by simp [handles, Happening.isQueued], fun a ha b hb => ?_⟩
    obtain ⟨e, he, rfl, -⟩ := mem_handles ha
    rw [show b = s.nextHandle + 1 by simpa [handles, Happening.isQueued] using hb]
    exact Nat.lt_succ_of_le (ht.issued e he)
  case lived =>
    intro k hk
    rcases List.mem_append.mp hk with old | new
    · rw [story_append, story_cons_other _ _ (older k old), story_nil, List.append_nil]
      exact ht.lived k old
    · rw [List.mem_singleton.mp new]
      refine ⟨[], .none, hb, ?_⟩
      show story (hist ++ [(s.nextHandle + 1, .queued)]) (s.nextHandle + 1) = [.queued]
      rw [story_append, fresh, story_cons_self, story_nil]
      rfl
  case ended =>
    intro h hgone
    have hne : h ≠ s.nextHandle + 1 :=
      fun heq => hgone _ (List.mem_append_right _ (List.mem_singleton_self _)) heq.symm
    rw [story_append, story_cons_other _ _ hne, story_nil, List.append_nil]
    exact ht.ended h fun k hk => hgone k (List.mem_append_left _ hk)

end shapes

section operations

variable {budget : Nat} {s : ChannelState} {hist : List (Nat × Happening)}

@[simp] theorem finishAt_nextHandle (idx : Nat) (r : Outcome) (done : Engine.Done) :
    (s.finishAt idx r done).1.nextHandle = s.nextHandle := by
  rw [finishAt_fst, reapAt_nextHandle]

theorem Told.close (ht : s.Told budget hist) (hs : s.Coherent) :
    s.close.Told budget (hist ++ s.closeLabels) := by
  by_cases on : s.enabled = true
  · -- an enabled channel is drained to nothing, and keeps its handle counter
    have drained := (drain_empties (s.pending.length + 1) { s with enabled := false, backoff := none } #[]
      hs.running_cases (by simp)).1
    have kept := (drain_keeps (s.pending.length + 1) { s with enabled := false, backoff := none } #[]).2.2.1
    have hp : s.close.pending = [] := by
      show s.closing.1.pending = []
      simpa [closing, on] using drained
    have hn : s.close.nextHandle = s.nextHandle := by
      show s.closing.1.nextHandle = s.nextHandle
      simpa [closing, on] using kept
    have labels : s.closeLabels = (s.pending.filter fun k => k.state != .runningCancelled).map
        fun k => (k.handle, .finished (.error .cancelled)) := by
      simp [closeLabels, on]
    obtain ⟨own, others⟩ := story_cancelled s.pending hs.sorted (.finished (.error .cancelled))
      fun k => k.state != .runningCancelled
    constructor
    case issued =>
      intro e he
      rw [hn]
      rcases List.mem_append.mp he with old | new
      · exact ht.issued e old
      · rw [labels] at new
        obtain ⟨k, hk, rfl⟩ := List.mem_map.mp new
        exact hs.bounded k (List.mem_filter.mp hk).1
    case served => simp [hp]
    case sent_sorted =>
      rw [handles_append, labels, handles_cancelled rfl, List.append_nil]
      exact ht.sent_sorted
    case queued_sorted =>
      rw [handles_append, labels, handles_cancelled rfl, List.append_nil]
      exact ht.queued_sorted
    case lived => simp [hp]
    case ended =>
      intro h _
      rw [story_append, labels]
      by_cases present : ∃ k ∈ s.pending, k.handle = h
      · obtain ⟨k, hk, rfl⟩ := present
        rw [own k hk]
        exact (ht.lived k hk).closed
      · have absent : ∀ k ∈ s.pending, k.handle ≠ h := fun k hk same => present ⟨k, hk, same⟩
        rw [others h absent, List.append_nil]
        exact ht.ended h absent
  · -- a disabled channel is stored as it was
    have same : s.closing = (s, #[]) := by simp [closing, on]
    have none : s.closeLabels = [] := by simp [closeLabels, on]
    rw [none, List.append_nil]
    exact ht.congr (by rw [ChannelState.close, same]; rfl) (by rw [ChannelState.close, same]; rfl)

theorem Told.attempt (ht : s.Told budget hist) (hs : s.Coherent) (hr : s.running = none)
    {idx : Nat} {cmd : Command} {done : Engine.Done} {answer : Except TransmitError Unit}
    {q : ChannelState × Engine.Done} (hn : s.nextSendable = some idx)
    (hc : s.pending[idx]? = some cmd) (ha : s.Attempt budget idx cmd done answer q) :
    q.1.Told budget (hist ++ (Happening.ofAttempt budget cmd answer).map (cmd.handle, ·)) := by
  obtain rfl := hs.nextSendable_zero hr hn
  obtain ⟨rest, hp⟩ : ∃ rest, s.pending = cmd :: rest :=
    List.head?_eq_some_iff.mp (by rwa [List.head?_eq_getElem?])
  have later : ∀ k ∈ rest, cmd.handle < k.handle := (List.pairwise_cons.mp (hp ▸ hs.sorted)).1
  have waiting : cmd.state.trail = [] := by
    obtain ⟨cmd', hc', sendable⟩ := nextSendable_some hn
    rw [hc, Option.some.injEq] at hc'
    exact CommandState.trail_of_sendable (hc' ▸ sendable)
  cases ha with
  | sent timer =>
    refine ht.newHead hs hp
      { cmd with seq := s.lastSeq + 1, generation := cmd.generation + 1, state := .running,
                 timer := some timer }
      (by simp [launch, modifyAt, hp]) rfl (by simp [launch, modifyAt])
      (by simp [Happening.ofAttempt, Happening.isQueued]) fun lived => lived.stay ?_ rfl
    rw [waiting]
    rfl
  | gaveUp spent =>
    refine ht.remove hs hc (by simp [refusedFinal, modifyAt, hp]) (by simp [refusedFinal, modifyAt])
      (by simp [Happening.ofAttempt, spent, Happening.isQueued]) ?_ fun lived => lived.finish ?_
    · -- the command sent is the first; every command left is later
      intro _ _ _ k hk
      have hk' : k ∈ rest := by simpa [refusedFinal, modifyAt, hp] using hk
      exact Nat.le_of_lt (later k hk')
    · have last : cmd.attempts + 1 = budget := Nat.le_antisymm (lived.lt) spent
      simp only [Happening.ofAttempt, spent, ↓reduceIte, waiting, List.nil_append]
      rw [last]
      exact .unsent last
  | backedOff backoff left =>
    refine ht.newHead hs hp { cmd with attempts := cmd.attempts + 1, state := .retry }
      (by simp [refusedRetry, modifyAt, hp]) rfl (by simp [refusedRetry, modifyAt])
      (by simp [Happening.ofAttempt, Nat.not_le.mpr left, Happening.isQueued])
      fun lived => lived.retry .refused ?_ left rfl rfl
    simp [Happening.ofAttempt, Nat.not_le.mpr left, waiting]

theorem Told.serving {cfg : EngineConfig} {c : Channel} {p q : ChannelState × Engine.Done}
    {evs : List (Nat × Happening)} (h : Serving cfg c p evs q) (hs : p.1.Coherent)
    (ht : p.1.Told cfg.retryBudget hist) : q.1.Told cfg.retryBudget (hist ++ evs) := by
  induction h generalizing hist with
  | stop => simpa using ht
  | attempt hen hr hb hn hc _ ha _ ih =>
    rw [← List.append_assoc]
    exact ih (hs.attempt hen hr hb hn hc ha) (ht.attempt hs hr hn hc ha)

theorem code_ne_of_ne {status : Status} (h : status ≠ Status.queueFull) :
    status.code ≠ Status.queueFull.code :=
  fun same => h (by rw [show status = ⟨status.code⟩ from rfl, same])

theorem Told.answer (ht : s.Told budget hist) (hs : s.Coherent) {f : Frame} {idx : Nat}
    {cmd : Command} {p : ChannelState × Engine.Done} (hidx : s.answering f.seq = some idx)
    (hcmd : s.pending[idx]? = some cmd) (ha : (s.stopAt idx).Answer budget idx cmd f p) :
    p.1.Told budget (hist ++ (Happening.ofAnswer budget cmd f).map (cmd.handle, ·)) := by
  obtain ⟨rfl, rest, hp, hf⟩ := hs.answering_head hidx hcmd
  have stopped : (s.stopAt 0).pending = { cmd with timer := none } :: rest := by
    simp [stopAt, modifyAt, hp]
  -- whatever the answer, a command that leaves is the first, and leaves the rest
  have rest_eq : (s.pending.eraseIdx 0) = rest := by rw [hp]; rfl
  cases ha with
  | reaped cancelled =>
    have labels : Happening.ofAnswer budget cmd f = [] := by simp [Happening.ofAnswer, cancelled]
    rw [labels]
    refine ht.remove hs hcmd (by simp [stopped, rest_eq]) (by simp [stopAt, modifyAt]) (by simp)
      (by simp) fun lived => lived.finish ?_
    rw [cancelled]
    exact .reaped lived.lt
  | gaveUp live busy spent =>
    have running := CommandState.running_of_inFlight hf live
    have labels : Happening.ofAnswer budget cmd f =
        [.busy, .finished (.error (.remote Status.queueFull.code))] := by
      simp [Happening.ofAnswer, live, busy, spent]
    rw [labels]
    refine ht.remove hs hcmd (by simp [failAt, spendAt, stopped, rest_eq, modifyAt])
      (by simp [failAt, spendAt, stopAt, modifyAt]) (by simp [Happening.isQueued])
      (by simp [Happening.isSent]) fun lived => lived.finish ?_
    rw [running]
    exact .busy (Nat.le_antisymm lived.lt spent)
  | backedOff backoff live busy left =>
    have running := CommandState.running_of_inFlight hf live
    have labels : Happening.ofAnswer budget cmd f = [.busy] := by
      simp [Happening.ofAnswer, live, busy, Nat.not_le.mpr left]
    rw [labels]
    exact ht.newHead hs hp { cmd with timer := none, attempts := cmd.attempts + 1, state := .retry }
      (by simp [requeueAt, spendAt, stopped, modifyAt]) rfl (by simp [requeueAt, spendAt, stopAt, modifyAt])
      (by simp [Happening.isQueued])
      fun lived => lived.retry .busy (by rw [running]; rfl) left rfl rfl
  | completed live ok =>
    have running := CommandState.running_of_inFlight hf live
    have labels : Happening.ofAnswer budget cmd f = [.finished (.ok f.payload)] := by
      simp [Happening.ofAnswer, live, ok, show Status.ok ≠ Status.queueFull by decide]
    rw [labels]
    refine ht.remove hs hcmd (by simp [completeAt, stopped, rest_eq]) (by simp [completeAt, stopAt, modifyAt])
      (by simp [Happening.isQueued]) (by simp [Happening.isSent]) fun lived => lived.finish ?_
    rw [running]
    exact .completed f.payload lived.lt
  | failed live busy ok =>
    have running := CommandState.running_of_inFlight hf live
    have labels : Happening.ofAnswer budget cmd f = [.finished (.error (.remote f.status.code))] := by
      simp [Happening.ofAnswer, live, busy, ok]
    rw [labels]
    refine ht.remove hs hcmd (by simp [failAt, stopped, rest_eq]) (by simp [failAt, stopAt, modifyAt])
      (by simp [Happening.isQueued]) (by simp [Happening.isSent]) fun lived => lived.finish ?_
    rw [running]
    exact .rejected f.status.code lived.lt (code_ne_of_ne busy)

theorem Told.expiry (ht : s.Told budget hist) (hs : s.Coherent) {idx : Nat} {cmd : Command}
    {p : ChannelState × Engine.Done} (hcmd : s.pending[idx]? = some cmd)
    (hf : cmd.state.isInFlight = true) (hx : (s.stopAt idx).Expiry budget idx cmd p) :
    p.1.Told budget (hist ++ (Happening.ofExpiry budget cmd).map (cmd.handle, ·)) := by
  obtain ⟨rfl, rest, hp⟩ := hs.front_of_inFlight hcmd hf
  have stopped : (s.stopAt 0).pending = { cmd with timer := none } :: rest := by
    simp [stopAt, modifyAt, hp]
  have rest_eq : (s.pending.eraseIdx 0) = rest := by rw [hp]; rfl
  cases hx with
  | reaped cancelled =>
    have labels : Happening.ofExpiry budget cmd = [] := by simp [Happening.ofExpiry, cancelled]
    rw [labels]
    refine ht.remove hs hcmd (by simp [stopped, rest_eq]) (by simp [stopAt, modifyAt]) (by simp)
      (by simp) fun lived => lived.finish ?_
    rw [cancelled]
    exact .reaped lived.lt
  | timedOut live spent =>
    have running := CommandState.running_of_inFlight hf live
    have labels : Happening.ofExpiry budget cmd = [.expired, .finished (.error .timeout)] := by
      simp [Happening.ofExpiry, live, spent]
    rw [labels]
    refine ht.remove hs hcmd (by simp [failAt, timeoutAt, spendAt, stopped, rest_eq, modifyAt])
      (by simp [failAt, timeoutAt, spendAt, stopAt, modifyAt]) (by simp [Happening.isQueued])
      (by simp [Happening.isSent]) fun lived => lived.finish ?_
    rw [running]
    exact .timedOut (Nat.le_antisymm lived.lt spent)
  | retried live left =>
    have running := CommandState.running_of_inFlight hf live
    have labels : Happening.ofExpiry budget cmd = [.expired] := by
      simp [Happening.ofExpiry, live, Nat.not_le.mpr left]
    rw [labels]
    exact ht.newHead hs hp { cmd with timer := none, attempts := cmd.attempts + 1, state := .retry }
      (by simp [requeueAt, timeoutAt, spendAt, stopped, modifyAt]) rfl
      (by simp [requeueAt, timeoutAt, spendAt, stopAt, modifyAt]) (by simp [Happening.isQueued])
      fun lived => lived.retry .expired (by rw [running]; rfl) left rfl rfl

theorem Told.dequeue (ht : s.Told budget hist) (hs : s.Coherent) {idx : Nat} {cmd : Command}
    (hcmd : s.pending[idx]? = some cmd) (hsend : cmd.state.isSendable = true) :
    (stored (s.countCancel.finishAt idx (.error .cancelled) #[])).Told budget
      (hist ++ [(cmd.handle, .finished (.error .cancelled))]) := by
  have removed := ht.remove (t := (s.countCancel.finishAt idx (.error .cancelled) #[]).1)
    (l := [.finished (.error .cancelled)]) hs hcmd (finishAt_pending ..) (finishAt_nextHandle ..)
    (by simp [Happening.isQueued]) (by simp [Happening.isSent])
    fun lived => lived.finish (by rw [CommandState.trail_of_sendable hsend]; exact .cancelled lived.lt)
  exact removed.congr rfl rfl

theorem Told.abandon (ht : s.Told budget hist) (hs : s.Coherent) {idx : Nat} {cmd : Command}
    (hcmd : s.pending[idx]? = some cmd) (hrun : cmd.state = .running) :
    (stored (s.abandonAt idx cmd)).Told budget (hist ++ [(cmd.handle, .abandoned)]) := by
  obtain ⟨rfl, rest, hp⟩ := hs.front_of_inFlight hcmd (by simp [hrun, CommandState.isInFlight])
  have marked := ht.newHead (t := (s.abandonAt 0 cmd).1) (l := [.abandoned]) hs hp
    { cmd with state := .runningCancelled, owner := none }
    (by rw [abandonAt_fst]; simp [countCancel, modifyAt, hp]) rfl
    (by rw [abandonAt_fst]; simp [countCancel, modifyAt]) (by simp [Happening.isQueued])
    fun lived => lived.stay (by rw [hrun]; rfl) rfl
  exact marked.congr rfl rfl

theorem Moves.told {cfg : EngineConfig} {c : Channel} {t : ChannelState}
    {evs : List (Nat × Happening)} (h : s.Moves cfg c evs t) (hs : s.Coherent)
    (ht : s.Told cfg.retryBudget hist) (hb : 0 < cfg.retryBudget) :
    t.Told cfg.retryBudget (hist ++ evs) := by
  cases h with
  | enable _ =>
    rw [List.append_nil]
    exact ht.congr rfl rfl
  | close => exact ht.close hs
  | drop =>
    rw [List.append_nil]
    exact ht.congr rfl rfl
  | dequeue hcmd hsend => exact ht.dequeue hs hcmd hsend
  | abandon hcmd hrun => exact ht.abandon hs hcmd hrun
  | submit on _ served =>
    rw [← List.singleton_append, ← List.append_assoc]
    exact (Told.serving served (hs.enqueue on _ _ _ _) (ht.enqueue hs hb _ _ _ _)).congr rfl rfl
  | answer hidx hcmd answered served =>
    obtain ⟨rfl, rest, hp, hf⟩ := hs.answering_head hidx hcmd
    rw [← List.append_assoc]
    exact (Told.serving served (hs.answer hp hf answered) (ht.answer hs hidx hcmd answered)).congr rfl rfl
  | expire hcmd hf expired served =>
    obtain ⟨rfl, rest, hp⟩ := hs.front_of_inFlight hcmd hf
    rw [← List.append_assoc]
    exact (Told.serving served (hs.expiry hp hf expired) (ht.expiry hs hcmd hf expired)).congr rfl rfl
  | resume served =>
    exact (Told.serving served hs.clearBackoff (ht.congr rfl rfl)).congr rfl rfl

end operations

end ChannelState

theorem EngineState.Chronicle.told {e : EngineState} {evs : List Happened} (h : e.Chronicle evs)
    (c : Channel) : (e.channels.get c).Told e.config.retryBudget (Happened.on c evs) := by
  induction h generalizing c with
  | start _ => simpa using ChannelState.told_initial _
  | @move e e' evs d s new prior moved config stored ih =>
    rw [stored, config, Happened.on_append]
    by_cases hc : c = d
    · subst hc
      rw [PerChannel.get_set_self, Happened.on_ofChannel_self]
      exact moved.told (prior.coherent c) (ih c) (EngineConfig.budget_pos_of_valid prior.valid)
    · rw [PerChannel.get_set_other _ _ _ _ hc, Happened.on_ofChannel_other hc, List.append_nil]
      exact ih c
  | quiet _ config stored ih =>
    rw [stored, config]
    exact ih c

end FrameRpc
