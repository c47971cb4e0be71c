import FrameRpc.Proofs.Engine.Operations
set_option autoImplicit false

/-!
The shape of a channel.

Between operations a channel keeps its unfinished commands in the order of their handles;
only the first of them has ever been sent; `running` names the first command exactly when
that command has an attempt out; a command has lost its owner exactly when it was
cancelled while running, and has an attempt timer exactly while an attempt is out; the
command in flight carries the last sequence number and no back-off is armed meanwhile;
and a disabled channel is empty. So at most one command of a channel is ever in flight,
and an answer that passes the dispatcher's checks always finds the command it answers.

The invariant is `ChannelState.Coherent`. Every change an operation makes to a channel is
one of a few shapes (the first command replaced, the first command removed, a later
command removed, a command appended), and each shape gets one lemma; the operations are
then checked one by one, and `channel_coherent` follows by induction over reachability.
-/

namespace FrameRpc

structure Command.Consistent (cmd : Command) : Prop where
  owner : cmd.owner = none ↔ cmd.state = .runningCancelled
  timer : cmd.timer.isSome = cmd.state.isInFlight

theorem Command.Consistent.timer_iff {cmd : Command} (hc : cmd.Consistent) :
    cmd.timer.isSome ↔ (cmd.state = .running ∨ cmd.state = .runningCancelled) := by
  rw [hc.timer]
  cases cmd.state <;> simp [CommandState.isInFlight]

namespace ChannelState

def inFlight (s : ChannelState) : Option Command := s.pending.head?.filter (·.state.isInFlight)

structure Coherent (s : ChannelState) : Prop where
  sorted : s.pending.Pairwise (·.handle < ·.handle)
  bounded : ∀ cmd ∈ s.pending, cmd.handle ≤ s.nextHandle
  queued : ∀ cmd ∈ s.pending.tail, cmd.state = .queued
  consistent : ∀ cmd ∈ s.pending, cmd.Consistent
  running_eq : s.running = s.inFlight.map (·.handle)
  inFlight_seq : ∀ cmd ∈ s.inFlight, cmd.seq = s.lastSeq ∧ s.backoff = none
  disabled : s.enabled = false → s.pending = [] ∧ s.backoff = none

theorem inFlight_cons (s : ChannelState) {cmd : Command} {rest : List Command}
    (h : s.pending = cmd :: rest) :
    s.inFlight = if cmd.state.isInFlight then some cmd else none := by
  simp only [inFlight, h, List.head?_cons, Option.filter_some]

theorem inFlight_nil (s : ChannelState) (h : s.pending = []) : s.inFlight = none := by
  simp [inFlight, h]

theorem coherent_initial : initial.Coherent where
  sorted := .nil
  bounded := by simp [initial]
  queued := by simp [initial]
  consistent := by simp [initial]
  running_eq := rfl
  inFlight_seq := by simp [inFlight, initial]
  disabled := fun _ => ⟨rfl, rfl⟩

section shapes

variable {s t : ChannelState}

theorem Coherent.congr (hs : s.Coherent) (he : t.enabled = s.enabled) (hp : t.pending = s.pending)
    (hr : t.running = s.running) (hl : t.lastSeq = s.lastSeq) (hn : t.nextHandle = s.nextHandle)
    (hb : t.backoff = s.backoff) : t.Coherent where
  sorted := hp ▸ hs.sorted
  bounded := hp ▸ hn ▸ hs.bounded
  queued := hp ▸ hs.queued
  consistent := hp ▸ hs.consistent
  running_eq := by rw [hr, hs.running_eq, inFlight, inFlight, hp]
  inFlight_seq := by
    intro cmd hcmd
    rw [hl, hb]
    exact hs.inFlight_seq cmd (by rwa [inFlight, ← hp])
  disabled := fun hd => by
    rw [hp, hb]
    exact hs.disabled (he ▸ hd)

theorem coherent_of_empty (hp : t.pending = []) (hr : t.running = none)
    (hb : t.enabled = false → t.backoff = none) : t.Coherent where
  sorted := by rw [hp]; exact .nil
  bounded := by simp [hp]
  queued := by simp [hp]
  consistent := by simp [hp]
  running_eq := by rw [hr, inFlight_nil t hp]; rfl
  inFlight_seq := by simp [inFlight_nil t hp]
  disabled := fun hd => ⟨hp, hb hd⟩

theorem Coherent.dropHead (hs : s.Coherent) {cmd : Command} {rest : List Command}
    (hp : s.pending = cmd :: rest) (ht : t.pending = rest) (hr : t.running = none)
    (he : t.enabled = s.enabled) (hn : t.nextHandle = s.nextHandle) : t.Coherent where
  sorted := ht ▸ (List.pairwise_cons.mp (hp ▸ hs.sorted)).2
  bounded := fun x hx => hn ▸ hs.bounded x (by rw [hp]; exact List.mem_cons_of_mem _ (ht ▸ hx))
  queued := fun x hx => hs.queued x (by rw [hp]; exact List.mem_of_mem_tail (ht ▸ hx))
  consistent := fun x hx => hs.consistent x (by rw [hp]; exact List.mem_cons_of_mem _ (ht ▸ hx))
  running_eq := by
    rw [hr]
    cases hrest : rest with
    | nil => rw [inFlight_nil t (ht.trans hrest)]; rfl
    | cons y ys =>
      have hy : y.state = .queued := hs.queued y (by simp [hp, hrest])
      rw [inFlight_cons t (ht.trans hrest), hy]
      rfl
  inFlight_seq := by
    intro x hx
    cases hrest : rest with
    | nil => simp [inFlight_nil t (ht.trans hrest)] at hx
    | cons y ys =>
      have hy : y.state = .queued := hs.queued y (by simp [hp, hrest])
      simp [inFlight_cons t (ht.trans hrest), hy, CommandState.isInFlight] at hx
  disabled := fun hd => absurd (hs.disabled (he ▸ hd)).1 (by simp [hp])

theorem Coherent.newHead (hs : s.Coherent) {cmd : Command} {rest : List Command}
    (hp : s.pending = cmd :: rest) (cmd' : Command) (ht : t.pending = cmd' :: rest) (hh : cmd'.handle = cmd.handle)
    (hc : cmd'.Consistent)
    (hr : t.running = if cmd'.state.isInFlight then some cmd'.handle else none)
    (hf : cmd'.state.isInFlight = true → cmd'.seq = t.lastSeq ∧ t.backoff = none)
    (he : t.enabled = true) (hn : t.nextHandle = s.nextHandle) : t.Coherent where
  sorted := by
    have sorted := hp ▸ hs.sorted
    rw [ht]
    exact List.pairwise_cons.mpr ⟨hh ▸ (List.pairwise_cons.mp sorted).1, (List.pairwise_cons.mp sorted).2⟩
  bounded := by
    rw [ht, hn]
    intro x hx
    rcases List.mem_cons.mp hx with rfl | hx
    · exact hh ▸ hs.bounded cmd (by simp [hp])
    · exact hs.bounded x (by simp [hp, hx])
  queued := fun x hx => hs.queued x (by rw [hp]; rw [ht] at hx; exact hx)
  consistent := by
    rw [ht]
    intro x hx
    rcases List.mem_cons.mp hx with rfl | hx
    · exact hc
    · exact hs.consistent x (by simp [hp, hx])
  running_eq := by
    rw [hr, inFlight_cons t ht]
    split <;> rfl
  inFlight_seq := by
    intro x hx
    rw [inFlight_cons t ht] at hx
    split at hx
    · next hin => cases hx; exact hf hin
    · cases hx
  disabled := fun hd => absurd (he ▸ hd) (by simp)

theorem Coherent.dropInner (hs : s.Coherent) {idx : Nat} (hidx : 0 < idx)
    (ht : t.pending = s.pending.eraseIdx idx) (hr : t.running = s.running)
    (he : t.enabled = s.enabled) (hl : t.lastSeq = s.lastSeq) (hn : t.nextHandle = s.nextHandle)
    (hb : t.backoff = s.backoff) : t.Coherent := by
  obtain ⟨k, rfl⟩ : ∃ k, idx = k + 1 := ⟨idx - 1, by omega⟩
  cases hp : s.pending with
  | nil =>
    have empty : t.pending = [] := by rw [ht, hp]; rfl
    exact hs.congr he (by rw [empty, hp]) hr hl hn hb
  | cons cmd rest =>
    have htail : t.pending = cmd :: rest.eraseIdx k := by rw [ht, hp]; rfl
    have hsub : t.pending.Sublist s.pending := by
      rw [htail, hp]; exact (List.eraseIdx_sublist rest k).cons_cons cmd
    exact {
      sorted := hs.sorted.sublist hsub
      bounded := fun x hx => hn ▸ hs.bounded x (hsub.subset hx)
      queued := fun x hx => hs.queued x (by
        rw [hp]; rw [htail] at hx; exact List.mem_of_mem_eraseIdx hx)
      consistent := fun x hx => hs.consistent x (hsub.subset hx)
      running_eq := by rw [hr, hs.running_eq, inFlight_cons s hp, inFlight_cons t htail]
      inFlight_seq := by
        intro x hx
        rw [hl, hb]
        exact hs.inFlight_seq x (by rw [inFlight_cons s hp]; rwa [inFlight_cons t htail] at hx)
      disabled := fun hd => absurd (hs.disabled (he ▸ hd)).1 (by simp [hp]) }

theorem Coherent.append (hs : s.Coherent) {cmd : Command}
    (hh : cmd.handle = s.nextHandle + 1) (hq : cmd.state = .queued) (ho : cmd.owner.isSome = true)
    (htm : cmd.timer = none) (ht : t.pending = s.pending ++ [cmd]) (hn : t.nextHandle = s.nextHandle + 1)
    (he : t.enabled = true) (hr : t.running = s.running) (hl : t.lastSeq = s.lastSeq)
    (hb : t.backoff = s.backoff) : t.Coherent where
  sorted := by
    rw [ht]
    refine List.pairwise_append.mpr ⟨hs.sorted, List.pairwise_singleton _ _, ?_⟩
    intro a ha b hb
    rw [List.mem_singleton.mp hb, hh]
    exact Nat.lt_succ_of_le (hs.bounded a ha)
  bounded := by
    rw [ht, hn]
    intro x hx
    rcases List.mem_append.mp hx with hx | hx
    · exact Nat.le_succ_of_le (hs.bounded x hx)
    · rw [List.mem_singleton.mp hx]
      exact Nat.le_of_eq hh
  queued := by
    rw [ht]
    intro x hx
    cases hp : s.pending with
    | nil => rw [hp] at hx; simp at hx
    | cons y ys =>
      rw [hp] at hx
      rcases List.mem_append.mp hx with hx | hx
      · exact hs.queued x (by rw [hp]; exact hx)
      · rw [List.mem_singleton.mp hx, hq]
  consistent := by
    rw [ht]
    intro x hx
    rcases List.mem_append.mp hx with hx | hx
    · exact hs.consistent x hx
    · rw [List.mem_singleton.mp hx]
      exact ⟨by simp [hq, Option.isSome_iff_ne_none.mp ho], by simp [htm, hq, CommandState.isInFlight]⟩
  running_eq := by
    rw [hr, hs.running_eq]
    cases hp : s.pending with
    | nil =>
      rw [inFlight_nil s hp, inFlight_cons t (by rw [ht, hp]; rfl), hq]
      rfl
    | cons y ys => rw [inFlight_cons s hp, inFlight_cons t (by rw [ht, hp]; rfl)]
  inFlight_seq := by
    intro x hx
    rw [hl, hb]
    cases hp : s.pending with
    | nil =>
      rw [inFlight_cons t (by rw [ht, hp]; rfl), hq] at hx
      cases hx
    | cons y ys =>
      exact hs.inFlight_seq x (by rw [inFlight_cons s hp]; rwa [inFlight_cons t (by rw [ht, hp]; rfl)] at hx)
  disabled := fun hd => absurd (he ▸ hd) (by simp)

theorem Coherent.index_of_inFlight (hs : s.Coherent) {idx : Nat} {cmd : Command}
    (hcmd : s.pending[idx]? = some cmd) (hf : cmd.state.isInFlight = true) : idx = 0 := by
  cases idx with
  | zero => rfl
  | succ k =>
    cases hp : s.pending with
    | nil => simp [hp] at hcmd
    | cons x rest =>
      rw [hp] at hcmd
      have hq := hs.queued cmd (by rw [hp]; exact List.mem_of_getElem? hcmd)
      simp [hq, CommandState.isInFlight] at hf

theorem Coherent.front_of_inFlight (hs : s.Coherent) {idx : Nat} {cmd : Command}
    (hcmd : s.pending[idx]? = some cmd) (hf : cmd.state.isInFlight = true) :
    idx = 0 ∧ ∃ rest, s.pending = cmd :: rest := by
  obtain rfl := hs.index_of_inFlight hcmd hf
  exact ⟨rfl, List.head?_eq_some_iff.mp (by rwa [List.head?_eq_getElem?])⟩

theorem Coherent.running_head (hs : s.Coherent) {h : Nat} (hr : s.running = some h) :
    ∃ cmd rest, s.pending = cmd :: rest ∧ cmd.handle = h ∧ cmd.state.isInFlight = true := by
  rw [hs.running_eq] at hr
  cases hp : s.pending with
  | nil => rw [inFlight_nil s hp] at hr; cases hr
  | cons cmd rest =>
    rw [inFlight_cons s hp] at hr
    split at hr
    · next hin =>
      simp only [Option.map_some, Option.some.injEq] at hr
      exact ⟨cmd, rest, rfl, hr, hin⟩
    · cases hr

theorem Coherent.position_running (hs : s.Coherent) {h : Nat} (hr : s.running = some h) :
    s.position h = some 0 := by
  obtain ⟨cmd, rest, hp, rfl, -⟩ := hs.running_head hr
  simp [position, hp, List.findIdx?_cons]

theorem Coherent.reapAt_idle (hs : s.Coherent) {idx : Nat} {cmd : Command}
    (hcmd : s.pending[idx]? = some cmd) (hf : cmd.state.isInFlight = false) :
    (s.reapAt idx).Coherent := by
  cases hp : s.pending with
  | nil => simp [hp] at hcmd
  | cons x rest =>
    cases idx with
    | zero =>
      have hx : x = cmd := by simpa [hp] using hcmd
      subst hx
      refine hs.dropHead hp (by simp [hp]) ?_ (by simp) (by simp)
      rw [reapAt_running s 0 hcmd, hs.running_eq, inFlight_cons s hp, hf]
      simp
    | succ k =>
      refine hs.dropInner (Nat.succ_pos k) (by simp) ?_ (by simp) (by simp) (by simp) (by simp)
      rw [reapAt_running s _ hcmd]
      split
      · next hrun =>
        -- the handle in flight is the first command's, and handles rise along the list
        obtain ⟨head, tail, hp', hh, -⟩ := hs.running_head hrun
        rw [hp] at hp'
        cases hp'
        have later : cmd ∈ rest := List.mem_of_getElem? (by simpa [hp] using hcmd)
        have := (List.pairwise_cons.mp (hp ▸ hs.sorted)).1 cmd later
        omega
      · rfl

theorem Coherent.finishAt_idle (hs : s.Coherent) {idx : Nat} {cmd : Command}
    (hcmd : s.pending[idx]? = some cmd) (hf : cmd.state.isInFlight = false) (r : Outcome)
    (done : Engine.Done) : (s.finishAt idx r done).1.Coherent := by
  rw [finishAt_fst]
  exact (hs.reapAt_idle hcmd hf).congr rfl rfl rfl rfl rfl rfl

theorem Coherent.reapAt_inFlight (hs : s.Coherent) {cmd : Command} {rest : List Command}
    (hp : s.pending = cmd :: rest) (hf : cmd.state.isInFlight = true) (cmd' : Command) {u : ChannelState}
    (hu : u.pending = cmd' :: rest) (hh : cmd'.handle = cmd.handle) (hr : u.running = s.running)
    (he : u.enabled = s.enabled) (hn : u.nextHandle = s.nextHandle) : (u.reapAt 0).Coherent := by
  refine hs.dropHead hp (by simp [hu]) ?_ (by simp [he]) (by simp [hn])
  rw [@reapAt_running u 0 cmd' (by simp [hu]), hr, hs.running_eq, inFlight_cons s hp, hf, hh]
  simp

theorem Coherent.finishAt_inFlight (hs : s.Coherent) {cmd : Command} {rest : List Command}
    (hp : s.pending = cmd :: rest) (hf : cmd.state.isInFlight = true) (cmd' : Command) {u : ChannelState}
    (hu : u.pending = cmd' :: rest) (hh : cmd'.handle = cmd.handle) (hr : u.running = s.running)
    (he : u.enabled = s.enabled) (hn : u.nextHandle = s.nextHandle) (r : Outcome)
    (done : Engine.Done) : (u.finishAt 0 r done).1.Coherent := by
  rw [finishAt_fst]
  exact (hs.reapAt_inFlight hp hf cmd' hu hh hr he hn).congr rfl rfl rfl rfl rfl rfl

theorem Coherent.nextSendable_zero (hs : s.Coherent) (hr : s.running = none) {idx : Nat}
    (hnext : s.nextSendable = some idx) : idx = 0 := by
  cases hp : s.pending with
  | nil => simp [nextSendable, hp] at hnext
  | cons x rest =>
    have idle : x.state.isInFlight = false := by
      have hnone := hs.running_eq
      rw [hr, inFlight_cons s hp] at hnone
      split at hnone
      · cases hnone
      · next h => simpa using h
    have sendable : x.state.isSendable = true := by
      revert idle; cases x.state <;> simp [CommandState.isInFlight, CommandState.isSendable]
    simp only [nextSendable, hp, List.findIdx?_cons, sendable, ↓reduceIte, Option.some.injEq] at hnext
    exact hnext.symm

theorem Coherent.attempt (hs : s.Coherent) (hen : s.enabled = true) (hr : s.running = none)
    (hb : s.backoff = none) {idx : Nat} {cmd : Command} (hnext : s.nextSendable = some idx)
    (hcmd : s.pending[idx]? = some cmd) {budget : Nat} {done : Engine.Done}
    {answer : Except TransmitError Unit} {q : ChannelState × Engine.Done}
    (ha : s.Attempt budget idx cmd done answer q) : q.1.Coherent := by
  obtain rfl := hs.nextSendable_zero hr hnext
  obtain ⟨rest, hp⟩ : ∃ rest, s.pending = cmd :: rest := by
    cases hp : s.pending with
    | nil => simp [hp] at hcmd
    | cons x rest => exact ⟨rest, by simpa [hp] using hcmd⟩
  have hidle : cmd.state.isInFlight = false := by
    have hnone := hs.running_eq
    rw [hr, inFlight_cons s hp] at hnone
    split at hnone
    · cases hnone
    · next h => simpa using h
  have hc := hs.consistent cmd (by simp [hp])
  have howner : cmd.owner ≠ none := fun h => by
    have := hc.owner.mp h
    simp [this, CommandState.isInFlight] at hidle
  have htimer : cmd.timer = none := by
    have := hc.timer
    rw [hidle] at this
    simpa using this
  cases ha with
  | sent timer =>
    let sent : Command :=
      { cmd with seq := s.lastSeq + 1, generation := cmd.generation + 1, state := .running,
                 timer := some timer }
    refine hs.newHead hp sent (by simp [sent, launch, modifyAt, hp]) rfl
      ⟨by simp [sent, howner], by simp [sent, CommandState.isInFlight]⟩
      (by simp [sent, launch, modifyAt, CommandState.isInFlight])
      (fun _ => ⟨rfl, by simp [launch, modifyAt, hb]⟩) (by simp [launch, modifyAt, hen])
      (by simp [launch, modifyAt])
  | gaveUp spent =>
    unfold refusedFinal
    rw [finishAt_fst]
    refine hs.dropHead hp (by simp [modifyAt, hp]) ?_ (by simp [modifyAt]) (by simp [modifyAt])
    rw [@reapAt_running _ 0 { cmd with attempts := cmd.attempts + 1 } (by simp [modifyAt, hp])]
    simp [modifyAt, hr]
  | backedOff backoff left =>
    let waiting : Command := { cmd with attempts := cmd.attempts + 1, state := .retry }
    refine hs.newHead hp waiting (by simp [waiting, refusedRetry, modifyAt, hp]) rfl
      ⟨by simp [waiting, howner], by simp [waiting, htimer, CommandState.isInFlight]⟩
      (by simp [waiting, refusedRetry, modifyAt, hr, CommandState.isInFlight])
      (fun h => by simp [waiting, CommandState.isInFlight] at h) (by simp [refusedRetry, modifyAt, hen])
      (by simp [refusedRetry, modifyAt])

theorem Coherent.pumping (hs : s.Coherent) {budget : Nat} {done : Engine.Done}
    {q : ChannelState × Engine.Done} (hp : Pumping budget (s, done) q) : q.1.Coherent := by
  generalize hsd : (s, done) = p at hp
  induction hp generalizing s done with
  | stop => cases hsd; exact hs
  | attempt hen hr hb hnext hcmd ha _ ih =>
    cases hsd
    exact ih (hs.attempt hen hr hb hnext hcmd ha) rfl

theorem Coherent.enable (hs : s.Coherent) : ({ s with enabled := true } : ChannelState).Coherent :=
  { hs with disabled := fun h => by simp at h }

theorem Coherent.clearBackoff (hs : s.Coherent) : ({ s with backoff := none } : ChannelState).Coherent :=
  { hs with
    inFlight_seq := fun cmd hcmd => ⟨(hs.inFlight_seq cmd hcmd).1, rfl⟩
    disabled := fun hd => ⟨(hs.disabled hd).1, rfl⟩ }

theorem Coherent.delivered (hs : s.Coherent) (k : Nat) : (s.delivered k).Coherent :=
  hs.congr rfl rfl rfl rfl rfl rfl

theorem Coherent.countDrop (hs : s.Coherent) : s.countDrop.Coherent :=
  hs.congr rfl rfl rfl rfl rfl rfl

theorem Coherent.enabled_of_cons (hs : s.Coherent) {cmd : Command} {rest : List Command}
    (hp : s.pending = cmd :: rest) : s.enabled = true := by
  cases he : s.enabled with
  | false => simp [(hs.disabled he).1] at hp
  | true => rfl

theorem Coherent.running_cases (hs : s.Coherent) :
    s.running = none ∨ s.running = s.pending.head?.map (·.handle) := by
  rw [hs.running_eq]
  cases hp : s.pending with
  | nil => simp [inFlight_nil s hp]
  | cons cmd rest =>
    rw [inFlight_cons s hp]
    split <;> simp

theorem rejection_eq_none {seq : UInt16} :
    s.rejection seq = none ↔ s.enabled = true ∧ s.running.isSome = true ∧ seq = s.lastSeq := by
  unfold rejection
  by_cases he : s.enabled = true
  · cases hr : s.running with
    | none => simp [he]
    | some h => by_cases hq : seq = s.lastSeq <;> simp [he, hq]
  · simp [he]

theorem Coherent.answering_eq (hs : s.Coherent) (seq : UInt16) :
    s.answering seq = if s.rejection seq = none then some 0 else none := by
  unfold answering
  cases hrej : s.rejection seq with
  | some reason => simp
  | none =>
    cases hrun : s.running with
    | none =>
      have := (rejection_eq_none.mp hrej).2.1
      simp [hrun] at this
    | some h => simp [hs.position_running hrun]

theorem Coherent.front_of_rejection (hs : s.Coherent) {seq : UInt16}
    (hrej : s.rejection seq = none) :
    ∃ cmd rest, s.pending = cmd :: rest ∧ s.running = some cmd.handle ∧
      cmd.state.isInFlight = true := by
  obtain ⟨-, hrun, -⟩ := rejection_eq_none.mp hrej
  obtain ⟨h, hrun⟩ := Option.isSome_iff_exists.mp hrun
  obtain ⟨cmd, rest, hp, rfl, hf⟩ := hs.running_head hrun
  exact ⟨cmd, rest, hp, hrun, hf⟩

theorem Coherent.answering_head (hs : s.Coherent) {seq : UInt16} {idx : Nat} {cmd : Command}
    (h : s.answering seq = some idx) (hcmd : s.pending[idx]? = some cmd) :
    idx = 0 ∧ ∃ rest, s.pending = cmd :: rest ∧ cmd.state.isInFlight = true := by
  rw [hs.answering_eq] at h
  split at h
  · next hrej =>
    cases h
    obtain ⟨head, rest, hp, -, hf⟩ := hs.front_of_rejection hrej
    rw [hp] at hcmd
    cases hcmd
    exact ⟨rfl, rest, hp, hf⟩
  · cases h

theorem Coherent.requeueHead (hs : s.Coherent) {cmd : Command} {rest : List Command}
    (hp : s.pending = cmd :: rest) (hlive : cmd.state ≠ .runningCancelled) (cmd' : Command)
    (ht : t.pending = cmd' :: rest) (hh : cmd'.handle = cmd.handle) (hstate : cmd'.state = .retry)
    (ho : cmd'.owner = cmd.owner) (htm : cmd'.timer = none) (hr : t.running = none)
    (he : t.enabled = s.enabled) (hn : t.nextHandle = s.nextHandle) : t.Coherent := by
  have owned : cmd.owner ≠ none := fun h => hlive ((hs.consistent cmd (by simp [hp])).owner.mp h)
  refine hs.newHead hp cmd' ht hh ⟨?_, ?_⟩ ?_ ?_ (he.trans (hs.enabled_of_cons hp)) hn
  · simp [ho, hstate, owned]
  · simp [htm, hstate, CommandState.isInFlight]
  · simp [hr, hstate, CommandState.isInFlight]
  · intro h
    simp [hstate, CommandState.isInFlight] at h

theorem Coherent.answer (hs : s.Coherent) {cmd : Command} {rest : List Command}
    (hp : s.pending = cmd :: rest) (hf : cmd.state.isInFlight = true) {budget : Nat}
    {f : Frame} {p : ChannelState × Engine.Done} (ha : (s.stopAt 0).Answer budget 0 cmd f p) :
    p.1.Coherent := by
  have hu : (s.stopAt 0).pending = { cmd with timer := none } :: rest := by
    simp [stopAt, modifyAt, hp]
  have stopped := hs.reapAt_inFlight hp hf { cmd with timer := none } hu rfl rfl rfl rfl
  cases ha with
  | reaped _ => exact stopped
  | gaveUp _ _ _ =>
    dsimp only [failAt]
    apply hs.finishAt_inFlight hp hf { cmd with timer := none, attempts := cmd.attempts + 1 }
    · simp [spendAt, modifyAt, hu]
    all_goals rfl
  | backedOff _ live _ _ =>
    exact hs.requeueHead hp live
      { cmd with timer := none, attempts := cmd.attempts + 1, state := .retry }
      (by simp [requeueAt, spendAt, modifyAt, hu]) rfl rfl rfl rfl (by simp [requeueAt]) rfl rfl
  | completed _ _ =>
    dsimp only [completeAt]
    apply hs.finishAt_inFlight hp hf { cmd with timer := none }
    · exact hu
    all_goals rfl
  | failed _ _ _ =>
    dsimp only [failAt]
    apply hs.finishAt_inFlight hp hf { cmd with timer := none }
    · exact hu
    all_goals rfl

theorem Coherent.expiry (hs : s.Coherent) {cmd : Command} {rest : List Command}
    (hp : s.pending = cmd :: rest) (hf : cmd.state.isInFlight = true) {budget : Nat}
    {p : ChannelState × Engine.Done} (hx : (s.stopAt 0).Expiry budget 0 cmd p) :
    p.1.Coherent := by
  have hu : (s.stopAt 0).pending = { cmd with timer := none } :: rest := by
    simp [stopAt, modifyAt, hp]
  cases hx with
  | reaped _ => exact hs.reapAt_inFlight hp hf { cmd with timer := none } hu rfl rfl rfl rfl
  | timedOut _ _ =>
    dsimp only [failAt]
    apply hs.finishAt_inFlight hp hf { cmd with timer := none, attempts := cmd.attempts + 1 }
    · simp [timeoutAt, spendAt, modifyAt, hu]
    all_goals rfl
  | retried live _ =>
    exact hs.requeueHead hp live
      { cmd with timer := none, attempts := cmd.attempts + 1, state := .retry }
      (by simp [requeueAt, timeoutAt, spendAt, modifyAt, hu]) rfl rfl rfl rfl
      (by simp [requeueAt]) rfl rfl

theorem Coherent.dequeue (hs : s.Coherent) {idx : Nat} {cmd : Command}
    (hcmd : s.pending[idx]? = some cmd) (hsend : cmd.state.isSendable = true) (r : Outcome)
    (done : Engine.Done) : (s.countCancel.finishAt idx r done).1.Coherent := by
  have counted : s.countCancel.Coherent := hs.congr rfl rfl rfl rfl rfl rfl
  have idle : cmd.state.isInFlight = false := by
    revert hsend
    cases cmd.state <;> simp [CommandState.isSendable, CommandState.isInFlight]
  exact counted.finishAt_idle hcmd idle r done

theorem Coherent.abandon (hs : s.Coherent) {cmd : Command} {rest : List Command}
    (hp : s.pending = cmd :: rest) (hrun : cmd.state = .running) :
    (s.abandonAt 0 cmd).1.Coherent := by
  have hf : cmd.state.isInFlight = true := by simp [hrun, CommandState.isInFlight]
  have hc := hs.consistent cmd (by simp [hp])
  have hin : s.inFlight = some cmd := by simp [inFlight_cons s hp, hf]
  obtain ⟨hseq, hb⟩ := hs.inFlight_seq cmd (by simp [hin])
  let marked : Command := { cmd with state := .runningCancelled, owner := none }
  have base : (s.modifyAt 0 fun k => { k with state := .runningCancelled, owner := none }).Coherent :=
    hs.newHead hp marked (by simp [marked, modifyAt, hp]) rfl
      ⟨by simp [marked], by
        show cmd.timer.isSome = CommandState.runningCancelled.isInFlight
        rw [hc.timer, hf]
        rfl⟩
      (by simp [marked, modifyAt, hs.running_eq, hin, CommandState.isInFlight])
      (fun _ => ⟨hseq, hb⟩) (hs.enabled_of_cons hp) rfl
  rw [abandonAt_fst]
  exact base.congr rfl rfl rfl rfl rfl rfl

theorem Coherent.enqueue (hs : s.Coherent) (he : s.enabled = true) (opcode : UInt16)
    (input : List UInt8) (owner : Owner) (started : Nat) :
    (s.enqueue opcode input owner started).Coherent :=
  @Coherent.append s _ hs
    { handle := s.nextHandle + 1, opcode, input, state := .queued, seq := 0, attempts := 0,
      generation := 0, started, owner := some owner, timer := none }
    rfl rfl rfl rfl rfl rfl he rfl rfl rfl

theorem Coherent.closing (hs : s.Coherent) : s.closing.1.Coherent := by
  unfold ChannelState.closing
  split
  · obtain ⟨empty, idle⟩ := drain_empties (s.pending.length + 1)
      { s with enabled := false, backoff := none } #[] hs.running_cases (by simp)
    obtain ⟨-, -, -, hb⟩ := drain_keeps (s.pending.length + 1)
      { s with enabled := false, backoff := none } #[]
    exact coherent_of_empty empty idle fun _ => hb
  · exact hs

theorem Coherent.close (hs : s.Coherent) : s.close.Coherent := hs.closing.delivered _

end shapes

section consequences

variable {s : ChannelState}

theorem Coherent.running_iff (hs : s.Coherent) (h : Nat) :
    s.running = some h ↔ ∃ cmd rest, s.pending = cmd :: rest ∧ cmd.handle = h ∧
      (cmd.state = .running ∨ cmd.state = .runningCancelled) := by
  constructor
  · intro hr
    obtain ⟨cmd, rest, hp, hh, hf⟩ := hs.running_head hr
    refine ⟨cmd, rest, hp, hh, ?_⟩
    revert hf
    cases cmd.state <;> simp [CommandState.isInFlight]
  · rintro ⟨cmd, rest, hp, rfl, hst⟩
    have hf : cmd.state.isInFlight = true := by
      rcases hst with hst | hst <;> simp [hst, CommandState.isInFlight]
    rw [hs.running_eq, inFlight_cons s hp, hf]
    rfl

theorem Coherent.queued_at (hs : s.Coherent) (i : Nat) (hi : i < s.pending.length) (h1 : 0 < i) :
    s.pending[i].state = .queued := by
  obtain ⟨k, rfl⟩ : ∃ k, i = k + 1 := ⟨i - 1, by omega⟩
  have hk : k < s.pending.tail.length := by simp only [List.length_tail]; omega
  apply hs.queued
  have later := List.getElem_mem hk
  rwa [List.getElem_tail] at later

theorem Coherent.running_seq (hs : s.Coherent) {h : Nat} (hr : s.running = some h) :
    ∃ cmd rest, s.pending = cmd :: rest ∧ cmd.seq = s.lastSeq ∧ s.backoff = none := by
  obtain ⟨cmd, rest, hp, -, hf⟩ := hs.running_head hr
  obtain ⟨hseq, hb⟩ := hs.inFlight_seq cmd (by simp [inFlight_cons s hp, hf])
  exact ⟨cmd, rest, hp, hseq, hb⟩

theorem Coherent.disabled_empty (hs : s.Coherent) (hd : s.enabled = false) :
    s.pending = [] ∧ s.running = none ∧ s.backoff = none := by
  obtain ⟨hp, hb⟩ := hs.disabled hd
  refine ⟨hp, ?_, hb⟩
  rw [hs.running_eq, inFlight_nil s hp]
  rfl

theorem Coherent.inFlight_count (hs : s.Coherent) :
    (s.pending.filter (·.state.isInFlight)).length ≤ 1 := by
  cases hp : s.pending with
  | nil => simp
  | cons cmd rest =>
    have idle : rest.filter (·.state.isInFlight) = [] := by
      rw [List.filter_eq_nil_iff]
      intro x hx
      simp [hs.queued x (by simp [hp, hx]), CommandState.isInFlight]
    have := List.length_filter_le (·.state.isInFlight) [cmd]
    rw [List.filter_cons, idle]
    split <;> simp

theorem Coherent.rejection_of_answering (hs : s.Coherent) {seq : UInt16}
    (h : s.answering seq = none) : ∃ reason, s.rejection seq = some reason := by
  rw [hs.answering_eq] at h
  cases hrej : s.rejection seq with
  | none => simp [hrej] at h
  | some reason => exact ⟨reason, rfl⟩

end consequences

end ChannelState

def EngineState.Coherent (e : EngineState) : Prop := ∀ c, (e.channels.get c).Coherent

theorem EngineState.coherent_initial (config : EngineConfig) :
    (EngineState.initial config).Coherent := fun c => by
  cases c <;> exact ChannelState.coherent_initial

theorem PerChannel.get_set_of_forall {α : Type} {P : α → Prop} {p : PerChannel α}
    (hp : ∀ d, P (p.get d)) (c : Channel) {a : α} (ha : P a) (d : Channel) :
    P ((p.set c a).get d) := by
  by_cases hd : d = c
  · subst hd
    simpa using ha
  · simpa [hd] using hp d

theorem EngineState.Coherent.set {e : EngineState} (he : e.Coherent) (c : Channel)
    {s : ChannelState} (hs : s.Coherent) : ({ e with channels := e.channels.set c s } : EngineState).Coherent :=
  PerChannel.get_set_of_forall he c hs

end FrameRpc
