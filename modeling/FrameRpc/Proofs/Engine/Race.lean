import FrameRpc.Proofs.Engine.Completion
import FrameRpc.Proofs.Engine.Replies
import FrameRpc.Proofs.Sim.Alike
set_option autoImplicit false

/-!
A cancel and an answer that race.

Main statement: `cancel_answer_race`. Take a reachable world whose channel has a command in
flight that is not cancelled, and a frame the channel accepts as its answer. Cancelling the
command and then receiving the answer, or receiving it and then cancelling, each tell the
command's callback once: the cancel when it comes first, the answer's outcome when it comes
first (a cancel, after an answer that only asked to try again later). Unless that answer
asked to try again, both orders leave the channel alike but for which counter the command
was counted in, hand the same requests to the link, and tell the same outcomes afterwards.

The proof follows both orders to the pump that ends the answer. There the channel is the
same in both but for its counters and its number of undelivered outcomes (`credit`), which
pumping carries along untouched (`pump_credit`); and the worlds are alike in everything a
send reads (`Sim.World.Alike`), so both pumps send alike.
-/

namespace FrameRpc

namespace ChannelState

/-- The channel with `n` more outcomes waiting to be delivered and `completed`, `failed` and
`cancelled` more commands counted as finished so. -/
def credit (s : ChannelState) (completed failed cancelled n : Nat) : ChannelState :=
  { s with cleanupPending := s.cleanupPending + n,
           counters := { s.counters with completed := s.counters.completed + completed,
                                         failed := s.counters.failed + failed,
                                         cancelled := s.counters.cancelled + cancelled } }

section credit

variable (s : ChannelState) (a b k n : Nat)

@[simp] theorem credit_pending : (s.credit a b k n).pending = s.pending := rfl

@[simp] theorem credit_enabled : (s.credit a b k n).enabled = s.enabled := rfl

@[simp] theorem credit_running : (s.credit a b k n).running = s.running := rfl

@[simp] theorem credit_backoff : (s.credit a b k n).backoff = s.backoff := rfl

@[simp] theorem credit_lastSeq : (s.credit a b k n).lastSeq = s.lastSeq := rfl

theorem credit_nextSendable : (s.credit a b k n).nextSendable = s.nextSendable := rfl

theorem credit_delivered (m : Nat) :
    (s.credit a b k n).delivered (n + m) = { s.delivered m with counters := (s.credit a b k n).counters } := by
  simp only [credit, delivered]
  congr 1
  omega

end credit

/-! What resolving the command in flight at the front leaves: the channel without it, with
the resolution counted. -/

section front

variable {s : ChannelState} {cmd : Command} {rest : List Command} {o : Owner}
  (hp : s.pending = cmd :: rest) (hrun : s.running = some cmd.handle) (howner : cmd.owner = some o)
include hp hrun howner

theorem completeAt_front (payload : List UInt8) :
    (s.stopAt 0).completeAt 0 payload = ((s.reapAt 0).credit 1 0 0 1, #[(o, .ok payload)]) := by
  simp [completeAt, finishAt, stopAt, modifyAt, reapAt, removeAt, credit, hp, hrun, howner]

theorem failAt_front (r : Outcome) :
    (s.stopAt 0).failAt 0 r = ((s.reapAt 0).credit 0 1 0 1, #[(o, r)]) := by
  simp [failAt, finishAt, stopAt, modifyAt, reapAt, removeAt, credit, hp, hrun, howner]

theorem spendAt_failAt_front (r : Outcome) :
    ((s.stopAt 0).spendAt 0 cmd).failAt 0 r = ((s.reapAt 0).credit 0 1 0 1, #[(o, r)]) := by
  simp [failAt, spendAt, finishAt, stopAt, modifyAt, reapAt, removeAt, credit, hp, hrun, howner]

theorem abandonAt_reapAt_front :
    (((s.abandonAt 0 cmd).1.delivered 1).stopAt 0).reapAt 0 = (s.reapAt 0).credit 0 0 1 0 := by
  simp [abandonAt, countCancel, delivered, stopAt, modifyAt, reapAt, removeAt, credit, hp, hrun,
    howner]

end front

theorem Coherent.claimed {s : ChannelState} (hs : s.Coherent) {k : Command} (hk : k ∈ s.pending)
    (live : k.state ≠ .runningCancelled) : ∃ o, (k.handle, o) ∈ s.claims := by
  cases howner : k.owner with
  | none => exact absurd ((hs.consistent k hk).owner.mp howner) live
  | some o => exact ⟨o, mem_claims.mpr ⟨k, hk, rfl, howner⟩⟩

theorem Coherent.claims_reapAt_front {s : ChannelState} (hs : s.Coherent) {cmd : Command}
    {rest : List Command} (hp : s.pending = cmd :: rest) {h : Nat} {o : Owner}
    (hc : (h, o) ∈ (s.reapAt 0).claims) :
    cmd.handle < h ∧ ∃ k ∈ s.pending, k.handle = h ∧ k.owner = some o := by
  have reaped : (s.reapAt 0).pending = rest := by
    simp only [reapAt, hp]
    by_cases front : s.running = some cmd.handle <;> simp [removeAt, front, hp]
  obtain ⟨k, hk, rfl, owned⟩ := mem_claims.mp hc
  rw [reaped] at hk
  exact ⟨(List.pairwise_cons.mp (hp ▸ hs.sorted)).1 k hk, k, hp ▸ List.mem_cons_of_mem _ hk, rfl,
    owned⟩

theorem Coherent.holding_reapAt_front {s : ChannelState} (hs : s.Coherent) {cmd : Command}
    {rest : List Command} (hp : s.pending = cmd :: rest) {o : Owner}
    (once : ∀ k ∈ s.pending, k.owner = some o → k.handle = cmd.handle) : (s.reapAt 0).holding o = 0 := by
  simp only [holding, List.countP_eq_zero]
  rintro ⟨h, o'⟩ hc same
  obtain ⟨later, k, hk, rfl, owned⟩ := hs.claims_reapAt_front hp hc
  have heir : o' = o := beq_iff_eq.mp same
  rw [heir] at owned
  exact Nat.lt_irrefl _ ((once k hk owned) ▸ later)

end ChannelState

open Engine (outcomesFor) in
theorem Accounts.outcomesFor_eq {p q : ChannelState × Engine.Done} (h : Accounts p q) {o : Owner}
    (free : p.1.holding o = 0) : outcomesFor q.2 o = outcomesFor p.2 o := by
  have gone : q.1.holding o = 0 := by
    simp only [ChannelState.holding, List.countP_eq_zero] at free ⊢
    exact fun x hx => free x (h.claims hx)
  have owed := h.owed o
  omega

namespace Engine

open Sim ChannelState

/-! Pumping never reads the counters, the number of undelivered outcomes or the outcomes
already collected: it carries them along. -/

section credit

variable (a b k n : Nat) (d0 : Done)

theorem finish_credit (s : ChannelState) (idx : Nat) (r : Outcome) (done : Done) :
    finish (s.credit a b k n) idx r (d0 ++ done) =
      (fun q => (q.1.credit a b k n, d0 ++ q.2)) <$> finish s idx r done := by
  unfold finish
  simp only [credit_pending]
  split
  · simp
  · next cmd hcmd =>
    simp only [map_bind, credit_running]
    congr 1
    funext u
    by_cases hr : (s.running == some cmd.handle) = true
    all_goals
      simp only [hr, ↓reduceIte, Bool.false_eq_true]
      split <;> simp [credit, Nat.add_right_comm, Array.push_append]

theorem sendAttempt_credit (c : Channel) (s : ChannelState) (idx : Nat) (done : Done) :
    sendAttempt c (s.credit a b k n) idx (d0 ++ done) =
      (fun q => (q.1.credit a b k n, d0 ++ q.2)) <$> sendAttempt c s idx done := by
  unfold sendAttempt
  simp only [credit_pending, credit_lastSeq, map_bind]
  congr 1
  funext cfg
  split
  · simp
  · simp only [map_bind]
    congr 1
    funext sent
    split
    · simp only [map_bind, map_pure]
      rfl
    · split
      · -- the refused command fails: the counted failure commutes with the credit
        simp only [map_bind]
        congr 1
        funext u
        rw [← finish_credit]
        congr 1
        simp only [credit, modifyAt, Nat.add_right_comm]
      · simp only [map_bind, map_pure]
        rfl

theorem pumpWith_credit (c : Channel) (fuel : Nat) (s : ChannelState) (done : Done) :
    pumpWith c fuel (s.credit a b k n) (d0 ++ done) =
      (fun q => (q.1.credit a b k n, d0 ++ q.2)) <$> pumpWith c fuel s done := by
  induction fuel generalizing s done with
  | zero => simp [pumpWith]
  | succ fuel ih =>
    unfold pumpWith
    simp only [credit_enabled, credit_running, credit_backoff, credit_nextSendable]
    by_cases free : (s.enabled && s.running.isNone && s.backoff.isNone) = true
    · simp only [free, ↓reduceIte]
      split
      · rw [sendAttempt_credit, bind_map_left, map_bind]
        congr 1
        funext q
        exact ih q.1 q.2
      · simp
    · simp only [free, Bool.false_eq_true, ↓reduceIte, map_pure]

theorem pump_credit (c : Channel) (s : ChannelState) (done : Done) :
    pump c (s.credit a b k n) (d0 ++ done) =
      (fun q => (q.1.credit a b k n, d0 ++ q.2)) <$> pump c s done :=
  pumpWith_credit a b k n d0 c _ s done

theorem pumped_credit (c : Channel) (s : ChannelState) (w : World) :
    pumped c (s.credit a b k n, d0) w =
      settled c ((((pump c s #[]).run w).1.1.credit a b k n, d0 ++ ((pump c s #[]).run w).1.2))
        ((pump c s #[]).run w).2 := by
  have hp := congrArg (fun x => x.run w) (pump_credit a b k n d0 c s #[])
  simp only [Array.append_empty, run_map] at hp
  rw [pumped, hp]

end credit

theorem reply_keeps (l : Log.Level) (t m : String) (fs : List (String × Log.FieldValue)) (c : Channel)
    (s : ChannelState) (done : Done) (b : Bool) :
    Keeps (do emit l t m fs; settle c s done; pure b : Sim Bool) :=
  Keeps.bind (emit_keeps l t m fs) fun _ => Keeps.bind (settle_keeps c s done) fun _ => Keeps.pure b

theorem cancel_keeps (c : Channel) (handle : Nat) : Keeps (cancel c handle) := by
  unfold cancel
  refine Keeps.bind (chan_keeps c) fun s => ?_
  split
  · exact reply_keeps _ _ _ _ _ _ _ _
  · split
    · exact Keeps.bind (finish_keeps _ _ _ _) fun _ => reply_keeps _ _ _ _ _ _ _ _
    · exact Keeps.bind (finish_keeps _ _ _ _) fun _ => reply_keeps _ _ _ _ _ _ _ _
    · dsimp only
      exact reply_keeps _ _ _ _ _ _ _ _
    · exact reply_keeps _ _ _ _ _ _ _ _

theorem answer_keeps (c : Channel) (s : ChannelState) (idx : Nat) (cmd : Command) (f : Frame)
    (w : World) (h : ((answer c s idx cmd f).run w).1.1.backoff = none) :
    ((answer c s idx cmd f).run w).2.Alike w := by
  revert h
  unfold answer
  simp only [run_bind, config_run]
  split
  · intro _
    exact Keeps.bind (reap_keeps s idx) (fun _ => Keeps.pure _) w
  · split
    · by_cases spent : cmd.attempts + 1 ≥ w.engine.config.retryBudget
      · simp only [spent, ↓reduceIte]
        intro _
        exact Keeps.bind (emit_keeps _ _ _ _) (fun _ => finish_keeps _ _ _ _) _
      · simp [spent]
    · split
      · intro _
        exact finish_keeps _ _ _ _ _
      · intro _
        exact Keeps.bind (emit_keeps _ _ _ _) (fun _ => finish_keeps _ _ _ _) _

/-- Receiving an answer that passes the checks of its channel resolves the command at its
front and pumps the channel. Up to the pump nothing a send reads has changed, unless the
answer armed a back-off. -/
theorem receive_head {w : World} {c : Channel} {bytes : List UInt8} {f : Frame} {cmd : Command}
    (hdec : Wire.decode w.engine.config.addressing bytes = .ok f) (hch : f.channel = c)
    (hans : (w.engine.channels.get c).answering f.seq = some 0)
    (hcmd : (w.engine.channels.get c).pending[0]? = some cmd) :
    ∃ p w1, ((w.engine.channels.get c).stopAt 0).Answer w.engine.config.retryBudget 0 cmd f p ∧
      ((receive bytes).run w).2 = pumped c p w1 ∧ w1.engine = w.engine ∧ w1.view = w.view ∧
      (p.1.backoff = none → w1.Alike w) := by
  obtain ⟨w0, traced, same0, shown0, alike0⟩ : ∃ w0, ((receive bytes).run w).2 = ((dispatch f).run w0).2 ∧
      w0.engine = w.engine ∧ w0.view = w.view ∧ w0.Alike w := by
    rw [receive, run_bind, config_run]
    dsimp only
    cases w.engine.config.traceFrames with
    | false => exact ⟨w, by simp only [hdec, route, Bool.false_eq_true, ↓reduceIte], rfl, rfl, .refl w⟩
    | true =>
      simp only [↓reduceIte, run_bind, hdec, route]
      exact ⟨_, rfl, emit_engine .., emit_view .., emit_keeps _ _ _ _ _⟩
  rw [traced, dispatch, run_bind, chan_run]
  dsimp only
  rw [same0, hch, hans]
  dsimp only
  rw [hcmd]
  simp only [run_bind]
  -- the world the answer is resolved in differs from `w` only in what no send reads
  generalize hw1 : (StateT.run (emit _ _ _ _) _).snd = w1
  have same1 : w1.engine = w.engine := by rw [← hw1]; simp only [emit_engine, stopTimer_engine, same0]
  have shown1 : w1.view = w.view := by rw [← hw1]; simp only [emit_view, stopTimer_view, shown0]
  have alike1 : w1.Alike w := by
    rw [← hw1]
    exact ((emit_keeps _ _ _ _ _).trans (stopTimer_keeps _ _)).trans alike0
  obtain ⟨answered, kept, kept'⟩ := answer_run ((w.engine.channels.get c).stopAt 0) 0 w1 c cmd f
  rw [same1] at answered
  refine ⟨_, _, answered, rfl, kept.trans same1, kept'.trans shown1, fun clear => ?_⟩
  exact (answer_keeps _ _ _ _ _ _ clear).trans alike1

/-! What the callers see of a pump, and how a pump from alike worlds compares. -/

theorem settled_events (c : Channel) (q : ChannelState × Done) {w : World} (calm : w.engine.panicking = []) :
    (settled c q w).events.toList = w.events.toList ++ q.2.toList.flatMap fun x => x.1.reported x.2 := by
  simpa [View.report] using congrArg View.events (settled_view c q calm)

theorem pump_events (c : Channel) (s : ChannelState) (done : Done) (w : World) :
    ((pump c s done).run w).2.events = w.events := by
  have h := (pump_view s done w c).1
  simp only [World.view_events] at h
  exact Array.toList_inj.mp h

theorem pumped_events (c : Channel) (p : ChannelState × Done) {w : World} (calm : w.engine.panicking = []) :
    (pumped c p w).events.toList =
      w.events.toList ++ ((pump c p.1 p.2).run w).1.2.toList.flatMap fun x => x.1.reported x.2 := by
  rw [pumped, settled_events c _ (by rw [pump_engine, calm]), pump_events]

theorem pumped_claims (c : Channel) (p : ChannelState × Done) (w : World) :
    ((pumped c p w).engine.channels.get c).claims ⊆ p.1.claims := by
  rw [pumped, settled_engine, PerChannel.get_set_self, claims_delivered]
  exact (pump_pumping p.1 p.2 w c).accounts.claims

theorem callbackRuns_told {w w' : World} {id : Nat} {r : Outcome}
    (h : w'.events.toList = w.events.toList ++ [.submitted id r]) :
    callbackRuns w' id = callbackRuns w id + 1 := by
  simp [callbackRuns, h, Event.callback?]

theorem callbackRuns_pumped (c : Channel) (p : ChannelState × Done) {w : World}
    (calm : w.engine.panicking = []) {id : Nat} (free : p.1.holding (.callback id) = 0) :
    callbackRuns (pumped c p w) id = callbackRuns w id + outcomesFor p.2 (.callback id) := by
  rw [pumped, callbackRuns_settled c _ (by rw [pump_engine, calm]), callbackRuns_of_events (pump_view p.1 p.2 w c).1,
    (pump_pumping p.1 p.2 w c).accounts.outcomesFor_eq free]

/-- One channel pumped from alike worlds, counted and with outcomes collected differently
before: it ends the same but for those, the same outcomes `E` are collected, and the worlds
stay alike. -/
theorem pumped_alike {w1 w2 : World} (alike : w1.Alike w2) (calm : w2.engine.panicking = [])
    (c : Channel) (u : ChannelState)
    (a b k n a' b' k' n' : Nat) (d0 d0' : Done) (hd : d0.size = n) (hd' : d0'.size = n') :
    ∃ (t : ChannelState) (E : Done),
      (pumped c (u.credit a b k n, d0) w1).Alike (pumped c (u.credit a' b' k' n', d0') w2) ∧
      (pumped c (u.credit a b k n, d0) w1).engine.channels.get c =
        { t.delivered E.size with counters := (t.credit a b k 0).counters } ∧
      (pumped c (u.credit a' b' k' n', d0') w2).engine.channels.get c =
        { t.delivered E.size with counters := (t.credit a' b' k' 0).counters } ∧
      (pumped c (u.credit a b k n, d0) w1).events.toList =
        w1.events.toList ++ (d0 ++ E).toList.flatMap (fun x => x.1.reported x.2) ∧
      (pumped c (u.credit a' b' k' n', d0') w2).events.toList =
        w2.events.toList ++ (d0' ++ E).toList.flatMap (fun x => x.1.reported x.2) := by
  subst hd hd'
  obtain ⟨same, alikePumped⟩ := pump_respects c u #[] w1 w2 alike
  rw [pumped_credit, pumped_credit, ← same]
  refine ⟨((pump c u #[]).run w1).1.1, ((pump c u #[]).run w1).1.2,
    ((settle_keeps _ _ _ _).trans alikePumped).trans (settle_keeps _ _ _ _).symm, ?_, ?_, ?_, ?_⟩
  · rw [settled_engine, PerChannel.get_set_self, Array.size_append, credit_delivered]
    rfl
  · rw [settled_engine, PerChannel.get_set_self, Array.size_append, credit_delivered]
    rfl
  · rw [settled_events _ _ (by rw [pump_engine, alike.panicking, calm]), pump_events]
  · rw [settled_events _ _ (by rw [pump_engine, calm]), pump_events]

section race

variable {w : World} {c : Channel} {cmd : Command} {rest : List Command} {id : Nat}
  {bytes : List UInt8} {f : Frame}

/-- Cancelling the running command at the front of its channel marks it, tells its callback
at once and sends nothing; the answer that comes after only reaps the command, and the
channel, without it and with one more cancel counted, is pumped in a world alike to the
first. -/
theorem cancel_first (hw : Reachable w) (hp : (w.engine.channels.get c).pending = cmd :: rest)
    (hrun : (w.engine.channels.get c).running = some cmd.handle) (hst : cmd.state = .running)
    (howner : cmd.owner = some (.callback id))
    (hdec : Wire.decode w.engine.config.addressing bytes = .ok f) (hch : f.channel = c)
    (hseq : f.seq = (w.engine.channels.get c).lastSeq) :
    ((cancel c cmd.handle).run w).1 = true ∧
    ∃ w2, w2.Alike w ∧
      w2.events.toList = w.events.toList ++ [.submitted id (.error .cancelled)] ∧
      ((receive bytes).run ((cancel c cmd.handle).run w).2).2 =
        pumped c (((w.engine.channels.get c).reapAt 0).credit 0 0 1 0, #[]) w2 := by
  have hs : (w.engine.channels.get c).Coherent := hw.coherent c
  have hcmd : (w.engine.channels.get c).pending[0]? = some cmd := by rw [hp]; rfl
  obtain ⟨-, -, -, -, clear⟩ := hs.running_seq hrun
  have alike1 := cancel_keeps c cmd.handle w
  obtain ⟨abandoned, w0, cancelled, same, shown⟩ :=
    (cancel_run c cmd.handle w).of_running (hs.position_running hrun) hcmd hst
  rw [cancelled] at alike1 ⊢
  refine ⟨abandoned, ?_⟩
  have stored : (settled c ((w.engine.channels.get c).abandonAt 0 cmd) w0).engine.channels.get c =
      ((w.engine.channels.get c).abandonAt 0 cmd).1.delivered 1 := by
    simp [settled_engine, abandonAt, howner]
  have config : (settled c ((w.engine.channels.get c).abandonAt 0 cmd) w0).engine.config = w.engine.config := by
    simp [settled_engine, same]
  have marked : (((w.engine.channels.get c).abandonAt 0 cmd).1.delivered 1).pending[0]? =
      some { cmd with state := .runningCancelled, owner := none } := by
    simp [abandonAt, countCancel, delivered, modifyAt, hp, howner]
  have taken : (((w.engine.channels.get c).abandonAt 0 cmd).1.delivered 1).answering f.seq = some 0 := by
    simp [answering, rejection, position, abandonAt, countCancel, delivered, modifyAt, hp, hrun,
      howner, hs.enabled_of_cons hp, hseq, List.findIdx?_cons]
  rw [← stored] at marked taken
  rw [← config] at hdec
  obtain ⟨p, w2, answered, received, -, shown2, alike2⟩ := receive_head hdec hch taken marked
  rw [stored] at answered
  cases answered with
  | reaped _ =>
    rw [abandonAt_reapAt_front hp hrun howner] at received alike2
    have events2 : w2.view.events = w.view.events ++ [.submitted id (.error .cancelled)] := by
      rw [shown2, settled_view _ _ (by rw [same, hw.calm]), shown]
      simp [View.report, abandonAt, howner, Owner.reported]
    refine ⟨w2, (alike2 ?_).trans alike1, by simpa using events2, received⟩
    simp [clear]
  | gaveUp live _ _ => exact absurd rfl live
  | backedOff _ live _ _ => exact absurd rfl live
  | completed live _ => exact absurd rfl live
  | failed live _ _ => exact absurd rfl live

theorem cancel_unclaimed {h : Nat} (hw : Reachable w)
    (free : ∀ o, (h, o) ∉ (w.engine.channels.get c).claims) :
    ((cancel c h).run w).1 = false ∧ ((cancel c h).run w).2.engine = w.engine ∧
      ((cancel c h).run w).2.view = w.view := by
  have hs : (w.engine.channels.get c).Coherent := hw.coherent c
  -- whatever the cancel finds under the handle was cancelled while running
  have silent : ∀ idx k, (w.engine.channels.get c).position h = some idx →
      (w.engine.channels.get c).pending[idx]? = some k → k.state = .runningCancelled := by
    intro idx k hidx hk
    refine Classical.byContradiction fun live => ?_
    obtain ⟨o, claimed⟩ := hs.claimed (List.mem_of_getElem? hk) live
    rw [position_handle hidx hk] at claimed
    exact free o claimed
  have cancelled := cancel_run c h w
  generalize ((cancel c h).run w).1 = taken at cancelled ⊢
  generalize ((cancel c h).run w).2 = w' at cancelled ⊢
  cases cancelled with
  | ignored w1 _ same shown =>
    refine ⟨rfl, by simp [same], ?_⟩
    rw [settled_view _ _ (by rw [same, hw.calm]), shown]
    simp [View.report, World.view]
  | dequeued w1 hidx hk sendable _ _ =>
    rw [silent _ _ hidx hk] at sendable
    exact absurd sendable (by decide)
  | abandoned w1 hidx hk running _ _ =>
    rw [silent _ _ hidx hk] at running
    cases running

theorem taken_of_running (hw : Reachable w) (hp : (w.engine.channels.get c).pending = cmd :: rest)
    (hrun : (w.engine.channels.get c).running = some cmd.handle)
    (hseq : f.seq = (w.engine.channels.get c).lastSeq) :
    (w.engine.channels.get c).answering f.seq = some 0 := by
  have hs : (w.engine.channels.get c).Coherent := hw.coherent c
  rw [hs.answering_eq, if_pos]
  exact rejection_eq_none.mpr ⟨hs.enabled_of_cons hp, by simp [hrun], hseq⟩

/-- Receiving the answer first resolves the command by its status. Unless the status asks
to try again, the callback is told the outcome, and the channel, without the command and
with its resolution counted, is pumped in a world alike to the first. -/
theorem answer_first (hw : Reachable w) (hp : (w.engine.channels.get c).pending = cmd :: rest)
    (hrun : (w.engine.channels.get c).running = some cmd.handle) (hst : cmd.state = .running)
    (howner : cmd.owner = some (.callback id))
    (hdec : Wire.decode w.engine.config.addressing bytes = .ok f) (hch : f.channel = c)
    (hseq : f.seq = (w.engine.channels.get c).lastSeq)
    (settles : ¬ (f.status = Status.queueFull ∧ cmd.attempts + 1 < w.engine.config.retryBudget)) :
    ∃ w2, w2.Alike w ∧ w2.events.toList = w.events.toList ∧
      ((receive bytes).run w).2 = pumped c (((w.engine.channels.get c).reapAt 0).credit
        (if f.status = Status.ok then 1 else 0) (if f.status = Status.ok then 0 else 1) 0 1,
        #[(.callback id, if f.status = Status.ok then .ok f.payload else .error (.remote f.status.code))])
        w2 := by
  have hs : (w.engine.channels.get c).Coherent := hw.coherent c
  have hcmd : (w.engine.channels.get c).pending[0]? = some cmd := by rw [hp]; rfl
  obtain ⟨-, -, -, -, clear⟩ := hs.running_seq hrun
  obtain ⟨p, w2, answered, received, -, shown2, alike2⟩ :=
    receive_head hdec hch (taken_of_running hw hp hrun hseq) hcmd
  have events2 : w2.events.toList = w.events.toList := by
    simpa using congrArg View.events shown2
  cases answered with
  | reaped cancelled =>
    rw [hst] at cancelled
    cases cancelled
  | gaveUp _ busy _ =>
    have notOk : f.status ≠ Status.ok := by rw [busy]; decide
    rw [spendAt_failAt_front hp hrun howner] at received alike2
    simp only [notOk, ↓reduceIte]
    exact ⟨w2, alike2 (by simp [clear]), events2, received⟩
  | backedOff _ _ busy more => exact absurd ⟨busy, more⟩ settles
  | completed _ ok =>
    rw [completeAt_front hp hrun howner] at received alike2
    simp only [ok, ↓reduceIte]
    exact ⟨w2, alike2 (by simp [clear]), events2, received⟩
  | failed _ _ notOk =>
    rw [failAt_front hp hrun howner] at received alike2
    simp only [notOk, ↓reduceIte]
    exact ⟨w2, alike2 (by simp [clear]), events2, received⟩

theorem cancel_after_answer (hw : Reachable w) (hp : (w.engine.channels.get c).pending = cmd :: rest)
    (hrun : (w.engine.channels.get c).running = some cmd.handle) (hst : cmd.state = .running)
    (howner : cmd.owner = some (.callback id))
    (hdec : Wire.decode w.engine.config.addressing bytes = .ok f) (hch : f.channel = c)
    (hseq : f.seq = (w.engine.channels.get c).lastSeq)
    (settles : ¬ (f.status = Status.queueFull ∧ cmd.attempts + 1 < w.engine.config.retryBudget)) :
    ((cancel c cmd.handle).run ((receive bytes).run w).2).1 = false ∧
      ((cancel c cmd.handle).run ((receive bytes).run w).2).2.engine = ((receive bytes).run w).2.engine ∧
      ((cancel c cmd.handle).run ((receive bytes).run w).2).2.view = ((receive bytes).run w).2.view := by
  obtain ⟨w2, -, -, received⟩ := answer_first hw hp hrun hst howner hdec hch hseq settles
  have reached : Reachable ((receive bytes).run w).2 := Reachable.act (.receive bytes) hw
  refine cancel_unclaimed reached fun o hc => ?_
  rw [received] at hc
  exact Nat.lt_irrefl _ ((hw.coherent c).claims_reapAt_front hp (pumped_claims _ _ _ hc)).1

theorem answer_first_retried (hw : Reachable w) (hp : (w.engine.channels.get c).pending = cmd :: rest)
    (hrun : (w.engine.channels.get c).running = some cmd.handle) (hst : cmd.state = .running)
    (howner : cmd.owner = some (.callback id))
    (hdec : Wire.decode w.engine.config.addressing bytes = .ok f) (hch : f.channel = c)
    (hseq : f.seq = (w.engine.channels.get c).lastSeq)
    (busy : f.status = Status.queueFull) (more : cmd.attempts + 1 < w.engine.config.retryBudget) :
    ((cancel c cmd.handle).run ((receive bytes).run w).2).1 = true ∧
      ((cancel c cmd.handle).run ((receive bytes).run w).2).2.events.toList =
        w.events.toList ++ [.submitted id (.error .cancelled)] := by
  have hs : (w.engine.channels.get c).Coherent := hw.coherent c
  have hcmd : (w.engine.channels.get c).pending[0]? = some cmd := by rw [hp]; rfl
  obtain ⟨p, w2, answered, received, same2, shown2, -⟩ :=
    receive_head hdec hch (taken_of_running hw hp hrun hseq) hcmd
  have received_calm := (Reachable.act (.receive bytes) hw).calm
  cases answered with
  | reaped cancelled =>
    rw [hst] at cancelled
    cases cancelled
  | gaveUp _ _ spent => exact absurd more (Nat.not_lt.mpr spent)
  | completed _ ok => rw [busy] at ok; cases ok
  | failed _ notBusy _ => exact absurd busy notBusy
  | backedOff backoff _ _ _ =>
    simp only [pumped] at received
    generalize hwait : ((((w.engine.channels.get c).stopAt 0).spendAt 0 cmd).requeueAt 0) = t at received
    have held : ((pump c { t with backoff := some backoff } #[]).run w2).1 =
        ({ t with backoff := some backoff }, #[]) := (pump_pumping _ _ _ c).eq_of_backoff (by simp)
    rw [held] at received
    have waiting : ({ t with backoff := some backoff } : ChannelState).pending[0]? =
        some { cmd with timer := none, attempts := cmd.attempts + 1, state := .retry } := by
      rw [← hwait]
      simp [requeueAt, spendAt, stopAt, modifyAt, hp]
    have hpos : ({ t with backoff := some backoff } : ChannelState).position cmd.handle = some 0 := by
      rw [← hwait]
      simp [position, requeueAt, spendAt, stopAt, modifyAt, hp, List.findIdx?_cons]
    have stored : (((receive bytes).run w).2).engine.channels.get c = { t with backoff := some backoff } := by
      rw [received, settled_engine]
      simp [delivered]
    have events1 : (((receive bytes).run w).2).view.events = w.view.events := by
      rw [received, settled_view _ _ (by rw [pump_engine, same2, hw.calm])]
      simp only [View.report]
      rw [(pump_view _ _ w2 c).1, shown2]
      simp
    rw [← stored] at waiting hpos
    obtain ⟨dequeued, w3, cancelled, same3, shown3⟩ :=
      (cancel_run c cmd.handle ((receive bytes).run w).2).of_sendable hpos waiting rfl
    refine ⟨dequeued, ?_⟩
    rw [cancelled, ← World.view_events, settled_view _ _ (by rw [same3]; exact received_calm), shown3]
    simp only [View.report]
    rw [events1]
    simp [finishAt, countCancel, waiting, howner, Owner.reported]

/-- A cancel and an answer that race on the command in flight. Cancelling first returns
`true`, tells the callback that the command was cancelled, and the answer then only reaps it.
Answering first tells the callback the answer's outcome, and the cancel after it returns
`false`, unless the answer only asked to try again: then the callback is told nothing until
the cancel, which takes the waiting command off and returns `true`. Either way a callback
that only this pending command answers to runs once more. Unless the answer asked to try
again, both orders then tell the same outcomes, hand the same frames to the link, and leave
the channel the same but for one count: cancelled in the first order, completed or failed
by the answer's status in the second. -/
theorem cancel_answer_race (hw : Reachable w)
    (hrun : (w.engine.channels.get c).running = some cmd.handle)
    (hmem : cmd ∈ (w.engine.channels.get c).pending) (hst : cmd.state = .running)
    (howner : cmd.owner = some (.callback id))
    (hdec : Wire.decode w.engine.config.addressing bytes = .ok f) (hch : f.channel = c)
    (hseq : f.seq = (w.engine.channels.get c).lastSeq) :
    let retried := decide (f.status = Status.queueFull ∧ cmd.attempts + 1 < w.engine.config.retryBudget)
    let told : Outcome := if f.status = Status.ok then .ok f.payload
      else if retried then .error .cancelled else .error (.remote f.status.code)
    let first := (cancel c cmd.handle).run w
    let wA := ((receive bytes).run first.2).2
    let second := (cancel c cmd.handle).run ((receive bytes).run w).2
    let wB := second.2
    first.1 = true ∧ second.1 = retried ∧
    ∃ EA EB, wA.events.toList = w.events.toList ++ .submitted id (.error .cancelled) :: EA ∧
      wB.events.toList = w.events.toList ++ .submitted id told :: EB ∧
      ((∀ k ∈ (w.engine.channels.get c).pending, k.owner = some (.callback id) → k.handle = cmd.handle) →
        callbackRuns wA id = callbackRuns w id + 1 ∧ callbackRuns wB id = callbackRuns w id + 1) ∧
      (retried = false → EA = EB ∧ wA.link = wB.link ∧ wA.accepted = wB.accepted ∧
        { wA.engine.channels.get c with counters := (wB.engine.channels.get c).counters } =
          wB.engine.channels.get c ∧
        ∃ k : Counters, (wA.engine.channels.get c).counters = { k with cancelled := k.cancelled + 1 } ∧
          (wB.engine.channels.get c).counters =
            { k with completed := k.completed + (if f.status = Status.ok then 1 else 0),
                     failed := k.failed + (if f.status = Status.ok then 0 else 1) }) := by
  dsimp only
  have hs : (w.engine.channels.get c).Coherent := hw.coherent c
  obtain ⟨rest, hp, -⟩ := hs.head_of_running hrun hmem
  obtain ⟨cancelled, w2A, alikeA, eventsA, receivedA⟩ := cancel_first hw hp hrun hst howner hdec hch hseq
  have calmA : w2A.engine.panicking = [] := by rw [alikeA.panicking, hw.calm]
  -- both orders come to the pump of the channel without the command
  have eventsA' := pumped_events c (((w.engine.channels.get c).reapAt 0).credit 0 0 1 0, #[]) calmA
  rw [← receivedA, eventsA, List.append_assoc, List.singleton_append] at eventsA'
  have runsA : (∀ k ∈ (w.engine.channels.get c).pending, k.owner = some (.callback id) →
      k.handle = cmd.handle) → callbackRuns ((receive bytes).run ((cancel c cmd.handle).run w).2).2 id =
        callbackRuns w id + 1 := fun once => by
    rw [receivedA, callbackRuns_pumped _ _ calmA (hs.holding_reapAt_front hp once), callbackRuns_told eventsA]
    rfl
  refine ⟨cancelled, ?_⟩
  by_cases busy : f.status = Status.queueFull ∧ cmd.attempts + 1 < w.engine.config.retryBudget
  · -- the answer only asked to try again: the cancel finds the command waiting for it
    have retry : decide (f.status = Status.queueFull ∧ cmd.attempts + 1 < w.engine.config.retryBudget) =
        true := decide_eq_true busy
    have notOk : f.status ≠ Status.ok := by rw [busy.1]; decide
    obtain ⟨again, eventsB⟩ := answer_first_retried hw hp hrun hst howner hdec hch hseq busy.1 busy.2
    rw [retry]
    refine ⟨again, _, [], eventsA', by simpa [notOk] using eventsB,
      fun once => ⟨runsA once, callbackRuns_told eventsB⟩, fun never => by cases never⟩
  · have settles : decide (f.status = Status.queueFull ∧ cmd.attempts + 1 < w.engine.config.retryBudget) =
        false := decide_eq_false busy
    obtain ⟨w2B, alikeB, eventsB, receivedB⟩ := answer_first hw hp hrun hst howner hdec hch hseq busy
    obtain ⟨ignored, sameB, shownB⟩ := cancel_after_answer hw hp hrun hst howner hdec hch hseq busy
    have keptB := cancel_keeps c cmd.handle ((receive bytes).run w).2
    have eventsB' : ((cancel c cmd.handle).run ((receive bytes).run w).2).2.events.toList =
        (((receive bytes).run w).2).events.toList := by
      simpa using congrArg View.events shownB
    have calmB : w2B.engine.panicking = [] := by rw [alikeB.panicking, hw.calm]
    obtain ⟨t, E, alike, chanA, chanB, evA, evB⟩ := pumped_alike (alikeA.trans alikeB.symm) calmB c
      ((w.engine.channels.get c).reapAt 0) 0 0 1 0 (if f.status = Status.ok then 1 else 0)
      (if f.status = Status.ok then 0 else 1) 0 1 #[]
      #[(.callback id, if f.status = Status.ok then .ok f.payload else .error (.remote f.status.code))]
      rfl rfl
    rw [← receivedA] at alike chanA evA
    rw [← receivedB, ← sameB] at chanB
    rw [← receivedB] at alike evB
    rw [settles]
    simp only [Bool.false_eq_true, ↓reduceIte]
    refine ⟨ignored, E.toList.flatMap (fun x => x.1.reported x.2), E.toList.flatMap (fun x => x.1.reported x.2),
      by rw [evA, eventsA]; simp, by rw [eventsB', evB, eventsB]; simp [Owner.reported],
      fun once => ⟨runsA once, ?_⟩,
      fun _ => ⟨rfl, alike.link.trans keptB.link.symm, alike.accepted.trans keptB.accepted.symm,
        by rw [chanA, chanB], t.counters, by rw [chanA]; simp [credit], by rw [chanB]; simp [credit]⟩⟩
    rw [callbackRuns_of_events (congrArg View.events shownB), receivedB,
      callbackRuns_pumped _ _ calmB (hs.holding_reapAt_front hp once), callbackRuns_of_events eventsB]
    simp [outcomesFor]

theorem cancel_answer_race_on_control :
    let w := (Action.submit .control 7 [1, 2] (.callback 1)).step ((Action.enable .control).step
      (World.initial EngineConfig.default (.recorder ⟨#[], [], true⟩) none ""))
    let cmd : Command :=
      { handle := 1, opcode := 7, input := [1, 2], state := .running, seq := 1, attempts := 0,
        generation := 1, started := 0, owner := some (.callback 1), timer := some 0 }
    let bytes : List UInt8 :=
      [2, 0, 0, 0, 0, 1, 2, 0, 0, 0, 0, 2, 136, 168, 0, 1, 129, 0, 0, 1, 136, 181, 1, 0, 0, 1, 1, 0, 0, 7, 5]
    Reachable w ∧ (w.engine.channels.get .control).running = some cmd.handle ∧
    cmd ∈ (w.engine.channels.get .control).pending ∧ cmd.state = .running ∧
    cmd.owner = some (.callback 1) ∧
    ∃ f, Wire.decode w.engine.config.addressing bytes = .ok f ∧ f.channel = .control ∧
      f.seq = (w.engine.channels.get .control).lastSeq ∧
    let retried := decide (f.status = Status.queueFull ∧ cmd.attempts + 1 < w.engine.config.retryBudget)
    let told : Outcome := if f.status = Status.ok then .ok f.payload
      else if retried then .error .cancelled else .error (.remote f.status.code)
    let first := (cancel .control cmd.handle).run w
    let wA := ((receive bytes).run first.2).2
    let second := (cancel .control cmd.handle).run ((receive bytes).run w).2
    let wB := second.2
    first.1 = true ∧ second.1 = retried ∧
    ∃ EA EB, wA.events.toList = w.events.toList ++ .submitted 1 (.error .cancelled) :: EA ∧
      wB.events.toList = w.events.toList ++ .submitted 1 told :: EB ∧
      ((∀ k ∈ (w.engine.channels.get .control).pending, k.owner = some (.callback 1) →
          k.handle = cmd.handle) →
        callbackRuns wA 1 = callbackRuns w 1 + 1 ∧ callbackRuns wB 1 = callbackRuns w 1 + 1) ∧
      (retried = false → EA = EB ∧ wA.link = wB.link ∧ wA.accepted = wB.accepted ∧
        { wA.engine.channels.get .control with counters := (wB.engine.channels.get .control).counters } =
          wB.engine.channels.get .control ∧
        ∃ k : Counters, (wA.engine.channels.get .control).counters =
            { k with cancelled := k.cancelled + 1 } ∧
          (wB.engine.channels.get .control).counters =
            { k with completed := k.completed + (if f.status = Status.ok then 1 else 0),
                     failed := k.failed + (if f.status = Status.ok then 0 else 1) }) := by
  intro w cmd bytes
  have reached : Reachable w := Reachable.act _ (Reachable.act _ (Reachable.initial _ _ _ (by decide)))
  have running : (w.engine.channels.get .control).running = some cmd.handle := by decide
  have mem : cmd ∈ (w.engine.channels.get .control).pending := by decide
  have decoded : Wire.decode w.engine.config.addressing bytes =
      .ok { kind := Wire.answerKind Channel.control.txKind, seq := 1, opcode := 7, status := ⟨0⟩,
            payload := [5] } := by
    have framed : bytes = Wire.header w.engine.config.addressing.reversed
        (Wire.answerKind Channel.control.txKind) 1 7 ⟨0⟩ 1 ++ ([5] ++ []) := by decide
    have read := Wire.decode_header_payload w.engine.config.addressing.reversed
      (Wire.answerKind Channel.control.txKind) 1 7 ⟨0⟩ [5] [] (by decide)
    rw [Addressing.reversed_reversed, List.length_singleton, ← framed] at read
    exact read
  exact ⟨reached, running, mem, rfl, rfl, _, decoded, rfl, by decide,
    cancel_answer_race reached running mem rfl rfl decoded rfl (by decide)⟩

end race

end Engine

end FrameRpc
