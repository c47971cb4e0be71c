import FrameRpc.Proofs.Engine.Matching
import FrameRpc.Proofs.Engine.Numbering
import FrameRpc.Proofs.Wire.RoundTrip
set_option autoImplicit false

/-!
The answer to the request in flight.

While a command has an attempt out, the last frame of its channel's kind that the link took
is that command's request, encoded with the command's sequence number (`Requested`). A send
the link takes puts its command in flight together with the frame it adds; every other change
an operation makes either keeps the command in flight with its sequence number, opcode and
input, or leaves nothing in flight (`SameRequest`). So the peer's answer to that frame, with
any status and payload, reads back at the engine as an answer on the channel carrying the last
sequence number sent, and the engine takes it and resolves the command in flight by the
answer's status.
-/

namespace FrameRpc

/-- The request of `cmd` on channel `c`, encoded for `addr`, is the last of `frames` of the
kind `c` sends with. -/
def Command.LastSent (cmd : Command) (addr : Addressing) (c : Channel)
    (frames : List (List UInt8)) : Prop :=
  ∃ request, Wire.encode addr c.txKind cmd.seq cmd.opcode Status.ok cmd.input = .ok request ∧
    (c.sentIn frames).getLast? = some request

namespace ChannelState

def Requested (s : ChannelState) (addr : Addressing) (c : Channel) (frames : List (List UInt8)) :
    Prop :=
  ∀ cmd ∈ s.inFlight, cmd.LastSent addr c frames

def SameRequest (t s : ChannelState) : Prop :=
  ∀ cmd ∈ t.inFlight, ∃ old ∈ s.inFlight,
    cmd.seq = old.seq ∧ cmd.opcode = old.opcode ∧ cmd.input = old.input

section sameRequest

variable {r s t : ChannelState}

theorem SameRequest.trans (h : r.SameRequest s) (h' : s.SameRequest t) : r.SameRequest t := by
  intro cmd hcmd
  obtain ⟨mid, hmid, seq, opcode, input⟩ := h cmd hcmd
  obtain ⟨old, hold, seq', opcode', input'⟩ := h' mid hmid
  exact ⟨old, hold, seq.trans seq', opcode.trans opcode', input.trans input'⟩

theorem Requested.congr {addr : Addressing} {c : Channel} {frames : List (List UInt8)}
    (h : s.Requested addr c frames) (e : t.SameRequest s) : t.Requested addr c frames := by
  intro cmd hcmd
  obtain ⟨old, hold, seq, opcode, input⟩ := e cmd hcmd
  obtain ⟨request, encoded, last⟩ := h old hold
  exact ⟨request, by rw [seq, opcode, input]; exact encoded, last⟩

theorem Requested.frames {addr : Addressing} {c : Channel} {frames frames' : List (List UInt8)}
    (h : s.Requested addr c frames) (e : c.sentIn frames' = c.sentIn frames) :
    s.Requested addr c frames' := by
  intro cmd hcmd
  obtain ⟨request, encoded, last⟩ := h cmd hcmd
  exact ⟨request, encoded, e ▸ last⟩

theorem Requested.of_idle {addr : Addressing} {c : Channel} {frames : List (List UInt8)}
    (h : s.inFlight = none) : s.Requested addr c frames := by
  intro cmd hcmd
  rw [h] at hcmd
  cases hcmd

theorem sameRequest_of_idle (h : t.inFlight = none) : t.SameRequest s := by
  intro cmd hcmd
  rw [h] at hcmd
  cases hcmd

theorem sameRequest_of_head (h : t.pending.head? = s.pending.head?) : t.SameRequest s := by
  intro cmd hcmd
  refine ⟨cmd, ?_, rfl, rfl, rfl⟩
  simpa only [inFlight, h] using hcmd

theorem sameRequest_modifyAt {idx : Nat} {f : Command → Command}
    (hf : ∀ k ∈ s.pending.head?, (f k).state.isInFlight = true → (f k).seq = k.seq ∧
      (f k).opcode = k.opcode ∧ (f k).input = k.input ∧ k.state.isInFlight = true) :
    (s.modifyAt idx f).SameRequest s := by
  cases hp : s.pending with
  | nil => exact sameRequest_of_head (by simp [modifyAt, hp])
  | cons head rest =>
    cases idx with
    | succ k => exact sameRequest_of_head (by simp [modifyAt, hp])
    | zero =>
      intro cmd hcmd
      simp only [inFlight, modifyAt, hp, List.modify_zero_cons, List.head?_cons,
        Option.mem_def, Option.filter_eq_some_iff, Option.some.injEq] at hcmd
      obtain ⟨rfl, live⟩ := hcmd
      obtain ⟨seq, opcode, input, was⟩ := hf head (by simp [hp]) live
      exact ⟨head, by simp [inFlight, hp, was], seq, opcode, input⟩

end sameRequest

section idle

variable {s t : ChannelState} {cmd : Command} {rest : List Command}

theorem Coherent.idle_of_tail (hs : s.Coherent) (hp : s.pending = cmd :: rest)
    (ht : t.pending = rest) : t.inFlight = none := by
  cases hrest : rest with
  | nil => exact inFlight_nil t (ht.trans hrest)
  | cons next later =>
    have queued : next.state = .queued := hs.queued next (by simp [hp, hrest])
    rw [inFlight_cons t (ht.trans hrest), queued]
    rfl

theorem Coherent.sameRequest_eraseIdx (hs : s.Coherent) {idx : Nat}
    (ht : t.pending = s.pending.eraseIdx idx) : t.SameRequest s := by
  cases hp : s.pending with
  | nil => exact sameRequest_of_head (by simp [ht, hp])
  | cons head rest =>
    cases idx with
    | zero => exact sameRequest_of_idle (hs.idle_of_tail hp (by simp [ht, hp]))
    | succ k => exact sameRequest_of_head (by simp [ht, hp])

theorem idle_of_head (h : ∀ k ∈ t.pending.head?, k.state.isInFlight = false) :
    t.inFlight = none := by
  cases hp : t.pending with
  | nil => exact inFlight_nil t hp
  | cons k rest =>
    rw [inFlight_cons t hp, h k (by simp [hp])]
    rfl

theorem Coherent.answer_idle (hs : s.Coherent) (hp : s.pending = cmd :: rest) {budget : Nat}
    {f : Frame} {p : ChannelState × Engine.Done} (ha : (s.stopAt 0).Answer budget 0 cmd f p) :
    p.1.inFlight = none := by
  cases ha with
  | reaped _ => exact hs.idle_of_tail hp (by simp [stopAt, modifyAt, hp])
  | gaveUp _ _ _ => exact hs.idle_of_tail hp (by simp [failAt, spendAt, stopAt, modifyAt, hp])
  | backedOff _ _ _ _ =>
    exact idle_of_head (by simp [requeueAt, spendAt, stopAt, modifyAt, hp, CommandState.isInFlight])
  | completed _ _ => exact hs.idle_of_tail hp (by simp [completeAt, stopAt, modifyAt, hp])
  | failed _ _ _ => exact hs.idle_of_tail hp (by simp [failAt, stopAt, modifyAt, hp])

theorem Coherent.expiry_idle (hs : s.Coherent) (hp : s.pending = cmd :: rest) {budget : Nat}
    {p : ChannelState × Engine.Done} (hx : (s.stopAt 0).Expiry budget 0 cmd p) :
    p.1.inFlight = none := by
  cases hx with
  | reaped _ => exact hs.idle_of_tail hp (by simp [stopAt, modifyAt, hp])
  | timedOut _ _ =>
    exact hs.idle_of_tail hp (by simp [failAt, timeoutAt, spendAt, stopAt, modifyAt, hp])
  | retried _ _ =>
    exact idle_of_head
      (by simp [requeueAt, timeoutAt, spendAt, stopAt, modifyAt, hp, CommandState.isInFlight])

theorem Coherent.idle_of_running (hs : s.Coherent) (hr : s.running = none) : s.inFlight = none := by
  rw [← Option.map_eq_none_iff, ← hs.running_eq, hr]

theorem Attempt.running_of_refused {budget idx : Nat} {cmd : Command} {done : Engine.Done}
    {e : TransmitError} {q : ChannelState × Engine.Done}
    (h : s.Attempt budget idx cmd done (.error e) q) (hr : s.running = none) : q.1.running = none := by
  cases h with
  | gaveUp _ =>
    rw [refusedFinal, finishAt_fst]
    unfold reapAt
    split <;> simp [modifyAt, hr]
  | backedOff _ _ => simp [refusedRetry, modifyAt, hr]

theorem Coherent.head_of_running (hs : s.Coherent)
    (hrun : s.running = some cmd.handle) (hmem : cmd ∈ s.pending) :
    ∃ rest, s.pending = cmd :: rest ∧ cmd.state.isInFlight = true := by
  obtain ⟨head, rest, hp, same, hf⟩ := hs.running_head hrun
  rw [hp] at hmem
  rcases List.mem_cons.mp hmem with rfl | later
  · exact ⟨rest, hp, hf⟩
  · -- handles rise along the list, so a later command has another handle
    have := (List.pairwise_cons.mp (hp ▸ hs.sorted)).1 cmd later
    omega

end idle

section shapes

variable (s : ChannelState)

theorem sameRequest_abandonAt {cmd : Command} {rest : List Command} (hp : s.pending = cmd :: rest)
    (hrun : cmd.state = .running) : (s.abandonAt 0 cmd).1.SameRequest s := by
  rw [abandonAt_fst]
  refine SameRequest.trans (sameRequest_of_head rfl) (sameRequest_modifyAt fun k hk _ => ?_)
  rw [hp, List.head?_cons, Option.mem_def, Option.some.injEq] at hk
  subst hk
  exact ⟨rfl, rfl, rfl, by simp [hrun, CommandState.isInFlight]⟩

theorem sameRequest_enqueue (opcode : UInt16) (input : List UInt8) (owner : Owner) (started : Nat) :
    (s.enqueue opcode input owner started).SameRequest s := by
  cases hp : s.pending with
  | nil =>
    exact sameRequest_of_idle (idle_of_head (by simp [enqueue, hp, CommandState.isInFlight]))
  | cons head rest => exact sameRequest_of_head (by simp [enqueue, hp])

theorem Coherent.sameRequest_closing (hs : s.Coherent) : s.closing.1.SameRequest s :=
  sameRequest_of_idle (inFlight_nil _ (hs.closing.disabled (close_enabled s)).1)

theorem launch_requested {cmd : Command} {rest : List Command} (hp : s.pending = cmd :: rest)
    {addr : Addressing} {c : Channel} {frames : List (List UInt8)} {request : List UInt8}
    (seq : UInt16) (timer : Nat)
    (encoded : Wire.encode addr c.txKind seq cmd.opcode Status.ok cmd.input = .ok request)
    (last : (c.sentIn frames).getLast? = some request) :
    (s.launch 0 cmd seq timer).Requested addr c frames := by
  intro k hk
  simp only [inFlight, launch, modifyAt, hp, List.modify_zero_cons, List.head?_cons,
    Option.mem_def, Option.filter_eq_some_iff, Option.some.injEq] at hk
  obtain ⟨rfl, -⟩ := hk
  exact ⟨request, encoded, last⟩

end shapes

end ChannelState

namespace Engine

open Sim ChannelState

section attempts

variable {c : Channel} {s : ChannelState} {done : Done} {w : World}

/-- What a send attempt adds to the frames a recording link took: the request it sends, with
the next sequence number, when the link takes it and the command goes in flight; nothing
when the link refuses it. -/
theorem sendAttempt_accepted {idx : Nat} {cmd : Command} (hcmd : s.pending[idx]? = some cmd)
    (hrec : w.view.recording = true) :
    (∃ request timer, Wire.encode w.engine.config.addressing c.txKind (s.lastSeq + 1) cmd.opcode
          Status.ok cmd.input = .ok request ∧
        ((sendAttempt c s idx done).run w).2.accepted = w.accepted.push request ∧
        ((sendAttempt c s idx done).run w).1 = (s.launch idx cmd (s.lastSeq + 1) timer, done)) ∨
      (((sendAttempt c s idx done).run w).2.accepted = w.accepted ∧
        ∃ e, s.Attempt w.engine.config.retryBudget idx cmd done (.error e)
          ((sendAttempt c s idx done).run w).1) := by
  obtain ⟨attempt, -, shown⟩ := sendAttempt_run s idx done w c hcmd
  rw [World.accepted_eq_of_view shown]
  generalize ((sendAttempt c s idx done).run w).1 = q at attempt ⊢
  rcases transmit_view c cmd (s.lastSeq + 1) w with
    ⟨request, encoded, sent, -, taken⟩ | ⟨unrecorded, same⟩
  · rw [sent] at attempt
    cases attempt with
    | sent timer => exact .inl ⟨request, timer, encoded, congrArg View.accepted taken, rfl⟩
  · refine .inr ⟨congrArg View.accepted same, ?_⟩
    generalize ((transmit c cmd (s.lastSeq + 1)).run w).1 = answer at attempt unrecorded
    cases attempt with
    | sent => exact absurd ((unrecorded rfl).symm.trans hrec) Bool.false_ne_true
    | @gaveUp e spent => exact ⟨e, .gaveUp spent⟩
    | @backedOff e backoff left => exact ⟨e, .backedOff backoff left⟩

theorem pump_requested (hrec : w.view.recording = true) (hs : s.Coherent)
    (hreq : s.Requested w.engine.config.addressing c w.accepted.toList) :
    ((pump c s done).run w).1.1.Requested w.engine.config.addressing c
        ((pump c s done).run w).2.accepted.toList ∧
      ∀ d, d ≠ c → d.sentIn ((pump c s done).run w).2.accepted.toList = d.sentIn w.accepted.toList := by
  refine (pumpWith_induction c (fun p w' => w'.engine = w.engine ∧ w'.view.recording = true ∧
      p.1.Coherent ∧ p.1.Requested w.engine.config.addressing c w'.accepted.toList ∧
      ∀ d, d ≠ c → d.sentIn w'.accepted.toList = d.sentIn w.accepted.toList) ?_ _ s done w
      ⟨rfl, hrec, hs, hreq, fun _ _ => rfl⟩).2.2.2
  rintro s' done' w' idx cmd enabled idle clear hnext hcmd ⟨same, hrec', hs', -, others⟩
  obtain ⟨attempt, kept, -⟩ := sendAttempt_run s' idx done' w' c hcmd
  rw [same] at attempt
  have coherent := hs'.attempt enabled idle clear hnext hcmd attempt
  refine ⟨kept.trans same, (sendAttempt_view s' idx done' w' c).2.trans hrec', coherent, ?_⟩
  obtain rfl := hs'.nextSendable_zero idle hnext
  obtain ⟨rest, hp⟩ : ∃ rest, s'.pending = cmd :: rest := by
    cases hp : s'.pending with
    | nil => simp [hp] at hcmd
    | cons head rest => exact ⟨rest, by simpa [hp] using hcmd⟩
  rcases sendAttempt_accepted hcmd hrec' with
    ⟨request, timer, encoded, pushed, launched⟩ | ⟨unchanged, e, refused⟩
  · rw [pushed, launched, Array.toList_push]
    obtain ⟨kind, -⟩ := Wire.encode_header encoded
    refine ⟨launch_requested s' hp _ timer (same ▸ encoded) ?_,
      fun d hd => (Channel.sentIn_push_other _ hd kind).trans (others d hd)⟩
    rw [Channel.sentIn_push_own _ kind, List.getLast?_concat]
  · rw [unchanged]
    exact ⟨Requested.of_idle (coherent.idle_of_running (refused.running_of_refused idle)), others⟩

end attempts

def Requests (w : World) : Prop :=
  ∀ c, (w.engine.channels.get c).Requested w.engine.config.addressing c w.accepted.toList

section requests

variable {w w' : World}

theorem Requests.set (hr : Requests w) {c : Channel} {t : ChannelState}
    (stored : w'.engine.channels = w.engine.channels.set c t)
    (config : w'.engine.config = w.engine.config) (accepted : w'.accepted = w.accepted)
    (ht : t.SameRequest (w.engine.channels.get c)) : Requests w' := by
  intro d
  rw [stored, config, accepted]
  by_cases hd : d = c
  · subst hd
    rw [PerChannel.get_set_self]
    exact (hr d).congr ht
  · rw [PerChannel.get_set_other _ _ _ _ hd]
    exact hr d

theorem Requests.settled (hr : Requests w) {w1 : World} (same : w1.engine = w.engine)
    (shown : w1.view = w.view) (c : Channel) {q : ChannelState × Done}
    (hq : q.1.SameRequest (w.engine.channels.get c)) : Requests (settled c q w1) :=
  hr.set (t := q.1.delivered q.2.size) (by rw [settled_engine, same]) (by rw [settled_engine, same])
    ((settled_accepted c q w1).trans (World.accepted_eq_of_view shown))
    ((sameRequest_of_head rfl).trans hq)

theorem Requests.pumped (hr : Requests w) (hrec : w.view.recording = true) {w1 : World}
    (same : w1.engine = w.engine) (shown : w1.view = w.view) (c : Channel)
    {p : ChannelState × Done} (hp : p.1.Coherent) (hq : p.1.SameRequest (w.engine.channels.get c)) :
    Requests (pumped c p w1) := by
  have start : p.1.Requested w1.engine.config.addressing c w1.accepted.toList := by
    rw [World.accepted_eq_of_view shown, same]
    exact (hr c).congr hq
  obtain ⟨requested, others⟩ :=
    @pump_requested c p.1 p.2 w1 ((congrArg View.recording shown).trans hrec) hp start
  intro d
  rw [Engine.pumped, settled_engine, settled_accepted, pump_engine]
  by_cases hd : d = c
  · subst hd
    rw [PerChannel.get_set_self]
    exact requested.congr (sameRequest_of_head rfl)
  · rw [PerChannel.get_set_other _ _ _ _ hd, same]
    exact (hr d).frames ((others d hd).trans (by rw [World.accepted_eq_of_view shown]))

end requests

section operations

variable {w w' : World}

/-- What an operation does to the requests in flight: the link keeps its kind, and on a
recording link every request in flight stays the last its channel sent. -/
def KeepsRequests (w w' : World) : Prop :=
  w'.view.recording = w.view.recording ∧ (w.view.recording = true → Requests w → Requests w')

theorem keepsRequests_of_same (same : w'.engine = w.engine) (shown : w'.view = w.view) :
    KeepsRequests w w' :=
  ⟨congrArg View.recording shown, fun _ hr d => by
    rw [same, World.accepted_eq_of_view shown]
    exact hr d⟩

theorem KeepsRequests.trans {w1 w2 w3 : World} (h : KeepsRequests w1 w2) (h' : KeepsRequests w2 w3) :
    KeepsRequests w1 w3 :=
  ⟨h'.1.trans h.1, fun hrec hr => h'.2 (h.1.trans hrec) (h.2 hrec hr)⟩

theorem keepsRequests_settled {w1 : World} (same : w1.engine = w.engine) (shown : w1.view = w.view)
    (c : Channel) {q : ChannelState × Done} (hq : q.1.SameRequest (w.engine.channels.get c)) :
    KeepsRequests w (settled c q w1) :=
  ⟨(settled_recording c q w1).trans (congrArg View.recording shown),
    fun _ hr => hr.settled same shown c hq⟩

theorem keepsRequests_pumped {w1 : World} (same : w1.engine = w.engine) (shown : w1.view = w.view)
    (c : Channel) {p : ChannelState × Done} (hp : p.1.Coherent)
    (hq : p.1.SameRequest (w.engine.channels.get c)) : KeepsRequests w (pumped c p w1) :=
  ⟨(pumped_recording c p w1).trans (congrArg View.recording shown),
    fun hrec hr => hr.pumped hrec same shown c hp hq⟩

theorem Dispatched.keepsRequests {f : Frame} (h : Dispatched w f w') (he : w.engine.Coherent) :
    KeepsRequests w w' := by
  cases h with
  | dropped _ stored config shown =>
    exact ⟨congrArg View.recording shown,
      fun _ hr => hr.set stored config (World.accepted_eq_of_view shown) (sameRequest_of_head rfl)⟩
  | vanished _ _ same shown =>
    refine ⟨congrArg View.recording shown, fun _ hr c => ?_⟩
    rw [same, World.accepted_eq_of_view shown]
    exact hr c
  | answered p w1 hidx hcmd answered same shown =>
    obtain ⟨rfl, rest, hp, hf⟩ := (he _).answering_head hidx hcmd
    exact keepsRequests_pumped same shown _ ((he _).answer hp hf answered)
      (sameRequest_of_idle ((he _).answer_idle hp answered))

theorem TimedOut.keepsRequests {c : Channel} {handle generation : Nat}
    (h : TimedOut w c handle generation w') (he : w.engine.Coherent) : KeepsRequests w w' := by
  cases h with
  | stale _ => exact ⟨rfl, fun _ hr => hr⟩
  | expired p w1 _ hcmd _ hf expired same shown =>
    obtain ⟨rfl, rest, hp⟩ := (he c).front_of_inFlight hcmd hf
    exact keepsRequests_pumped same shown c ((he c).expiry hp hf expired)
      (sameRequest_of_idle ((he c).expiry_idle hp expired))

theorem Cancelled.keepsRequests {c : Channel} {handle : Nat} {answer : Bool}
    (h : Cancelled w c handle answer w') (he : w.engine.Coherent) : KeepsRequests w w' := by
  cases h with
  | ignored w1 _ same shown => exact keepsRequests_settled same shown c (sameRequest_of_head rfl)
  | dequeued w1 _ _ _ same shown =>
    exact keepsRequests_settled same shown c ((he c).sameRequest_eraseIdx (finishAt_pending ..))
  | abandoned w1 _ hcmd hrun same shown =>
    obtain ⟨rfl, rest, hp⟩ :=
      (he c).front_of_inFlight hcmd (by simp [hrun, CommandState.isInFlight])
    exact keepsRequests_settled same shown c (sameRequest_abandonAt _ hp hrun)

theorem Submitted.keepsRequests {c : Channel} {opcode : UInt16} {input : List UInt8}
    {owner : Owner} {r : Except EngineError Nat} (h : Submitted w c opcode input owner r w')
    (he : w.engine.Coherent) : KeepsRequests w w' := by
  cases h with
  | tooLarge _ => exact ⟨rfl, fun _ hr => hr⟩
  | disabled _ _ => exact ⟨rfl, fun _ hr => hr⟩
  | queued w1 _ on same shown =>
    exact keepsRequests_pumped same shown c ((he c).enqueue on opcode input owner w.now)
      (sameRequest_enqueue _ _ _ _ _)

theorem enable_keepsRequests (c : Channel) : KeepsRequests w ((enable c).run w).2 := by
  obtain ⟨stored, shown⟩ := enable_run c w
  refine ⟨congrArg View.recording shown, fun _ hr => ?_⟩
  split at stored
  · exact hr.set (congrArg EngineState.channels stored) (by rw [stored])
      (World.accepted_eq_of_view shown) (sameRequest_of_head rfl)
  · intro d
    rw [stored, World.accepted_eq_of_view shown]
    exact hr d

theorem disable_keepsRequests (c : Channel) (he : w.engine.Coherent) :
    KeepsRequests w ((disable c).run w).2 := by
  obtain ⟨w1, same, shown, settles⟩ := disable_run c w
  rw [settles]
  exact keepsRequests_settled same shown c ((he c).sameRequest_closing)

theorem shutdown_keepsRequests (he : w.engine.Coherent) : KeepsRequests w (shutdown.run w).2 :=
  (shutdown_induction (I := fun w => w.engine.Coherent) (fun _ => keepsRequests_of_same rfl rfl)
    KeepsRequests.trans (fun c _ he => ⟨disable_coherent c he, disable_keepsRequests c he⟩)
    (fun _ _ _ _ _ he => ⟨by rw [emit_engine]; exact he, keepsRequests_of_same (emit_engine ..) (emit_view ..)⟩)
    he).2

theorem Action.step_keepsRequests (a : Action) (he : w.engine.Coherent) :
    KeepsRequests w (a.step w) := by
  cases a with
  | enable c => rw [Action.step_enable]; exact enable_keepsRequests c
  | disable c => rw [Action.step_disable]; exact disable_keepsRequests c he
  | shutdown => rw [Action.step_shutdown]; exact shutdown_keepsRequests he
  | submit c opcode input owner =>
    rw [Action.step_submit]
    exact (submit_run c opcode input owner w).keepsRequests he
  | cancel c handle =>
    rw [Action.step_cancel]
    exact (cancel_run c handle w).keepsRequests he
  | receive bytes =>
    rw [Action.step_receive]
    rcases receive_run bytes w with ⟨_, _, stored, shown⟩ | ⟨_, _, dispatched⟩
    · refine ⟨congrArg View.recording shown, fun _ hr d => ?_⟩
      rw [stored, World.accepted_eq_of_view shown, (receive_frame bytes w).1]
      exact hr d
    · exact dispatched.keepsRequests he
  | attemptTimedOut c handle generation =>
    rw [Action.step_attemptTimedOut]
    exact (attemptTimedOut_run c handle generation w).keepsRequests he
  | backoffElapsed c =>
    rw [Action.step_backoffElapsed, backoffElapsed_run]
    exact keepsRequests_pumped rfl rfl c (he c).clearBackoff (sameRequest_of_head rfl)

end operations

theorem Run.requests {w : World} {acc : List (Channel × Nat × Owner)} (hw : Run w acc) :
    w.view.recording = true → Requests w := by
  induction hw with
  | start started =>
    intro _ c
    rw [start_engine started]
    exact Requested.of_idle (inFlight_nil _ (by cases c <;> rfl))
  | act a reached ih =>
    intro hrec
    obtain ⟨recording, requested⟩ := a.step_keepsRequests reached.reachable.coherent
    have hrec' := recording.symm.trans hrec
    exact requested hrec' (ih hrec')
  | outside _ engine accepted recording _ ih =>
    intro hrec c
    rw [engine, accepted]
    exact ih (recording.symm.trans hrec) c

/-- In every run on a link that records the frames it takes, while a channel's command is
running, the peer's answer to the last request of that channel the link took, with any
status and any payload of at most 65535 bytes, is built, and reads back at the engine as an
answer on the same channel (a counter stream answered as a counter acknowledgement) carrying
the channel's last sequence number, the command's opcode, and the given status and payload.
The engine takes it, and resolves the running command by that status. -/
theorem peer_answer_taken {w : World} {acc : List (Channel × Nat × Owner)} (hw : Run w acc)
    (recording : w.link.recording = true) {c : Channel} {cmd : Command}
    (hrun : (w.engine.channels.get c).running = some cmd.handle)
    (hmem : cmd ∈ (w.engine.channels.get c).pending) (hstate : cmd.state = .running)
    (status : UInt8) (payload : List UInt8) (fits : payload.length ≤ 65535) :
    let s := w.engine.channels.get c
    let addr := w.engine.config.addressing
    ∃ request, (c.sentIn w.accepted.toList).getLast? = some request ∧
      ∃ response, Wire.respond addr request ⟨status⟩ payload = .ok response ∧
      ∃ f, Wire.decode addr response = .ok f ∧ f.kind = Wire.answerKind c.txKind ∧ f.channel = c ∧
        f.seq = s.lastSeq ∧ f.opcode = cmd.opcode ∧ f.status = ⟨status⟩ ∧ f.payload = payload ∧
        w.engine.Takes response ∧
        ∃ p q, (s.stopAt 0).Answer w.engine.config.retryBudget 0 cmd f p ∧
          Pumping w.engine.config.retryBudget p q ∧
          ((receive response).run w).2.engine.channels = w.engine.channels.set c (q.1.delivered q.2.size) := by
  intro s addr
  have coherent := hw.reachable.coherent
  have hs : s.Coherent := coherent c
  obtain ⟨rest, hp, hf⟩ := hs.head_of_running hrun hmem
  have inFlight : s.inFlight = some cmd := by simp [inFlight_cons s hp, hf]
  obtain ⟨request, encoded, last⟩ := hw.requests recording c cmd inFlight
  have hseq : cmd.seq = s.lastSeq := (hs.inFlight_seq cmd inFlight).1
  obtain ⟨response, responded, decoded⟩ := Wire.respond_encode encoded ⟨status⟩ payload fits
  have routed : Frame.channel
      { kind := Wire.answerKind c.txKind, seq := cmd.seq, opcode := cmd.opcode,
        status := ⟨status⟩, payload := payload } = c := by
    simp [Frame.channel]
  have taken : w.engine.Takes response :=
    ⟨_, decoded, by rw [routed]; exact hs.enabled_of_cons hp, by rw [routed, hrun]; rfl,
      by rw [routed]; exact hseq⟩
  refine ⟨request, last, response, responded, _, decoded, rfl, routed, hseq, rfl, rfl, rfl, taken, ?_⟩
  rcases receive_resolves coherent response with ⟨untaken, -⟩ | ⟨f, hdec, -, head, tail, p, q, hp', -,
    answered, pumping, stored⟩
  · exact absurd taken untaken
  · rw [decoded, Except.ok.injEq] at hdec
    subst hdec
    rw [routed, hp, List.cons.injEq] at hp'
    obtain ⟨rfl, -⟩ := hp'
    rw [routed] at answered stored
    exact ⟨p, q, answered, pumping, stored⟩

theorem peer_answer_taken_after_submit :
    let w := (Action.submit .control 7 [1, 2] (.callback 1)).step ((Action.enable .control).step
      (World.initial EngineConfig.default (.recorder ⟨#[], [], true⟩) none ""))
    let cmd : Command :=
      { handle := 1, opcode := 7, input := [1, 2], state := .running, seq := 1, attempts := 0,
        generation := 1, started := 0, owner := some (.callback 1), timer := some 0 }
    (∃ acc, Run w acc) ∧ w.link.recording = true ∧
    (w.engine.channels.get .control).running = some cmd.handle ∧
    cmd ∈ (w.engine.channels.get .control).pending ∧ cmd.state = .running ∧
    ([] : List UInt8).length ≤ 65535 ∧
    let s := w.engine.channels.get .control
    let addr := w.engine.config.addressing
    ∃ request, (Channel.control.sentIn w.accepted.toList).getLast? = some request ∧
      ∃ response, Wire.respond addr request ⟨0⟩ [] = .ok response ∧
      ∃ f, Wire.decode addr response = .ok f ∧ f.kind = Wire.answerKind Channel.control.txKind ∧
        f.channel = .control ∧ f.seq = s.lastSeq ∧ f.opcode = cmd.opcode ∧ f.status = ⟨0⟩ ∧
        f.payload = [] ∧ w.engine.Takes response ∧
        ∃ p q, (s.stopAt 0).Answer w.engine.config.retryBudget 0 cmd f p ∧
          Pumping w.engine.config.retryBudget p q ∧
          ((receive response).run w).2.engine.channels =
            w.engine.channels.set .control (q.1.delivered q.2.size) :=
  have reached := Run.act _ (Run.act _ (Run.initial _ _ _ (by decide)))
  ⟨⟨_, reached⟩, rfl, by decide, by decide, rfl, by decide,
    peer_answer_taken reached rfl (by decide) (by decide) rfl 0 [] (by decide)⟩

end Engine

end FrameRpc
