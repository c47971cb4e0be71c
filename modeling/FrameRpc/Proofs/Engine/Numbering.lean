import FrameRpc.Proofs.Engine.Operations
import FrameRpc.Proofs.Engine.Reachable
import FrameRpc.Proofs.Wire.Header
set_option autoImplicit false

/-!
Sequence numbers.

A channel numbers its requests from one, wrapping at 2^16, and a request uses a number
only when the link takes it. The frames of a channel are those of its kind among the
frames the link took; `Numbered` ties the channel's last number and its count of sends to
them. A send attempt keeps the tie: a frame the link takes is encoded with the next
number, which the attempt then commits, and a refused one commits nothing. Every other
change an operation makes to a channel leaves both numbers alone (`SameSends`).
-/

namespace FrameRpc

def Channel.sentIn (c : Channel) (frames : List (List UInt8)) : List (List UInt8) :=
  frames.filter fun frame => Wire.kindOf frame == c.txKind.code

section sentIn

variable {c : Channel} (frames : List (List UInt8)) {frame : List UInt8}

theorem Channel.sentIn_push_own (h : Wire.kindOf frame = c.txKind.code) :
    c.sentIn (frames ++ [frame]) = c.sentIn frames ++ [frame] := by
  simp [sentIn, List.filter_append, h]

theorem Channel.sentIn_push_other {d : Channel} (hd : d ≠ c) (h : Wire.kindOf frame = c.txKind.code) :
    d.sentIn (frames ++ [frame]) = d.sentIn frames := by
  have other : (Wire.kindOf frame == d.txKind.code) = false := by
    rw [h]
    simpa using fun same => hd (Channel.txKind_code_inj same).symm
  simp [sentIn, List.filter_append, other]

end sentIn

namespace ChannelState

/-- The channel has numbered the frames `sent` it put on the link: the `i`-th carries the
number `i + 1`, the last number used is the number of frames, and so is the count of
sends. -/
structure Numbered (s : ChannelState) (sent : List (List UInt8)) : Prop where
  seqs : ∀ i (hi : i < sent.length), Wire.seqOf sent[i] = UInt16.ofNat (i + 1)
  last : s.lastSeq = UInt16.ofNat sent.length
  count : s.counters.sent = sent.length

def SameSends (t s : ChannelState) : Prop :=
  t.lastSeq = s.lastSeq ∧ t.counters.sent = s.counters.sent

theorem SameSends.trans {r s t : ChannelState} (h : r.SameSends s) (h' : s.SameSends t) :
    r.SameSends t :=
  ⟨h.1.trans h'.1, h.2.trans h'.2⟩

variable {s t : ChannelState} {sent : List (List UInt8)}

theorem Numbered.congr (h : s.Numbered sent) (e : t.SameSends s) : t.Numbered sent :=
  ⟨h.seqs, e.1.trans h.last, e.2.trans h.count⟩

theorem numbered_initial : initial.Numbered [] :=
  ⟨fun _ hi => absurd hi (Nat.not_lt_zero _), rfl, rfl⟩

theorem Numbered.lastSeq_eq_last (h : s.Numbered sent) :
    s.lastSeq = (sent.getLast?.map Wire.seqOf).getD 0 := by
  rw [h.last]
  rcases sent.eq_nil_or_concat with rfl | ⟨init, last, rfl⟩
  · rfl
  · have carried := h.seqs init.length (by simp)
    simp at carried
    simp [carried]

theorem Numbered.launch (h : s.Numbered sent) {frame : List UInt8}
    (hf : Wire.seqOf frame = s.lastSeq + 1) (idx : Nat) (cmd : Command) (timer : Nat) :
    (s.launch idx cmd (s.lastSeq + 1) timer).Numbered (sent ++ [frame]) where
  seqs i hi := by
    rw [List.length_append, List.length_singleton] at hi
    rcases Nat.lt_succ_iff_lt_or_eq.mp hi with hi | rfl
    · rw [List.getElem_append_left hi]
      exact h.seqs i hi
    · rw [List.getElem_append_right (Nat.le_refl _)]
      simp [hf, h.last, UInt16.ofNat_add]
  last := by simp [ChannelState.launch, h.last, UInt16.ofNat_add]
  count := by simp [ChannelState.launch, modifyAt, h.count]

section sameSends

variable (s : ChannelState) (idx : Nat) (cmd : Command)

theorem sameSends_finishAt (r : Outcome) (done : Engine.Done) :
    (s.finishAt idx r done).1.SameSends s := by
  rw [finishAt_fst]
  simp [SameSends]

theorem sameSends_drain (fuel : Nat) (done : Engine.Done) : (s.drain fuel done).1.SameSends s := by
  induction fuel generalizing s done with
  | zero => exact ⟨rfl, rfl⟩
  | succ fuel ih =>
    cases hp : s.pending with
    | nil => simp only [drain, hp]; exact ⟨rfl, rfl⟩
    | cons head rest =>
      simp only [drain, hp]
      split
      · exact (ih _ _).trans (by simp [SameSends])
      · exact (ih _ _).trans ((sameSends_finishAt _ _ _ _).trans ⟨rfl, rfl⟩)

theorem sameSends_closing : s.closing.1.SameSends s := by
  unfold closing
  split
  · exact (sameSends_drain _ _ _).trans ⟨rfl, rfl⟩
  · exact ⟨rfl, rfl⟩

theorem sameSends_abandonAt : (s.abandonAt idx cmd).1.SameSends s := by
  rw [abandonAt_fst]
  simp [SameSends, countCancel, modifyAt]

theorem sameSends_enqueue (opcode : UInt16) (input : List UInt8) (owner : Owner) (started : Nat) :
    (s.enqueue opcode input owner started).SameSends s :=
  ⟨rfl, rfl⟩

theorem sameSends_stopAt : (s.stopAt idx).SameSends s := by
  simp [SameSends, stopAt, modifyAt]

end sameSends

theorem Answer.sameSends {s : ChannelState} {idx : Nat} {cmd : Command} {budget : Nat} {f : Frame}
    {p : ChannelState × Engine.Done} (h : s.Answer budget idx cmd f p) : p.1.SameSends s := by
  cases h with
  | reaped => simp [SameSends]
  | gaveUp => exact (sameSends_finishAt _ _ _ _).trans (by simp [SameSends, spendAt, modifyAt])
  | backedOff => simp [SameSends, requeueAt, spendAt, modifyAt]
  | completed | failed => exact (sameSends_finishAt _ _ _ _).trans ⟨rfl, rfl⟩

theorem Expiry.sameSends {s : ChannelState} {idx : Nat} {cmd : Command} {budget : Nat}
    {p : ChannelState × Engine.Done} (h : s.Expiry budget idx cmd p) : p.1.SameSends s := by
  cases h with
  | reaped => simp [SameSends]
  | timedOut =>
    exact (sameSends_finishAt _ _ _ _).trans (by simp [SameSends, timeoutAt, spendAt, modifyAt])
  | retried => simp [SameSends, requeueAt, timeoutAt, spendAt, modifyAt]

end ChannelState

namespace Engine

open Sim ChannelState

section attempts

variable {c : Channel} {s : ChannelState} {done : Done} {w : World}

theorem sendAttempt_numbered {idx : Nat} {cmd : Command} (hcmd : s.pending[idx]? = some cmd)
    (hrec : w.view.recording = true) (hn : s.Numbered (c.sentIn w.accepted.toList)) :
    ((sendAttempt c s idx done).run w).1.1.Numbered
        (c.sentIn ((sendAttempt c s idx done).run w).2.accepted.toList) ∧
      ∀ d, d ≠ c → d.sentIn ((sendAttempt c s idx done).run w).2.accepted.toList =
        d.sentIn w.accepted.toList := by
  obtain ⟨attempt, -, shown⟩ := sendAttempt_run s idx done w c hcmd
  rw [World.accepted_eq_of_view shown]
  generalize ((sendAttempt c s idx done).run w).1 = q at attempt ⊢
  rcases transmit_view c cmd (s.lastSeq + 1) w with
    ⟨frame, encoded, sent, -, taken⟩ | ⟨unrecorded, same⟩
  · -- the link took the request, and the attempt committed its number
    rw [show ((transmit c cmd (s.lastSeq + 1)).run w).2.accepted = w.accepted.push frame from
      congrArg View.accepted taken, Array.toList_push]
    rw [sent] at attempt
    obtain ⟨kind, seq⟩ := Wire.encode_header encoded
    cases attempt with
    | sent timer =>
      refine ⟨?_, fun d hd => Channel.sentIn_push_other _ hd kind⟩
      rw [Channel.sentIn_push_own _ kind]
      exact hn.launch seq idx cmd timer
  · -- the link refused the request, and no number was used
    rw [World.accepted_eq_of_view same]
    refine ⟨hn.congr ?_, fun _ _ => rfl⟩
    generalize ((transmit c cmd (s.lastSeq + 1)).run w).1 = answer at attempt unrecorded
    cases attempt with
    | sent => exact absurd ((unrecorded rfl).symm.trans hrec) Bool.false_ne_true
    | gaveUp =>
      unfold refusedFinal
      exact (sameSends_finishAt _ _ _ _).trans (by simp [SameSends, modifyAt])
    | backedOff => simp [SameSends, refusedRetry, modifyAt]

theorem pump_numbered (hrec : w.view.recording = true) (hn : s.Numbered (c.sentIn w.accepted.toList)) :
    ((pump c s done).run w).1.1.Numbered (c.sentIn ((pump c s done).run w).2.accepted.toList) ∧
      ∀ d, d ≠ c → d.sentIn ((pump c s done).run w).2.accepted.toList = d.sentIn w.accepted.toList := by
  refine (pumpWith_induction c (fun p w' => w'.view.recording = true ∧
      p.1.Numbered (c.sentIn w'.accepted.toList) ∧
      ∀ d, d ≠ c → d.sentIn w'.accepted.toList = d.sentIn w.accepted.toList) ?_ _ s done w
      ⟨hrec, hn, fun _ _ => rfl⟩).2
  intro s' done' w' _ _ _ _ _ _ hcmd ⟨hrec', hn', others⟩
  obtain ⟨numbered, others'⟩ := sendAttempt_numbered hcmd hrec' hn'
  exact ⟨(sendAttempt_view s' _ done' w' c).2.trans hrec', numbered,
    fun d hd => (others' d hd).trans (others d hd)⟩

end attempts

@[simp] theorem settled_accepted (c : Channel) (q : ChannelState × Done) (w : World) :
    (settled c q w).accepted = w.accepted := by
  obtain ⟨evs, shown⟩ := settle_reports c q.1 q.2 w
  show (settled c q w).view.accepted = w.view.accepted
  rw [settled, shown]
  rfl

@[simp] theorem settled_recording (c : Channel) (q : ChannelState × Done) (w : World) :
    (settled c q w).view.recording = w.view.recording := by
  obtain ⟨evs, shown⟩ := settle_reports c q.1 q.2 w
  rw [settled, shown]
  rfl

theorem pumped_recording (c : Channel) (p : ChannelState × Done) (w : World) :
    (pumped c p w).view.recording = w.view.recording := by
  rw [pumped, settled_recording]
  exact (pump_view p.1 p.2 w c).2

def Numbering (w : World) : Prop :=
  ∀ c, (w.engine.channels.get c).Numbered (c.sentIn w.accepted.toList)

section numbering

variable {w w' : World}

theorem Numbering.same (hn : Numbering w) (channels : w'.engine.channels = w.engine.channels)
    (accepted : w'.accepted = w.accepted) : Numbering w' := by
  intro d
  rw [channels, accepted]
  exact hn d

theorem Numbering.set (hn : Numbering w) {c : Channel} {t : ChannelState}
    (stored : w'.engine.channels = w.engine.channels.set c t) (accepted : w'.accepted = w.accepted)
    (ht : t.SameSends (w.engine.channels.get c)) : Numbering w' := by
  intro d
  rw [stored, accepted]
  by_cases hd : d = c
  · subst hd
    rw [PerChannel.get_set_self]
    exact (hn d).congr ht
  · rw [PerChannel.get_set_other _ _ _ _ hd]
    exact hn d

theorem Numbering.settled (hn : Numbering w) {w1 : World} (same : w1.engine = w.engine)
    (shown : w1.view = w.view) (c : Channel) {q : ChannelState × Done}
    (hq : q.1.SameSends (w.engine.channels.get c)) : Numbering (settled c q w1) :=
  hn.set (by rw [settled_engine, same]) ((settled_accepted c q w1).trans (World.accepted_eq_of_view shown))
    ((show (q.1.delivered q.2.size).SameSends q.1 from ⟨rfl, rfl⟩).trans hq)

theorem Numbering.pumped (hn : Numbering w) (hrec : w.view.recording = true) {w1 : World}
    (same : w1.engine = w.engine) (shown : w1.view = w.view) (c : Channel)
    {p : ChannelState × Done} (hp : p.1.SameSends (w.engine.channels.get c)) :
    Numbering (pumped c p w1) := by
  have hn1 : p.1.Numbered (c.sentIn w1.accepted.toList) := by
    rw [World.accepted_eq_of_view shown]
    exact (hn c).congr hp
  obtain ⟨numbered, others⟩ :=
    @pump_numbered c p.1 p.2 w1 ((congrArg View.recording shown).trans hrec) hn1
  intro d
  rw [Engine.pumped, settled_engine, settled_accepted, pump_engine, same]
  by_cases hd : d = c
  · subst hd
    rw [PerChannel.get_set_self]
    exact numbered.congr ⟨rfl, rfl⟩
  · rw [PerChannel.get_set_other _ _ _ _ hd, others d hd,
      World.accepted_eq_of_view shown]
    exact hn d

end numbering

section operations

variable {w w' : World}

/-- What an operation does to the numbering: the link keeps its kind, and on a recording
link every channel stays numbered. -/
def KeepsNumbering (w w' : World) : Prop :=
  w'.view.recording = w.view.recording ∧ (w.view.recording = true → Numbering w → Numbering w')

theorem keepsNumbering_of_same (same : w'.engine = w.engine) (shown : w'.view = w.view) :
    KeepsNumbering w w' :=
  ⟨congrArg View.recording shown, fun _ hn =>
    hn.same (congrArg EngineState.channels same) (World.accepted_eq_of_view shown)⟩

theorem KeepsNumbering.trans {w1 w2 w3 : World} (h : KeepsNumbering w1 w2) (h' : KeepsNumbering w2 w3) :
    KeepsNumbering w1 w3 :=
  ⟨h'.1.trans h.1, fun hrec hn => h'.2 (h.1.trans hrec) (h.2 hrec hn)⟩

theorem keepsNumbering_settled {w1 : World} (same : w1.engine = w.engine) (shown : w1.view = w.view)
    (c : Channel) {q : ChannelState × Done} (hq : q.1.SameSends (w.engine.channels.get c)) :
    KeepsNumbering w (settled c q w1) :=
  ⟨(settled_recording c q w1).trans (congrArg View.recording shown),
    fun _ hn => hn.settled same shown c hq⟩

theorem keepsNumbering_pumped {w1 : World} (same : w1.engine = w.engine) (shown : w1.view = w.view)
    (c : Channel) {p : ChannelState × Done} (hp : p.1.SameSends (w.engine.channels.get c)) :
    KeepsNumbering w (pumped c p w1) :=
  ⟨(pumped_recording c p w1).trans (congrArg View.recording shown),
    fun hrec hn => hn.pumped hrec same shown c hp⟩

theorem Dispatched.keepsNumbering {f : Frame} (h : Dispatched w f w') : KeepsNumbering w w' := by
  cases h with
  | dropped _ stored _ shown =>
    exact ⟨congrArg View.recording shown,
      fun _ hn => hn.set stored (World.accepted_eq_of_view shown) ⟨rfl, rfl⟩⟩
  | vanished _ _ same shown =>
    exact ⟨congrArg View.recording shown,
      fun _ hn => hn.same (congrArg EngineState.channels same) (World.accepted_eq_of_view shown)⟩
  | answered p w1 _ _ answered same shown =>
    exact keepsNumbering_pumped same shown _ (answered.sameSends.trans (sameSends_stopAt _ _))

theorem TimedOut.keepsNumbering {c : Channel} {handle generation : Nat}
    (h : TimedOut w c handle generation w') : KeepsNumbering w w' := by
  cases h with
  | stale _ => exact ⟨rfl, fun _ hn => hn⟩
  | expired p w1 _ _ _ _ expired same shown =>
    exact keepsNumbering_pumped same shown c (expired.sameSends.trans (sameSends_stopAt _ _))

theorem Cancelled.keepsNumbering {c : Channel} {handle : Nat} {answer : Bool}
    (h : Cancelled w c handle answer w') : KeepsNumbering w w' := by
  cases h with
  | ignored w1 _ same shown => exact keepsNumbering_settled same shown c ⟨rfl, rfl⟩
  | dequeued w1 _ _ _ same shown =>
    exact keepsNumbering_settled same shown c ((sameSends_finishAt _ _ _ _).trans ⟨rfl, rfl⟩)
  | abandoned w1 _ _ _ same shown => exact keepsNumbering_settled same shown c (sameSends_abandonAt _ _ _)

theorem Submitted.keepsNumbering {c : Channel} {opcode : UInt16} {input : List UInt8}
    {owner : Owner} {r : Except EngineError Nat} (h : Submitted w c opcode input owner r w') :
    KeepsNumbering w w' := by
  cases h with
  | tooLarge _ => exact ⟨rfl, fun _ hn => hn⟩
  | disabled _ _ => exact ⟨rfl, fun _ hn => hn⟩
  | queued w1 _ _ same shown => exact keepsNumbering_pumped same shown c (sameSends_enqueue _ _ _ _ _)

theorem enable_keepsNumbering (c : Channel) : KeepsNumbering w ((enable c).run w).2 := by
  obtain ⟨stored, shown⟩ := enable_run c w
  refine ⟨congrArg View.recording shown, fun _ hn => ?_⟩
  split at stored
  · exact hn.set (congrArg EngineState.channels stored) (World.accepted_eq_of_view shown) ⟨rfl, rfl⟩
  · exact hn.same (congrArg EngineState.channels stored) (World.accepted_eq_of_view shown)

theorem disable_keepsNumbering (c : Channel) : KeepsNumbering w ((disable c).run w).2 := by
  obtain ⟨w1, same, shown, settles⟩ := disable_run c w
  rw [settles]
  exact keepsNumbering_settled same shown c (sameSends_closing _)

theorem shutdown_keepsNumbering : KeepsNumbering w (shutdown.run w).2 :=
  shutdown_relates (fun _ => keepsNumbering_of_same rfl rfl) KeepsNumbering.trans
    (fun c _ => disable_keepsNumbering c) (fun _ _ _ _ _ => keepsNumbering_of_same (emit_engine ..) (emit_view ..)) w

theorem Action.step_keepsNumbering (a : Action) (w : World) : KeepsNumbering w (a.step w) := by
  cases a with
  | enable c => rw [Action.step_enable]; exact enable_keepsNumbering c
  | disable c => rw [Action.step_disable]; exact disable_keepsNumbering c
  | shutdown => rw [Action.step_shutdown]; exact shutdown_keepsNumbering
  | submit c opcode input owner =>
    rw [Action.step_submit]
    exact (submit_run c opcode input owner w).keepsNumbering
  | cancel c handle =>
    rw [Action.step_cancel]
    exact (cancel_run c handle w).keepsNumbering
  | receive bytes =>
    rw [Action.step_receive]
    rcases receive_run bytes w with ⟨_, _, stored, shown⟩ | ⟨_, _, dispatched⟩
    · exact ⟨congrArg View.recording shown, fun _ hn => hn.same stored (World.accepted_eq_of_view shown)⟩
    · exact dispatched.keepsNumbering
  | attemptTimedOut c handle generation =>
    rw [Action.step_attemptTimedOut]
    exact (attemptTimedOut_run c handle generation w).keepsNumbering
  | backoffElapsed c =>
    rw [Action.step_backoffElapsed, backoffElapsed_run]
    exact keepsNumbering_pumped rfl rfl c ⟨rfl, rfl⟩

end operations

theorem Run.numbering {w : World} {acc : List (Channel × Nat × Owner)} (hw : Run w acc) :
    w.view.recording = true → Numbering w := by
  induction hw with
  | @start config link filter program w0 started =>
    intro _ c
    rw [start_engine started, show w0.accepted = #[] from congrArg View.accepted (start_view started)]
    cases c <;> exact numbered_initial
  | act a _ ih =>
    intro hrec
    obtain ⟨recording, numbered⟩ := a.step_keepsNumbering _
    have hrec' := recording.symm.trans hrec
    exact numbered hrec' (ih hrec')
  | outside _ engine accepted recording _ ih =>
    intro hrec
    exact (ih (recording.symm.trans hrec)).same (congrArg EngineState.channels engine) accepted

/-- In every run on a link that records the frames it takes, the frames of each channel's
kind carry the numbers one, two, three and on, wrapping at 2^16, across any number of
times the channel is disabled and enabled again; a send the link refuses uses no number.
The channel's last number is the one its last frame carries, zero before any, and its count
of sends is the number of its frames. -/
theorem sequence_numbers {w : World} {acc : List (Channel × Nat × Owner)} (hw : Run w acc)
    (recording : w.link.recording = true) (c : Channel) :
    let sent := c.sentIn w.accepted.toList
    (∀ i (hi : i < sent.length), Wire.seqOf sent[i] = UInt16.ofNat (i + 1)) ∧
    (w.engine.channels.get c).lastSeq = (sent.getLast?.map Wire.seqOf).getD 0 ∧
    (w.engine.channels.get c).counters.sent = sent.length := by
  intro sent
  have numbered := hw.numbering recording c
  exact ⟨numbered.seqs, numbered.lastSeq_eq_last, numbered.count⟩

theorem sequence_numbers_after_refusal :
    let w := (Action.backoffElapsed .control).step ((Action.submit .control 7 [1, 2] (.callback 1)).step
      ((Action.enable .control).step
        (World.initial EngineConfig.default (.recorder ⟨#[], [.busy], true⟩) none "")))
    (∃ acc, Run w acc) ∧ w.link.recording = true ∧
    let sent := Channel.control.sentIn w.accepted.toList
    (∀ i (hi : i < sent.length), Wire.seqOf sent[i] = UInt16.ofNat (i + 1)) ∧
    (w.engine.channels.get .control).lastSeq = (sent.getLast?.map Wire.seqOf).getD 0 ∧
    (w.engine.channels.get .control).counters.sent = sent.length :=
  have reached := Run.act _ (Run.act _ (Run.act _ (Run.initial _ _ _ (by decide))))
  ⟨⟨_, reached⟩, rfl, sequence_numbers reached rfl .control⟩

end Engine

end FrameRpc
