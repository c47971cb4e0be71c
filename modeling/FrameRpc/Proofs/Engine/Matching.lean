import FrameRpc.Proofs.Engine.Safety
set_option autoImplicit false

/-!
Strict matching of answers.

A received frame touches the engine's channels only when it is an answer the dispatcher
takes: it decodes, and its channel is enabled, has a command in flight and last sent the
frame's sequence number. Any other frame leaves every channel as it was, but for the count
of dropped frames of the channel it names when it decodes. A frame that is taken resolves
the command in flight by its status alone (`Answer`), and the channel then sends again if
it can (`Pumping`); such a frame always changes its channel.
-/

namespace FrameRpc

namespace ChannelState

def withoutDrops (s : ChannelState) : ChannelState :=
  { s with counters := { s.counters with droppedFrames := 0 } }

@[simp] theorem countDrop_withoutDrops (s : ChannelState) :
    s.countDrop.withoutDrops = s.withoutDrops := rfl

theorem Attempt.length_le {budget : Nat} {s : ChannelState} {idx : Nat} {cmd : Command}
    {done : Engine.Done} {answer : Except TransmitError Unit} {q : ChannelState × Engine.Done}
    (h : s.Attempt budget idx cmd done answer q) :
    q.1.pending.length ≤ s.pending.length := by
  cases h with
  | sent => simp [launch, modifyAt]
  | gaveUp =>
    have := List.length_eraseIdx_le (s.modifyAt idx fun k => { k with attempts := cmd.attempts + 1 }).pending idx
    simpa [refusedFinal, modifyAt] using this
  | backedOff => simp [refusedRetry, modifyAt]

theorem Pumping.length_le {budget : Nat} {p q : ChannelState × Engine.Done}
    (h : Pumping budget p q) : q.1.pending.length ≤ p.1.pending.length := by
  induction h with
  | stop => exact Nat.le_refl _
  | attempt _ _ _ _ _ ha _ ih => exact Nat.le_trans ih ha.length_le

theorem Pumping.eq_of_backoff {budget : Nat} {p q : ChannelState × Engine.Done}
    (h : Pumping budget p q) (hb : p.1.backoff ≠ none) : q = p := by
  cases h with
  | stop => rfl
  | attempt _ _ clear => exact absurd clear hb

theorem Coherent.answer_changes {s : ChannelState} (hs : s.Coherent) {cmd : Command}
    {rest : List Command} (hp : s.pending = cmd :: rest) (hf : cmd.state.isInFlight = true)
    {budget : Nat} {f : Frame} {p q : ChannelState × Engine.Done}
    (ha : (s.stopAt 0).Answer budget 0 cmd f p) (hq : Pumping budget p q) (k : Nat) :
    (q.1.delivered k).withoutDrops ≠ s.withoutDrops := by
  intro same
  have kept : q.1.pending = s.pending := congrArg (·.pending) same
  have hb : s.backoff = none := (hs.inFlight_seq cmd (by simp [inFlight_cons s hp, hf])).2
  -- every case but the back-off removes the command, and pumping adds none back
  have shorter : p.1.pending.length < s.pending.length → False := fun hlt =>
    absurd (kept ▸ hq.length_le) (Nat.not_le.mpr hlt)
  cases ha with
  | backedOff b _ _ _ =>
    have armed := congrArg (·.backoff) same
    rw [hq.eq_of_backoff (by simp)] at armed
    simp [withoutDrops, ChannelState.delivered, hb] at armed
  | reaped _ => exact shorter (by simp [stopAt, modifyAt, hp])
  | gaveUp _ _ _ => exact shorter (by simp [failAt, spendAt, stopAt, modifyAt, hp])
  | completed _ _ => exact shorter (by simp [completeAt, stopAt, modifyAt, hp])
  | failed _ _ _ => exact shorter (by simp [failAt, stopAt, modifyAt, hp])

end ChannelState

/-- The engine takes `bytes` as an answer: they decode to a frame whose channel is enabled,
has a command in flight, and last sent the frame's sequence number. -/
def EngineState.Takes (e : EngineState) (bytes : List UInt8) : Prop :=
  ∃ f, Wire.decode e.config.addressing bytes = .ok f ∧ (e.channels.get f.channel).enabled = true ∧
    (e.channels.get f.channel).running.isSome = true ∧ f.seq = (e.channels.get f.channel).lastSeq

theorem EngineState.takes_iff (e : EngineState) (bytes : List UInt8) :
    e.Takes bytes ↔ ∃ f, Wire.decode e.config.addressing bytes = .ok f ∧
      (e.channels.get f.channel).rejection f.seq = none := by
  simp only [Takes, ChannelState.rejection_eq_none]

namespace Engine

open Sim ChannelState

theorem Dispatched.resolve {w w' : World} {f : Frame} (h : Dispatched w f w')
    (he : w.engine.Coherent) :
    ((w.engine.channels.get f.channel).rejection f.seq ≠ none ∧
        w'.engine.channels = w.engine.channels.set f.channel (w.engine.channels.get f.channel).countDrop) ∨
      ((w.engine.channels.get f.channel).rejection f.seq = none ∧
        ∃ cmd rest p q, (w.engine.channels.get f.channel).pending = cmd :: rest ∧
          (w.engine.channels.get f.channel).running = some cmd.handle ∧
          ((w.engine.channels.get f.channel).stopAt 0).Answer w.engine.config.retryBudget 0 cmd f p ∧
          Pumping w.engine.config.retryBudget p q ∧
          w'.engine.channels = w.engine.channels.set f.channel (q.1.delivered q.2.size)) := by
  have hs := he f.channel
  cases h with
  | dropped hidx stored _ _ =>
    refine .inl ⟨fun hrej => ?_, stored⟩
    rw [hs.answering_eq, if_pos hrej] at hidx
    cases hidx
  | vanished hidx hcmd _ _ =>
    -- a command is found only at the front of a channel that has one in flight
    rw [hs.answering_eq] at hidx
    split at hidx
    · next hrej =>
      cases hidx
      obtain ⟨cmd, rest, hp, -⟩ := hs.front_of_rejection hrej
      simp [hp] at hcmd
    · cases hidx
  | answered p w1 hidx hcmd answered same _ =>
    rw [hs.answering_eq] at hidx
    split at hidx
    · next hrej =>
      cases hidx
      obtain ⟨cmd, rest, hp, hrun, -⟩ := hs.front_of_rejection hrej
      rw [hp] at hcmd
      cases hcmd
      obtain ⟨q, pumping, stored⟩ := pumped_engine f.channel p w1
      rw [same] at pumping stored
      exact .inr ⟨hrej, _, rest, p, q, hp, hrun, answered, pumping, by rw [stored]⟩
    · cases hidx

theorem receive_resolves {w : World} (hw : w.engine.Coherent) (bytes : List UInt8) :
    (¬ w.engine.Takes bytes ∧
      ((receive bytes).run w).2.engine.channels =
        match Wire.decode w.engine.config.addressing bytes with
        | .ok f => w.engine.channels.set f.channel (w.engine.channels.get f.channel).countDrop
        | .error _ => w.engine.channels) ∨
    (∃ f, Wire.decode w.engine.config.addressing bytes = .ok f ∧
      (w.engine.channels.get f.channel).rejection f.seq = none ∧
      ∃ cmd rest p q, (w.engine.channels.get f.channel).pending = cmd :: rest ∧
        (w.engine.channels.get f.channel).running = some cmd.handle ∧
        ((w.engine.channels.get f.channel).stopAt 0).Answer w.engine.config.retryBudget 0 cmd f p ∧
        Pumping w.engine.config.retryBudget p q ∧
        ((receive bytes).run w).2.engine.channels =
          w.engine.channels.set f.channel (q.1.delivered q.2.size)) := by
  obtain ⟨err, hdec, same, -⟩ | ⟨f, hdec, dispatched⟩ := receive_run bytes w
  · refine .inl ⟨fun ⟨f, hf, _⟩ => ?_, by rw [same, hdec]⟩
    rw [hdec] at hf
    cases hf
  · rcases dispatched.resolve hw with ⟨hrej, stored⟩ | ⟨hrej, answered⟩
    · refine .inl ⟨fun taken => ?_, by rw [stored, hdec]⟩
      obtain ⟨f', hf', hrej'⟩ := (w.engine.takes_iff bytes).mp taken
      rw [hdec, Except.ok.injEq] at hf'
      subst hf'
      exact hrej hrej'
    · exact .inr ⟨f, hdec, hrej, answered⟩

/-- A received frame changes a channel beyond its count of dropped frames exactly when the
engine takes it as an answer. A frame it does not take changes no channel but for the
count of dropped frames of the channel it names, when it decodes. A frame it takes
resolves the command in flight on its channel by the frame's status alone (`Answer`), and
the channel then sends again if it can (`Pumping`). -/
theorem receive_matches_strictly {w : World} (hw : Reachable w) (bytes : List UInt8) :
    let e := w.engine
    let e' := ((receive bytes).run w).2.engine
    ((∃ c, (e'.channels.get c).withoutDrops ≠ (e.channels.get c).withoutDrops) ↔
      e.Takes bytes) ∧
    (¬ e.Takes bytes → e'.channels = match Wire.decode e.config.addressing bytes with
      | .ok f => e.channels.set f.channel (e.channels.get f.channel).countDrop
      | .error _ => e.channels) ∧
    (∀ f, Wire.decode e.config.addressing bytes = .ok f → e.Takes bytes →
      ∃ cmd rest p q, (e.channels.get f.channel).pending = cmd :: rest ∧
        (e.channels.get f.channel).running = some cmd.handle ∧
        ((e.channels.get f.channel).stopAt 0).Answer e.config.retryBudget 0 cmd f p ∧
        Pumping e.config.retryBudget p q ∧
        e'.channels = e.channels.set f.channel (q.1.delivered q.2.size)) := by
  dsimp only
  rcases receive_resolves hw.coherent bytes with
    ⟨untaken, stored⟩ | ⟨f, hdec, hrej, cmd, rest, p, q, hp, hrun, answered, pumped, stored⟩
  · refine ⟨⟨fun ⟨c, changed⟩ => ?_, fun taken => absurd taken untaken⟩, fun _ => stored,
      fun _ _ taken => absurd taken untaken⟩
    refine absurd ?_ changed
    rw [stored]
    split
    · next f _ =>
      by_cases hc : c = f.channel
      · subst hc
        simp
      · simp [hc]
    · rfl
  · have taken : w.engine.Takes bytes := (w.engine.takes_iff bytes).mpr ⟨f, hdec, hrej⟩
    refine ⟨⟨fun _ => taken, fun _ => ⟨f.channel, ?_⟩⟩, fun untaken => absurd taken untaken,
      fun f' hf' _ => ?_⟩
    · have hs := hw.coherent f.channel
      obtain ⟨head, tail, hp', -, hf⟩ := hs.front_of_rejection hrej
      rw [hp, List.cons.injEq] at hp'
      obtain ⟨rfl, -⟩ := hp'
      rw [stored, PerChannel.get_set_self]
      exact hs.answer_changes hp hf answered pumped _
    · rw [hdec, Except.ok.injEq] at hf'
      subst hf'
      exact ⟨cmd, rest, p, q, hp, hrun, answered, pumped, stored⟩

theorem receive_matches_strictly_after_submit :
    let w := (Action.submit .control 7 [1, 2] (.callback 1)).step ((Action.enable .control).step
      (World.initial EngineConfig.default (.recorder ⟨#[], [], true⟩) none ""))
    let bytes : List UInt8 := [0x02, 0, 0, 0, 0, 0x02]
    Reachable w ∧
    let e := w.engine
    let e' := ((receive bytes).run w).2.engine
    ((∃ c, (e'.channels.get c).withoutDrops ≠ (e.channels.get c).withoutDrops) ↔
      e.Takes bytes) ∧
    (¬ e.Takes bytes → e'.channels = match Wire.decode e.config.addressing bytes with
      | .ok f => e.channels.set f.channel (e.channels.get f.channel).countDrop
      | .error _ => e.channels) ∧
    (∀ f, Wire.decode e.config.addressing bytes = .ok f → e.Takes bytes →
      ∃ cmd rest p q, (e.channels.get f.channel).pending = cmd :: rest ∧
        (e.channels.get f.channel).running = some cmd.handle ∧
        ((e.channels.get f.channel).stopAt 0).Answer e.config.retryBudget 0 cmd f p ∧
        Pumping e.config.retryBudget p q ∧
        e'.channels = e.channels.set f.channel (q.1.delivered q.2.size)) :=
  have reached := Reachable.act _ (Reachable.act _ (Reachable.initial _ _ _ (by decide)))
  ⟨reached, receive_matches_strictly reached _⟩

end Engine

end FrameRpc
