import FrameRpc.Proofs.Engine.History
set_option autoImplicit false

/-!
Requests always encode.

A command is accepted only when its request fits the payload ceiling, and valid settings
keep that ceiling within what the extended command header can describe. Nothing the engine
does to a command changes its request (`ChannelState.Fits` is kept by every move), so every
request it ever hands to `transmit` encodes: the failure branch of `transmit` is never
taken, every send attempt reaches the link with the encoded frame, and a send that fails
fails because the link refused it.

Main statement: `requests_always_encode`.
-/

namespace FrameRpc.Engine

open Sim ChannelState

theorem emit_only_records (l : Log.Level) (t m : String) (fs : List (String × Log.FieldValue))
    (w : World) :
    ((emit l t m fs).run w).2 = { w with records := ((emit l t m fs).run w).2.records } := by
  simp only [emit, emitWith, run_modify]
  split
  · split <;> rfl
  · rfl

theorem transmit_of_encode {c : Channel} {cmd : Command} {seq : UInt16} {w : World}
    {frame : List UInt8}
    (h : Wire.encode w.engine.config.addressing c.txKind seq cmd.opcode Status.ok cmd.input = .ok frame) :
    ∃ w1 : World, w1 = { w with records := w1.records } ∧
      (transmit c cmd seq).run w = (linkSend frame).run w1 := by
  simp only [transmit, run_bind, config_run, h]
  by_cases trace : w.engine.config.traceFrames = true
  · simp only [trace, ↓reduceIte, run_bind]
    exact ⟨_, emit_only_records .., rfl⟩
  · simp only [trace, Bool.false_eq_true, ↓reduceIte]
    exact ⟨w, rfl, rfl⟩

theorem encode_of_fits {cfg : EngineConfig} (valid : cfg.validate = none) (c : Channel)
    (seq opcode : UInt16) {input : List UInt8} (hi : input.length ≤ cfg.maxPayload) :
    ∃ frame, Wire.encode cfg.addressing c.txKind seq opcode Status.ok input = .ok frame :=
  ⟨_, Wire.encode_of_le _ _ _ _ _ _ (Nat.le_trans hi (EngineConfig.maxPayload_le_of_valid valid))⟩

theorem Reachable.fits {w : World} (hw : Reachable w) (c : Channel) :
    w.engine.config.validate = none ∧ (w.engine.channels.get c).Fits w.engine.config.maxPayload := by
  obtain ⟨evs, history⟩ := hw.chronicle
  exact ⟨history.valid, history.fits c⟩

/-- Every request a reachable engine keeps fits its payload ceiling, which fits a frame.
Pumping any channel state whose requests fit (the stored ones, and every state an operation
derives from them) makes only attempts whose request is encoded and handed to the link; and
handing a request that fits to the link is the link's send of its encoded frame, so a send
fails only when the link refuses it. -/
theorem requests_always_encode {w : World} (hw : Reachable w) (c : Channel) :
    w.engine.config.maxPayload ≤ Wire.maxPayload ∧
    (∀ cmd ∈ (w.engine.channels.get c).pending, cmd.input.length ≤ w.engine.config.maxPayload) ∧
    (∀ (p : ChannelState × Done) (w' : World), w'.engine = w.engine →
      p.1.Fits w.engine.config.maxPayload →
      ∃ new, Serving w.engine.config c p new ((pump c p.1 p.2).run w').1) ∧
    ∀ (cmd : Command) (seq : UInt16) (w' : World), w'.engine.config = w.engine.config →
      cmd.input.length ≤ w.engine.config.maxPayload →
      ∃ frame w1, Wire.encode w.engine.config.addressing c.txKind seq cmd.opcode Status.ok cmd.input =
          .ok frame ∧ w1 = { w' with records := w1.records } ∧
        (transmit c cmd seq).run w' = (linkSend frame).run w1 := by
  obtain ⟨valid, fits⟩ := hw.fits c
  have small := EngineConfig.maxPayload_le_of_valid valid
  refine ⟨small, fits, ?_, ?_⟩
  · intro p w' same hp
    rw [← same] at hp small ⊢
    exact pump_serving c p w' hp small
  · intro cmd seq w' same hi
    obtain ⟨frame, encoded⟩ := encode_of_fits valid c seq cmd.opcode hi
    rw [← same] at encoded
    obtain ⟨w1, only, sent⟩ := transmit_of_encode encoded
    exact ⟨frame, w1, same ▸ encoded, only, sent⟩

theorem requests_always_encode_after_submit :
    Reachable ((Action.submit .control 7 [1, 2] (.callback 1)).step ((Action.enable .control).step
      (World.initial EngineConfig.default (.recorder ⟨#[], [], true⟩) none ""))) ∧
    let w := (Action.submit .control 7 [1, 2] (.callback 1)).step ((Action.enable .control).step
      (World.initial EngineConfig.default (.recorder ⟨#[], [], true⟩) none ""))
    w.engine.config.maxPayload ≤ Wire.maxPayload ∧
    (∀ cmd ∈ (w.engine.channels.get .control).pending, cmd.input.length ≤ w.engine.config.maxPayload) ∧
    (∀ (p : ChannelState × Done) (w' : World), w'.engine = w.engine →
      p.1.Fits w.engine.config.maxPayload →
      ∃ new, Serving w.engine.config .control p new ((pump .control p.1 p.2).run w').1) ∧
    ∀ (cmd : Command) (seq : UInt16) (w' : World), w'.engine.config = w.engine.config →
      cmd.input.length ≤ w.engine.config.maxPayload →
      ∃ frame w1, Wire.encode w.engine.config.addressing Channel.control.txKind seq cmd.opcode
          Status.ok cmd.input = .ok frame ∧ w1 = { w' with records := w1.records } ∧
        (transmit .control cmd seq).run w' = (linkSend frame).run w1 :=
  have reached := Reachable.act _ (Reachable.act _ (Reachable.initial _ _ _ (by decide)))
  ⟨reached, requests_always_encode reached .control⟩

end FrameRpc.Engine
