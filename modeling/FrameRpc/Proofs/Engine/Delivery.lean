import FrameRpc.Proofs.Engine.Completion
import FrameRpc.Proofs.Sim.Slots
set_option autoImplicit false

/-!
What a step of the engine delivers.

The engine writes the slots that calls wait in only by delivering the outcomes it has
collected. `Delivered w W told added` says that `W` is `w` with the outcomes `told`
delivered in order: every slot holds the last outcome told to it, and every owner is held
by as many unfinished commands, or told as many outcomes, as it was held by before, plus
the accepted submissions whose owners are `added`. Each operation stores one channel from
collected outcomes that keep what the channel owed (`Settles`), so the accounting of the
claims carries over to the slots, and every action of the engine delivers in this way
(`Action.step_delivered`).
-/

namespace FrameRpc

namespace Sim

theorem World.slotOutcome_of_slots {w w' : World} (h : w'.slots = w.slots) (n : Nat) :
    w'.slotOutcome n = w.slotOutcome n := by
  rw [World.slotOutcome, World.slotOutcome, h]

end Sim

namespace Engine

open Sim ChannelState

/-- `W` is `w` with the outcomes `told` delivered in order: no slot is made or lost, each
holds the last outcome told to it, and every owner is held or told as often as before,
plus once for each accepted submission of owner in `added`. -/
structure Delivered (w W : World) (told : List (Owner × Outcome)) (added : List Owner) : Prop where
  size : W.slots.size = w.slots.size
  outcome : ∀ n < w.slots.size, W.slotOutcome n = outcomeAfter n told (w.slotOutcome n)
  held : ∀ o, heldBy W.engine.channels o + told.countP (·.1 == o) =
    heldBy w.engine.channels o + added.count o

namespace Delivered

variable {w w1 w2 : World} {t t' : List (Owner × Outcome)} {a : List Owner}

theorem of_same (slots : w1.slots = w.slots)
    (held : ∀ o, heldBy w1.engine.channels o = heldBy w.engine.channels o) : Delivered w w1 [] [] :=
  ⟨by rw [slots], fun n _ => World.slotOutcome_of_slots slots n, fun o => by simp [held o]⟩

theorem trans (h : Delivered w w1 t a) (h' : Delivered w1 w2 t' []) : Delivered w w2 (t ++ t') a where
  size := h'.size.trans h.size
  outcome n hn := by rw [h'.outcome n (h.size ▸ hn), h.outcome n hn, outcomeAfter_append]
  held o := by
    have before := h.held o
    have after := h'.held o
    rw [List.countP_append]
    simp only [List.count_nil, Nat.add_zero] at after
    omega

theorem keep (h : Delivered w w1 t a) (slots : w2.slots = w1.slots)
    (same : w2.engine.channels = w1.engine.channels) : Delivered w w2 t a := by
  simpa using h.trans (.of_same slots fun o => by rw [same])

end Delivered

theorem heldBy_store {ch : PerChannel ChannelState} {c : Channel} {t : ChannelState}
    (hc : t.claims = (ch.get c).claims) (o : Owner) : heldBy (ch.set c t) o = heldBy ch o := by
  have moved := heldBy_set ch c t o
  simp only [holding, hc] at moved
  omega

/-- `W` is channel `c` stored as `q.1`, with the outcomes `q.2` delivered, in a world with
the engine and the slots of `w`. -/
def Settles (w : World) (c : Channel) (q : ChannelState × Done) (W : World) : Prop :=
  ∃ w1 : World, W = settled c q w1 ∧ w1.slots = w.slots ∧ w1.engine = w.engine

theorem Settles.delivered {w W : World} {c : Channel} {q : ChannelState × Done}
    (hs : Settles w c q W) (calm : w.engine.panicking = []) {s0 : ChannelState} (hq : Accounts (s0, #[]) q)
    {added : List Owner} (hs0 : ∀ o, s0.holding o = (w.engine.channels.get c).holding o + added.count o) :
    Delivered w W q.2.toList added := by
  obtain ⟨w1, rfl, slots, same⟩ := hs
  obtain ⟨size, told⟩ := settle_tells (w := w1) c q.1 q.2 (by rw [same, calm])
  refine ⟨size.trans (by rw [slots]), fun n hn => ?_, fun o => ?_⟩
  · rw [settled, told n (slots ▸ hn), World.slotOutcome_of_slots slots]
  · -- what left the channel's claims was collected, and settling delivers what was collected
    have moved := heldBy_set w.engine.channels c (q.1.delivered q.2.size) o
    have owed := hq.owed o
    have before := hs0 o
    rw [outcomesFor_empty, Nat.add_zero] at owed
    rw [settled_engine, same]
    simp only [holding, claims_delivered, outcomesFor] at moved owed before ⊢
    rw [Array.countP_toList]
    omega

theorem settles_settle {w w1 : World} {c : Channel} {s : ChannelState} {done : Done}
    (slots : w1.slots = w.slots) (same : w1.engine = w.engine) :
    Settles w c (s, done) ((settle c s done).run w1).2 :=
  ⟨w1, rfl, slots, same⟩

theorem settles_pumped {w w1 : World} {c : Channel} (p : ChannelState × Done)
    (slots : w1.slots = w.slots) (same : w1.engine = w.engine) :
    Settles w c ((pump c p.1 p.2).run w1).1 (pumped c p w1) :=
  ⟨_, rfl, (pump_keepsSlots c p.1 p.2 w1).trans slots, by rw [pump_engine, same]⟩

theorem accounts_pumped {s0 : ChannelState} (p : ChannelState × Done) (hp : Accounts (s0, #[]) p)
    {w : World} {c : Channel} : Accounts (s0, #[]) ((pump c p.1 p.2).run w).1 :=
  hp.trans (pump_pumping p.1 p.2 w c).accounts

section operations

variable {w : World}

theorem linkReady_keepsSlots : KeepsSlots linkReady :=
  keepsSlots_of_run fun w => congrArg Prod.snd (linkReady_run w)

theorem enable_keepsSlots (c : Channel) : KeepsSlots (enable c) := by
  refine KeepsSlots.bind (chan_keepsSlots c) fun s => ?_
  split
  · exact KeepsSlots.pure _
  · refine KeepsSlots.bind linkReady_keepsSlots fun ready => ?_
    split
    · exact KeepsSlots.bind (emit_keepsSlots _ _ _ _) fun _ => KeepsSlots.pure _
    · refine KeepsSlots.bind (putChan_keepsSlots c _) fun _ => ?_
      exact KeepsSlots.bind (emit_keepsSlots _ _ _ _) fun _ => KeepsSlots.pure _

theorem enable_delivered (c : Channel) (w : World) : Delivered w ((enable c).run w).2 [] [] := by
  refine .of_same (enable_keepsSlots c w) fun o => ?_
  rw [(enable_run c w).1]
  split
  · refine heldBy_store ?_ o
    rfl
  · rfl

theorem disable_settles (c : Channel) (w : World) :
    Settles w c (w.engine.channels.get c).closing ((disable c).run w).2 := by
  rw [disable, run_bind, chan_run]
  dsimp only
  by_cases on : (w.engine.channels.get c).enabled = true
  · simp only [on, ↓reduceIte, run_bind, drainAll_fst, closing]
    generalize hw1 : (StateT.run (emit _ _ _ _) _).snd = w1
    refine ⟨w1, rfl, ?_, ?_⟩ <;> rw [← hw1]
    · rw [emit_keepsSlots .., drainAll_keepsSlots .., stopTimer_keepsSlots ..]
    · simp only [emit_engine, drainAll_engine, stopTimer_engine]
  · simp only [on, Bool.false_eq_true, ↓reduceIte, closing]
    exact ⟨w, rfl, rfl, rfl⟩

theorem disable_delivered (he : w.engine.Coherent) (calm : w.engine.panicking = []) (c : Channel) :
    Delivered w ((disable c).run w).2 (w.engine.channels.get c).closing.2.toList [] :=
  (disable_settles c w).delivered calm (accounts_closing (he c).consistent) fun _ => rfl

theorem shutdown_delivered (he : w.engine.Coherent) (calm : w.engine.panicking = []) :
    ∃ told, Delivered w (shutdown.run w).2 told [] :=
  (shutdown_induction (I := fun w => w.engine.Coherent ∧ w.engine.panicking = [])
    (R := fun u v => ∃ told, Delivered u v told []) (fun _ => ⟨[], .of_same rfl fun _ => rfl⟩)
    (fun ⟨_, d⟩ ⟨_, d'⟩ => ⟨_, d.trans d'⟩)
    (fun c _ ⟨he, calm⟩ => ⟨⟨disable_coherent c he, by rw [disable_engine]; exact calm⟩, _,
      disable_delivered he calm c⟩)
    (fun _ _ _ _ _ ⟨he, calm⟩ => ⟨⟨by rw [emit_engine]; exact he, by rw [emit_engine]; exact calm⟩, [],
      .of_same (emit_keepsSlots ..) fun _ => by rw [emit_engine]⟩)
    ⟨he, calm⟩).2

theorem Submitted.accepted {c : Channel} {opcode : UInt16} {input : List UInt8} {owner : Owner}
    {handle : Nat} {w' : World} (h : Submitted w c opcode input owner (.ok handle) w') :
    input.length ≤ w.engine.config.maxPayload ∧ (w.engine.channels.get c).enabled = true := by
  cases h with
  | queued _ fits on _ _ => exact ⟨fits, on⟩

theorem submit_settles (c : Channel) (opcode : UInt16) (input : List UInt8) (owner : Owner)
    (w : World) (fits : input.length ≤ w.engine.config.maxPayload)
    (on : (w.engine.channels.get c).enabled = true) :
    ∃ q, Settles w c q ((submit c opcode input owner).run w).2 ∧
      Accounts ((w.engine.channels.get c).enqueue opcode input owner w.now, #[]) q := by
  rw [submit, run_bind, config_run]
  dsimp only
  simp only [Nat.not_lt.mpr fits, ↓reduceIte]
  rw [run_bind, chan_run]
  dsimp only
  have open_ : (!(w.engine.channels.get c).enabled) = false := by simp [on]
  simp only [open_, Bool.false_eq_true, ↓reduceIte, run_bind, now_run, emit_now, run_pure]
  generalize hw1 : (StateT.run (emit _ _ _ _) w).snd = w1
  have slots : w1.slots = w.slots := by rw [← hw1]; exact emit_keepsSlots ..
  have same : w1.engine = w.engine := by rw [← hw1]; exact emit_engine ..
  exact ⟨_, settles_pumped ((w.engine.channels.get c).enqueue opcode input owner w.now, #[]) slots same,
    accounts_pumped _ (.refl _)⟩

theorem submit_delivered (c : Channel) (opcode : UInt16) (input : List UInt8) (owner : Owner)
    (w : World) (calm : w.engine.panicking = []) :
    ∃ told, Delivered w ((submit c opcode input owner).run w).2 told
      ((Action.submit c opcode input owner).accepted w |>.map (·.2.2)) := by
  have submitted := submit_run c opcode input owner w
  rw [Action.accepted]
  split
  · next handle accepted =>
    rw [accepted] at submitted
    obtain ⟨fits, on⟩ := submitted.accepted
    obtain ⟨q, settles, hq⟩ := submit_settles c opcode input owner w fits on
    refine ⟨_, settles.delivered calm hq fun o => ?_⟩
    rw [holding_enqueue]
    by_cases ho : owner = o <;> simp [ho]
  · next e refused =>
    rw [refused] at submitted
    rw [submitted.eq_of_error]
    exact ⟨[], .of_same rfl fun _ => rfl⟩

theorem cancel_settles (c : Channel) (handle : Nat) (w : World) :
    ∃ q, Settles w c q ((cancel c handle).run w).2 ∧ Accounts (w.engine.channels.get c, #[]) q ∧
      ∀ idx cmd o, (w.engine.channels.get c).position handle = some idx →
        (w.engine.channels.get c).pending[idx]? = some cmd → cmd.state ≠ .runningCancelled →
        cmd.owner = some o → q.2.toList = [(o, .error .cancelled)] := by
  rw [cancel, run_bind, chan_run]
  dsimp only
  cases hidx : (w.engine.channels.get c).position handle with
  | none =>
    simp only [run_bind, run_pure]
    refine ⟨_, settles_settle (emit_keepsSlots ..) (emit_engine ..), .refl _, fun idx _ _ h => ?_⟩
    cases h
  | some idx =>
    dsimp only
    cases hcmd : (w.engine.channels.get c).pending[idx]? with
    | none =>
      simp only [Option.map_none, run_bind, run_pure]
      refine ⟨_, settles_settle (emit_keepsSlots ..) (emit_engine ..), .refl _, fun idx' cmd _ h h' => ?_⟩
      rw [Option.some.injEq] at h
      rw [← h, hcmd] at h'
      cases h'
    | some cmd =>
      simp only [Option.map_some]
      -- a command that waits is finished, a running one abandoned: either way its owner is
      -- told that it was cancelled
      have told : ∀ q : ChannelState × Done, (∀ o, cmd.owner = some o → q.2 = #[(o, .error .cancelled)]) →
          ∀ (idx' : Nat) (cmd' : Command) (o : Owner), some idx = some idx' →
          (w.engine.channels.get c).pending[idx']? = some cmd' →
          cmd'.state ≠ .runningCancelled → cmd'.owner = some o → q.2.toList = [(o, .error .cancelled)] := by
        intro q hq idx' cmd' o h h' _ ho
        rw [Option.some.injEq] at h
        rw [← h, hcmd, Option.some.injEq] at h'
        rw [hq o (h' ▸ ho)]
      cases hst : cmd.state with
      | queued | retry =>
        simp only [run_bind, run_pure, finish_fst]
        refine ⟨_, settles_settle (by rw [emit_keepsSlots .., finish_keepsSlots ..])
          (by simp only [emit_engine, finish_engine]),
          accounts_finishAt_of (by rfl) (by rfl) _, fun idx' cmd' o h h' => ?_⟩
        exact told _ (fun o ho => by simp [finishAt, hcmd, ho]) idx' cmd' o h h'
      | running =>
        simp only [run_bind, run_pure, Option.bind_some]
        refine ⟨(w.engine.channels.get c).abandonAt idx cmd, settles_settle (emit_keepsSlots ..) (emit_engine ..),
          accounts_abandonAt hcmd, fun idx' cmd' o h h' => ?_⟩
        exact told _ (fun o ho => by simp [abandonAt, ho]) idx' cmd' o h h'
      | runningCancelled =>
        simp only [run_bind, run_pure]
        refine ⟨_, settles_settle (emit_keepsSlots ..) (emit_engine ..), .refl _, fun idx' cmd' o h h' live _ => ?_⟩
        rw [Option.some.injEq] at h
        rw [← h, hcmd, Option.some.injEq] at h'
        exact absurd (h' ▸ hst) live

theorem position_of_getElem? {s : ChannelState} (sorted : s.pending.Pairwise (·.handle < ·.handle))
    {i : Nat} {k : Command} (hk : s.pending[i]? = some k) : s.position k.handle = some i := by
  obtain ⟨hi, rfl⟩ := List.getElem?_eq_some_iff.mp hk
  refine List.findIdx?_eq_some_iff_getElem.mpr ⟨hi, by simp, fun j hj => ?_⟩
  have below := List.pairwise_iff_getElem.mp sorted j i (by omega) hi hj
  simp [Nat.ne_of_lt below]

theorem cancel_delivered (c : Channel) (handle : Nat) (he : w.engine.Coherent)
    (calm : w.engine.panicking = []) :
    ∃ told, Delivered w ((cancel c handle).run w).2 told [] ∧
      ∀ o, (handle, o) ∈ (w.engine.channels.get c).claims → told = [(o, .error .cancelled)] := by
  obtain ⟨q, settles, hq, told⟩ := cancel_settles c handle w
  refine ⟨_, settles.delivered calm hq fun _ => rfl, fun o held => ?_⟩
  obtain ⟨cmd, mem, rfl, owned⟩ := mem_claims.mp held
  obtain ⟨idx, hcmd⟩ := List.mem_iff_getElem?.mp mem
  have live : cmd.state ≠ .runningCancelled := fun hrc => by
    rw [((he c).consistent cmd mem).owner.mpr hrc] at owned
    cases owned
  exact told idx cmd o (position_of_getElem? (he c).sorted hcmd) hcmd live owned

theorem dispatch_delivered (f : Frame) (he : w.engine.Coherent) (calm : w.engine.panicking = []) :
    ∃ told, Delivered w ((dispatch f).run w).2 told [] := by
  rw [dispatch, run_bind, chan_run]
  dsimp only
  cases hidx : (w.engine.channels.get f.channel).answering f.seq with
  | none =>
    refine ⟨[], .of_same ?_ fun o => ?_⟩ <;> simp only [run_bind]
    · rw [reportDrop_keepsSlots .., putChan_keepsSlots ..]
    · rw [reportDrop_channels, putChan_engine]
      refine heldBy_store ?_ o
      rfl
  | some idx =>
    dsimp only
    cases hcmd : (w.engine.channels.get f.channel).pending[idx]? with
    | none => exact ⟨[], .of_same rfl fun _ => rfl⟩
    | some cmd =>
      simp only [run_bind]
      generalize hw1 : (StateT.run (emit _ _ _ _) _).snd = w1
      have same : w1.engine = w.engine := by rw [← hw1]; simp only [emit_engine, stopTimer_engine]
      have slots : w1.slots = w.slots := by rw [← hw1, emit_keepsSlots .., stopTimer_keepsSlots ..]
      obtain ⟨answered, kept, -⟩ := answer_run ((w.engine.channels.get f.channel).stopAt idx) idx w1
        f.channel cmd f
      have hc := (he f.channel).consistent _ (List.mem_of_getElem? hcmd)
      rw [same] at answered
      exact ⟨_, (settles_pumped _ ((answer_keepsSlots _ _ _ _ _ w1).trans slots) (kept.trans same)).delivered
        calm (accounts_pumped _ (accounts_stopAt.trans (answered.accounts (stopAt_owner hcmd) hc)))
        fun _ => rfl⟩

theorem receive_delivered (bytes : List UInt8) (he : w.engine.Coherent) (calm : w.engine.panicking = []) :
    ∃ told, Delivered w ((receive bytes).run w).2 told [] := by
  have routed : ∀ w1 : World, w1.slots = w.slots → w1.engine = w.engine →
      ∃ told, Delivered w ((route (Wire.decode w.engine.config.addressing bytes)).run w1).2 told [] := by
    intro w1 slots same
    have before : Delivered w w1 [] [] := .of_same slots fun o => by rw [same]
    cases Wire.decode w.engine.config.addressing bytes with
    | error err =>
      simp only [route]
      exact ⟨[], before.keep (reportDrop_keepsSlots _ _ _ w1) (reportDrop_channels _ _ _ w1)⟩
    | ok f =>
      obtain ⟨told, d⟩ := dispatch_delivered f (w := w1) (same ▸ he) (by rw [same, calm])
      exact ⟨told, before.trans d⟩
  rw [receive, run_bind, config_run]
  dsimp only
  cases w.engine.config.traceFrames with
  | false => exact routed w rfl rfl
  | true =>
    simp only [↓reduceIte, run_bind]
    exact routed _ (emit_keepsSlots ..) (emit_engine ..)

theorem attemptTimedOut_delivered (c : Channel) (handle generation : Nat) (he : w.engine.Coherent)
    (calm : w.engine.panicking = []) :
    ∃ told, Delivered w ((attemptTimedOut c handle generation).run w).2 told [] := by
  rw [attemptTimedOut, run_bind, chan_run]
  dsimp only
  cases hidx : (w.engine.channels.get c).position handle with
  | none => exact ⟨[], .of_same rfl fun _ => rfl⟩
  | some idx =>
    dsimp only
    cases hcmd : (w.engine.channels.get c).pending[idx]? with
    | none => exact ⟨[], .of_same rfl fun _ => rfl⟩
    | some cmd =>
      dsimp only
      by_cases live : cmd.generation = generation ∧ cmd.state.isInFlight = true
      · have go : (cmd.generation != generation || !cmd.state.isInFlight) = false := by
          simp [live.1, live.2]
        simp only [go, Bool.false_eq_true, ↓reduceIte, run_bind]
        obtain ⟨expired, kept, -⟩ := expire_run ((w.engine.channels.get c).stopAt idx) idx w c cmd
        have hc := (he c).consistent _ (List.mem_of_getElem? hcmd)
        exact ⟨_, (settles_pumped _ (expire_keepsSlots _ _ _ _ w) kept).delivered calm
          (accounts_pumped _ (accounts_stopAt.trans (expired.accounts (stopAt_owner hcmd) hc)))
          fun _ => rfl⟩
      · have stop : (cmd.generation != generation || !cmd.state.isInFlight) = true := by
          by_cases hg : cmd.generation = generation
          · simpa [hg] using live
          · simp [hg]
        simp only [stop, ↓reduceIte, run_pure]
        exact ⟨[], .of_same rfl fun _ => rfl⟩

theorem backoffElapsed_delivered (c : Channel) (calm : w.engine.panicking = []) :
    ∃ told, Delivered w ((backoffElapsed c).run w).2 told [] := by
  rw [backoffElapsed_run]
  exact ⟨_, (settles_pumped _ rfl rfl).delivered calm
    (accounts_pumped _ (@Accounts.of_claims (w.engine.channels.get c, #[])
      ({ w.engine.channels.get c with backoff := none }, #[]) rfl rfl rfl)) fun _ => rfl⟩

end operations

theorem Action.step_delivered (a : Action) {w : World} (he : w.engine.Coherent)
    (calm : w.engine.panicking = []) :
    ∃ told, Delivered w (a.step w) told ((a.accepted w).map (·.2.2)) := by
  cases a with
  | submit c opcode input owner =>
    rw [Action.step_submit]
    exact submit_delivered c opcode input owner w calm
  | enable c =>
    rw [Action.step_enable]
    exact ⟨[], enable_delivered c w⟩
  | disable c =>
    rw [Action.step_disable]
    exact ⟨_, disable_delivered he calm c⟩
  | shutdown =>
    rw [Action.step_shutdown]
    exact shutdown_delivered he calm
  | cancel c handle =>
    rw [Action.step_cancel]
    obtain ⟨told, d, -⟩ := cancel_delivered c handle he calm
    exact ⟨told, d⟩
  | receive bytes =>
    rw [Action.step_receive]
    exact receive_delivered bytes he calm
  | attemptTimedOut c handle generation =>
    rw [Action.step_attemptTimedOut]
    exact attemptTimedOut_delivered c handle generation he calm
  | backoffElapsed c =>
    rw [Action.step_backoffElapsed]
    exact backoffElapsed_delivered c calm

end Engine

end FrameRpc
