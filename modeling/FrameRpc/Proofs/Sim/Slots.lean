import FrameRpc.Proofs.Sim.Footprint
set_option autoImplicit false

/-!
Who writes the slots.

A call waits for its outcome in a one-shot slot, and only delivering an outcome writes one.
`KeepsSlots` says that a computation leaves every slot as it found it; it passes through
`bind`, and every part of the engine's operations has it except the delivering of the
collected outcomes. Delivering the outcomes `told` leaves in each existing slot the last
outcome told to it (`outcomeAfter`), and makes no slot.
-/

namespace FrameRpc.Sim

variable {α β : Type}

def World.slotOutcome (w : World) (n : Nat) : Option Outcome := (w.slots[n]?).bind (·.value)

/-- What slot `n` holds, starting from `v`, once the outcomes `told` are delivered in order:
the last one told to it. -/
def outcomeAfter (n : Nat) (told : List (Owner × Outcome)) (v : Option Outcome) : Option Outcome :=
  told.foldl (fun v x => if x.1 = .slot n then some x.2 else v) v

section outcomeAfter

variable (n : Nat) (v : Option Outcome)

@[simp] theorem outcomeAfter_nil : outcomeAfter n [] v = v := rfl

theorem outcomeAfter_cons (x : Owner × Outcome) (t : List (Owner × Outcome)) :
    outcomeAfter n (x :: t) v = outcomeAfter n t (outcomeAfter n [x] v) := rfl

theorem outcomeAfter_append (t t' : List (Owner × Outcome)) :
    outcomeAfter n (t ++ t') v = outcomeAfter n t' (outcomeAfter n t v) :=
  List.foldl_append

end outcomeAfter

def KeepsSlots (x : Sim α) : Prop := ∀ w, (x.run w).2.slots = w.slots

theorem KeepsSlots.bind {x : Sim α} {f : α → Sim β} (hx : KeepsSlots x) (hf : ∀ a, KeepsSlots (f a)) :
    KeepsSlots (x >>= f) := fun w => by
  rw [run_bind, hf, hx]

theorem KeepsSlots.pure (a : α) : KeepsSlots (pure a : Sim α) := fun _ => rfl

theorem keepsSlots_of_run {x : Sim α} (hx : ∀ w, (x.run w).2 = w) : KeepsSlots x := fun w => by
  rw [hx w]

theorem keepsSlots_forIn {γ : Type} (l : List γ) (b : β) {f : γ → β → Sim (ForInStep β)}
    (hf : ∀ a b, KeepsSlots (f a b)) : KeepsSlots (forIn l b f) := by
  induction l generalizing b with
  | nil => exact KeepsSlots.pure b
  | cons a rest ih =>
    rw [List.forIn_cons]
    refine KeepsSlots.bind (hf a b) fun step => ?_
    cases step with
    | done b' => exact KeepsSlots.pure b'
    | yield b' => exact ih b'

/-- Run from any world, the computation leaves in each slot what delivering the outcomes
`told` in order would, and makes no slot. -/
def Tells (x : Sim α) (told : List (Owner × Outcome)) : Prop :=
  ∀ w, (x.run w).2.slots.size = w.slots.size ∧
    ∀ n < w.slots.size, (x.run w).2.slotOutcome n = outcomeAfter n told (w.slotOutcome n)

theorem KeepsSlots.tells {x : Sim α} (hx : KeepsSlots x) : Tells x [] := fun w =>
  ⟨by rw [hx w], fun _ _ => by rw [outcomeAfter_nil, World.slotOutcome, World.slotOutcome, hx w]⟩

section primitives

theorem emitWith_keepsSlots (l : Log.Level) (t m : String) (fs : List (String × Log.FieldValue))
    (u : List String) : KeepsSlots (emitWith l t m fs u) := fun w => by
  simp only [emitWith, run_modify]
  split
  · split <;> rfl
  · rfl

theorem emit_keepsSlots (l : Log.Level) (t m : String) (fs : List (String × Log.FieldValue)) :
    KeepsSlots (emit l t m fs) :=
  emitWith_keepsSlots l t m fs []

theorem enqueue_keepsSlots (id : Nat) : KeepsSlots (enqueue id) := fun w => by
  simp only [enqueue, run_modify]
  split <;> rfl

theorem modifyTask_keepsSlots (id : Nat) (f : Task → Task) : KeepsSlots (modifyTask id f) :=
  fun _ => rfl

theorem dropTimers_keepsSlots (k : Waker) : KeepsSlots (dropTimers k) := fun _ => rfl

theorem spawn_keepsSlots (k : TaskKind) : KeepsSlots (spawn k) := fun w => by
  simp only [spawn, run_bind, run_get, run_modify, run_pure]
  exact enqueue_keepsSlots _ _

theorem wake_keepsSlots (k : Waker) : KeepsSlots (wake k) := by
  cases k with
  | main => exact fun _ => rfl
  | task id =>
    refine KeepsSlots.bind (keepsSlots_of_run fun _ => rfl) fun t => ?_
    cases t with
    | none => exact KeepsSlots.pure _
    | some t =>
      dsimp only
      split
      · exact KeepsSlots.bind (modifyTask_keepsSlots _ _) fun _ => enqueue_keepsSlots id
      · exact modifyTask_keepsSlots _ _
      · exact KeepsSlots.pure _

theorem abort_keepsSlots (id : Nat) : KeepsSlots (abort id) := by
  refine KeepsSlots.bind (keepsSlots_of_run fun _ => rfl) fun t => ?_
  cases t with
  | none => exact KeepsSlots.pure _
  | some t =>
    dsimp only
    split
    · exact KeepsSlots.pure _
    · refine KeepsSlots.bind (modifyTask_keepsSlots _ _) fun _ =>
        KeepsSlots.bind (dropTimers_keepsSlots _) fun _ => ?_
      split
      · exact KeepsSlots.bind (modifyTask_keepsSlots _ _) fun _ => enqueue_keepsSlots id
      · exact KeepsSlots.pure _

theorem updatePeer_keepsSlots (f : Peer → Peer) : KeepsSlots (updatePeer f) := fun w => by
  simp only [updatePeer, run_modify]
  split <;> rfl

theorem peerSend_keepsSlots (p : Peer) (frame : List UInt8) : KeepsSlots (peerSend p frame) := by
  unfold peerSend
  split
  · exact KeepsSlots.bind (updatePeer_keepsSlots _) fun _ => KeepsSlots.pure _
  refine KeepsSlots.bind (updatePeer_keepsSlots _) fun _ => ?_
  split
  · refine KeepsSlots.bind (keepsSlots_of_run fun _ => rfl) fun _ => ?_
    refine KeepsSlots.bind (emit_keepsSlots _ _ _ _) fun _ => ?_
    exact KeepsSlots.bind (updatePeer_keepsSlots _) fun _ => KeepsSlots.pure _
  split
  · refine KeepsSlots.bind (keepsSlots_of_run fun _ => rfl) fun _ => ?_
    refine KeepsSlots.bind (emit_keepsSlots _ _ _ _) fun _ => ?_
    exact KeepsSlots.bind (updatePeer_keepsSlots _) fun _ => KeepsSlots.pure _
  dsimp only
  split
  all_goals
    try refine KeepsSlots.bind (updatePeer_keepsSlots _) fun _ => ?_
    split
    · exact KeepsSlots.bind (updatePeer_keepsSlots _) fun _ => KeepsSlots.pure _
    · split
      · refine KeepsSlots.bind (updatePeer_keepsSlots _) fun _ => ?_
        exact KeepsSlots.bind (fun w => spawn_keepsSlots _ w) fun _ => KeepsSlots.pure _
      · exact KeepsSlots.pure _

theorem linkSend_keepsSlots (frame : List UInt8) : KeepsSlots (linkSend frame) := by
  refine KeepsSlots.bind (keepsSlots_of_run fun _ => rfl) fun l => ?_
  cases l with
  | recorder r =>
    dsimp only
    split
    · exact KeepsSlots.bind (fun _ => rfl) fun _ => KeepsSlots.pure _
    · exact KeepsSlots.bind (fun _ => rfl) fun _ => KeepsSlots.pure _
  | peer p => exact peerSend_keepsSlots p frame

theorem fill_slots_eq (m : Nat) (r : Outcome) (w : World) :
    ((fill m r).run w).2.slots = w.slots.modify m fun s => { s with value := some r } := by
  simp only [fill, run_bind, run_modify, run_get]
  split
  · exact wake_keepsSlots _ _
  · rfl

theorem deliver_slots_eq (o : Owner) (r : Outcome) (w : World) :
    ((deliver o r).run w).2.slots = match o with
      | .callback _ => w.slots
      | .slot m => w.slots.modify m fun s => { s with value := some r } := by
  cases o with
  | callback id =>
    simp only [deliver, run_bind, run_get]
    by_cases panics : w.engine.panicking.contains id = true
    · simp only [panics, ↓reduceIte, run_pure]
    · simp only [panics, Bool.false_eq_true, ↓reduceIte, run_bind, run_modify, run_pure]
  | slot m => exact fill_slots_eq m r w

theorem deliver_tells (o : Owner) (r : Outcome) : Tells (deliver o r) [(o, r)] := fun w => by
  have written := deliver_slots_eq o r w
  cases o with
  | callback id =>
    refine ⟨by rw [written], fun n _ => ?_⟩
    simp [World.slotOutcome, written, outcomeAfter]
  | slot m =>
    refine ⟨by rw [written]; exact Array.size_modify, fun n hn => ?_⟩
    simp only [World.slotOutcome, written, Array.getElem?_modify, outcomeAfter, List.foldl_cons,
      List.foldl_nil, Owner.slot.injEq]
    by_cases same : m = n
    · subst same
      simp [Array.getElem?_eq_getElem hn]
    · simp [same]

end primitives

end FrameRpc.Sim

namespace FrameRpc.Engine

open Sim

theorem chan_keepsSlots (c : Channel) : KeepsSlots (chan c) := keepsSlots_of_run fun _ => rfl

theorem config_keepsSlots : KeepsSlots config := keepsSlots_of_run fun _ => rfl

theorem putChan_keepsSlots (c : Channel) (s : ChannelState) : KeepsSlots (putChan c s) := fun _ => rfl

theorem stopTimer_keepsSlots (t : Option Nat) : KeepsSlots (stopTimer t) := by
  cases t with
  | none => exact KeepsSlots.pure _
  | some id => exact abort_keepsSlots id

theorem notifyIfIdle_keepsSlots (c : Channel) : KeepsSlots (notifyIfIdle c) := by
  refine KeepsSlots.bind (chan_keepsSlots c) fun s => ?_
  split
  · refine KeepsSlots.bind (keepsSlots_of_run fun _ => rfl) fun w => ?_
    refine KeepsSlots.bind (fun _ => rfl) fun _ => ?_
    exact keepsSlots_forIn _ _ fun id _ => KeepsSlots.bind (wake_keepsSlots _) fun _ => KeepsSlots.pure _
  · exact KeepsSlots.pure _

theorem reportDrop_keepsSlots (c : Option Channel) (seq : Option UInt16) (reason : String) :
    KeepsSlots (reportDrop c seq reason) := fun w => by
  simp only [reportDrop, run_bind, run_get, run_set]
  split
  · exact emitWith_keepsSlots _ _ _ _ _ _
  · rfl

theorem finish_keepsSlots (s : ChannelState) (idx : Nat) (r : Outcome) (done : Done) :
    KeepsSlots (finish s idx r done) := by
  unfold finish
  split
  · exact KeepsSlots.pure _
  · refine KeepsSlots.bind (stopTimer_keepsSlots _) fun _ => ?_
    dsimp only
    split <;> exact KeepsSlots.pure _

theorem reap_keepsSlots (s : ChannelState) (idx : Nat) : KeepsSlots (reap s idx) := by
  unfold reap
  split
  · exact KeepsSlots.pure _
  · refine KeepsSlots.bind (stopTimer_keepsSlots _) fun _ => ?_
    exact KeepsSlots.bind (emit_keepsSlots _ _ _ _) fun _ => KeepsSlots.pure _

theorem transmit_keepsSlots (c : Channel) (cmd : Command) (seq : UInt16) :
    KeepsSlots (transmit c cmd seq) := by
  refine KeepsSlots.bind config_keepsSlots fun cfg => ?_
  split
  · exact KeepsSlots.bind (emit_keepsSlots _ _ _ _) fun _ => KeepsSlots.pure _
  · split
    · exact KeepsSlots.bind (emit_keepsSlots _ _ _ _) fun _ => linkSend_keepsSlots _
    · exact linkSend_keepsSlots _

theorem sendAttempt_keepsSlots (c : Channel) (s : ChannelState) (idx : Nat) (done : Done) :
    KeepsSlots (sendAttempt c s idx done) := by
  refine KeepsSlots.bind config_keepsSlots fun cfg => ?_
  split
  · exact KeepsSlots.pure _
  refine KeepsSlots.bind (transmit_keepsSlots _ _ _) fun sent => ?_
  split
  · refine KeepsSlots.bind (keepsSlots_of_run fun _ => rfl) fun _ =>
      KeepsSlots.bind (spawn_keepsSlots _) fun _ => ?_
    exact KeepsSlots.bind (emit_keepsSlots _ _ _ _) fun _ => KeepsSlots.pure _
  · dsimp only
    split
    · exact KeepsSlots.bind (emit_keepsSlots _ _ _ _) fun _ => finish_keepsSlots _ _ _ _
    · refine KeepsSlots.bind (emit_keepsSlots _ _ _ _) fun _ => ?_
      exact KeepsSlots.bind (keepsSlots_of_run fun _ => rfl) fun _ =>
        KeepsSlots.bind (spawn_keepsSlots _) fun _ => KeepsSlots.pure _

theorem pump_keepsSlots (c : Channel) (s : ChannelState) (done : Done) : KeepsSlots (pump c s done) := by
  unfold pump
  generalize s.pending.length + 1 = fuel
  induction fuel generalizing s done with
  | zero => exact KeepsSlots.pure _
  | succ fuel ih =>
    unfold pumpWith
    split
    · split
      · exact KeepsSlots.bind (sendAttempt_keepsSlots _ _ _ _) fun p => ih p.1 p.2
      · exact KeepsSlots.pure _
    · exact KeepsSlots.pure _

theorem drainAll_keepsSlots (c : Channel) (fuel : Nat) (s : ChannelState) (done : Done) :
    KeepsSlots (drainAll c fuel s done) := by
  induction fuel generalizing s done with
  | zero => exact KeepsSlots.pure _
  | succ fuel ih =>
    unfold drainAll
    split
    · exact KeepsSlots.pure _
    · split
      · exact KeepsSlots.bind (reap_keepsSlots _ _) fun s' => ih s' done
      · exact KeepsSlots.bind (finish_keepsSlots _ _ _ _) fun p => ih p.1 p.2

theorem answer_keepsSlots (c : Channel) (s : ChannelState) (idx : Nat) (cmd : Command) (f : Frame) :
    KeepsSlots (answer c s idx cmd f) := by
  unfold answer
  refine KeepsSlots.bind config_keepsSlots fun cfg => ?_
  split
  · exact KeepsSlots.bind (reap_keepsSlots s idx) fun _ => KeepsSlots.pure _
  · split
    · dsimp only
      split
      · exact KeepsSlots.bind (emit_keepsSlots _ _ _ _) fun _ => finish_keepsSlots _ _ _ _
      · refine KeepsSlots.bind (emit_keepsSlots _ _ _ _) fun _ => ?_
        exact KeepsSlots.bind (keepsSlots_of_run fun _ => rfl) fun _ =>
          KeepsSlots.bind (spawn_keepsSlots _) fun _ => KeepsSlots.pure _
    · split
      · exact finish_keepsSlots _ _ _ _
      · exact KeepsSlots.bind (emit_keepsSlots _ _ _ _) fun _ => finish_keepsSlots _ _ _ _

theorem expire_keepsSlots (c : Channel) (s : ChannelState) (idx : Nat) (cmd : Command) :
    KeepsSlots (expire c s idx cmd) := by
  unfold expire
  refine KeepsSlots.bind config_keepsSlots fun cfg => ?_
  split
  · exact KeepsSlots.bind (reap_keepsSlots s idx) fun _ => KeepsSlots.pure _
  · refine KeepsSlots.bind (keepsSlots_of_run fun _ => rfl) fun _ => ?_
    dsimp only
    split
    · exact KeepsSlots.bind (emit_keepsSlots _ _ _ _) fun _ => finish_keepsSlots _ _ _ _
    · exact KeepsSlots.bind (emit_keepsSlots _ _ _ _) fun _ => KeepsSlots.pure _

theorem release_keepsSlots (c : Channel) : KeepsSlots (release c) :=
  KeepsSlots.bind (chan_keepsSlots c) fun _ =>
    KeepsSlots.bind (putChan_keepsSlots c _) fun _ => notifyIfIdle_keepsSlots c

theorem completeWith_tells (c : Channel) (l : List (Owner × Outcome)) {w : World}
    (calm : w.engine.panicking = []) :
    ((completeWith c false l).run w).2.slots.size = w.slots.size ∧
      ∀ n < w.slots.size,
        ((completeWith c false l).run w).2.slotOutcome n = outcomeAfter n l (w.slotOutcome n) := by
  induction l generalizing w with
  | nil => exact (KeepsSlots.pure ()).tells w
  | cons x rest ih =>
    obtain ⟨o, r⟩ := x
    -- the delivery returns, the count touches no slot, and the rest starts from a calm world
    obtain ⟨size, told⟩ := deliver_tells o r w
    have counted := release_keepsSlots c ((deliver o r).run w).2
    obtain ⟨size', told'⟩ := ih (w := ((release c).run ((deliver o r).run w).2).2) (by simpa using calm)
    simp only [completeWith, run_bind, deliver_returns, calm, Owner.panics_nil, Bool.not_false,
      Bool.not_true]
    refine ⟨by rw [size', counted, size], fun n hn => ?_⟩
    rw [told' n (by rw [counted, size]; exact hn), World.slotOutcome, counted, ← World.slotOutcome,
      told n hn, ← outcomeAfter_cons]

theorem settle_tells (c : Channel) (s : ChannelState) (done : Done) {w : World}
    (calm : w.engine.panicking = []) :
    ((settle c s done).run w).2.slots.size = w.slots.size ∧
      ∀ n < w.slots.size,
        ((settle c s done).run w).2.slotOutcome n = outcomeAfter n done.toList (w.slotOutcome n) := by
  have stored : ((notifyIfIdle c).run ((putChan c s).run w).2).2.slots = w.slots :=
    (notifyIfIdle_keepsSlots c _).trans (putChan_keepsSlots c s w)
  have still : ((notifyIfIdle c).run ((putChan c s).run w).2).2.engine.panicking = [] := by
    simpa using calm
  obtain ⟨size, told⟩ := completeWith_tells c done.toList still
  simp only [settle, run_bind, complete]
  refine ⟨by rw [size, stored], fun n hn => ?_⟩
  rw [told n (by rw [stored]; exact hn), World.slotOutcome, stored, ← World.slotOutcome]

end FrameRpc.Engine
