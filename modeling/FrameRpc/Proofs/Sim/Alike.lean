import FrameRpc.Proofs.Sim.Footprint
set_option autoImplicit false

/-!
What a send reads of the world.

Two worlds are `Alike` when they have the same settings, link, clock, program name, number
of tasks, accepted frames and panicking callbacks. A computation `Respects` alikeness when
from alike worlds it returns the same value and leaves alike worlds; it `Keeps` alikeness
when it leaves a world alike to the one it found. Both pass through `bind`, so a computation built from parts that
respect alikeness respects it as a whole. The parts here are those a send is built of:
the clock, the settings, tasks started and stopped, the log, the callers' outcomes and the
link. What alike worlds may differ in (the callers' events and slots, the log, the run
queues, the state of each task) is never read by a send.
-/

namespace FrameRpc.Sim

structure World.Alike (w1 w2 : World) : Prop where
  config : w1.engine.config = w2.engine.config
  link : w1.link = w2.link
  now : w1.now = w2.now
  tasks : w1.tasks.size = w2.tasks.size
  program : w1.program = w2.program
  accepted : w1.accepted = w2.accepted
  panicking : w1.engine.panicking = w2.engine.panicking

namespace World.Alike

variable {w1 w2 w3 : World}

@[refl] theorem refl (w : World) : w.Alike w := ⟨rfl, rfl, rfl, rfl, rfl, rfl, rfl⟩

@[symm] theorem symm (h : w1.Alike w2) : w2.Alike w1 :=
  ⟨h.config.symm, h.link.symm, h.now.symm, h.tasks.symm, h.program.symm, h.accepted.symm,
    h.panicking.symm⟩

theorem trans (h : w1.Alike w2) (h' : w2.Alike w3) : w1.Alike w3 :=
  ⟨h.config.trans h'.config, h.link.trans h'.link, h.now.trans h'.now, h.tasks.trans h'.tasks,
    h.program.trans h'.program, h.accepted.trans h'.accepted, h.panicking.trans h'.panicking⟩

end World.Alike

variable {α β : Type}

def Respects (x : Sim α) : Prop :=
  ∀ w1 w2 : World, w1.Alike w2 → (x.run w1).1 = (x.run w2).1 ∧ (x.run w1).2.Alike (x.run w2).2

def Keeps (x : Sim α) : Prop := ∀ w : World, (x.run w).2.Alike w

theorem Respects.bind {x : Sim α} {f : α → Sim β} (hx : Respects x) (hf : ∀ a, Respects (f a)) :
    Respects (x >>= f) := by
  intro w1 w2 h
  obtain ⟨same, alike⟩ := hx w1 w2 h
  rw [run_bind, run_bind, same]
  exact hf _ _ _ alike

theorem Respects.pure (a : α) : Respects (pure a : Sim α) := fun _ _ h => ⟨rfl, h⟩

theorem Respects.discard {x : Sim α} (hx : Respects x) : Respects (discard x) :=
  fun w1 w2 h => ⟨rfl, (hx w1 w2 h).2⟩

theorem Keeps.bind {x : Sim α} {f : α → Sim β} (hx : Keeps x) (hf : ∀ a, Keeps (f a)) :
    Keeps (x >>= f) := fun w => by
  rw [run_bind]
  exact (hf _ _).trans (hx w)

theorem Keeps.pure (a : α) : Keeps (pure a : Sim α) := fun w => .refl w

theorem Keeps.respects {x : Sim PUnit} (hx : Keeps x) : Respects x :=
  fun w1 w2 h => ⟨rfl, ((hx w1).trans h).trans (hx w2).symm⟩

theorem keeps_of_run {x : Sim α} (hx : ∀ w, (x.run w).2 = w) : Keeps x := fun w => by
  rw [hx w]

theorem keeps_forIn {γ : Type} (l : List γ) (b : β) {f : γ → β → Sim (ForInStep β)}
    (hf : ∀ a b, Keeps (f a b)) : Keeps (forIn l b f) := by
  induction l generalizing b with
  | nil => exact Keeps.pure b
  | cons a rest ih =>
    rw [List.forIn_cons]
    refine Keeps.bind (hf a b) fun step => ?_
    cases step with
    | done b' => exact Keeps.pure b'
    | yield b' => exact ih b'

section primitives

theorem now_respects : Respects now := fun _ _ h => ⟨h.now, h⟩

theorem ownTarget_respects (m : String) : Respects (ownTarget m) := fun _ _ h =>
  ⟨by simp only [ownTarget_run, h.program], h⟩

theorem task?_keeps (id : Nat) : Keeps (task? id) := keeps_of_run fun _ => rfl

theorem emitWith_keeps (l : Log.Level) (t m : String) (fs : List (String × Log.FieldValue))
    (u : List String) : Keeps (emitWith l t m fs u) := fun w => by
  simp only [emitWith, run_modify]
  split
  · split <;> exact ⟨rfl, rfl, rfl, rfl, rfl, rfl, rfl⟩
  · exact .refl w

theorem emit_keeps (l : Log.Level) (t m : String) (fs : List (String × Log.FieldValue)) :
    Keeps (emit l t m fs) :=
  emitWith_keeps l t m fs []

theorem enqueue_keeps (id : Nat) : Keeps (enqueue id) := fun w => by
  simp only [enqueue, run_modify]
  split <;> exact ⟨rfl, rfl, rfl, rfl, rfl, rfl, rfl⟩

theorem modifyTask_keeps (id : Nat) (f : Task → Task) : Keeps (modifyTask id f) := fun _ =>
  ⟨rfl, rfl, rfl, Array.size_modify .., rfl, rfl, rfl⟩

theorem dropTimers_keeps (k : Waker) : Keeps (dropTimers k) := fun _ =>
  ⟨rfl, rfl, rfl, rfl, rfl, rfl, rfl⟩

theorem wake_keeps (k : Waker) : Keeps (wake k) := by
  cases k with
  | main => exact fun _ => ⟨rfl, rfl, rfl, rfl, rfl, rfl, rfl⟩
  | task id =>
    refine Keeps.bind (task?_keeps id) fun t => ?_
    cases t with
    | none => exact Keeps.pure _
    | some t =>
      dsimp only
      split
      · exact Keeps.bind (modifyTask_keeps _ _) fun _ => enqueue_keeps id
      · exact modifyTask_keeps _ _
      · exact Keeps.pure _

theorem abort_keeps (id : Nat) : Keeps (abort id) := by
  refine Keeps.bind (task?_keeps id) fun t => ?_
  cases t with
  | none => exact Keeps.pure _
  | some t =>
    dsimp only
    split
    · exact Keeps.pure _
    · refine Keeps.bind (modifyTask_keeps _ _) fun _ => Keeps.bind (dropTimers_keeps _) fun _ => ?_
      split
      · exact Keeps.bind (modifyTask_keeps _ _) fun _ => enqueue_keeps id
      · exact Keeps.pure _

theorem fill_keeps (n : Nat) (r : Outcome) : Keeps (fill n r) := by
  refine Keeps.bind (fun _ => ⟨rfl, rfl, rfl, rfl, rfl, rfl, rfl⟩) fun _ => ?_
  refine Keeps.bind (keeps_of_run fun _ => rfl) fun slot => ?_
  split
  · exact wake_keeps _
  · exact Keeps.pure _

theorem deliver_keeps (o : Owner) (r : Outcome) : Keeps (deliver o r) := by
  cases o with
  | callback id =>
    refine Keeps.bind (keeps_of_run fun _ => rfl) fun _ => ?_
    split
    · exact Keeps.pure _
    · exact Keeps.bind (fun _ => ⟨rfl, rfl, rfl, rfl, rfl, rfl, rfl⟩) fun _ => Keeps.pure _
  | slot n => exact Keeps.bind (fill_keeps n r) fun _ => Keeps.pure _

theorem abandon_keeps (o : Owner) : Keeps (abandon o) := by
  cases o with
  | callback id => exact Keeps.pure _
  | slot n => exact fill_keeps n _

theorem spawn_respects (k : TaskKind) : Respects (spawn k) := by
  intro w1 w2 h
  simp only [spawn, run_bind, run_get, run_modify, run_pure]
  refine ⟨h.tasks, ?_⟩
  refine ((enqueue_keeps _ _).trans ?_).trans (enqueue_keeps _ _).symm
  exact ⟨h.config, h.link, h.now, by simp [h.tasks], h.program, h.accepted, h.panicking⟩

theorem updatePeer_respects (f : Peer → Peer) : Respects (updatePeer f) := by
  intro w1 w2 h
  refine ⟨rfl, ?_⟩
  simp only [updatePeer, run_modify]
  rw [h.link]
  split
  · exact ⟨h.config, rfl, h.now, h.tasks, h.program, h.accepted, h.panicking⟩
  · exact h

theorem peerSend_respects (p : Peer) (frame : List UInt8) : Respects (peerSend p frame) := by
  unfold peerSend
  split
  · exact Respects.bind (updatePeer_respects _) fun _ => Respects.pure _
  refine Respects.bind (updatePeer_respects _) fun _ => ?_
  split
  · refine Respects.bind (ownTarget_respects _) fun _ => ?_
    refine Respects.bind (emit_keeps _ _ _ _).respects fun _ => ?_
    exact Respects.bind (updatePeer_respects _) fun _ => Respects.pure _
  split
  · refine Respects.bind (ownTarget_respects _) fun _ => ?_
    refine Respects.bind (emit_keeps _ _ _ _).respects fun _ => ?_
    exact Respects.bind (updatePeer_respects _) fun _ => Respects.pure _
  dsimp only
  split
  all_goals
    try refine Respects.bind (updatePeer_respects _) fun _ => ?_
    split
    · exact Respects.bind (updatePeer_respects _) fun _ => Respects.pure _
    · split
      · refine Respects.bind (updatePeer_respects _) fun _ => ?_
        exact Respects.bind (spawn_respects _).discard fun _ => Respects.pure _
      · exact Respects.pure _

theorem linkSend_respects (frame : List UInt8) : Respects (linkSend frame) := by
  intro w1 w2 h
  simp only [linkSend, run_bind, link_run, h.link]
  split
  · next r hr =>
    split
    · simp only [run_bind, run_modify, run_pure]
      exact ⟨trivial, h.config, by simp, h.now, h.tasks, h.program, h.accepted, h.panicking⟩
    · simp only [run_bind, run_modify, run_pure]
      exact ⟨trivial, h.config, by simp, h.now, h.tasks, h.program, by simp [h.accepted], h.panicking⟩
  · exact peerSend_respects _ frame w1 w2 h

end primitives

end FrameRpc.Sim

namespace FrameRpc.Engine

open Sim

variable {α : Type}

theorem config_respects : Respects config := fun _ _ h => ⟨h.config, h⟩

theorem chan_keeps (c : Channel) : Keeps (chan c) := keeps_of_run fun _ => rfl

theorem putChan_keeps (c : Channel) (s : ChannelState) : Keeps (putChan c s) := fun _ =>
  ⟨rfl, rfl, rfl, rfl, rfl, rfl, rfl⟩

theorem stopTimer_keeps (t : Option Nat) : Keeps (stopTimer t) := by
  cases t with
  | none => exact Keeps.pure _
  | some id => exact abort_keeps id

theorem notifyIfIdle_keeps (c : Channel) : Keeps (notifyIfIdle c) := by
  refine Keeps.bind (chan_keeps c) fun s => ?_
  split
  · refine Keeps.bind (keeps_of_run fun _ => rfl) fun w => ?_
    refine Keeps.bind (fun _ => ⟨rfl, rfl, rfl, rfl, rfl, rfl, rfl⟩) fun _ => ?_
    exact keeps_forIn _ _ fun id _ => Keeps.bind (wake_keeps _) fun _ => Keeps.pure _
  · exact Keeps.pure _

theorem release_keeps (c : Channel) : Keeps (release c) :=
  Keeps.bind (chan_keeps c) fun _ => Keeps.bind (putChan_keeps c _) fun _ => notifyIfIdle_keeps c

theorem complete_keeps (c : Channel) (done : Done) : Keeps (complete c done) :=
  completeWith_of (P := Keeps) Keeps.pure Keeps.bind deliver_keeps abandon_keeps (release_keeps c) _ _

theorem settle_keeps (c : Channel) (s : ChannelState) (done : Done) : Keeps (settle c s done) :=
  Keeps.bind (putChan_keeps c s) fun _ => Keeps.bind (notifyIfIdle_keeps c) fun _ => complete_keeps c done

theorem finish_keeps (s : ChannelState) (idx : Nat) (r : Outcome) (done : Done) :
    Keeps (finish s idx r done) := by
  unfold finish
  split
  · exact Keeps.pure _
  · refine Keeps.bind (stopTimer_keeps _) fun _ => ?_
    dsimp only
    split <;> exact Keeps.pure _

theorem finish_respects (s : ChannelState) (idx : Nat) (r : Outcome) (done : Done) :
    Respects (finish s idx r done) := by
  unfold finish
  split
  · exact Respects.pure _
  · refine Respects.bind (stopTimer_keeps _).respects fun _ => ?_
    dsimp only
    split <;> exact Respects.pure _

theorem reap_keeps (s : ChannelState) (idx : Nat) : Keeps (reap s idx) := by
  unfold reap
  split
  · exact Keeps.pure _
  · refine Keeps.bind (stopTimer_keeps _) fun _ => ?_
    exact Keeps.bind (emit_keeps _ _ _ _) fun _ => Keeps.pure _

theorem transmit_respects (c : Channel) (cmd : Command) (seq : UInt16) :
    Respects (transmit c cmd seq) := by
  refine Respects.bind config_respects fun cfg => ?_
  split
  · exact Respects.bind (emit_keeps _ _ _ _).respects fun _ => Respects.pure _
  · split
    · exact Respects.bind (emit_keeps _ _ _ _).respects fun _ => linkSend_respects _
    · exact linkSend_respects _

theorem sendAttempt_respects (c : Channel) (s : ChannelState) (idx : Nat) (done : Done) :
    Respects (sendAttempt c s idx done) := by
  refine Respects.bind config_respects fun cfg => ?_
  split
  · exact Respects.pure _
  refine Respects.bind (transmit_respects _ _ _) fun sent => ?_
  split
  · refine Respects.bind now_respects fun _ => Respects.bind (spawn_respects _) fun _ => ?_
    exact Respects.bind (emit_keeps _ _ _ _).respects fun _ => Respects.pure _
  · dsimp only
    split
    · refine Respects.bind (emit_keeps _ _ _ _).respects fun _ => ?_
      exact finish_respects _ _ _ _
    · refine Respects.bind (emit_keeps _ _ _ _).respects fun _ => ?_
      exact Respects.bind now_respects fun _ => Respects.bind (spawn_respects _) fun _ =>
        Respects.pure _

theorem pumpWith_respects (c : Channel) (fuel : Nat) (s : ChannelState) (done : Done) :
    Respects (pumpWith c fuel s done) := by
  induction fuel generalizing s done with
  | zero => exact Respects.pure _
  | succ fuel ih =>
    unfold pumpWith
    split
    · split
      · exact Respects.bind (sendAttempt_respects _ _ _ _) fun p => ih p.1 p.2
      · exact Respects.pure _
    · exact Respects.pure _

theorem pump_respects (c : Channel) (s : ChannelState) (done : Done) :
    Respects (pump c s done) :=
  pumpWith_respects c _ s done

end FrameRpc.Engine
