import FrameRpc.Engine.Ops
set_option autoImplicit false

/-!
What the computations of the simulated world leave alone.

A run is taken apart with `run_bind`; each primitive that schedules tasks, raises log
records, delivers outcomes or talks to the link gets a lemma saying that it leaves the
engine as it found it. Only storing a channel and counting a dropped frame write to the
engine, so every later proof about the engine follows its channel states alone.
-/

namespace FrameRpc.Sim

variable {α β : Type}

@[simp] theorem run_bind (x : Sim α) (f : α → Sim β) (w : World) :
    (x >>= f).run w = (f (x.run w).1).run (x.run w).2 := rfl

@[simp] theorem run_pure (a : α) (w : World) : (pure a : Sim α).run w = (a, w) := rfl

@[simp] theorem run_get (w : World) : (get : Sim World).run w = (w, w) := rfl

@[simp] theorem run_set (w w' : World) : (set w' : Sim PUnit).run w = (⟨⟩, w') := rfl

@[simp] theorem run_modify (f : World → World) (w : World) :
    (modify f : Sim PUnit).run w = (⟨⟩, f w) := rfl

@[simp] theorem run_discard (x : Sim α) (w : World) :
    (discard x).run w = (⟨⟩, (x.run w).2) := rfl

@[simp] theorem run_map (f : α → β) (x : Sim α) (w : World) :
    (f <$> x).run w = (f (x.run w).1, (x.run w).2) := rfl

@[simp] theorem now_run (w : World) : now.run w = (w.now, w) := rfl

@[simp] theorem task?_run (id : Nat) (w : World) : (task? id).run w = (w.tasks[id]?, w) := rfl

@[simp] theorem link_run (w : World) : link.run w = (w.link, w) := rfl

@[simp] theorem ownTarget_run (m : String) (w : World) :
    (ownTarget m).run w = (w.program ++ "::" ++ m, w) := rfl

theorem linkReady_run (w : World) : linkReady.run w = ((linkReady.run w).1, w) := by
  simp only [linkReady, run_bind, link_run]
  split <;> rfl

@[simp] theorem emitWith_engine (l : Log.Level) (t m : String)
    (fs : List (String × Log.FieldValue)) (u : List String) (w : World) :
    ((emitWith l t m fs u).run w).2.engine = w.engine := by
  simp only [emitWith, run_modify]
  split
  · split <;> rfl
  · rfl

@[simp] theorem emitWith_now (l : Log.Level) (t m : String)
    (fs : List (String × Log.FieldValue)) (u : List String) (w : World) :
    ((emitWith l t m fs u).run w).2.now = w.now := by
  simp only [emitWith, run_modify]
  split
  · split <;> rfl
  · rfl

@[simp] theorem emit_now (l : Log.Level) (t m : String) (fs : List (String × Log.FieldValue))
    (w : World) : ((emit l t m fs).run w).2.now = w.now :=
  emitWith_now l t m fs [] w

@[simp] theorem emit_engine (l : Log.Level) (t m : String) (fs : List (String × Log.FieldValue))
    (w : World) : ((emit l t m fs).run w).2.engine = w.engine :=
  emitWith_engine l t m fs [] w

@[simp] theorem enqueue_engine (id : Nat) (w : World) : ((enqueue id).run w).2.engine = w.engine := by
  simp only [enqueue, run_modify]
  split <;> rfl

@[simp] theorem spawn_engine (k : TaskKind) (w : World) : ((spawn k).run w).2.engine = w.engine := by
  simp only [spawn, run_bind, run_get, run_modify, enqueue_engine, run_pure]

@[simp] theorem modifyTask_engine (id : Nat) (f : Task → Task) (w : World) :
    ((modifyTask id f).run w).2.engine = w.engine := rfl

@[simp] theorem dropTimers_engine (k : Waker) (w : World) :
    ((dropTimers k).run w).2.engine = w.engine := rfl

@[simp] theorem wake_engine (k : Waker) (w : World) : ((wake k).run w).2.engine = w.engine := by
  cases k with
  | main => rfl
  | task id =>
    simp only [wake, run_bind, task?_run]
    split
    · split <;> simp only [run_bind, run_pure, modifyTask_engine, enqueue_engine]
    · rfl

@[simp] theorem abort_engine (id : Nat) (w : World) : ((abort id).run w).2.engine = w.engine := by
  simp only [abort, run_bind, task?_run]
  split
  · split
    · rfl
    · split <;> simp only [run_bind, run_pure, modifyTask_engine, dropTimers_engine, enqueue_engine]
  · rfl

@[simp] theorem fill_engine (n : Nat) (r : Outcome) (w : World) :
    ((fill n r).run w).2.engine = w.engine := by
  simp only [fill, run_bind, run_modify, run_get]
  split <;> simp only [wake_engine, run_pure]

@[simp] theorem deliver_engine (o : Owner) (r : Outcome) (w : World) :
    ((deliver o r).run w).2.engine = w.engine := by
  cases o with
  | callback id =>
    simp only [deliver, run_bind, run_get]
    by_cases panics : w.engine.panicking.contains id = true
    · simp only [panics, ↓reduceIte, run_pure]
    · simp only [panics, Bool.false_eq_true, ↓reduceIte, run_bind, run_modify, run_pure]
  | slot n => simp only [deliver, run_bind, fill_engine, run_pure]

@[simp] theorem deliver_returns (o : Owner) (r : Outcome) (w : World) :
    ((deliver o r).run w).1 = !o.panics w.engine.panicking := by
  cases o with
  | callback id =>
    simp only [deliver, run_bind, run_get, Owner.panics]
    by_cases panics : w.engine.panicking.contains id = true
    · simp only [panics, ↓reduceIte, run_pure, Bool.not_true]
    · simp only [panics, Bool.false_eq_true, ↓reduceIte, run_bind, run_modify, run_pure, Bool.not_false]
  | slot n => rfl

@[simp] theorem abandon_engine (o : Owner) (w : World) : ((abandon o).run w).2.engine = w.engine := by
  cases o with
  | callback id => rfl
  | slot n => exact fill_engine n _ w

@[simp] theorem updatePeer_engine (f : Peer → Peer) (w : World) :
    ((updatePeer f).run w).2.engine = w.engine := by
  simp only [updatePeer, run_modify]
  split <;> rfl

theorem forIn_engine {γ : Type} (l : List γ) (b : β) (f : γ → β → Sim (ForInStep β))
    (hf : ∀ a b w, ((f a b).run w).2.engine = w.engine) (w : World) :
    ((forIn l b f).run w).2.engine = w.engine := by
  induction l generalizing b w with
  | nil => rfl
  | cons a rest ih =>
    simp only [List.forIn_cons, run_bind]
    split
    · exact hf a b w
    · rw [ih]
      exact hf a b w

def Link.recording : Link → Bool
  | .recorder _ => true
  | .peer _ => false

/-- What the engine's callers see of a world: whether the link records what it takes, the
frames it took and the events reported to them. -/
structure View where
  recording : Bool
  accepted : Array (List UInt8)
  events : List Event

def World.view (w : World) : View := ⟨w.link.recording, w.accepted, w.events.toList⟩

@[simp] theorem World.view_recording (w : World) : w.view.recording = w.link.recording := rfl

@[simp] theorem World.view_accepted (w : World) : w.view.accepted = w.accepted := rfl

@[simp] theorem World.view_events (w : World) : w.view.events = w.events.toList := rfl

theorem World.accepted_eq_of_view {w w' : World} (h : w'.view = w.view) : w'.accepted = w.accepted :=
  congrArg View.accepted h

def Event.callback? : Event → Option Nat
  | .submitted id _ => some id
  | _ => none

def View.report (v : View) (more : List Event) : View := { v with events := v.events ++ more }

@[simp] theorem View.report_report (v : View) (l l' : List Event) :
    (v.report l).report l' = v.report (l ++ l') := by
  simp [report, List.append_assoc]

@[simp] theorem View.report_nil (v : View) : v.report [] = v := by
  simp [report]

def View.take (v : View) (frame : List UInt8) : View := { v with accepted := v.accepted.push frame }

@[simp] theorem emitWith_view (l : Log.Level) (t m : String)
    (fs : List (String × Log.FieldValue)) (u : List String) (w : World) :
    ((emitWith l t m fs u).run w).2.view = w.view := by
  simp only [emitWith, run_modify]
  split
  · split <;> rfl
  · rfl

@[simp] theorem emit_view (l : Log.Level) (t m : String) (fs : List (String × Log.FieldValue))
    (w : World) : ((emit l t m fs).run w).2.view = w.view :=
  emitWith_view l t m fs [] w

@[simp] theorem enqueue_view (id : Nat) (w : World) : ((enqueue id).run w).2.view = w.view := by
  simp only [enqueue, run_modify]
  split <;> rfl

@[simp] theorem spawn_view (k : TaskKind) (w : World) : ((spawn k).run w).2.view = w.view := by
  simp only [spawn, run_bind, run_get, run_modify, run_pure]
  exact enqueue_view _ _

@[simp] theorem modifyTask_view (id : Nat) (f : Task → Task) (w : World) :
    ((modifyTask id f).run w).2.view = w.view := rfl

@[simp] theorem dropTimers_view (k : Waker) (w : World) :
    ((dropTimers k).run w).2.view = w.view := rfl

@[simp] theorem wake_view (k : Waker) (w : World) : ((wake k).run w).2.view = w.view := by
  cases k with
  | main => rfl
  | task id =>
    simp only [wake, run_bind, task?_run]
    split
    · split <;> simp only [run_bind, run_pure, modifyTask_view, enqueue_view]
    · rfl

@[simp] theorem abort_view (id : Nat) (w : World) : ((abort id).run w).2.view = w.view := by
  simp only [abort, run_bind, task?_run]
  split
  · split
    · rfl
    · split <;> simp only [run_bind, run_pure, modifyTask_view, dropTimers_view, enqueue_view]
  · rfl

theorem forIn_view {γ : Type} (l : List γ) (b : β) (f : γ → β → Sim (ForInStep β))
    (hf : ∀ a b w, ((f a b).run w).2.view = w.view) (w : World) :
    ((forIn l b f).run w).2.view = w.view := by
  induction l generalizing b w with
  | nil => rfl
  | cons a rest ih =>
    simp only [List.forIn_cons, run_bind]
    split
    · exact hf a b w
    · rw [ih]
      exact hf a b w

@[simp] theorem updatePeer_view (f : Peer → Peer) (w : World) :
    ((updatePeer f).run w).2.view = w.view := by
  simp only [updatePeer, run_modify]
  split
  · next p h => simp [World.view, Link.recording, h]
  · rfl

theorem peerSend_keeps (p : Peer) (frame : List UInt8) (w : World) :
    ((peerSend p frame).run w).2.engine = w.engine ∧ ((peerSend p frame).run w).2.view = w.view := by
  simp only [peerSend]
  split
  · simp only [run_bind, run_pure, updatePeer_engine, updatePeer_view, and_self]
  · simp only [run_bind]
    split
    · simp only [run_bind, run_pure, updatePeer_engine, updatePeer_view, ownTarget_run,
        emit_engine, emit_view, and_self]
    · split
      · simp only [run_bind, run_pure, updatePeer_engine, updatePeer_view, ownTarget_run,
          emit_engine, emit_view, and_self]
      · -- the answer, marked as queue-full or not, is built and handed to a delivery task
        split
        · simp only [run_bind]
          split
          · simp only [run_bind, run_pure, updatePeer_engine, updatePeer_view, and_self]
          · split <;> simp only [run_bind, run_pure, run_discard, updatePeer_engine,
              updatePeer_view, spawn_engine, spawn_view, and_self]
        · split
          · simp only [run_bind, run_pure, updatePeer_engine, updatePeer_view, and_self]
          · split <;> simp only [run_bind, run_pure, run_discard, updatePeer_engine,
              updatePeer_view, spawn_engine, spawn_view, and_self]

@[simp] theorem peerSend_engine (p : Peer) (frame : List UInt8) (w : World) :
    ((peerSend p frame).run w).2.engine = w.engine :=
  (peerSend_keeps p frame w).1

@[simp] theorem peerSend_view (p : Peer) (frame : List UInt8) (w : World) :
    ((peerSend p frame).run w).2.view = w.view :=
  (peerSend_keeps p frame w).2

@[simp] theorem linkSend_engine (frame : List UInt8) (w : World) :
    ((linkSend frame).run w).2.engine = w.engine := by
  simp only [linkSend, run_bind, link_run]
  split
  · split <;> rfl
  · exact peerSend_engine ..

theorem linkSend_view (frame : List UInt8) (w : World) :
    (((linkSend frame).run w).1 = .ok () ∧ w.view.recording = true ∧
        ((linkSend frame).run w).2.view = w.view.take frame) ∨
      ((((linkSend frame).run w).1 = .ok () → w.view.recording = false) ∧
        ((linkSend frame).run w).2.view = w.view) := by
  simp only [linkSend, run_bind, link_run]
  split
  · next r h =>
    have recording : w.view.recording = true := by simp [World.view, Link.recording, h]
    split
    · simp only [run_bind, run_modify, run_pure, reduceCtorEq, false_imp_iff, true_and,
        false_and, false_or]
      simp [World.view, Link.recording, h]
    · simp only [run_bind, run_modify, run_pure, true_and]
      exact .inl ⟨recording, by simp [World.view, View.take, Link.recording, h]⟩
  · next p h =>
    exact .inr ⟨fun _ => by simp [World.view, Link.recording, h], peerSend_view ..⟩

end FrameRpc.Sim

namespace FrameRpc

@[simp] theorem PerChannel.set_get {α : Type} (p : PerChannel α) (c : Channel) :
    p.set c (p.get c) = p := by
  cases c <;> rfl

@[simp] theorem PerChannel.set_set {α : Type} (p : PerChannel α) (c : Channel) (a b : α) :
    (p.set c a).set c b = p.set c b := by
  cases c <;> rfl

def ChannelState.delivered (s : ChannelState) (k : Nat) : ChannelState :=
  { s with cleanupPending := s.cleanupPending - k }

@[simp] theorem ChannelState.delivered_zero (s : ChannelState) : s.delivered 0 = s := rfl

/-- What handing the outcome `r` to `o` reports to the caller: a callback reports that it
ran; a slot is read by a waiting call and reports nothing. -/
def Owner.reported : Owner → Outcome → List Sim.Event
  | .callback id, r => [.submitted id r]
  | .slot _, _ => []

end FrameRpc

namespace FrameRpc.Engine

open Sim

@[simp] theorem chan_run (c : Channel) (w : World) :
    (chan c).run w = (w.engine.channels.get c, w) := rfl

@[simp] theorem config_run (w : World) : config.run w = (w.engine.config, w) := rfl

@[simp] theorem putChan_engine (c : Channel) (s : ChannelState) (w : World) :
    ((putChan c s).run w).2.engine = { w.engine with channels := w.engine.channels.set c s } := rfl

@[simp] theorem putChan_view (c : Channel) (s : ChannelState) (w : World) :
    ((putChan c s).run w).2.view = w.view := rfl

@[simp] theorem stopTimer_engine (t : Option Nat) (w : World) :
    ((stopTimer t).run w).2.engine = w.engine := by
  cases t with
  | none => rfl
  | some id => exact abort_engine id w

@[simp] theorem notifyIfIdle_engine (c : Channel) (w : World) :
    ((notifyIfIdle c).run w).2.engine = w.engine := by
  simp only [notifyIfIdle, run_bind, chan_run]
  by_cases idle : (w.engine.channels.get c).isIdle = true
  · simp only [idle, ↓reduceIte, run_bind, run_get, run_modify, run_pure]
    exact forIn_engine _ _ _ (fun _ _ w => by simp only [run_bind, run_pure, wake_engine]) _
  · simp only [idle, Bool.false_eq_true, ↓reduceIte, run_pure]

@[simp] theorem stopTimer_view (t : Option Nat) (w : World) :
    ((stopTimer t).run w).2.view = w.view := by
  cases t with
  | none => rfl
  | some id => exact abort_view id w

@[simp] theorem notifyIfIdle_view (c : Channel) (w : World) :
    ((notifyIfIdle c).run w).2.view = w.view := by
  simp only [notifyIfIdle, run_bind, chan_run]
  by_cases idle : (w.engine.channels.get c).isIdle = true
  · simp only [idle, ↓reduceIte, run_bind, run_get, run_modify, run_pure]
    exact forIn_view _ _ _ (fun _ _ w => by simp only [run_bind, run_pure, wake_view]) _
  · simp only [idle, Bool.false_eq_true, ↓reduceIte, run_pure]

@[simp] theorem fill_view (n : Nat) (r : Outcome) (w : World) : ((fill n r).run w).2.view = w.view := by
  simp only [fill, run_bind, run_modify, run_get]
  split
  · exact wake_view _ _
  · rfl

@[simp] theorem abandon_view (o : Owner) (w : World) : ((abandon o).run w).2.view = w.view := by
  cases o with
  | callback id => rfl
  | slot n => exact fill_view n _ w

theorem deliver_view (o : Owner) (r : Outcome) (w : World) :
    ((deliver o r).run w).2.view =
      if o.panics w.engine.panicking then w.view else w.view.report (o.reported r) := by
  cases o with
  | callback id =>
    simp only [deliver, run_bind, run_get, Owner.panics]
    by_cases panics : w.engine.panicking.contains id = true
    · simp only [panics, ↓reduceIte, run_pure]
    · simp only [panics, Bool.false_eq_true, ↓reduceIte, run_bind, run_modify, run_pure, World.view,
        View.report, Owner.reported, Array.toList_push]
  | slot n =>
    simp only [deliver, run_bind, fill_view, run_pure, Owner.panics, Bool.false_eq_true,
      ↓reduceIte, Owner.reported, View.report_nil]

@[simp] theorem transmit_engine (c : Channel) (cmd : Command) (seq : UInt16) (w : World) :
    ((transmit c cmd seq).run w).2.engine = w.engine := by
  simp only [transmit, run_bind, config_run]
  split
  · simp only [run_bind, run_pure, emit_engine]
  · by_cases trace : w.engine.config.traceFrames = true
    · simp only [trace, ↓reduceIte, run_bind, emit_engine, linkSend_engine]
    · simp only [trace, Bool.false_eq_true, ↓reduceIte, linkSend_engine]

theorem transmit_view (c : Channel) (cmd : Command) (seq : UInt16) (w : World) :
    (∃ frame, Wire.encode w.engine.config.addressing c.txKind seq cmd.opcode Status.ok cmd.input =
        .ok frame ∧ ((transmit c cmd seq).run w).1 = .ok () ∧ w.view.recording = true ∧
        ((transmit c cmd seq).run w).2.view = w.view.take frame) ∨
      ((((transmit c cmd seq).run w).1 = .ok () → w.view.recording = false) ∧
        ((transmit c cmd seq).run w).2.view = w.view) := by
  simp only [transmit, run_bind, config_run]
  split
  · simp only [run_bind, run_pure, emit_view, reduceCtorEq, false_imp_iff, true_and]
    exact .inr trivial
  · next frame encoded =>
    suffices out : ∀ w1 : World, w1.view = w.view →
        (((linkSend frame).run w1).1 = .ok () ∧ w.view.recording = true ∧
          ((linkSend frame).run w1).2.view = w.view.take frame) ∨
        ((((linkSend frame).run w1).1 = .ok () → w.view.recording = false) ∧
          ((linkSend frame).run w1).2.view = w.view) by
      by_cases trace : w.engine.config.traceFrames = true
      · simp only [trace, ↓reduceIte, run_bind]
        exact (out _ (emit_view ..)).imp_left fun sent => ⟨frame, encoded, sent⟩
      · simp only [trace, Bool.false_eq_true, ↓reduceIte]
        exact (out w rfl).imp_left fun sent => ⟨frame, encoded, sent⟩
    intro w1 same
    rw [← same]
    exact linkSend_view frame w1

@[simp] theorem release_engine (c : Channel) (w : World) :
    ((release c).run w).2.engine =
      { w.engine with channels := w.engine.channels.set c ((w.engine.channels.get c).delivered 1) } := by
  simp only [release, run_bind, chan_run, notifyIfIdle_engine, putChan_engine]
  rfl

@[simp] theorem release_view (c : Channel) (w : World) : ((release c).run w).2.view = w.view := by
  simp only [release, run_bind, chan_run, notifyIfIdle_view, putChan_view]

theorem completeWith_of {P : ∀ {α : Type}, Sim α → Prop} (hpure : ∀ {α : Type} (a : α), P (pure a))
    (hbind : ∀ {α β : Type} {x : Sim α} {f : α → Sim β}, P x → (∀ a, P (f a)) → P (x >>= f))
    (hdeliver : ∀ o r, P (deliver o r)) (habandon : ∀ o, P (abandon o)) {c : Channel}
    (hrelease : P (release c)) (unwinding : Bool) (l : List (Owner × Outcome)) :
    P (completeWith c unwinding l) := by
  induction l generalizing unwinding with
  | nil => exact hpure _
  | cons x rest ih =>
    obtain ⟨o, r⟩ := x
    cases unwinding with
    | false => exact hbind (hdeliver o r) fun _ => hbind hrelease fun _ => ih _
    | true => exact hbind hrelease fun _ => hbind (habandon o) fun _ => ih _

theorem completeWith_engine (c : Channel) (unwinding : Bool) (l : List (Owner × Outcome)) (w : World) :
    ((completeWith c unwinding l).run w).2.engine =
      { w.engine with channels := w.engine.channels.set c ((w.engine.channels.get c).delivered l.length) } := by
  induction l generalizing unwinding w with
  | nil => simp only [completeWith, run_pure, List.length_nil, ChannelState.delivered_zero, PerChannel.set_get]
  | cons x rest ih =>
    obtain ⟨o, r⟩ := x
    cases unwinding <;>
    simp only [completeWith, run_bind, ih, release_engine, deliver_engine, abandon_engine,
      PerChannel.get_set_self, PerChannel.set_set] <;>
    simp [ChannelState.delivered, Nat.sub_sub, Nat.add_comm]

theorem complete_engine (c : Channel) (done : Done) (w : World) :
    ((complete c done).run w).2.engine =
      { w.engine with channels := w.engine.channels.set c ((w.engine.channels.get c).delivered done.size) } := by
  rw [complete, completeWith_engine, Array.length_toList]

theorem completeWith_unwinding_view (c : Channel) (l : List (Owner × Outcome)) (w : World) :
    ((completeWith c true l).run w).2.view = w.view := by
  induction l generalizing w with
  | nil => rfl
  | cons x rest ih => simp only [completeWith, run_bind, ih, abandon_view, release_view]

theorem completeWith_view (c : Channel) (l : List (Owner × Outcome)) (w : World) :
    ((completeWith c false l).run w).2.view =
      w.view.report ((l.takeWhile fun x => !x.1.panics w.engine.panicking).flatMap
        fun x => x.1.reported x.2) := by
  induction l generalizing w with
  | nil => simp only [completeWith, run_pure, List.takeWhile_nil, List.flatMap_nil, View.report_nil]
  | cons x rest ih =>
    obtain ⟨o, r⟩ := x
    cases panics : o.panics w.engine.panicking with
    | true =>
      simp only [completeWith, run_bind, deliver_returns, panics, Bool.not_true, Bool.not_false,
        completeWith_unwinding_view, release_view, deliver_view, ↓reduceIte, List.takeWhile_cons,
        Bool.false_eq_true, List.flatMap_nil, View.report_nil]
    | false =>
      simp only [completeWith, run_bind, deliver_returns, panics, Bool.not_false, Bool.not_true, ih,
        release_engine, deliver_engine, release_view, deliver_view, Bool.false_eq_true, ↓reduceIte,
        List.takeWhile_cons, List.flatMap_cons, View.report_report]

@[simp] theorem Owner.panics_nil (o : Owner) : o.panics [] = false := by
  cases o <;> rfl

theorem complete_view (c : Channel) (done : Done) {w : World} (calm : w.engine.panicking = []) :
    ((complete c done).run w).2.view =
      w.view.report (done.toList.flatMap fun x => x.1.reported x.2) := by
  have whole : (done.toList.takeWhile fun x => !x.1.panics []) = done.toList := by
    simpa using @List.takeWhile_append_of_pos _ (fun x => !x.1.panics []) done.toList [] (by simp)
  rw [complete, completeWith_view, calm, whole]

@[simp] theorem settle_engine (c : Channel) (s : ChannelState) (done : Done) (w : World) :
    ((settle c s done).run w).2.engine =
      { w.engine with channels := w.engine.channels.set c (s.delivered done.size) } := by
  simp only [settle, run_bind, complete_engine, notifyIfIdle_engine, putChan_engine,
    PerChannel.get_set_self, PerChannel.set_set]

theorem settle_reports (c : Channel) (s : ChannelState) (done : Done) (w : World) :
    ∃ evs, ((settle c s done).run w).2.view = w.view.report evs := by
  simp only [settle, run_bind, complete, completeWith_view, notifyIfIdle_view, putChan_view]
  exact ⟨_, rfl⟩

theorem settle_view (c : Channel) (s : ChannelState) (done : Done) {w : World}
    (calm : w.engine.panicking = []) :
    ((settle c s done).run w).2.view =
      w.view.report (done.toList.flatMap fun x => x.1.reported x.2) := by
  simp only [settle, run_bind]
  rw [complete_view c done (by simpa using calm), notifyIfIdle_view, putChan_view]

end FrameRpc.Engine
