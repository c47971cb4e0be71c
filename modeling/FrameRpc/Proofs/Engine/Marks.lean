import FrameRpc.Proofs.Engine.Lifecycle
import FrameRpc.Proofs.Engine.Counters
set_option autoImplicit false

/-!
What the counters mark of the requests handed to the link.

Every request a channel hands to the link leaves a mark on three of its counters: a request
the link takes is counted as sent, one it refuses is counted as a retry to come or, once the
budget is spent, as a failure. No move of a channel ever lowers these counters. So the sum
of the three (`ChannelState.attemptMarks`) grows by at least the number of requests that
any history records between two states of a channel, and where it stands still, every
history in between records no request at all (`EngineState.Leads.unsent`).
-/

namespace FrameRpc

namespace ChannelState

def attemptMarks (s : ChannelState) : Nat := s.counters.sent + s.counters.retries + s.counters.failed

section marks

variable (s : ChannelState) (idx : Nat) (cmd : Command)

@[simp] theorem attemptMarks_delivered (k : Nat) : (s.delivered k).attemptMarks = s.attemptMarks := rfl

@[simp] theorem attemptMarks_modifyAt (f : Command → Command) :
    (s.modifyAt idx f).attemptMarks = s.attemptMarks := rfl

@[simp] theorem attemptMarks_stopAt : (s.stopAt idx).attemptMarks = s.attemptMarks := rfl

@[simp] theorem attemptMarks_spendAt : (s.spendAt idx cmd).attemptMarks = s.attemptMarks := rfl

@[simp] theorem attemptMarks_timeoutAt : (s.timeoutAt idx cmd).attemptMarks = s.attemptMarks := rfl

@[simp] theorem attemptMarks_countDrop : s.countDrop.attemptMarks = s.attemptMarks := rfl

@[simp] theorem attemptMarks_countCancel : s.countCancel.attemptMarks = s.attemptMarks := rfl

@[simp] theorem attemptMarks_setBackoff (b : Option Nat) :
    ({ s with backoff := b } : ChannelState).attemptMarks = s.attemptMarks := rfl

@[simp] theorem attemptMarks_setEnabled (e : Bool) :
    ({ s with enabled := e } : ChannelState).attemptMarks = s.attemptMarks := rfl

@[simp] theorem attemptMarks_enqueue (opcode : UInt16) (input : List UInt8) (owner : Owner) (started : Nat) :
    (s.enqueue opcode input owner started).attemptMarks = s.attemptMarks := rfl

@[simp] theorem attemptMarks_reapAt : (s.reapAt idx).attemptMarks = s.attemptMarks := by
  simp only [attemptMarks, reapAt_counters]

@[simp] theorem attemptMarks_finishAt (r : Outcome) (done : Engine.Done) :
    (s.finishAt idx r done).1.attemptMarks = s.attemptMarks := by
  simp only [attemptMarks, finishAt_counters]

@[simp] theorem attemptMarks_abandonAt : (s.abandonAt idx cmd).1.attemptMarks = s.attemptMarks := by
  rw [abandonAt_fst]
  rfl

theorem attemptMarks_requeueAt : (s.requeueAt idx).attemptMarks = s.attemptMarks + 1 := by
  simp only [attemptMarks, requeueAt, modifyAt]
  omega

theorem attemptMarks_failAt (r : Outcome) : (s.failAt idx r).1.attemptMarks = s.attemptMarks + 1 := by
  rw [failAt, attemptMarks_finishAt]
  simp only [attemptMarks]
  omega

@[simp] theorem attemptMarks_completeAt (payload : List UInt8) :
    (s.completeAt idx payload).1.attemptMarks = s.attemptMarks := by
  simp only [completeAt, attemptMarks_finishAt]
  rfl

theorem attemptMarks_launch (seq : UInt16) (timer : Nat) :
    (s.launch idx cmd seq timer).attemptMarks = s.attemptMarks + 1 := by
  simp only [attemptMarks, launch, modifyAt]
  omega

theorem attemptMarks_refusedFinal (done : Engine.Done) :
    (s.refusedFinal idx cmd done).1.attemptMarks = s.attemptMarks + 1 := by
  rw [refusedFinal, attemptMarks_finishAt]
  simp only [attemptMarks, modifyAt]
  omega

theorem attemptMarks_refusedRetry (backoff : Nat) :
    (s.refusedRetry idx cmd backoff).attemptMarks = s.attemptMarks + 1 := by
  simp only [attemptMarks, refusedRetry, modifyAt]
  omega

@[simp] theorem attemptMarks_drain (fuel : Nat) (done : Engine.Done) :
    (s.drain fuel done).1.attemptMarks = s.attemptMarks := by
  induction fuel generalizing s done with
  | zero => rfl
  | succ fuel ih =>
    cases hp : s.pending with
    | nil => simp only [drain, hp]
    | cons head rest =>
      simp only [drain, hp]
      split
      · rw [ih, attemptMarks_reapAt]
      · rw [ih, attemptMarks_finishAt]
        rfl

@[simp] theorem attemptMarks_close : s.close.attemptMarks = s.attemptMarks := by
  simp only [close, closing, attemptMarks_delivered]
  split
  · rw [attemptMarks_drain]
    rfl
  · rfl

end marks

section relations

variable {budget : Nat} {s : ChannelState} {idx : Nat} {cmd : Command}

theorem Attempt.attemptMarks {done : Engine.Done} {answer : Except TransmitError Unit}
    {q : ChannelState × Engine.Done} (h : s.Attempt budget idx cmd done answer q) :
    q.1.attemptMarks = s.attemptMarks + 1 := by
  cases h with
  | sent timer => exact attemptMarks_launch s idx cmd _ timer
  | gaveUp => exact attemptMarks_refusedFinal s idx cmd done
  | backedOff backoff => exact attemptMarks_refusedRetry s idx cmd backoff

theorem Answer.attemptMarks {f : Frame} {p : ChannelState × Engine.Done}
    (h : s.Answer budget idx cmd f p) : s.attemptMarks ≤ p.1.attemptMarks := by
  cases h with
  | reaped => simp
  | gaveUp => simp [attemptMarks_failAt]
  | backedOff => simp [attemptMarks_requeueAt]
  | completed => simp
  | failed => simp [attemptMarks_failAt]

theorem Expiry.attemptMarks {p : ChannelState × Engine.Done}
    (h : s.Expiry budget idx cmd p) : s.attemptMarks ≤ p.1.attemptMarks := by
  cases h with
  | reaped => simp
  | timedOut => simp [attemptMarks_failAt]
  | retried => simp [attemptMarks_requeueAt]

end relations

def sendsIn (hist : List (Nat × Happening)) : Nat := hist.countP (·.2.isSent)

@[simp] theorem sendsIn_nil : sendsIn [] = 0 := rfl

@[simp] theorem sendsIn_append (a b : List (Nat × Happening)) : sendsIn (a ++ b) = sendsIn a + sendsIn b :=
  List.countP_append

theorem sendsIn_ofAttempt (budget : Nat) (cmd : Command) (answer : Except TransmitError Unit) :
    sendsIn ((Happening.ofAttempt budget cmd answer).map (cmd.handle, ·)) = 1 := by
  unfold Happening.ofAttempt
  split
  · rfl
  · split <;> rfl

theorem sendsIn_ofAnswer (budget : Nat) (cmd : Command) (f : Frame) :
    sendsIn ((Happening.ofAnswer budget cmd f).map (cmd.handle, ·)) = 0 := by
  unfold Happening.ofAnswer
  repeat' split
  all_goals rfl

theorem sendsIn_ofExpiry (budget : Nat) (cmd : Command) :
    sendsIn ((Happening.ofExpiry budget cmd).map (cmd.handle, ·)) = 0 := by
  unfold Happening.ofExpiry
  repeat' split
  all_goals rfl

theorem sendsIn_closeLabels (s : ChannelState) : sendsIn s.closeLabels = 0 := by
  unfold closeLabels
  split
  · simp [sendsIn, List.countP_map, Function.comp_def, Happening.isSent]
  · rfl

section moves

variable {cfg : EngineConfig} {c : Channel}

theorem Serving.attemptMarks {p q : ChannelState × Engine.Done} {evs : List (Nat × Happening)}
    (h : Serving cfg c p evs q) : q.1.attemptMarks = p.1.attemptMarks + sendsIn evs := by
  induction h with
  | stop => rfl
  | attempt _ _ _ _ _ _ tried _ ih =>
    rw [ih, tried.attemptMarks, sendsIn_append, sendsIn_ofAttempt]
    dsimp only
    omega

theorem Moves.attemptMarks {s t : ChannelState} {new : List (Nat × Happening)}
    (h : s.Moves cfg c new t) : s.attemptMarks + sendsIn new ≤ t.attemptMarks := by
  cases h with
  | enable => simp
  | close => simp [sendsIn_closeLabels]
  | drop => simp
  | dequeue => simp [stored, sendsIn, Happening.isSent]
  | abandon => simp [stored, sendsIn, Happening.isSent]
  | submit _ _ served =>
    rw [stored, attemptMarks_delivered, served.attemptMarks, attemptMarks_enqueue, sendsIn]
    simp only [List.countP_cons, Happening.isSent, Bool.false_eq_true, ↓reduceIte, Nat.add_zero]
    exact Nat.le_refl _
  | answer _ _ answered served =>
    rw [stored, attemptMarks_delivered, served.attemptMarks, sendsIn_append, sendsIn_ofAnswer]
    have := answered.attemptMarks
    simp only [attemptMarks_stopAt] at this
    omega
  | expire _ _ expired served =>
    rw [stored, attemptMarks_delivered, served.attemptMarks, sendsIn_append, sendsIn_ofExpiry]
    have := expired.attemptMarks
    simp only [attemptMarks_stopAt] at this
    omega
  | resume served =>
    rw [stored, attemptMarks_delivered, served.attemptMarks]
    simp

end moves

end ChannelState

namespace EngineState

open ChannelState

theorem Leads.attemptMarks {e e' : EngineState} {evs : List Happened} (h : e.Leads evs e')
    (c : Channel) :
    (e.channels.get c).attemptMarks + sendsIn (Happened.on c evs) ≤ (e'.channels.get c).attemptMarks := by
  induction h with
  | refl => simp
  | @move e1 e2 evs d s new _ moved _ channels ih =>
    rw [Happened.on_append, sendsIn_append, channels]
    by_cases same : c = d
    · subst same
      rw [Happened.on_ofChannel_self, PerChannel.get_set_self]
      have := moved.attemptMarks
      omega
    · rw [Happened.on_ofChannel_other same, PerChannel.get_set_other _ _ _ _ same]
      simpa using ih
  | quiet _ _ channels ih => rwa [channels]

theorem Leads.unsent {e e' : EngineState} {evs : List Happened} (h : e.Leads evs e') {c : Channel}
    (still : (e'.channels.get c).attemptMarks ≤ (e.channels.get c).attemptMarks) :
    ∀ x ∈ Happened.on c evs, x.2.isSent = false := by
  have none : sendsIn (Happened.on c evs) = 0 := by
    have := h.attemptMarks c
    omega
  intro x hx
  cases sent : x.2.isSent with
  | false => rfl
  | true =>
    have : 0 < sendsIn (Happened.on c evs) := List.countP_pos_iff.mpr ⟨x, hx, sent⟩
    omega

end EngineState

end FrameRpc
