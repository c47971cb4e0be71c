import Mathlib
import FrameRpc.Proofs.Engine.Reachable
import FrameRpc.Proofs.Engine.Operations
set_option autoImplicit false

/-!
Warnings about dropped frames.

The engine warns about an inbound frame it drops only as often as its drop limiter allows:
at most `burst` warnings a window, a new window starting at the first drop after the last
one has run out. A drop kept quiet is not lost. The next warning let through carries the
number of drops held back before it, and the limiter holds the number held back since.

`Accounts` is the invariant: the limiter holds exactly the drops kept quiet since the last
warning, each warning counts exactly the quiet drops since the one before, and the counts
handed over plus the count held are all the quiet drops. One drop keeps it
(`Accounts.next`), so drops at any times keep it, and so does every run of an engine
(`DropRun.accounts`), where only a dropped frame moves the limiter (`Action.step_drops`).
Apart from it, a window never lets more than `burst` warnings through (`admitAll_burst`).
-/

namespace FrameRpc

namespace DropLimiter

def opens (l : DropLimiter) (now : Nat) : Bool :=
  match l.windowStart with
  | some start => l.window ≤ now - start
  | none => true

def emittedAt (l : DropLimiter) (now : Nat) : Nat := if l.opens now then 0 else l.emitted

def next (l : DropLimiter) (now : Nat) : DropLimiter := l.admit now |>.1

/-- What the limiter answers a drop at `now`: the count of drops held back before it when
it may be warned about, `none` when it stays quiet. -/
def answer (l : DropLimiter) (now : Nat) : Option Nat := l.admit now |>.2

section step

variable (l : DropLimiter) (now : Nat)

@[simp] theorem next_burst : (l.next now).burst = l.burst := by
  unfold next DropLimiter.admit
  cases l.windowStart <;> dsimp only <;> split_ifs <;> rfl

theorem admit_cases :
    (l.emittedAt now < l.burst ∧ l.answer now = some l.suppressed ∧
        (l.next now).suppressed = 0 ∧ (l.next now).emitted = l.emittedAt now + 1) ∨
      (l.burst ≤ l.emittedAt now ∧ l.answer now = none ∧
        (l.next now).suppressed = l.suppressed + 1 ∧ (l.next now).emitted = l.emittedAt now) := by
  unfold next answer DropLimiter.admit emittedAt opens
  cases l.windowStart with
  | none => by_cases room : l.burst = 0 <;> simp [room, Nat.pos_iff_ne_zero]
  | some start =>
    by_cases fresh : l.window ≤ now - start
    · by_cases room : l.burst = 0 <;> simp [fresh, room, Nat.pos_iff_ne_zero]
    · by_cases room : l.emitted < l.burst <;> simp [fresh, room, Nat.le_of_not_lt]

end step

def afterAll (l : DropLimiter) (ts : List Nat) : DropLimiter :=
  ts.foldl (fun l t => l.next t) l

/-- What drops at the times `ts` meet in turn: whether each starts a new window, and what
the limiter answers it. -/
def admitAll (l : DropLimiter) : List Nat → List (Bool × Option Nat)
  | [] => []
  | t :: ts => (l.opens t, l.answer t) :: (l.next t).admitAll ts

def fresh (burst window : Nat) : DropLimiter :=
  { burst, window, windowStart := none, emitted := 0, suppressed := 0 }

@[simp] theorem afterAll_burst (l : DropLimiter) (ts : List Nat) : (l.afterAll ts).burst = l.burst := by
  induction ts generalizing l with
  | nil => rfl
  | cons t ts ih => rw [afterAll, List.foldl_cons, ← afterAll, ih, next_burst]

@[simp] theorem length_admitAll (l : DropLimiter) (ts : List Nat) : (l.admitAll ts).length = ts.length := by
  induction ts generalizing l with
  | nil => rfl
  | cons t ts ih => simp [admitAll, ih]

theorem admitAll_eq_append {l : DropLimiter} {ts : List Nat} {pre rest : List (Bool × Option Nat)}
    (h : l.admitAll ts = pre ++ rest) :
    ∃ us vs, ts = us ++ vs ∧ l.admitAll us = pre ∧ (l.afterAll us).admitAll vs = rest := by
  induction pre generalizing l ts with
  | nil => exact ⟨[], ts, rfl, rfl, h⟩
  | cons c pre ih =>
    cases ts with
    | nil => cases h
    | cons t ts =>
      rw [admitAll, List.cons_append, List.cons.injEq] at h
      obtain ⟨us, vs, rfl, first, rest⟩ := ih h.2
      exact ⟨t :: us, vs, rfl, by rw [admitAll, h.1, first], rest⟩

def heldBack (ws : List (Option Nat)) : Nat := (ws.reverse.takeWhile Option.isNone).length

@[simp] theorem heldBack_nil : heldBack [] = 0 := rfl

@[simp] theorem heldBack_append_none (ws : List (Option Nat)) :
    heldBack (ws ++ [none]) = heldBack ws + 1 := by
  simp [heldBack]

@[simp] theorem heldBack_append_some (ws : List (Option Nat)) (k : Nat) :
    heldBack (ws ++ [some k]) = 0 := by
  simp [heldBack]

/-- The limiter `l` accounts for the answers `ws` it gave, oldest first: it holds the drops
kept quiet since the last warning; each warning counts those kept quiet since the one
before; and the counts handed over and the count held are all the drops kept quiet. -/
structure Accounts (l : DropLimiter) (ws : List (Option Nat)) : Prop where
  holds : l.suppressed = heldBack ws
  counts : ∀ pre k post, ws = pre ++ some k :: post → k = heldBack pre
  total : (ws.filterMap id).sum + l.suppressed = ws.count none

theorem accounts_fresh (burst window : Nat) : (fresh burst window).Accounts [] :=
  ⟨rfl, fun pre k post h => by simp at h, rfl⟩

theorem counts_snoc {ws : List (Option Nat)} {w : Option Nat}
    (counts : ∀ pre k post, ws = pre ++ some k :: post → k = heldBack pre)
    (last : ∀ k, w = some k → k = heldBack ws) :
    ∀ pre k post, ws ++ [w] = pre ++ some k :: post → k = heldBack pre := by
  intro pre k post h
  rcases List.eq_nil_or_concat post with rfl | ⟨post, x, rfl⟩
  · obtain ⟨rfl, same⟩ := List.append_inj' h rfl
    exact last k (List.singleton_inj.mp same)
  · rw [List.concat_eq_append, ← List.cons_append, ← List.append_assoc] at h
    exact counts pre k post (List.append_inj' h rfl).1

theorem Accounts.next {l : DropLimiter} {ws : List (Option Nat)} (h : l.Accounts ws) (now : Nat) :
    (l.next now).Accounts (ws ++ [l.answer now]) := by
  rcases l.admit_cases now with ⟨-, warned, held, -⟩ | ⟨-, quiet, held, -⟩
  · rw [warned]
    refine ⟨by rw [held, heldBack_append_some], counts_snoc h.counts ?_, ?_⟩
    · intro k hk
      rw [← h.holds, Option.some_inj.mp hk]
    · simp [held, ← h.total]
  · rw [quiet]
    refine ⟨by rw [held, heldBack_append_none, h.holds], counts_snoc h.counts ?_, ?_⟩
    · intro k hk
      cases hk
    · simp [held, ← h.total]
      omega

theorem Accounts.afterAll {l : DropLimiter} {ws : List (Option Nat)} (h : l.Accounts ws) (ts : List Nat) :
    (l.afterAll ts).Accounts (ws ++ (l.admitAll ts).map Prod.snd) := by
  induction ts generalizing l ws with
  | nil => simpa [DropLimiter.afterAll, admitAll] using h
  | cons t ts ih =>
    have kept := ih (h.next t)
    rwa [List.append_assoc, List.singleton_append] at kept

theorem admitAll_within {l : DropLimiter} {ts : List Nat} (same : ∀ c ∈ l.admitAll ts, c.1 = false) :
    ((l.admitAll ts).filter (·.2.isSome)).length ≤ l.burst - l.emitted := by
  induction ts generalizing l with
  | nil => simp [admitAll]
  | cons t ts ih =>
    simp only [admitAll, List.mem_cons, forall_eq_or_imp] at same
    have kept : l.emittedAt t = l.emitted := by simp [emittedAt, same.1]
    have rest := ih same.2
    rcases l.admit_cases t with ⟨room, warned, -, counted⟩ | ⟨full, quiet, -, counted⟩
    · simp only [admitAll, warned, List.filter_cons, Option.isSome_some, ↓reduceIte,
        List.length_cons]
      rw [next_burst, counted, kept] at rest
      omega
    · simp only [admitAll, quiet, List.filter_cons, Option.isSome_none, Bool.false_eq_true,
        ↓reduceIte]
      rw [next_burst, counted, kept] at rest
      omega

theorem admitAll_window {l : DropLimiter} {ts : List Nat} (same : ∀ c ∈ (l.admitAll ts).tail, c.1 = false) :
    ((l.admitAll ts).filter (·.2.isSome)).length ≤ l.burst := by
  cases ts with
  | nil => simp [admitAll]
  | cons t ts =>
    have rest := admitAll_within same
    rcases l.admit_cases t with ⟨room, warned, -, counted⟩ | ⟨full, quiet, -, counted⟩
    · simp only [admitAll, warned, List.filter_cons, Option.isSome_some, ↓reduceIte,
        List.length_cons]
      rw [next_burst, counted] at rest
      omega
    · simp only [admitAll, quiet, List.filter_cons, Option.isSome_none, Bool.false_eq_true,
        ↓reduceIte]
      rw [next_burst] at rest
      omega

theorem admitAll_burst {l : DropLimiter} {ts : List Nat} {pre block post : List (Bool × Option Nat)}
    (h : l.admitAll ts = pre ++ block ++ post) (same : ∀ c ∈ block.tail, c.1 = false) :
    (block.filter (·.2.isSome)).length ≤ l.burst := by
  rw [List.append_assoc] at h
  obtain ⟨us, vs, -, -, rest⟩ := admitAll_eq_append h
  obtain ⟨vs, -, -, inner, -⟩ := admitAll_eq_append rest
  have within := admitAll_window (inner ▸ same)
  rwa [inner, afterAll_burst] at within

theorem admitAll_quiet {l : DropLimiter} (silent : l.burst = 0) (ts : List Nat) :
    ∀ c ∈ l.admitAll ts, c.2 = none := by
  intro c hc
  obtain ⟨pre, post, split⟩ := List.mem_iff_append.mp hc
  have whole : l.admitAll ts = pre ++ [c] ++ post := by rw [split, List.append_cons]
  have alone := admitAll_burst whole (by simp)
  rw [silent, Nat.le_zero, List.length_eq_zero_iff, List.filter_eq_nil_iff] at alone
  simpa using alone c (List.mem_singleton_self c)

theorem length_eq_count_none (ws : List (Option Nat)) :
    ws.length = (ws.filterMap id).length + ws.count none := by
  induction ws with
  | nil => rfl
  | cons w ws ih => cases w <;> simp [ih] <;> omega

theorem Accounts.length_eq {l : DropLimiter} {ws : List (Option Nat)} (h : l.Accounts ws) :
    ws.length = (ws.filterMap id).length + (ws.filterMap id).sum + l.suppressed := by
  rw [length_eq_count_none, ← h.total, Nat.add_assoc]

end DropLimiter

namespace Log

theorem Filter.keep_eq_some {f : Filter} {e : Event} {r : Record} (h : f.keep e = some r) :
    r.level = e.level ∧ r.target = e.target ∧ r.message = e.message ∧ r.fields = e.fields := by
  unfold Filter.keep at h
  cases f.enter e.spans
  dsimp only at h
  split_ifs at h
  cases h
  exact ⟨rfl, rfl, rfl, rfl⟩

end Log

namespace Sim

theorem emitWith_records (level : Log.Level) (target message : String)
    (fields : List (String × Log.FieldValue)) (unset : List String) (w : World) :
    ((emitWith level target message fields unset).run w).2.records = w.records ∨
      ∃ r : Log.Record, ((emitWith level target message fields unset).run w).2.records = w.records.push r ∧
        r.level = level ∧ r.target = target ∧ r.message = some message ∧ r.fields = fields := by
  simp only [emitWith, run_modify]
  split
  · split
    · next r kept =>
      split_ifs at kept
      exact .inr ⟨r, rfl, Log.Filter.keep_eq_some kept⟩
    · exact .inl rfl
  · exact .inl rfl

end Sim

namespace Engine

open Sim

/-- Whether an action drops an inbound frame: one that does not decode, or one that answers
no command in flight on its channel. -/
def Action.dropsFrame : Action → World → Bool
  | .receive bytes, w =>
    match Wire.decode w.engine.config.addressing bytes with
    | .error _ => true
    | .ok f => ((w.engine.channels.get f.channel).answering f.seq).isNone
  | _, _ => false

theorem reportDrop_drops (c : Option Channel) (seq : Option UInt16) (reason : String) (w : World) :
    ((reportDrop c seq reason).run w).2.engine.drops = w.engine.drops.next w.now := by
  simp only [reportDrop, run_bind, run_get, run_set]
  split <;> simp only [emitWith_engine, run_pure, DropLimiter.next]

theorem reportDrop_records (c : Option Channel) (seq : Option UInt16) (reason : String) (w : World) :
    ((reportDrop c seq reason).run w).2.records = w.records ∨
      ∃ k r, w.engine.drops.answer w.now = some k ∧
        ((reportDrop c seq reason).run w).2.records = w.records.push r ∧
        r.level = .warn ∧ r.message = some "Dropping inbound frame" ∧ ("suppressed", .nat k) ∈ r.fields := by
  simp only [reportDrop, run_bind, run_get, run_set]
  split
  · next k warned =>
    rcases emitWith_records .warn "emcdi_engine::dispatch" "Dropping inbound frame" _ _
      { w with engine := { w.engine with drops := w.engine.drops.next w.now } } with
      filtered | ⟨r, kept, level, -, message, fields⟩
    · exact .inl filtered
    · exact .inr ⟨k, r, warned, kept, level, message, by simp [fields]⟩
  · exact .inl rfl

theorem Dispatched.drops {w w' : World} {f : Frame} (h : Dispatched w f w') {idx : Nat}
    (hidx : (w.engine.channels.get f.channel).answering f.seq = some idx) :
    w'.engine.drops = w.engine.drops := by
  cases h with
  | dropped missing _ _ _ =>
    rw [hidx] at missing
    cases missing
  | vanished _ _ same _ => rw [same]
  | answered p w1 _ _ _ same _ =>
    obtain ⟨q, -, stored⟩ := pumped_engine f.channel p w1
    rw [stored, same]

theorem dispatch_drops (f : Frame) (w : World) :
    ((dispatch f).run w).2.engine.drops =
      if ((w.engine.channels.get f.channel).answering f.seq).isNone then w.engine.drops.next w.now
      else w.engine.drops := by
  cases hidx : (w.engine.channels.get f.channel).answering f.seq with
  | none =>
    rw [dispatch, run_bind, chan_run]
    simp only [hidx, run_bind, reportDrop_drops, Option.isNone_none, ↓reduceIte]
    rfl
  | some idx =>
    simp only [Option.isNone_some, Bool.false_eq_true, ↓reduceIte]
    exact (dispatch_run f w).drops hidx

theorem receive_drops (bytes : List UInt8) (w : World) :
    ((receive bytes).run w).2.engine.drops =
      if (Action.receive bytes).dropsFrame w then w.engine.drops.next w.now else w.engine.drops := by
  obtain ⟨w1, same, clock, routed⟩ : ∃ w1 : World, w1.engine = w.engine ∧ w1.now = w.now ∧
      ((receive bytes).run w).2 = ((route (Wire.decode w.engine.config.addressing bytes)).run w1).2 := by
    rw [receive, run_bind, config_run]
    dsimp only
    cases w.engine.config.traceFrames with
    | false => exact ⟨w, rfl, rfl, rfl⟩
    | true => exact ⟨_, emit_engine .., emit_now .., rfl⟩
  rw [routed, Action.dropsFrame]
  cases Wire.decode w.engine.config.addressing bytes with
  | error e => simp only [route, reportDrop_drops, same, clock, ↓reduceIte]
  | ok f => rw [route, dispatch_drops, same, clock]

theorem Submitted.drops {w w' : World} {c : Channel} {opcode : UInt16} {input : List UInt8}
    {owner : Owner} {r : Except EngineError Nat} (h : Submitted w c opcode input owner r w') :
    w'.engine.drops = w.engine.drops := by
  cases h with
  | tooLarge _ => rfl
  | disabled _ _ => rfl
  | queued w1 _ _ same _ =>
    obtain ⟨q, -, stored⟩ := pumped_engine c _ w1
    rw [stored, same]

theorem Cancelled.drops {w w' : World} {c : Channel} {handle : Nat} {answer : Bool}
    (h : Cancelled w c handle answer w') : w'.engine.drops = w.engine.drops := by
  cases h with
  | ignored w1 _ same _ => rw [settled_engine, same]
  | dequeued w1 _ _ _ same _ => rw [settled_engine, same]
  | abandoned w1 _ _ _ same _ => rw [settled_engine, same]

theorem TimedOut.drops {w w' : World} {c : Channel} {handle generation : Nat}
    (h : TimedOut w c handle generation w') : w'.engine.drops = w.engine.drops := by
  cases h with
  | stale _ => rfl
  | expired p w1 _ _ _ _ _ same _ =>
    obtain ⟨q, -, stored⟩ := pumped_engine c p w1
    rw [stored, same]

theorem shutdown_drops (w : World) : (shutdown.run w).2.engine.drops = w.engine.drops :=
  shutdown_relates (R := fun u v => v.engine.drops = u.engine.drops) (fun _ => rfl)
    (fun first later => later.trans first) (fun c _ => by rw [disable_engine])
    (fun _ _ _ _ _ => by rw [emit_engine]) w

theorem Action.step_drops (a : Action) (w : World) :
    (a.step w).engine.drops =
      if a.dropsFrame w then w.engine.drops.next w.now else w.engine.drops := by
  cases a
  case receive bytes =>
    rw [Action.step_receive]
    exact receive_drops bytes w
  all_goals simp only [Action.dropsFrame, Bool.false_eq_true, ↓reduceIte]
  case enable c =>
    rw [Action.step_enable, (enable_run c w).1]
    split <;> rfl
  case disable c => rw [Action.step_disable, disable_engine]
  case shutdown => rw [Action.step_shutdown, shutdown_drops]
  case submit c opcode input owner => rw [Action.step_submit, (submit_run c opcode input owner w).drops]
  case cancel c handle => rw [Action.step_cancel, (cancel_run c handle w).drops]
  case attemptTimedOut c handle generation =>
    rw [Action.step_attemptTimedOut, (attemptTimedOut_run c handle generation w).drops]
  case backoffElapsed c =>
    rw [Action.step_backoffElapsed, backoffElapsed_run]
    obtain ⟨q, -, stored⟩ := pumped_engine c _ w
    rw [stored]

/-- The runs of an engine from its start, with the limiter's answer to each inbound frame
the engine dropped on the way, oldest first: `some k` for a drop warned about with `k`
drops held back before it, `none` for a drop kept quiet. Between actions the world around
the engine changes freely, the clock included. -/
inductive DropRun : World → List (Option Nat) → Prop where
  | start {config : EngineConfig} {link : Link} {filter : Option Log.Filter} {program : String}
      {w : World} : start config link filter program = .ok w → DropRun w []
  | act {w : World} {ws : List (Option Nat)} (a : Action) : DropRun w ws →
      DropRun (a.step w) (ws ++ if a.dropsFrame w then [w.engine.drops.answer w.now] else [])
  | outside {w w' : World} {ws : List (Option Nat)} : DropRun w ws → w'.engine = w.engine →
      DropRun w' ws

theorem DropRun.accounts {w : World} {ws : List (Option Nat)} (h : DropRun w ws) :
    w.engine.drops.Accounts ws := by
  induction h with
  | start started =>
    rw [start_engine started]
    exact DropLimiter.accounts_fresh _ _
  | act a _ ih =>
    rw [a.step_drops]
    split
    · exact ih.next _
    · rwa [List.append_nil]
  | outside _ same ih => rwa [same]

theorem DropRun.initial {config : EngineConfig} (link : Link) (filter : Option Log.Filter)
    (program : String) (h : config.validate = none) :
    DropRun (World.initial config link filter program) [] := by
  obtain ⟨w, started⟩ : ∃ w, Engine.start config link filter program = .ok w :=
    ⟨_, by rw [Engine.start, h]⟩
  exact .outside (.start started) (by rw [start_engine started]; rfl)

/-- The drop limiter conserves counts. Over drops at any times, increasing or not, from a
fresh limiter: each warning counts exactly the drops kept quiet since the one before, or
since the start; the counts handed over and the count still held are all the drops kept
quiet; and a window, from the drop that starts it to the last before the next one starts,
lets at most `burst` warnings through, none at all when `burst` is zero. Over every run of
an engine, each frame it drops is warned about, or counted once in the next warning, or
still held by its limiter; a warning let through is logged, if at all, as the record that a
frame is dropped with its count. -/
theorem drop_limiter_conserves_counts :
    (∀ (burst window : Nat) (ts : List Nat),
      let answers := ((DropLimiter.fresh burst window).admitAll ts).map Prod.snd
      (∀ pre k post, answers = pre ++ some k :: post → k = DropLimiter.heldBack pre) ∧
      (answers.filterMap id).sum + ((DropLimiter.fresh burst window).afterAll ts).suppressed =
        answers.count none ∧
      (∀ pre block post, (DropLimiter.fresh burst window).admitAll ts = pre ++ block ++ post →
        (∀ c ∈ block.tail, c.1 = false) → (block.filter (·.2.isSome)).length ≤ burst) ∧
      (burst = 0 → ∀ a ∈ answers, a = none)) ∧
    (∀ (w : World) (ws : List (Option Nat)), DropRun w ws →
      (∀ pre k post, ws = pre ++ some k :: post → k = DropLimiter.heldBack pre) ∧
      ws.length = (ws.filterMap id).length + (ws.filterMap id).sum + w.engine.drops.suppressed) ∧
    (∀ (c : Option Channel) (seq : Option UInt16) (reason : String) (w : World),
      ((reportDrop c seq reason).run w).2.records = w.records ∨
        ∃ k r, w.engine.drops.answer w.now = some k ∧
          ((reportDrop c seq reason).run w).2.records = w.records.push r ∧
          r.level = .warn ∧ r.message = some "Dropping inbound frame" ∧
          ("suppressed", .nat k) ∈ r.fields) := by
  refine ⟨fun burst window ts => ?_, fun w ws run => ?_, fun c seq reason w => ?_⟩
  · have account := (DropLimiter.accounts_fresh burst window).afterAll ts
    rw [List.nil_append] at account
    refine ⟨account.counts, account.total, fun pre block post h same => DropLimiter.admitAll_burst h same,
      fun silent a ha => ?_⟩
    obtain ⟨c, hc, rfl⟩ := List.mem_map.mp ha
    exact DropLimiter.admitAll_quiet silent ts c hc
  · exact ⟨run.accounts.counts, run.accounts.length_eq⟩
  · exact reportDrop_records c seq reason w

theorem drop_limiter_conserves_counts_after_burst :
    let w0 := World.initial { EngineConfig.default with dropLogBurst := 1 } (.recorder ⟨#[], [], true⟩)
      none ""
    let w2 := (Action.receive []).step ((Action.receive []).step w0)
    let w := (Action.receive []).step { w2 with now := 5000 }
    let ws := [some 0, none, some 1]
    DropRun w ws ∧ 1 = DropLimiter.heldBack [some 0, none] ∧
      ws.length = (ws.filterMap id).length + (ws.filterMap id).sum + w.engine.drops.suppressed := by
  intro w0 w2 w ws
  have run0 : DropRun w0 [] := DropRun.initial _ none "" (by decide)
  have run1 : DropRun ((Action.receive []).step w0) [some 0] := run0.act (.receive [])
  have run2 : DropRun w2 [some 0, none] := run1.act (.receive [])
  have later : DropRun { w2 with now := 5000 } [some 0, none] := .outside run2 rfl
  have run : DropRun w ws := later.act (.receive [])
  obtain ⟨counts, total⟩ := drop_limiter_conserves_counts.2.1 w ws run
  exact ⟨run, counts [some 0, none] 1 [] rfl, total⟩

end Engine

end FrameRpc
