import FrameRpc.Proofs.Engine.Safety
import FrameRpc.Proofs.Engine.Replies
set_option autoImplicit false

/-!
What happens to the commands along a run.

An engine's state does not show how it got there: which requests were handed to the link,
which of them the link refused, which answers said the peer was busy. A chronicle records
it. Every change an operation makes to a channel is one of the channel's moves
(`ChannelState.Moves`), labelled with what it did to each command: queued, its request
handed to the link (taken or refused), answered busy, timed out, cancelled while running,
finished with an outcome. Pumping is labelled one attempt at a time (`Serving`), and an
attempt is only labelled once its request is encoded, so every `sent` in a history is a
frame handed to the link. A chronicle of an engine is a sequence of moves from a fresh
engine with valid settings; every engine the runs reach has one (`Reachable.chronicle`),
built from the case lemmas of `Operations`.
-/

namespace FrameRpc

inductive Happening where
  | queued
  | sent (taken : Bool)
  | busy
  | expired
  | abandoned
  | finished (r : Outcome)

structure Happened where
  channel : Channel
  handle : Nat
  what : Happening

namespace Happening

/-- What one attempt to send `cmd` records, by the link's answer: a refused send that
spends the last attempt also finishes the command. -/
def ofAttempt (budget : Nat) (cmd : Command) : Except TransmitError Unit → List Happening
  | .ok () => [.sent true]
  | .error _ =>
    if budget ≤ cmd.attempts + 1 then
      [.sent false, .finished (.error (.transportUnavailable (cmd.attempts + 1)))]
    else [.sent false]

/-- What the answer `f` to the command `cmd` in flight records; a command cancelled while
running is only reaped. -/
def ofAnswer (budget : Nat) (cmd : Command) (f : Frame) : List Happening :=
  if cmd.state = .runningCancelled then []
  else if f.status = Status.queueFull then
    if budget ≤ cmd.attempts + 1 then [.busy, .finished (.error (.remote f.status.code))]
    else [.busy]
  else if f.status = Status.ok then [.finished (.ok f.payload)]
  else [.finished (.error (.remote f.status.code))]

def ofExpiry (budget : Nat) (cmd : Command) : List Happening :=
  if cmd.state = .runningCancelled then []
  else if budget ≤ cmd.attempts + 1 then [.expired, .finished (.error .timeout)]
  else [.expired]

end Happening

namespace Happened

def ofChannel (c : Channel) (evs : List (Nat × Happening)) : List Happened :=
  evs.map fun e => ⟨c, e.1, e.2⟩

def on (c : Channel) (evs : List Happened) : List (Nat × Happening) :=
  evs.filterMap fun e => if e.channel = c then some (e.handle, e.what) else none

@[simp] theorem on_nil (c : Channel) : on c [] = [] := rfl

@[simp] theorem on_append (c : Channel) (evs evs' : List Happened) :
    on c (evs ++ evs') = on c evs ++ on c evs' :=
  List.filterMap_append

@[simp] theorem on_ofChannel_self (c : Channel) (evs : List (Nat × Happening)) :
    on c (ofChannel c evs) = evs := by
  induction evs with
  | nil => rfl
  | cons e rest ih =>
    simp only [on, ofChannel, List.map_cons, List.filterMap_cons, ↓reduceIte] at ih ⊢
    rw [ih]

theorem on_ofChannel_other {c d : Channel} (hd : d ≠ c) (evs : List (Nat × Happening)) :
    on d (ofChannel c evs) = [] := by
  induction evs with
  | nil => rfl
  | cons e rest ih =>
    simp only [on, ofChannel, List.map_cons, List.filterMap_cons, Ne.symm hd, ↓reduceIte] at ih ⊢
    exact ih

end Happened

namespace ChannelState

def stored (q : ChannelState × Engine.Done) : ChannelState := q.1.delivered q.2.size

def Fits (limit : Nat) (s : ChannelState) : Prop := ∀ cmd ∈ s.pending, cmd.input.length ≤ limit

/-- What disabling records: on an enabled channel, every unfinished command that was not
cancelled while running is finished as cancelled, from the front. -/
def closeLabels (s : ChannelState) : List (Nat × Happening) :=
  if s.enabled then
    (s.pending.filter fun k => k.state != .runningCancelled).map
      fun k => (k.handle, .finished (.error .cancelled))
  else []

/-- Pumping channel `c` under the settings `cfg`, with what each attempt records: while the
channel is free, the request of the first command that may be sent is encoded and handed
to the link. -/
inductive Serving (cfg : EngineConfig) (c : Channel) :
    ChannelState × Engine.Done → List (Nat × Happening) → ChannelState × Engine.Done → Prop where
  | stop (p : ChannelState × Engine.Done) : Serving cfg c p [] p
  | attempt {s : ChannelState} {done : Engine.Done} {idx : Nat} {cmd : Command}
      {answer : Except TransmitError Unit} {frame : List UInt8} {q r : ChannelState × Engine.Done}
      {evs : List (Nat × Happening)} :
      s.enabled = true → s.running = none → s.backoff = none → s.nextSendable = some idx →
      s.pending[idx]? = some cmd →
      Wire.encode cfg.addressing c.txKind (s.lastSeq + 1) cmd.opcode Status.ok cmd.input = .ok frame →
      s.Attempt cfg.retryBudget idx cmd done answer q → Serving cfg c q evs r →
      Serving cfg c (s, done)
        ((Happening.ofAttempt cfg.retryBudget cmd answer).map (cmd.handle, ·) ++ evs) r

/-- One change to channel `c` under the settings `cfg`, with what it records: each is what
an operation stores for the channel. -/
inductive Moves (cfg : EngineConfig) (c : Channel) :
    ChannelState → List (Nat × Happening) → ChannelState → Prop where
  | enable {s : ChannelState} : s.enabled = false → Moves cfg c s [] { s with enabled := true }
  | close (s : ChannelState) : Moves cfg c s s.closeLabels s.close
  | drop (s : ChannelState) : Moves cfg c s [] s.countDrop
  | dequeue {s : ChannelState} {idx : Nat} {cmd : Command} :
      s.pending[idx]? = some cmd → cmd.state.isSendable = true →
      Moves cfg c s [(cmd.handle, .finished (.error .cancelled))]
        (stored (s.countCancel.finishAt idx (.error .cancelled) #[]))
  | abandon {s : ChannelState} {idx : Nat} {cmd : Command} :
      s.pending[idx]? = some cmd → cmd.state = .running →
      Moves cfg c s [(cmd.handle, .abandoned)] (stored (s.abandonAt idx cmd))
  | submit {s : ChannelState} {opcode : UInt16} {input : List UInt8} {owner : Owner} {started : Nat}
      {evs : List (Nat × Happening)} {q : ChannelState × Engine.Done} :
      s.enabled = true → input.length ≤ cfg.maxPayload →
      Serving cfg c (s.enqueue opcode input owner started, #[]) evs q →
      Moves cfg c s ((s.nextHandle + 1, .queued) :: evs) (stored q)
  | answer {s : ChannelState} {f : Frame} {idx : Nat} {cmd : Command}
      {p q : ChannelState × Engine.Done} {evs : List (Nat × Happening)} :
      s.answering f.seq = some idx → s.pending[idx]? = some cmd →
      (s.stopAt idx).Answer cfg.retryBudget idx cmd f p → Serving cfg c p evs q →
      Moves cfg c s ((Happening.ofAnswer cfg.retryBudget cmd f).map (cmd.handle, ·) ++ evs) (stored q)
  | expire {s : ChannelState} {idx : Nat} {cmd : Command} {p q : ChannelState × Engine.Done}
      {evs : List (Nat × Happening)} :
      s.pending[idx]? = some cmd → cmd.state.isInFlight = true →
      (s.stopAt idx).Expiry cfg.retryBudget idx cmd p → Serving cfg c p evs q →
      Moves cfg c s ((Happening.ofExpiry cfg.retryBudget cmd).map (cmd.handle, ·) ++ evs) (stored q)
  | resume {s : ChannelState} {evs : List (Nat × Happening)} {q : ChannelState × Engine.Done} :
      Serving cfg c ({ s with backoff := none }, #[]) evs q → Moves cfg c s evs (stored q)

section fits

variable {limit : Nat} {s t : ChannelState}

theorem Fits.congr (hs : s.Fits limit) (hp : t.pending = s.pending) : t.Fits limit :=
  fun k hk => hs k (hp ▸ hk)

theorem Fits.modify (hs : s.Fits limit) (idx : Nat) {f : Command → Command}
    (hp : t.pending = s.pending.modify idx f) (hf : ∀ k, (f k).input = k.input) : t.Fits limit := by
  intro k hk
  obtain ⟨j, hj⟩ := List.mem_iff_getElem?.mp (hp ▸ hk)
  rw [List.getElem?_modify] at hj
  cases hold : s.pending[j]? with
  | none => simp [hold] at hj
  | some old =>
    have fits := hs old (List.mem_of_getElem? hold)
    simp only [hold, Option.map_eq_map, Option.map_some, Option.some.injEq] at hj
    split at hj <;> subst hj
    · rwa [hf]
    · exact fits

theorem Fits.eraseIdx (hs : s.Fits limit) (idx : Nat) (hp : t.pending = s.pending.eraseIdx idx) :
    t.Fits limit :=
  fun k hk => hs k (List.mem_of_mem_eraseIdx (hp ▸ hk))

theorem Fits.finishAt (hs : s.Fits limit) (idx : Nat) (r : Outcome) (done : Engine.Done) :
    (s.finishAt idx r done).1.Fits limit :=
  hs.eraseIdx idx (finishAt_pending ..)

theorem Fits.reapAt (hs : s.Fits limit) (idx : Nat) : (s.reapAt idx).Fits limit :=
  hs.eraseIdx idx (reapAt_pending ..)

theorem Fits.attempt (hs : s.Fits limit) {budget idx : Nat} {cmd : Command} {done : Engine.Done}
    {answer : Except TransmitError Unit} {q : ChannelState × Engine.Done}
    (ha : s.Attempt budget idx cmd done answer q) : q.1.Fits limit := by
  cases ha with
  | sent timer => exact hs.modify idx rfl fun _ => by rfl
  | gaveUp _ => exact Fits.finishAt (hs.modify idx rfl fun _ => by rfl) idx _ done
  | backedOff backoff _ => exact Fits.modify (hs.modify idx rfl fun _ => by rfl) idx rfl fun _ => by rfl

theorem Fits.stopAt (hs : s.Fits limit) (idx : Nat) : (s.stopAt idx).Fits limit :=
  hs.modify idx rfl fun _ => by rfl

theorem Fits.answer (hs : s.Fits limit) {budget idx : Nat} {cmd : Command} {f : Frame}
    {p : ChannelState × Engine.Done} (ha : s.Answer budget idx cmd f p) : p.1.Fits limit := by
  cases ha with
  | reaped _ => exact hs.reapAt idx
  | gaveUp _ _ _ => exact Fits.finishAt (hs.modify idx rfl fun _ => by rfl) idx _ _
  | backedOff _ _ _ _ => exact Fits.modify (hs.modify idx rfl fun _ => by rfl) idx rfl fun _ => by rfl
  | completed _ _ => apply Fits.finishAt; exact hs.congr rfl
  | failed _ _ _ => apply Fits.finishAt; exact hs.congr rfl

theorem Fits.expiry (hs : s.Fits limit) {budget idx : Nat} {cmd : Command}
    {p : ChannelState × Engine.Done} (hx : s.Expiry budget idx cmd p) : p.1.Fits limit := by
  cases hx with
  | reaped _ => exact hs.reapAt idx
  | timedOut _ _ => exact Fits.finishAt (hs.modify idx rfl fun _ => by rfl) idx _ _
  | retried _ _ => exact Fits.modify (hs.modify idx rfl fun _ => by rfl) idx rfl fun _ => by rfl

theorem Fits.enqueue (hs : s.Fits limit) {opcode : UInt16} {input : List UInt8} (owner : Owner)
    (started : Nat) (hi : input.length ≤ limit) : (s.enqueue opcode input owner started).Fits limit := by
  intro k hk
  rcases List.mem_append.mp hk with old | added
  · exact hs k old
  · rw [List.mem_singleton.mp added]
    exact hi

theorem Fits.drain (hs : s.Fits limit) (fuel : Nat) (done : Engine.Done) :
    (s.drain fuel done).1.Fits limit := by
  induction fuel generalizing s done with
  | zero => exact hs
  | succ fuel ih =>
    simp only [drain]
    cases hp : s.pending with
    | nil => exact hs
    | cons cmd rest =>
      simp only
      split
      · exact ih (hs.reapAt 0) done
      · refine ih ?_ _
        apply Fits.finishAt
        exact hs.congr hp.symm

theorem Fits.close (hs : s.Fits limit) : s.close.Fits limit := by
  show s.closing.1.Fits limit
  unfold closing
  split
  · apply Fits.drain
    exact hs.congr rfl
  · exact hs

theorem Fits.abandonAt (hs : s.Fits limit) (idx : Nat) (cmd : Command) :
    (s.abandonAt idx cmd).1.Fits limit :=
  hs.modify idx (by rw [abandonAt_fst]; rfl) fun _ => by rfl

end fits

section serving

variable {cfg : EngineConfig} {c : Channel}

theorem Serving.pumping {p q : ChannelState × Engine.Done} {evs : List (Nat × Happening)}
    (h : Serving cfg c p evs q) : Pumping cfg.retryBudget p q := by
  induction h with
  | stop p => exact .stop p
  | attempt hen hr hb hn hc _ ha _ ih => exact .attempt hen hr hb hn hc ha ih

theorem Serving.snoc {p q : ChannelState × Engine.Done} {evs : List (Nat × Happening)}
    {s : ChannelState} {done : Engine.Done} {idx : Nat} {cmd : Command}
    {answer : Except TransmitError Unit} {frame : List UInt8}
    (h : Serving cfg c p evs (s, done)) (hen : s.enabled = true) (hr : s.running = none)
    (hb : s.backoff = none) (hn : s.nextSendable = some idx) (hc : s.pending[idx]? = some cmd)
    (he : Wire.encode cfg.addressing c.txKind (s.lastSeq + 1) cmd.opcode Status.ok cmd.input = .ok frame)
    (ha : s.Attempt cfg.retryBudget idx cmd done answer q) :
    Serving cfg c p (evs ++ (Happening.ofAttempt cfg.retryBudget cmd answer).map (cmd.handle, ·)) q := by
  generalize hp : (s, done) = last at h
  induction h with
  | stop =>
    cases hp
    simpa using Serving.attempt hen hr hb hn hc he ha (.stop q)
  | attempt hen' hr' hb' hn' hc' he' ha' _ ih =>
    rw [List.append_assoc]
    exact .attempt hen' hr' hb' hn' hc' he' ha' (ih hp)

theorem Fits.serving {limit : Nat} {p q : ChannelState × Engine.Done} {evs : List (Nat × Happening)}
    (hp : p.1.Fits limit) (h : Serving cfg c p evs q) : q.1.Fits limit := by
  induction h with
  | stop => exact hp
  | attempt _ _ _ _ _ _ ha _ ih => exact ih (Fits.attempt hp ha)

end serving

section moves

variable {cfg : EngineConfig} {c : Channel} {s t : ChannelState} {evs : List (Nat × Happening)}

theorem Moves.fits (h : s.Moves cfg c evs t) (hs : s.Fits cfg.maxPayload) : t.Fits cfg.maxPayload := by
  cases h with
  | enable _ => exact hs.congr rfl
  | close => exact hs.close
  | drop => exact hs.congr rfl
  | dequeue _ _ => apply Fits.finishAt; exact hs.congr rfl
  | abandon _ _ => exact hs.abandonAt _ _
  | submit _ hi served => exact (hs.enqueue _ _ hi).serving served
  | answer _ _ answered served => exact ((hs.stopAt _).answer answered).serving served
  | expire _ _ expired served => exact ((hs.stopAt _).expiry expired).serving served
  | resume served => exact (hs.congr rfl).serving served

theorem Moves.coherent (h : s.Moves cfg c evs t) (hs : s.Coherent) : t.Coherent := by
  cases h with
  | enable _ => exact hs.enable
  | close => exact hs.close
  | drop => exact hs.countDrop
  | dequeue hcmd hsend => exact (hs.dequeue hcmd hsend _ _).delivered _
  | abandon hcmd hrun =>
    obtain ⟨rfl, rest, hp⟩ := hs.front_of_inFlight hcmd (by simp [hrun, CommandState.isInFlight])
    exact (hs.abandon hp hrun).delivered _
  | submit on _ served => exact ((hs.enqueue on _ _ _ _).pumping served.pumping).delivered _
  | answer hidx hcmd answered served =>
    obtain ⟨rfl, rest, hp, hf⟩ := hs.answering_head hidx hcmd
    exact ((hs.answer hp hf answered).pumping served.pumping).delivered _
  | expire hcmd hf expired served =>
    obtain ⟨rfl, rest, hp⟩ := hs.front_of_inFlight hcmd hf
    exact ((hs.expiry hp hf expired).pumping served.pumping).delivered _
  | resume served => exact (hs.clearBackoff.pumping served.pumping).delivered _

end moves

end ChannelState

/-- The histories of an engine: the moves of its channels since it started with valid
settings, with what each recorded. Between moves only the drop limiter may change. -/
inductive EngineState.Chronicle : EngineState → List Happened → Prop where
  | start {config : EngineConfig} : config.validate = none → Chronicle (EngineState.initial config) []
  | move {e e' : EngineState} {evs : List Happened} {c : Channel} {s : ChannelState}
      {new : List (Nat × Happening)} :
      Chronicle e evs → (e.channels.get c).Moves e.config c new s → e'.config = e.config →
      e'.channels = e.channels.set c s → Chronicle e' (evs ++ Happened.ofChannel c new)
  | quiet {e e' : EngineState} {evs : List Happened} :
      Chronicle e evs → e'.config = e.config → e'.channels = e.channels → Chronicle e' evs

/-- The engines an engine leads to, with what the moves on the way recorded: its channels
change by moves, one channel at a time under its settings, and only the drop limiter
changes in between. -/
inductive EngineState.Leads (e : EngineState) : List Happened → EngineState → Prop where
  | refl : Leads e [] e
  | move {e' e'' : EngineState} {evs : List Happened} {c : Channel} {s : ChannelState}
      {new : List (Nat × Happening)} :
      Leads e evs e' → (e'.channels.get c).Moves e'.config c new s → e''.config = e'.config →
      e''.channels = e'.channels.set c s → Leads e (evs ++ Happened.ofChannel c new) e''
  | quiet {e' e'' : EngineState} {evs : List Happened} :
      Leads e evs e' → e''.config = e'.config → e''.channels = e'.channels → Leads e evs e''

@[simp] theorem EngineState.get_initial (config : EngineConfig) (c : Channel) :
    (EngineState.initial config).channels.get c = ChannelState.initial := by
  cases c <;> rfl

section valid

variable {cfg : EngineConfig}

theorem EngineConfig.budget_pos_of_valid (h : cfg.validate = none) : 0 < cfg.retryBudget := by
  unfold EngineConfig.validate at h
  split at h
  · cases h
  · next spent => exact Nat.pos_of_ne_zero spent

theorem EngineConfig.maxPayload_le_of_valid (h : cfg.validate = none) : cfg.maxPayload ≤ 65535 := by
  unfold EngineConfig.validate at h
  split at h
  · cases h
  split at h
  · cases h
  split at h
  · cases h
  · next fits => exact Nat.le_of_not_gt fits

end valid

namespace EngineState

section chronicle

variable {e : EngineState} {evs : List Happened}

theorem Chronicle.valid (h : e.Chronicle evs) : e.config.validate = none := by
  induction h with
  | start valid => exact valid
  | move _ _ config _ ih => rw [config]; exact ih
  | quiet _ config _ ih => rw [config]; exact ih

theorem Chronicle.coherent (h : e.Chronicle evs) : e.Coherent := by
  induction h with
  | start _ => exact coherent_initial _
  | move _ moved _ stored ih =>
    intro d
    rw [stored]
    exact PerChannel.get_set_of_forall ih _ (moved.coherent (ih _)) d
  | quiet _ _ stored ih =>
    intro d
    rw [stored]
    exact ih d

theorem Chronicle.fits (h : e.Chronicle evs) (c : Channel) :
    (e.channels.get c).Fits e.config.maxPayload := by
  induction h generalizing c with
  | start _ =>
    intro cmd hcmd
    simp [ChannelState.initial] at hcmd
  | move _ moved config stored ih =>
    rw [stored, config]
    exact PerChannel.get_set_of_forall ih _ (moved.fits (ih _)) c
  | quiet _ config stored ih =>
    rw [stored, config]
    exact ih c

end chronicle

section leads

variable {e e' e'' : EngineState} {evs evs' : List Happened}

theorem Leads.single {c : Channel} {new : List (Nat × Happening)} {s : ChannelState}
    (hm : (e.channels.get c).Moves e.config c new s) (hc : e'.config = e.config)
    (hs : e'.channels = e.channels.set c s) : e.Leads (Happened.ofChannel c new) e' := by
  simpa using Leads.move .refl hm hc hs

theorem Leads.same (h : e' = e) : e.Leads [] e' := h ▸ .refl

theorem Leads.trans (h : e.Leads evs e') (h' : e'.Leads evs' e'') : e.Leads (evs ++ evs') e'' := by
  induction h' with
  | refl => simpa using h
  | move _ hm hc hs ih =>
    rw [← List.append_assoc]
    exact .move ih hm hc hs
  | quiet _ hc hs ih => exact .quiet ih hc hs

theorem Chronicle.leads (h : e.Chronicle evs) (hl : e.Leads evs' e') : e'.Chronicle (evs ++ evs') := by
  induction hl with
  | refl => simpa using h
  | move _ hm hc hs ih =>
    rw [← List.append_assoc]
    exact .move ih hm hc hs
  | quiet _ hc hs ih => exact .quiet ih hc hs

end leads

end EngineState

namespace Engine

open Sim ChannelState

theorem start_valid {config : EngineConfig} {link : Link} {filter : Option Log.Filter}
    {program : String} {w : World} (h : start config link filter program = .ok w) :
    config.validate = none := by
  unfold start at h
  split at h
  · cases h
  · assumption

theorem pump_serving (c : Channel) (p : ChannelState × Done) (w : World)
    (hfit : p.1.Fits w.engine.config.maxPayload) (small : w.engine.config.maxPayload ≤ 65535) :
    ∃ new, Serving w.engine.config c p new ((pump c p.1 p.2).run w).1 := by
  unfold pump
  obtain ⟨-, -, served⟩ := pumpWith_induction c
    (fun q w' => w'.engine = w.engine ∧ q.1.Fits w.engine.config.maxPayload ∧
      ∃ new, Serving w.engine.config c p new q)
    (fun s done w' idx cmd enabled idle clear hnext hcmd ⟨same, fits, new, served⟩ => by
      obtain ⟨attempt, kept, -⟩ := sendAttempt_run s idx done w' c hcmd
      rw [same] at attempt
      have fit : cmd.input.length ≤ 65535 := Nat.le_trans (fits cmd (List.mem_of_getElem? hcmd)) small
      exact ⟨kept.trans same, fits.attempt attempt, _,
        served.snoc enabled idle clear hnext hcmd (Wire.encode_of_le _ _ _ _ _ _ fit) attempt⟩)
    _ p.1 p.2 w ⟨rfl, hfit, [], .stop _⟩
  exact served

section leads

variable {w : World} {evs : List Happened}

theorem settled_leads {w1 : World} (same : w1.engine = w.engine) (c : Channel)
    {q : ChannelState × Done} {new : List (Nat × Happening)}
    (hm : (w.engine.channels.get c).Moves w.engine.config c new (stored q)) :
    w.engine.Leads (Happened.ofChannel c new) (settled c q w1).engine :=
  .single hm (by rw [settled_engine, same]) (by rw [settled_engine, same]; rfl)

theorem pumped_leads (h : w.engine.Chronicle evs) {w1 : World} (same : w1.engine = w.engine)
    (c : Channel) {p : ChannelState × Done} (hp : p.1.Fits w.engine.config.maxPayload)
    (hm : ∀ new q, Serving w.engine.config c p new q →
      ∃ labels, (w.engine.channels.get c).Moves w.engine.config c labels (stored q)) :
    ∃ evs', w.engine.Leads evs' (pumped c p w1).engine := by
  have small := EngineConfig.maxPayload_le_of_valid h.valid
  rw [← same] at hp small
  obtain ⟨new, served⟩ := pump_serving c p w1 hp small
  rw [same] at served
  obtain ⟨labels, moved⟩ := hm _ _ served
  exact ⟨_, settled_leads (by rw [pump_engine, same]) c moved⟩

theorem Dispatched.leads {f : Frame} {w' : World} (hd : Dispatched w f w')
    (h : w.engine.Chronicle evs) : ∃ evs', w.engine.Leads evs' w'.engine := by
  cases hd with
  | dropped _ stored config _ => exact ⟨_, .single (.drop _) config stored⟩
  | vanished _ _ same _ => exact ⟨[], .same same⟩
  | answered p w1 hidx hcmd answered same _ =>
    exact pumped_leads h same _ (((h.fits _).stopAt _).answer answered)
      fun _ _ served => ⟨_, .answer hidx hcmd answered served⟩

theorem TimedOut.leads {c : Channel} {handle generation : Nat} {w' : World}
    (hd : TimedOut w c handle generation w') (h : w.engine.Chronicle evs) :
    ∃ evs', w.engine.Leads evs' w'.engine := by
  cases hd with
  | stale _ => exact ⟨[], .refl⟩
  | expired p w1 _ hcmd _ hf expired same _ =>
    exact pumped_leads h same c (((h.fits c).stopAt _).expiry expired)
      fun _ _ served => ⟨_, .expire hcmd hf expired served⟩

theorem Cancelled.leads {c : Channel} {handle : Nat} {answer : Bool} {w' : World}
    (hd : Cancelled w c handle answer w') : ∃ evs', w.engine.Leads evs' w'.engine := by
  cases hd with
  | ignored w1 _ same _ =>
    exact ⟨[], .quiet .refl (by rw [settled_engine, same]) (by simp [settled_engine, same])⟩
  | dequeued w1 _ hcmd hsend same _ => exact ⟨_, settled_leads same c (.dequeue hcmd hsend)⟩
  | abandoned w1 _ hcmd hrun same _ => exact ⟨_, settled_leads same c (.abandon hcmd hrun)⟩

theorem Submitted.leads {c : Channel} {opcode : UInt16} {input : List UInt8} {owner : Owner}
    {r : Except EngineError Nat} {w' : World} (hd : Submitted w c opcode input owner r w')
    (h : w.engine.Chronicle evs) : ∃ evs', w.engine.Leads evs' w'.engine := by
  cases hd with
  | tooLarge _ => exact ⟨[], .refl⟩
  | disabled _ _ => exact ⟨[], .refl⟩
  | queued w1 fits on same _ =>
    exact pumped_leads h same c ((h.fits c).enqueue _ _ fits)
      fun _ _ served => ⟨_, .submit on fits served⟩

theorem enable_leads (c : Channel) : ∃ evs', w.engine.Leads evs' ((enable c).run w).2.engine := by
  obtain ⟨stored, -⟩ := enable_run c w
  split at stored
  · next ready => exact ⟨_, .single (.enable ready.1) (by rw [stored]) (by rw [stored])⟩
  · exact ⟨[], .same stored⟩

theorem disable_leads (c : Channel) :
    w.engine.Leads (Happened.ofChannel c (w.engine.channels.get c).closeLabels)
      ((disable c).run w).2.engine :=
  .single (.close _) (by rw [disable_engine]) (by rw [disable_engine])

theorem shutdown_leads : ∃ evs', w.engine.Leads evs' (shutdown.run w).2.engine :=
  shutdown_relates (R := fun u v => ∃ evs', u.engine.Leads evs' v.engine) (fun _ => ⟨[], .refl⟩)
    (fun ⟨_, first⟩ ⟨_, later⟩ => ⟨_, first.trans later⟩) (fun c _ => ⟨_, disable_leads c⟩)
    (fun _ _ _ _ _ => ⟨[], by rw [emit_engine]; exact .refl⟩) w

theorem receive_leads (bytes : List UInt8) (h : w.engine.Chronicle evs) :
    ∃ evs', w.engine.Leads evs' ((receive bytes).run w).2.engine := by
  rcases receive_run bytes w with ⟨_, _, stored, _⟩ | ⟨_, _, dispatched⟩
  · exact ⟨[], .quiet .refl (receive_frame bytes w).1 stored⟩
  · exact dispatched.leads h

theorem Action.step_leads (a : Action) (h : w.engine.Chronicle evs) :
    ∃ evs', w.engine.Leads evs' (a.step w).engine := by
  cases a with
  | enable c => rw [Action.step_enable]; exact enable_leads c
  | disable c => rw [Action.step_disable]; exact ⟨_, disable_leads c⟩
  | shutdown => rw [Action.step_shutdown]; exact shutdown_leads
  | submit c opcode input owner =>
    rw [Action.step_submit]
    exact (submit_run c opcode input owner w).leads h
  | cancel c handle => rw [Action.step_cancel]; exact (cancel_run c handle w).leads
  | receive bytes => rw [Action.step_receive]; exact receive_leads bytes h
  | attemptTimedOut c handle generation =>
    rw [Action.step_attemptTimedOut]
    exact (attemptTimedOut_run c handle generation w).leads h
  | backoffElapsed c =>
    rw [Action.step_backoffElapsed, backoffElapsed_run]
    exact pumped_leads h rfl c ((h.fits c).congr rfl) fun _ _ served => ⟨_, .resume served⟩

theorem Action.step_chronicle (a : Action) (h : w.engine.Chronicle evs) :
    ∃ evs', (a.step w).engine.Chronicle evs' := by
  obtain ⟨_, led⟩ := a.step_leads h
  exact ⟨_, h.leads led⟩

end leads

theorem Reachable.chronicle {w : World} (hw : Reachable w) : ∃ evs, w.engine.Chronicle evs := by
  induction hw with
  | start started => exact ⟨[], by rw [start_engine started]; exact .start (start_valid started)⟩
  | act a _ ih =>
    obtain ⟨evs, h⟩ := ih
    exact a.step_chronicle h
  | outside _ same ih =>
    obtain ⟨evs, h⟩ := ih
    exact ⟨evs, by rw [same]; exact h⟩

end Engine

end FrameRpc
