import FrameRpc.Proofs.Bench.Blocking
import FrameRpc.Bench.Soak
set_option autoImplicit false

/-!
The per-channel entries of a soak report.

The report is keyed by channel name, one entry per name. Its entries are made from the
channels of the plan in order: the first entry for a channel carries the merged tally of
its workers, and a later one for the same channel an empty tally, which replaces the first
since an entry for a name replaces the one before it. So a channel that the plan names twice
or more is reported with no outcome at all, however many calls its workers made
(`soak_repeated_channel_empty`).
-/

namespace FrameRpc.Bench

open Sim

theorem Channel.name_inj {c d : Channel} (h : c.name = d.name) : c = d := by
  revert h
  cases c <;> cases d <;> decide

section insert

variable {α : Type} (a : α)

theorem lookup_cons_self (c : Channel) (rest : List (Channel × α)) :
    ((c, a) :: rest).lookup c = some a := by
  rw [List.lookup_cons, beq_self_eq_true]

theorem lookup_cons_ne {c d : Channel} (h : c ≠ d) (rest : List (Channel × α)) :
    ((d, a) :: rest).lookup c = rest.lookup c := by
  have differ : (c == d) = false := beq_eq_false_iff_ne.mpr h
  rw [List.lookup_cons, differ]

theorem lookup_insertByName_self (c : Channel) (acc : List (Channel × α)) :
    (insertByName c a acc).lookup c = some a := by
  induction acc with
  | nil => exact lookup_cons_self a c []
  | cons e rest ih =>
    obtain ⟨d, b⟩ := e
    by_cases same : c.name = d.name
    · simp only [insertByName, same, beq_self_eq_true, ↓reduceIte, lookup_cons_self]
    · have other : c ≠ d := fun h => same (h ▸ rfl)
      by_cases before : c.name < d.name
      · simp only [insertByName, same, before, beq_iff_eq, ↓reduceIte, lookup_cons_self]
      · simp only [insertByName, same, before, beq_iff_eq, ↓reduceIte, lookup_cons_ne b other, ih]

theorem lookup_insertByName_other {c d : Channel} (hd : d ≠ c) (acc : List (Channel × α)) :
    (insertByName c a acc).lookup d = acc.lookup d := by
  induction acc with
  | nil => exact lookup_cons_ne a hd []
  | cons e rest ih =>
    obtain ⟨e, b⟩ := e
    by_cases same : c.name = e.name
    · -- the entry replaced is the one of `c` itself
      have hce : c = e := Channel.name_inj same
      subst hce
      simp only [insertByName, beq_self_eq_true, ↓reduceIte, lookup_cons_ne _ hd]
    · by_cases before : c.name < e.name
      · simp only [insertByName, same, before, beq_iff_eq, ↓reduceIte, lookup_cons_ne _ hd]
      · simp only [insertByName, same, before, beq_iff_eq, ↓reduceIte]
        by_cases de : d = e
        · subst de
          rw [lookup_cons_self, lookup_cons_self]
        · rw [lookup_cons_ne _ de, lookup_cons_ne _ de, ih]

end insert

section entries

variable (tallies : List (Channel × Tally))

theorem lookup_reportEntries_absent {c : Channel} :
    ∀ (statuses : List ChannelStatus) (seen : List Channel) (acc : List (Channel × ChannelReport)),
      c ∉ statuses.map (·.channel) →
      (reportEntries tallies statuses seen acc).lookup c = acc.lookup c
  | [], _, _, _ => rfl
  | st :: rest, seen, acc, absent => by
    have hd : c ≠ st.channel := fun h => absent (by simp [h])
    have later : c ∉ rest.map (·.channel) := fun h => absent (List.mem_cons_of_mem _ h)
    rw [reportEntries, lookup_reportEntries_absent rest _ _ later, lookup_insertByName_other _ hd]

theorem lookup_reportEntries_seen {c : Channel} :
    ∀ (statuses : List ChannelStatus) (seen : List Channel) (acc : List (Channel × ChannelReport)),
      c ∈ seen → c ∈ statuses.map (·.channel) →
      ((reportEntries tallies statuses seen acc).lookup c).map (·.outcomes) = some Tally.zero
  | [], _, _, _, present => by simp at present
  | st :: rest, seen, acc, hseen, present => by
    rw [reportEntries]
    by_cases later : c ∈ rest.map (·.channel)
    · exact lookup_reportEntries_seen rest _ _ (List.mem_cons_of_mem _ hseen) later
    · -- the status of `c` is the last one to name it
      have hst : c = st.channel := by simpa [later] using present
      subst hst
      rw [lookup_reportEntries_absent _ _ _ _ later, lookup_insertByName_self]
      simp [hseen]

theorem lookup_reportEntries_repeated {c : Channel} :
    ∀ (statuses : List ChannelStatus) (seen : List Channel) (acc : List (Channel × ChannelReport)),
      2 ≤ (statuses.map (·.channel)).count c →
      ((reportEntries tallies statuses seen acc).lookup c).map (·.outcomes) = some Tally.zero
  | [], _, _, twice => by simp at twice
  | st :: rest, seen, acc, twice => by
    rw [reportEntries]
    by_cases hst : st.channel = c
    · -- the first status of `c` marks it seen, and another one follows
      have later : c ∈ rest.map (·.channel) := by
        apply List.count_pos_iff.mp
        simp only [List.map_cons, hst, List.count_cons_self] at twice
        omega
      exact lookup_reportEntries_seen tallies rest _ _ (hst ▸ List.mem_cons_self ..) later
    · have twice' : 2 ≤ (rest.map (·.channel)).count c := by
        simpa [List.count_cons, hst] using twice
      exact lookup_reportEntries_repeated rest _ _ twice'

end entries

theorem mapM_status_channels (w : World) :
    ∀ l : List Channel, (((l.mapM Engine.status).run w).1.map (·.channel)) = l
  | [] => rfl
  | c :: rest => by
    simp only [List.mapM_cons, run_bind, status_run, run_pure, List.map_cons,
      mapM_status_channels w rest]
    rfl

theorem soak_channels (p : SoakPlan) (w : World) :
    ∃ (tallies : List (Channel × Tally)) (statuses : List ChannelStatus),
      statuses.map (·.channel) = p.channels ∧
      ((soak p).run w).1.channels = reportEntries tallies statuses [] [] := by
  simp only [soak, run_bind, run_pure]
  exact ⟨_, _, mapM_status_channels _ p.channels, rfl⟩

/-- A channel that a soak plan names twice or more is reported with an empty tally: the
outcomes of its calls are lost. -/
theorem soak_repeated_channel_empty (p : SoakPlan) (w : World) (c : Channel)
    (twice : 2 ≤ p.channels.count c) :
    (((soak p).run w).1.channels.lookup c).map (·.outcomes) = some Tally.zero := by
  obtain ⟨tallies, statuses, named, entries⟩ := soak_channels p w
  rw [entries]
  exact lookup_reportEntries_repeated tallies statuses [] [] (by rw [named]; exact twice)

/-- The soak of the bench's tests: four calls on the control channel, named twice, with two
workers each, against a peer that answers every request at once. -/
def repeatedControl : SoakPlan :=
  { channels := [.control, .control], calls := 4, concurrency := 2, payloadLen := 8,
    faults := { busy := 0, loss := 0, queueFull := 0, latency := 1 } }

theorem soak_repeated_channel_empty_on_control :
    2 ≤ repeatedControl.channels.count .control ∧
    (((soak repeatedControl).run (World.initial EngineConfig.default
        (.peer { addressing := EngineConfig.default.addressing, faults := repeatedControl.faults,
                 attached := true, stats := PeerStats.zero }) none "")).1.channels.lookup .control).map
        (·.outcomes) = some Tally.zero :=
  ⟨by decide, soak_repeated_channel_empty _ _ _ (by decide)⟩

/-- The soak above makes eight calls on the control channel, four for each time it is
named, and reports none of them. -/
theorem soak_loses_repeated_calls :
    ∃ report records, runSoak EngineConfig.default repeatedControl none "" = .ok (report, records) ∧
      (report.channels.lookup .control).map (·.outcomes.total) = some 0 ∧
      repeatedControl.calls * repeatedControl.channels.count .control = 8 := by
  obtain ⟨w, started⟩ : ∃ w, Engine.start EngineConfig.default
      (.peer { addressing := EngineConfig.default.addressing, faults := repeatedControl.faults,
               attached := true, stats := PeerStats.zero }) none "" = .ok w :=
    ⟨_, by rw [Engine.start, EngineConfig.validate_default]⟩
  obtain ⟨tallies, statuses, named, entries⟩ := soak_channels repeatedControl w
  generalize hrun : (soak repeatedControl).run w = run at entries
  obtain ⟨report, w'⟩ := run
  refine ⟨report, w'.records.toList, ?_, ?_, by decide⟩
  · rw [runSoak, started]
    simp only [bind, Except.bind, hrun]
    rfl
  · have empty := lookup_reportEntries_repeated tallies statuses [] [] (c := .control)
      (by rw [named]; decide)
    obtain ⟨entry, found, hz⟩ := Option.map_eq_some_iff.mp empty
    rw [show report.channels = _ from entries, found, Option.map_some, hz]
    rfl

end FrameRpc.Bench
