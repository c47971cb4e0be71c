import FrameRpc.Proofs.Engine.Lifecycle
set_option autoImplicit false

/-!
The order in which a channel serves its commands.

Main statement: `requests_in_handle_order`. Along every history of an engine, the requests
a channel hands to the link, taken or refused, belong to commands in the order of their
handles, and handles are given in the order commands are queued, across disabling and
enabling. So all attempts of one command come together, before any attempt of a command
queued after it. A command that has finished (with an outcome, or cancelled by its owner or
by disabling) or that was cancelled while running never has a request handed to the link
again.

The orders come straight from `ChannelState.Told`. The last part comes from the shape of a
command's story: everything in it before its last happening leaves the command open.
-/

namespace FrameRpc

namespace History

theorem rel_of_split {R : Nat → Nat → Prop} {S A M C : List Nat} {a b : Nat} (hS : S.Pairwise R)
    (h : S = A ++ a :: (M ++ b :: C)) : R a b := by
  subst h
  exact List.rel_of_pairwise_cons (List.pairwise_append.mp hS).2.1
    (List.mem_append_right _ List.mem_cons_self)

theorem handles_split {p : Happening → Bool} (pre mid post : List (Nat × Happening)) {h h' : Nat}
    {x y : Happening} (hx : p x = true) (hy : p y = true) :
    handles p (pre ++ (h, x) :: (mid ++ (h', y) :: post)) =
      handles p pre ++ h :: (handles p mid ++ h' :: handles p post) := by
  simp [handles, hx, hy]

theorem mem_story {hist : List (Nat × Happening)} {h : Nat} {y : Happening} (hy : (h, y) ∈ hist) :
    y ∈ story hist h :=
  List.mem_filterMap.mpr ⟨(h, y), hy, by simp⟩

theorem closes_last {A B pre post : List Happening} {x : Happening}
    (hA : ∀ y ∈ A, y.closes = false) (hB : B.length ≤ 1) (h : pre ++ x :: post = A ++ B)
    (hx : x.closes = true) : post = [] := by
  rcases List.append_eq_append_iff.mp h with ⟨as, hA', tail⟩ | ⟨bs, -, hB'⟩
  · cases as with
    | nil =>
      rw [List.nil_append] at tail
      rw [← tail, List.length_cons] at hB
      exact List.eq_nil_of_length_eq_zero (by omega)
    | cons a as =>
      obtain ⟨rfl, -⟩ := List.cons_eq_cons.mp tail
      have := hA x (by rw [hA']; simp)
      rw [hx] at this
      cases this
  · rw [hB', List.length_append, List.length_cons] at hB
    exact List.eq_nil_of_length_eq_zero (by omega)

end History

open History

theorem Failure.open {r : List Happening} (h : Failure r) : ∀ y ∈ r, y.closes = false := by
  cases h <;> simp [Happening.closes]

theorem Tries.open {n : Nat} {w : List Happening} (h : Tries n w) : ∀ y ∈ w, y.closes = false := by
  induction h with
  | none => simp
  | more _ failure ih =>
    intro y hy
    rcases List.mem_append.mp hy with old | new
    · exact ih y old
    · exact failure.open y new

theorem Ending.open {budget n : Nat} {e : List Happening} (h : Ending budget n e) :
    ∃ e0 z, e = e0 ++ [z] ∧ ∀ y ∈ e0, y.closes = false := by
  cases h with
  | cancelled _ => exact ⟨[], _, rfl, by simp⟩
  | closed _ => exact ⟨[.sent true], _, rfl, by simp [Happening.closes]⟩
  | reaped _ => exact ⟨[.sent true], _, rfl, by simp [Happening.closes]⟩
  | completed _ _ => exact ⟨[.sent true], _, rfl, by simp [Happening.closes]⟩
  | rejected _ _ _ => exact ⟨[.sent true], _, rfl, by simp [Happening.closes]⟩
  | unsent _ => exact ⟨[.sent false], _, rfl, by simp [Happening.closes]⟩
  | busy _ => exact ⟨[.sent true, .busy], _, rfl, by simp [Happening.closes]⟩
  | timedOut _ => exact ⟨[.sent true, .expired], _, rfl, by simp [Happening.closes]⟩

theorem Command.Lived.open {budget : Nat} {cmd : Command} {story : List Happening}
    (h : cmd.Lived budget story) :
    ∃ A B, story = A ++ B ∧ (∀ y ∈ A, y.closes = false) ∧ B.length ≤ 1 := by
  obtain ⟨w, tries, -, rfl⟩ := h
  have quiet : ∀ y ∈ Happening.queued :: w, y.closes = false := by
    intro y hy
    rcases List.mem_cons.mp hy with rfl | hy
    · rfl
    · exact tries.open y hy
  have sent : ∀ y ∈ Happening.queued :: (w ++ [.sent true]), y.closes = false := by
    intro y hy
    rw [← List.cons_append] at hy
    rcases List.mem_append.mp hy with old | new
    · exact quiet y old
    · rw [List.mem_singleton.mp new]
      rfl
  cases cmd.state with
  | queued | retry => exact ⟨.queued :: w, [], by simp [CommandState.trail], quiet, by simp⟩
  | running => exact ⟨.queued :: (w ++ [.sent true]), [], by simp [CommandState.trail], sent, by simp⟩
  | runningCancelled =>
    exact ⟨.queued :: (w ++ [.sent true]), [.abandoned], by simp [CommandState.trail], sent, by simp⟩

theorem Ended.open {budget : Nat} {story : List Happening} (h : Ended budget story) :
    ∃ A B, story = A ++ B ∧ (∀ y ∈ A, y.closes = false) ∧ B.length ≤ 1 := by
  rcases h with rfl | ⟨n, w, e, tries, ending, rfl⟩
  · exact ⟨[], [], rfl, by simp, by simp⟩
  · obtain ⟨e0, z, rfl, quiet⟩ := ending.open
    refine ⟨.queued :: (w ++ e0), [z], by simp, fun y hy => ?_, by simp⟩
    rcases List.mem_cons.mp hy with rfl | hy
    · rfl
    · rcases List.mem_append.mp hy with old | new
      · exact tries.open y old
      · exact quiet y new

theorem ChannelState.Told.lived_or_ended {budget : Nat} {s : ChannelState}
    {hist : List (Nat × Happening)} (ht : s.Told budget hist) (h : Nat) :
    (∃ cmd ∈ s.pending, cmd.handle = h ∧ cmd.Lived budget (story hist h)) ∨
      Ended budget (story hist h) := by
  by_cases present : ∃ cmd ∈ s.pending, cmd.handle = h
  · obtain ⟨cmd, hcmd, rfl⟩ := present
    exact .inl ⟨cmd, hcmd, rfl, ht.lived cmd hcmd⟩
  · exact .inr (ht.ended h fun cmd hcmd same => present ⟨cmd, hcmd, same⟩)

theorem ChannelState.Told.closes_last {budget : Nat} {s : ChannelState}
    {hist : List (Nat × Happening)} (ht : s.Told budget hist) (h : Nat) {pre post : List Happening}
    {x : Happening} (hs : story hist h = pre ++ x :: post) (hx : x.closes = true) : post = [] := by
  obtain ⟨A, B, split, quiet, short⟩ :
      ∃ A B, story hist h = A ++ B ∧ (∀ y ∈ A, y.closes = false) ∧ B.length ≤ 1 := by
    rcases ht.lived_or_ended h with ⟨cmd, -, -, lived⟩ | ended
    · exact lived.open
    · exact ended.open
  exact History.closes_last quiet short (hs ▸ split) hx

namespace Engine

open Sim

/-- Along every history of an engine, on every channel: the requests handed to the link,
taken or refused, are of commands in non-decreasing handle order, and commands are queued in
increasing handle order, across disabling and enabling. So all attempts of one command come
together, and no attempt of a command queued later comes before one of a command queued
earlier. Once a command has finished (with an outcome, or cancelled by its owner or by
disabling) or been cancelled while running, no request of it is handed to the link again. -/
theorem requests_in_handle_order {e : EngineState} {evs : List Happened} (h : e.Chronicle evs)
    (c : Channel) :
    let hist := Happened.on c evs
    (handles Happening.isSent hist).Pairwise (· ≤ ·) ∧
    (∀ pre mid post (handle : Nat) (b b' : Bool),
      hist = pre ++ (handle, .sent b) :: (mid ++ (handle, .sent b') :: post) →
      ∀ other ∈ handles Happening.isSent mid, other = handle) ∧
    (∀ pre mid post (first later : Nat),
      hist = pre ++ (first, .queued) :: (mid ++ (later, .queued) :: post) →
      ∀ pre' mid' post' (b b' : Bool),
        hist ≠ pre' ++ (later, .sent b') :: (mid' ++ (first, .sent b) :: post')) ∧
    (∀ pre post (handle : Nat) (x : Happening), hist = pre ++ (handle, x) :: post →
      x.closes = true → ∀ b, (handle, .sent b) ∉ post) := by
  dsimp only
  have told := h.told c
  have sorted := told.sent_sorted
  refine ⟨sorted, ?_, ?_, ?_⟩
  · -- a send between two sends of one command is of a handle between, so of that command
    intro pre mid post handle b b' split other hother
    rw [split, handles_split pre mid post rfl rfl] at sorted
    obtain ⟨A, C, hmid⟩ := List.append_of_mem hother
    rw [hmid] at sorted
    have above := rel_of_split sorted (A := handles Happening.isSent pre) (a := handle) (M := A)
      (b := other) (C := C ++ handle :: handles Happening.isSent post) (by simp)
    have below := rel_of_split sorted (A := handles Happening.isSent pre ++ handle :: A)
      (a := other) (M := C) (b := handle) (C := handles Happening.isSent post) (by simp)
    exact Nat.le_antisymm below above
  · -- the later command has the larger handle, and sends go by handle
    intro pre mid post first later queued pre' mid' post' b b' sent
    have rising := rel_of_split told.queued_sorted
      (by rw [queued, handles_split pre mid post rfl rfl])
    have falling := rel_of_split sorted (by rw [sent, handles_split pre' mid' post' rfl rfl])
    exact absurd rising (Nat.not_lt.mpr falling)
  · intro pre post handle x split closes b sent
    have tail : story (Happened.on c evs) handle = story pre handle ++ x :: story post handle := by
      rw [split, story_append, story_cons_self]
    have nothing := told.closes_last handle tail closes
    have later := mem_story sent
    rw [nothing] at later
    cases later

theorem requests_in_handle_order_after_submit :
    let w := (Action.submit .control 7 [1, 2] (.callback 1)).step ((Action.enable .control).step
      (World.initial EngineConfig.default (.recorder ⟨#[], [], true⟩) none ""))
    ∃ evs, w.engine.Chronicle evs ∧
    let hist := Happened.on .control evs
    (handles Happening.isSent hist).Pairwise (· ≤ ·) ∧
    (∀ pre mid post (handle : Nat) (b b' : Bool),
      hist = pre ++ (handle, .sent b) :: (mid ++ (handle, .sent b') :: post) →
      ∀ other ∈ handles Happening.isSent mid, other = handle) ∧
    (∀ pre mid post (first later : Nat),
      hist = pre ++ (first, .queued) :: (mid ++ (later, .queued) :: post) →
      ∀ pre' mid' post' (b b' : Bool),
        hist ≠ pre' ++ (later, .sent b') :: (mid' ++ (first, .sent b) :: post')) ∧
    (∀ pre post (handle : Nat) (x : Happening), hist = pre ++ (handle, x) :: post →
      x.closes = true → ∀ b, (handle, .sent b) ∉ post) := by
  intro w
  have reached : Reachable w := Reachable.act _ (Reachable.act _ (Reachable.initial _ _ _ (by decide)))
  obtain ⟨evs, h⟩ := reached.chronicle
  exact ⟨evs, h, requests_in_handle_order h .control⟩

end Engine

end FrameRpc
