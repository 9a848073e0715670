import IfaceTester.QueueMachine

/-!
# The capacity of the event queue

`MAX_EVENTS` is the number of events that may be stacked at any one time. But
`handle_events` frees no slot before its loop ends. An event that a handler adds is
refused when that many events were accepted in the drain, although some of their handlers
have returned. This is so exactly when a handler other than the first of the drain finds
no free slot (`QueueMachine.OverflowsLate`).
-/

set_option autoImplicit false

namespace IfaceTester

open Runs Service

namespace QueueMachine

variable {σ ε : Type} {handler : σ → ε → HandlerRun σ ε} {m t : QueueMachine σ ε}
  {server : Server ε} {event : ε}

/-- The event that is being added finds no free slot. -/
def Refuses (m : QueueMachine σ ε) (event : ε) : Prop :=
  m.control = .addEvent event ∧ maxEvents ≤ m.queue.events.length

/-- A handler other than the first one of the drain adds an event that finds no free
slot. -/
def OverflowsLate (m : QueueMachine σ ε) : Prop :=
  ∃ event resume index current, m.Refuses event ∧
    m.stack = [.adding resume, .handling index current] ∧ 0 < index

/-- The log says that an event is refused when it finds no free slot. -/
theorem tick_refuses (moved : m.tick handler = some t) :
    t.log = m.log ++ [.refused event] ↔ m.Refuses event := by
  have logs := tick_logged moved
  constructor
  · intro logged
    obtain ⟨adds, full, -⟩ := logs.refused event logged
    exact ⟨adds, full.ge⟩
  · rintro ⟨adds, full⟩
    refine (logs.offered event adds).resolve_left fun logged => ?_
    have stored := congrArg List.length (logs.accepted event logged).2
    rw [List.length_append, List.length_singleton] at stored
    have bounded := t.queue.bounded
    omega

/-- **When an event is refused, the load of the server is that of the slots from the
one at work on.** -/
theorem Places.load_of_refuses (placed : Places m.control m.stack m.queue.events server)
    (refuses : m.Refuses event) : maxEvents ≤ server.load ↔ ¬ m.OverflowsLate := by
  obtain ⟨⟨events, bounded⟩, state, control, stack, log⟩ := m
  obtain ⟨adds, full⟩ := refuses
  subst adds
  cases placed with
  | add event => exact absurd full (Nat.not_succ_le_zero 2)
  | @nestedAdd _ index current slot resume added =>
      have inside : index < events.length := (List.getElem?_eq_some_iff.mp slot).1
      have load : Server.load ⟨events.drop (index + 1), some current⟩ = events.length - index := by
        rw [Server.load, List.length_drop, Option.toList_some, List.length_singleton]
        omega
      rw [load]
      constructor
      · rintro room ⟨_, _, index', _, _, same, late⟩
        cases same
        simp only at full
        omega
      · intro early
        have first : index = 0 := Nat.eq_zero_of_not_pos fun late =>
          early ⟨event, resume, index, current, ⟨rfl, full⟩, rfl, late⟩
        rw [first]
        exact full

/-- **A step refuses an event too early exactly when the drain overflows late.** -/
theorem tick_refusedAt (accounted : m.Accounted) (moved : m.tick handler = some t) :
    RefusedAt maxEvents t.log ↔ RefusedAt maxEvents m.log ∧ ¬ m.OverflowsLate := by
  obtain ⟨server, placed, tells⟩ := accounted
  obtain ⟨entries, later, logged, advances, _⟩ := placed.step moved
  cases advances with
  | rests =>
      have quiet : ¬ m.OverflowsLate := by
        rintro ⟨event, _, _, _, refuses, _⟩
        have refused := (tick_refuses moved).mpr refuses
        simp [logged] at refused
      rw [logged, List.append_nil, and_iff_left quiet]
  | @serves _ entry serves =>
      have load : (∀ event, entry = .refused event →
          (finished m.log).length + maxEvents ≤ (accepted m.log).length) ↔ ¬ m.OverflowsLate := by
        constructor
        · rintro refusedAt late
          obtain ⟨event, _, _, _, refuses, _⟩ := id late
          have refused := (tick_refuses moved).mpr refuses
          rw [logged, List.append_cancel_left_eq, List.singleton_inj] at refused
          have room := refusedAt event refused
          rw [tells.load_eq] at room
          exact (placed.load_of_refuses refuses).mp (Nat.le_of_add_le_add_left room) late
        · rintro early event rfl
          have refuses := (tick_refuses moved).mp logged
          rw [tells.load_eq]
          exact Nat.add_le_add_left ((placed.load_of_refuses refuses).mpr early) _
      rw [logged, refusedAt_concat, load]

end QueueMachine

open QueueMachine

section Runs

variable {σ ε : Type}

/-- **Events are dropped only when the queue is really full**, exactly in the runs in
which no handler but the first of a drain adds an event that finds no free slot. -/
theorem refused_only_when_full_iff (handler : σ → ε → HandlerRun σ ε) (state : σ)
    (inputs : List (QueueInput σ ε)) :
    (∀ t, Visits (queueStep handler) (.outside state) inputs t → RefusedAt maxEvents t.log) ↔
      ∀ s t, Takes (queueStep handler) (.outside state) inputs s .tick t → ¬ s.OverflowsLate := by
  constructor
  · intro refusedAt s t taken
    have accounted := accounted_of_visits taken.source
    exact ((tick_refusedAt accounted taken.step_eq).mp (refusedAt t taken.target)).2
  · intro early t visited
    refine visits_of_invariant (I := fun m => RefusedAt maxEvents m.log) ?_ refusedAt_nil visited
    intro s input u taken refusedAt
    cases input with
    | call state event =>
        obtain ⟨queue, old, control, stack, log⟩ := s
        have stepped := taken.step_eq
        cases control <;> cases stepped
        exact refusedAt
    | tick =>
        have accounted := accounted_of_visits taken.source
        exact (tick_refusedAt accounted taken.step_eq).mpr ⟨refusedAt, early s u taken⟩

end Runs

/-- Each handler adds the next event, up to the last. -/
def chain (last : ℕ) (_ : Unit) (event : ℕ) : HandlerRun Unit ℕ :=
  if event < last then .adds () (event + 1) .returns else .returns ()

/-- The first event of a chain of four is added, and its drain runs to the end. -/
def chainOfFour : List (QueueInput Unit ℕ) := .call () 0 :: List.replicate 21 .tick

/-- **A chain of four events loses the last one.** It is refused although the first two
handlers have returned. -/
theorem chain_loses_event : ¬ ∀ t,
    Visits (queueStep (chain 3)) (.outside ()) chainOfFour t → RefusedAt maxEvents t.log := by
  intro refusedAt
  have logged : (run (queueStep (chain 3)) (.outside ()) chainOfFour).map QueueMachine.log =
      some ([.accepted 0, .started 0, .accepted 1, .finished 0, .started 1, .accepted 2,
        .finished 1, .started 2] ++ .refused 3 :: [.finished 2]) := by
    decide +kernel
  obtain ⟨t, reached, log⟩ := Option.map_eq_some_iff.mp logged
  have full := refusedAt t (visits_last reached) _ 3 _ log
  exact absurd full (by decide)

end IfaceTester
