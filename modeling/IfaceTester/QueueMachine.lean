import IfaceTester.EventQueue
import IfaceTester.Foundations.Runs
import IfaceTester.Foundations.Service

/-!
# The event queue, one step at a time

The functions of `event_queue.c` as a machine with the calls that wait on a stack.
Nothing is fixed here about how deep the calls nest or which of them drains the queue.
The machine also writes a log of the events it accepts and refuses and of the handlers
it starts and finishes. No step reads the log, and what a step writes is what it does to
the slots and to the handlers (`tick_logged`).

The machine is a server of events (`QueueMachine.Places`, `Places.step`). So its log is
that of a server in every run, whatever the handlers do (`accounted_of_visits`).
-/

set_option autoImplicit false

namespace IfaceTester

open Runs Service

/-- Where the program is. -/
inductive QueueControl (σ ε : Type) where
  /-- No function of the queue is running. -/
  | outside
  | addEvent (event : ε)
  | handleEvents
  /-- The loop of `handle_events`, before the test. -/
  | loop (index : ℕ)
  /-- A handler, with what it still does. -/
  | handler (rest : HandlerRun σ ε)
  /-- `event_queue_add_event` returns. -/
  | leave

/-- A call that waits for another one. `handle_events` is the last thing that
`event_queue_add_event` calls, so the two share a frame. -/
inductive QueueFrame (σ ε : Type) where
  /-- `handle_events` waits for the handler of the event in a slot. -/
  | handling (index : ℕ) (event : ε)
  /-- A handler waits for an event to be added. -/
  | adding (resume : σ → HandlerRun σ ε)

/-- The queue, the state that the handlers work on, and the calls. -/
structure QueueMachine (σ ε : Type) where
  queue : EventQ ε
  state : σ
  control : QueueControl σ ε
  stack : List (QueueFrame σ ε)
  log : List (Entry ε)

/-- From outside the program may add an event, and may have changed the state before.
With `tick` the call that is running goes on. -/
inductive QueueInput (σ ε : Type) where
  | call (state : σ) (event : ε)
  | tick

namespace QueueMachine

variable {σ ε : Type} {handler : σ → ε → HandlerRun σ ε}

/-- After `event_queue_init`. -/
def outside (state : σ) : QueueMachine σ ε := ⟨.empty, state, .outside, [], []⟩

/-- What the functions of the queue do next. -/
def tick (handler : σ → ε → HandlerRun σ ε) (m : QueueMachine σ ε) : Option (QueueMachine σ ε) :=
  match m.control, m.stack with
  | .outside, _ => none
  | .addEvent event, _ =>
      if room : m.queue.events.length < maxEvents then
        some
          { m with
            queue := m.queue.push event room
            control := .handleEvents
            log := m.log ++ [.accepted event] }
      else some { m with control := .leave, log := m.log ++ [.refused event] }
  | .handleEvents, _ =>
      if m.queue.events.length > 1 then some { m with control := .leave }
      else some { m with control := .loop 0 }
  | .loop index, stack =>
      match m.queue.events[index]? with
      | none => some { m with queue := .empty, control := .leave }
      | some event =>
          some
            { m with
              control := .handler (handler m.state event)
              stack := .handling index event :: stack
              log := m.log ++ [.started event] }
  | .handler (.adds state event resume), stack =>
      some { m with state := state, control := .addEvent event, stack := .adding resume :: stack }
  | .handler (.returns state), .handling index event :: stack =>
      some
        { m with
          state := state
          control := .loop (index + 1)
          stack := stack
          log := m.log ++ [.finished event] }
  | .handler (.returns _), _ => none
  | .leave, [] => some { m with control := .outside }
  | .leave, .adding resume :: stack =>
      some { m with control := .handler (resume m.state), stack := stack }
  | .leave, .handling _ _ :: _ => none

end QueueMachine

variable {σ ε : Type}

/-- The step of the machine. An event is added from outside only when no call is
running. -/
def queueStep (handler : σ → ε → HandlerRun σ ε) (m : QueueMachine σ ε) :
    QueueInput σ ε → Option (QueueMachine σ ε)
  | .call state event =>
      match m.control with
      | .outside => some { m with state := state, control := .addEvent event }
      | _ => none
  | .tick => m.tick handler

/-! ## The log of a step -/

section Logged

variable {handler : σ → ε → HandlerRun σ ε} {m t : QueueMachine σ ε}

/-- The log of a step is true: what the step writes is what it does to the slots and to the
handlers. -/
structure Logged (handler : σ → ε → HandlerRun σ ε) (m t : QueueMachine σ ε) : Prop where
  /-- An event that is to be added is accepted or refused. -/
  offered : ∀ event, m.control = .addEvent event →
    t.log = m.log ++ [.accepted event] ∨ t.log = m.log ++ [.refused event]
  /-- It is accepted with the next slot. -/
  accepted : ∀ event, t.log = m.log ++ [.accepted event] →
    m.control = .addEvent event ∧ t.queue.events = m.queue.events ++ [event]
  /-- It is refused when all slots are in use, and they stay as they are. -/
  refused : ∀ event, t.log = m.log ++ [.refused event] →
    m.control = .addEvent event ∧ m.queue.events.length = maxEvents ∧ t.queue = m.queue
  /-- The loop takes the event from its slot to its handler, which starts from the state that
  is there. -/
  started : ∀ event, t.log = m.log ++ [.started event] ↔
    ∃ index, m.control = .loop index ∧ m.queue.events[index]? = some event ∧
      t.control = .handler (handler m.state event) ∧ t.stack = .handling index event :: m.stack ∧
      t.queue = m.queue
  /-- A handler that adds an event calls the queue and waits. -/
  calls : ∀ state event resume, m.control = .handler (.adds state event resume) →
    t.control = .addEvent event ∧ t.state = state ∧ t.stack = .adding resume :: m.stack ∧
      t.log = m.log
  /-- When the call returns, the handler goes on from the state that it finds. -/
  resumed : ∀ resume stack, m.control = .leave → m.stack = .adding resume :: stack →
    t.control = .handler (resume m.state) ∧ t.stack = stack ∧ t.log = m.log
  /-- The handler of an event returns to the loop, which goes on with the next slot. -/
  finished : ∀ event, t.log = m.log ++ [.finished event] ↔
    ∃ index, m.control = .handler (.returns t.state) ∧
      m.stack = .handling index event :: t.stack ∧ t.control = .loop (index + 1) ∧
      t.queue = m.queue

/-- **Every step logs what it does.** -/
theorem tick_logged (moved : m.tick handler = some t) : Logged handler m t := by
  obtain ⟨queue, state, control, stack, log⟩ := m
  cases control with
  | outside => cases moved
  | addEvent event =>
      by_cases room : queue.events.length < maxEvents
      · simp only [QueueMachine.tick, dif_pos room, Option.some.injEq] at moved
        subst moved
        constructor <;> simp [EventQ.push]
      · have full : queue.events.length = maxEvents := queue.bounded.antisymm (Nat.not_lt.mp room)
        simp only [QueueMachine.tick, dif_neg room, Option.some.injEq] at moved
        subst moved
        constructor <;> simp [full]
  | handleEvents =>
      simp only [QueueMachine.tick] at moved
      split at moved <;> cases moved <;> constructor <;> simp
  | loop index =>
      cases slot : queue.events[index]? with
      | none =>
          simp only [QueueMachine.tick, slot, Option.some.injEq] at moved
          subst moved
          constructor <;> simp
      | some event =>
          simp only [QueueMachine.tick, slot, Option.some.injEq] at moved
          subst moved
          constructor <;> simp [slot]
  | handler rest =>
      cases rest with
      | adds after added resume =>
          cases moved
          constructor <;> simp
      | returns after =>
          rcases stack with _ | ⟨_ | _, stack⟩ <;> cases moved
          constructor <;> simp
  | leave =>
      rcases stack with _ | ⟨_ | _, stack⟩ <;> cases moved <;> constructor <;> simp

end Logged

/-! ## The machine as a server -/

namespace QueueMachine

/-- The server that the machine is. The events in the slots that the loop has not
reached wait, and the event of the handler that is at work is served. A call from a
handler never reaches the loop. -/
inductive Places : QueueControl σ ε → List (QueueFrame σ ε) → List ε → Server ε → Prop where
  | outside : Places .outside [] [] .idle
  | add (event : ε) : Places (.addEvent event) [] [] .idle
  | first (event : ε) : Places .handleEvents [] [event] ⟨[event], none⟩
  | loop (events : List ε) (index : ℕ) : Places (.loop index) [] events ⟨events.drop index, none⟩
  | left : Places .leave [] [] .idle
  | handler {events : List ε} {index : ℕ} {event : ε} (slot : events[index]? = some event)
      (rest : HandlerRun σ ε) :
      Places (.handler rest) [.handling index event] events
        ⟨events.drop (index + 1), some event⟩
  | nestedAdd {events : List ε} {index : ℕ} {event : ε} (slot : events[index]? = some event)
      (resume : σ → HandlerRun σ ε) (added : ε) :
      Places (.addEvent added) [.adding resume, .handling index event] events
        ⟨events.drop (index + 1), some event⟩
  | nested {events : List ε} {index : ℕ} {event : ε} (slot : events[index]? = some event)
      (resume : σ → HandlerRun σ ε) (many : 1 < events.length) :
      Places .handleEvents [.adding resume, .handling index event] events
        ⟨events.drop (index + 1), some event⟩
  | nestedLeft {events : List ε} {index : ℕ} {event : ε} (slot : events[index]? = some event)
      (resume : σ → HandlerRun σ ε) :
      Places .leave [.adding resume, .handling index event] events
        ⟨events.drop (index + 1), some event⟩

variable {handler : σ → ε → HandlerRun σ ε} {m t : QueueMachine σ ε} {server : Server ε}

/-- An event that is added to a busy queue is not alone there. -/
theorem one_lt_length_push {queue : EventQ ε} (busy : 0 < queue.events.length) {event : ε}
    (room : queue.events.length < maxEvents) : 1 < (queue.push event room).events.length := by
  rw [EventQ.push, List.length_append, List.length_singleton]
  exact Nat.succ_lt_succ busy

/-- The event in a slot is the next one that waits. -/
theorem drop_of_slot {events : List ε} {index : ℕ} {event : ε}
    (slot : events[index]? = some event) :
    events.drop index = event :: events.drop (index + 1) := by
  obtain ⟨bound, rfl⟩ := List.getElem?_eq_some_iff.mp slot
  exact List.drop_eq_getElem_cons bound

/-- **The machine advances as a server.** -/
theorem Places.step (placed : Places m.control m.stack m.queue.events server)
    (moved : m.tick handler = some t) :
    ∃ entries later, t.log = m.log ++ entries ∧ Advances server entries later ∧
      Places t.control t.stack t.queue.events later := by
  obtain ⟨⟨events, bounded⟩, state, control, stack, log⟩ := m
  cases placed with
  | outside => cases moved
  | add event =>
      cases moved
      exact ⟨_, _, rfl, .serves (.accepts [] none event), .first event⟩
  | first event =>
      cases moved
      exact ⟨[], _, (List.append_nil _).symm, .rests _, .loop [event] 0⟩
  | loop events index =>
      cases slot : events[index]? with
      | none =>
          simp only [tick, slot, Option.some.injEq] at moved
          subst moved
          have past : events.drop index = [] :=
            List.drop_eq_nil_of_le (List.getElem?_eq_none_iff.mp slot)
          rw [past]
          exact ⟨[], _, (List.append_nil _).symm, .rests _, .left⟩
      | some event =>
          simp only [tick, slot, Option.some.injEq] at moved
          subst moved
          rw [drop_of_slot slot]
          exact ⟨_, _, rfl, .serves (.starts _ event), .handler slot _⟩
  | left =>
      cases moved
      exact ⟨[], _, (List.append_nil _).symm, .rests _, .outside⟩
  | @handler _ index event slot rest =>
      cases rest with
      | returns after =>
          cases moved
          exact ⟨_, _, rfl, .serves (.finishes _ event), .loop events (index + 1)⟩
      | adds after added resume =>
          cases moved
          exact ⟨[], _, (List.append_nil _).symm, .rests _, .nestedAdd slot resume added⟩
  | @nestedAdd _ index event slot resume added =>
      by_cases room : events.length < maxEvents
      · simp only [tick, dif_pos room, Option.some.injEq] at moved
        subst moved
        have inside : index < events.length := (List.getElem?_eq_some_iff.mp slot).1
        have later : (events ++ [added]).drop (index + 1) = events.drop (index + 1) ++ [added] :=
          List.drop_append_of_le_length inside
        refine ⟨_, _, rfl, .serves (.accepts _ _ added), ?_⟩
        rw [← later]
        refine .nested ?_ resume (one_lt_length_push (Nat.zero_lt_of_lt inside) room)
        rw [EventQ.push, List.getElem?_append_left inside, slot]
      · simp only [tick, dif_neg room, Option.some.injEq] at moved
        subst moved
        exact ⟨_, _, rfl, .serves (.refuses _ added), .nestedLeft slot resume⟩
  | nested slot resume many =>
      simp only [tick, if_pos many, Option.some.injEq] at moved
      subst moved
      exact ⟨[], _, (List.append_nil _).symm, .rests _, .nestedLeft slot resume⟩
  | nestedLeft slot resume =>
      cases moved
      exact ⟨[], _, (List.append_nil _).symm, .rests _, .handler slot _⟩

/-- The log of the machine is that of the server that the machine is. -/
def Accounted (m : QueueMachine σ ε) : Prop :=
  ∃ server, Places m.control m.stack m.queue.events server ∧ Tells m.log server

theorem accounted_outside (state : σ) : (outside state : QueueMachine σ ε).Accounted :=
  ⟨.idle, .outside, tells_nil⟩

end QueueMachine

open QueueMachine

variable {handler : σ → ε → HandlerRun σ ε} {state : σ} {inputs : List (QueueInput σ ε)}
  {m t : QueueMachine σ ε}

/-- A step keeps the log and the machine together. -/
theorem queueStep_accounted {input : QueueInput σ ε} (accounted : m.Accounted)
    (stepped : queueStep handler m input = some t) : t.Accounted := by
  obtain ⟨server, placed, tells⟩ := accounted
  cases input with
  | call state event =>
      obtain ⟨⟨events, bounded⟩, old, control, stack, log⟩ := m
      cases placed with
      | outside =>
          cases stepped
          exact ⟨.idle, .add event, tells⟩
      | _ => cases stepped
  | tick =>
      obtain ⟨entries, later, logged, advances, placed'⟩ := placed.step stepped
      exact ⟨later, placed', logged ▸ tells.advance advances⟩

/-- **The machine is a server in every run**, for all handlers and calls. -/
theorem accounted_of_visits (visited : Visits (queueStep handler) (.outside state) inputs t) :
    t.Accounted :=
  visits_of_invariant (fun _ _ _ taken accounted => queueStep_accounted accounted taken.step_eq)
    (accounted_outside state) visited

end IfaceTester
