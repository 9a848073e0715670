import Mathlib.Data.List.Basic

/-!
# The event queue

`event_queue.c` for events of any type. The first event added to an empty queue
is handled at once. An event that a handler adds while the queue is being
drained only takes the next slot, and the call that added the first event
handles it later. A slot is not freed before the whole drain ends.

In the C code a handler is a function that may call `event_queue_add_event` on
the same queue. Here a handler gives a `HandlerRun`: what it does up to its
return, with each call it makes to add an event. The depth bounds how far the
calls nest.
-/

set_option autoImplicit false

namespace IfaceTester

/-- `MAX_EVENTS`. -/
def maxEvents : ℕ := 3

/-- `event_q_st`: the slots in use. Their number is `num_events`. -/
structure EventQ (ε : Type) where
  events : List ε
  bounded : events.length ≤ maxEvents

namespace EventQ

variable {ε : Type}

/-- `event_queue_init`. -/
def empty : EventQ ε := ⟨[], Nat.zero_le _⟩

/-- The next free slot takes the event. -/
def push (queue : EventQ ε) (event : ε) (room : queue.events.length < maxEvents) : EventQ ε :=
  ⟨queue.events ++ [event], by simpa using Nat.succ_le_of_lt room⟩

end EventQ

/-- The run of a handler: it returns, or it adds an event to the queue and
goes on from the state that the call leaves. -/
inductive HandlerRun (σ ε : Type) where
  | returns (state : σ)
  | adds (state : σ) (event : ε) (resume : σ → HandlerRun σ ε)

section Queue

variable {σ ε : Type}

/-- Run a handler, with `addEvent` for the calls it makes. -/
def HandlerRun.run (addEvent : EventQ ε × σ → ε → EventQ ε × σ) :
    EventQ ε → HandlerRun σ ε → EventQ ε × σ
  | queue, .returns state => (queue, state)
  | queue, .adds state event resume =>
      let added := addEvent (queue, state) event
      (resume added.2).run addEvent added.1

/-- The loop of `handle_events` from `index` on. It makes no more iterations
than the array has slots. -/
def handleEventsFrom (handler : σ → ε → HandlerRun σ ε)
    (addEvent : EventQ ε × σ → ε → EventQ ε × σ) :
    ℕ → ℕ → EventQ ε × σ → EventQ ε × σ
  | 0, _, (queue, state) => (queue, state)
  | iterations + 1, index, (queue, state) =>
      match queue.events[index]? with
      | none => (queue, state)
      | some event =>
          handleEventsFrom handler addEvent iterations (index + 1)
            ((handler state event).run addEvent queue)

/-- `handle_events`. With more than one event on the queue a caller further
out is draining it. -/
def handleEvents (handler : σ → ε → HandlerRun σ ε)
    (addEvent : EventQ ε × σ → ε → EventQ ε × σ) (queue : EventQ ε) (state : σ) :
    EventQ ε × σ :=
  if queue.events.length > 1 then (queue, state)
  else (.empty, (handleEventsFrom handler addEvent maxEvents 0 (queue, state)).2)

/-- `event_queue_add_event`, for calls that nest at most to the depth. -/
def eventQueueAddEvent (handler : σ → ε → HandlerRun σ ε) :
    ℕ → EventQ ε × σ → ε → EventQ ε × σ
  | 0, (queue, state), _ => (queue, state)
  | depth + 1, (queue, state), event =>
      if room : queue.events.length < maxEvents then
        handleEvents handler (eventQueueAddEvent handler depth) (queue.push event room) state
      else (queue, state)

/-- **A handler that adds nothing is simply called.** On an empty queue the
event is handled before the call returns, and the queue is empty again. -/
theorem eventQueueAddEvent_of_returns {handler : σ → ε → HandlerRun σ ε} {state after : σ}
    {event : ε} (quiet : handler state event = .returns after) (depth : ℕ) :
    eventQueueAddEvent handler (depth + 1) (.empty, state) event = (.empty, after) := by
  have room : (EventQ.empty : EventQ ε).events.length < maxEvents := Nat.zero_lt_succ 2
  simp only [eventQueueAddEvent, dif_pos room, handleEvents]
  simp [EventQ.push, EventQ.empty, maxEvents, handleEventsFrom, quiet, HandlerRun.run]

end Queue

end IfaceTester
