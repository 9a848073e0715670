import IfaceTester.QueueMachine

/-!
# A drain of the event queue

A call of `event_queue_add_event` on the empty queue comes back by itself
(`leads_of_call`), whatever the handlers do and as often as they add events. On the way
it accepts at most `MAX_EVENTS` events, and it leaves what `eventQueueAddEvent` computes.
With the log of a server this gives that a drain runs to completion in order.
-/

set_option autoImplicit false

namespace IfaceTester

open Runs Service QueueMachine

section Leads

variable {σ ε : Type} {handler : σ → ε → HandlerRun σ ε} {m t u : QueueMachine σ ε}

/-- The call that is running gets from one state to the other. -/
def Leads (handler : σ → ε → HandlerRun σ ε) (m t : QueueMachine σ ε) : Prop :=
  ∃ ticks, run (queueStep handler) m (List.replicate ticks .tick) = some t

theorem Leads.refl (m : QueueMachine σ ε) : Leads handler m m := ⟨0, rfl⟩

theorem Leads.trans (first : Leads handler m t) (rest : Leads handler t u) :
    Leads handler m u := by
  obtain ⟨ticks, first⟩ := first
  obtain ⟨more, rest⟩ := rest
  exact ⟨ticks + more, by rw [List.replicate_add]; exact run_trans first rest⟩

theorem Leads.head (first : m.tick handler = some t) (rest : Leads handler t u) :
    Leads handler m u := by
  obtain ⟨more, rest⟩ := rest
  refine ⟨more + 1, ?_⟩
  rw [List.replicate_succ, run_cons, queueStep, first]
  exact rest

/-- A call comes back in one way only. -/
theorem Leads.unique (first : Leads handler m t) (second : Leads handler m u)
    (back : t.control = .outside) (back' : u.control = .outside) : t = u := by
  have still : ∀ {s v : QueueMachine σ ε} {ticks : ℕ}, s.control = .outside →
      run (queueStep handler) s (List.replicate ticks .tick) = some v → v = s := by
    intro s v ticks outside goes
    cases ticks with
    | zero => exact (Option.some.inj goes).symm
    | succ ticks =>
        obtain ⟨next, taken, -⟩ := Option.bind_eq_some_iff.mp goes
        simp [queueStep, QueueMachine.tick, outside] at taken
  obtain ⟨ticks, first⟩ := first
  obtain ⟨more, second⟩ := second
  rcases Nat.le_total ticks more with few | few
  · obtain ⟨extra, rfl⟩ := Nat.exists_eq_add_of_le few
    rw [List.replicate_add, run_append, first] at second
    exact (still back second).symm
  · obtain ⟨extra, rfl⟩ := Nat.exists_eq_add_of_le few
    rw [List.replicate_add, run_append, second] at first
    exact still back' first

end Leads

variable {σ ε : Type} (handler : σ → ε → HandlerRun σ ε)

/-- The event takes a slot when one is free. -/
def EventQ.offer (queue : EventQ ε) (event : ε) : EventQ ε :=
  if room : queue.events.length < maxEvents then queue.push event room else queue

theorem busy_of_append {queue later : EventQ ε} {added : List ε} (busy : 0 < queue.events.length)
    (taken : later.events = queue.events ++ added) : 0 < later.events.length := by
  rw [taken, List.length_append]
  exact Nat.lt_add_right _ busy

/-- **A nested call only fills a slot.** -/
theorem eventQueueAddEvent_nested {queue : EventQ ε} (busy : 0 < queue.events.length) (depth : ℕ)
    (state : σ) (event : ε) :
    eventQueueAddEvent handler (depth + 1) (queue, state) event = (queue.offer event, state) := by
  by_cases room : queue.events.length < maxEvents
  · have many : 1 < (queue.push event room).events.length := one_lt_length_push busy room
    rw [eventQueueAddEvent, dif_pos room, handleEvents, if_pos many, EventQ.offer, dif_pos room]
  · rw [eventQueueAddEvent, dif_neg room, EventQ.offer, dif_neg room]

/-- A nested call comes back to the handler. -/
theorem leads_of_nested {queue : EventQ ε} (busy : 0 < queue.events.length) (state : σ)
    (event : ε) (resume : σ → HandlerRun σ ε) (stack : List (QueueFrame σ ε))
    (log : List (Entry ε)) :
    ∃ added, (queue.offer event).events = queue.events ++ accepted added ∧
      Leads handler ⟨queue, state, .addEvent event, .adding resume :: stack, log⟩
        ⟨queue.offer event, state, .handler (resume state), stack, log ++ added⟩ := by
  by_cases room : queue.events.length < maxEvents
  · have many : 1 < (queue.push event room).events.length := one_lt_length_push busy room
    have pushed : queue.offer event = queue.push event room := dif_pos room
    refine ⟨[.accepted event], by rw [pushed]; rfl, ?_⟩
    rw [pushed]
    -- The event takes a slot, and the nested `handle_events` finds more than one.
    refine .head (by rw [QueueMachine.tick]; exact dif_pos room) ?_
    refine .head (by rw [QueueMachine.tick]; exact if_pos many) ?_
    exact .head rfl (.refl _)
  · have full : queue.offer event = queue := dif_neg room
    refine ⟨[.refused event], by rw [full]; exact (List.append_nil _).symm, ?_⟩
    rw [full]
    refine .head (by rw [QueueMachine.tick]; exact dif_neg room) ?_
    exact .head rfl (.refl _)

/-- **A handler comes back to the loop.** The induction is on what it still does. -/
theorem leads_of_handler (depth index : ℕ) (event : ε) (rest : HandlerRun σ ε) :
    ∀ (queue : EventQ ε) (state : σ) (log : List (Entry ε)), 0 < queue.events.length →
      ∃ added, (rest.run (eventQueueAddEvent handler (depth + 1)) queue).1.events =
          queue.events ++ accepted added ∧
        Leads handler ⟨queue, state, .handler rest, [.handling index event], log⟩
          ⟨(rest.run (eventQueueAddEvent handler (depth + 1)) queue).1,
            (rest.run (eventQueueAddEvent handler (depth + 1)) queue).2,
            .loop (index + 1), [], log ++ added⟩ := by
  induction rest with
  | returns after =>
      intro queue state log busy
      exact ⟨[.finished event], (List.append_nil _).symm, .head rfl (.refl _)⟩
  | adds after added resume ih =>
      intro queue state log busy
      obtain ⟨first, taken, nested⟩ := leads_of_nested handler busy after added
        resume [.handling index event] log
      have still : 0 < (queue.offer added).events.length := busy_of_append busy taken
      obtain ⟨more, later, goesOn⟩ := ih after (queue.offer added) after (log ++ first) still
      rw [HandlerRun.run, eventQueueAddEvent_nested handler busy]
      refine ⟨first ++ more, ?_, ?_⟩
      · rw [later, taken, List.append_assoc, accepted_append]
      · rw [← List.append_assoc]
        exact .head rfl (nested.trans goesOn)

/-- **The loop comes to its end.** The induction is on the slots that are left. -/
theorem leads_of_loop (depth iterations : ℕ) :
    ∀ (index : ℕ) (queue : EventQ ε) (state : σ) (log : List (Entry ε)),
      0 < queue.events.length → maxEvents ≤ index + iterations →
      ∃ added, queue.events.length + (accepted added).length ≤ maxEvents ∧
        Leads handler ⟨queue, state, .loop index, [], log⟩
          ⟨.empty, (handleEventsFrom handler (eventQueueAddEvent handler (depth + 1)) iterations
            index (queue, state)).2, .leave, [], log ++ added⟩ := by
  induction iterations with
  | zero =>
      intro index queue state log busy enough
      have past : queue.events[index]? = none :=
        List.getElem?_eq_none_iff.mpr (queue.bounded.trans enough)
      refine ⟨[], queue.bounded, .head ?_ (.refl _)⟩
      simp only [QueueMachine.tick, past, handleEventsFrom, List.append_nil]
  | succ iterations ih =>
      intro index queue state log busy enough
      cases slot : queue.events[index]? with
      | none =>
          refine ⟨[], queue.bounded, .head ?_ (.refl _)⟩
          simp only [QueueMachine.tick, slot, handleEventsFrom, List.append_nil]
      | some event =>
          obtain ⟨first, taken, handles⟩ := leads_of_handler handler depth index event
            (handler state event) queue state (log ++ [.started event]) busy
          have still : 0 < ((handler state event).run (eventQueueAddEvent handler (depth + 1))
              queue).1.events.length := busy_of_append busy taken
          obtain ⟨more, room, goesOn⟩ := ih (index + 1) _
            ((handler state event).run (eventQueueAddEvent handler (depth + 1)) queue).2
            (log ++ [.started event] ++ first) still (by omega)
          refine ⟨[.started event] ++ first ++ more, ?_, ?_⟩
          · have silent : accepted [Entry.started event] = [] := rfl
            rw [taken, List.length_append] at room
            simp only [accepted_append, silent, List.nil_append, List.length_append]
            omega
          · rw [handleEventsFrom, slot, ← List.append_assoc, ← List.append_assoc]
            refine .head ?_ (handles.trans goesOn)
            simp only [QueueMachine.tick, slot]

/-- **A call on the empty queue comes back**, and it leaves what the functional model
gives. -/
theorem leads_of_call (depth : ℕ) (state : σ) (event : ε) (log : List (Entry ε)) :
    ∃ added, (accepted added).length < maxEvents ∧
      Leads handler ⟨.empty, state, .addEvent event, [], log⟩
        ⟨(eventQueueAddEvent handler (depth + 2) (.empty, state) event).1,
          (eventQueueAddEvent handler (depth + 2) (.empty, state) event).2,
          .outside, [], log ++ .accepted event :: added⟩ := by
  have room : (EventQ.empty : EventQ ε).events.length < maxEvents := Nat.zero_lt_succ 2
  obtain ⟨added, few, drains⟩ := leads_of_loop handler depth maxEvents 0
    (EventQ.empty.push event room) state (log ++ [.accepted event]) Nat.zero_lt_one le_rfl
  refine ⟨added, (Nat.one_add_le_iff).mp few, ?_⟩
  have result : eventQueueAddEvent handler (depth + 2) (.empty, state) event =
      (.empty, (handleEventsFrom handler (eventQueueAddEvent handler (depth + 1)) maxEvents 0
        (EventQ.empty.push event room, state)).2) := rfl
  rw [result, List.append_cons]
  refine .head rfl (.head rfl (.trans drains ?_))
  exact .head rfl (.refl _)

/-- A drain that was started by the event ran to completion in order. -/
structure CompletesInOrder (event : ε) (log : List (Entry ε)) : Prop where
  /-- The event was accepted before all the others. -/
  first : [event] <+: accepted log
  /-- Each accepted event was handled once, in the order of acceptance, and its handler
  returned before the next one was started. -/
  inOrder : handling log = (accepted log).flatMap handled
  /-- The handlers that were started are those of the accepted events, one for each. So
  none was started for an event that was refused. -/
  acceptedOnly : started log = accepted log
  atMost : (started log).length ≤ maxEvents

/-- **The event queue runs to completion in order**, for all handlers. The call comes back
with the queue and the state that `eventQueueAddEvent` gives, however deep its calls may
nest. On the way the queue never holds more than `MAX_EVENTS` events, no handler starts ahead
of its turn, and every step logs what it does. -/
theorem runs_to_completion (before state : σ) (event : ε) :
    ∃ ticks t, run (queueStep handler) (.outside before)
        (.call state event :: List.replicate ticks .tick) = some t ∧
      t.control = .outside ∧ t.queue.events.length = 0 ∧
      (∀ depth, eventQueueAddEvent handler (depth + 2) (.empty, state) event =
        (t.queue, t.state)) ∧
      CompletesInOrder event t.log ∧
      (∀ u, Visits (queueStep handler) (.outside before)
          (.call state event :: List.replicate ticks .tick) u →
        u.queue.events.length ≤ maxEvents ∧ started u.log <+: accepted u.log) ∧
      ∀ s u, Takes (queueStep handler) (.outside before)
          (.call state event :: List.replicate ticks .tick) s .tick u → Logged handler s u := by
  obtain ⟨added, few, ticks, drains⟩ := leads_of_call handler 0 state event []
  have reached : run (queueStep handler) (.outside before)
      (.call state event :: List.replicate ticks .tick) = some _ := drains
  obtain ⟨server, placed, tells⟩ := accounted_of_visits (visits_last reached)
  cases placed
  obtain ⟨inOrder, acceptedOnly⟩ := tells.handled_of_idle
  refine ⟨ticks, _, reached, rfl, rfl, fun depth => ?_, ?_,
    fun u visited => ⟨u.queue.bounded, ?_⟩, fun s u taken => tick_logged taken.step_eq⟩
  · obtain ⟨_, -, other⟩ := leads_of_call handler depth state event []
    have same := other.unique ⟨ticks, drains⟩ rfl rfl
    exact Prod.ext (congrArg QueueMachine.queue same) (congrArg QueueMachine.state same)
  · exact
      { first := ⟨accepted added, rfl⟩
        inOrder := inOrder
        acceptedOnly := acceptedOnly
        atMost := by rw [acceptedOnly]; exact few }
  · obtain ⟨server, -, tells⟩ := accounted_of_visits visited
    exact tells.started_prefix

end IfaceTester
