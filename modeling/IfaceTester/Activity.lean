import IfaceTester.Observations

/-!
# No activity belongs to the wrong state

Timers and processes are started and stopped by hand, and a handler ignores the
events it does not expect. Between callbacks each of them runs only in the
state that waits for it, so no event of a test or of a timer of the tester is
ever ignored.
-/

set_option autoImplicit false

namespace IfaceTester

open Runs

/-- Every timer and process runs in the state that it belongs to. -/
structure ActivityFits (iface : Interface) : Prop where
  settlingTimer : timerIsRunning iface.connection.settlingDelayTimer = true ↔
    iface.connection.state = .settling
  intervalTimer : timerIsRunning iface.tester.testIntervalTimer = true ↔
    iface.tester.state = .sleeping
  testProc : iface.tester.testProc.isRunning = true ↔
    timerIsRunning iface.tester.testResponseTimeoutTimer = true
  testing : iface.tester.testProc.isRunning = true →
    iface.tester.state = .testing ∧ iface.connection.state = .connected
  responseTimer : timerIsRunning iface.tester.testResponseTimeoutTimer = true →
    iface.tester.state = .testing ∧ iface.connection.state = .connected

/-- The one state that handles the event, for the events of a test and of the
interval timer. -/
def homeState : TesterEvent → Option TesterState
  | .testPassed => some .testing
  | .testFailed => some .testing
  | .testTimedOut => some .testing
  | .intervalTimerElapsed => some .sleeping
  | _ => none

/-- Every such event met its state and was handled there. -/
def EventsAtHome (trace : List Observation) : Prop :=
  ∀ event state handled, Observation.testerEvent event state handled ∈ trace →
    ∀ home, homeState event = some home → state = home ∧ handled = true

section Steps

variable {iface t : Interface} {launch : Launch} {cb : Callback}

theorem Coherent.activityFits (coherent : Coherent iface) : ActivityFits iface := by
  have testing : iface.tester.testProc.isRunning = true →
      iface.tester.state = .testing ∧ iface.connection.state = .connected := by
    intro running
    have state := coherent.testing running
    exact ⟨state, coherent.connected.mpr (by simp [state])⟩
  exact ⟨coherent.settlingTimer, coherent.intervalTimer, coherent.responseTimer, testing,
    fun running => testing (coherent.responseTimer.mpr running)⟩

theorem mem_testerEvents {event : TesterEvent} {state : TesterState} {handled : Bool}
    {trace : List Observation} :
    (event, state, handled) ∈ testerEvents trace ↔
      Observation.testerEvent event state handled ∈ trace := by
  simp only [testerEvents, List.mem_filterMap]
  constructor
  · rintro ⟨seen, member, same⟩
    cases seen <;> simp_all [Observation.testerEvent?]
  · exact fun member => ⟨_, member, rfl⟩

/-- No other state handles such an event. -/
theorem handles_iff_home {event : TesterEvent} {home : TesterState}
    (at_home : homeState event = some home) (state : TesterState) :
    handles state event = true ↔ state = home := by
  cases event <;> cases at_home <;> cases state <;> simp [handles]

/-- A callback that can happen sends its event to the home of that event. -/
theorem Coherent.state_of_sent (coherent : Coherent iface)
    (taken : step iface (cb, launch) = some t) {event : TesterEvent}
    (sent : sentEvent iface cb = some event) {home : TesterState}
    (at_home : homeState event = some home) : iface.tester.state = home := by
  have sender := sentBy_of_sentEvent sent
  cases event with
  | intervalTimerElapsed =>
      obtain rfl : cb = .testIntervalTimerExpired := sender
      cases at_home
      exact coherent.intervalTimer.mp (timerIsRunning_of_step taken).1
  | testTimedOut =>
      obtain rfl : cb = .testResponseTimerExpired := sender
      cases at_home
      exact (coherent.activityFits.responseTimer (timerIsRunning_of_step taken).1).1
  | testPassed =>
      obtain ⟨status, rfl⟩ := sender
      cases at_home
      exact coherent.testing (isRunning_of_step taken).1
  | testFailed =>
      obtain ⟨status, rfl⟩ := sender
      cases at_home
      exact coherent.testing (isRunning_of_step taken).1
  | _ => cases at_home

/-- A callback keeps the events at home. -/
theorem Coherent.eventsAtHome_step (coherent : Coherent iface)
    (taken : step iface (cb, launch) = some t) (events : EventsAtHome iface.trace) :
    EventsAtHome t.trace := by
  intro event state handled member home at_home
  rw [← mem_testerEvents, (step_move coherent taken).testerEvents coherent, List.mem_append]
    at member
  rcases member with earlier | now
  · exact events event state handled (mem_testerEvents.mp earlier) home at_home
  · simp only [List.mem_map, Option.mem_toList] at now
    obtain ⟨sent, isSent, same⟩ := now
    cases same
    have state := coherent.state_of_sent taken isSent at_home
    exact ⟨state, (handles_iff_home at_home _).mpr state⟩

end Steps

/-! ## Runs -/

section Runs

variable {ctx : InterfaceTesterShared} {name : String} {config : AcceptedConfig}
variable {isConnected : Bool} {launch : Launch} {inputs : List Input} {t : Interface}

/-- **Every activity belongs to the state it runs in.** In every state between
callbacks the timers and the test process run only where they belong, and every
event of a test or of the interval timer was handled in the one state that
handles it. -/
theorem activity_fits
    (visited : Visits step (begun ctx name config isConnected launch) inputs t) :
    ActivityFits t ∧ EventsAtHome t.trace := by
  refine ⟨(coherent_of_visits visited).activityFits, ?_⟩
  refine visits_of_invariant (I := fun iface => EventsAtHome iface.trace) ?_ ?_ visited
  · rintro s ⟨cb, answer⟩ u taken events
    exact (coherent_of_visits taken.source).eventsAtHome_step taken.step_eq events
  · intro event state handled member
    rw [← mem_testerEvents, testerEvents_begun] at member
    exact absurd member List.not_mem_nil

end Runs

/-- A connected interface whose first test has passed. -/
def firstTestPassed : List Input :=
  [(.settlingDelayTimerExpired, .forked 7), (.testProcExited 0, .refused)]

theorem activity_fits_after_first_test : ∃ t,
    run step (begun connectedShared "wan" (eagerConfig []) true .refused)
      firstTestPassed = some t ∧ ActivityFits t ∧ EventsAtHome t.trace := by
  have happens : (run step (begun connectedShared "wan" (eagerConfig []) true
      .refused) firstTestPassed).isSome = true := by decide +kernel
  obtain ⟨t, reached⟩ := Option.isSome_iff_exists.mp happens
  exact ⟨t, reached, activity_fits (visits_last reached)⟩

end IfaceTester
