import IfaceTester.Coherence

/-!
# A wake-up for every state

Every state of the tester and of the connection waits for something: a timer,
or a child with a timer that bounds it. `run_test` is the weak place. Its
callers do not look at its result, so a test that could not be started leaves
the tester in the testing state with nothing to wait for.
-/

set_option autoImplicit false

namespace IfaceTester

open Runs

/-- Whatever the interface waits for will come. -/
structure Watched (iface : Interface) : Prop where
  settling : iface.connection.state = .settling →
    timerIsRunning iface.connection.settlingDelayTimer = true
  sleeping : iface.tester.state = .sleeping →
    timerIsRunning iface.tester.testIntervalTimer = true
  testing : iface.tester.state = .testing → iface.tester.testProc.isRunning = true ∧
    timerIsRunning iface.tester.testResponseTimeoutTimer = true
  recovering : iface.tester.state = .recovering → iface.recovery.proc.isRunning = true ∧
    timerIsRunning iface.recovery.responseTimeoutTimer = true
  connected : iface.connection.state = .connected →
    timerIsRunning iface.tester.testIntervalTimer = true ∨
      timerIsRunning iface.tester.testResponseTimeoutTimer = true ∨
      timerIsRunning iface.recovery.responseTimeoutTimer = true

/-- The tester waits for a test that is not there. -/
def Untended (iface : Interface) : Prop :=
  iface.tester.state = .testing ∧ iface.tester.testProc.isRunning = false

/-- The callback goes on to start a test. -/
def startsTest (iface : Interface) : Callback → Bool
  | .settlingDelayTimerExpired => true
  | .testIntervalTimerExpired => true
  | .startTestRun => decide (iface.tester.state = .sleeping)
  | .testProcExited status => !runIsOver iface (getTestResultFromExitStatus status)
  | .testResponseTimerExpired => !runIsOver iface false
  | .configUpdate new => decide (iface.tester.state ≠ .stopped)
      && configChanged iface.ctx.withMetricsAdjustment iface.config new.config
  | _ => false

section Steps

variable {iface t : Interface} {launch : Launch} {cb : Callback}

/-- **A coherent interface is watched unless its tester is untended.** -/
theorem watched_iff_not_untended (coherent : Coherent iface) :
    Watched iface ↔ ¬ Untended iface := by
  constructor
  · rintro watched ⟨testing, idle⟩
    have running := (watched.testing testing).1
    rw [idle] at running
    exact Bool.false_ne_true running
  · intro tended
    have busy : iface.tester.state = .testing → iface.tester.testProc.isRunning = true := by
      intro testing
      by_contra idle
      exact tended ⟨testing, eq_false_of_ne_true idle⟩
    refine ⟨coherent.settlingTimer.mpr, coherent.intervalTimer.mpr, ?_, coherent.recovering, ?_⟩
    · intro testing
      exact ⟨busy testing, coherent.responseTimer.mp (busy testing)⟩
    · intro up
      have live := coherent.connected.mp up
      cases state : iface.tester.state with
      | stopped => exact absurd state live
      | sleeping => exact .inl (coherent.intervalTimer.mpr state)
      | testing => exact .inr (.inl (coherent.responseTimer.mp (busy state)))
      | recovering => exact .inr (.inr (coherent.recovering state).2)

theorem not_untended_of_state (elsewhere : iface.tester.state ≠ .testing) : ¬ Untended iface :=
  fun untended => elsewhere untended.1

/-- A test that is started from an idle slot tends the tester exactly when the
process gets started. -/
theorem Idle.untended_runTest (idle : Idle iface) (index : ℕ)
    (testing : iface.tester.state = .testing) :
    Untended (runTest iface index launch).2 ↔ launch.succeeds = false := by
  cases outcome : launch.succeeds with
  | false =>
      obtain ⟨cb, ran⟩ := runTest_of_failed outcome iface index idle.testProc
      rw [ran]
      exact iff_of_true ⟨testing, rfl⟩ rfl
  | true =>
      obtain ⟨memory, forked⟩ : launch.asprintf = true ∧ launch.fork.isSome = true := by
        simpa [Launch.succeeds] using outcome
      obtain ⟨pid, forked⟩ := Option.isSome_iff_exists.mp forked
      rw [runTest_of_fork memory forked]
      exact iff_of_false (fun untended => Bool.false_ne_true untended.2.symm) (by simp)

theorem Idle.untended_testerStartConnected (idle : Idle iface) :
    Untended (testerStartConnected iface launch) ↔ launch.succeeds = false := by
  have ready : Idle { testerStateTransition iface .testing with tester.testIndex := 0 } :=
    idle.of_activity rfl
  exact ready.untended_runTest 0 rfl

theorem Idle.untended_nextTest (idle : Idle iface) (testing : iface.tester.state = .testing) :
    Untended (nextTest iface launch) ↔ launch.succeeds = false := by
  have ready : Idle { iface with tester.testIndex := iface.tester.testIndex + 1 } :=
    idle.of_activity rfl
  exact ready.untended_runTest (iface.tester.testIndex + 1) testing

theorem startsTest_testEnd {passed : Bool} {event : TesterEvent} {ended : Interface}
    (how : TestEnd iface cb passed event ended) :
    startsTest iface cb = !runIsOver iface passed := by
  cases how with
  | exited status => rfl
  | timedOut => rfl

/-- A callback that starts a test leaves the tester untended exactly when the
process does not get started. -/
theorem Move.untended_iff (coherent : Coherent iface) (move : Move iface launch cb t)
    (starts : startsTest iface cb = true) : Untended t ↔ launch.succeeds = false := by
  cases move with
  | settled settling stopped =>
      exact (coherent.idle_settled stopped).untended_testerStartConnected
  | intervalElapsed sleeping =>
      exact (coherent.idle_woken sleeping).untended_testerStartConnected
  | requested sleeping => exact (coherent.idle_woken sleeping).untended_testerStartConnected
  | requestIgnored awake => simp [startsTest, awake] at starts
  | testEndsNext testing running how more =>
      exact ((coherent.idle_testEnd testing how).countTest _).untended_nextTest
        (how.testing testing)
  | testEndsRun testing running how isOver => simp [startsTest_testEnd how, isOver] at starts
  | updateUnchanged same => simp [startsTest, same] at starts
  | updateStopped stopped changed => simp [startsTest, stopped] at starts
  | updateRestarted live changed =>
      exact (coherent.idle_reconfigured live _).untended_testerStartConnected
  | _ => simp [startsTest] at starts

/-- A callback that starts no test does not make the tester untended. -/
theorem Move.tended (move : Move iface launch cb t) (startsNone : startsTest iface cb = false)
    (tended : ¬ Untended iface) : ¬ Untended t := by
  cases move with
  | ifdownConnected up live =>
      refine not_untended_of_state ?_
      show (testerDisconnectedHandler (connectionLost iface)).tester.state ≠ .testing
      unfold testerDisconnectedHandler
      rw [testerStop_eq]
      intro testing
      cases testing
  | settled settling stopped => simp [startsTest] at startsNone
  | intervalElapsed sleeping => simp [startsTest] at startsNone
  | requested sleeping => simp [startsTest, sleeping] at startsNone
  | testEndsNext testing running how more => simp [startsTest_testEnd how, more] at startsNone
  | testEndsRun testing running how isOver =>
      exact not_untended_of_state
        (interfaceTestRunCompleted_runEnd (how.testing testing) _ _).not_testing
  | recoveryEnded status recovering =>
      refine not_untended_of_state ?_
      rw [testerSleep_eq]
      intro testing
      cases testing
  | recoveryTimedOut recovering =>
      refine not_untended_of_state ?_
      rw [testerSleep_eq]
      intro testing
      cases testing
  | updateStopped stopped changed =>
      refine not_untended_of_state ?_
      unfold reconfigured
      rw [testerStop_eq]
      intro testing
      cases testing
  | updateRestarted live changed => simp [startsTest, live, changed] at startsNone
  | _ => exact tended

end Steps

/-! ## Runs -/

section Runs

variable {ctx : InterfaceTesterShared} {name : String} {config : AcceptedConfig}
variable {isConnected : Bool} {launch : Launch} {inputs : List Input}

theorem not_untended_begun : ¬ Untended (begun ctx name config isConnected launch) := by
  have stopped := coherent_begun.stopped_of_down
    (down_begun ctx name config isConnected launch)
  exact not_untended_of_state (by simp [stopped])

/-- **The tester waits for nothing exactly when a test it was to start did not
get started.** In a run whose callbacks all start the tests they are to start,
every state between callbacks is watched, and no other run has that property. -/
theorem watched_iff_tests_started :
    (∀ t, Visits step (begun ctx name config isConnected launch) inputs t → Watched t) ↔
      ∀ s cb answer t, Takes step (begun ctx name config isConnected launch) inputs s
        (cb, answer) t → startsTest s cb = true → answer.succeeds = true := by
  constructor
  · intro watched s cb answer t taken starts
    have coherent := coherent_of_visits taken.source
    by_contra failed
    have untended := ((step_move coherent taken.step_eq).untended_iff coherent starts).mpr
      (eq_false_of_ne_true failed)
    exact (watched_iff_not_untended (coherent_of_visits taken.target)).mp (watched t taken.target)
      untended
  · intro started t visited
    refine (watched_iff_not_untended (coherent_of_visits visited)).mpr ?_
    refine visits_of_invariant (I := fun iface => ¬ Untended iface) ?_ not_untended_begun visited
    rintro s ⟨cb, answer⟩ u taken tended
    have coherent := coherent_of_visits taken.source
    have move := step_move coherent taken.step_eq
    cases starts : startsTest s cb with
    | false => exact move.tended starts tended
    | true =>
        intro untended
        have failed := (move.untended_iff coherent starts).mp untended
        simp [started s cb answer u taken starts] at failed

end Runs

/-- The first test after settling is not forked, and the tester is left with a
connection, no process and no timer. -/
theorem not_watched_after_failed_fork :
    ¬ ∀ ctx name config isConnected launch inputs t,
      Visits step (begun ctx name config isConnected launch) inputs t → Watched t := by
  intro watched
  have stuck : (run step
      (begun connectedShared "wan" (eagerConfig []) true .refused)
      [(.settlingDelayTimerExpired, .refused)]).map
        (fun t => (t.tester.state, t.tester.testProc.isRunning)) = some (.testing, false) := by
    decide +kernel
  obtain ⟨t, reached, facts⟩ := Option.map_eq_some_iff.mp stuck
  obtain ⟨testing, idle⟩ := Prod.mk.inj facts
  have running := ((watched _ _ _ _ _ _ t (visits_last reached)).testing testing).1
  rw [idle] at running
  exact Bool.false_ne_true running

end IfaceTester
