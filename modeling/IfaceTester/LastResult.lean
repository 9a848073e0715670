import IfaceTester.Statistics

/-!
# The published last result

A dump publishes `last_test_passed`, which `test_completed` writes when a test process
exits. A test that takes too long is killed and counted as failed, and nothing is
written for it. So the field is the result of the last test that exited by itself
(`lastTestPassed_of_run`), and it is the last counted result as long as no test
takes too long after one that passed.
-/

set_option autoImplicit false

namespace IfaceTester

open Runs

/-- The result of the test whose process exits in the callback. -/
def exitedTest : Callback → Option Bool
  | .testProcExited status => some (getTestResultFromExitStatus status)
  | _ => none

/-- The result of the last test that exited by itself. There is none at first. -/
def lastExited (inputs : List Input) : Bool :=
  inputs.foldl (fun passed input => (exitedTest input.1).getD passed) false

/-- Once a test has been counted, the published result is the last counted one. -/
def PublishesLast (iface : Interface) : Prop :=
  ∀ passed, (testResults (recorded iface.trace)).getLast? = some passed →
    iface.tester.lastTestPassed = passed

section Steps

variable {iface t : Interface} {launch : Launch} {cb : Callback}

/-! ## Only the exit of a test writes the field -/

theorem lastTestPassed_runTest (iface : Interface) (index : ℕ) (launch : Launch) :
    (runTest iface index launch).2.tester.lastTestPassed = iface.tester.lastTestPassed := by
  unfold runTest
  dsimp only
  split <;> rfl

theorem lastTestPassed_testerStartConnected (iface : Interface) (launch : Launch) :
    (testerStartConnected iface launch).tester.lastTestPassed = iface.tester.lastTestPassed :=
  lastTestPassed_runTest { testerStateTransition iface .testing with tester.testIndex := 0 }
    0 launch

theorem lastTestPassed_nextTest (iface : Interface) (launch : Launch) :
    (nextTest iface launch).tester.lastTestPassed = iface.tester.lastTestPassed :=
  lastTestPassed_runTest { iface with tester.testIndex := iface.tester.testIndex + 1 }
    (iface.tester.testIndex + 1) launch

theorem lastTestPassed_testerSleep (iface : Interface) :
    (testerSleep iface).tester.lastTestPassed = iface.tester.lastTestPassed := by
  rw [testerSleep_eq]

theorem lastTestPassed_testerStop (iface : Interface) :
    (testerStop iface).tester.lastTestPassed = iface.tester.lastTestPassed := by
  rw [testerStop_eq]

theorem RunEnd.lastTestPassed {passed : Bool} (ended : RunEnd iface launch passed t) :
    t.tester.lastTestPassed = iface.tester.lastTestPassed := by
  have broken : (brokenRun iface).tester.lastTestPassed = iface.tester.lastTestPassed := by
    rw [(brokenRun_kept iface).1]
    rfl
  cases ended with
  | passed short => exact lastTestPassed_testerSleep _
  | restored met =>
      rw [lastTestPassed_testerSleep, transitionToOperationalState_eq]
      rfl
  | failed short => exact lastTestPassed_testerSleep _
  | noTask met noTasks => exact (lastTestPassed_testerSleep _).trans broken
  | notStarted met tasks unsuccessful proc kills slot =>
      exact (lastTestPassed_testerSleep _).trans broken
  | started met tasks pid memory forked => exact broken

theorem TestEnd.lastTestPassed {passed : Bool} {event : TesterEvent} {ended : Interface}
    (how : TestEnd iface cb passed event ended) :
    (countTest ended passed).tester.lastTestPassed =
      (exitedTest cb).getD iface.tester.lastTestPassed := by
  cases how with
  | exited status => rfl
  | timedOut => rfl

/-- **A callback writes the field when a test process exits, and never otherwise.** -/
theorem Move.lastTestPassed (move : Move iface launch cb t) :
    t.tester.lastTestPassed = (exitedTest cb).getD iface.tester.lastTestPassed := by
  cases move with
  | ifdownConnected up live =>
      exact lastTestPassed_testerStop { connectionLost iface with
        tester.starter := .testerStartDisconnected }
  | settled settling stopped =>
      exact lastTestPassed_testerStartConnected (connectionSettled iface) launch
  | intervalElapsed sleeping =>
      exact lastTestPassed_testerStartConnected (testerIntervalTimerStop iface) launch
  | requested sleeping =>
      exact lastTestPassed_testerStartConnected (testerIntervalTimerStop iface) launch
  | testEndsNext testing running how more =>
      exact (lastTestPassed_nextTest _ launch).trans how.lastTestPassed
  | @testEndsRun _ passed event ended testing running how isOver =>
      have ended := interfaceTestRunCompleted_runEnd (how.testing testing) passed launch
      exact ended.lastTestPassed.trans how.lastTestPassed
  | recoveryEnded status recovering =>
      exact lastTestPassed_testerSleep (recoveryResponseTimerStop (recoveryTaskExited iface))
  | recoveryTimedOut recovering => exact lastTestPassed_testerSleep (recoveryTaskKilled iface)
  | updateStopped stopped changed => exact lastTestPassed_testerStop iface
  | @updateRestarted new live changed =>
      exact (lastTestPassed_testerStartConnected (reconfigured iface new.config) launch).trans
        (lastTestPassed_testerStop iface)
  | _ => rfl

/-- The callback that ends a test adds its result to the counted ones. -/
theorem Move.testResults (coherent : Coherent iface) (move : Move iface launch cb t) :
    testResults (recorded t.trace) =
      testResults (recorded iface.trace) ++ (endedTest cb).toList := by
  obtain ⟨entries, moved⟩ := move.tallyMove coherent
  rw [moved.tallied.seen, ← moved.ended]
  simp [IfaceTester.testResults]

/-- A callback keeps the two records together, unless a test takes too long while the
field says that a test passed. -/
theorem publishesLast_step (coherent : Coherent iface) (move : Move iface launch cb t)
    (before : PublishesLast iface)
    (timely : cb = .testResponseTimerExpired → iface.tester.lastTestPassed = false) :
    PublishesLast t := by
  intro passed last
  rw [move.testResults coherent] at last
  rw [move.lastTestPassed]
  cases cb with
  | testProcExited status =>
      rw [endedTest, Option.toList_some, List.getLast?_concat] at last
      exact Option.some.inj last
  | testResponseTimerExpired =>
      rw [endedTest, Option.toList_some, List.getLast?_concat] at last
      exact (timely rfl).trans (Option.some.inj last)
  | _ => exact before passed (by simpa [endedTest] using last)

end Steps

/-! ## Runs -/

section Runs

variable {ctx : InterfaceTesterShared} {name : String} {config : AcceptedConfig}
variable {isConnected : Bool} {launch : Launch} {inputs : List Input} {t : Interface}

theorem lastTestPassed_begun :
    (begun ctx name config isConnected launch).tester.lastTestPassed = false := by
  have before : (beforeBegin ctx name config).tester.lastTestPassed = false := by
    unfold beforeBegin
    rw [transitionToOperationalState_eq]
    rfl
  rw [begun_eq]
  cases isConnected with
  | true => exact before
  | false => exact before

/-- **The published result is that of the last test that exited by itself.** -/
theorem lastTestPassed_of_run
    (reached : run step (begun ctx name config isConnected launch) inputs = some t) :
    t.tester.lastTestPassed = lastExited inputs := by
  have folded := run_foldl (fun iface => iface.tester.lastTestPassed)
    (fun passed input => (exitedTest input.1).getD passed)
    (fun s input u taken =>
      (step_move (coherent_of_visits taken.source) taken.step_eq).lastTestPassed) reached
  rwa [lastTestPassed_begun] at folded

/-- **When the published result is the last result.** In every state of the run it is,
exactly when no test of the run takes too long after the last test that exited by
itself has passed. -/
theorem publishes_last_iff :
    (∀ t, Visits step (begun ctx name config isConnected launch) inputs t → PublishesLast t) ↔
      ∀ before answer after t, inputs = before ++ (.testResponseTimerExpired, answer) :: after →
        run step (begun ctx name config isConnected launch)
          (before ++ [(.testResponseTimerExpired, answer)]) = some t →
        lastExited before = false := by
  constructor
  · rintro publishes before answer after t rfl reached
    have visited : Visits step (begun ctx name config isConnected launch)
        (before ++ (.testResponseTimerExpired, answer) :: after) t :=
      ⟨_, after, by simp, reached⟩
    obtain ⟨s, earlier, last⟩ := Option.bind_eq_some_iff.mp (run_append.symm.trans reached)
    have taken : Takes step (begun ctx name config isConnected launch)
        (before ++ (.testResponseTimerExpired, answer) :: after) s
        (.testResponseTimerExpired, answer) t :=
      ⟨before, after, rfl, earlier, by simpa using last⟩
    have coherent := coherent_of_visits taken.source
    have failed : (testResults (recorded t.trace)).getLast? = some false := by
      rw [(step_move coherent taken.step_eq).testResults coherent]
      exact List.getLast?_concat
    have published := publishes t visited false failed
    have written := lastTestPassed_of_run reached
    rw [published] at written
    simpa [lastExited, exitedTest] using written.symm
  · intro timely t visited
    refine visits_of_invariant (I := PublishesLast) ?_ ?_ visited
    · rintro s ⟨cb, answer⟩ u taken publishes
      have coherent := coherent_of_visits taken.source
      refine publishesLast_step coherent (step_move coherent taken.step_eq) publishes fun late => ?_
      obtain ⟨before, after, split, reached, last⟩ := taken
      subst late
      rw [lastTestPassed_of_run reached]
      exact timely before answer after u split (run_concat reached last)
    · intro passed last
      rw [(recorded_begun ctx name config isConnected launch).1] at last
      cases last

end Runs

/-- A test passes, and the next one takes too long. -/
def secondTestLate : List Input :=
  [(.settlingDelayTimerExpired, .forked 7), (.testProcExited 0, .refused),
    (.testIntervalTimerExpired, .forked 8), (.testResponseTimerExpired, .refused)]

/-- The test that took too long was counted as failed, and the dump says that the last
test passed. -/
theorem not_publishes_last :
    ¬ ∀ ctx name config isConnected launch inputs t,
      Visits step (begun ctx name config isConnected launch) inputs t → PublishesLast t := by
  intro publishes
  have runs : (run step (begun connectedShared "wan" (eagerConfig []) true .refused)
      secondTestLate).map (fun t => (t.tester.lastTestPassed,
        (testResults (recorded t.trace)).getLast?)) = some (true, some false) := by decide +kernel
  obtain ⟨t, reached, facts⟩ := Option.map_eq_some_iff.mp runs
  obtain ⟨published, counted⟩ := Prod.mk.inj facts
  have same := publishes _ _ _ _ _ _ t (visits_last reached) false counted
  rw [published] at same
  cases same

end IfaceTester
