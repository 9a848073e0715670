import IfaceTester.Equations

/-!
# The end of a test run

`interface_test_run_completed` counts the result, and the thresholds then
decide about the recovery state and about a recovery task. `RunEnd` lists what
can come of it.
-/

set_option autoImplicit false

namespace IfaceTester

/-- The counters of a completed run. -/
def TestRunStatistics.count (stats : TestRunStatistics) (passed : Bool) : TestRunStatistics :=
  if passed then stats.countPass else stats.countFailure

/-- The run has been reported and counted. -/
def countedRun (iface : Interface) (passed : Bool) : Interface :=
  { reportedRun iface passed with
    tester.stats.testRuns := iface.tester.stats.testRuns.count passed }

/-- The pass threshold is met by one more pass. -/
def restores (iface : Interface) : Bool :=
  decide (iface.recovery.state = .broken)
    && decide (iface.tester.stats.testRuns.consecutivePasses + 1 =
      iface.config.passThreshold.toUInt64)

/-- The failure threshold is met by one more failure. -/
def escalates (iface : Interface) : Bool :=
  haveReachedFailureThreshold (countedRun iface false)

/-- A failure has met the threshold, and the interface is broken. -/
def brokenRun (iface : Interface) : Interface :=
  if iface.recovery.state = .operational then transitionToBrokenState (countedRun iface false)
  else countedRun iface false

/-- The task that comes next in the rotation. -/
def nextTask (iface : Interface) : ℕ :=
  if iface.recovery.recoveryIndex ≥ iface.config.numRecoverys then 0
  else iface.recovery.recoveryIndex

/-- The rotation after that task. -/
def rotatedIndex (iface : Interface) : ℕ :=
  if iface.recovery.recoveryIndex + 1 ≥ iface.config.numRecoverys then 0
  else iface.recovery.recoveryIndex + 1

/-- The next task was to be started and was not. -/
def taskNotStarted (iface : Interface) (proc : TesterProcess) (kills : List Observation)
    (launch : Launch) : Interface :=
  { iface with
    recovery.recoveryIndex := rotatedIndex iface
    recovery.proc := proc
    trace := iface.trace ++ kills ++
      [.runRecoveryTask (nextTask iface) (recoveryExec iface (nextTask iface)) launch] }

/-- The next task was started as `pid`, and the tester waits for it. -/
def taskStarted (iface : Interface) (pid : Pid) (launch : Launch) : Interface :=
  { iface with
    tester.state := .recovering
    tester.stats.recovery :=
      { totalThisConnection := iface.tester.stats.recovery.totalThisConnection + 1
        total := iface.tester.stats.recovery.total + 1 }
    recovery.recoveryIndex := rotatedIndex iface
    recovery.proc := { pending := some pid, cb := some .recoveryTaskCompleted }
    recovery.responseTimeoutTimer := ⟨some (recoveryTimeoutMsecs iface (nextTask iface))⟩
    trace := iface.trace ++ (interfaceTesterKillProcess iface.recovery.proc).2 ++
      [.runRecoveryTask (nextTask iface) (recoveryExec iface (nextTask iface)) launch,
        .timerSet .recoveryTask (recoveryTimeoutMsecs iface (nextTask iface)),
        .testerState .recovering] }

/-- What the end of a run with the given result leads to. -/
inductive RunEnd (iface : Interface) (launch : Launch) : Bool → Interface → Prop where
  | passed (short : restores iface = false) :
      RunEnd iface launch true (testerSleep (countedRun iface true))
  | restored (met : restores iface = true) :
      RunEnd iface launch true (testerSleep (transitionToOperationalState (countedRun iface true)))
  | failed (short : escalates iface = false) :
      RunEnd iface launch false (testerSleep (countedRun iface false))
  | noTask (met : escalates iface = true) (noTasks : iface.config.numRecoverys = 0) :
      RunEnd iface launch false (testerSleep (brokenRun iface))
  | notStarted (met : escalates iface = true) (tasks : 0 < iface.config.numRecoverys)
      (unsuccessful : launch.succeeds = false) (proc : TesterProcess) (kills : List Observation)
      (slot : proc = iface.recovery.proc ∧ kills = [] ∨
        proc.pending = none ∧ kills = (interfaceTesterKillProcess iface.recovery.proc).2) :
      RunEnd iface launch false (testerSleep (taskNotStarted (brokenRun iface) proc kills launch))
  | started (met : escalates iface = true) (tasks : 0 < iface.config.numRecoverys)
      (pid : Pid) (memory : launch.asprintf = true) (forked : launch.fork = Option.some pid) :
      RunEnd iface launch false (taskStarted (brokenRun iface) pid launch)

section Inversion

variable {iface : Interface} {launch : Launch}

@[simp] theorem frame_countedRun (iface : Interface) (passed : Bool) :
    (countedRun iface passed).frame = iface.frame := rfl

@[simp] theorem frame_brokenRun (iface : Interface) : (brokenRun iface).frame = iface.frame := by
  unfold brokenRun
  split <;> simp

theorem config_brokenRun (iface : Interface) : (brokenRun iface).config = iface.config :=
  congrArg (fun frame => frame.2.2.2.1) (frame_brokenRun iface)

/-- What becoming broken leaves alone, apart from the frame. -/
theorem brokenRun_kept (iface : Interface) :
    (brokenRun iface).tester = (countedRun iface false).tester ∧
      (brokenRun iface).recovery.proc = iface.recovery.proc ∧
      (brokenRun iface).recovery.responseTimeoutTimer = iface.recovery.responseTimeoutTimer ∧
      (brokenRun iface).recovery.recoveryIndex = iface.recovery.recoveryIndex := by
  unfold brokenRun
  split
  · rw [transitionToBrokenState_eq]
    exact ⟨rfl, rfl, rfl, rfl⟩
  · exact ⟨rfl, rfl, rfl, rfl⟩

theorem brokenRun_state (iface : Interface) : (brokenRun iface).recovery.state = .broken := by
  unfold brokenRun
  split
  · rw [transitionToBrokenState_eq]
  · cases state : iface.recovery.state with
    | operational => contradiction
    | broken => exact state

theorem sleepUnlessRecovering_of_testing (testing : iface.tester.state = .testing) :
    sleepUnlessRecovering iface = testerSleep iface := by
  simp [sleepUnlessRecovering, testing]

theorem interfaceTestRunPassed_reported (iface : Interface) :
    interfaceTestRunPassed (reportedRun iface true) =
      if restores iface then transitionToOperationalState (countedRun iface true)
      else countedRun iface true := by
  simp only [restores, Bool.and_eq_true, decide_eq_true_eq]
  rfl

theorem interfaceTestRunFailed_reported (iface : Interface) :
    interfaceTestRunFailed (reportedRun iface false) launch =
      if escalates iface then performNextRecoveryAction (brokenRun iface) launch
      else countedRun iface false := rfl

/-- The three outcomes of a recovery action. -/
theorem performNextRecoveryAction_cases (iface : Interface) (launch : Launch) :
    (iface.config.numRecoverys = 0 ∧ performNextRecoveryAction iface launch = iface) ∨
    (0 < iface.config.numRecoverys ∧ launch.succeeds = false ∧
      ∃ proc kills, (proc = iface.recovery.proc ∧ kills = [] ∨
          proc.pending = none ∧ kills = (interfaceTesterKillProcess iface.recovery.proc).2) ∧
        performNextRecoveryAction iface launch = taskNotStarted iface proc kills launch) ∨
    (0 < iface.config.numRecoverys ∧ launch.asprintf = true ∧
      ∃ pid, launch.fork = some pid ∧
        performNextRecoveryAction iface launch = taskStarted iface pid launch) := by
  unfold performNextRecoveryAction
  by_cases tasks : 0 < iface.config.numRecoverys
  · rw [if_pos tasks]
    cases outcome : launch.succeeds with
    | false =>
        obtain ⟨proc, kills, slot, ran⟩ := runRecoveryTask_of_failed outcome
          (nextRecoveryTaskIndex iface).2 (nextRecoveryTaskIndex iface).1
        refine .inr (.inl ⟨tasks, rfl, proc, kills, slot, ?_⟩)
        simp only [ran]
        rfl
    | true =>
        obtain ⟨memory, forked⟩ : launch.asprintf = true ∧ launch.fork.isSome = true := by
          simpa [Launch.succeeds] using outcome
        obtain ⟨pid, forked⟩ := Option.isSome_iff_exists.mp forked
        refine .inr (.inr ⟨tasks, memory, pid, forked, ?_⟩)
        simp only [runRecoveryTask_of_fork memory forked, if_true, testerStateTransition,
          Interface.observe, taskStarted, List.append_assoc, List.cons_append, List.nil_append]
        rfl
  · rw [if_neg tasks]
    exact .inl ⟨Nat.eq_zero_of_not_pos tasks, rfl⟩

/-- **A completed test run ends in one of the listed ways.** -/
theorem interfaceTestRunCompleted_runEnd (testing : iface.tester.state = .testing)
    (passed : Bool) (launch : Launch) :
    RunEnd iface launch passed (interfaceTestRunCompleted iface passed launch) := by
  have counting : ∀ passed, (countedRun iface passed).tester.state = .testing := fun _ => testing
  cases passed with
  | true =>
      rw [interfaceTestRunCompleted_true, interfaceTestRunPassed_reported]
      cases met : restores iface with
      | true =>
          have asleep := @sleepUnlessRecovering_of_testing
            (transitionToOperationalState (countedRun iface true))
            (by rw [transitionToOperationalState_eq]; exact testing)
          rw [if_pos rfl, asleep]
          exact .restored met
      | false =>
          rw [if_neg Bool.false_ne_true, sleepUnlessRecovering_of_testing (counting true)]
          exact .passed met
  | false =>
      have broken : (brokenRun iface).tester.state = .testing := by
        rw [(brokenRun_kept iface).1]
        exact testing
      rw [interfaceTestRunCompleted_false, interfaceTestRunFailed_reported]
      cases met : escalates iface with
      | false =>
          rw [if_neg Bool.false_ne_true, sleepUnlessRecovering_of_testing (counting false)]
          exact .failed met
      | true =>
          rw [if_pos rfl]
          have config := config_brokenRun iface
          have proc := (brokenRun_kept iface).2.1
          rcases performNextRecoveryAction_cases (brokenRun iface) launch with
            ⟨noTasks, ran⟩ | ⟨tasks, unsuccessful, proc', kills, slot, ran⟩ |
              ⟨tasks, memory, pid, forked, ran⟩
          · rw [ran, sleepUnlessRecovering_of_testing broken]
            exact .noTask met (config ▸ noTasks)
          · rw [ran, sleepUnlessRecovering_of_testing (by exact broken)]
            exact .notStarted met (config ▸ tasks) unsuccessful proc' kills (proc ▸ slot)
          · rw [ran]
            exact .started met (config ▸ tasks) pid memory forked

end Inversion

end IfaceTester
