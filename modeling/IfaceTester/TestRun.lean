import IfaceTester.Observations
import Mathlib.Data.List.Induction

/-!
# One test run

The loop over the tests of a configuration has no place in the code. It is
spread over the callbacks that report the end of a test, with the index kept in
the state. A run that `tester_start_connected` begins goes through the tests in
order, stops at the first result that decides it, and reports one result as long
as there is a socket.
-/

set_option autoImplicit false

namespace IfaceTester

open Runs

/-! ## What is seen of a test run -/

/-- A test that was started, or the result of a run that was sent. -/
inductive TestSeen where
  | started (exec : Exec)
  | reported (passed : Bool)

/-- The part of an observation that belongs to a test run. -/
def Observation.testSeen? : Observation → Option TestSeen
  | .runTest _ exec launch => if launch.succeeds then some (.started exec) else none
  | .testRunEvent passed => some (.reported passed)
  | _ => none

/-- The tests that were started and the results that were sent, oldest first. -/
def testsSeen (trace : List Observation) : List TestSeen :=
  trace.filterMap Observation.testSeen?

@[simp] theorem testsSeen_append (trace seen : List Observation) :
    testsSeen (trace ++ seen) = testsSeen trace ++ testsSeen seen := by
  simp [testsSeen]

@[simp] theorem testsSeen_cons (seen : Observation) (trace : List Observation) :
    testsSeen (seen :: trace) = seen.testSeen?.toList ++ testsSeen trace := by
  cases h : seen.testSeen? <;> simp [testsSeen, h]

@[simp] theorem testsSeen_nil : testsSeen [] = [] := rfl

@[simp] theorem testsSeen_kills (proc : TesterProcess) :
    testsSeen (interfaceTesterKillProcess proc).2 = [] := filterMap_kills (fun _ => rfl) proc

theorem testsSeen_testStartTrace {launch : Launch} (succeeds : launch.succeeds = true)
    (iface : Interface) (index : ℕ) :
    testsSeen (testStartTrace iface index launch) = [.started (testExec iface index)] := by
  simp [testStartTrace, succeeds, Observation.testSeen?]

/-- The event that reports a result, if there is a socket to send it on. -/
def resultReport (ctx : InterfaceTesterShared) (passed : Bool) : List TestSeen :=
  if ctx.ubusSockFd < 0 then [] else [.reported passed]

theorem testsSeen_testRunMessages (ctx : InterfaceTesterShared) (passed : Bool) :
    testsSeen (testRunMessages ctx passed) = resultReport ctx passed := by
  unfold testRunMessages resultReport
  split <;> rfl

/-! ## Outcomes -/

/-- The outcome that a callback gives for the running test. -/
def outcome? : Callback → Option Bool
  | .testProcExited status => some (getTestResultFromExitStatus status)
  | .testResponseTimerExpired => some false
  | _ => none

/-- The outcomes of the tests, oldest first. -/
def outcomes (inputs : List Input) : List Bool := inputs.filterMap fun input => outcome? input.1

/-- The outcomes leave nothing to decide: one of them decides the run, or every
test has one. -/
def Decided (config : InterfaceConfig) (outcomes : List Bool) : Prop :=
  (∃ outcome ∈ outcomes, decisive config outcome = true) ∨ config.numTests ≤ outcomes.length

/-- The result of a run with these outcomes. -/
def runResult (config : InterfaceConfig) (outcomes : List Bool) : Bool :=
  match config.condition with
  | .one => outcomes.any id
  | .all => outcomes.all id
  | .count => false

/-- The commands of the first tests of the configuration. -/
def firstTests (iface : Interface) (count : ℕ) : List TestSeen :=
  (iface.config.tests.take count).map fun test =>
    .started (test.exec iface.name iface.ctx.testDirectory)

/-- The counters after these outcomes. -/
def TestStatistics.countAll (stats : TestStatistics) (outcomes : List Bool) : TestStatistics where
  totalPassesThisConnection :=
    stats.totalPassesThisConnection + UInt64.ofNat (outcomes.count true)
  totalFailuresThisConnection :=
    stats.totalFailuresThisConnection + UInt64.ofNat (outcomes.count false)
  totalPasses := stats.totalPasses + UInt64.ofNat (outcomes.count true)
  totalFailures := stats.totalFailures + UInt64.ofNat (outcomes.count false)

theorem countAll_nil (stats : TestStatistics) : stats.countAll [] = stats := by
  simp [TestStatistics.countAll]

theorem countAll_concat (stats : TestStatistics) (outcomes : List Bool) (outcome : Bool) :
    stats.countAll (outcomes ++ [outcome]) = (stats.countAll outcomes).count outcome := by
  cases outcome <;>
    simp [TestStatistics.countAll, TestStatistics.count, UInt64.ofNat_add, UInt64.add_assoc]

section Deciding

variable {config : InterfaceConfig} {outcomes : List Bool} {outcome : Bool}

/-- One more outcome decides an open run when it is decisive or the last one. -/
theorem decided_concat (undecided : ¬ Decided config outcomes) :
    Decided config (outcomes ++ [outcome]) ↔
      decisive config outcome = true ∨ config.numTests ≤ outcomes.length + 1 := by
  simp only [Decided, not_or, List.mem_append, List.mem_singleton, List.length_append,
    List.length_singleton] at undecided ⊢
  constructor
  · rintro (⟨earlier, member | rfl, decides⟩ | all)
    · exact absurd ⟨earlier, member, decides⟩ undecided.1
    · exact .inl decides
    · exact .inr all
  · rintro (decides | all)
    · exact .inl ⟨outcome, .inr rfl, decides⟩
    · exact .inr all

/-- An outcome that decides an open run is its result. -/
theorem runResult_concat (accepted : config.Accepted) (undecided : ¬ Decided config outcomes) :
    runResult config (outcomes ++ [outcome]) = outcome := by
  have open_outcomes : ∀ earlier ∈ outcomes, decisive config earlier = false := by
    intro earlier member
    by_contra decides
    exact undecided (.inl ⟨earlier, member, eq_true_of_ne_false decides⟩)
  rcases accepted.condition_cases with one | all
  · have failed : outcomes.any id = false := by
      rw [List.any_eq_false]
      intro earlier member
      simpa [decisive, one] using open_outcomes earlier member
    simp [runResult, one, List.any_append, failed]
  · have passed : outcomes.all id = true := by
      rw [List.all_eq_true]
      intro earlier member
      simpa [decisive, all] using open_outcomes earlier member
    simp [runResult, all, List.all_append, passed]

/-- When all tests have to pass, the run passes exactly when each of them did. -/
theorem runResult_all (undecided : ¬ Decided config outcomes)
    (decided : Decided config (outcomes ++ [outcome])) (all : config.condition = .all) :
    runResult config (outcomes ++ [outcome]) = true ↔
      outcomes ++ [outcome] = List.replicate config.numTests true := by
  have short : outcomes.length < config.numTests := by
    by_contra enough
    exact undecided (.inr (Nat.not_lt.mp enough))
  simp only [runResult, all, List.all_eq_true, id_eq]
  constructor
  · intro passed
    have last := passed outcome (by simp)
    have enough := (decided_concat undecided).mp decided
    simp only [decisive, all, last, Bool.not_true, Bool.false_eq_true, false_or] at enough
    refine List.eq_replicate_iff.mpr ⟨?_, passed⟩
    rw [List.length_append, List.length_singleton]
    omega
  · intro each earlier member
    rw [each] at member
    exact List.eq_of_mem_replicate member

end Deciding

/-! ## The course of a run -/

/-- What a test run looks up. -/
def Interface.setting (iface : Interface) : InterfaceTesterShared × String × InterfaceConfig :=
  (iface.ctx, iface.name, iface.config)

/-- The run that `start` began is going on after these outcomes: the next test
runs, bounded by its timer, and nothing has been reported. -/
structure DuringRun (start : Interface) (before : List TestSeen) (outcomes : List Bool)
    (iface : Interface) : Prop where
  setting : iface.setting = start.setting
  testing : iface.tester.state = .testing
  running : iface.tester.testProc.isRunning = true
  timer : timerIsRunning iface.tester.testResponseTimeoutTimer = true
  index : iface.tester.testIndex = outcomes.length
  stats : iface.tester.stats.tests = start.tester.stats.tests.countAll outcomes
  seen : testsSeen iface.trace = before ++ firstTests start (outcomes.length + 1)

/-- The run that `start` began is over with these outcomes: each of them had its
test, in order, and one result was reported if there is a socket. -/
structure AfterRun (start : Interface) (before : List TestSeen) (outcomes : List Bool)
    (iface : Interface) : Prop where
  left : iface.tester.state ≠ .testing
  index : iface.tester.testIndex = 0
  stats : iface.tester.stats.tests = start.tester.stats.tests.countAll outcomes
  seen : testsSeen iface.trace = before ++ (firstTests start outcomes.length ++
    resultReport start.ctx (runResult start.config outcomes))
  all : start.config.condition = .all → (runResult start.config outcomes = true ↔
    outcomes = List.replicate start.config.numTests true)
  one : start.config.condition = .one → (runResult start.config outcomes = true ↔
    true ∈ outcomes)

section Course

variable {iface start t u : Interface} {launch : Launch} {cb : Callback}
variable {before : List TestSeen} {history : List Bool}

theorem setting_of_frame (same : t.frame = iface.frame) : t.setting = iface.setting :=
  congrArg (fun frame => (frame.1, frame.2.1, frame.2.2.2.1)) same

theorem firstTests_of_setting (same : t.setting = iface.setting) (count : ℕ) :
    firstTests t count = firstTests iface count := by
  simp only [Interface.setting, Prod.mk.injEq] at same
  rw [firstTests, firstTests, same.1, same.2.1, same.2.2]

/-- One more test of the list. -/
theorem firstTests_succ {count : ℕ} (more : count < iface.config.numTests) :
    firstTests iface (count + 1) = firstTests iface count ++ [.started (testExec iface count)] := by
  have found : iface.config.tests[count]? = some (testAt iface count) := by
    rw [testAt, List.getD_eq_getElem?_getD, List.getElem?_eq_getElem more, Option.getD_some]
  rw [firstTests, List.take_add_one, found]
  simp [firstTests, testExec]

/-- A test that is started from an idle slot, and the process with it. -/
theorem runTest_succeeds (succeeds : launch.succeeds = true) (iface : Interface) (index : ℕ) :
    (runTest iface index launch).2.tester.testProc.isRunning = true ∧
      timerIsRunning (runTest iface index launch).2.tester.testResponseTimeoutTimer = true ∧
      (runTest iface index launch).2.tester.state = iface.tester.state ∧
      (runTest iface index launch).2.tester.testIndex = iface.tester.testIndex ∧
      (runTest iface index launch).2.tester.stats = iface.tester.stats := by
  obtain ⟨memory, forked⟩ : launch.asprintf = true ∧ launch.fork.isSome = true := by
    simpa [Launch.succeeds] using succeeds
  obtain ⟨pid, forked⟩ := Option.isSome_iff_exists.mp forked
  rw [runTest_of_fork memory forked]
  exact ⟨rfl, rfl, rfl, rfl, rfl⟩

theorem TestEnd.outcome {passed : Bool} {event : TesterEvent} {ended : Interface}
    (how : TestEnd iface cb passed event ended) : outcome? cb = some passed := by
  cases how with
  | exited status => rfl
  | timedOut => rfl

/-- A test that ends counts its result and leaves the place in the list. -/
theorem TestEnd.kept {passed : Bool} {event : TesterEvent} {ended : Interface}
    (how : TestEnd iface cb passed event ended) :
    (countTest ended passed).setting = iface.setting ∧
      (countTest ended passed).tester.testIndex = iface.tester.testIndex ∧
      (countTest ended passed).tester.stats.tests = iface.tester.stats.tests.count passed ∧
      testsSeen (countTest ended passed).trace = testsSeen iface.trace := by
  obtain ⟨kills, added, only⟩ := trace_testEnd how
  have silent : testsSeen kills = [] := filterMap_of_kills (fun _ => rfl) only
  have trace : (countTest ended passed).trace = ended.trace := rfl
  have quiet : testsSeen (countTest ended passed).trace = testsSeen iface.trace := by
    rw [trace, added, testsSeen_append, silent, List.append_nil]
  cases how with
  | exited status => exact ⟨rfl, rfl, rfl, quiet⟩
  | timedOut => exact ⟨rfl, rfl, rfl, quiet⟩

/-- The end of a run reports its result and goes back to the first test. -/
theorem RunEnd.reported {passed : Bool} (ended : RunEnd iface launch passed t) :
    t.tester.testIndex = 0 ∧ t.tester.stats.tests = iface.tester.stats.tests ∧
      testsSeen t.trace = testsSeen iface.trace ++ resultReport iface.ctx passed := by
  have operational : testsSeen (operationalTrace iface.ctx) = [] :=
    filterMap_operationalTrace (fun _ => rfl) (fun _ => rfl) (fun _ => rfl) iface.ctx
  have broken : testsSeen (breakTrace iface) = [] :=
    filterMap_breakTrace (fun _ => rfl) (fun _ => rfl) (fun _ => rfl) iface
  have counted : ∀ passed, testsSeen (countedRun iface passed).trace =
      testsSeen iface.trace ++ resultReport iface.ctx passed := fun passed => by
    simp [countedRun, reportedRun, Observation.testSeen?, testsSeen_testRunMessages]
  have brokenRun : testsSeen (IfaceTester.brokenRun iface).trace =
      testsSeen iface.trace ++ resultReport iface.ctx false := by
    simp [trace_brokenRun, broken, Observation.testSeen?, testsSeen_testRunMessages]
  have tester := (brokenRun_kept iface).1
  cases ended with
  | passed short =>
      rw [testerSleep_eq]
      exact ⟨rfl, rfl, by simp [counted, Observation.testSeen?]⟩
  | restored met =>
      rw [testerSleep_eq, transitionToOperationalState_eq]
      have same : (countedRun iface true).ctx = iface.ctx := rfl
      exact ⟨rfl, rfl, by simp [counted, same, operational, Observation.testSeen?]⟩
  | failed short =>
      rw [testerSleep_eq]
      exact ⟨rfl, rfl, by simp [counted, Observation.testSeen?]⟩
  | noTask met noTasks =>
      rw [testerSleep_eq]
      refine ⟨?_, ?_, by simp [brokenRun, Observation.testSeen?]⟩
      · exact congrArg InterfaceTester.testIndex tester
      · exact congrArg (fun tester => tester.stats.tests) tester
  | notStarted met tasks unsuccessful proc kills slot =>
      have quiet : testsSeen kills = [] := by
        rcases slot with ⟨-, rfl⟩ | ⟨-, rfl⟩ <;> simp
      rw [testerSleep_eq]
      refine ⟨?_, ?_, by simp [taskNotStarted, brokenRun, quiet, Observation.testSeen?]⟩
      · exact congrArg InterfaceTester.testIndex tester
      · exact congrArg (fun tester => tester.stats.tests) tester
  | started met tasks pid memory forked =>
      refine ⟨?_, ?_, by simp [taskStarted, brokenRun, Observation.testSeen?]⟩
      · exact congrArg InterfaceTester.testIndex tester
      · exact congrArg (fun tester => tester.stats.tests) tester

/-- The callback neither disconnects the interface nor changes its
configuration. -/
def StaysUp (start : Interface) (cb : Callback) : Prop :=
  cb ≠ .ifdown ∧ ∀ new, cb = .configUpdate new →
    configChanged start.ctx.withMetricsAdjustment start.config new.config = false

/-- A callback without an outcome does not touch the test that runs. -/
theorem DuringRun.keeps (during : DuringRun start before history iface)
    (coherent : Coherent iface) (move : Move iface launch cb t) (stays : StaysUp start cb)
    (noOutcome : outcome? cb = none) : DuringRun start before history t := by
  have live : iface.tester.state ≠ .stopped := by simp [during.testing]
  have up := coherent.connected.mpr live
  obtain ⟨setting, testing, running, timer, index, stats, seen⟩ := during
  cases move with
  | ifupArms down => simp [up] at down
  | ifupRedundant connected => exact ⟨setting, testing, running, timer, index, stats, seen⟩
  | ifdownRedundant down => exact absurd rfl stays.1
  | ifdownSettling settling => exact absurd rfl stays.1
  | ifdownConnected connected live => exact absurd rfl stays.1
  | settled settling stopped => simp [up] at settling
  | intervalElapsed sleeping => simp [testing] at sleeping
  | requested sleeping => simp [testing] at sleeping
  | requestIgnored awake =>
      exact ⟨setting, testing, running, timer, index, stats,
        by simpa [Observation.testSeen?] using seen⟩
  | testEndsNext _ _ how more => simp [how.outcome] at noOutcome
  | testEndsRun _ _ how isOver => simp [how.outcome] at noOutcome
  | recoveryEnded status recovering => simp [testing] at recovering
  | recoveryEndIgnored status elsewhere =>
      exact ⟨setting, testing, running, timer, index, stats,
        by simpa [recoveryTaskExited, Observation.testSeen?] using seen⟩
  | recoveryTimedOut recovering => simp [testing] at recovering
  | recoveryTimeoutIgnored elsewhere =>
      exact ⟨setting, testing, running, timer, index, stats,
        by simpa [recoveryResponseTimerStop, Observation.testSeen?] using seen⟩
  | updateUnchanged same => exact ⟨setting, testing, running, timer, index, stats, seen⟩
  | updateStopped stopped changed => exact absurd stopped live
  | updateRestarted _ changed =>
      have kept := stays.2 _ rfl
      simp only [Interface.setting, Prod.mk.injEq] at setting
      rw [setting.1, setting.2.2, kept] at changed
      exact absurd changed Bool.false_ne_true

/-- A callback with an outcome ends the running test. -/
theorem Move.testEnd (move : Move iface launch cb t) {outcome : Bool}
    (gives : outcome? cb = some outcome) :
    iface.tester.state = .testing ∧ ∃ event ended, TestEnd iface cb outcome event ended ∧
      ((runIsOver iface outcome = false ∧
          t = (nextTest (countTest ended outcome) launch).observe
            (.testerEvent event .testing true)) ∨
        (runIsOver iface outcome = true ∧
          t = (interfaceTestRunCompleted (countTest ended outcome) outcome launch).observe
            (.testerEvent event .testing true))) := by
  cases move with
  | testEndsNext testing running how more =>
      obtain rfl := Option.some.inj (how.outcome.symm.trans gives)
      exact ⟨testing, _, _, how, .inl ⟨more, rfl⟩⟩
  | testEndsRun testing running how isOver =>
      obtain rfl := Option.some.inj (how.outcome.symm.trans gives)
      exact ⟨testing, _, _, how, .inr ⟨isOver, rfl⟩⟩
  | _ => cases gives

/-- The next test of an open run is started. -/
theorem DuringRun.next (during : DuringRun start before history iface)
    (coherent : Coherent iface) {outcome : Bool} {event : TesterEvent} {ended : Interface}
    (how : TestEnd iface cb outcome event ended)
    (more : history.length + 1 < start.config.numTests) (succeeds : launch.succeeds = true) :
    DuringRun start before (history ++ [outcome])
      ((nextTest (countTest ended outcome) launch).observe (.testerEvent event .testing true)) := by
  have testing := how.testing during.testing
  obtain ⟨setting, index, stats, seen⟩ := how.kept
  have idle := ((coherent.idle_testEnd during.testing how).countTest outcome).testProc
  have trace := trace_nextTest idle launch
  have same := setting.trans during.setting
  have kept := firstTests_of_setting same
  have config : (countTest ended outcome).config = start.config :=
    congrArg (fun setting => setting.2.2) same
  generalize countTest ended outcome = counted at *
  obtain ⟨started, timer, state, place, counters⟩ := runTest_succeeds succeeds
    { counted with tester.testIndex := counted.tester.testIndex + 1 }
    (counted.tester.testIndex + 1)
  rw [during.index] at index
  have frame := setting_of_frame (frame_nextTest counted launch)
  refine ⟨frame.trans same, state.trans testing, started, timer, ?_, ?_, ?_⟩
  · rw [List.length_append, List.length_singleton, ← index]
    exact place
  · rw [countAll_concat, ← during.stats, ← stats]
    exact congrArg TesterStatistics.tests counters
  · have succ := @firstTests_succ counted _ (config ▸ more)
    rw [trace_observe, testsSeen_append, trace, testsSeen_append, seen, during.seen, index,
      testsSeen_testStartTrace succeeds, List.length_append, List.length_singleton, ← kept, ← kept,
      succ]
    simp [Observation.testSeen?]

/-- A decided run is over. -/
theorem DuringRun.atEnd (during : DuringRun start before history iface)
    (accepted : start.config.Accepted) {outcome : Bool} {event : TesterEvent} {ended : Interface}
    (how : TestEnd iface cb outcome event ended) (undecided : ¬ Decided start.config history)
    (decided : Decided start.config (history ++ [outcome])) :
    AfterRun start before (history ++ [outcome])
      ((interfaceTestRunCompleted (countTest ended outcome) outcome launch).observe
        (.testerEvent event .testing true)) := by
  obtain ⟨setting, index, stats, seen⟩ := how.kept
  have completed := interfaceTestRunCompleted_runEnd (how.testing during.testing) outcome launch
  have ctx : (countTest ended outcome).ctx = start.ctx :=
    congrArg (fun setting => setting.1) (setting.trans during.setting)
  generalize countTest ended outcome = counted at completed stats seen ctx ⊢
  generalize interfaceTestRunCompleted counted outcome launch = t at completed ⊢
  obtain ⟨first, kept, reported⟩ := completed.reported
  refine ⟨completed.not_testing, first, ?_, ?_, runResult_all undecided decided, fun one => ?_⟩
  · rw [countAll_concat, ← during.stats, ← stats]
    exact kept
  · rw [trace_observe, testsSeen_append, reported, seen, during.seen, ctx,
      runResult_concat accepted undecided, List.length_append, List.length_singleton]
    simp [Observation.testSeen?]
  · rw [runResult, one]
    simp

/-- **An outcome decides the run or leads to the next test.** -/
theorem DuringRun.outcome (during : DuringRun start before history iface)
    (coherent : Coherent iface) (undecided : ¬ Decided start.config history)
    (move : Move iface launch cb t) (succeeds : launch.succeeds = true) {outcome : Bool}
    (gives : outcome? cb = some outcome) :
    (¬ Decided start.config (history ++ [outcome]) →
        DuringRun start before (history ++ [outcome]) t) ∧
      (Decided start.config (history ++ [outcome]) →
        AfterRun start before (history ++ [outcome]) t) := by
  have sameConfig : iface.config = start.config :=
    congrArg (fun setting => setting.2.2) during.setting
  have isOver : runIsOver iface outcome = true ↔ Decided start.config (history ++ [outcome]) := by
    rw [decided_concat undecided, runIsOver, sameConfig, during.index, Bool.or_eq_true,
      decide_eq_true_eq]
  obtain ⟨-, event, ended, how, ⟨goes, rfl⟩ | ⟨ends, rfl⟩⟩ := move.testEnd gives
  · have undecided' : ¬ Decided start.config (history ++ [outcome]) := by
      rw [← isOver, goes]
      exact Bool.false_ne_true
    refine ⟨fun _ => during.next coherent how ?_ succeeds, fun decided => absurd decided undecided'⟩
    rw [decided_concat undecided, not_or, Nat.not_le] at undecided'
    exact undecided'.2
  · have decided := isOver.mp ends
    exact ⟨fun undecided' => absurd decided undecided',
      fun _ => during.atEnd (sameConfig ▸ coherent.accepted) how undecided decided⟩

/-- The callback has `tester_start_connected` called. -/
def startsRun (iface : Interface) : Callback → Bool
  | .settlingDelayTimerExpired => true
  | .testIntervalTimerExpired => true
  | .startTestRun => decide (iface.tester.state = .sleeping)
  | .configUpdate new => decide (iface.tester.state ≠ .stopped)
      && configChanged iface.ctx.withMetricsAdjustment iface.config new.config
  | _ => false

/-- `tester_start_connected` begins a run with the first test. -/
theorem Idle.duringRun (idle : Idle iface) (succeeds : launch.succeeds = true) :
    DuringRun (testerStartConnected iface launch) (testsSeen iface.trace) []
      (testerStartConnected iface launch) := by
  obtain ⟨started, timer, state, place, counters⟩ := runTest_succeeds succeeds
    { testerStateTransition iface .testing with tester.testIndex := 0 } 0
  have same := setting_of_frame (frame_testerStartConnected iface launch)
  refine ⟨rfl, state, started, timer, place, (countAll_nil _).symm, ?_⟩
  rw [trace_testerStartConnected idle.testProc, firstTests_of_setting same, testsSeen_append,
    testsSeen_cons, testsSeen_testStartTrace succeeds, List.length_nil,
    firstTests_succ idle.accepted.numTests_pos]
  rfl

theorem DuringRun.observe (during : DuringRun start before history start)
    (event : TesterEvent) (state : TesterState) (handled : Bool) :
    DuringRun (start.observe (.testerEvent event state handled)) before history
      (start.observe (.testerEvent event state handled)) := by
  refine ⟨rfl, during.testing, during.running, during.timer, during.index, during.stats, ?_⟩
  rw [trace_observe, testsSeen_append, during.seen]
  exact List.append_nil _

/-- Such a callback begins a run. -/
theorem Move.duringRun (coherent : Coherent iface) (move : Move iface launch cb start)
    (starts : startsRun iface cb = true) (succeeds : launch.succeeds = true) :
    DuringRun start (testsSeen iface.trace) [] start := by
  cases move with
  | settled settling stopped =>
      have during := (coherent.idle_settled stopped).duringRun succeeds
      have quiet : testsSeen (connectionSettled iface).trace = testsSeen iface.trace := by
        simp [connectionSettled, testerInitialisePerConnectionStatistics, settlingDelayTimerStop,
          connectionStateTransition, Observation.testSeen?]
      rw [quiet] at during
      exact during.observe _ _ _
  | intervalElapsed sleeping =>
      exact ((coherent.idle_woken sleeping).duringRun succeeds).observe _ _ _
  | requested sleeping =>
      exact ((coherent.idle_woken sleeping).duringRun succeeds).observe _ _ _
  | requestIgnored awake => simp [startsRun, awake] at starts
  | updateUnchanged same => simp [startsRun, same] at starts
  | updateStopped stopped changed => simp [startsRun, stopped] at starts
  | @updateRestarted new live changed =>
      have during := (coherent.idle_reconfigured live new).duringRun succeeds
      have quiet : testsSeen (reconfigured iface new.config).trace = testsSeen iface.trace := by
        simp [reconfigured, trace_testerStop, Observation.testSeen?]
      rw [quiet] at during
      exact during
  | testEndsNext testing running how more => cases how <;> cases starts
  | testEndsRun testing running how isOver => cases how <;> cases starts
  | _ => cases starts

end Course

/-! ## Runs -/

section Runs

variable {ctx : InterfaceTesterShared} {name : String} {config : AcceptedConfig}
variable {isConnected : Bool} {launch : Launch} {inputs : List Input}
variable {s start : Interface} {cb : Callback} {answer : Launch}

theorem outcomes_concat (course : List Input) (input : Input) :
    outcomes (course ++ [input]) = outcomes course ++ (outcome? input.1).toList := by
  rw [outcomes, List.filterMap_append]
  cases h : outcome? input.1 <;> simp [outcomes, h]

theorem Decided.append {config : InterfaceConfig} {earlier : List Bool}
    (decided : Decided config earlier) (later : List Bool) : Decided config (earlier ++ later) := by
  rcases decided with ⟨outcome, member, decides⟩ | all
  · exact .inl ⟨outcome, List.mem_append_left later member, decides⟩
  · exact .inr (by rw [List.length_append]; omega)

/-- The callbacks of a run neither take the interface down nor reconfigure it,
and every process they start gets started. -/
def Undisturbed (start : Interface) (course : List Input) : Prop :=
  ∀ input ∈ course, StaysUp start input.1 ∧ input.2.succeeds = true

/-- **What a test run does.** A run that `tester_start_connected` begins goes
through the tests in order as long as the outcomes leave it open, and with the
outcome that decides it the run is over. Exactly one result is reported then
while the socket is connected, and none otherwise. -/
theorem test_run
    (taken : Takes step (begun ctx name config isConnected launch) inputs s (cb, answer) start)
    (starts : startsRun s cb = true) (succeeds : answer.succeeds = true) :
    (∀ course t, run step start course = some t → Undisturbed start course →
      ¬ Decided start.config (outcomes course) →
      DuringRun start (testsSeen s.trace) (outcomes course) t) ∧
    ∀ course input t, run step start (course ++ [input]) = some t →
      Undisturbed start (course ++ [input]) → ¬ Decided start.config (outcomes course) →
      Decided start.config (outcomes (course ++ [input])) →
      AfterRun start (testsSeen s.trace) (outcomes (course ++ [input])) t := by
  have begins := (step_move (coherent_of_visits taken.source) taken.step_eq).duringRun
    (coherent_of_visits taken.source) starts succeeds
  have coherent_start := coherent_of_visits taken.target
  have coherent_course : ∀ course t, run step start course = some t → Coherent t :=
    fun course t reached =>
      run_invariant (fun _ _ _ coherent taken => coherent.stepped taken) coherent_start reached
  have during : ∀ course t, run step start course = some t → Undisturbed start course →
      ¬ Decided start.config (outcomes course) →
      DuringRun start (testsSeen s.trace) (outcomes course) t := by
    intro course
    induction course using List.reverseRecOn with
    | nil =>
        intro t reached _ _
        cases reached
        exact begins
    | append_singleton course input ih =>
        intro t reached undisturbed undecided
        rw [run_append, Option.bind_eq_some_iff] at reached
        obtain ⟨u, earlier, last⟩ := reached
        obtain ⟨cb, answer⟩ := input
        have taken : step u (cb, answer) = some t := by simpa using last
        obtain ⟨stays, succeeds⟩ := undisturbed (cb, answer) (by simp)
        rw [outcomes_concat] at undecided ⊢
        have undecided' : ¬ Decided start.config (outcomes course) := fun decided =>
          undecided (decided.append _)
        have before := ih u earlier
          (fun input member => undisturbed input (List.mem_append_left _ member)) undecided'
        have coherent := coherent_course course u earlier
        have move := step_move coherent taken
        cases gives : outcome? cb with
        | none =>
            simp only [Option.toList_none, List.append_nil]
            exact before.keeps coherent move stays gives
        | some outcome =>
            simp only [gives, Option.toList_some] at undecided ⊢
            exact (before.outcome coherent undecided' move succeeds gives).1 undecided
  refine ⟨during, fun course input t reached undisturbed undecided decided => ?_⟩
  rw [run_append, Option.bind_eq_some_iff] at reached
  obtain ⟨u, earlier, last⟩ := reached
  obtain ⟨cb, answer⟩ := input
  have taken : step u (cb, answer) = some t := by simpa using last
  have before := during course u earlier
    (fun input member => undisturbed input (List.mem_append_left _ member)) undecided
  have coherent := coherent_course course u earlier
  rw [outcomes_concat] at decided ⊢
  cases gives : outcome? cb with
  | none =>
      simp only [gives, Option.toList_none, List.append_nil] at decided
      exact absurd decided undecided
  | some outcome =>
      simp only [gives, Option.toList_some] at decided ⊢
      exact (before.outcome coherent undecided (step_move coherent taken)
        (undisturbed (cb, answer) (by simp)).2 gives).2 decided

end Runs

/-- Two tests, which both have to pass. -/
def pingAndResolve : AcceptedConfig where
  config := { (eagerConfig []).config with
    tests := [plainTask "ping", plainTask "resolve"] }
  accepted :=
    { validated := by decide
      listed := (eagerConfig []).accepted.listed
      testsNonempty := List.cons_ne_nil _ _ }

/-- The first test passes and the second takes too long. -/
def passThenTimeout : List Input :=
  [(.testProcExited 0, .forked 8), (.testResponseTimerExpired, .forked 9)]

theorem test_run_pass_then_timeout : ∃ s start t,
    step s (.settlingDelayTimerExpired, .forked 7) = some start ∧
    run step start passThenTimeout = some t ∧
    AfterRun start (testsSeen s.trace) [true, false] t := by
  have happens : ((step (begun connectedShared "wan" pingAndResolve true .refused)
      (.settlingDelayTimerExpired, .forked 7)).bind fun start =>
        (run step start passThenTimeout).map fun _ =>
          (start.config.numTests, start.config.condition)) = some (2, .all) := by decide +kernel
  obtain ⟨start, begins, goes⟩ := Option.bind_eq_some_iff.mp happens
  obtain ⟨t, reached, facts⟩ := Option.map_eq_some_iff.mp goes
  obtain ⟨two, all⟩ := Prod.mk.inj facts
  have taken : Takes step (begun connectedShared "wan" pingAndResolve true .refused)
      [(.settlingDelayTimerExpired, .forked 7)] _ (.settlingDelayTimerExpired, .forked 7) start :=
    ⟨[], [], rfl, rfl, begins⟩
  refine ⟨_, start, t, begins, reached, (test_run taken rfl rfl).2
    [(.testProcExited 0, .forked 8)] (.testResponseTimerExpired, .forked 9) t reached ?_ ?_ ?_⟩
  · intro input member
    simp only [List.cons_append, List.nil_append, List.mem_cons, List.not_mem_nil, or_false]
      at member
    rcases member with rfl | rfl
    · exact ⟨⟨nofun, nofun⟩, rfl⟩
    · exact ⟨⟨nofun, nofun⟩, rfl⟩
  · rintro (⟨outcome, member, decides⟩ | enough)
    · have passed : outcome = true := by
        simpa [outcomes, outcome?, getTestResultFromExitStatus] using member
      rw [passed, decisive, all] at decides
      exact Bool.false_ne_true decides
    · rw [two] at enough
      exact absurd enough (by decide)
  · exact .inr (by rw [two]; decide)

/-- Without a socket a run ends with no report. -/
theorem not_one_result_reported :
    ¬ ∀ ctx name config isConnected launch inputs s cb answer start,
      Takes step (begun ctx name config isConnected launch) inputs s (cb, answer) start →
      startsRun s cb = true → answer.succeeds = true →
      ∀ course input t, run step start (course ++ [input]) = some t →
        Undisturbed start (course ++ [input]) → ¬ Decided start.config (outcomes course) →
        Decided start.config (outcomes (course ++ [input])) →
        ∃ tests passed, testsSeen t.trace = testsSeen s.trace ++ tests ++ [.reported passed] := by
  intro reported
  have happens : ((step (begun disconnectedShared "wan" (eagerConfig []) true .refused)
      (.settlingDelayTimerExpired, .forked 7)).bind fun start =>
        (run step start [(.testProcExited 0, .forked 8)]).map fun t =>
          (start.config.numTests, (testsSeen t.trace).any fun seen => seen matches .reported _)) =
      some (1, false) := by decide +kernel
  obtain ⟨start, begins, goes⟩ := Option.bind_eq_some_iff.mp happens
  obtain ⟨t, reached, facts⟩ := Option.map_eq_some_iff.mp goes
  obtain ⟨one, silent⟩ := Prod.mk.inj facts
  have taken : Takes step (begun disconnectedShared "wan" (eagerConfig []) true .refused)
      [(.settlingDelayTimerExpired, .forked 7)] _ (.settlingDelayTimerExpired, .forked 7) start :=
    ⟨[], [], rfl, rfl, begins⟩
  obtain ⟨tests, passed, seen⟩ := reported _ _ _ _ _ _ _ _ _ start taken rfl rfl []
    (.testProcExited 0, .forked 8) t reached
    (fun input member => by
      obtain rfl := List.mem_singleton.mp member
      exact ⟨⟨nofun, nofun⟩, rfl⟩)
    (by
      rintro (⟨outcome, member, -⟩ | enough)
      · cases member
      · rw [one] at enough
        exact absurd enough (by decide))
    (.inr one.le)
  rw [seen, List.any_append] at silent
  simp at silent

end IfaceTester
