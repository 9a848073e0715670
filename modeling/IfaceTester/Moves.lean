import IfaceTester.Equations

/-!
# What one callback can do

Between callbacks the connection, the tester, the timers and the slots fit
together (`Coherent`). From a coherent state every callback is one of the moves
of `Move`, and `step_move` is the only place where the handlers are taken
apart. The end of a test run has its own list, `RunEnd`, since the thresholds
and the recovery tasks make it branch further (`runEnd_of_testing`).

Everything that is proved about the runs of the tester is proved by cases on
these two lists.
-/

set_option autoImplicit false

namespace IfaceTester

/-! ## Coherent states -/

/-- How the parts of an interface fit together between callbacks. -/
structure Coherent (iface : Interface) : Prop where
  quiet : iface.eventQueue = .empty
  accepted : iface.config.Accepted
  settlingTimer : timerIsRunning iface.connection.settlingDelayTimer = true ↔
    iface.connection.state = .settling
  intervalTimer : timerIsRunning iface.tester.testIntervalTimer = true ↔
    iface.tester.state = .sleeping
  responseTimer : iface.tester.testProc.isRunning = true ↔
    timerIsRunning iface.tester.testResponseTimeoutTimer = true
  testing : iface.tester.testProc.isRunning = true → iface.tester.state = .testing
  connected : iface.connection.state = .connected ↔ iface.tester.state ≠ .stopped
  starter : iface.tester.starter = .testerStartConnected ↔ iface.tester.state ≠ .stopped
  recovering : iface.tester.state = .recovering → iface.recovery.proc.isRunning = true ∧
    timerIsRunning iface.recovery.responseTimeoutTimer = true
  testCb : iface.tester.testProc.isRunning = true →
    iface.tester.testProc.cb = some .testCompleted
  recoveryCb : iface.recovery.proc.isRunning = true →
    iface.recovery.proc.cb = some .recoveryTaskCompleted

/-! ## The end of a test -/

/-- The counters of a test with the given result. -/
def TestStatistics.count (stats : TestStatistics) (passed : Bool) : TestStatistics :=
  if passed then
    { stats with
      totalPassesThisConnection := stats.totalPassesThisConnection + 1
      totalPasses := stats.totalPasses + 1 }
  else
    { stats with
      totalFailuresThisConnection := stats.totalFailuresThisConnection + 1
      totalFailures := stats.totalFailures + 1 }

/-- The result of a test is counted. -/
def countTest (iface : Interface) (passed : Bool) : Interface :=
  { iface with tester.stats.tests := iface.tester.stats.tests.count passed }

/-- The interface after a test process exited. -/
def testExited (iface : Interface) (status : Int32) : Interface :=
  { iface with
    tester.testProc.pending := none
    tester.testResponseTimeoutTimer := ⟨none⟩
    tester.lastTestExitCode := status
    tester.lastTestPassed := getTestResultFromExitStatus status }

/-- The interface after a test took too long and was killed. -/
def testTimedOut (iface : Interface) : Interface :=
  { iface with
    tester.testProc.pending := none
    tester.testResponseTimeoutTimer := ⟨none⟩
    trace := iface.trace ++ (interfaceTesterKillProcess iface.tester.testProc).2 }

/-- The two ways in which a running test ends: the callback, the result that is
counted, the event, and the interface before the count. -/
inductive TestEnd (iface : Interface) : Callback → Bool → TesterEvent → Interface → Prop where
  | exited (status : Int32) :
      TestEnd iface (.testProcExited status) (getTestResultFromExitStatus status)
        (if getTestResultFromExitStatus status then .testPassed else .testFailed)
        (testExited iface status)
  | timedOut :
      TestEnd iface .testResponseTimerExpired false .testTimedOut (testTimedOut iface)

/-- The result decides the test run, whatever tests are left. -/
def decisive (config : InterfaceConfig) (passed : Bool) : Bool :=
  match config.condition with
  | .one => passed
  | .all => !passed
  | .count => false

/-- The test run is over: the result decides it, or there is no further test. -/
def runIsOver (iface : Interface) (passed : Bool) : Bool :=
  decisive iface.config passed || decide (iface.tester.testIndex + 1 ≥ iface.config.numTests)

/-- The next test of the run is started. -/
def nextTest (iface : Interface) (launch : Launch) : Interface :=
  (runTest { iface with tester.testIndex := iface.tester.testIndex + 1 }
    (iface.tester.testIndex + 1) launch).2

theorem frame_nextTest (iface : Interface) (launch : Launch) :
    (nextTest iface launch).frame = iface.frame :=
  frame_runTest { iface with tester.testIndex := iface.tester.testIndex + 1 }
    (iface.tester.testIndex + 1) launch

/-! ## The moves -/

/-- The connection is lost before it settled, or after. -/
def connectionLost (iface : Interface) : Interface :=
  settlingDelayTimerStop (connectionStateTransition iface .disconnected)

/-- The connection has settled, and the starter and the counters are set for it. -/
def connectionSettled (iface : Interface) : Interface :=
  testerInitialisePerConnectionStatistics
    { connectionStateTransition (settlingDelayTimerStop iface) .connected with
      tester.starter := .testerStartConnected }

/-- The configuration is replaced and the tester is stopped. -/
def reconfigured (iface : Interface) (config : InterfaceConfig) : Interface :=
  { testerStop iface with config := config, recovery.recoveryIndex := 0 }

/-- The recovery task has ended. -/
def recoveryTaskExited (iface : Interface) : Interface :=
  { iface with recovery.proc.pending := none }

/-- The recovery task took too long and is killed. -/
def recoveryTaskKilled (iface : Interface) : Interface :=
  { iface with
    recovery.responseTimeoutTimer := ⟨none⟩
    recovery.proc.pending := none
    trace := iface.trace ++ (interfaceTesterKillProcess iface.recovery.proc).2 }

/-- What a callback does to a coherent interface. -/
inductive Move (iface : Interface) (launch : Launch) : Callback → Interface → Prop where
  | ifupArms (down : iface.connection.state = .disconnected) :
      Move iface launch .ifup (connectionStateTransition (settlingDelayTimerStart iface) .settling)
  | ifupRedundant (up : iface.connection.state ≠ .disconnected) : Move iface launch .ifup iface
  | ifdownRedundant (down : iface.connection.state = .disconnected) :
      Move iface launch .ifdown iface
  | ifdownSettling (settling : iface.connection.state = .settling) :
      Move iface launch .ifdown (connectionLost iface)
  | ifdownConnected (up : iface.connection.state = .connected)
      (live : iface.tester.state ≠ .stopped) :
      Move iface launch .ifdown
        ((testerDisconnectedHandler (connectionLost iface)).observe
          (.testerEvent .interfaceDisconnected iface.tester.state true))
  | settled (settling : iface.connection.state = .settling)
      (stopped : iface.tester.state = .stopped) :
      Move iface launch .settlingDelayTimerExpired
        ((testerStartConnected (connectionSettled iface) launch).observe
          (.testerEvent .interfaceSettled .stopped true))
  | intervalElapsed (sleeping : iface.tester.state = .sleeping) :
      Move iface launch .testIntervalTimerExpired
        ((testerStartConnected (testerIntervalTimerStop iface) launch).observe
          (.testerEvent .intervalTimerElapsed .sleeping true))
  | requested (sleeping : iface.tester.state = .sleeping) :
      Move iface launch .startTestRun
        ((testerStartConnected (testerIntervalTimerStop iface) launch).observe
          (.testerEvent .testRunRequested .sleeping true))
  | requestIgnored (awake : iface.tester.state ≠ .sleeping) :
      Move iface launch .startTestRun
        (iface.observe (.testerEvent .testRunRequested iface.tester.state false))
  | testEndsNext {cb : Callback} {passed : Bool} {event : TesterEvent} {ended : Interface}
      (testing : iface.tester.state = .testing) (running : iface.tester.testProc.isRunning = true)
      (how : TestEnd iface cb passed event ended) (more : runIsOver iface passed = false) :
      Move iface launch cb
        ((nextTest (countTest ended passed) launch).observe (.testerEvent event .testing true))
  | testEndsRun {cb : Callback} {passed : Bool} {event : TesterEvent} {ended : Interface}
      (testing : iface.tester.state = .testing) (running : iface.tester.testProc.isRunning = true)
      (how : TestEnd iface cb passed event ended) (isOver : runIsOver iface passed = true) :
      Move iface launch cb
        ((interfaceTestRunCompleted (countTest ended passed) passed launch).observe
          (.testerEvent event .testing true))
  | recoveryEnded (status : Int32) (recovering : iface.tester.state = .recovering) :
      Move iface launch (.recoveryProcExited status)
        ((testerSleep (recoveryResponseTimerStop (recoveryTaskExited iface))).observe
          (.testerEvent .recoveryTaskEnded .recovering true))
  | recoveryEndIgnored (status : Int32) (elsewhere : iface.tester.state ≠ .recovering) :
      Move iface launch (.recoveryProcExited status)
        ((recoveryTaskExited iface).observe
          (.testerEvent .recoveryTaskEnded iface.tester.state
            (decide (iface.tester.state = .stopped))))
  | recoveryTimedOut (recovering : iface.tester.state = .recovering) :
      Move iface launch .recoveryTaskTimerExpired
        ((testerSleep (recoveryTaskKilled iface)).observe
          (.testerEvent .recoveryTaskTimedOut .recovering true))
  | recoveryTimeoutIgnored (elsewhere : iface.tester.state ≠ .recovering) :
      Move iface launch .recoveryTaskTimerExpired
        ((recoveryResponseTimerStop iface).observe
          (.testerEvent .recoveryTaskTimedOut iface.tester.state
            (decide (iface.tester.state = .stopped))))
  | updateUnchanged {new : AcceptedConfig}
      (same : configChanged iface.ctx.withMetricsAdjustment iface.config new.config = false) :
      Move iface launch (.configUpdate new) iface
  | updateStopped {new : AcceptedConfig} (stopped : iface.tester.state = .stopped)
      (changed : configChanged iface.ctx.withMetricsAdjustment iface.config new.config = true) :
      Move iface launch (.configUpdate new) (reconfigured iface new.config)
  | updateRestarted {new : AcceptedConfig} (live : iface.tester.state ≠ .stopped)
      (changed : configChanged iface.ctx.withMetricsAdjustment iface.config new.config = true) :
      Move iface launch (.configUpdate new)
        (testerStartConnected (reconfigured iface new.config) launch)

/-! ## Every callback is a move -/

section Inversion

variable {iface t : Interface} {launch : Launch}

theorem testerStart_of_connected (h : iface.tester.starter = .testerStartConnected) :
    testerStart iface launch = testerStartConnected iface launch := by
  simp [testerStart, h]

theorem testerStart_of_disconnected (h : iface.tester.starter = .testerStartDisconnected) :
    testerStart iface launch = iface := by
  simp [testerStart, h, testerStartDisconnected]

theorem testerEventHandler_of_stopped (h : iface.tester.state = .stopped) (event : TesterEvent) :
    testerEventHandler iface event launch =
      (stoppedStateEventHandler iface event launch).2.observe
        (.testerEvent event .stopped (stoppedStateEventHandler iface event launch).1) := by
  simp only [testerEventHandler, h]

theorem testerEventHandler_of_sleeping (h : iface.tester.state = .sleeping)
    (event : TesterEvent) :
    testerEventHandler iface event launch =
      (sleepingStateEventHandler iface event launch).2.observe
        (.testerEvent event .sleeping (sleepingStateEventHandler iface event launch).1) := by
  simp only [testerEventHandler, h]

theorem testerEventHandler_of_testing (h : iface.tester.state = .testing) (event : TesterEvent) :
    testerEventHandler iface event launch =
      (testingStateEventHandler iface event launch).2.observe
        (.testerEvent event .testing (testingStateEventHandler iface event launch).1) := by
  simp only [testerEventHandler, h]

theorem testerEventHandler_of_recovering (h : iface.tester.state = .recovering)
    (event : TesterEvent) :
    testerEventHandler iface event launch =
      (recoveringStateEventHandler iface event).2.observe
        (.testerEvent event .recovering (recoveringStateEventHandler iface event).1) := by
  simp only [testerEventHandler, h]

/-- Only the recovering state acts on the two events of a recovery task. -/
theorem testerEventHandler_of_elsewhere {event : TesterEvent}
    (recovery : event = .recoveryTaskEnded ∨ event = .recoveryTaskTimedOut)
    (elsewhere : iface.tester.state ≠ .recovering) :
    testerEventHandler iface event launch = iface.observe
      (.testerEvent event iface.tester.state (decide (iface.tester.state = .stopped))) := by
  rcases recovery with rfl | rfl <;>
    cases state : iface.tester.state with
    | stopped => exact testerEventHandler_of_stopped state _
    | sleeping => exact testerEventHandler_of_sleeping state _
    | testing => exact testerEventHandler_of_testing state _
    | recovering => exact absurd state elsewhere

/-- The index plays no part in the end of a run, which sets it back. -/
theorem interfaceTestRunCompleted_testIndex (index : ℕ) (passed : Bool) :
    interfaceTestRunCompleted { iface with tester.testIndex := index } passed launch =
      interfaceTestRunCompleted iface passed launch := by
  cases passed with
  | true => rw [interfaceTestRunCompleted_true, interfaceTestRunCompleted_true]; rfl
  | false => rw [interfaceTestRunCompleted_false, interfaceTestRunCompleted_false]; rfl

/-- What a counted result leads to: the end of the run or the next test. -/
theorem interfaceTest_result (accepted : iface.config.Accepted) (passed : Bool)
    (launch : Launch) :
    (if passed then interfaceTestPassed iface launch else interfaceTestFailed iface launch) =
      if runIsOver iface passed then
        interfaceTestRunCompleted (countTest iface passed) passed launch
      else nextTest (countTest iface passed) launch := by
  have next : nextTestOrCompleted (countTest iface passed) passed launch =
      if iface.tester.testIndex + 1 ≥ iface.config.numTests then
        interfaceTestRunCompleted (countTest iface passed) passed launch
      else nextTest (countTest iface passed) launch := by
    simp only [nextTestOrCompleted, nextTest, interfaceTestRunCompleted_testIndex]
    rfl
  cases passed with
  | true =>
      have counted : interfaceTestPassed iface launch =
          match iface.config.condition with
          | .one => interfaceTestRunCompleted (countTest iface true) true launch
          | .all => nextTestOrCompleted (countTest iface true) true launch
          | .count => countTest iface true := rfl
      rcases accepted.condition_cases with one | all <;> simp [*, runIsOver, decisive]
  | false =>
      have counted : interfaceTestFailed iface launch =
          match iface.config.condition with
          | .one => nextTestOrCompleted (countTest iface false) false launch
          | .all => interfaceTestRunCompleted (countTest iface false) false launch
          | .count => countTest iface false := rfl
      rcases accepted.condition_cases with one | all <;> simp [*, runIsOver, decisive]

/-- Both results of a test process, in one equation. -/
theorem testingStateEventHandler_result (passed : Bool) :
    testingStateEventHandler iface (if passed then .testPassed else .testFailed) launch =
      (true, if passed then interfaceTestPassed (testerResponseTimerStop iface) launch
        else interfaceTestFailed (testerResponseTimerStop iface) launch) := by
  cases passed <;> rfl

theorem isRunning_of_step {proc : TesterProcess} {next : Interface}
    (taken : (if proc.isRunning then some next else none) = some t) :
    proc.isRunning = true ∧ next = t := by
  split at taken
  · exact ⟨by assumption, Option.some.inj taken⟩
  · cases taken

theorem timerIsRunning_of_step {timer : Timer} {next : Interface}
    (taken : (if timerIsRunning timer then some next else none) = some t) :
    timerIsRunning timer = true ∧ next = t := by
  split at taken
  · exact ⟨by assumption, Option.some.inj taken⟩
  · cases taken

/-- A counted result ends the run or starts the next test, as a move. -/
theorem move_of_testEnd (coherent : Coherent iface) {cb : Callback} {passed : Bool}
    {event : TesterEvent} {ended : Interface} (how : TestEnd iface cb passed event ended)
    (running : iface.tester.testProc.isRunning = true)
    (eq : t = (if runIsOver iface passed then
        interfaceTestRunCompleted (countTest ended passed) passed launch
      else nextTest (countTest ended passed) launch).observe (.testerEvent event .testing true)) :
    Move iface launch cb t := by
  have testing := coherent.testing running
  subst eq
  cases isOver : runIsOver iface passed with
  | true => exact .testEndsRun testing running how isOver
  | false => exact .testEndsNext testing running how isOver

theorem move_of_ifdown (coherent : Coherent iface) :
    Move iface launch .ifdown (interfaceConnectionDisconnected iface launch) := by
  unfold interfaceConnectionDisconnected
  cases h : iface.connection.state with
  | disconnected => exact .ifdownRedundant h
  | settling => exact .ifdownSettling h
  | connected =>
      have live := coherent.connected.mp h
      have sent : interfaceTesterSendEvent (connectionLost iface) .interfaceDisconnected launch =
          (testerDisconnectedHandler (connectionLost iface)).observe
            (.testerEvent .interfaceDisconnected iface.tester.state true) := by
        rw [interfaceTesterSendEvent_eq (by exact coherent.quiet)]
        have same : (connectionLost iface).tester.state = iface.tester.state := rfl
        cases state : iface.tester.state with
        | stopped => exact absurd state live
        | sleeping => rw [testerEventHandler_of_sleeping (same.trans state)]; rfl
        | testing => rw [testerEventHandler_of_testing (same.trans state)]; rfl
        | recovering => rw [testerEventHandler_of_recovering (same.trans state)]; rfl
      have move : Move iface launch .ifdown _ := .ifdownConnected h live
      rw [← sent] at move
      exact move

theorem move_of_settled (coherent : Coherent iface)
    (running : timerIsRunning iface.connection.settlingDelayTimer = true) :
    Move iface launch .settlingDelayTimerExpired
      (settlingDelayTimerExpired (settlingDelayTimerStop iface) launch) := by
  have settling := coherent.settlingTimer.mp running
  have stopped : iface.tester.state = .stopped := by
    by_contra live
    simp [coherent.connected.mpr live] at settling
  have sent : settlingDelayTimerExpired (settlingDelayTimerStop iface) launch =
      interfaceTesterSendEvent
        (connectionStateTransition (settlingDelayTimerStop iface) .connected)
        .interfaceSettled launch := if_pos settling
  rw [sent, interfaceTesterSendEvent_eq (by exact coherent.quiet),
    testerEventHandler_of_stopped (by exact stopped)]
  exact .settled settling stopped

theorem move_of_interval (coherent : Coherent iface)
    (running : timerIsRunning iface.tester.testIntervalTimer = true) :
    Move iface launch .testIntervalTimerExpired
      (interfaceTesterSendEvent (testerIntervalTimerStop iface) .intervalTimerElapsed launch) := by
  have sleeping := coherent.intervalTimer.mp running
  have starter : iface.tester.starter = .testerStartConnected :=
    coherent.starter.mpr (by simp [sleeping])
  have move : Move iface launch .testIntervalTimerExpired _ := .intervalElapsed sleeping
  rw [← testerStart_of_connected (by exact starter)] at move
  rw [interfaceTesterSendEvent_eq (by exact coherent.quiet),
    testerEventHandler_of_sleeping (by exact sleeping)]
  exact move

theorem move_of_request (coherent : Coherent iface) :
    Move iface launch .startTestRun
      (interfaceTesterSendEvent iface .testRunRequested launch) := by
  rw [interfaceTesterSendEvent_eq coherent.quiet]
  cases state : iface.tester.state with
  | stopped =>
      rw [testerEventHandler_of_stopped state, ← state]
      exact .requestIgnored (by simp [state])
  | sleeping =>
      have starter : iface.tester.starter = .testerStartConnected :=
        coherent.starter.mpr (by simp [state])
      have move : Move iface launch .startTestRun _ := .requested state
      rw [← testerStart_of_connected (by exact starter)] at move
      rw [testerEventHandler_of_sleeping state]
      exact move
  | testing =>
      rw [testerEventHandler_of_testing state, ← state]
      exact .requestIgnored (by simp [state])
  | recovering =>
      rw [testerEventHandler_of_recovering state, ← state]
      exact .requestIgnored (by simp [state])

theorem move_of_testProcExited (coherent : Coherent iface) (status : Int32)
    (running : iface.tester.testProc.isRunning = true) :
    Move iface launch (.testProcExited status)
      (interfaceTesterProcessCb { iface with tester.testProc.pending := none }
        iface.tester.testProc.cb status launch) := by
  refine move_of_testEnd coherent (.exited status) running ?_
  have result := @interfaceTest_result (testExited iface status) coherent.accepted
    (getTestResultFromExitStatus status) launch
  rw [coherent.testCb running]
  simp only [interfaceTesterProcessCb, testCompleted]
  rw [interfaceTesterSendEvent_eq (by exact coherent.quiet),
    testerEventHandler_of_testing (by exact coherent.testing running),
    testingStateEventHandler_result]
  exact congrArg (fun next : Interface => next.observe
    (.testerEvent (if getTestResultFromExitStatus status then .testPassed else .testFailed)
      .testing true)) result

theorem move_of_testResponseTimer (coherent : Coherent iface)
    (running : timerIsRunning iface.tester.testResponseTimeoutTimer = true) :
    Move iface launch .testResponseTimerExpired
      (interfaceTesterSendEvent (testerResponseTimerStop iface) .testTimedOut launch) := by
  have busy := coherent.responseTimer.mpr running
  refine move_of_testEnd coherent .timedOut busy ?_
  have result := @interfaceTest_result (testTimedOut iface) coherent.accepted false launch
  have killed : testingStateEventHandler (testerResponseTimerStop iface) .testTimedOut launch =
      (true, interfaceTestFailed (testTimedOut iface) launch) := by
    simp only [testingStateEventHandler, interfaceTesterKillProcess_slot]
    rfl
  rw [interfaceTesterSendEvent_eq (by exact coherent.quiet),
    testerEventHandler_of_testing (by exact coherent.testing busy), killed]
  exact congrArg (fun next : Interface =>
    next.observe (.testerEvent .testTimedOut .testing true)) result

theorem move_of_recoveryProcExited (coherent : Coherent iface) (status : Int32)
    (running : iface.recovery.proc.isRunning = true) :
    Move iface launch (.recoveryProcExited status)
      (interfaceTesterProcessCb { iface with recovery.proc.pending := none }
        iface.recovery.proc.cb status launch) := by
  rw [coherent.recoveryCb running]
  simp only [interfaceTesterProcessCb, recoveryTaskCompleted]
  rw [interfaceTesterSendEvent_eq (by exact coherent.quiet)]
  by_cases recovering : iface.tester.state = .recovering
  · rw [testerEventHandler_of_recovering (by exact recovering)]
    exact .recoveryEnded status recovering
  · rw [testerEventHandler_of_elsewhere (.inl rfl) (by exact recovering)]
    exact .recoveryEndIgnored status recovering

theorem move_of_recoveryTimer (coherent : Coherent iface) :
    Move iface launch .recoveryTaskTimerExpired
      (interfaceTesterSendEvent (recoveryResponseTimerStop iface) .recoveryTaskTimedOut
        launch) := by
  rw [interfaceTesterSendEvent_eq (by exact coherent.quiet)]
  by_cases recovering : iface.tester.state = .recovering
  · have killed : recoveringStateEventHandler (recoveryResponseTimerStop iface)
        .recoveryTaskTimedOut = (true, testerSleep (recoveryTaskKilled iface)) := by
      simp only [recoveringStateEventHandler, interfaceTesterKillProcess_slot]
      rfl
    rw [testerEventHandler_of_recovering (by exact recovering), killed]
    exact .recoveryTimedOut recovering
  · rw [testerEventHandler_of_elsewhere (.inr rfl) (by exact recovering)]
    exact .recoveryTimeoutIgnored recovering

theorem move_of_configUpdate (coherent : Coherent iface) (new : AcceptedConfig) :
    Move iface launch (.configUpdate new) (configUpdate iface new.config launch) := by
  unfold configUpdate
  split
  case isTrue changed =>
    have restarted : interfaceTesterStart { interfaceTesterStop iface with config := new.config }
        launch = testerStart (reconfigured iface new.config) launch := rfl
    rw [restarted]
    by_cases stopped : iface.tester.state = .stopped
    · have idle : iface.tester.starter = .testerStartDisconnected := by
        cases starter : iface.tester.starter with
        | testerStartDisconnected => rfl
        | testerStartConnected => exact absurd stopped (coherent.starter.mp starter)
      rw [testerStart_of_disconnected (by exact idle)]
      exact .updateStopped stopped changed
    · have starter := coherent.starter.mpr stopped
      rw [testerStart_of_connected (by exact starter)]
      exact .updateRestarted stopped changed
  case isFalse same => exact .updateUnchanged (by simpa using same)

/-- **From a coherent state, a callback is one of the moves.** -/
theorem step_move (coherent : Coherent iface) {cb : Callback}
    (taken : step iface (cb, launch) = some t) : Move iface launch cb t := by
  cases cb with
  | ifup =>
      cases taken
      unfold interfaceConnectionConnected
      split
      case isTrue down => exact .ifupArms down
      case isFalse up => exact .ifupRedundant up
  | ifdown =>
      cases taken
      exact move_of_ifdown coherent
  | settlingDelayTimerExpired =>
      obtain ⟨running, rfl⟩ := timerIsRunning_of_step taken
      exact move_of_settled coherent running
  | testIntervalTimerExpired =>
      obtain ⟨running, rfl⟩ := timerIsRunning_of_step taken
      exact move_of_interval coherent running
  | testResponseTimerExpired =>
      obtain ⟨running, rfl⟩ := timerIsRunning_of_step taken
      exact move_of_testResponseTimer coherent running
  | recoveryTaskTimerExpired =>
      obtain ⟨_, rfl⟩ := timerIsRunning_of_step taken
      exact move_of_recoveryTimer coherent
  | testProcExited status =>
      obtain ⟨running, rfl⟩ := isRunning_of_step taken
      exact move_of_testProcExited coherent status running
  | recoveryProcExited status =>
      obtain ⟨running, rfl⟩ := isRunning_of_step taken
      exact move_of_recoveryProcExited coherent status running
  | startTestRun =>
      cases taken
      exact move_of_request coherent
  | configUpdate new =>
      cases taken
      exact move_of_configUpdate coherent new

end Inversion

end IfaceTester
