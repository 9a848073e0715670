import IfaceTester.State

/-!
# The tester

`interface_tester.c`. A function that takes a pointer into an `interface_st`
takes the interface here and gives it back changed. A function that may start a
process takes the answer of the system to that attempt. No callback starts more
than one process, so one answer is enough for a callback.
-/

set_option autoImplicit false

namespace IfaceTester

/-! ## Transitions and timers -/

/-- `next_recovery_task_index`. -/
def nextRecoveryTaskIndex (iface : Interface) : ℕ × Interface :=
  let nextTask := iface.recovery.recoveryIndex
  let advanced := iface.recovery.recoveryIndex + 1
  let recoveryIndex := if advanced ≥ iface.config.numRecoverys then 0 else advanced
  (if nextTask ≥ iface.config.numRecoverys then 0 else nextTask,
    { iface with recovery.recoveryIndex := recoveryIndex })

/-- `interface_adjust_route_metrics`: the request goes to `netifd`. -/
def interfaceAdjustRouteMetrics (iface : Interface) (amount : UInt32) : Interface :=
  iface.observe (.adjustMetrics amount)

/-- `recovery_state_transition`. -/
def recoveryStateTransition (iface : Interface) (newState : RecoveryState) : Interface :=
  { iface with recovery.state := newState }.observe (.recoveryState newState)

/-- `tester_state_transition`. -/
def testerStateTransition (iface : Interface) (newState : TesterState) : Interface :=
  { iface with tester.state := newState }.observe (.testerState newState)

/-- `tester_interval_timer_start`. -/
def testerIntervalTimerStart (iface : Interface) (timeoutMsecs : UInt32) : Interface :=
  { iface with
    tester.testIntervalTimer := timerStart iface.tester.testIntervalTimer timeoutMsecs }.observe
    (.timerSet .testInterval timeoutMsecs.toInt32)

/-- `tester_interval_timer_stop`. -/
def testerIntervalTimerStop (iface : Interface) : Interface :=
  { iface with tester.testIntervalTimer := timerStop iface.tester.testIntervalTimer }

/-- `tester_response_timer_stop`. -/
def testerResponseTimerStop (iface : Interface) : Interface :=
  { iface with tester.testResponseTimeoutTimer := timerStop iface.tester.testResponseTimeoutTimer }

/-- `test_response_timer_start`. -/
def testResponseTimerStart (iface : Interface) (timeoutSecs : UInt32) : Interface :=
  let timeoutMsecs := timeoutSecs * msecsPerSec
  { iface with
    tester.testResponseTimeoutTimer :=
      timerStart iface.tester.testResponseTimeoutTimer timeoutMsecs }.observe
    (.timerSet .testResponse timeoutMsecs.toInt32)

/-- `recovery_response_timer_stop`. -/
def recoveryResponseTimerStop (iface : Interface) : Interface :=
  { iface with recovery.responseTimeoutTimer := timerStop iface.recovery.responseTimeoutTimer }

/-- `recovery_response_timer_start`. -/
def recoveryResponseTimerStart (iface : Interface) (timeoutSecs : UInt32) : Interface :=
  let timeoutMsecs := timeoutSecs * msecsPerSec
  { iface with
    recovery.responseTimeoutTimer :=
      timerStart iface.recovery.responseTimeoutTimer timeoutMsecs }.observe
    (.timerSet .recoveryTask timeoutMsecs.toInt32)

/-- `get_test_result_from_exit_status`, with `WIFEXITED` and `WEXITSTATUS`
written out. -/
def getTestResultFromExitStatus (exitStatus : Int32) : Bool :=
  decide (exitStatus &&& 0x7f = 0) && decide ((exitStatus &&& 0xff00) >>> 8 = 0)

/-! ## Processes of tests and recovery tasks -/

/-- The arguments that `run_test` and `run_recovery_task` set up. -/
def TaskConfig.exec (task : TaskConfig) (interfaceName : String) (workingDir : Option String) :
    Exec where
  path := "./" ++ task.executableName
  interfaceName := interfaceName
  executableName := task.executableName
  params := task.params
  workingDir := workingDir

/-- The response timeout of a task: its own, or the default of the interface. -/
def InterfaceConfig.taskTimeoutSecs (config : InterfaceConfig) (task : TaskConfig) : UInt32 :=
  if task.responseTimeoutSecs > 0 then task.responseTimeoutSecs else config.responseTimeoutSecs

/-- The process part of `run_test` and `run_recovery_task`. Without memory for
the arguments the slot is not touched. -/
def startTask (proc : TesterProcess) (cb : TesterProcessCb) (launch : Launch) :
    Bool × TesterProcess × List Observation :=
  if launch.asprintf then interfaceTesterStartProcess { proc with cb := some cb } launch.fork
  else (false, proc, [])

/-- `run_test`. -/
def runTest (iface : Interface) (testIndex : ℕ) (launch : Launch) : Bool × Interface :=
  let testConfig := iface.config.tests.getD testIndex default
  let exec := testConfig.exec iface.name iface.ctx.testDirectory
  let started := startTask iface.tester.testProc .testCompleted launch
  let iface : Interface :=
    { iface with
      tester.testProc := started.2.1
      trace := iface.trace ++ started.2.2 ++ [.runTest testIndex exec launch] }
  if started.1 then
    (true, testResponseTimerStart iface (iface.config.taskTimeoutSecs testConfig))
  else (false, iface)

/-- `tester_sleep`. -/
def testerSleep (iface : Interface) : Interface :=
  let intervalSecs :=
    if iface.recovery.state = .operational ∧ iface.tester.stats.testRuns.consecutiveFailures = 0
    then iface.config.testPassingIntervalSecs
    else iface.config.testFailingIntervalSecs
  testerIntervalTimerStart (testerStateTransition iface .sleeping) (intervalSecs * msecsPerSec)

/-- `run_recovery_task`. -/
def runRecoveryTask (iface : Interface) (recoveryIndex : ℕ) (launch : Launch) :
    Bool × Interface :=
  let recoveryConfig := iface.config.recoverys.getD recoveryIndex default
  let exec := recoveryConfig.exec iface.name iface.ctx.recoveryDirectory
  let started := startTask iface.recovery.proc .recoveryTaskCompleted launch
  let iface : Interface :=
    { iface with
      recovery.proc := started.2.1
      trace := iface.trace ++ started.2.2 ++ [.runRecoveryTask recoveryIndex exec launch] }
  if started.1 then
    (true, recoveryResponseTimerStart iface (iface.config.taskTimeoutSecs recoveryConfig))
  else (false, iface)

/-! ## The recovery state -/

/-- `ubus_send_interface_operational_event`. -/
def ubusSendInterfaceOperationalEvent (iface : Interface) (isOperational : Bool) : Interface :=
  if iface.ctx.ubusSockFd < 0 then iface else iface.observe (.operationalEvent isOperational)

/-- `ubus_send_interface_test_run_event`. -/
def ubusSendInterfaceTestRunEvent (iface : Interface) (testRunPassed : Bool) : Interface :=
  if iface.ctx.ubusSockFd < 0 then iface else iface.observe (.testRunEvent testRunPassed)

/-- `transition_to_operational_state`. -/
def transitionToOperationalState (iface : Interface) : Interface :=
  let iface := recoveryStateTransition iface .operational
  let iface := { iface with recovery.recoveryIndex := 0 }
  let iface :=
    if iface.ctx.withMetricsAdjustment then
      { interfaceAdjustRouteMetrics iface 0 with recovery.metricsAreAdjusted := false }
    else iface
  ubusSendInterfaceOperationalEvent iface true

/-- `transition_to_broken_state`. -/
def transitionToBrokenState (iface : Interface) : Interface :=
  let iface := recoveryStateTransition iface .broken
  let iface :=
    if iface.ctx.withMetricsAdjustment ∧ iface.config.failingTestsMetricsIncrease > 0 then
      { interfaceAdjustRouteMetrics iface iface.config.failingTestsMetricsIncrease with
        recovery.metricsAreAdjusted := true }
    else iface
  ubusSendInterfaceOperationalEvent iface false

/-! ## The end of a test run -/

/-- The counters of `interface_test_run_passed`. -/
def TestRunStatistics.countPass (stats : TestRunStatistics) : TestRunStatistics :=
  { stats with
    consecutiveFailures := 0
    consecutivePasses := stats.consecutivePasses + 1
    totalPassesThisConnection := stats.totalPassesThisConnection + 1
    totalPasses := stats.totalPasses + 1 }

/-- The counters of `interface_test_run_failed`. -/
def TestRunStatistics.countFailure (stats : TestRunStatistics) : TestRunStatistics :=
  { stats with
    consecutivePasses := 0
    consecutiveFailures := stats.consecutiveFailures + 1
    totalFailuresThisConnection := stats.totalFailuresThisConnection + 1
    totalFailures := stats.totalFailures + 1 }

/-- `interface_test_run_passed`. -/
def interfaceTestRunPassed (iface : Interface) : Interface :=
  let iface := { iface with tester.stats.testRuns := iface.tester.stats.testRuns.countPass }
  if iface.recovery.state = .broken
      ∧ iface.tester.stats.testRuns.consecutivePasses = iface.config.passThreshold.toUInt64 then
    transitionToOperationalState iface
  else iface

/-- `have_reached_failure_threshold`. -/
def haveReachedFailureThreshold (iface : Interface) : Bool :=
  decide (iface.config.failThreshold = 0)
    || (decide (iface.tester.stats.testRuns.consecutiveFailures > 0)
      && decide (iface.tester.stats.testRuns.consecutiveFailures
        % iface.config.failThreshold.toUInt64 = 0))

/-- The recovery action of `interface_test_run_failed`: the next task, if any
has been configured. -/
def performNextRecoveryAction (iface : Interface) (launch : Launch) : Interface :=
  if iface.config.numRecoverys > 0 then
    let next := nextRecoveryTaskIndex iface
    let ran := runRecoveryTask next.2 next.1 launch
    if ran.1 then
      let iface : Interface :=
        { ran.2 with
          tester.stats.recovery :=
            { totalThisConnection := ran.2.tester.stats.recovery.totalThisConnection + 1
              total := ran.2.tester.stats.recovery.total + 1 } }
      testerStateTransition iface .recovering
    else ran.2
  else iface

/-- `interface_test_run_failed`. -/
def interfaceTestRunFailed (iface : Interface) (launch : Launch) : Interface :=
  let iface := { iface with tester.stats.testRuns := iface.tester.stats.testRuns.countFailure }
  if haveReachedFailureThreshold iface then
    let iface :=
      if iface.recovery.state = .operational then transitionToBrokenState iface else iface
    performNextRecoveryAction iface launch
  else iface

/-- `interface_test_run_completed`. -/
def interfaceTestRunCompleted (iface : Interface) (passed : Bool) (launch : Launch) : Interface :=
  let iface := { iface with tester.testIndex := 0 }.observe (.testRunCompleted passed)
  let iface := ubusSendInterfaceTestRunEvent iface passed
  let iface := if passed then interfaceTestRunPassed iface else interfaceTestRunFailed iface launch
  if iface.tester.state ≠ .recovering then testerSleep iface else iface

/-- What both results do when the run goes on: the next test, or the end of
the run with the result of its last test. -/
def nextTestOrCompleted (iface : Interface) (passed : Bool) (launch : Launch) : Interface :=
  let iface := { iface with tester.testIndex := iface.tester.testIndex + 1 }
  if iface.tester.testIndex ≥ iface.config.numTests then
    interfaceTestRunCompleted iface passed launch
  else (runTest iface iface.tester.testIndex launch).2

/-- `interface_test_passed`. -/
def interfaceTestPassed (iface : Interface) (launch : Launch) : Interface :=
  let stats := iface.tester.stats.tests
  let iface : Interface :=
    { iface with
      tester.stats.tests :=
        { stats with
          totalPassesThisConnection := stats.totalPassesThisConnection + 1
          totalPasses := stats.totalPasses + 1 } }
  match iface.config.condition with
  | .one => interfaceTestRunCompleted iface true launch
  | .all => nextTestOrCompleted iface true launch
  | .count => iface

/-- `interface_test_failed`. -/
def interfaceTestFailed (iface : Interface) (launch : Launch) : Interface :=
  let stats := iface.tester.stats.tests
  let iface : Interface :=
    { iface with
      tester.stats.tests :=
        { stats with
          totalFailuresThisConnection := stats.totalFailuresThisConnection + 1
          totalFailures := stats.totalFailures + 1 } }
  match iface.config.condition with
  | .one => nextTestOrCompleted iface false launch
  | .all => interfaceTestRunCompleted iface false launch
  | .count => iface

/-! ## Starting and stopping -/

/-- `tester_initialise_per_connection_statistics`. -/
def testerInitialisePerConnectionStatistics (iface : Interface) : Interface :=
  { iface with
    tester.stats.tests.totalPassesThisConnection := 0
    tester.stats.tests.totalFailuresThisConnection := 0
    tester.stats.testRuns.totalPassesThisConnection := 0
    tester.stats.testRuns.totalFailuresThisConnection := 0
    tester.stats.recovery.totalThisConnection := 0 }

/-- `tester_stop`. A running recovery task is left alone. -/
def testerStop (iface : Interface) : Interface :=
  let iface := testerStateTransition iface .stopped
  let killed := interfaceTesterKillProcess iface.tester.testProc
  let iface := { iface with tester.testProc := killed.1, trace := iface.trace ++ killed.2 }
  let iface := testerResponseTimerStop iface
  let iface := testerIntervalTimerStop iface
  { iface with tester.testIndex := 0 }

/-- `tester_start_disconnected`. -/
def testerStartDisconnected (iface : Interface) : Interface := iface

/-- `tester_start_connected`. The recovery index is not set back. -/
def testerStartConnected (iface : Interface) (launch : Launch) : Interface :=
  let iface := testerStateTransition iface .testing
  let iface := { iface with tester.testIndex := 0 }
  (runTest iface iface.tester.testIndex launch).2

/-- `tester_start`: call the installed starter. -/
def testerStart (iface : Interface) (launch : Launch) : Interface :=
  match iface.tester.starter with
  | .testerStartDisconnected => testerStartDisconnected iface
  | .testerStartConnected => testerStartConnected iface launch

/-- `recovery_cleanup`. -/
def recoveryCleanup (iface : Interface) : Interface :=
  let killed := interfaceTesterKillProcess iface.recovery.proc
  let iface := { iface with recovery.proc := killed.1, trace := iface.trace ++ killed.2 }
  let iface := recoveryResponseTimerStop iface
  let iface :=
    if iface.ctx.withMetricsAdjustment ∧ iface.recovery.metricsAreAdjusted then
      interfaceAdjustRouteMetrics iface 0
    else iface
  { iface with recovery.recoveryIndex := 0 }

/-- `interface_tester_stop`. -/
def interfaceTesterStop (iface : Interface) : Interface := testerStop iface

/-- `interface_tester_start`. -/
def interfaceTesterStart (iface : Interface) (launch : Launch) : Interface :=
  testerStart { iface with recovery.recoveryIndex := 0 } launch

/-! ## The event handlers -/

/-- `tester_disconnected_handler`. -/
def testerDisconnectedHandler (iface : Interface) : Interface :=
  testerStop { iface with tester.starter := .testerStartDisconnected }

/-- `tester_connected_handler`. -/
def testerConnectedHandler (iface : Interface) (launch : Launch) : Interface :=
  let iface := { iface with tester.starter := .testerStartConnected }
  testerStart (testerInitialisePerConnectionStatistics iface) launch

/-- `stopped_state_event_handler`. The end of a recovery task that outlived its
connection is ignored. -/
def stoppedStateEventHandler (iface : Interface) (event : TesterEvent) (launch : Launch) :
    Bool × Interface :=
  match event with
  | .interfaceSettled => (true, testerConnectedHandler iface launch)
  | .recoveryTaskTimedOut | .recoveryTaskEnded => (true, iface)
  | _ => (false, iface)

/-- `sleeping_state_event_handler`. -/
def sleepingStateEventHandler (iface : Interface) (event : TesterEvent) (launch : Launch) :
    Bool × Interface :=
  match event with
  | .testRunRequested => (true, testerStart (testerIntervalTimerStop iface) launch)
  | .intervalTimerElapsed => (true, testerStart iface launch)
  | .interfaceDisconnected => (true, testerDisconnectedHandler iface)
  | _ => (false, iface)

/-- `testing_state_event_handler`. A test that takes too long counts as failed. -/
def testingStateEventHandler (iface : Interface) (event : TesterEvent) (launch : Launch) :
    Bool × Interface :=
  match event with
  | .testPassed => (true, interfaceTestPassed (testerResponseTimerStop iface) launch)
  | .testFailed => (true, interfaceTestFailed (testerResponseTimerStop iface) launch)
  | .testTimedOut =>
      let killed := interfaceTesterKillProcess iface.tester.testProc
      let iface := { iface with tester.testProc := killed.1, trace := iface.trace ++ killed.2 }
      (true, interfaceTestFailed iface launch)
  | .interfaceDisconnected => (true, testerDisconnectedHandler iface)
  | _ => (false, iface)

/-- `recovering_state_event_handler`. -/
def recoveringStateEventHandler (iface : Interface) (event : TesterEvent) : Bool × Interface :=
  match event with
  | .recoveryTaskTimedOut =>
      let killed := interfaceTesterKillProcess iface.recovery.proc
      let iface := { iface with recovery.proc := killed.1, trace := iface.trace ++ killed.2 }
      (true, testerSleep iface)
  | .recoveryTaskEnded => (true, testerSleep (recoveryResponseTimerStop iface))
  | .interfaceDisconnected => (true, testerDisconnectedHandler iface)
  | _ => (false, iface)

/-- `tester_event_handler`. -/
def testerEventHandler (iface : Interface) (event : TesterEvent) (launch : Launch) : Interface :=
  let handled :=
    match iface.tester.state with
    | .stopped => stoppedStateEventHandler iface event launch
    | .sleeping => sleepingStateEventHandler iface event launch
    | .testing => testingStateEventHandler iface event launch
    | .recovering => recoveringStateEventHandler iface event
  handled.2.observe (.testerEvent event iface.tester.state handled.1)

/-- `interface_tester_send_event`. The handler adds no event of its own. -/
def interfaceTesterSendEvent (iface : Interface) (event : TesterEvent) (launch : Launch) :
    Interface :=
  let added := eventQueueAddEvent
    (fun iface event => .returns (testerEventHandler iface event launch))
    maxEvents (iface.eventQueue, iface) event
  { added.2 with eventQueue := added.1 }

/-! ## Callbacks of processes -/

/-- `test_completed`. -/
def testCompleted (iface : Interface) (status : Int32) (launch : Launch) : Interface :=
  let testPassed := getTestResultFromExitStatus status
  let iface :=
    { iface with tester.lastTestExitCode := status, tester.lastTestPassed := testPassed }
  interfaceTesterSendEvent iface (if testPassed then .testPassed else .testFailed) launch

/-- `recovery_task_completed`. -/
def recoveryTaskCompleted (iface : Interface) (launch : Launch) : Interface :=
  interfaceTesterSendEvent iface .recoveryTaskEnded launch

/-- `interface_tester_process_cb`: call the function of the slot. -/
def interfaceTesterProcessCb (iface : Interface) (cb : Option TesterProcessCb) (status : Int32)
    (launch : Launch) : Interface :=
  match cb with
  | none => iface
  | some .testCompleted => testCompleted iface status launch
  | some .recoveryTaskCompleted => recoveryTaskCompleted iface launch

end IfaceTester
