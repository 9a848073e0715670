import IfaceTester.Callbacks

/-!
# What the functions of the tester do, as equations

One equation for each function, without the branches that do not matter to its
caller: a kill empties a slot, whether or not there was a child, and a message
that is not sent because the socket is down leaves the state alone. The
equations for a function that starts a process come in pairs, one for each
answer of the system.

The configuration, the connection, the name and the event queue are the frame
of the tester: its functions keep them (`frame_testerEventHandler`).
-/

set_option autoImplicit false

namespace IfaceTester

/-! ## Slots and messages -/

@[simp] theorem interfaceTesterKillProcess_slot (proc : TesterProcess) :
    (interfaceTesterKillProcess proc).1 = { proc with pending := none } := by
  rcases proc with ⟨_ | pid, cb⟩ <;> rfl

theorem interfaceTesterKillProcess_of_idle {proc : TesterProcess} (idle : proc.pending = none) :
    (interfaceTesterKillProcess proc).2 = [] := by
  simp [interfaceTesterKillProcess, idle]

theorem interfaceTesterKillProcess_of_running {proc : TesterProcess} {pid : Pid}
    (running : proc.pending = some pid) :
    (interfaceTesterKillProcess proc).2 = [.kill pid] := by
  simp [interfaceTesterKillProcess, running]

/-- What `ubus_send_interface_test_run_event` sends. -/
def testRunMessages (ctx : InterfaceTesterShared) (passed : Bool) : List Observation :=
  if ctx.ubusSockFd < 0 then [] else [.testRunEvent passed]

/-- What `ubus_send_interface_operational_event` sends. -/
def operationalMessages (ctx : InterfaceTesterShared) (isOperational : Bool) : List Observation :=
  if ctx.ubusSockFd < 0 then [] else [.operationalEvent isOperational]

theorem ubusSendInterfaceTestRunEvent_eq (iface : Interface) (passed : Bool) :
    ubusSendInterfaceTestRunEvent iface passed =
      { iface with trace := iface.trace ++ testRunMessages iface.ctx passed } := by
  unfold ubusSendInterfaceTestRunEvent testRunMessages
  split <;> simp [Interface.observe]

theorem ubusSendInterfaceOperationalEvent_eq (iface : Interface) (isOperational : Bool) :
    ubusSendInterfaceOperationalEvent iface isOperational =
      { iface with trace := iface.trace ++ operationalMessages iface.ctx isOperational } := by
  unfold ubusSendInterfaceOperationalEvent operationalMessages
  split <;> simp [Interface.observe]

/-! ## Stopping -/

theorem testerStop_eq (iface : Interface) :
    testerStop iface =
      { iface with
        tester.state := .stopped
        tester.testProc.pending := none
        tester.testResponseTimeoutTimer := ⟨none⟩
        tester.testIntervalTimer := ⟨none⟩
        tester.testIndex := 0
        trace := iface.trace ++ .testerState .stopped ::
          (interfaceTesterKillProcess iface.tester.testProc).2 } := by
  simp [testerStop, testerStateTransition, testerResponseTimerStop, testerIntervalTimerStop,
    timerStop, Interface.observe]

/-! ## Sleeping -/

/-- The seconds that `tester_sleep` selects. -/
def sleepIntervalSecs (iface : Interface) : UInt32 :=
  if iface.recovery.state = .operational ∧ iface.tester.stats.testRuns.consecutiveFailures = 0
  then iface.config.testPassingIntervalSecs
  else iface.config.testFailingIntervalSecs

theorem testerSleep_eq (iface : Interface) :
    testerSleep iface =
      { iface with
        tester.state := .sleeping
        tester.testIntervalTimer := ⟨some (sleepIntervalSecs iface * msecsPerSec).toInt32⟩
        trace := iface.trace ++ [.testerState .sleeping,
          .timerSet .testInterval (sleepIntervalSecs iface * msecsPerSec).toInt32] } := by
  simp [testerSleep, testerStateTransition, testerIntervalTimerStart, timerStart, sleepIntervalSecs,
    Interface.observe]

/-! ## Starting a test -/

/-- The test that `run_test` looks up. -/
def testAt (iface : Interface) (testIndex : ℕ) : TestConfig :=
  iface.config.tests.getD testIndex default

/-- The command of that test. -/
def testExec (iface : Interface) (testIndex : ℕ) : Exec :=
  (testAt iface testIndex).exec iface.name iface.ctx.testDirectory

/-- The milliseconds that the response timer of that test is set with. -/
def testTimeoutMsecs (iface : Interface) (testIndex : ℕ) : Int32 :=
  (iface.config.taskTimeoutSecs (testAt iface testIndex) * msecsPerSec).toInt32

/-- A test whose process is started. -/
theorem runTest_of_fork {launch : Launch} {pid : Pid} (memory : launch.asprintf = true)
    (forked : launch.fork = some pid) (iface : Interface) (testIndex : ℕ) :
    runTest iface testIndex launch =
      (true,
        { iface with
          tester.testProc := { pending := some pid, cb := some .testCompleted }
          tester.testResponseTimeoutTimer := ⟨some (testTimeoutMsecs iface testIndex)⟩
          trace := iface.trace ++ (interfaceTesterKillProcess iface.tester.testProc).2 ++
            [.runTest testIndex (testExec iface testIndex) launch,
              .timerSet .testResponse (testTimeoutMsecs iface testIndex)] }) := by
  rcases h : iface.tester.testProc with ⟨_ | old, cb⟩ <;>
    simp [runTest, startTask, memory, interfaceTesterStartProcess, forked,
      testResponseTimerStart, timerStart, testTimeoutMsecs, testExec, testAt, Interface.observe,
      interfaceTesterKillProcess, h]

/-- A test whose process is not started, when the slot was empty. -/
theorem runTest_of_failed {launch : Launch} (failed : launch.succeeds = false)
    (iface : Interface) (testIndex : ℕ) (idle : iface.tester.testProc.pending = none) :
    ∃ cb, runTest iface testIndex launch =
      (false,
        { iface with
          tester.testProc := { pending := none, cb := cb }
          trace := iface.trace ++ [.runTest testIndex (testExec iface testIndex) launch] }) := by
  rcases h : iface.tester.testProc with ⟨pending, cb⟩
  rw [h] at idle
  subst idle
  by_cases memory : launch.asprintf = true
  · have forked : launch.fork = none := by simpa [Launch.succeeds, memory] using failed
    exact ⟨some .testCompleted, by
      simp [runTest, startTask, memory, interfaceTesterStartProcess, forked,
        interfaceTesterKillProcess, testExec, testAt, h]⟩
  · exact ⟨cb, by simp [runTest, startTask, memory, testExec, testAt, h]⟩

/-! ## Starting a recovery task -/

/-- The task that `run_recovery_task` looks up. -/
def recoveryAt (iface : Interface) (recoveryIndex : ℕ) : RecoveryConfig :=
  iface.config.recoverys.getD recoveryIndex default

/-- The command of that task. -/
def recoveryExec (iface : Interface) (recoveryIndex : ℕ) : Exec :=
  (recoveryAt iface recoveryIndex).exec iface.name iface.ctx.recoveryDirectory

/-- The milliseconds that the response timer of that task is set with. -/
def recoveryTimeoutMsecs (iface : Interface) (recoveryIndex : ℕ) : Int32 :=
  (iface.config.taskTimeoutSecs (recoveryAt iface recoveryIndex) * msecsPerSec).toInt32

/-- A recovery task whose process is started. The old child is killed. -/
theorem runRecoveryTask_of_fork {launch : Launch} {pid : Pid} (memory : launch.asprintf = true)
    (forked : launch.fork = some pid) (iface : Interface) (recoveryIndex : ℕ) :
    runRecoveryTask iface recoveryIndex launch =
      (true,
        { iface with
          recovery.proc := { pending := some pid, cb := some .recoveryTaskCompleted }
          recovery.responseTimeoutTimer := ⟨some (recoveryTimeoutMsecs iface recoveryIndex)⟩
          trace := iface.trace ++ (interfaceTesterKillProcess iface.recovery.proc).2 ++
            [.runRecoveryTask recoveryIndex (recoveryExec iface recoveryIndex) launch,
              .timerSet .recoveryTask (recoveryTimeoutMsecs iface recoveryIndex)] }) := by
  rcases h : iface.recovery.proc with ⟨_ | old, cb⟩ <;>
    simp [runRecoveryTask, startTask, memory, interfaceTesterStartProcess, forked,
      recoveryResponseTimerStart, timerStart, recoveryTimeoutMsecs, recoveryExec, recoveryAt,
      Interface.observe, interfaceTesterKillProcess, h]

/-- A recovery task whose process is not started. The slot is as it was, or
its old child was killed. -/
theorem runRecoveryTask_of_failed {launch : Launch} (failed : launch.succeeds = false)
    (iface : Interface) (recoveryIndex : ℕ) :
    ∃ proc kills, (proc = iface.recovery.proc ∧ kills = [] ∨
        proc.pending = none ∧ kills = (interfaceTesterKillProcess iface.recovery.proc).2) ∧
      runRecoveryTask iface recoveryIndex launch =
        (false,
          { iface with
            recovery.proc := proc
            trace := iface.trace ++ kills ++
              [.runRecoveryTask recoveryIndex (recoveryExec iface recoveryIndex) launch] }) := by
  by_cases memory : launch.asprintf = true
  · have forked : launch.fork = none := by simpa [Launch.succeeds, memory] using failed
    refine ⟨{ pending := none, cb := some .recoveryTaskCompleted }, _, .inr ⟨rfl, rfl⟩, ?_⟩
    rcases h : iface.recovery.proc with ⟨_ | old, cb⟩ <;>
      simp [runRecoveryTask, startTask, memory, interfaceTesterStartProcess, forked,
        interfaceTesterKillProcess, recoveryExec, recoveryAt, h]
  · exact ⟨iface.recovery.proc, [], .inl ⟨rfl, rfl⟩, by
      simp [runRecoveryTask, startTask, memory, recoveryExec, recoveryAt]⟩

/-! ## Changes of the recovery state -/

/-- What `transition_to_operational_state` does that is seen from outside. -/
def operationalTrace (ctx : InterfaceTesterShared) : List Observation :=
  .recoveryState .operational ::
    ((if ctx.withMetricsAdjustment then [.adjustMetrics 0] else []) ++
      operationalMessages ctx true)

theorem transitionToOperationalState_eq (iface : Interface) :
    transitionToOperationalState iface =
      { iface with
        recovery.state := .operational
        recovery.recoveryIndex := 0
        recovery.metricsAreAdjusted :=
          !iface.ctx.withMetricsAdjustment && iface.recovery.metricsAreAdjusted
        trace := iface.trace ++ operationalTrace iface.ctx } := by
  by_cases metrics : iface.ctx.withMetricsAdjustment = true <;>
    simp [transitionToOperationalState, recoveryStateTransition, interfaceAdjustRouteMetrics,
      ubusSendInterfaceOperationalEvent_eq, operationalTrace, Interface.observe, metrics]

/-- `transition_to_broken_state` asks `netifd` for an adjustment. -/
def adjustsMetrics (iface : Interface) : Bool :=
  iface.ctx.withMetricsAdjustment && decide (iface.config.failingTestsMetricsIncrease > 0)

/-- What `transition_to_broken_state` does that is seen from outside. -/
def brokenTrace (iface : Interface) : List Observation :=
  .recoveryState .broken ::
    ((if adjustsMetrics iface then [.adjustMetrics iface.config.failingTestsMetricsIncrease]
      else []) ++ operationalMessages iface.ctx false)

theorem transitionToBrokenState_eq (iface : Interface) :
    transitionToBrokenState iface =
      { iface with
        recovery.state := .broken
        recovery.metricsAreAdjusted := adjustsMetrics iface || iface.recovery.metricsAreAdjusted
        trace := iface.trace ++ brokenTrace iface } := by
  by_cases metrics : iface.ctx.withMetricsAdjustment = true ∧
      iface.config.failingTestsMetricsIncrease > 0
  · simp [transitionToBrokenState, recoveryStateTransition, interfaceAdjustRouteMetrics,
      ubusSendInterfaceOperationalEvent_eq, brokenTrace, adjustsMetrics, Interface.observe,
      metrics.1, metrics.2]
  · have unadjusted : adjustsMetrics iface = false := by
      simpa [adjustsMetrics] using fun h => by simpa [h] using metrics
    rw [transitionToBrokenState]
    simp [recoveryStateTransition, ubusSendInterfaceOperationalEvent_eq, brokenTrace, unadjusted,
      Interface.observe, metrics]

/-! ## The end of a test run -/

/-- The interface when the end of a run has been reported. -/
def reportedRun (iface : Interface) (passed : Bool) : Interface :=
  { iface with
    tester.testIndex := 0
    trace := iface.trace ++ .testRunCompleted passed :: testRunMessages iface.ctx passed }

/-- The end of `interface_test_run_completed`. -/
def sleepUnlessRecovering (iface : Interface) : Interface :=
  if iface.tester.state ≠ .recovering then testerSleep iface else iface

theorem reportedRun_eq (iface : Interface) (passed : Bool) :
    ubusSendInterfaceTestRunEvent
        ({ iface with tester.testIndex := 0 }.observe (.testRunCompleted passed)) passed =
      reportedRun iface passed := by
  simp [ubusSendInterfaceTestRunEvent_eq, reportedRun, Interface.observe]

theorem interfaceTestRunCompleted_true (iface : Interface) (launch : Launch) :
    interfaceTestRunCompleted iface true launch =
      sleepUnlessRecovering (interfaceTestRunPassed (reportedRun iface true)) := by
  rw [← reportedRun_eq]
  rfl

theorem interfaceTestRunCompleted_false (iface : Interface) (launch : Launch) :
    interfaceTestRunCompleted iface false launch =
      sleepUnlessRecovering (interfaceTestRunFailed (reportedRun iface false) launch) := by
  rw [← reportedRun_eq]
  rfl

/-! ## The frame -/

/-- What the functions of the tester leave alone. -/
def Interface.frame (iface : Interface) :
    InterfaceTesterShared × String × EventQ TesterEvent × InterfaceConfig × InterfaceConnection :=
  (iface.ctx, iface.name, iface.eventQueue, iface.config, iface.connection)

@[simp] theorem frame_observe (iface : Interface) (seen : Observation) :
    (iface.observe seen).frame = iface.frame := rfl

@[simp] theorem frame_testerStop (iface : Interface) :
    (testerStop iface).frame = iface.frame := by
  rw [testerStop_eq]
  rfl

@[simp] theorem frame_testerSleep (iface : Interface) :
    (testerSleep iface).frame = iface.frame := by
  rw [testerSleep_eq]
  rfl

@[simp] theorem frame_runTest (iface : Interface) (testIndex : ℕ) (launch : Launch) :
    (runTest iface testIndex launch).2.frame = iface.frame := by
  unfold runTest
  dsimp only
  split <;> rfl

@[simp] theorem frame_runRecoveryTask (iface : Interface) (recoveryIndex : ℕ) (launch : Launch) :
    (runRecoveryTask iface recoveryIndex launch).2.frame = iface.frame := by
  unfold runRecoveryTask
  dsimp only
  split <;> rfl

@[simp] theorem frame_transitionToOperationalState (iface : Interface) :
    (transitionToOperationalState iface).frame = iface.frame := by
  rw [transitionToOperationalState_eq]
  rfl

@[simp] theorem frame_transitionToBrokenState (iface : Interface) :
    (transitionToBrokenState iface).frame = iface.frame := by
  rw [transitionToBrokenState_eq]
  rfl

@[simp] theorem frame_interfaceTestRunPassed (iface : Interface) :
    (interfaceTestRunPassed iface).frame = iface.frame := by
  unfold interfaceTestRunPassed
  dsimp only
  split
  · rw [frame_transitionToOperationalState]
    rfl
  · rfl

@[simp] theorem frame_performNextRecoveryAction (iface : Interface) (launch : Launch) :
    (performNextRecoveryAction iface launch).frame = iface.frame := by
  unfold performNextRecoveryAction
  dsimp only
  split
  · have kept := frame_runRecoveryTask (nextRecoveryTaskIndex iface).2
      (nextRecoveryTaskIndex iface).1 launch
    split <;> exact kept
  · rfl

@[simp] theorem frame_interfaceTestRunFailed (iface : Interface) (launch : Launch) :
    (interfaceTestRunFailed iface launch).frame = iface.frame := by
  unfold interfaceTestRunFailed
  dsimp only
  split
  · rw [frame_performNextRecoveryAction]
    split
    · rw [frame_transitionToBrokenState]
      rfl
    · rfl
  · rfl

@[simp] theorem frame_sleepUnlessRecovering (iface : Interface) :
    (sleepUnlessRecovering iface).frame = iface.frame := by
  unfold sleepUnlessRecovering
  split <;> rfl

@[simp] theorem frame_interfaceTestRunCompleted (iface : Interface) (passed : Bool)
    (launch : Launch) : (interfaceTestRunCompleted iface passed launch).frame = iface.frame := by
  cases passed with
  | true =>
      rw [interfaceTestRunCompleted_true, frame_sleepUnlessRecovering, frame_interfaceTestRunPassed]
      rfl
  | false =>
      rw [interfaceTestRunCompleted_false, frame_sleepUnlessRecovering,
        frame_interfaceTestRunFailed]
      rfl

@[simp] theorem frame_nextTestOrCompleted (iface : Interface) (passed : Bool) (launch : Launch) :
    (nextTestOrCompleted iface passed launch).frame = iface.frame := by
  unfold nextTestOrCompleted
  dsimp only
  split
  · rw [frame_interfaceTestRunCompleted]
    rfl
  · rw [frame_runTest]
    rfl

@[simp] theorem frame_interfaceTestPassed (iface : Interface) (launch : Launch) :
    (interfaceTestPassed iface launch).frame = iface.frame := by
  unfold interfaceTestPassed
  dsimp only
  split
  · rw [frame_interfaceTestRunCompleted]
    rfl
  · rw [frame_nextTestOrCompleted]
    rfl
  · rfl

@[simp] theorem frame_interfaceTestFailed (iface : Interface) (launch : Launch) :
    (interfaceTestFailed iface launch).frame = iface.frame := by
  unfold interfaceTestFailed
  dsimp only
  split
  · rw [frame_nextTestOrCompleted]
    rfl
  · rw [frame_interfaceTestRunCompleted]
    rfl
  · rfl

@[simp] theorem frame_testerStartConnected (iface : Interface) (launch : Launch) :
    (testerStartConnected iface launch).frame = iface.frame := by
  unfold testerStartConnected
  rw [frame_runTest]
  rfl

@[simp] theorem frame_testerStart (iface : Interface) (launch : Launch) :
    (testerStart iface launch).frame = iface.frame := by
  unfold testerStart
  split
  · rfl
  · exact frame_testerStartConnected iface launch

@[simp] theorem frame_testerDisconnectedHandler (iface : Interface) :
    (testerDisconnectedHandler iface).frame = iface.frame := by
  unfold testerDisconnectedHandler
  rw [frame_testerStop]
  rfl

@[simp] theorem frame_testerConnectedHandler (iface : Interface) (launch : Launch) :
    (testerConnectedHandler iface launch).frame = iface.frame := by
  unfold testerConnectedHandler
  rw [frame_testerStart]
  rfl

theorem frame_sleepingStateEventHandler (iface : Interface) (event : TesterEvent)
    (launch : Launch) : (sleepingStateEventHandler iface event launch).2.frame = iface.frame := by
  cases event with
  | testRunRequested => exact frame_testerStart (testerIntervalTimerStop iface) launch
  | intervalTimerElapsed => exact frame_testerStart iface launch
  | interfaceDisconnected => exact frame_testerDisconnectedHandler iface
  | _ => rfl

theorem frame_testingStateEventHandler (iface : Interface) (event : TesterEvent)
    (launch : Launch) : (testingStateEventHandler iface event launch).2.frame = iface.frame := by
  cases event with
  | testPassed => exact frame_interfaceTestPassed (testerResponseTimerStop iface) launch
  | testFailed => exact frame_interfaceTestFailed (testerResponseTimerStop iface) launch
  | testTimedOut => exact frame_interfaceTestFailed _ launch
  | interfaceDisconnected => exact frame_testerDisconnectedHandler iface
  | _ => rfl

theorem frame_recoveringStateEventHandler (iface : Interface) (event : TesterEvent) :
    (recoveringStateEventHandler iface event).2.frame = iface.frame := by
  cases event with
  | recoveryTaskTimedOut => exact frame_testerSleep _
  | recoveryTaskEnded => exact frame_testerSleep (recoveryResponseTimerStop iface)
  | interfaceDisconnected => exact frame_testerDisconnectedHandler iface
  | _ => rfl

/-- **The handlers keep the frame**, in every state and for every event. -/
theorem frame_testerEventHandler (iface : Interface) (event : TesterEvent) (launch : Launch) :
    (testerEventHandler iface event launch).frame = iface.frame := by
  unfold testerEventHandler
  rw [frame_observe]
  cases iface.tester.state with
  | stopped =>
      cases event with
      | interfaceSettled => exact frame_testerConnectedHandler iface launch
      | _ => rfl
  | sleeping => exact frame_sleepingStateEventHandler iface event launch
  | testing => exact frame_testingStateEventHandler iface event launch
  | recovering => exact frame_recoveringStateEventHandler iface event

/-- **Between callbacks the queue is empty, so an event is handled at once.** -/
theorem interfaceTesterSendEvent_eq {iface : Interface} (quiet : iface.eventQueue = .empty)
    (event : TesterEvent) (launch : Launch) :
    interfaceTesterSendEvent iface event launch = testerEventHandler iface event launch := by
  have kept : (testerEventHandler iface event launch).eventQueue = .empty := by
    have := congrArg (fun frame => frame.2.2.1) (frame_testerEventHandler iface event launch)
    exact this.trans quiet
  have handled := @eventQueueAddEvent_of_returns Interface TesterEvent
    (fun iface event => .returns (testerEventHandler iface event launch)) iface _ event rfl 2
  unfold interfaceTesterSendEvent
  rw [quiet, show maxEvents = 2 + 1 from rfl, handled]
  rw [← kept]

end IfaceTester
