import IfaceTester.Connection
import IfaceTester.Foundations.Runs

/-!
# The callbacks of a tracked interface

After `interface_tester_begin` an interface changes only in callbacks: the
`ubus` events that report its state, the expiry of its timers, the exit of its
children, the `start_test_run` request, and the `config_update` of a
configuration load. `step` is one callback. A timer that is not pending cannot
expire and a slot without a child cannot see one exit, so `step` is partial.
`uloop` disarms a timer and unregisters a process before it calls the callback.
-/

set_option autoImplicit false

namespace IfaceTester

/-! ## `config_update` -/

/-- One position of the list comparison of `config.c`. -/
def taskConfigChanged (existing new : TaskConfig) : Bool :=
  decide (existing.executableName ≠ new.executableName)
    || decide (existing.label ≠ new.label)
    || decide (existing.responseTimeoutSecs ≠ new.responseTimeoutSecs)
    || !blobAttrEqual existing.params new.params

/-- The loop over two lists of the same length. -/
def taskConfigsChanged (existing new : List TaskConfig) : Bool :=
  if existing.length ≠ new.length then true
  else (existing.zip new).any fun pair => taskConfigChanged pair.1 pair.2

/-- `interface_tester_config_tests_changed`. -/
def interfaceTesterConfigTestsChanged (existing new : InterfaceConfig) : Bool :=
  taskConfigsChanged existing.tests new.tests

/-- `interface_tester_config_recoverys_changed`. -/
def interfaceTesterConfigRecoverysChanged (existing new : InterfaceConfig) : Bool :=
  taskConfigsChanged existing.recoverys new.recoverys

/-- The test of `config_update`. -/
def configChanged (withMetricsAdjustment : Bool) (existing new : InterfaceConfig) : Bool :=
  decide (existing.successCondition ≠ new.successCondition)
    || decide (existing.settlingDelaySecs ≠ new.settlingDelaySecs)
    || decide (existing.testPassingIntervalSecs ≠ new.testPassingIntervalSecs)
    || decide (existing.testFailingIntervalSecs ≠ new.testFailingIntervalSecs)
    || decide (existing.passThreshold ≠ new.passThreshold)
    || decide (existing.failThreshold ≠ new.failThreshold)
    || decide (existing.responseTimeoutSecs ≠ new.responseTimeoutSecs)
    || (withMetricsAdjustment
      && decide (existing.failingTestsMetricsIncrease ≠ new.failingTestsMetricsIncrease))
    || decide (existing.numTests ≠ new.numTests)
    || interfaceTesterConfigTestsChanged existing new
    || interfaceTesterConfigRecoverysChanged existing new

/-- `config_update` on the existing interface. -/
def configUpdate (iface : Interface) (newConfig : InterfaceConfig) (launch : Launch) : Interface :=
  if configChanged iface.ctx.withMetricsAdjustment iface.config newConfig then
    interfaceTesterStart { interfaceTesterStop iface with config := newConfig } launch
  else iface

/-! ## One callback -/

/-- What `uloop` and `ubus` may call for a tracked interface. -/
inductive Callback where
  /-- `interface_state_event_handler_cb` with an `ifup` for the interface. -/
  | ifup
  /-- `network_interface_event_handler_cb` with an `ifdown` for the interface. -/
  | ifdown
  | settlingDelayTimerExpired
  | testIntervalTimerExpired
  | testResponseTimerExpired
  | recoveryTaskTimerExpired
  /-- The child of the test slot exited, with its wait status. -/
  | testProcExited (status : Int32)
  /-- The child of the recovery slot exited, with its wait status. -/
  | recoveryProcExited (status : Int32)
  /-- `iface_handle_test`. -/
  | startTestRun
  /-- `interface_update_cb` with a new configuration of the same name. -/
  | configUpdate (new : AcceptedConfig)

/-- A callback, and the answer of the system if it starts a process. -/
abbrev Input := Callback × Launch

/-- One callback, from the state before it to the state after it. -/
def step (iface : Interface) : Input → Option Interface
  | (.ifup, _) => some (interfaceConnectionConnected iface)
  | (.ifdown, launch) => some (interfaceConnectionDisconnected iface launch)
  | (.settlingDelayTimerExpired, launch) =>
      if timerIsRunning iface.connection.settlingDelayTimer then
        some (settlingDelayTimerExpired (settlingDelayTimerStop iface) launch)
      else none
  | (.testIntervalTimerExpired, launch) =>
      if timerIsRunning iface.tester.testIntervalTimer then
        some (interfaceTesterSendEvent (testerIntervalTimerStop iface) .intervalTimerElapsed launch)
      else none
  | (.testResponseTimerExpired, launch) =>
      if timerIsRunning iface.tester.testResponseTimeoutTimer then
        some (interfaceTesterSendEvent (testerResponseTimerStop iface) .testTimedOut launch)
      else none
  | (.recoveryTaskTimerExpired, launch) =>
      if timerIsRunning iface.recovery.responseTimeoutTimer then
        some (interfaceTesterSendEvent (recoveryResponseTimerStop iface) .recoveryTaskTimedOut
          launch)
      else none
  | (.testProcExited status, launch) =>
      if iface.tester.testProc.isRunning then
        some (interfaceTesterProcessCb { iface with tester.testProc.pending := none }
          iface.tester.testProc.cb status launch)
      else none
  | (.recoveryProcExited status, launch) =>
      if iface.recovery.proc.isRunning then
        some (interfaceTesterProcessCb { iface with recovery.proc.pending := none }
          iface.recovery.proc.cb status launch)
      else none
  | (.startTestRun, launch) => some (interfaceTesterSendEvent iface .testRunRequested launch)
  | (.configUpdate new, launch) => some (configUpdate iface new.config launch)

/-- The interface right after `config_add`: it was allocated for the name, its
decoded configuration was stored, and `interface_tester_begin` was called. -/
def begun (ctx : InterfaceTesterShared) (name : String) (config : AcceptedConfig)
    (isConnected : Bool) (launch : Launch) : Interface :=
  interfaceTesterBegin { interfaceTesterAlloc ctx name with config := config.config }
    isConnected launch

/-! ## An interface for examples -/

/-- A test or recovery task without parameters. -/
def plainTask (executableName : String) : TaskConfig where
  index := 0
  executableName := executableName
  label := executableName
  responseTimeoutSecs := 0
  params := .table "params" []

/-- One test decides each run, and the thresholds are as given. -/
def pingConfig (passThreshold failThreshold : UInt32)
    (positive : 0 < passThreshold ∧ 0 < failThreshold) (recoverys : List RecoveryConfig) :
    AcceptedConfig where
  config :=
    { successCondition := some { name := "all_tests_must_pass", condition := .all }
      settlingDelaySecs := 1
      testPassingIntervalSecs := 60
      testFailingIntervalSecs := 30
      passThreshold := passThreshold
      failThreshold := failThreshold
      responseTimeoutSecs := 10
      failingTestsMetricsIncrease := 0
      tests := [plainTask "ping"]
      recoverys := recoverys }
  accepted :=
    { validated := by simp [interfaceConfigValidate, positive]
      listed := by simp [conditionDefinitions]
      testsNonempty := List.cons_ne_nil _ _ }

/-- One result breaks or restores the interface. -/
def eagerConfig (recoverys : List RecoveryConfig) : AcceptedConfig :=
  pingConfig 1 1 (by decide) recoverys

/-- A tester with a connection to `ubus`. -/
def connectedShared : InterfaceTesterShared where
  withMetricsAdjustment := false
  ubusSockFd := 3
  testDirectory := none
  recoveryDirectory := none

/-- A tester that has lost `ubus`. -/
def disconnectedShared : InterfaceTesterShared := { connectedShared with ubusSockFd := -1 }

/-- The process is started as `pid`. -/
def Launch.forked (pid : Pid) : Launch := { asprintf := true, fork := some pid }

/-- No process can be started. -/
def Launch.refused : Launch := { asprintf := true, fork := none }

end IfaceTester
