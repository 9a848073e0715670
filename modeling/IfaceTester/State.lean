import IfaceTester.Config
import IfaceTester.EventQueue

/-!
# The state of an interface

The records of `tester_common.h` for a tracked interface, the timers of
`timers.c` and the process slots of `process.c`.

Two things are kept beside the C fields. A pending timer holds the `int` that
`uloop_timeout_set` was given. The trace holds, oldest first, what the tester
did on behalf of the interface that can be seen from outside: the ubus messages
it sent, the processes it started and killed, the timers it set, and the state
changes and events that it writes to the log.
-/

set_option autoImplicit false

namespace IfaceTester

/-! ## Timers -/

/-- `timer_st`: the time-out it was set with, when `uloop` has it pending. -/
structure Timer where
  pending : Option Int32
deriving DecidableEq

/-- `msecs_per_sec`. -/
def msecsPerSec : UInt32 := 1000

/-- `timer_stop`. -/
def timerStop (_ : Timer) : Timer := ⟨none⟩

/-- `timer_start`. A pending timer is set again. -/
def timerStart (_ : Timer) (timeoutMsecs : UInt32) : Timer := ⟨some timeoutMsecs.toInt32⟩

/-- `timer_is_running`. -/
def timerIsRunning (t : Timer) : Bool := t.pending.isSome

/-- The four timers of an interface. -/
inductive TimerName where
  | settlingDelay
  | testInterval
  | testResponse
  | recoveryTask
deriving DecidableEq

/-! ## Processes -/

/-- The id of a process, as `fork` returns it to the parent. -/
abbrev Pid := ℕ

/-- The functions a process slot may call when its process exits. -/
inductive TesterProcessCb where
  | testCompleted
  | recoveryTaskCompleted
deriving DecidableEq

/-- `tester_process_st`: the child that `uloop` watches for, when there is one. -/
structure TesterProcess where
  pending : Option Pid
  cb : Option TesterProcessCb
deriving DecidableEq

/-- The slot has a running process. -/
def TesterProcess.isRunning (proc : TesterProcess) : Bool := proc.pending.isSome

/-- The command of a child: its arguments, and the directory it starts in. The
last argument is the JSON text of `params`. -/
structure Exec where
  path : String
  interfaceName : String
  executableName : String
  params : BlobAttr
  workingDir : Option String

/-- What the system answers when a callback starts a process: whether
`asprintf` got its memory, and the child when `fork` gave one. -/
structure Launch where
  asprintf : Bool
  fork : Option Pid
deriving DecidableEq

/-- The process gets started. -/
def Launch.succeeds (launch : Launch) : Bool := launch.asprintf && launch.fork.isSome

/-! ## States and events -/

/-- `interface_connection_state_t`. -/
inductive ConnectionState where
  | disconnected
  | settling
  | connected
deriving DecidableEq

/-- `interface_recovery_state_t`. -/
inductive RecoveryState where
  | operational
  | broken
deriving DecidableEq

/-- `interface_tester_state_t`. -/
inductive TesterState where
  | stopped
  | sleeping
  | testing
  | recovering
deriving DecidableEq

/-- `tester_event_t`. -/
inductive TesterEvent where
  | interfaceDisconnected
  | interfaceSettled
  | intervalTimerElapsed
  | testRunRequested
  | testPassed
  | testFailed
  | testTimedOut
  | recoveryTaskEnded
  | recoveryTaskTimedOut
deriving DecidableEq

/-- The functions `tester_start_fn` points to. -/
inductive TesterStarter where
  | testerStartDisconnected
  | testerStartConnected
deriving DecidableEq

/-- One thing that the tester did and that can be seen from outside. -/
inductive Observation where
  /-- `connection_state_transition` logged a new state. -/
  | connectionState (newState : ConnectionState)
  /-- `tester_state_transition` logged a new state. -/
  | testerState (newState : TesterState)
  /-- `recovery_state_transition` logged a new state. -/
  | recoveryState (newState : RecoveryState)
  /-- `tester_event_handler` logged an event, with the state it met. -/
  | testerEvent (event : TesterEvent) (state : TesterState) (handled : Bool)
  /-- `uloop_timeout_set` was called. -/
  | timerSet (timer : TimerName) (msecs : Int32)
  /-- `run_test` was called and the system answered. -/
  | runTest (testIndex : ℕ) (exec : Exec) (launch : Launch)
  /-- `run_recovery_task` was called and the system answered. -/
  | runRecoveryTask (recoveryIndex : ℕ) (exec : Exec) (launch : Launch)
  /-- A child was sent `SIGKILL`. -/
  | kill (pid : Pid)
  /-- `interface_test_run_completed` was called. -/
  | testRunCompleted (passed : Bool)
  /-- An `interface.tester.test_run` event was sent. -/
  | testRunEvent (passed : Bool)
  /-- An `interface.tester.operational` event was sent. -/
  | operationalEvent (isOperational : Bool)
  /-- `netifd` was asked to adjust the metrics of the routes. -/
  | adjustMetrics (amount : UInt32)

/-! ## The interface -/

/-- `interface_connection_st`. -/
structure InterfaceConnection where
  state : ConnectionState
  settlingDelayTimer : Timer
deriving DecidableEq

/-- `interface_recovery_st`. -/
structure InterfaceRecovery where
  state : RecoveryState
  metricsAreAdjusted : Bool
  responseTimeoutTimer : Timer
  recoveryIndex : ℕ
  proc : TesterProcess
deriving DecidableEq

/-- `test_statistics_st`. -/
structure TestStatistics where
  totalPassesThisConnection : UInt64
  totalFailuresThisConnection : UInt64
  totalPasses : UInt64
  totalFailures : UInt64
deriving DecidableEq

/-- `test_run_statistics_st`. -/
structure TestRunStatistics where
  consecutivePasses : UInt64
  totalPassesThisConnection : UInt64
  totalPasses : UInt64
  consecutiveFailures : UInt64
  totalFailuresThisConnection : UInt64
  totalFailures : UInt64
deriving DecidableEq

/-- `test_recovery_statistics_st`. -/
structure TestRecoveryStatistics where
  totalThisConnection : UInt64
  total : UInt64
deriving DecidableEq

/-- `tester_statistics_st`. -/
structure TesterStatistics where
  tests : TestStatistics
  testRuns : TestRunStatistics
  recovery : TestRecoveryStatistics
deriving DecidableEq

/-- `interface_tester_st`. -/
structure InterfaceTester where
  state : TesterState
  testIndex : ℕ
  starter : TesterStarter
  testProc : TesterProcess
  testResponseTimeoutTimer : Timer
  testIntervalTimer : Timer
  lastTestExitCode : Int32
  lastTestPassed : Bool
  stats : TesterStatistics
deriving DecidableEq

/-- `interface_tester_shared_st`, with the build option of `configure.h`. The
descriptor of the ubus socket is negative while there is no connection. No
callback changes it, so it is the same through a run, while `libubus` gives the
socket a new descriptor when it connects again. -/
structure InterfaceTesterShared where
  withMetricsAdjustment : Bool
  ubusSockFd : Int
  testDirectory : Option String
  recoveryDirectory : Option String
deriving DecidableEq

/-- `interface_st`. -/
structure Interface where
  ctx : InterfaceTesterShared
  name : String
  eventQueue : EventQ TesterEvent
  config : InterfaceConfig
  connection : InterfaceConnection
  recovery : InterfaceRecovery
  tester : InterfaceTester
  trace : List Observation

/-- Add an observation to the trace. -/
def Interface.observe (iface : Interface) (seen : Observation) : Interface :=
  { iface with trace := iface.trace ++ [seen] }

/-! ## `process.c` -/

/-- `interface_tester_kill_process`: the slot afterwards, and the kill. -/
def interfaceTesterKillProcess (proc : TesterProcess) : TesterProcess × List Observation :=
  match proc.pending with
  | none => (proc, [])
  | some pid => ({ proc with pending := none }, [.kill pid])

/-- `interface_tester_start_process`. The old child of the slot is killed
before `fork` is called, also when `fork` then fails. -/
def interfaceTesterStartProcess (proc : TesterProcess) (fork : Option Pid) :
    Bool × TesterProcess × List Observation :=
  let killed := interfaceTesterKillProcess proc
  match fork with
  | none => (false, killed)
  | some pid => (true, { killed.1 with pending := some pid }, killed.2)

end IfaceTester
