import IfaceTester.Dump

/-!
# Dumping the state of an interface

`interface_state_dump` answers the `state` request of an interface. The time a
timer has left is what `uloop` says about it. The label of the next recovery
task is read from the configuration at the recovery index.
-/

set_option autoImplicit false

namespace IfaceTester

/-- `interface_connection_state_to_str`. -/
def interfaceConnectionStateToStr : ConnectionState → String
  | .disconnected => "disconnected"
  | .settling => "settling"
  | .connected => "connected"

/-- `interface_tester_state_to_str`. -/
def interfaceTesterStateToStr : TesterState → String
  | .stopped => "stopped"
  | .sleeping => "sleeping"
  | .testing => "testing"
  | .recovering => "recovering"

/-- `interface_recovery_state_to_str`. -/
def interfaceRecoveryStateToStr : RecoveryState → String
  | .operational => "operational"
  | .broken => "broken"

/-- `timer_label`: what `timer_init` was given. -/
def timerLabel : TimerName → String
  | .settlingDelay => "settling_delay_timer"
  | .testInterval => "test_interval_timer"
  | .testResponse => "test_response_timer"
  | .recoveryTask => "recovery_task_timer"

/-- What `blobmsg_add_u8` makes of a `bool`. -/
def u8OfBool (value : Bool) : UInt8 := if value then 1 else 0

/-- `dump_timer_state`. `remaining` is what `timer_remaining` answers. -/
def dumpTimerState (remaining : TimerName → UInt64) (name : TimerName) (t : Timer) : BlobAttr :=
  .table (timerLabel name)
    [.int8 "running" (u8OfBool (timerIsRunning t)), .int64 "remaining" (remaining name)]

/-- `dump_connection_state`. -/
def dumpConnectionState (remaining : TimerName → UInt64) (iface : Interface) : BlobAttr :=
  .table "interface"
    [.string "connected" (if iface.connection.state ≠ .disconnected then "yes" else "no"),
      .string "state" (interfaceConnectionStateToStr iface.connection.state),
      dumpTimerState remaining .settlingDelay iface.connection.settlingDelayTimer]

/-- `dump_test_run_statistics`. -/
def dumpTestRunStatistics (stats : TestRunStatistics) : BlobAttr :=
  .table "test_runs"
    [.int64 "consecutive_passes" stats.consecutivePasses,
      .int64 "total_passes_this_connection" stats.totalPassesThisConnection,
      .int64 "total_passes" stats.totalPasses,
      .int64 "consecutive_failures" stats.consecutiveFailures,
      .int64 "total_failures_this_connection" stats.totalFailuresThisConnection,
      .int64 "total_failures" stats.totalFailures]

/-- `dump_test_statistics`. -/
def dumpTestStatistics (stats : TestStatistics) : BlobAttr :=
  .table "tests"
    [.int64 "total_passes_this_connection" stats.totalPassesThisConnection,
      .int64 "total_passes" stats.totalPasses,
      .int64 "total_failures_this_connection" stats.totalFailuresThisConnection,
      .int64 "total_failures" stats.totalFailures]

/-- `dump_recovery_statistics`. -/
def dumpRecoveryStatistics (stats : TestRecoveryStatistics) : BlobAttr :=
  .table "recovery"
    [.int64 "total_this_connection" stats.totalThisConnection, .int64 "total" stats.total]

/-- `dump_tester_stats`. -/
def dumpTesterStats (tester : InterfaceTester) : BlobAttr :=
  .table "stats"
    [dumpTestRunStatistics tester.stats.testRuns, dumpTestStatistics tester.stats.tests,
      dumpRecoveryStatistics tester.stats.recovery]

/-- The recovery task that `dump_tester_state` looks up, when it looks one up. -/
def dumpedRecoveryIndex (iface : Interface) : Option ℕ :=
  if iface.config.numRecoverys > 0 then some iface.recovery.recoveryIndex else none

/-- The fields of a dump that are about one process slot. -/
def dumpProcess (running pid : String) (proc : TesterProcess) : List BlobAttr :=
  .int8 running (u8OfBool proc.isRunning) ::
    (proc.pending.map fun child => BlobAttr.int32 pid (UInt32.ofNat child)).toList

/-- `dump_tester_state`. -/
def dumpTesterState (remaining : TimerName → UInt64) (iface : Interface) : BlobAttr :=
  let tester := iface.tester
  let recovery := iface.recovery
  .table "tester"
    ([.int32 "test_index" (UInt32.ofNat tester.testIndex),
      .string "state" (interfaceTesterStateToStr tester.state),
      .string "operational_state" (interfaceRecoveryStateToStr recovery.state)]
      ++ (if iface.ctx.withMetricsAdjustment then
        [.int8 "metrics_are_adjusted" (u8OfBool recovery.metricsAreAdjusted)] else [])
      ++ [dumpTimerState remaining .testResponse tester.testResponseTimeoutTimer,
        dumpTimerState remaining .testInterval tester.testIntervalTimer,
        dumpTimerState remaining .recoveryTask recovery.responseTimeoutTimer]
      ++ (match dumpedRecoveryIndex iface with
        | some index =>
            [.int32 "next_recovery_task" (UInt32.ofNat index),
              .string "next_recovery_label" (iface.config.recoverys.getD index default).label]
        | none => [])
      ++ dumpProcess "test_process_running" "test_process_pid" tester.testProc
      ++ [.int32 "last_test_exit_code" tester.lastTestExitCode.toUInt32,
        .int8 "last_test_passed" (u8OfBool tester.lastTestPassed)]
      ++ dumpProcess "recovery_task_running" "recovery_task_process_pid" recovery.proc
      ++ [dumpTesterStats tester])

/-- `interface_dump_state`. -/
def interfaceDumpState (remaining : TimerName → UInt64) (iface : Interface) : BlobAttr :=
  .table "state" [dumpConnectionState remaining iface, dumpTesterState remaining iface]

/-- `interface_state_dump`: the two tables of the answer. -/
def interfaceStateDump (remaining : TimerName → UInt64) (iface : Interface) : List BlobAttr :=
  [interfaceDumpState remaining iface, interfaceDumpConfig iface]

end IfaceTester
