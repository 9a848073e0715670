import IfaceTester.Observations

/-!
# The verdict on an interface

The thresholds look at little: the configuration, the recovery state, the
rotation of the recovery tasks and the two counters of consecutive runs. That is
the `Ledger` of an interface. A completed run changes the ledger by
`Ledger.completed`, which also tells what is seen of it. Every other callback
leaves the ledger alone, up to the configuration (`Move.ledgerMove`).
-/

set_option autoImplicit false

namespace IfaceTester

/-! ## The ledger -/

/-- What the thresholds look at. -/
structure Ledger where
  ctx : InterfaceTesterShared
  config : InterfaceConfig
  state : RecoveryState
  recoveryIndex : ℕ
  consecutivePasses : UInt64
  consecutiveFailures : UInt64

/-- The ledger of an interface. -/
def Interface.ledger (iface : Interface) : Ledger where
  ctx := iface.ctx
  config := iface.config
  state := iface.recovery.state
  recoveryIndex := iface.recovery.recoveryIndex
  consecutivePasses := iface.tester.stats.testRuns.consecutivePasses
  consecutiveFailures := iface.tester.stats.testRuns.consecutiveFailures

/-- What is seen of the verdict. -/
inductive Verdict where
  | runCompleted (passed : Bool)
  | stateChanged (state : RecoveryState)
  | reported (isOperational : Bool)
  | taskAttempted (index : ℕ)
deriving DecidableEq

/-- The part of an observation that belongs to the verdict. -/
def Observation.verdict? : Observation → Option Verdict
  | .testRunCompleted passed => some (.runCompleted passed)
  | .recoveryState state => some (.stateChanged state)
  | .operationalEvent isOperational => some (.reported isOperational)
  | .runRecoveryTask index _ _ => some (.taskAttempted index)
  | _ => none

/-- What has been seen of the verdict, oldest first. -/
def verdicts (trace : List Observation) : List Verdict := trace.filterMap Observation.verdict?

namespace Ledger

/-- One more pass meets the pass threshold. -/
def restores (ledger : Ledger) : Bool :=
  decide (ledger.state = .broken)
    && decide (ledger.consecutivePasses + 1 = ledger.config.passThreshold.toUInt64)

/-- One more failure meets the failure threshold, or a multiple of it. -/
def escalates (ledger : Ledger) : Bool :=
  decide (ledger.config.failThreshold = 0)
    || (decide (ledger.consecutiveFailures + 1 > 0)
      && decide ((ledger.consecutiveFailures + 1) % ledger.config.failThreshold.toUInt64 = 0))

/-- What the operational event shows, if there is a socket to send it on. -/
def report (ledger : Ledger) (isOperational : Bool) : List Verdict :=
  if ledger.ctx.ubusSockFd < 0 then [] else [.reported isOperational]

/-- The task that is next in the rotation. -/
def nextTask (ledger : Ledger) : ℕ :=
  if ledger.recoveryIndex ≥ ledger.config.numRecoverys then 0 else ledger.recoveryIndex

/-- The rotation after that task. -/
def rotated (ledger : Ledger) : ℕ :=
  if ledger.recoveryIndex + 1 ≥ ledger.config.numRecoverys then 0 else ledger.recoveryIndex + 1

/-- A pass, without the thresholds. -/
def countPass (ledger : Ledger) : Ledger :=
  { ledger with
    consecutivePasses := ledger.consecutivePasses + 1
    consecutiveFailures := 0 }

/-- A failure, without the thresholds. -/
def countFailure (ledger : Ledger) : Ledger :=
  { ledger with
    consecutivePasses := 0
    consecutiveFailures := ledger.consecutiveFailures + 1 }

/-- What is seen when a failure that escalates finds this ledger. -/
def breakVerdicts (ledger : Ledger) : List Verdict :=
  if ledger.state = .operational then .stateChanged .broken :: ledger.report false else []

/-- What a completed run makes of the ledger, and what is seen of it. -/
def completed (ledger : Ledger) (passed : Bool) : Ledger × List Verdict :=
  if passed then
    if ledger.restores then
      ({ ledger.countPass with state := .operational, recoveryIndex := 0 },
        .runCompleted true :: .stateChanged .operational :: ledger.report true)
    else (ledger.countPass, [.runCompleted true])
  else if ledger.escalates then
    if ledger.config.numRecoverys = 0 then
      ({ ledger.countFailure with state := .broken }, .runCompleted false :: ledger.breakVerdicts)
    else
      ({ ledger.countFailure with state := .broken, recoveryIndex := ledger.rotated },
        .runCompleted false :: ledger.breakVerdicts ++ [.taskAttempted ledger.nextTask])
  else (ledger.countFailure, [.runCompleted false])

end Ledger

/-! ## The histories a verdict holds -/

/-- The completed run that an observation reports. -/
def Observation.completedRun? : Observation → Option Bool
  | .testRunCompleted passed => some passed
  | _ => none

/-- The results of the completed test runs, oldest first. -/
def completedRuns (trace : List Observation) : List Bool :=
  trace.filterMap Observation.completedRun?

/-- The operational event that an observation reports. -/
def Observation.operationalEvent? : Observation → Option Bool
  | .operationalEvent isOperational => some isOperational
  | _ => none

/-- The operational events sent so far, oldest first. -/
def operationalEvents (trace : List Observation) : List Bool :=
  trace.filterMap Observation.operationalEvent?

/-- The completed run of a verdict. -/
def Verdict.completedRun? : Verdict → Option Bool
  | .runCompleted passed => some passed
  | _ => none

/-- The completed runs are part of the verdict. -/
theorem completedRuns_eq (trace : List Observation) :
    completedRuns trace = (verdicts trace).filterMap Verdict.completedRun? := by
  rw [verdicts, List.filterMap_filterMap, completedRuns]
  refine List.filterMap_congr fun seen _ => ?_
  cases seen <;> rfl

/-- The operational event of a verdict. -/
def Verdict.operationalEvent? : Verdict → Option Bool
  | .reported isOperational => some isOperational
  | _ => none

/-- The operational events are part of the verdict. -/
theorem operationalEvents_eq (trace : List Observation) :
    operationalEvents trace = (verdicts trace).filterMap Verdict.operationalEvent? := by
  rw [verdicts, List.filterMap_filterMap, operationalEvents]
  refine List.filterMap_congr fun seen _ => ?_
  cases seen <;> rfl

/-- A completed run adds its result to the history. -/
theorem completedRuns_completed (ledger : Ledger) (passed : Bool) :
    (ledger.completed passed).2.filterMap Verdict.completedRun? = [passed] := by
  have report : ∀ up, (ledger.report up).filterMap Verdict.completedRun? = [] := by
    intro up
    unfold Ledger.report
    split <;> rfl
  have breaks : ledger.breakVerdicts.filterMap Verdict.completedRun? = [] := by
    unfold Ledger.breakVerdicts
    split
    · simpa [Verdict.completedRun?] using report false
    · rfl
  cases passed with
  | true =>
      simp only [Ledger.completed, if_true]
      split <;> simp only [List.filterMap_cons, List.filterMap_nil, Verdict.completedRun?, report]
  | false =>
      simp only [Ledger.completed, Bool.false_eq_true, if_false]
      split
      · split <;> simp only [List.filterMap_cons, List.filterMap_nil, List.filterMap_append,
          List.cons_append, List.append_nil, Verdict.completedRun?, breaks]
      · rfl

theorem Ledger.config_completed (ledger : Ledger) (passed : Bool) :
    (ledger.completed passed).1.config = ledger.config := by
  unfold Ledger.completed
  split <;> split <;> first | rfl | (split <;> rfl)

theorem Ledger.ctx_completed (ledger : Ledger) (passed : Bool) :
    (ledger.completed passed).1.ctx = ledger.ctx := by
  unfold Ledger.completed
  split <;> split <;> first | rfl | (split <;> rfl)

/-! ## What is seen of the parts of a move -/

@[simp] theorem verdicts_append (trace seen : List Observation) :
    verdicts (trace ++ seen) = verdicts trace ++ verdicts seen := by
  simp [verdicts]

@[simp] theorem verdicts_cons (seen : Observation) (trace : List Observation) :
    verdicts (seen :: trace) = seen.verdict?.toList ++ verdicts trace := by
  cases seen <;> rfl

@[simp] theorem verdicts_nil : verdicts [] = [] := rfl

@[simp] theorem verdicts_kills (proc : TesterProcess) :
    verdicts (interfaceTesterKillProcess proc).2 = [] := filterMap_kills (fun _ => rfl) proc

@[simp] theorem verdicts_testStartTrace (iface : Interface) (index : ℕ) (launch : Launch) :
    verdicts (testStartTrace iface index launch) = [] :=
  filterMap_testStartTrace (fun _ _ _ => rfl) (fun _ => rfl) iface index launch

@[simp] theorem verdicts_testRunMessages (ctx : InterfaceTesterShared) (passed : Bool) :
    verdicts (testRunMessages ctx passed) = [] :=
  filterMap_testRunMessages (fun _ => rfl) ctx passed

theorem verdicts_operationalMessages (iface : Interface) (up : Bool) :
    verdicts (operationalMessages iface.ctx up) = iface.ledger.report up := by
  by_cases down : iface.ctx.ubusSockFd < 0 <;>
    simp [operationalMessages, Ledger.report, Interface.ledger, down, Observation.verdict?]

theorem verdicts_operationalTrace (iface : Interface) :
    verdicts (operationalTrace iface.ctx) =
      .stateChanged .operational :: iface.ledger.report true := by
  rw [← verdicts_operationalMessages]
  unfold operationalTrace
  split <;> simp [Observation.verdict?]

theorem verdicts_breakTrace (iface : Interface) :
    verdicts (breakTrace iface) = iface.ledger.breakVerdicts := by
  unfold breakTrace brokenTrace Ledger.breakVerdicts
  rw [← verdicts_operationalMessages]
  split <;> [split; skip] <;> simp_all [Observation.verdict?, Interface.ledger]

/-! ## The end of a test run -/

section Ledgers

variable {iface t : Interface} {launch : Launch} {cb : Callback}

@[simp] theorem ledger_observe (iface : Interface) (seen : Observation) :
    (iface.observe seen).ledger = iface.ledger := rfl

/-- A logged event is no part of the verdict. -/
theorem verdicts_observe (iface : Interface) (event : TesterEvent) (state : TesterState)
    (handled : Bool) :
    verdicts (iface.observe (.testerEvent event state handled)).trace = verdicts iface.trace := by
  simp [Observation.verdict?]

theorem completedRuns_observe (iface : Interface) (event : TesterEvent) (state : TesterState)
    (handled : Bool) :
    completedRuns (iface.observe (.testerEvent event state handled)).trace =
      completedRuns iface.trace := by
  rw [completedRuns_eq, verdicts_observe, ← completedRuns_eq]

theorem ledger_testerSleep (iface : Interface) : (testerSleep iface).ledger = iface.ledger := by
  rw [testerSleep_eq]
  rfl

theorem verdicts_testerSleep (iface : Interface) :
    verdicts (testerSleep iface).trace = verdicts iface.trace := by
  simp [trace_testerSleep, Observation.verdict?]

theorem verdicts_countedRun (iface : Interface) (passed : Bool) :
    verdicts (countedRun iface passed).trace = verdicts iface.trace ++ [.runCompleted passed] := by
  simp [countedRun, reportedRun, Observation.verdict?]

theorem verdicts_brokenRun (iface : Interface) :
    verdicts (brokenRun iface).trace =
      verdicts iface.trace ++ .runCompleted false :: iface.ledger.breakVerdicts := by
  simp [trace_brokenRun, verdicts_breakTrace, Observation.verdict?]

theorem ledger_brokenRun (iface : Interface) :
    (brokenRun iface).ledger = { iface.ledger.countFailure with state := .broken } := by
  have state := brokenRun_state iface
  obtain ⟨tester, -, -, index⟩ := brokenRun_kept iface
  have frame := frame_brokenRun iface
  simp only [Interface.frame, Prod.mk.injEq] at frame
  simp only [Interface.ledger, state, tester, index, frame, Ledger.countFailure]
  rfl

theorem rotation_brokenRun (iface : Interface) :
    nextTask (brokenRun iface) = iface.ledger.nextTask ∧
      rotatedIndex (brokenRun iface) = iface.ledger.rotated := by
  simp only [nextTask, rotatedIndex, config_brokenRun, (brokenRun_kept iface).2.2.2]
  exact ⟨rfl, rfl⟩

/-- **The end of a test run changes the ledger as `completed` says.** -/
theorem RunEnd.ledger {passed : Bool} (ended : RunEnd iface launch passed t) :
    t.ledger = (iface.ledger.completed passed).1 ∧
      verdicts t.trace = verdicts iface.trace ++ (iface.ledger.completed passed).2 := by
  cases ended with
  | passed short =>
      have kept : iface.ledger.restores = false := short
      simp only [Ledger.completed, kept, if_true, Bool.false_eq_true, if_false]
      rw [ledger_testerSleep, verdicts_testerSleep, verdicts_countedRun]
      exact ⟨rfl, rfl⟩
  | restored met =>
      have restored : iface.ledger.restores = true := met
      simp only [Ledger.completed, restored, if_true]
      rw [ledger_testerSleep, verdicts_testerSleep, trace_transitionToOperationalState,
        transitionToOperationalState_eq, verdicts_append, verdicts_countedRun,
        verdicts_operationalTrace]
      exact ⟨rfl, by simp [Ledger.report, Interface.ledger]; rfl⟩
  | failed short =>
      have kept : iface.ledger.escalates = false := short
      simp only [Ledger.completed, kept, Bool.false_eq_true, if_false]
      rw [ledger_testerSleep, verdicts_testerSleep, verdicts_countedRun]
      exact ⟨rfl, rfl⟩
  | noTask met noTasks =>
      have escalated : iface.ledger.escalates = true := met
      have empty : iface.ledger.config.numRecoverys = 0 := noTasks
      simp only [Ledger.completed, escalated, empty, if_true, Bool.false_eq_true, if_false]
      rw [ledger_testerSleep, verdicts_testerSleep, verdicts_brokenRun, ledger_brokenRun]
      exact ⟨rfl, rfl⟩
  | notStarted met tasks unsuccessful proc kills slot =>
      have escalated : iface.ledger.escalates = true := met
      have nonempty : iface.ledger.config.numRecoverys ≠ 0 := Nat.pos_iff_ne_zero.mp tasks
      have quiet : verdicts kills = [] := by
        rcases slot with ⟨-, rfl⟩ | ⟨-, rfl⟩ <;> simp
      have broken := ledger_brokenRun iface
      obtain ⟨next, rotated⟩ := rotation_brokenRun iface
      simp only [Ledger.completed, escalated, nonempty, if_true, Bool.false_eq_true, if_false]
      rw [ledger_testerSleep, verdicts_testerSleep]
      constructor
      · show { (brokenRun iface).ledger with
          recoveryIndex := IfaceTester.rotatedIndex (brokenRun iface) } = _
        rw [broken, rotated]
      · simp [taskNotStarted, verdicts_brokenRun, quiet, next, Observation.verdict?]
  | started met tasks pid memory forked =>
      have escalated : iface.ledger.escalates = true := met
      have nonempty : iface.ledger.config.numRecoverys ≠ 0 := Nat.pos_iff_ne_zero.mp tasks
      have broken := ledger_brokenRun iface
      obtain ⟨next, rotated⟩ := rotation_brokenRun iface
      simp only [Ledger.completed, escalated, nonempty, if_true, Bool.false_eq_true, if_false]
      constructor
      · show { (brokenRun iface).ledger with
          recoveryIndex := IfaceTester.rotatedIndex (brokenRun iface) } = _
        rw [broken, rotated]
      · simp [taskStarted, verdicts_brokenRun, next, Observation.verdict?]

/-- The end of a test run completes one run. -/
theorem RunEnd.completedRuns {passed : Bool} (ended : RunEnd iface launch passed t) :
    completedRuns t.trace = completedRuns iface.trace ++ [passed] := by
  rw [completedRuns_eq, completedRuns_eq, ended.ledger.2, List.filterMap_append,
    completedRuns_completed]

/-! ## The other callbacks -/

theorem ledger_runTest (iface : Interface) (index : ℕ) (launch : Launch) :
    (runTest iface index launch).2.ledger = iface.ledger := by
  unfold runTest
  dsimp only
  split <;> rfl

theorem ledger_testerStartConnected (iface : Interface) (launch : Launch) :
    (testerStartConnected iface launch).ledger = iface.ledger :=
  ledger_runTest { testerStateTransition iface .testing with tester.testIndex := 0 } 0 launch

theorem ledger_nextTest (iface : Interface) (launch : Launch) :
    (nextTest iface launch).ledger = iface.ledger :=
  ledger_runTest { iface with tester.testIndex := iface.tester.testIndex + 1 }
    (iface.tester.testIndex + 1) launch

theorem verdicts_testerStartConnected (idle : Idle iface) :
    verdicts (testerStartConnected iface launch).trace = verdicts iface.trace := by
  simp [trace_testerStartConnected idle.testProc, Observation.verdict?]

theorem ledger_testerStop (iface : Interface) : (testerStop iface).ledger = iface.ledger := by
  rw [testerStop_eq]
  rfl

theorem verdicts_testerStop (iface : Interface) :
    verdicts (testerStop iface).trace = verdicts iface.trace := by
  simp [trace_testerStop, Observation.verdict?]

/-- A test that ends has not yet touched the ledger. -/
theorem TestEnd.ledger {passed : Bool} {event : TesterEvent} {ended : Interface}
    (how : TestEnd iface cb passed event ended) :
    (countTest ended passed).ledger = iface.ledger ∧
      verdicts (countTest ended passed).trace = verdicts iface.trace := by
  obtain ⟨kills, added, only⟩ := trace_testEnd how
  have quiet : verdicts kills = [] := filterMap_of_kills (fun _ => rfl) only
  have kept : (countTest ended passed).trace = ended.trace := rfl
  refine ⟨?_, by simp [kept, added, quiet]⟩
  cases how with
  | exited status => rfl
  | timedOut => rfl

/-- What a callback does to the ledger. -/
inductive LedgerMove (iface t : Interface) : Callback → Prop where
  | kept (cb : Callback) (ledger : t.ledger = iface.ledger)
      (quiet : verdicts t.trace = verdicts iface.trace) : LedgerMove iface t cb
  | reconfigured (new : AcceptedConfig)
      (changed : configChanged iface.ctx.withMetricsAdjustment iface.config new.config = true)
      (ledger : t.ledger = { iface.ledger with config := new.config, recoveryIndex := 0 })
      (quiet : verdicts t.trace = verdicts iface.trace) : LedgerMove iface t (.configUpdate new)
  | completed (cb : Callback) (passed : Bool)
      (ledger : t.ledger = (iface.ledger.completed passed).1)
      (seen : verdicts t.trace = verdicts iface.trace ++ (iface.ledger.completed passed).2) :
      LedgerMove iface t cb

/-- **Only completed runs and updates change the ledger.** -/
theorem Move.ledgerMove (coherent : Coherent iface) (move : Move iface launch cb t) :
    LedgerMove iface t cb := by
  cases move with
  | ifupArms down =>
      exact .kept _ rfl (by
        simp [connectionStateTransition, settlingDelayTimerStart, Observation.verdict?])
  | ifupRedundant up => exact .kept _ rfl rfl
  | ifdownRedundant down => exact .kept _ rfl rfl
  | ifdownSettling settling =>
      exact .kept _ rfl (by
        simp [connectionLost, settlingDelayTimerStop, connectionStateTransition,
          Observation.verdict?])
  | ifdownConnected up live =>
      refine .kept _ ((ledger_testerStop _).trans rfl) ?_
      simp [testerDisconnectedHandler, verdicts_testerStop, connectionLost, settlingDelayTimerStop,
        connectionStateTransition, Observation.verdict?]
  | settled settling stopped =>
      refine .kept _ (ledger_testerStartConnected (connectionSettled iface) launch) ?_
      rw [verdicts_observe, verdicts_testerStartConnected (coherent.idle_settled stopped)]
      simp [connectionSettled, testerInitialisePerConnectionStatistics, settlingDelayTimerStop,
        connectionStateTransition, Observation.verdict?]
  | intervalElapsed sleeping =>
      refine .kept _ (ledger_testerStartConnected (testerIntervalTimerStop iface) launch) ?_
      rw [verdicts_observe]
      exact verdicts_testerStartConnected (coherent.idle_woken sleeping)
  | requested sleeping =>
      refine .kept _ (ledger_testerStartConnected (testerIntervalTimerStop iface) launch) ?_
      rw [verdicts_observe]
      exact verdicts_testerStartConnected (coherent.idle_woken sleeping)
  | requestIgnored awake => exact .kept _ rfl (verdicts_observe iface _ _ _)
  | @testEndsNext _ passed event ended testing running how more =>
      have idle := (coherent.idle_testEnd testing how).countTest passed
      refine .kept _ ((ledger_observe _ _).trans
        ((ledger_nextTest (countTest ended passed) launch).trans how.ledger.1)) ?_
      rw [verdicts_observe, trace_nextTest idle.testProc, verdicts_append, how.ledger.2]
      simp
  | @testEndsRun _ passed event ended testing running how isOver =>
      have ended' := (interfaceTestRunCompleted_runEnd (how.testing testing) passed launch).ledger
      rw [how.ledger.1, how.ledger.2] at ended'
      refine .completed _ passed ((ledger_observe _ _).trans ended'.1) ?_
      rw [verdicts_observe]
      exact ended'.2
  | recoveryEnded status recovering =>
      refine .kept _ (ledger_testerSleep (recoveryResponseTimerStop (recoveryTaskExited iface))) ?_
      rw [verdicts_observe]
      exact verdicts_testerSleep (recoveryResponseTimerStop (recoveryTaskExited iface))
  | recoveryEndIgnored status elsewhere =>
      exact .kept _ rfl (verdicts_observe (recoveryTaskExited iface) _ _ _)
  | recoveryTimedOut recovering =>
      refine .kept _ (ledger_testerSleep (recoveryTaskKilled iface)) ?_
      rw [verdicts_observe, verdicts_testerSleep]
      simp [recoveryTaskKilled]
  | recoveryTimeoutIgnored elsewhere =>
      exact .kept _ rfl (verdicts_observe (recoveryResponseTimerStop iface) _ _ _)
  | updateUnchanged same => exact .kept _ rfl rfl
  | @updateStopped new stopped changed =>
      exact .reconfigured new changed rfl (verdicts_testerStop iface)
  | @updateRestarted new live changed =>
      refine .reconfigured new changed
        (ledger_testerStartConnected (reconfigured iface new.config) launch) ?_
      rw [verdicts_testerStartConnected (coherent.idle_reconfigured live new)]
      exact verdicts_testerStop iface

/-- No callback takes a completed run away. -/
theorem LedgerMove.completedRuns (moved : LedgerMove iface t cb) :
    completedRuns iface.trace <+: completedRuns t.trace := by
  rw [completedRuns_eq, completedRuns_eq]
  cases moved with
  | kept cb ledger quiet => exact ⟨[], by rw [quiet, List.append_nil]⟩
  | reconfigured new changed ledger quiet => exact ⟨[], by rw [quiet, List.append_nil]⟩
  | completed cb passed ledger seen =>
      rw [seen, List.filterMap_append]
      exact List.prefix_append _ _

end Ledgers

/-! ## The verdict at the beginning -/

/-- The ledger of an interface that begins. -/
def Ledger.initial (ctx : InterfaceTesterShared) (config : AcceptedConfig) : Ledger where
  ctx := ctx
  config := config.config
  state := .operational
  recoveryIndex := 0
  consecutivePasses := 0
  consecutiveFailures := 0

/-- What is seen of the verdict on an interface that begins. -/
def initialVerdicts (ctx : InterfaceTesterShared) (config : AcceptedConfig) : List Verdict :=
  .stateChanged .operational :: (Ledger.initial ctx config).report true

section Runs

open Runs

variable {ctx : InterfaceTesterShared} {name : String} {config : AcceptedConfig}
variable {isConnected : Bool} {launch : Launch} {inputs : List Input} {t : Interface}

/-- An interface begins operational, and says so. -/
theorem ledger_begun (ctx : InterfaceTesterShared) (name : String) (config : AcceptedConfig)
    (isConnected : Bool) (launch : Launch) :
    (begun ctx name config isConnected launch).ledger = Ledger.initial ctx config ∧
      verdicts (begun ctx name config isConnected launch).trace = initialVerdicts ctx config := by
  have ledger : (beforeBegin ctx name config).ledger = Ledger.initial ctx config := by
    unfold beforeBegin
    rw [transitionToOperationalState_eq]
    rfl
  have seen : verdicts (beforeBegin ctx name config).trace = initialVerdicts ctx config := by
    have told := verdicts_operationalTrace
      { interfaceTesterAlloc ctx name with config := config.config }
    unfold beforeBegin
    rw [trace_transitionToOperationalState, verdicts_append, told]
    rfl
  rw [begun_eq]
  cases isConnected with
  | true =>
      refine ⟨ledger, Eq.trans ?_ seen⟩
      simp [connectionStateTransition, settlingDelayTimerStart, Observation.verdict?]
  | false => exact ⟨ledger, seen⟩

/-- The configuration loads of a run leave the configuration as it is. -/
def KeepsConfig (ctx : InterfaceTesterShared) (config : AcceptedConfig) (inputs : List Input) :
    Prop :=
  ∀ new answer, (Callback.configUpdate new, answer) ∈ inputs →
    configChanged ctx.withMetricsAdjustment config.config new.config = false

/-- Under one configuration, a callback changes the ledger only by completing a
run. -/
theorem LedgerMove.of_keepsConfig {s : Interface} {cb : Callback} {answer : Launch}
    (moved : LedgerMove s t cb) (sameCtx : s.ctx = ctx) (sameConfig : s.config = config.config)
    (keeps : KeepsConfig ctx config inputs) (member : (cb, answer) ∈ inputs) :
    (t.ledger = s.ledger ∧ verdicts t.trace = verdicts s.trace) ∨
      ∃ passed, t.ledger = (s.ledger.completed passed).1 ∧
        verdicts t.trace = verdicts s.trace ++ (s.ledger.completed passed).2 := by
  cases moved with
  | kept cb ledger quiet => exact .inl ⟨ledger, quiet⟩
  | reconfigured new changed ledger quiet =>
      rw [sameCtx, sameConfig, keeps new answer member] at changed
      exact absurd changed Bool.false_ne_true
  | completed cb passed ledger seen => exact .inr ⟨passed, ledger, seen⟩

/-- **What every completed run keeps holds of the verdict throughout a run under
one configuration.** -/
theorem verdict_of_visits (keeps : KeepsConfig ctx config inputs)
    {P : Ledger → List Verdict → Prop}
    (start : P (Ledger.initial ctx config) (initialVerdicts ctx config))
    (completes : ∀ ledger seen passed, ledger.ctx = ctx → ledger.config = config.config →
      P ledger seen → P (ledger.completed passed).1 (seen ++ (ledger.completed passed).2))
    (visited : Visits step (begun ctx name config isConnected launch) inputs t) :
    t.ctx = ctx ∧ t.config = config.config ∧ P t.ledger (verdicts t.trace) := by
  obtain ⟨ledger, seen⟩ := ledger_begun ctx name config isConnected launch
  refine visits_of_invariant (I := fun iface => iface.ledger.ctx = ctx ∧
    iface.ledger.config = config.config ∧ P iface.ledger (verdicts iface.trace)) ?_ ?_ visited
  · rintro s ⟨cb, answer⟩ u taken ⟨sameCtx, sameConfig, holds⟩
    have coherent := coherent_of_visits taken.source
    have moved := (step_move coherent taken.step_eq).ledgerMove coherent
    rcases moved.of_keepsConfig sameCtx sameConfig keeps taken.mem with
      ⟨ledger, quiet⟩ | ⟨passed, ledger, seen⟩
    · rw [ledger, quiet]
      exact ⟨sameCtx, sameConfig, holds⟩
    · rw [ledger, seen, Ledger.ctx_completed, Ledger.config_completed]
      exact ⟨sameCtx, sameConfig, completes _ _ passed sameCtx sameConfig holds⟩
  · rw [ledger, seen]
    exact ⟨rfl, rfl, start⟩

end Runs

end IfaceTester
