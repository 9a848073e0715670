import IfaceTester.Observations

/-!
# What an interface holds outside of itself

An interface holds up to two children and, while its routes are penalised, an
adjustment of their metrics. `Effects` is the grammar of what may be seen while
these change: a kill empties the slot of the child, a start fills a slot that is
empty, and the adjustment comes and goes with the recovery state.

Every callback has such effects (`Move.acts`), so what is said about children and
about metrics is proved from the grammar, and the moves are not looked at again.
-/

set_option autoImplicit false

namespace IfaceTester

/-- The children in the two slots, and the adjustment with the recovery state it
belongs to. -/
structure Holdings where
  testPid : Option Pid
  recoveryPid : Option Pid
  recoveryState : RecoveryState
  metricsAreAdjusted : Bool

/-- What an interface holds. -/
def Interface.holdings (iface : Interface) : Holdings where
  testPid := iface.tester.testProc.pending
  recoveryPid := iface.recovery.proc.pending
  recoveryState := iface.recovery.state
  metricsAreAdjusted := iface.recovery.metricsAreAdjusted

/-- What is seen has nothing to do with children or with the recovery state. -/
def Observation.isInert : Observation → Bool
  | .kill _ => false
  | .runTest _ _ launch => !launch.succeeds
  | .runRecoveryTask _ _ launch => !launch.succeeds
  | .recoveryState _ => false
  | .adjustMetrics _ => false
  | _ => true

/-- How what is held changes, with what is seen of it. The flag is the build
option for the metrics. -/
inductive Effects (metrics : Bool) : Holdings → List Observation → Holdings → Prop
  | nil (held : Holdings) : Effects metrics held [] held
  | inert {held held' : Holdings} {trace : List Observation} {seen : Observation}
      (inert : seen.isInert = true) (rest : Effects metrics held trace held') :
      Effects metrics held (seen :: trace) held'
  | testKilled {held held' : Holdings} {trace : List Observation} {pid : Pid}
      (running : held.testPid = some pid)
      (rest : Effects metrics { held with testPid := none } trace held') :
      Effects metrics held (.kill pid :: trace) held'
  | recoveryKilled {held held' : Holdings} {trace : List Observation} {pid : Pid}
      (running : held.recoveryPid = some pid)
      (rest : Effects metrics { held with recoveryPid := none } trace held') :
      Effects metrics held (.kill pid :: trace) held'
  | testStarted {held held' : Holdings} {trace : List Observation} {index : ℕ} {exec : Exec}
      {launch : Launch} {pid : Pid} (memory : launch.asprintf = true)
      (forked : launch.fork = some pid) (idle : held.testPid = none)
      (rest : Effects metrics { held with testPid := some pid } trace held') :
      Effects metrics held (.runTest index exec launch :: trace) held'
  | recoveryStarted {held held' : Holdings} {trace : List Observation} {index : ℕ} {exec : Exec}
      {launch : Launch} {pid : Pid} (memory : launch.asprintf = true)
      (forked : launch.fork = some pid) (idle : held.recoveryPid = none)
      (rest : Effects metrics { held with recoveryPid := some pid } trace held') :
      Effects metrics held (.runRecoveryTask index exec launch :: trace) held'
  | restored {held held' : Holdings} {trace : List Observation}
      (rest : Effects metrics
        { held with
          recoveryState := .operational
          metricsAreAdjusted := !metrics && held.metricsAreAdjusted } trace held') :
      Effects metrics held (.recoveryState .operational ::
        ((if metrics then [.adjustMetrics 0] else []) ++ trace)) held'
  | broke {held held' : Holdings} {trace : List Observation} (amount : UInt32)
      (operational : held.recoveryState = .operational)
      (rest : Effects metrics
        { held with
          recoveryState := .broken
          metricsAreAdjusted :=
            (metrics && decide (amount > 0)) || held.metricsAreAdjusted } trace held') :
      Effects metrics held (.recoveryState .broken ::
        ((if metrics && decide (amount > 0) then [.adjustMetrics amount] else []) ++ trace)) held'

  | handedBack {held held' : Holdings} {trace : List Observation} (on : metrics = true)
      (adjusted : held.metricsAreAdjusted = true)
      (rest : Effects metrics { held with metricsAreAdjusted := false } trace held') :
      Effects metrics held (.adjustMetrics 0 :: trace) held'

/-- One interface comes from another by such effects. -/
structure Acts (iface t : Interface) : Prop where
  ctx : t.ctx = iface.ctx
  effects : ∃ seen, t.trace = iface.trace ++ seen ∧
    Effects iface.ctx.withMetricsAdjustment iface.holdings seen t.holdings

theorem Effects.trans {metrics : Bool} {held held' held'' : Holdings}
    {trace later : List Observation} (first : Effects metrics held trace held')
    (rest : Effects metrics held' later held'') : Effects metrics held (trace ++ later) held'' := by
  induction first with
  | nil held => exact rest
  | inert inert _ ih => exact .inert inert (ih rest)
  | testKilled running _ ih => exact .testKilled running (ih rest)
  | recoveryKilled running _ ih => exact .recoveryKilled running (ih rest)
  | testStarted memory forked idle _ ih => exact .testStarted memory forked idle (ih rest)
  | recoveryStarted memory forked idle _ ih => exact .recoveryStarted memory forked idle (ih rest)
  | restored _ ih =>
      rw [List.cons_append, List.append_assoc]
      exact .restored (ih rest)
  | broke amount operational _ ih =>
      rw [List.cons_append, List.append_assoc]
      exact .broke amount operational (ih rest)
  | handedBack on adjusted _ ih => exact .handedBack on adjusted (ih rest)

theorem effects_of_inert {metrics : Bool} {held : Holdings} {trace : List Observation}
    (inert : ∀ seen ∈ trace, seen.isInert = true) : Effects metrics held trace held := by
  induction trace with
  | nil => exact .nil held
  | cons seen trace ih =>
      exact .inert (inert seen List.mem_cons_self)
        (ih fun later member => inert later (List.mem_cons_of_mem _ member))

section Parts

variable {iface t u : Interface} {launch : Launch}

theorem Acts.trans (first : Acts iface t) (rest : Acts t u) : Acts iface u where
  ctx := rest.ctx.trans first.ctx
  effects := by
    obtain ⟨seen, trace, effects⟩ := first.effects
    obtain ⟨later, trace', effects'⟩ := rest.effects
    rw [first.ctx] at effects'
    exact ⟨seen ++ later, by rw [trace', trace, List.append_assoc], effects.trans effects'⟩

/-- Nothing is seen, and what is held stays the same. -/
theorem acts_of_silent (ctx : t.ctx = iface.ctx) (trace : t.trace = iface.trace)
    (held : t.holdings = iface.holdings) : Acts iface t where
  ctx := ctx
  effects := ⟨[], by simpa using trace, held ▸ .nil _⟩

/-- Only inert things are seen, and what is held stays the same. -/
theorem acts_of_inert {seen : List Observation} (ctx : t.ctx = iface.ctx)
    (trace : t.trace = iface.trace ++ seen) (held : t.holdings = iface.holdings)
    (inert : ∀ observation ∈ seen, observation.isInert = true) : Acts iface t where
  ctx := ctx
  effects := ⟨seen, trace, held ▸ effects_of_inert inert⟩

theorem Acts.refl : Acts iface iface := acts_of_silent rfl rfl rfl

theorem Acts.observe (acts : Acts iface t) {seen : Observation} (inert : seen.isInert = true) :
    Acts iface (t.observe seen) :=
  acts.trans (acts_of_inert rfl rfl rfl (by simpa using inert))

/-! ## The functions of the tester -/

theorem effects_kill_test {metrics : Bool} {held held' : Holdings} {trace : List Observation}
    {proc : TesterProcess} (slot : proc.pending = held.testPid)
    (rest : Effects metrics { held with testPid := none } trace held') :
    Effects metrics held ((interfaceTesterKillProcess proc).2 ++ trace) held' := by
  cases pending : proc.pending with
  | none =>
      rw [pending] at slot
      rw [interfaceTesterKillProcess_of_idle pending]
      have same : { held with testPid := none } = held := by rw [slot]
      exact same ▸ rest
  | some pid =>
      rw [pending] at slot
      rw [interfaceTesterKillProcess_of_running pending]
      exact .testKilled slot.symm rest

theorem effects_kill_recovery {metrics : Bool} {held held' : Holdings} {trace : List Observation}
    {proc : TesterProcess} (slot : proc.pending = held.recoveryPid)
    (rest : Effects metrics { held with recoveryPid := none } trace held') :
    Effects metrics held ((interfaceTesterKillProcess proc).2 ++ trace) held' := by
  cases pending : proc.pending with
  | none =>
      rw [pending] at slot
      rw [interfaceTesterKillProcess_of_idle pending]
      have same : { held with recoveryPid := none } = held := by rw [slot]
      exact same ▸ rest
  | some pid =>
      rw [pending] at slot
      rw [interfaceTesterKillProcess_of_running pending]
      exact .recoveryKilled slot.symm rest

theorem acts_testerSleep (iface : Interface) : Acts iface (testerSleep iface) := by
  rw [testerSleep_eq]
  exact acts_of_inert rfl rfl rfl (by simp [Observation.isInert])

theorem acts_testerStop (iface : Interface) : Acts iface (testerStop iface) := by
  rw [testerStop_eq]
  refine ⟨rfl, _, rfl, .inert rfl ?_⟩
  rw [← List.append_nil (interfaceTesterKillProcess iface.tester.testProc).2]
  exact effects_kill_test rfl (.nil _)

theorem acts_runTest (idle : iface.tester.testProc.pending = none) (index : ℕ) (launch : Launch) :
    Acts iface (runTest iface index launch).2 := by
  cases outcome : launch.succeeds with
  | false =>
      obtain ⟨cb, ran⟩ := runTest_of_failed outcome iface index idle
      rw [ran]
      refine acts_of_inert rfl rfl ?_ (by simp [Observation.isInert, outcome])
      simp [Interface.holdings, idle]
  | true =>
      obtain ⟨memory, forked⟩ : launch.asprintf = true ∧ launch.fork.isSome = true := by
        simpa [Launch.succeeds] using outcome
      obtain ⟨pid, forked⟩ := Option.isSome_iff_exists.mp forked
      rw [runTest_of_fork memory forked, interfaceTesterKillProcess_of_idle idle, List.append_nil]
      exact ⟨rfl, _, rfl, .testStarted memory forked idle (.inert rfl (.nil _))⟩

theorem acts_testerStartConnected (idle : iface.tester.testProc.pending = none)
    (launch : Launch) : Acts iface (testerStartConnected iface launch) := by
  have entered : Acts iface { testerStateTransition iface .testing with tester.testIndex := 0 } :=
    acts_of_inert rfl rfl rfl (by simp [Observation.isInert])
  exact entered.trans (@acts_runTest
    { testerStateTransition iface .testing with tester.testIndex := 0 } idle 0 launch)

theorem acts_nextTest (idle : iface.tester.testProc.pending = none) (launch : Launch) :
    Acts iface (nextTest iface launch) := by
  have advanced : Acts iface { iface with tester.testIndex := iface.tester.testIndex + 1 } :=
    acts_of_silent rfl rfl rfl
  exact advanced.trans (@acts_runTest
    { iface with tester.testIndex := iface.tester.testIndex + 1 } idle _ launch)

theorem isInert_operationalMessages (ctx : InterfaceTesterShared) (up : Bool) :
    ∀ seen ∈ operationalMessages ctx up, seen.isInert = true :=
  forall_operationalMessages (fun _ => rfl) ctx up

theorem isInert_testRunMessages (ctx : InterfaceTesterShared) (passed : Bool) :
    ∀ seen ∈ testRunMessages ctx passed, seen.isInert = true := by
  unfold testRunMessages
  split <;> simp [Observation.isInert]

theorem acts_transitionToOperationalState (iface : Interface) :
    Acts iface (transitionToOperationalState iface) := by
  rw [transitionToOperationalState_eq]
  exact ⟨rfl, _, rfl, .restored (effects_of_inert (isInert_operationalMessages iface.ctx true))⟩

theorem acts_transitionToBrokenState (operational : iface.recovery.state = .operational) :
    Acts iface (transitionToBrokenState iface) := by
  rw [transitionToBrokenState_eq]
  exact ⟨rfl, _, rfl, .broke iface.config.failingTestsMetricsIncrease operational
    (effects_of_inert (isInert_operationalMessages iface.ctx false))⟩

/-! ## The end of a test run -/

theorem acts_countedRun (iface : Interface) (passed : Bool) :
    Acts iface (countedRun iface passed) := by
  refine acts_of_inert rfl rfl rfl fun seen member => ?_
  rcases List.mem_cons.mp member with rfl | message
  · rfl
  · exact isInert_testRunMessages iface.ctx passed seen message

theorem acts_brokenRun (iface : Interface) : Acts iface (brokenRun iface) := by
  unfold brokenRun
  split
  case isTrue operational =>
    exact (acts_countedRun iface false).trans (acts_transitionToBrokenState operational)
  case isFalse => exact acts_countedRun iface false

theorem acts_taskNotStarted {proc : TesterProcess} {kills : List Observation}
    (unsuccessful : launch.succeeds = false)
    (slot : proc = iface.recovery.proc ∧ kills = [] ∨
      proc.pending = none ∧ kills = (interfaceTesterKillProcess iface.recovery.proc).2) :
    Acts iface (taskNotStarted iface proc kills launch) := by
  have inert : (Observation.runRecoveryTask (nextTask iface) (recoveryExec iface (nextTask iface))
      launch).isInert = true := by simp [Observation.isInert, unsuccessful]
  refine ⟨rfl, _, List.append_assoc _ _ _, ?_⟩
  rcases slot with ⟨rfl, rfl⟩ | ⟨empty, rfl⟩
  · exact .inert inert (.nil _)
  · refine effects_kill_recovery rfl (.inert inert ?_)
    have held : (taskNotStarted iface proc (interfaceTesterKillProcess iface.recovery.proc).2
        launch).holdings = { iface.holdings with recoveryPid := none } := by
      simp [Interface.holdings, taskNotStarted, empty]
    exact held ▸ .nil _

theorem acts_taskStarted {pid : Pid} (memory : launch.asprintf = true)
    (forked : launch.fork = some pid) : Acts iface (taskStarted iface pid launch) := by
  refine ⟨rfl, _, List.append_assoc _ _ _, effects_kill_recovery rfl ?_⟩
  exact .recoveryStarted memory forked rfl (.inert rfl (.inert rfl (.nil _)))

theorem RunEnd.acts {passed : Bool} (ended : RunEnd iface launch passed t) : Acts iface t := by
  cases ended with
  | passed short => exact (acts_countedRun iface true).trans (acts_testerSleep _)
  | restored met =>
      exact ((acts_countedRun iface true).trans (acts_transitionToOperationalState _)).trans
        (acts_testerSleep _)
  | failed short => exact (acts_countedRun iface false).trans (acts_testerSleep _)
  | noTask met noTasks => exact (acts_brokenRun iface).trans (acts_testerSleep _)
  | notStarted met tasks unsuccessful proc kills slot =>
      rw [← (brokenRun_kept iface).2.1] at slot
      exact ((acts_brokenRun iface).trans (acts_taskNotStarted unsuccessful slot)).trans
        (acts_testerSleep _)
  | started met tasks pid memory forked =>
      exact (acts_brokenRun iface).trans (acts_taskStarted memory forked)

/-! ## The end of an interface -/

/-- What is seen when an interface is freed. -/
def freeTrace (iface : Interface) : List Observation :=
  (interfaceTesterKillProcess iface.recovery.proc).2 ++
    ((if iface.ctx.withMetricsAdjustment ∧ iface.recovery.metricsAreAdjusted then
        [.adjustMetrics 0] else []) ++
      .testerState .stopped :: (interfaceTesterKillProcess iface.tester.testProc).2)

theorem trace_interfaceTesterFree (iface : Interface) :
    (interfaceTesterFree iface).trace = iface.trace ++ freeTrace iface := by
  unfold interfaceTesterFree interfaceTesterCleanup freeTrace
  rw [trace_testerStop]
  by_cases adjusted : iface.ctx.withMetricsAdjustment ∧ iface.recovery.metricsAreAdjusted
  · simp [recoveryCleanup, adjusted, interfaceConnectionCleanup, settlingDelayTimerStop,
      recoveryResponseTimerStop, interfaceAdjustRouteMetrics, Interface.observe]
  · simp [recoveryCleanup, adjusted, interfaceConnectionCleanup, settlingDelayTimerStop,
      recoveryResponseTimerStop]

/-- **A freed interface holds nothing.** Its children are killed and its adjustment is
taken back. -/
theorem effects_freeTrace (iface : Interface) :
    Effects iface.ctx.withMetricsAdjustment iface.holdings (freeTrace iface)
      { testPid := none
        recoveryPid := none
        recoveryState := iface.recovery.state
        metricsAreAdjusted :=
          !iface.ctx.withMetricsAdjustment && iface.recovery.metricsAreAdjusted } := by
  refine effects_kill_recovery rfl ?_
  have stopped : ∀ held : Holdings, held.testPid = iface.tester.testProc.pending →
      Effects iface.ctx.withMetricsAdjustment held
        (.testerState .stopped :: (interfaceTesterKillProcess iface.tester.testProc).2)
        { held with testPid := none } := by
    intro held slot
    refine .inert rfl ?_
    rw [← List.append_nil (interfaceTesterKillProcess iface.tester.testProc).2]
    exact effects_kill_test slot.symm (.nil _)
  split
  case isTrue both =>
    have cleared : (!iface.ctx.withMetricsAdjustment && iface.recovery.metricsAreAdjusted) =
        false := by simp [both.1]
    rw [cleared]
    exact .handedBack both.1 both.2 (stopped _ rfl)
  case isFalse either =>
    have kept : (!iface.ctx.withMetricsAdjustment && iface.recovery.metricsAreAdjusted) =
        iface.recovery.metricsAreAdjusted := by
      cases on : iface.ctx.withMetricsAdjustment <;>
        cases adjusted : iface.recovery.metricsAreAdjusted <;> simp_all
    rw [kept]
    exact stopped _ rfl

/-! ## The moves -/

/-- The interface when `uloop` has unregistered a child that exited. -/
def reaped (iface : Interface) : Callback → Interface
  | .testProcExited _ => { iface with tester.testProc.pending := none }
  | .recoveryProcExited _ => recoveryTaskExited iface
  | _ => iface

theorem TestEnd.acts {cb : Callback} {passed : Bool} {event : TesterEvent} {ended : Interface}
    (how : TestEnd iface cb passed event ended) :
    Acts (reaped iface cb) (countTest ended passed) := by
  cases how with
  | exited status => exact acts_of_silent rfl rfl rfl
  | timedOut =>
      refine ⟨rfl, _, rfl, ?_⟩
      rw [← List.append_nil (interfaceTesterKillProcess iface.tester.testProc).2]
      exact effects_kill_test rfl (.nil _)

theorem acts_recoveryTaskKilled (iface : Interface) : Acts iface (recoveryTaskKilled iface) := by
  refine ⟨rfl, _, rfl, ?_⟩
  rw [← List.append_nil (interfaceTesterKillProcess iface.recovery.proc).2]
  exact effects_kill_recovery rfl (.nil _)

theorem acts_reconfigured (iface : Interface) (config : InterfaceConfig) :
    Acts iface (reconfigured iface config) :=
  (acts_testerStop iface).trans (acts_of_silent rfl rfl rfl)

/-- **What every callback does to the children and to the metrics.** -/
theorem Move.acts {cb : Callback} (coherent : Coherent iface) (move : Move iface launch cb t) :
    Acts (reaped iface cb) t := by
  cases move with
  | ifupArms down =>
      exact acts_of_inert rfl (List.append_assoc _ _ _) rfl (by simp [Observation.isInert])
  | ifupRedundant up => exact .refl
  | ifdownRedundant down => exact .refl
  | ifdownSettling settling => exact acts_of_inert rfl rfl rfl (by simp [Observation.isInert])
  | ifdownConnected up live =>
      have lost : Acts iface { connectionLost iface with
          tester.starter := .testerStartDisconnected } :=
        acts_of_inert rfl rfl rfl (by simp [Observation.isInert])
      exact (lost.trans (acts_testerStop _)).observe rfl
  | settled settling stopped =>
      have entered : Acts iface (connectionSettled iface) :=
        acts_of_inert rfl rfl rfl (by simp [Observation.isInert])
      have idle := (coherent.idle_settled stopped).testProc
      exact (entered.trans (acts_testerStartConnected idle launch)).observe rfl
  | intervalElapsed sleeping =>
      have woken : Acts iface (testerIntervalTimerStop iface) := acts_of_silent rfl rfl rfl
      have idle := (coherent.idle_woken sleeping).testProc
      exact (woken.trans (acts_testerStartConnected idle launch)).observe rfl
  | requested sleeping =>
      have woken : Acts iface (testerIntervalTimerStop iface) := acts_of_silent rfl rfl rfl
      have idle := (coherent.idle_woken sleeping).testProc
      exact (woken.trans (acts_testerStartConnected idle launch)).observe rfl
  | requestIgnored awake => exact Acts.refl.observe rfl
  | @testEndsNext _ passed event ended testing running how more =>
      have idle := ((coherent.idle_testEnd testing how).countTest passed).testProc
      exact (how.acts.trans (acts_nextTest idle launch)).observe rfl
  | @testEndsRun _ passed event ended testing running how isOver =>
      have ended := interfaceTestRunCompleted_runEnd (how.testing testing) passed launch
      exact (how.acts.trans ended.acts).observe rfl
  | recoveryEnded status recovering =>
      have stopped : Acts (recoveryTaskExited iface)
          (recoveryResponseTimerStop (recoveryTaskExited iface)) := acts_of_silent rfl rfl rfl
      exact (stopped.trans (acts_testerSleep _)).observe rfl
  | recoveryEndIgnored status elsewhere => exact Acts.refl.observe rfl
  | recoveryTimedOut recovering =>
      exact ((acts_recoveryTaskKilled iface).trans (acts_testerSleep _)).observe rfl
  | recoveryTimeoutIgnored elsewhere =>
      have stopped : Acts iface (recoveryResponseTimerStop iface) := acts_of_silent rfl rfl rfl
      exact stopped.observe rfl
  | updateUnchanged same => exact .refl
  | updateStopped stopped changed => exact acts_reconfigured iface _
  | @updateRestarted new live changed =>
      have idle := (coherent.idle_reconfigured live new).testProc
      exact (acts_reconfigured iface new.config).trans (acts_testerStartConnected idle launch)

end Parts

/-- What `interface_tester_begin` does to an interface that was allocated. -/
theorem acts_begun (ctx : InterfaceTesterShared) (name : String) (config : AcceptedConfig)
    (isConnected : Bool) (launch : Launch) :
    Acts { interfaceTesterAlloc ctx name with config := config.config }
      (begun ctx name config isConnected launch) := by
  have before : Acts { interfaceTesterAlloc ctx name with config := config.config }
      (beforeBegin ctx name config) := acts_transitionToOperationalState _
  rw [begun_eq]
  cases isConnected with
  | true =>
      exact before.trans (acts_of_inert rfl (List.append_assoc _ _ _) rfl
        (by simp [Observation.isInert]))
  | false => exact before

end IfaceTester
