import IfaceTester.Recovery

/-!
# Tests beside a recovery task

A tester leaves the recovering state when its task ends, when the interface
disconnects and when its configuration changes. `tester_stop` serves the last
two, and it leaves the process of the task alone. That is meant for a
disconnect, which the task may have caused on purpose. A changed configuration
leaves the process running as well, and starts the tests beside it.
-/

set_option autoImplicit false

namespace IfaceTester

open Runs

/-! ## What is seen of the connection since the last task -/

/-- Whether the interface has disconnected since the last recovery task was
started, after one more thing was seen. -/
def noteDisconnect (lost : Bool) : Observation → Bool
  | .runRecoveryTask _ _ launch => if launch.succeeds then false else lost
  | .connectionState .disconnected => true
  | _ => lost

/-- The interface has disconnected since the recovery task was started. -/
def disconnectedSinceRecovery (trace : List Observation) : Bool :=
  trace.foldl noteDisconnect false

/-- No test may run beside a recovery process, unless the interface has
disconnected since that process was started. -/
def Separated (iface : Interface) : Prop :=
  iface.recovery.proc.isRunning = true → iface.tester.state ≠ .recovering →
    disconnectedSinceRecovery iface.trace = true

/-- The callback replaces the configuration while a recovery task is under way. -/
def ReplacesWhileRecovering (iface : Interface) (cb : Callback) : Prop :=
  ∃ new : AcceptedConfig, cb = .configUpdate new ∧ iface.tester.state = .recovering ∧
    configChanged iface.ctx.withMetricsAdjustment iface.config new.config = true

section Steps

variable {iface t : Interface} {launch : Launch} {cb : Callback}

@[simp] theorem disconnectedSinceRecovery_append (trace seen : List Observation) :
    disconnectedSinceRecovery (trace ++ seen) =
      seen.foldl noteDisconnect (disconnectedSinceRecovery trace) := by
  simp [disconnectedSinceRecovery]

/-- A part of the trace that is about neither a disconnect nor a new task. -/
theorem noteDisconnect_of_ignored {trace : List Observation}
    (ignored : ∀ seen ∈ trace, ∀ lost, noteDisconnect lost seen = lost) (lost : Bool) :
    trace.foldl noteDisconnect lost = lost := by
  induction trace with
  | nil => rfl
  | cons seen trace ih =>
      rw [List.foldl_cons, ignored seen List.mem_cons_self]
      exact ih fun later member => ignored later (List.mem_cons_of_mem _ member)

theorem noteDisconnect_of_kills {kills : List Observation}
    (only : ∀ seen ∈ kills, ∃ pid, seen = .kill pid) (lost : Bool) :
    kills.foldl noteDisconnect lost = lost :=
  noteDisconnect_of_ignored (fun seen member => by
    obtain ⟨pid, rfl⟩ := only seen member
    exact fun _ => rfl) lost

@[simp] theorem noteDisconnect_kills (lost : Bool) (proc : TesterProcess) :
    (interfaceTesterKillProcess proc).2.foldl noteDisconnect lost = lost := by
  cases running : proc.pending with
  | none => rw [interfaceTesterKillProcess_of_idle running]; rfl
  | some pid => rw [interfaceTesterKillProcess_of_running running]; rfl

@[simp] theorem noteDisconnect_testStartTrace (lost : Bool) (iface : Interface) (index : ℕ)
    (launch : Launch) : (testStartTrace iface index launch).foldl noteDisconnect lost = lost := by
  unfold testStartTrace
  split <;> rfl

@[simp] theorem noteDisconnect_testRunMessages (lost : Bool) (ctx : InterfaceTesterShared)
    (passed : Bool) : (testRunMessages ctx passed).foldl noteDisconnect lost = lost := by
  unfold testRunMessages
  split <;> rfl

@[simp] theorem noteDisconnect_operationalTrace (lost : Bool) (ctx : InterfaceTesterShared) :
    (operationalTrace ctx).foldl noteDisconnect lost = lost :=
  noteDisconnect_of_ignored
    (forall_operationalTrace (fun _ _ => rfl) (fun _ _ => rfl) (fun _ _ => rfl) ctx) lost

@[simp] theorem noteDisconnect_breakTrace (lost : Bool) (iface : Interface) :
    (breakTrace iface).foldl noteDisconnect lost = lost :=
  noteDisconnect_of_ignored
    (forall_breakTrace (fun _ _ => rfl) (fun _ _ => rfl) (fun _ _ => rfl) iface) lost

/-! ## What a callback does -/

/-- A part of a callback leaves the recovery process alone or ends it, and
reports neither a disconnect nor a new task. -/
structure TaskKept (iface t : Interface) : Prop where
  proc : t.recovery.proc.pending = iface.recovery.proc.pending ∨ t.recovery.proc.pending = none
  lost : disconnectedSinceRecovery t.trace = disconnectedSinceRecovery iface.trace

theorem TaskKept.trans {u : Interface} (first : TaskKept iface t) (second : TaskKept t u) :
    TaskKept iface u := by
  refine ⟨?_, second.lost.trans first.lost⟩
  rcases second.proc with same | emptied
  · rw [same]
    exact first.proc
  · exact .inr emptied

theorem TaskKept.observe (kept : TaskKept iface t) {seen : Observation}
    (ignored : ∀ lost, noteDisconnect lost seen = lost) : TaskKept iface (t.observe seen) :=
  ⟨kept.proc, by simp [ignored, kept.lost]⟩

theorem taskKept_runTest (idle : iface.tester.testProc.pending = none) (index : ℕ)
    (launch : Launch) : TaskKept iface (runTest iface index launch).2 := by
  have lost : disconnectedSinceRecovery (runTest iface index launch).2.trace =
      disconnectedSinceRecovery iface.trace := by
    simp [trace_runTest idle]
  refine ⟨.inl ?_, lost⟩
  unfold runTest
  dsimp only
  split <;> rfl

theorem taskKept_testerStartConnected (idle : iface.tester.testProc.pending = none) :
    TaskKept iface (testerStartConnected iface launch) := by
  have ran := @taskKept_runTest
    { testerStateTransition iface .testing with tester.testIndex := 0 } idle 0 launch
  refine ⟨ran.proc, ran.lost.trans ?_⟩
  exact disconnectedSinceRecovery_append _ _

theorem taskKept_nextTest (idle : iface.tester.testProc.pending = none) :
    TaskKept iface (nextTest iface launch) := by
  have ran := @taskKept_runTest { iface with tester.testIndex := iface.tester.testIndex + 1 }
    idle (iface.tester.testIndex + 1) launch
  exact ⟨ran.proc, ran.lost⟩

theorem taskKept_testerSleep (iface : Interface) : TaskKept iface (testerSleep iface) := by
  rw [testerSleep_eq]
  exact ⟨.inl rfl, by simp [noteDisconnect]⟩

theorem taskKept_reconfigured (iface : Interface) (new : InterfaceConfig) :
    TaskKept iface (reconfigured iface new) := by
  unfold reconfigured
  rw [testerStop_eq]
  exact ⟨.inl rfl, by simp [noteDisconnect]⟩

theorem taskKept_testEnd {passed : Bool} {event : TesterEvent} {ended : Interface}
    (how : TestEnd iface cb passed event ended) : TaskKept iface (countTest ended passed) := by
  obtain ⟨kills, added, only⟩ := trace_testEnd how
  have trace : (countTest ended passed).trace = iface.trace ++ kills := added
  have lost : disconnectedSinceRecovery (countTest ended passed).trace =
      disconnectedSinceRecovery iface.trace := by
    rw [trace, disconnectedSinceRecovery_append, noteDisconnect_of_kills only]
  cases how with
  | exited status => exact ⟨.inl rfl, lost⟩
  | timedOut => exact ⟨.inl rfl, lost⟩

theorem state_testerStartConnected (iface : Interface) (launch : Launch) :
    (testerStartConnected iface launch).tester.state = .testing := by
  unfold testerStartConnected runTest
  dsimp only
  split <;> rfl

theorem recoveryProc_testerStartConnected (iface : Interface) (launch : Launch) :
    (testerStartConnected iface launch).recovery.proc = iface.recovery.proc := by
  unfold testerStartConnected runTest
  dsimp only
  split <;> rfl

theorem state_nextTest (iface : Interface) (launch : Launch) :
    (nextTest iface launch).tester.state = iface.tester.state := by
  unfold nextTest runTest
  dsimp only
  split <;> rfl

/-- The end of a test run starts a task, or the tester sleeps. -/
theorem RunEnd.overlap {passed : Bool} (ended : RunEnd iface launch passed t) :
    (TaskKept iface t ∧ t.tester.state = .sleeping) ∨
      (disconnectedSinceRecovery t.trace = false ∧ t.tester.state = .recovering) := by
  have counted : ∀ passed, TaskKept iface (countedRun iface passed) := fun passed =>
    ⟨.inl rfl, by simp [countedRun, reportedRun, noteDisconnect]⟩
  have restored : TaskKept iface (transitionToOperationalState (countedRun iface true)) := by
    have lost := (counted true).lost
    rw [transitionToOperationalState_eq]
    exact ⟨.inl rfl, by simp [lost]⟩
  have brokenRun : TaskKept iface (IfaceTester.brokenRun iface) := by
    refine ⟨.inl (congrArg _ (brokenRun_kept iface).2.1), ?_⟩
    simp [trace_brokenRun, noteDisconnect]
  have asleep : ∀ {before : Interface}, TaskKept iface before →
      TaskKept iface (testerSleep before) ∧ (testerSleep before).tester.state = .sleeping := by
    intro before kept
    exact ⟨kept.trans (taskKept_testerSleep before), by rw [testerSleep_eq]⟩
  cases ended with
  | passed short => exact .inl (asleep (counted true))
  | restored met => exact .inl (asleep restored)
  | failed short => exact .inl (asleep (counted false))
  | noTask met noTasks => exact .inl (asleep brokenRun)
  | notStarted met tasks unsuccessful proc kills slot =>
      refine .inl (asleep (brokenRun.trans ⟨?_, ?_⟩))
      · rcases slot with ⟨same, -⟩ | ⟨empty, -⟩
        · left
          rw [(brokenRun_kept iface).2.1, ← same]
          rfl
        · exact .inr empty
      · rcases slot with ⟨-, rfl⟩ | ⟨-, rfl⟩ <;>
          simp [taskNotStarted, noteDisconnect, unsuccessful]
  | started met tasks pid memory forked =>
      have succeeds : launch.succeeds = true := by simp [Launch.succeeds, memory, forked]
      exact .inr ⟨by simp [taskStarted, noteDisconnect, succeeds], rfl⟩

/-- What a callback does to a recovery process and to what sets it apart. -/
inductive OverlapMove (iface t : Interface) : Callback → Prop where
  | kept (cb : Callback) (kept : TaskKept iface t)
      (state : t.tester.state = .recovering ↔ iface.tester.state = .recovering) :
      OverlapMove iface t cb
  | started (cb : Callback) (state : t.tester.state = .recovering)
      (lost : disconnectedSinceRecovery t.trace = false) : OverlapMove iface t cb
  | disconnected (state : t.tester.state ≠ .recovering)
      (lost : disconnectedSinceRecovery t.trace = true) : OverlapMove iface t .ifdown
  | ended (cb : Callback) (proc : t.recovery.proc.pending = none)
      (state : t.tester.state ≠ .recovering) : OverlapMove iface t cb
  | replaced (new : AcceptedConfig) (recovering : iface.tester.state = .recovering)
      (changed : configChanged iface.ctx.withMetricsAdjustment iface.config new.config = true)
      (proc : t.recovery.proc.pending = iface.recovery.proc.pending)
      (state : t.tester.state ≠ .recovering)
      (lost : disconnectedSinceRecovery t.trace = disconnectedSinceRecovery iface.trace) :
      OverlapMove iface t (.configUpdate new)

/-- A move between two states that are not the recovering one. -/
theorem OverlapMove.elsewhere (kept : TaskKept iface t) (before : iface.tester.state ≠ .recovering)
    (after : t.tester.state ≠ .recovering) : OverlapMove iface t cb :=
  .kept cb kept ⟨fun recovering => absurd recovering after,
    fun recovering => absurd recovering before⟩

/-- **What a callback does to a recovery process** is one of the listed moves. -/
theorem Move.overlapMove (coherent : Coherent iface) (move : Move iface launch cb t) :
    OverlapMove iface t cb := by
  cases move with
  | ifupArms down =>
      exact .kept _ ⟨.inl rfl, by
        simp [connectionStateTransition, settlingDelayTimerStart, noteDisconnect]⟩ Iff.rfl
  | ifupRedundant up => exact .kept _ ⟨.inl rfl, rfl⟩ Iff.rfl
  | ifdownRedundant down => exact .kept _ ⟨.inl rfl, rfl⟩ Iff.rfl
  | ifdownSettling settling =>
      have stopped := coherent.stopped_of_down (by simp [settling])
      refine .disconnected ?_ ?_
      · rw [show (connectionLost iface).tester.state = iface.tester.state from rfl, stopped]
        simp
      · simp [connectionLost, settlingDelayTimerStop, connectionStateTransition, noteDisconnect]
  | ifdownConnected up live =>
      unfold testerDisconnectedHandler
      rw [testerStop_eq]
      refine .disconnected (by simp [Interface.observe]) ?_
      simp [connectionLost, settlingDelayTimerStop, connectionStateTransition, noteDisconnect]
  | settled settling stopped =>
      have settled : TaskKept iface (connectionSettled iface) := ⟨.inl rfl, by
        simp [connectionSettled, testerInitialisePerConnectionStatistics, settlingDelayTimerStop,
          connectionStateTransition, noteDisconnect]⟩
      have started := @taskKept_testerStartConnected _ launch
        (coherent.idle_settled stopped).testProc
      refine .elsewhere ((settled.trans started).observe fun _ => rfl) (by simp [stopped]) ?_
      simp [Interface.observe, state_testerStartConnected]
  | intervalElapsed sleeping =>
      have woken : TaskKept iface (testerIntervalTimerStop iface) := ⟨.inl rfl, rfl⟩
      have started := @taskKept_testerStartConnected _ launch
        (coherent.idle_woken sleeping).testProc
      refine .elsewhere ((woken.trans started).observe fun _ => rfl) (by simp [sleeping]) ?_
      simp [Interface.observe, state_testerStartConnected]
  | requested sleeping =>
      have woken : TaskKept iface (testerIntervalTimerStop iface) := ⟨.inl rfl, rfl⟩
      have started := @taskKept_testerStartConnected _ launch
        (coherent.idle_woken sleeping).testProc
      refine .elsewhere ((woken.trans started).observe fun _ => rfl) (by simp [sleeping]) ?_
      simp [Interface.observe, state_testerStartConnected]
  | requestIgnored awake =>
      exact .kept _ (TaskKept.observe ⟨.inl rfl, rfl⟩ fun _ => rfl) Iff.rfl
  | @testEndsNext _ passed event ended testing running how more =>
      have idle := ((coherent.idle_testEnd testing how).countTest passed).testProc
      have next := (taskKept_testEnd how).trans (@taskKept_nextTest _ launch idle)
      refine .elsewhere (next.observe fun _ => rfl) (by simp [testing]) ?_
      simp [Interface.observe, state_nextTest, how.testing testing]
  | @testEndsRun _ passed event ended testing running how isOver =>
      have counted := taskKept_testEnd how
      have completed := interfaceTestRunCompleted_runEnd (how.testing testing) passed launch
      rcases completed.overlap with ⟨kept, asleep⟩ | ⟨lost, recovering⟩
      · refine .elsewhere ((counted.trans kept).observe fun _ => rfl) (by simp [testing]) ?_
        simp [Interface.observe, asleep]
      · refine .started _ recovering ?_
        simp [lost, noteDisconnect]
  | recoveryEnded status recovering =>
      rw [testerSleep_eq]
      exact .ended _ rfl (by simp [Interface.observe])
  | recoveryEndIgnored status elsewhere => exact .ended _ rfl elsewhere
  | recoveryTimedOut recovering =>
      rw [testerSleep_eq]
      exact .ended _ rfl (by simp [Interface.observe])
  | recoveryTimeoutIgnored elsewhere =>
      have stopped : TaskKept iface (recoveryResponseTimerStop iface) := ⟨.inl rfl, rfl⟩
      exact .kept _ (stopped.observe fun _ => rfl) Iff.rfl
  | updateUnchanged same => exact .kept _ ⟨.inl rfl, rfl⟩ Iff.rfl
  | @updateStopped new stopped changed =>
      refine .elsewhere (taskKept_reconfigured iface new.config) (by simp [stopped]) ?_
      unfold reconfigured
      rw [testerStop_eq]
      simp
  | @updateRestarted new live changed =>
      have idle := (coherent.idle_reconfigured live new).testProc
      have kept := (taskKept_reconfigured iface new.config).trans
        (@taskKept_testerStartConnected _ launch idle)
      have testing := state_testerStartConnected (reconfigured iface new.config) launch
      by_cases recovering : iface.tester.state = .recovering
      · have proc := recoveryProc_testerStartConnected (reconfigured iface new.config) launch
        exact .replaced new recovering changed (congrArg _ proc) (by simp [testing]) kept.lost
      · exact .elsewhere kept recovering (by simp [testing])

/-- While a task is under way, the interface has not disconnected since it was
started. -/
theorem OverlapMove.recovering (move : OverlapMove iface t cb)
    (before : iface.tester.state = .recovering → disconnectedSinceRecovery iface.trace = false)
    (recovering : t.tester.state = .recovering) : disconnectedSinceRecovery t.trace = false := by
  cases move with
  | kept _ kept state => rw [kept.lost, before (state.mp recovering)]
  | started _ state lost => exact lost
  | disconnected state lost => exact absurd recovering state
  | ended _ proc state => exact absurd recovering state
  | replaced new was changed proc state lost => exact absurd recovering state

/-- A callback keeps the tests apart from a recovery process, unless it replaces
the configuration under a task. -/
theorem OverlapMove.separated (move : OverlapMove iface t cb) (before : Separated iface)
    (keeps : ¬ ReplacesWhileRecovering iface cb) : Separated t := by
  intro running elsewhere
  have occupied : t.recovery.proc.pending ≠ none := by
    intro emptied
    simp [TesterProcess.isRunning, emptied] at running
  cases move with
  | kept _ kept state =>
      rw [kept.lost]
      refine before ?_ (fun recovering => elsewhere (state.mpr recovering))
      rcases kept.proc with same | emptied
      · rw [TesterProcess.isRunning, ← same]
        exact running
      · exact absurd emptied occupied
  | started _ state lost => exact absurd state elsewhere
  | disconnected state lost => exact lost
  | ended _ proc state => exact absurd proc occupied
  | replaced new recovering changed proc state lost =>
      exact absurd ⟨new, rfl, recovering, changed⟩ keeps

/-- **A replaced configuration lets the tests run beside the task.** -/
theorem Move.not_separated (coherent : Coherent iface) (move : Move iface launch cb t)
    (before : iface.tester.state = .recovering → disconnectedSinceRecovery iface.trace = false)
    (replaces : ReplacesWhileRecovering iface cb) : ¬ Separated t := by
  obtain ⟨new, rfl, recovering, changed⟩ := replaces
  intro separated
  cases move with
  | testEndsNext testing => simp [testing] at recovering
  | testEndsRun testing => simp [testing] at recovering
  | updateUnchanged same => simp [same] at changed
  | updateStopped stopped => simp [stopped] at recovering
  | updateRestarted live =>
      have idle := (coherent.idle_reconfigured live new).testProc
      have lost := ((taskKept_reconfigured iface new.config).trans
        (@taskKept_testerStartConnected _ launch idle)).lost
      have running := (coherent.recovering recovering).1
      rw [before recovering, separated ?_ ?_] at lost
      · cases lost
      · rw [recoveryProc_testerStartConnected]
        exact running
      · rw [state_testerStartConnected]
        simp

end Steps

/-! ## Runs -/

section Runs

variable {ctx : InterfaceTesterShared} {name : String} {config : AcceptedConfig}
variable {isConnected : Bool} {launch : Launch} {inputs : List Input} {t : Interface}

/-- While a task is under way, the interface has not disconnected since it was
started. -/
theorem connected_while_recovering
    (visited : Visits step (begun ctx name config isConnected launch) inputs t)
    (recovering : t.tester.state = .recovering) : disconnectedSinceRecovery t.trace = false := by
  refine visits_of_invariant (I := fun iface => iface.tester.state = .recovering →
    disconnectedSinceRecovery iface.trace = false) ?_ ?_ visited recovering
  · rintro s ⟨cb, answer⟩ u taken before
    have coherent := coherent_of_visits taken.source
    exact ((step_move coherent taken.step_eq).overlapMove coherent).recovering before
  · intro recovering
    have down := down_begun ctx name config isConnected launch
    have stopped := (@coherent_begun ctx name config isConnected launch).stopped_of_down down
    rw [stopped] at recovering
    cases recovering

theorem separated_begun (ctx : InterfaceTesterShared) (name : String) (config : AcceptedConfig)
    (isConnected : Bool) (launch : Launch) :
    Separated (begun ctx name config isConnected launch) := by
  intro running
  rw [TesterProcess.isRunning, (recoveriesSeen_begun ctx name config isConnected launch).2]
    at running
  cases running

/-- **Tests stay apart from a recovery task exactly in the runs that replace no
configuration under a task.** In every other run there is a state in which a
recovery process is running, the tester is not recovering, and the interface
has not disconnected since that process was started. -/
theorem tests_apart_from_recovery_iff :
    (∀ t, Visits step (begun ctx name config isConnected launch) inputs t → Separated t) ↔
      ∀ s cb answer t, Takes step (begun ctx name config isConnected launch) inputs s
        (cb, answer) t → ¬ ReplacesWhileRecovering s cb := by
  constructor
  · intro separated s cb answer t taken replaces
    have coherent := coherent_of_visits taken.source
    exact (step_move coherent taken.step_eq).not_separated coherent
      (connected_while_recovering taken.source) replaces (separated t taken.target)
  · intro keeps t visited
    refine visits_of_invariant (I := Separated) ?_
      (separated_begun ctx name config isConnected launch) visited
    rintro s ⟨cb, answer⟩ u taken before
    have coherent := coherent_of_visits taken.source
    exact ((step_move coherent taken.step_eq).overlapMove coherent).separated before
      (keeps s cb answer u taken)

end Runs

/-- A recovery task is started, and the configuration is then replaced by one
without recovery tasks. -/
def reconfiguredRecovery : List Input :=
  [(.settlingDelayTimerExpired, .forked 7), (.testProcExited 256, .forked 20),
    (.configUpdate (eagerConfig []), .forked 8)]

theorem not_tests_apart_from_recovery :
    ¬ ∀ ctx name config isConnected launch inputs t,
      Visits step (begun ctx name config isConnected launch) inputs t → Separated t := by
  intro separated
  have runs : (run step (begun connectedShared "wan"
      (eagerConfig [plainTask "renew"]) true .refused) reconfiguredRecovery).map
      (fun t => (t.recovery.proc.isRunning, decide (t.tester.state = .recovering),
        disconnectedSinceRecovery t.trace)) = some (true, false, false) := by decide +kernel
  obtain ⟨t, reached, facts⟩ := Option.map_eq_some_iff.mp runs
  simp only [Prod.mk.injEq, decide_eq_false_iff_not] at facts
  obtain ⟨running, elsewhere, lost⟩ := facts
  have apart := separated _ _ _ _ _ _ t (visits_last reached) running elsewhere
  rw [lost] at apart
  exact Bool.false_ne_true apart

end IfaceTester
