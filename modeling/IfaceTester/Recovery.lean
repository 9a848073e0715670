import IfaceTester.Observations

/-!
# Recovery tasks and their timer

A recovery task may outlive the recovering state, and so may its timer. They
share one process slot and one timer with the tasks that come later. What
matters about them is seen in the trace: the tasks that were started, the
arming of the timer, the phases that were entered, and the expiry of the timer
with the state it met. `RecoveryMove` lists what a callback can do to them.
-/

set_option autoImplicit false

namespace IfaceTester

open Runs

/-! ## What is seen of the recovery tasks -/

/-- What is seen of a recovery task. -/
inductive RecoverySeen where
  | started (pid : Pid)
  | timerArmed
  | phaseEntered
  | timedOut (state : TesterState)
deriving DecidableEq

/-- The part of an observation that belongs to the recovery tasks. -/
def Observation.recoverySeen? : Observation → Option RecoverySeen
  | .runRecoveryTask _ _ launch => if launch.asprintf then launch.fork.map .started else none
  | .timerSet .recoveryTask _ => some .timerArmed
  | .testerState .recovering => some .phaseEntered
  | .testerEvent .recoveryTaskTimedOut state _ => some (.timedOut state)
  | _ => none

/-- What has been seen of the recovery tasks, oldest first. -/
def recoveriesSeen (trace : List Observation) : List RecoverySeen :=
  trace.filterMap Observation.recoverySeen?

@[simp] theorem recoveriesSeen_append (trace seen : List Observation) :
    recoveriesSeen (trace ++ seen) = recoveriesSeen trace ++ recoveriesSeen seen := by
  simp [recoveriesSeen]

@[simp] theorem recoveriesSeen_cons (seen : Observation) (trace : List Observation) :
    recoveriesSeen (seen :: trace) = seen.recoverySeen?.toList ++ recoveriesSeen trace := by
  cases h : seen.recoverySeen? <;> simp [recoveriesSeen, h]

@[simp] theorem recoveriesSeen_nil : recoveriesSeen [] = [] := rfl

@[simp] theorem recoveriesSeen_kills (proc : TesterProcess) :
    recoveriesSeen (interfaceTesterKillProcess proc).2 = [] := filterMap_kills (fun _ => rfl) proc

@[simp] theorem recoveriesSeen_testStartTrace (iface : Interface) (index : ℕ) (launch : Launch) :
    recoveriesSeen (testStartTrace iface index launch) = [] :=
  filterMap_testStartTrace (fun _ _ _ => rfl) (fun _ => rfl) iface index launch

@[simp] theorem recoveriesSeen_testRunMessages (ctx : InterfaceTesterShared) (passed : Bool) :
    recoveriesSeen (testRunMessages ctx passed) = [] :=
  filterMap_testRunMessages (fun _ => rfl) ctx passed

section Moves

variable {iface t : Interface} {launch : Launch} {cb : Callback}

/-- An attempt that fails is not seen as a start. -/
theorem recoverySeen_of_failed (failed : launch.succeeds = false) (index : ℕ) (exec : Exec) :
    (Observation.runRecoveryTask index exec launch).recoverySeen? = none := by
  rcases launch with ⟨_ | _, _ | pid⟩ <;> first | rfl | cases failed

/-- The slot, the timer and the state, as far as the recovery tasks go. -/
structure RecoveryKept (iface t : Interface) : Prop where
  proc : t.recovery.proc.pending = iface.recovery.proc.pending ∨ t.recovery.proc.pending = none
  timer : t.recovery.responseTimeoutTimer = iface.recovery.responseTimeoutTimer
  state : t.tester.state ≠ .recovering ∨ t.tester.state = iface.tester.state
  seen : recoveriesSeen t.trace = recoveriesSeen iface.trace

/-- What a callback does to the recovery tasks. -/
inductive RecoveryMove (iface t : Interface) : Callback → Prop where
  | kept (cb : Callback) (kept : RecoveryKept iface t) : RecoveryMove iface t cb
  | started (cb : Callback) (pid : Pid) (proc : t.recovery.proc.pending = some pid)
      (timer : timerIsRunning t.recovery.responseTimeoutTimer = true)
      (state : t.tester.state = .recovering)
      (seen : recoveriesSeen t.trace =
        recoveriesSeen iface.trace ++ [.started pid, .timerArmed, .phaseEntered]) :
      RecoveryMove iface t cb
  | exited (status : Int32) (proc : t.recovery.proc.pending = none)
      (state : t.tester.state ≠ .recovering)
      (seen : recoveriesSeen t.trace = recoveriesSeen iface.trace) :
      RecoveryMove iface t (.recoveryProcExited status)
  | timedOut (recovering : iface.tester.state = .recovering)
      (proc : t.recovery.proc.pending = none) (state : t.tester.state ≠ .recovering)
      (seen : recoveriesSeen t.trace = recoveriesSeen iface.trace ++ [.timedOut .recovering]) :
      RecoveryMove iface t .recoveryTaskTimerExpired
  | timeoutIgnored (elsewhere : iface.tester.state ≠ .recovering)
      (proc : t.recovery.proc = iface.recovery.proc) (state : t.tester.state = iface.tester.state)
      (seen : recoveriesSeen t.trace =
        recoveriesSeen iface.trace ++ [.timedOut iface.tester.state]) :
      RecoveryMove iface t .recoveryTaskTimerExpired

/-! ## The parts of a move -/

theorem recoveryKept_runTest (idle : iface.tester.testProc.pending = none) (index : ℕ)
    (launch : Launch) :
    RecoveryKept iface (runTest iface index launch).2 := by
  have seen : recoveriesSeen (runTest iface index launch).2.trace = recoveriesSeen iface.trace := by
    rw [trace_runTest idle, recoveriesSeen_append, recoveriesSeen_testStartTrace, List.append_nil]
  unfold runTest at seen ⊢
  dsimp only at seen ⊢
  split
  · rw [if_pos (by assumption)] at seen
    exact ⟨.inl rfl, rfl, .inr rfl, seen⟩
  · rw [if_neg (by assumption)] at seen
    exact ⟨.inl rfl, rfl, .inr rfl, seen⟩

theorem recoveryKept_testerStartConnected (idle : iface.tester.testProc.pending = none) :
    RecoveryKept iface (testerStartConnected iface launch) := by
  have ran := @recoveryKept_runTest
    { testerStateTransition iface .testing with tester.testIndex := 0 } idle 0 launch
  refine ⟨ran.proc, ran.timer, .inl ?_, ran.seen.trans ?_⟩
  · rcases ran.state with other | same
    · exact other
    · intro recovering
      cases same.symm.trans recovering
  · exact (recoveriesSeen_append _ _).trans (List.append_nil _)

theorem recoveryKept_nextTest (idle : iface.tester.testProc.pending = none) :
    RecoveryKept iface (nextTest iface launch) := by
  have ran := @recoveryKept_runTest { iface with tester.testIndex := iface.tester.testIndex + 1 }
    idle (iface.tester.testIndex + 1) launch
  exact ⟨ran.proc, ran.timer, ran.state, ran.seen⟩

theorem RecoveryKept.trans {u : Interface} (first : RecoveryKept iface t)
    (second : RecoveryKept t u) : RecoveryKept iface u := by
  refine ⟨?_, second.timer.trans first.timer, ?_, second.seen.trans first.seen⟩
  · rcases second.proc with same | emptied
    · rw [same]
      exact first.proc
    · exact .inr emptied
  · rcases second.state with other | same
    · exact .inl other
    · rw [same]
      exact first.state

theorem recoveryKept_testerSleep (iface : Interface) : RecoveryKept iface (testerSleep iface) := by
  refine ⟨.inl ?_, ?_, .inl ?_, ?_⟩
  · rw [testerSleep_eq]
  · rw [testerSleep_eq]
  · rw [testerSleep_eq]
    intro recovering
    cases recovering
  · rw [trace_testerSleep, recoveriesSeen_append]
    exact List.append_nil _

/-- The end of a test run starts a task, or leaves the tasks as they are. -/
theorem RunEnd.recovery {passed : Bool} (ended : RunEnd iface launch passed t) :
    RecoveryKept iface t ∨ ∃ pid, t.recovery.proc.pending = some pid ∧
      timerIsRunning t.recovery.responseTimeoutTimer = true ∧ t.tester.state = .recovering ∧
      recoveriesSeen t.trace =
        recoveriesSeen iface.trace ++ [.started pid, .timerArmed, .phaseEntered] := by
  have operational : recoveriesSeen (operationalTrace iface.ctx) = [] :=
    filterMap_operationalTrace (fun _ => rfl) (fun _ => rfl) (fun _ => rfl) iface.ctx
  have broken : recoveriesSeen (breakTrace iface) = [] :=
    filterMap_breakTrace (fun _ => rfl) (fun _ => rfl) (fun _ => rfl) iface
  have counted : ∀ passed, RecoveryKept iface (countedRun iface passed) := fun passed =>
    ⟨.inl rfl, rfl, .inr rfl, by simp [countedRun, reportedRun, Observation.recoverySeen?]⟩
  have restored : RecoveryKept iface (transitionToOperationalState (countedRun iface true)) := by
    have seen := (counted true).seen
    rw [transitionToOperationalState_eq]
    exact ⟨.inl rfl, rfl, .inr rfl, by
      rw [recoveriesSeen_append, seen]
      exact (congrArg _ operational).trans (List.append_nil _)⟩
  have brokenRun : RecoveryKept iface (IfaceTester.brokenRun iface) := by
    obtain ⟨tester, proc, timer, -⟩ := brokenRun_kept iface
    have state : (IfaceTester.brokenRun iface).tester.state = iface.tester.state := by
      rw [tester]
      rfl
    refine ⟨.inl (congrArg _ proc), timer, .inr state, ?_⟩
    rw [trace_brokenRun, recoveriesSeen_append]
    simp [broken, Observation.recoverySeen?]
  cases ended with
  | passed short => exact .inl ((counted true).trans (recoveryKept_testerSleep _))
  | restored met => exact .inl (restored.trans (recoveryKept_testerSleep _))
  | failed short => exact .inl ((counted false).trans (recoveryKept_testerSleep _))
  | noTask met noTasks => exact .inl (brokenRun.trans (recoveryKept_testerSleep _))
  | notStarted met tasks unsuccessful proc kills slot =>
      have quiet : recoveriesSeen kills = [] := by
        rcases slot with ⟨-, rfl⟩ | ⟨-, rfl⟩ <;> simp
      have failed : RecoveryKept (IfaceTester.brokenRun iface)
          (taskNotStarted (IfaceTester.brokenRun iface) proc kills launch) := by
        refine ⟨?_, rfl, .inr rfl, ?_⟩
        · rcases slot with ⟨same, -⟩ | ⟨empty, -⟩
          · left
            rw [(brokenRun_kept iface).2.1, ← same]
            rfl
          · exact .inr empty
        · simp [taskNotStarted, quiet, recoverySeen_of_failed unsuccessful]
      exact .inl ((brokenRun.trans failed).trans (recoveryKept_testerSleep _))
  | started met tasks pid memory forked =>
      refine .inr ⟨pid, rfl, rfl, rfl, ?_⟩
      simp [taskStarted, brokenRun.seen, Observation.recoverySeen?, memory, forked]

theorem recoveryKept_reconfigured (iface : Interface) (new : InterfaceConfig) :
    RecoveryKept iface (reconfigured iface new) := by
  unfold reconfigured
  rw [testerStop_eq]
  refine ⟨.inl rfl, rfl, .inl ?_, ?_⟩
  · intro recovering
    cases recovering
  · simp [Observation.recoverySeen?]

theorem recoveryKept_testEnd {passed : Bool} {event : TesterEvent} {ended : Interface}
    (how : TestEnd iface cb passed event ended) : RecoveryKept iface (countTest ended passed) := by
  obtain ⟨kills, added, only⟩ := trace_testEnd how
  have quiet : recoveriesSeen kills = [] := filterMap_of_kills (fun _ => rfl) only
  have trace : (countTest ended passed).trace = ended.trace := rfl
  have seen : recoveriesSeen (countTest ended passed).trace = recoveriesSeen iface.trace := by
    rw [trace, added, recoveriesSeen_append, quiet, List.append_nil]
  cases how with
  | exited status => exact ⟨.inl rfl, rfl, .inr rfl, seen⟩
  | timedOut => exact ⟨.inl rfl, rfl, .inr rfl, seen⟩

theorem RecoveryKept.observe (kept : RecoveryKept iface t) {seen : Observation}
    (ignored : seen.recoverySeen? = none) : RecoveryKept iface (t.observe seen) :=
  ⟨kept.proc, kept.timer, kept.state, by
    rw [trace_observe, recoveriesSeen_append, kept.seen, recoveriesSeen_cons, ignored]
    exact List.append_nil _⟩

/-- The event of a test is none of the recovery tasks. -/
theorem TestEnd.recoverySeen {passed : Bool} {event : TesterEvent} {ended : Interface}
    (how : TestEnd iface cb passed event ended) :
    (Observation.testerEvent event .testing true).recoverySeen? = none := by
  cases how with
  | exited status => cases getTestResultFromExitStatus status <;> rfl
  | timedOut => rfl

/-- **What a callback does to the recovery tasks** is one of the listed moves. -/
theorem Move.recoveryMove (coherent : Coherent iface) (move : Move iface launch cb t) :
    RecoveryMove iface t cb := by
  cases move with
  | ifupArms down =>
      exact .kept _ ⟨.inl rfl, rfl, .inr rfl, by
        simp [connectionStateTransition, settlingDelayTimerStart, Observation.recoverySeen?]⟩
  | ifupRedundant up => exact .kept _ ⟨.inl rfl, rfl, .inr rfl, rfl⟩
  | ifdownRedundant down => exact .kept _ ⟨.inl rfl, rfl, .inr rfl, rfl⟩
  | ifdownSettling settling =>
      exact .kept _ ⟨.inl rfl, rfl, .inr rfl, by
        simp [connectionLost, settlingDelayTimerStop, connectionStateTransition,
          Observation.recoverySeen?]⟩
  | ifdownConnected up live =>
      refine .kept _ (RecoveryKept.observe ?_ rfl)
      unfold testerDisconnectedHandler
      rw [testerStop_eq]
      refine ⟨.inl rfl, rfl, .inl ?_, ?_⟩
      · intro recovering
        cases recovering
      · simp [connectionLost, settlingDelayTimerStop, connectionStateTransition,
          Observation.recoverySeen?]
  | settled settling stopped =>
      have settled : RecoveryKept iface (connectionSettled iface) :=
        ⟨.inl rfl, rfl, .inr rfl, by
          simp [connectionSettled, testerInitialisePerConnectionStatistics, settlingDelayTimerStop,
            connectionStateTransition, Observation.recoverySeen?]⟩
      exact .kept _ ((settled.trans (recoveryKept_testerStartConnected
        (coherent.idle_settled stopped).testProc)).observe rfl)
  | intervalElapsed sleeping =>
      have woken : RecoveryKept iface (testerIntervalTimerStop iface) :=
        ⟨.inl rfl, rfl, .inr rfl, rfl⟩
      exact .kept _ ((woken.trans (recoveryKept_testerStartConnected
        (coherent.idle_woken sleeping).testProc)).observe rfl)
  | requested sleeping =>
      have woken : RecoveryKept iface (testerIntervalTimerStop iface) :=
        ⟨.inl rfl, rfl, .inr rfl, rfl⟩
      exact .kept _ ((woken.trans (recoveryKept_testerStartConnected
        (coherent.idle_woken sleeping).testProc)).observe rfl)
  | requestIgnored awake =>
      exact .kept _ (RecoveryKept.observe ⟨.inl rfl, rfl, .inr rfl, rfl⟩ rfl)
  | @testEndsNext _ passed event ended testing running how more =>
      have idle := ((coherent.idle_testEnd testing how).countTest passed).testProc
      exact .kept _ (((recoveryKept_testEnd how).trans (recoveryKept_nextTest idle)).observe
        how.recoverySeen)
  | @testEndsRun _ passed event ended testing running how isOver =>
      have counted := recoveryKept_testEnd how
      have completed := interfaceTestRunCompleted_runEnd (how.testing testing) passed launch
      rcases completed.recovery with kept | ⟨pid, proc, timer, state, seen⟩
      · exact .kept _ ((counted.trans kept).observe how.recoverySeen)
      · refine .started _ pid proc timer state ?_
        rw [trace_observe, recoveriesSeen_append, seen, counted.seen, recoveriesSeen_cons,
          how.recoverySeen]
        exact List.append_nil _
  | recoveryEnded status recovering =>
      rw [testerSleep_eq]
      apply RecoveryMove.exited status rfl
      · intro recovering
        cases recovering
      · simp [recoveryResponseTimerStop, recoveryTaskExited, Observation.recoverySeen?]
  | recoveryEndIgnored status elsewhere =>
      refine .exited status rfl elsewhere ?_
      simp [recoveryTaskExited, Observation.recoverySeen?]
  | recoveryTimedOut recovering =>
      rw [testerSleep_eq]
      apply RecoveryMove.timedOut recovering rfl
      · intro recovering
        cases recovering
      · simp [recoveryTaskKilled, Observation.recoverySeen?]
  | recoveryTimeoutIgnored elsewhere =>
      refine .timeoutIgnored elsewhere rfl rfl ?_
      simp [recoveryResponseTimerStop, Observation.recoverySeen?]
  | updateUnchanged same => exact .kept _ ⟨.inl rfl, rfl, .inr rfl, rfl⟩
  | updateStopped stopped changed =>
      exact .kept _ (recoveryKept_reconfigured iface _)
  | @updateRestarted new live changed =>
      exact .kept _ ((recoveryKept_reconfigured iface _).trans
        (recoveryKept_testerStartConnected (coherent.idle_reconfigured live new).testProc))

/-! ## The two events of a recovery task -/

/-- The processes that were killed, oldest first. -/
def killedPids (trace : List Observation) : List Pid :=
  trace.filterMap fun
    | .kill pid => some pid
    | _ => none

/-- The recovering state stops the timer of a task that ended, and sleeps. -/
theorem recoveryEnded_of_step (coherent : Coherent iface) {status : Int32}
    (taken : step iface (.recoveryProcExited status, launch) = some t)
    (recovering : iface.tester.state = .recovering) :
    killedPids t.trace = killedPids iface.trace := by
  cases step_move coherent taken with
  | testEndsNext testing running how more => cases how
  | testEndsRun testing running how isOver => cases how
  | recoveryEnded _ _ =>
      rw [trace_observe, trace_testerSleep]
      simp [killedPids, recoveryResponseTimerStop, recoveryTaskExited]
  | recoveryEndIgnored _ elsewhere => exact absurd recovering elsewhere

/-- The recovering state kills the task whose timer expired. -/
theorem recoveryTimedOut_of_step (coherent : Coherent iface)
    (taken : step iface (.recoveryTaskTimerExpired, launch) = some t)
    (recovering : iface.tester.state = .recovering) {pid : Pid}
    (running : iface.recovery.proc.pending = some pid) :
    t.recovery.proc.pending = none ∧ killedPids t.trace = killedPids iface.trace ++ [pid] := by
  cases step_move coherent taken with
  | testEndsNext testing running how more => cases how
  | testEndsRun testing running how isOver => cases how
  | recoveryTimedOut _ =>
      rw [trace_observe, trace_testerSleep, testerSleep_eq]
      refine ⟨rfl, ?_⟩
      simp [killedPids, recoveryTaskKilled, interfaceTesterKillProcess_of_running running]
  | recoveryTimeoutIgnored elsewhere => exact absurd recovering elsewhere

/-- The other states leave the task alone when its timer expires. -/
theorem recoveryTimeoutIgnored_of_step (coherent : Coherent iface)
    (taken : step iface (.recoveryTaskTimerExpired, launch) = some t)
    (elsewhere : iface.tester.state ≠ .recovering) :
    t.recovery.proc = iface.recovery.proc ∧ killedPids t.trace = killedPids iface.trace := by
  cases step_move coherent taken with
  | testEndsNext testing running how more => cases how
  | testEndsRun testing running how isOver => cases how
  | recoveryTimedOut recovering => exact absurd recovering elsewhere
  | recoveryTimeoutIgnored _ =>
      refine ⟨rfl, ?_⟩
      simp [killedPids, recoveryResponseTimerStop]

/-- A recovering tester has a recovery process. -/
theorem Coherent.recoveryPid (coherent : Coherent iface)
    (recovering : iface.tester.state = .recovering) :
    ∃ pid, iface.recovery.proc.pending = some pid :=
  Option.isSome_iff_exists.mp (coherent.recovering recovering).1

end Moves

/-- Nothing of a recovery task has been seen when the callbacks begin. -/
theorem recoveriesSeen_begun (ctx : InterfaceTesterShared) (name : String) (config : AcceptedConfig)
    (isConnected : Bool) (launch : Launch) :
    recoveriesSeen (begun ctx name config isConnected launch).trace = [] ∧
      (begun ctx name config isConnected launch).recovery.proc.pending = none := by
  have before : recoveriesSeen (beforeBegin ctx name config).trace = [] ∧
      (beforeBegin ctx name config).recovery.proc.pending = none := by
    have operational : recoveriesSeen (operationalTrace ctx) = [] :=
      filterMap_operationalTrace (fun _ => rfl) (fun _ => rfl) (fun _ => rfl) ctx
    unfold beforeBegin
    rw [trace_transitionToOperationalState, transitionToOperationalState_eq]
    exact ⟨by simpa [interfaceTesterAlloc, Observation.recoverySeen?] using operational, rfl⟩
  rw [begun_eq]
  cases isConnected with
  | true =>
      refine ⟨?_, before.2⟩
      simpa [connectionStateTransition, settlingDelayTimerStart, Observation.recoverySeen?]
        using before.1
  | false => exact before

end IfaceTester
