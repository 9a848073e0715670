import IfaceTester.Moves
import IfaceTester.RunEnd

/-!
# Coherence holds between callbacks

Every move leads from a coherent state to a coherent one, so every state that a
run visits is coherent. Most moves pass through a state in which the connection
is up and nothing of the tester is under way (`Idle`), and from there a test is
started, or the tester sleeps, or a recovery task is started.

No move changes the shared context or the name, and only an update changes the
configuration (`Move.fixed`).
-/

set_option autoImplicit false

namespace IfaceTester

open Runs

/-- The connection is up, no test runs, and no timer of the tester is set. -/
structure Idle (iface : Interface) : Prop where
  quiet : iface.eventQueue = .empty
  accepted : iface.config.Accepted
  connected : iface.connection.state = .connected
  settlingTimer : timerIsRunning iface.connection.settlingDelayTimer = false
  starter : iface.tester.starter = .testerStartConnected
  testProc : iface.tester.testProc.pending = none
  responseTimer : iface.tester.testResponseTimeoutTimer = ⟨none⟩
  intervalTimer : iface.tester.testIntervalTimer = ⟨none⟩
  recoveryCb : iface.recovery.proc.isRunning = true →
    iface.recovery.proc.cb = some .recoveryTaskCompleted

section Steps

variable {iface t : Interface} {launch : Launch}

@[simp] theorem isRunning_none (cb : Option TesterProcessCb) :
    (TesterProcess.mk none cb).isRunning = false := rfl

@[simp] theorem isRunning_some (pid : Pid) (cb : Option TesterProcessCb) :
    (TesterProcess.mk (some pid) cb).isRunning = true := rfl

@[simp] theorem timerIsRunning_none : timerIsRunning ⟨none⟩ = false := rfl

@[simp] theorem timerIsRunning_some (msecs : Int32) : timerIsRunning ⟨some msecs⟩ = true := rfl

theorem isRunning_eq_false {proc : TesterProcess} (idle : proc.pending = none) :
    proc.isRunning = false := by
  simp [TesterProcess.isRunning, idle]

theorem eq_none_of_not_running {timer : Timer} (idle : ¬ timerIsRunning timer = true) :
    timer = ⟨none⟩ := by
  rcases timer with ⟨_ | msecs⟩
  · rfl
  · exact absurd rfl idle

theorem pending_of_not_running {proc : TesterProcess} (idle : ¬ proc.isRunning = true) :
    proc.pending = none := by
  simpa [TesterProcess.isRunning] using idle

/-! ## From an idle state -/

theorem Coherent.observe (coherent : Coherent iface) (seen : Observation) :
    Coherent (iface.observe seen) :=
  ⟨coherent.quiet, coherent.accepted, coherent.settlingTimer, coherent.intervalTimer,
    coherent.responseTimer, coherent.testing, coherent.connected, coherent.starter,
    coherent.recovering, coherent.testCb, coherent.recoveryCb⟩

/-- What being idle depends on. -/
def Interface.activity (iface : Interface) : EventQ TesterEvent × InterfaceConfig ×
    InterfaceConnection × TesterStarter × TesterProcess × Timer × Timer × TesterProcess :=
  (iface.eventQueue, iface.config, iface.connection, iface.tester.starter, iface.tester.testProc,
    iface.tester.testResponseTimeoutTimer, iface.tester.testIntervalTimer, iface.recovery.proc)

theorem Idle.of_activity (idle : Idle iface) (same : t.activity = iface.activity) : Idle t := by
  simp only [Interface.activity, Prod.mk.injEq] at same
  obtain ⟨queue, config, connection, starter, proc, response, interval, recovery⟩ := same
  exact
    { quiet := queue.trans idle.quiet
      accepted := config ▸ idle.accepted
      connected := connection ▸ idle.connected
      settlingTimer := connection ▸ idle.settlingTimer
      starter := starter.trans idle.starter
      testProc := proc ▸ idle.testProc
      responseTimer := response.trans idle.responseTimer
      intervalTimer := interval.trans idle.intervalTimer
      recoveryCb := recovery ▸ idle.recoveryCb }

/-- The tester may go to sleep. -/
theorem Idle.coherent_testerSleep (idle : Idle iface) : Coherent (testerSleep iface) := by
  have stopped := isRunning_eq_false idle.testProc
  rw [testerSleep_eq]
  exact
    { quiet := idle.quiet
      accepted := idle.accepted
      settlingTimer := by simp [idle.settlingTimer, idle.connected]
      intervalTimer := by simp
      responseTimer := by simp [stopped, idle.responseTimer]
      testing := by simp [stopped]
      connected := by simp [idle.connected]
      starter := by simp [idle.starter]
      recovering := by simp
      testCb := by simp [stopped]
      recoveryCb := idle.recoveryCb }

/-- The state of a tester whose test was started, or could not be. -/
theorem Idle.coherent_runTest (idle : Idle iface) (index : ℕ)
    (testing : iface.tester.state = .testing) :
    Coherent (runTest iface index launch).2 := by
  have common : ∀ proc timer trace, (TesterProcess.isRunning proc = true ↔
      timerIsRunning timer = true) → (proc.isRunning = true → proc.cb = some .testCompleted) →
      Coherent { iface with
        tester.testProc := proc
        tester.testResponseTimeoutTimer := timer
        trace := trace } := by
    intro proc timer trace response cb
    exact
      { quiet := idle.quiet
        accepted := idle.accepted
        settlingTimer := by simp [idle.settlingTimer, idle.connected]
        intervalTimer := by simp [idle.intervalTimer, testing]
        responseTimer := response
        testing := fun _ => testing
        connected := by simp [idle.connected, testing]
        starter := by simp [idle.starter, testing]
        recovering := by simp [testing]
        testCb := cb
        recoveryCb := idle.recoveryCb }
  cases outcome : launch.succeeds with
  | false =>
      obtain ⟨cb, ran⟩ := runTest_of_failed outcome iface index idle.testProc
      rw [ran]
      exact common ⟨none, cb⟩ iface.tester.testResponseTimeoutTimer _ (by simp [idle.responseTimer])
        (by simp)
  | true =>
      obtain ⟨memory, forked⟩ : launch.asprintf = true ∧ launch.fork.isSome = true := by
        simpa [Launch.succeeds] using outcome
      obtain ⟨pid, forked⟩ := Option.isSome_iff_exists.mp forked
      rw [runTest_of_fork memory forked]
      exact common _ _ _ (by simp) (by simp)

theorem Idle.coherent_testerStartConnected (idle : Idle iface) :
    Coherent (testerStartConnected iface launch) := by
  have ready : Idle { testerStateTransition iface .testing with tester.testIndex := 0 } :=
    idle.of_activity rfl
  exact ready.coherent_runTest 0 rfl

theorem Idle.coherent_nextTest (idle : Idle iface) (testing : iface.tester.state = .testing) :
    Coherent (nextTest iface launch) := by
  have ready : Idle { iface with tester.testIndex := iface.tester.testIndex + 1 } :=
    idle.of_activity rfl
  exact ready.coherent_runTest (iface.tester.testIndex + 1) testing

/-! ## The end of a test run -/

theorem Idle.countTest (idle : Idle iface) (passed : Bool) : Idle (countTest iface passed) :=
  idle.of_activity rfl

theorem Idle.countedRun (idle : Idle iface) (passed : Bool) : Idle (countedRun iface passed) :=
  idle.of_activity rfl

theorem Idle.transitionToOperationalState (idle : Idle iface) :
    Idle (transitionToOperationalState iface) := by
  rw [transitionToOperationalState_eq]
  exact idle.of_activity rfl

theorem Idle.brokenRun (idle : Idle iface) : Idle (brokenRun iface) := by
  have counted := idle.countedRun false
  unfold IfaceTester.brokenRun
  split
  · rw [transitionToBrokenState_eq]
    exact counted.of_activity rfl
  · exact counted

theorem Idle.taskNotStarted (idle : Idle iface) {proc : TesterProcess} {kills : List Observation}
    (slot : proc = iface.recovery.proc ∧ kills = [] ∨
      proc.pending = none ∧ kills = (interfaceTesterKillProcess iface.recovery.proc).2) :
    Idle (taskNotStarted iface proc kills launch) := by
  refine ⟨idle.quiet, idle.accepted, idle.connected, idle.settlingTimer, idle.starter,
    idle.testProc, idle.responseTimer, idle.intervalTimer, ?_⟩
  rcases slot with ⟨same, -⟩ | ⟨empty, -⟩
  · intro running
    subst same
    exact idle.recoveryCb running
  · intro running
    exact absurd running (by simp [IfaceTester.taskNotStarted, isRunning_eq_false empty])

theorem Idle.coherent_taskStarted (idle : Idle iface) (pid : Pid) :
    Coherent (taskStarted iface pid launch) := by
  have stopped := isRunning_eq_false idle.testProc
  exact
    { quiet := idle.quiet
      accepted := idle.accepted
      settlingTimer := by simp [taskStarted, idle.settlingTimer, idle.connected]
      intervalTimer := by simp [taskStarted, idle.intervalTimer]
      responseTimer := by simp [taskStarted, stopped, idle.responseTimer]
      testing := by simp [taskStarted, stopped]
      connected := by simp [taskStarted, idle.connected]
      starter := by simp [taskStarted, idle.starter]
      recovering := fun _ => ⟨rfl, rfl⟩
      testCb := by simp [taskStarted, stopped]
      recoveryCb := fun _ => rfl }

theorem Idle.coherent_runEnd (idle : Idle iface) {passed : Bool}
    (ended : RunEnd iface launch passed t) : Coherent t := by
  cases ended with
  | passed short => exact (idle.countedRun true).coherent_testerSleep
  | restored met =>
      exact (idle.countedRun true).transitionToOperationalState.coherent_testerSleep
  | failed short => exact (idle.countedRun false).coherent_testerSleep
  | noTask met noTasks => exact idle.brokenRun.coherent_testerSleep
  | notStarted met tasks unsuccessful proc kills slot =>
      have broken := idle.brokenRun
      rw [← (brokenRun_kept iface).2.1] at slot
      exact (broken.taskNotStarted slot).coherent_testerSleep
  | started met tasks pid memory forked => exact idle.brokenRun.coherent_taskStarted pid

/-- No end of a test run leaves the tester in the testing state. -/
theorem RunEnd.not_testing {passed : Bool} (ended : RunEnd iface launch passed t) :
    t.tester.state ≠ .testing := by
  cases ended with
  | started met tasks pid memory forked =>
      intro testing
      cases testing
  | _ =>
      rw [testerSleep_eq]
      intro testing
      cases testing

/-! ## Into an idle state -/

theorem Coherent.starter_of_live (coherent : Coherent iface)
    (live : iface.tester.state ≠ .stopped) :
    iface.connection.state = .connected ∧ iface.tester.starter = .testerStartConnected ∧
      timerIsRunning iface.connection.settlingDelayTimer = false := by
  have up := coherent.connected.mpr live
  refine ⟨up, coherent.starter.mpr live, ?_⟩
  simpa [up] using coherent.settlingTimer

theorem Coherent.interval_of_awake (coherent : Coherent iface)
    (awake : iface.tester.state ≠ .sleeping) : iface.tester.testIntervalTimer = ⟨none⟩ :=
  eq_none_of_not_running fun running => awake (coherent.intervalTimer.mp running)

theorem Coherent.test_of_elsewhere (coherent : Coherent iface)
    (elsewhere : iface.tester.state ≠ .testing) :
    iface.tester.testProc.pending = none ∧ iface.tester.testResponseTimeoutTimer = ⟨none⟩ := by
  have idle : ¬ iface.tester.testProc.isRunning = true := fun running =>
    elsewhere (coherent.testing running)
  exact ⟨pending_of_not_running idle,
    eq_none_of_not_running fun running => idle (coherent.responseTimer.mpr running)⟩

theorem Coherent.idle_testEnd (coherent : Coherent iface) (testing : iface.tester.state = .testing)
    {cb : Callback} {passed : Bool} {event : TesterEvent} {ended : Interface}
    (how : TestEnd iface cb passed event ended) : Idle ended := by
  obtain ⟨up, starter, settled⟩ := coherent.starter_of_live (by simp [testing])
  have awake := coherent.interval_of_awake (by simp [testing])
  cases how with
  | exited status =>
      exact ⟨coherent.quiet, coherent.accepted, up, settled, starter, rfl, rfl, awake,
        coherent.recoveryCb⟩
  | timedOut =>
      exact ⟨coherent.quiet, coherent.accepted, up, settled, starter, rfl, rfl, awake,
        coherent.recoveryCb⟩

theorem TestEnd.testing {cb : Callback} {passed : Bool} {event : TesterEvent} {ended : Interface}
    (how : TestEnd iface cb passed event ended) (testing : iface.tester.state = .testing) :
    (countTest ended passed).tester.state = .testing := by
  cases how with
  | exited status => exact testing
  | timedOut => exact testing

theorem Coherent.idle_settled (coherent : Coherent iface)
    (stopped : iface.tester.state = .stopped) : Idle (connectionSettled iface) := by
  have awake := coherent.interval_of_awake (by simp [stopped])
  obtain ⟨proc, response⟩ := coherent.test_of_elsewhere (by simp [stopped])
  exact ⟨coherent.quiet, coherent.accepted, rfl, rfl, rfl, proc, response, awake,
    coherent.recoveryCb⟩

theorem Coherent.idle_woken (coherent : Coherent iface)
    (sleeping : iface.tester.state = .sleeping) : Idle (testerIntervalTimerStop iface) := by
  obtain ⟨up, starter, settled⟩ := coherent.starter_of_live (by simp [sleeping])
  obtain ⟨proc, response⟩ := coherent.test_of_elsewhere (by simp [sleeping])
  exact ⟨coherent.quiet, coherent.accepted, up, settled, starter, proc, response, rfl,
    coherent.recoveryCb⟩

theorem Coherent.idle_reconfigured (coherent : Coherent iface)
    (live : iface.tester.state ≠ .stopped) (new : AcceptedConfig) :
    Idle (reconfigured iface new.config) := by
  obtain ⟨up, starter, settled⟩ := coherent.starter_of_live live
  unfold reconfigured
  rw [testerStop_eq]
  exact ⟨coherent.quiet, new.accepted, up, settled, starter, rfl, rfl, rfl, coherent.recoveryCb⟩

theorem Coherent.idle_recovered (coherent : Coherent iface)
    (recovering : iface.tester.state = .recovering) (timer : Timer) (trace : List Observation) :
    Idle { iface with
      recovery.responseTimeoutTimer := timer
      recovery.proc.pending := none
      trace := trace } := by
  obtain ⟨up, starter, settled⟩ := coherent.starter_of_live (by simp [recovering])
  have awake := coherent.interval_of_awake (by simp [recovering])
  obtain ⟨proc, response⟩ := coherent.test_of_elsewhere (by simp [recovering])
  exact ⟨coherent.quiet, coherent.accepted, up, settled, starter, proc, response, awake,
    fun running => absurd running (by simp)⟩

/-! ## Outside an idle state -/

/-- What a stopped tester needs to be coherent. -/
theorem coherent_of_stopped (quiet : iface.eventQueue = .empty) (accepted : iface.config.Accepted)
    (settling : timerIsRunning iface.connection.settlingDelayTimer = true ↔
      iface.connection.state = .settling) (down : iface.connection.state ≠ .connected)
    (stopped : iface.tester.state = .stopped)
    (starter : iface.tester.starter = .testerStartDisconnected)
    (proc : iface.tester.testProc.pending = none)
    (response : iface.tester.testResponseTimeoutTimer = ⟨none⟩)
    (interval : iface.tester.testIntervalTimer = ⟨none⟩)
    (recoveryCb : iface.recovery.proc.isRunning = true →
      iface.recovery.proc.cb = some .recoveryTaskCompleted) : Coherent iface := by
  have idle := isRunning_eq_false proc
  exact
    { quiet := quiet
      accepted := accepted
      settlingTimer := settling
      intervalTimer := by simp [interval, stopped]
      responseTimer := by simp [idle, response]
      testing := by simp [idle]
      connected := by simp [down, stopped]
      starter := by simp [starter, stopped]
      recovering := by simp [stopped]
      testCb := by simp [idle]
      recoveryCb := recoveryCb }

/-- The recovery slot and its timer matter to coherence only while recovering. -/
theorem Coherent.recovery_changed (coherent : Coherent iface)
    (elsewhere : iface.tester.state ≠ .recovering) (timer : Timer) (proc : TesterProcess)
    (cb : proc.isRunning = true → proc.cb = some .recoveryTaskCompleted) :
    Coherent { iface with recovery.responseTimeoutTimer := timer, recovery.proc := proc } :=
  ⟨coherent.quiet, coherent.accepted, coherent.settlingTimer, coherent.intervalTimer,
    coherent.responseTimer, coherent.testing, coherent.connected, coherent.starter,
    fun recovering => absurd recovering elsewhere, coherent.testCb, cb⟩

theorem Coherent.stopped_parts (coherent : Coherent iface)
    (stopped : iface.tester.state = .stopped) :
    iface.connection.state ≠ .connected ∧ iface.tester.starter = .testerStartDisconnected ∧
      iface.tester.testProc.pending = none ∧
      iface.tester.testResponseTimeoutTimer = ⟨none⟩ ∧
      iface.tester.testIntervalTimer = ⟨none⟩ := by
  have down : iface.connection.state ≠ .connected := fun up => coherent.connected.mp up stopped
  have starter : iface.tester.starter = .testerStartDisconnected := by
    cases h : iface.tester.starter with
    | testerStartDisconnected => rfl
    | testerStartConnected => exact absurd stopped (coherent.starter.mp h)
  have awake := coherent.interval_of_awake (by simp [stopped])
  obtain ⟨proc, response⟩ := coherent.test_of_elsewhere (by simp [stopped])
  exact ⟨down, starter, proc, response, awake⟩

theorem Coherent.stopped_of_down (coherent : Coherent iface)
    (down : iface.connection.state ≠ .connected) : iface.tester.state = .stopped := by
  by_contra live
  exact down (coherent.connected.mpr live)

/-- **Every move leads to a coherent state.** -/
theorem Move.coherent {cb : Callback} (coherent : Coherent iface) (move : Move iface launch cb t) :
    Coherent t := by
  cases move with
  | ifupArms down =>
      have stopped := coherent.stopped_of_down (by simp [down])
      obtain ⟨-, starter, proc, response, interval⟩ := coherent.stopped_parts stopped
      exact coherent_of_stopped coherent.quiet coherent.accepted ⟨fun _ => rfl, fun _ => rfl⟩
        (by simp [connectionStateTransition, Interface.observe]) stopped starter proc response
        interval coherent.recoveryCb
  | ifupRedundant up => exact coherent
  | ifdownRedundant down => exact coherent
  | ifdownSettling settling =>
      have stopped := coherent.stopped_of_down (by simp [settling])
      obtain ⟨-, starter, proc, response, interval⟩ := coherent.stopped_parts stopped
      refine coherent_of_stopped coherent.quiet coherent.accepted ?_ ?_ stopped starter proc
        response interval coherent.recoveryCb
      · simp [connectionLost, settlingDelayTimerStop, timerStop, connectionStateTransition,
          Interface.observe]
      · simp [connectionLost, settlingDelayTimerStop, connectionStateTransition, Interface.observe]
  | ifdownConnected up live =>
      refine Coherent.observe ?_ _
      unfold testerDisconnectedHandler
      rw [testerStop_eq]
      refine coherent_of_stopped coherent.quiet coherent.accepted ?_ ?_ rfl rfl rfl rfl rfl
        coherent.recoveryCb
      · simp [connectionLost, settlingDelayTimerStop, timerStop, connectionStateTransition,
          Interface.observe]
      · simp [connectionLost, settlingDelayTimerStop, connectionStateTransition, Interface.observe]
  | settled settling stopped =>
      exact ((coherent.idle_settled stopped).coherent_testerStartConnected).observe _
  | intervalElapsed sleeping =>
      exact ((coherent.idle_woken sleeping).coherent_testerStartConnected).observe _
  | requested sleeping =>
      exact ((coherent.idle_woken sleeping).coherent_testerStartConnected).observe _
  | requestIgnored awake => exact coherent.observe _
  | @testEndsNext _ passed event ended testing running how more =>
      have idle := (coherent.idle_testEnd testing how).countTest passed
      exact (idle.coherent_nextTest (how.testing testing)).observe _
  | @testEndsRun _ passed event ended testing running how isOver =>
      have idle := (coherent.idle_testEnd testing how).countTest passed
      exact (idle.coherent_runEnd
        (interfaceTestRunCompleted_runEnd (how.testing testing) passed launch)).observe _
  | recoveryEnded status recovering =>
      exact ((coherent.idle_recovered recovering ⟨none⟩ iface.trace).coherent_testerSleep).observe _
  | recoveryEndIgnored status elsewhere =>
      exact (coherent.recovery_changed elsewhere iface.recovery.responseTimeoutTimer
        { iface.recovery.proc with pending := none } (by simp)).observe _
  | recoveryTimedOut recovering =>
      exact ((coherent.idle_recovered recovering ⟨none⟩ _).coherent_testerSleep).observe _
  | recoveryTimeoutIgnored elsewhere =>
      exact (coherent.recovery_changed elsewhere ⟨none⟩ iface.recovery.proc
        coherent.recoveryCb).observe _
  | updateUnchanged same => exact coherent
  | @updateStopped new stopped changed =>
      obtain ⟨down, starter, -⟩ := coherent.stopped_parts stopped
      unfold reconfigured
      rw [testerStop_eq]
      exact coherent_of_stopped coherent.quiet new.accepted coherent.settlingTimer down rfl starter
        rfl rfl rfl coherent.recoveryCb
  | @updateRestarted new live changed =>
      exact (coherent.idle_reconfigured live new).coherent_testerStartConnected

theorem Coherent.stepped (coherent : Coherent iface) {input : Input}
    (taken : step iface input = some t) : Coherent t := by
  obtain ⟨cb, answer⟩ := input
  exact (step_move coherent taken).coherent coherent

theorem fields_of_frame (same : t.frame = iface.frame) :
    (t.ctx = iface.ctx ∧ t.name = iface.name) ∧ t.config = iface.config := by
  simp only [Interface.frame, Prod.mk.injEq] at same
  exact ⟨⟨same.1, same.2.1⟩, same.2.2.2.1⟩

theorem TestEnd.frame {cb : Callback} {passed : Bool} {event : TesterEvent} {ended : Interface}
    (how : TestEnd iface cb passed event ended) : (countTest ended passed).frame = iface.frame := by
  cases how with
  | exited status => rfl
  | timedOut => rfl

theorem fields_reconfigured (iface : Interface) (config : InterfaceConfig) :
    ((reconfigured iface config).ctx = iface.ctx ∧ (reconfigured iface config).name = iface.name) ∧
      (reconfigured iface config).config = config :=
  ⟨(fields_of_frame (frame_testerStop iface)).1, rfl⟩

/-- **What no callback changes**: the shared context, the name, and the configuration
except in an update. -/
theorem Move.fixed {cb : Callback} (move : Move iface launch cb t) :
    (t.ctx = iface.ctx ∧ t.name = iface.name) ∧
      (t.config = iface.config ∨ ∃ new, cb = .configUpdate new ∧ t.config = new.config) := by
  have kept : ∀ {before : Interface}, t.frame = before.frame →
      (before.ctx = iface.ctx ∧ before.name = iface.name) ∧ before.config = iface.config →
      (t.ctx = iface.ctx ∧ t.name = iface.name) ∧
        (t.config = iface.config ∨ ∃ new, cb = .configUpdate new ∧ t.config = new.config) := by
    rintro before same ⟨⟨ctx, name⟩, config⟩
    obtain ⟨⟨sameCtx, sameName⟩, sameConfig⟩ := fields_of_frame same
    exact ⟨⟨sameCtx.trans ctx, sameName.trans name⟩, .inl (sameConfig.trans config)⟩
  cases move with
  | ifdownConnected up live =>
      exact kept ((frame_observe _ _).trans
        (frame_testerDisconnectedHandler (connectionLost iface))) ⟨⟨rfl, rfl⟩, rfl⟩
  | settled settling stopped =>
      exact kept ((frame_observe _ _).trans
        (frame_testerStartConnected (connectionSettled iface) launch)) ⟨⟨rfl, rfl⟩, rfl⟩
  | intervalElapsed sleeping =>
      exact kept ((frame_observe _ _).trans
        (frame_testerStartConnected (testerIntervalTimerStop iface) launch)) ⟨⟨rfl, rfl⟩, rfl⟩
  | requested sleeping =>
      exact kept ((frame_observe _ _).trans
        (frame_testerStartConnected (testerIntervalTimerStop iface) launch)) ⟨⟨rfl, rfl⟩, rfl⟩
  | testEndsNext testing running how more =>
      exact kept ((frame_observe _ _).trans (frame_nextTest _ launch)) (fields_of_frame how.frame)
  | testEndsRun testing running how isOver =>
      exact kept ((frame_observe _ _).trans (frame_interfaceTestRunCompleted _ _ launch))
        (fields_of_frame how.frame)
  | recoveryEnded status recovering =>
      exact kept ((frame_observe _ _).trans
        (frame_testerSleep (recoveryResponseTimerStop (recoveryTaskExited iface))))
        ⟨⟨rfl, rfl⟩, rfl⟩
  | recoveryTimedOut recovering =>
      exact kept ((frame_observe _ _).trans (frame_testerSleep (recoveryTaskKilled iface)))
        ⟨⟨rfl, rfl⟩, rfl⟩
  | @updateStopped new stopped changed =>
      obtain ⟨identity, config⟩ := fields_reconfigured iface new.config
      exact ⟨identity, .inr ⟨new, rfl, config⟩⟩
  | @updateRestarted new live changed =>
      obtain ⟨⟨ctx, name⟩, config⟩ := fields_reconfigured iface new.config
      obtain ⟨⟨sameCtx, sameName⟩, sameConfig⟩ :=
        fields_of_frame (frame_testerStartConnected (reconfigured iface new.config) launch)
      exact ⟨⟨sameCtx.trans ctx, sameName.trans name⟩, .inr ⟨new, rfl, sameConfig.trans config⟩⟩
  | _ => exact ⟨⟨rfl, rfl⟩, .inl rfl⟩

/-- **No callback changes the shared context or the name.** -/
theorem Move.identity {cb : Callback} (move : Move iface launch cb t) :
    t.ctx = iface.ctx ∧ t.name = iface.name := move.fixed.1

/-- **Only an update changes the configuration**, and to the new one. -/
theorem Move.config {cb : Callback} (move : Move iface launch cb t) :
    t.config = iface.config ∨ ∃ new, cb = .configUpdate new ∧ t.config = new.config := move.fixed.2

end Steps

/-! ## Runs -/

section Runs

variable {ctx : InterfaceTesterShared} {name : String} {config : AcceptedConfig}
variable {isConnected : Bool} {launch : Launch} {inputs : List Input} {t : Interface}

/-- The interface as `interface_tester_begin` finds it, with the recovery state
reported. -/
def beforeBegin (ctx : InterfaceTesterShared) (name : String) (config : AcceptedConfig) :
    Interface :=
  transitionToOperationalState { interfaceTesterAlloc ctx name with config := config.config }

theorem beforeBegin_disconnected (ctx : InterfaceTesterShared) (name : String)
    (config : AcceptedConfig) :
    (beforeBegin ctx name config).connection.state = .disconnected := by
  unfold beforeBegin
  rw [transitionToOperationalState_eq]
  rfl

/-- The settling delay begins at once when `netifd` reports the interface up. -/
theorem begun_eq : begun ctx name config isConnected launch =
    if isConnected then
      connectionStateTransition (settlingDelayTimerStart (beforeBegin ctx name config)) .settling
    else beforeBegin ctx name config := by
  have down := beforeBegin_disconnected ctx name config
  cases isConnected with
  | true => exact if_pos down
  | false => exact if_neg (fun up => up down)

theorem coherent_beforeBegin (ctx : InterfaceTesterShared) (name : String)
    (config : AcceptedConfig) : Coherent (beforeBegin ctx name config) := by
  unfold beforeBegin
  rw [transitionToOperationalState_eq]
  exact coherent_of_stopped rfl config.accepted (by simp [interfaceTesterAlloc])
    (by simp [interfaceTesterAlloc]) rfl rfl rfl rfl rfl (by simp [interfaceTesterAlloc])

theorem coherent_begun : Coherent (begun ctx name config isConnected launch) := by
  have before := coherent_beforeBegin ctx name config
  rw [begun_eq]
  cases isConnected with
  | true =>
      have armed : Move (beforeBegin ctx name config) launch .ifup _ :=
        .ifupArms (beforeBegin_disconnected ctx name config)
      exact armed.coherent before
  | false => exact before

/-- No tester is told of its connection before a callback. -/
theorem down_begun (ctx : InterfaceTesterShared) (name : String) (config : AcceptedConfig)
    (isConnected : Bool) (launch : Launch) :
    (begun ctx name config isConnected launch).connection.state ≠ .connected := by
  rw [begun_eq]
  cases isConnected with
  | true => simp [connectionStateTransition, Interface.observe]
  | false => simp [beforeBegin_disconnected]

theorem identity_begun (ctx : InterfaceTesterShared) (name : String) (config : AcceptedConfig)
    (isConnected : Bool) (launch : Launch) :
    (begun ctx name config isConnected launch).ctx = ctx ∧
      (begun ctx name config isConnected launch).name = name := by
  have before : (beforeBegin ctx name config).ctx = ctx ∧
      (beforeBegin ctx name config).name = name := by
    unfold beforeBegin
    rw [transitionToOperationalState_eq]
    exact ⟨rfl, rfl⟩
  rw [begun_eq]
  cases isConnected with
  | true => exact before
  | false => exact before

/-- **Every state between callbacks is coherent.** -/
theorem coherent_of_visits
    (visited : Visits step (begun ctx name config isConnected launch) inputs t) : Coherent t :=
  visits_of_invariant (fun _ _ _ taken coherent => coherent.stepped taken.step_eq) coherent_begun
    visited

/-- The shared context and the name of an interface are its own from the start. -/
theorem identity_of_visits
    (visited : Visits step (begun ctx name config isConnected launch) inputs t) :
    t.ctx = ctx ∧ t.name = name := by
  refine visits_of_invariant (I := fun iface => iface.ctx = ctx ∧ iface.name = name) ?_
    (identity_begun ctx name config isConnected launch) visited
  rintro s ⟨cb, answer⟩ u taken ⟨sameCtx, sameName⟩
  have coherent := coherent_of_visits taken.source
  obtain ⟨keptCtx, keptName⟩ := (step_move coherent taken.step_eq).identity
  exact ⟨keptCtx.trans sameCtx, keptName.trans sameName⟩

end Runs

end IfaceTester
