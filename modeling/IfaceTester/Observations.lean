import IfaceTester.Coherence

/-!
# What is seen of a move

The trace only grows. Here is what each part of a move adds to it, so that a
property of the trace may be proved from the moves. The events that are sent to
the tester come first: a callback sends at most one, and the state it meets and
the handling are fixed by the state before the callback (`Move.testerEvents`).
-/

set_option autoImplicit false

namespace IfaceTester

/-! ## The parts of a move -/

/-- What is seen of the start of a test on an empty slot. -/
def testStartTrace (iface : Interface) (testIndex : ℕ) (launch : Launch) : List Observation :=
  .runTest testIndex (testExec iface testIndex) launch ::
    if launch.succeeds then [.timerSet .testResponse (testTimeoutMsecs iface testIndex)] else []

section Parts

variable {iface t : Interface} {launch : Launch}

@[simp] theorem trace_observe (iface : Interface) (seen : Observation) :
    (iface.observe seen).trace = iface.trace ++ [seen] := rfl

theorem trace_testerSleep (iface : Interface) :
    (testerSleep iface).trace = iface.trace ++ [.testerState .sleeping,
      .timerSet .testInterval (sleepIntervalSecs iface * msecsPerSec).toInt32] := by
  rw [testerSleep_eq]

theorem trace_testerStop (iface : Interface) :
    (testerStop iface).trace = iface.trace ++ .testerState .stopped ::
      (interfaceTesterKillProcess iface.tester.testProc).2 := by
  rw [testerStop_eq]

theorem trace_runTest (idle : iface.tester.testProc.pending = none) (index : ℕ)
    (launch : Launch) :
    (runTest iface index launch).2.trace = iface.trace ++ testStartTrace iface index launch := by
  cases outcome : launch.succeeds with
  | false =>
      obtain ⟨cb, ran⟩ := runTest_of_failed outcome iface index idle
      rw [ran]
      simp [testStartTrace, outcome]
  | true =>
      obtain ⟨memory, forked⟩ : launch.asprintf = true ∧ launch.fork.isSome = true := by
        simpa [Launch.succeeds] using outcome
      obtain ⟨pid, forked⟩ := Option.isSome_iff_exists.mp forked
      rw [runTest_of_fork memory forked]
      simp [testStartTrace, outcome, interfaceTesterKillProcess_of_idle idle]

theorem trace_testerStartConnected (idle : iface.tester.testProc.pending = none) :
    (testerStartConnected iface launch).trace =
      iface.trace ++ .testerState .testing :: testStartTrace iface 0 launch := by
  have ran := @trace_runTest
    { testerStateTransition iface .testing with tester.testIndex := 0 } idle 0 launch
  exact ran.trans (List.append_assoc _ _ _)

theorem trace_nextTest (idle : iface.tester.testProc.pending = none) (launch : Launch) :
    (nextTest iface launch).trace =
      iface.trace ++ testStartTrace iface (iface.tester.testIndex + 1) launch :=
  @trace_runTest { iface with tester.testIndex := iface.tester.testIndex + 1 } idle
    (iface.tester.testIndex + 1) launch

theorem trace_testEnd {cb : Callback} {passed : Bool} {event : TesterEvent} {ended : Interface}
    (how : TestEnd iface cb passed event ended) :
    ∃ kills, ended.trace = iface.trace ++ kills ∧
      ∀ seen ∈ kills, ∃ pid, seen = .kill pid := by
  cases how with
  | exited status => exact ⟨[], (List.append_nil _).symm, by simp⟩
  | timedOut =>
      refine ⟨_, rfl, fun seen member => ?_⟩
      cases running : iface.tester.testProc.pending with
      | none => simp [interfaceTesterKillProcess_of_idle running] at member
      | some pid =>
          rw [interfaceTesterKillProcess_of_running running] at member
          exact ⟨pid, List.mem_singleton.mp member⟩

theorem trace_transitionToOperationalState (iface : Interface) :
    (transitionToOperationalState iface).trace = iface.trace ++ operationalTrace iface.ctx := by
  rw [transitionToOperationalState_eq]

/-- What is seen when a failure that meets the threshold breaks the interface. -/
def breakTrace (iface : Interface) : List Observation :=
  if iface.recovery.state = .operational then brokenTrace iface else []

theorem trace_brokenRun (iface : Interface) :
    (brokenRun iface).trace = iface.trace ++
      (.testRunCompleted false :: testRunMessages iface.ctx false ++ breakTrace iface) := by
  unfold brokenRun breakTrace
  split
  · rw [transitionToBrokenState_eq]
    simp [countedRun, reportedRun, brokenTrace, adjustsMetrics]
  · simp [countedRun, reportedRun]

section Recovery

variable {P : Observation → Prop}

theorem forall_operationalMessages (event : ∀ up, P (.operationalEvent up))
    (ctx : InterfaceTesterShared) (up : Bool) : ∀ seen ∈ operationalMessages ctx up, P seen := by
  unfold operationalMessages
  split <;> simp [event]

/-- All that is seen of a change of the recovery state. -/
theorem forall_operationalTrace (state : ∀ state, P (.recoveryState state))
    (metrics : ∀ amount, P (.adjustMetrics amount)) (event : ∀ up, P (.operationalEvent up))
    (ctx : InterfaceTesterShared) : ∀ seen ∈ operationalTrace ctx, P seen := by
  unfold operationalTrace
  rw [List.forall_mem_cons, List.forall_mem_append]
  refine ⟨state _, ?_, forall_operationalMessages event ctx true⟩
  split <;> simp [metrics]

theorem forall_breakTrace (state : ∀ state, P (.recoveryState state))
    (metrics : ∀ amount, P (.adjustMetrics amount)) (event : ∀ up, P (.operationalEvent up))
    (iface : Interface) : ∀ seen ∈ breakTrace iface, P seen := by
  unfold breakTrace
  split
  · unfold brokenTrace
    rw [List.forall_mem_cons, List.forall_mem_append]
    refine ⟨state _, ?_, forall_operationalMessages event iface.ctx false⟩
    split <;> simp [metrics]
  · exact fun _ member => absurd member List.not_mem_nil

end Recovery

end Parts

/-! ## Lists that a view ignores -/

section Views

variable {β : Type} {f : Observation → Option β}

theorem filterMap_kills (ignores : ∀ pid, f (.kill pid) = none) (proc : TesterProcess) :
    (interfaceTesterKillProcess proc).2.filterMap f = [] := by
  cases running : proc.pending with
  | none => rw [interfaceTesterKillProcess_of_idle running]; rfl
  | some pid => simp [interfaceTesterKillProcess_of_running running, ignores]

theorem filterMap_of_kills {kills : List Observation} (ignores : ∀ pid, f (.kill pid) = none)
    (only : ∀ seen ∈ kills, ∃ pid, seen = .kill pid) : kills.filterMap f = [] := by
  rw [List.filterMap_eq_nil_iff]
  intro seen member
  obtain ⟨pid, rfl⟩ := only seen member
  exact ignores pid

theorem filterMap_testStartTrace (test : ∀ index exec launch, f (.runTest index exec launch) = none)
    (timer : ∀ msecs, f (.timerSet .testResponse msecs) = none) (iface : Interface) (index : ℕ)
    (launch : Launch) : (testStartTrace iface index launch).filterMap f = [] := by
  unfold testStartTrace
  split <;> simp [test, timer]

theorem filterMap_testRunMessages (ignores : ∀ passed, f (.testRunEvent passed) = none)
    (ctx : InterfaceTesterShared) (passed : Bool) :
    (testRunMessages ctx passed).filterMap f = [] := by
  unfold testRunMessages
  split <;> simp [ignores]

theorem filterMap_operationalMessages (ignores : ∀ up, f (.operationalEvent up) = none)
    (ctx : InterfaceTesterShared) (up : Bool) :
    (operationalMessages ctx up).filterMap f = [] :=
  List.filterMap_eq_nil_iff.mpr (forall_operationalMessages ignores ctx up)

theorem filterMap_operationalTrace (state : ∀ state, f (.recoveryState state) = none)
    (metrics : ∀ amount, f (.adjustMetrics amount) = none)
    (event : ∀ up, f (.operationalEvent up) = none) (ctx : InterfaceTesterShared) :
    (operationalTrace ctx).filterMap f = [] :=
  List.filterMap_eq_nil_iff.mpr (forall_operationalTrace state metrics event ctx)

theorem filterMap_breakTrace (state : ∀ state, f (.recoveryState state) = none)
    (metrics : ∀ amount, f (.adjustMetrics amount) = none)
    (event : ∀ up, f (.operationalEvent up) = none) (iface : Interface) :
    (breakTrace iface).filterMap f = [] :=
  List.filterMap_eq_nil_iff.mpr (forall_breakTrace state metrics event iface)

end Views

/-! ## The events that are sent to the tester -/

/-- An event of the trace, with the state it met and whether that state handles
it. -/
def Observation.testerEvent? : Observation → Option (TesterEvent × TesterState × Bool)
  | .testerEvent event state handled => some (event, state, handled)
  | _ => none

/-- The events sent to the tester so far, oldest first. -/
def testerEvents (trace : List Observation) : List (TesterEvent × TesterState × Bool) :=
  trace.filterMap Observation.testerEvent?

@[simp] theorem testerEvents_append (trace seen : List Observation) :
    testerEvents (trace ++ seen) = testerEvents trace ++ testerEvents seen := by
  simp [testerEvents]

@[simp] theorem testerEvents_kills (proc : TesterProcess) :
    testerEvents (interfaceTesterKillProcess proc).2 = [] := filterMap_kills (fun _ => rfl) proc

@[simp] theorem testerEvents_testStartTrace (iface : Interface) (index : ℕ) (launch : Launch) :
    testerEvents (testStartTrace iface index launch) = [] :=
  filterMap_testStartTrace (fun _ _ _ => rfl) (fun _ => rfl) iface index launch

@[simp] theorem testerEvents_testRunMessages (ctx : InterfaceTesterShared) (passed : Bool) :
    testerEvents (testRunMessages ctx passed) = [] :=
  filterMap_testRunMessages (fun _ => rfl) ctx passed

@[simp] theorem testerEvents_cons (seen : Observation) (trace : List Observation) :
    testerEvents (seen :: trace) = seen.testerEvent?.toList ++ testerEvents trace := by
  cases seen <;> rfl

@[simp] theorem testerEvents_nil : testerEvents [] = [] := rfl

/-- The events that a state handles. -/
def handles : TesterState → TesterEvent → Bool
  | .stopped, .interfaceSettled => true
  | .stopped, .recoveryTaskTimedOut => true
  | .stopped, .recoveryTaskEnded => true
  | .sleeping, .testRunRequested => true
  | .sleeping, .intervalTimerElapsed => true
  | .sleeping, .interfaceDisconnected => true
  | .testing, .testPassed => true
  | .testing, .testFailed => true
  | .testing, .testTimedOut => true
  | .testing, .interfaceDisconnected => true
  | .recovering, .recoveryTaskTimedOut => true
  | .recovering, .recoveryTaskEnded => true
  | .recovering, .interfaceDisconnected => true
  | _, _ => false

/-- The event that a callback sends. -/
def sentEvent (iface : Interface) : Callback → Option TesterEvent
  | .ifup => none
  | .ifdown => if iface.connection.state = .connected then some .interfaceDisconnected else none
  | .settlingDelayTimerExpired => some .interfaceSettled
  | .testIntervalTimerExpired => some .intervalTimerElapsed
  | .testResponseTimerExpired => some .testTimedOut
  | .recoveryTaskTimerExpired => some .recoveryTaskTimedOut
  | .testProcExited status =>
      some (if getTestResultFromExitStatus status then .testPassed else .testFailed)
  | .recoveryProcExited _ => some .recoveryTaskEnded
  | .startTestRun => some .testRunRequested
  | .configUpdate _ => none

section Events

variable {iface t : Interface} {launch : Launch} {cb : Callback}

/-- The callback is one that may send the event. -/
def SentBy (cb : Callback) : TesterEvent → Prop
  | .interfaceDisconnected => cb = .ifdown
  | .interfaceSettled => cb = .settlingDelayTimerExpired
  | .intervalTimerElapsed => cb = .testIntervalTimerExpired
  | .testRunRequested => cb = .startTestRun
  | .testPassed => ∃ status, cb = .testProcExited status
  | .testFailed => ∃ status, cb = .testProcExited status
  | .testTimedOut => cb = .testResponseTimerExpired
  | .recoveryTaskEnded => ∃ status, cb = .recoveryProcExited status
  | .recoveryTaskTimedOut => cb = .recoveryTaskTimerExpired

/-- **An event tells which callback sent it.** -/
theorem sentBy_of_sentEvent {event : TesterEvent} (sent : sentEvent iface cb = some event) :
    SentBy cb event := by
  cases cb with
  | ifdown =>
      simp only [sentEvent] at sent
      split at sent
      · cases sent
        rfl
      · cases sent
  | testProcExited status =>
      simp only [sentEvent] at sent
      split at sent
      · cases sent
        exact ⟨status, rfl⟩
      · cases sent
        exact ⟨status, rfl⟩
  | recoveryProcExited status =>
      cases sent
      exact ⟨status, rfl⟩
  | ifup => cases sent
  | configUpdate new => cases sent
  | _ =>
      cases sent
      rfl

/-- No end of a test run sends an event. -/
theorem RunEnd.testerEvents {passed : Bool} (ended : RunEnd iface launch passed t) :
    testerEvents t.trace = testerEvents iface.trace := by
  have operational : IfaceTester.testerEvents (operationalTrace iface.ctx) = [] :=
    filterMap_operationalTrace (fun _ => rfl) (fun _ => rfl) (fun _ => rfl) iface.ctx
  have broken : IfaceTester.testerEvents (breakTrace iface) = [] :=
    filterMap_breakTrace (fun _ => rfl) (fun _ => rfl) (fun _ => rfl) iface
  have counted : ∀ passed, IfaceTester.testerEvents (countedRun iface passed).trace =
      IfaceTester.testerEvents iface.trace := fun passed => by
    simp [countedRun, reportedRun, Observation.testerEvent?]
  have brokenRun : IfaceTester.testerEvents (IfaceTester.brokenRun iface).trace =
      IfaceTester.testerEvents iface.trace := by
    simp [trace_brokenRun, broken, Observation.testerEvent?]
  cases ended with
  | passed short => simp [trace_testerSleep, counted, Observation.testerEvent?]
  | restored met =>
      have same : (countedRun iface true).ctx = iface.ctx := rfl
      simp [trace_testerSleep, trace_transitionToOperationalState, counted, same, operational,
        Observation.testerEvent?]
  | failed short => simp [trace_testerSleep, counted, Observation.testerEvent?]
  | noTask met noTasks => simp [trace_testerSleep, brokenRun, Observation.testerEvent?]
  | notStarted met tasks unsuccessful proc kills slot =>
      have quiet : IfaceTester.testerEvents kills = [] := by
        rcases slot with ⟨-, rfl⟩ | ⟨-, rfl⟩ <;> simp
      simp [trace_testerSleep, taskNotStarted, brokenRun, quiet, Observation.testerEvent?]
  | started met tasks pid memory forked => simp [taskStarted, brokenRun, Observation.testerEvent?]

theorem TestEnd.sentEvent {passed : Bool} {event : TesterEvent} {ended : Interface}
    (how : TestEnd iface cb passed event ended) :
    sentEvent iface cb = some event ∧ handles .testing event = true := by
  cases how with
  | exited status =>
      cases passed : getTestResultFromExitStatus status <;> simp [sentEvent, handles, passed]
  | timedOut => exact ⟨rfl, rfl⟩

theorem TestEnd.testerEvents {passed : Bool} {event : TesterEvent} {ended : Interface}
    (how : TestEnd iface cb passed event ended) :
    testerEvents (countTest ended passed).trace = testerEvents iface.trace := by
  obtain ⟨kills, added, only⟩ := trace_testEnd how
  have quiet : IfaceTester.testerEvents kills = [] := filterMap_of_kills (fun _ => rfl) only
  have kept : (countTest ended passed).trace = ended.trace := rfl
  simp [kept, added, quiet]

/-- **A callback sends at most one event, which meets the state before it.** -/
theorem Move.testerEvents (coherent : Coherent iface) (move : Move iface launch cb t) :
    testerEvents t.trace = testerEvents iface.trace ++
      (sentEvent iface cb).toList.map fun event =>
        (event, iface.tester.state, handles iface.tester.state event) := by
  cases move with
  | ifupArms down =>
      simp [settlingDelayTimerStart, connectionStateTransition, sentEvent, Observation.testerEvent?]
  | ifupRedundant up => simp [sentEvent]
  | ifdownRedundant down => simp [sentEvent, down]
  | ifdownSettling settling =>
      simp [connectionLost, settlingDelayTimerStop, connectionStateTransition, sentEvent, settling,
        Observation.testerEvent?]
  | ifdownConnected up live =>
      have handled : handles iface.tester.state .interfaceDisconnected = true := by
        cases state : iface.tester.state <;> first | rfl | exact absurd state live
      simp [testerDisconnectedHandler, trace_testerStop, connectionLost, settlingDelayTimerStop,
        connectionStateTransition, sentEvent, up, handled, Observation.testerEvent?]
  | settled settling stopped =>
      have idle := (coherent.idle_settled stopped).testProc
      have before : IfaceTester.testerEvents (connectionSettled iface).trace =
          IfaceTester.testerEvents iface.trace := by
        simp [connectionSettled, testerInitialisePerConnectionStatistics, settlingDelayTimerStop,
          connectionStateTransition, Observation.testerEvent?]
      simp [trace_testerStartConnected idle, before, sentEvent, stopped, handles,
        Observation.testerEvent?]
  | intervalElapsed sleeping =>
      have idle := (coherent.idle_woken sleeping).testProc
      have before : (testerIntervalTimerStop iface).trace = iface.trace := rfl
      simp [trace_testerStartConnected idle, before, sentEvent, sleeping, handles,
        Observation.testerEvent?]
  | requested sleeping =>
      have idle := (coherent.idle_woken sleeping).testProc
      have before : (testerIntervalTimerStop iface).trace = iface.trace := rfl
      simp [trace_testerStartConnected idle, before, sentEvent, sleeping, handles,
        Observation.testerEvent?]
  | requestIgnored awake =>
      have handled : handles iface.tester.state .testRunRequested = false := by
        cases state : iface.tester.state <;> first | rfl | exact absurd state awake
      simp [sentEvent, handled, Observation.testerEvent?]
  | @testEndsNext _ passed event ended testing running how more =>
      have idle := ((coherent.idle_testEnd testing how).countTest passed).testProc
      obtain ⟨sent, handled⟩ := how.sentEvent
      simp [trace_nextTest idle, how.testerEvents, sent, testing, handled,
        Observation.testerEvent?]
  | @testEndsRun _ passed event ended testing running how isOver =>
      have ended := interfaceTestRunCompleted_runEnd (how.testing testing) passed launch
      obtain ⟨sent, handled⟩ := how.sentEvent
      simp [ended.testerEvents, how.testerEvents, sent, testing, handled, Observation.testerEvent?]
  | recoveryEnded status recovering =>
      simp [trace_testerSleep, recoveryResponseTimerStop, recoveryTaskExited, sentEvent, recovering,
        handles, Observation.testerEvent?]
  | recoveryEndIgnored status elsewhere =>
      have handled : handles iface.tester.state .recoveryTaskEnded =
          decide (iface.tester.state = .stopped) := by
        cases state : iface.tester.state <;> first | rfl | exact absurd state elsewhere
      simp [recoveryTaskExited, sentEvent, handled, Observation.testerEvent?]
  | recoveryTimedOut recovering =>
      simp [trace_testerSleep, recoveryTaskKilled, sentEvent, recovering, handles,
        Observation.testerEvent?]
  | recoveryTimeoutIgnored elsewhere =>
      have handled : handles iface.tester.state .recoveryTaskTimedOut =
          decide (iface.tester.state = .stopped) := by
        cases state : iface.tester.state <;> first | rfl | exact absurd state elsewhere
      simp [recoveryResponseTimerStop, sentEvent, handled, Observation.testerEvent?]
  | updateUnchanged same => simp [sentEvent]
  | updateStopped stopped changed =>
      simp [reconfigured, trace_testerStop, sentEvent, Observation.testerEvent?]
  | @updateRestarted new live changed =>
      have idle := (coherent.idle_reconfigured live new).testProc
      rw [trace_testerStartConnected idle]
      simp [reconfigured, trace_testerStop, sentEvent, Observation.testerEvent?]

end Events

/-- Nothing has been sent when the callbacks begin. -/
theorem testerEvents_begun (ctx : InterfaceTesterShared) (name : String) (config : AcceptedConfig)
    (isConnected : Bool) (launch : Launch) :
    testerEvents (begun ctx name config isConnected launch).trace = [] := by
  have before : testerEvents (beforeBegin ctx name config).trace = [] := by
    have operational : testerEvents (operationalTrace ctx) = [] :=
      filterMap_operationalTrace (fun _ => rfl) (fun _ => rfl) (fun _ => rfl) ctx
    unfold beforeBegin
    rw [trace_transitionToOperationalState]
    simpa [interfaceTesterAlloc, Observation.testerEvent?] using operational
  rw [begun_eq]
  cases isConnected with
  | true =>
      simpa [connectionStateTransition, settlingDelayTimerStart, Observation.testerEvent?]
        using before
  | false => exact before

end IfaceTester
