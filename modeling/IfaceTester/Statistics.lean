import IfaceTester.Observations
import IfaceTester.Foundations.Histories

/-!
# The statistics of a tester

The counters are updated by several handlers, and some of them are set back for
each connection. Here they are compared with the history of the interface: the
tests that ended, the test runs that were completed and reported, the recovery
tasks that were started, and the connections that settled.

The counters are a fold of that history (`Tallied`), whatever its order. What
the fold comes to is a matter of counting (`countsOf_note`).
-/

set_option autoImplicit false

namespace IfaceTester

open Runs Tallies Hysteresis

/-! ## The history -/

/-- What the statistics are about. -/
inductive Recorded where
  | settled
  | testEnded (passed : Bool)
  | runCompleted (passed : Bool)
  | runEventSent (passed : Bool)
  | taskStarted
deriving DecidableEq

/-- The part of an observation that the statistics are about. A test that took
too long has failed. -/
def Observation.recorded? : Observation → Option Recorded
  | .testerEvent .interfaceSettled _ true => some .settled
  | .testerEvent .testPassed .testing true => some (.testEnded true)
  | .testerEvent .testFailed .testing true => some (.testEnded false)
  | .testerEvent .testTimedOut .testing true => some (.testEnded false)
  | .testRunCompleted passed => some (.runCompleted passed)
  | .testRunEvent passed => some (.runEventSent passed)
  | .runRecoveryTask _ _ launch => if launch.succeeds then some .taskStarted else none
  | _ => none

/-- What has been recorded so far, oldest first. -/
def recorded (trace : List Observation) : List Recorded :=
  trace.filterMap Observation.recorded?

/-- The part of the record that belongs to the present connection. -/
def thisConnection (history : List Recorded) : List Recorded :=
  since (fun entry => decide (entry = .settled)) history

/-- The results of the completed test runs. -/
def runResults (history : List Recorded) : List Bool :=
  history.filterMap fun
    | .runCompleted passed => some passed
    | _ => none

/-- The results of the tests that ended. -/
def testResults (history : List Recorded) : List Bool :=
  history.filterMap fun
    | .testEnded passed => some passed
    | _ => none

/-- The result of the test that a callback ends, if it ends one. -/
def endedTest : Callback → Option Bool
  | .testProcExited status => some (getTestResultFromExitStatus status)
  | .testResponseTimerExpired => some false
  | _ => none

@[simp] theorem recorded_append (trace seen : List Observation) :
    recorded (trace ++ seen) = recorded trace ++ recorded seen := by
  simp [recorded]

@[simp] theorem recorded_cons (seen : Observation) (trace : List Observation) :
    recorded (seen :: trace) = seen.recorded?.toList ++ recorded trace := by
  cases h : seen.recorded? <;> simp [recorded, h]

@[simp] theorem recorded_nil : recorded [] = [] := rfl

@[simp] theorem recorded_kills (proc : TesterProcess) :
    recorded (interfaceTesterKillProcess proc).2 = [] := filterMap_kills (fun _ => rfl) proc

@[simp] theorem recorded_testStartTrace (iface : Interface) (index : ℕ) (launch : Launch) :
    recorded (testStartTrace iface index launch) = [] :=
  filterMap_testStartTrace (fun _ _ _ => rfl) (fun _ => rfl) iface index launch

@[simp] theorem recorded_testRunMessages (ctx : InterfaceTesterShared) (passed : Bool) :
    recorded (testRunMessages ctx passed) =
      if ctx.ubusSockFd < 0 then [] else [.runEventSent passed] := by
  unfold testRunMessages
  split <;> rfl

@[simp] theorem recorded_operationalTrace (ctx : InterfaceTesterShared) :
    recorded (operationalTrace ctx) = [] :=
  filterMap_operationalTrace (fun _ => rfl) (fun _ => rfl) (fun _ => rfl) ctx

@[simp] theorem recorded_breakTrace (iface : Interface) : recorded (breakTrace iface) = [] :=
  filterMap_breakTrace (fun _ => rfl) (fun _ => rfl) (fun _ => rfl) iface

/-! ## The counters as a fold -/

/-- The counters after one more entry of the record. -/
def TesterStatistics.note (stats : TesterStatistics) : Recorded → TesterStatistics
  | .settled =>
      { tests :=
          { stats.tests with totalPassesThisConnection := 0, totalFailuresThisConnection := 0 }
        testRuns :=
          { stats.testRuns with totalPassesThisConnection := 0, totalFailuresThisConnection := 0 }
        recovery := { stats.recovery with totalThisConnection := 0 } }
  | .testEnded passed => { stats with tests := stats.tests.count passed }
  | .runCompleted passed => { stats with testRuns := stats.testRuns.count passed }
  | .runEventSent _ => stats
  | .taskStarted =>
      { stats with
        recovery :=
          { totalThisConnection := stats.recovery.totalThisConnection + 1
            total := stats.recovery.total + 1 } }

/-- The counters of a new interface. -/
def TesterStatistics.zero : TesterStatistics :=
  (interfaceTesterAlloc connectedShared "").tester.stats

/-- The counters say of the history what they should, each modulo the size of
its word. -/
structure CountsOf (history : List Recorded) (stats : TesterStatistics) : Prop where
  testPasses : stats.tests.totalPasses = .ofNat (history.count (.testEnded true))
  testFailures : stats.tests.totalFailures = .ofNat (history.count (.testEnded false))
  testPassesThisConnection : stats.tests.totalPassesThisConnection =
    .ofNat ((thisConnection history).count (.testEnded true))
  testFailuresThisConnection : stats.tests.totalFailuresThisConnection =
    .ofNat ((thisConnection history).count (.testEnded false))
  passes : stats.testRuns.totalPasses = .ofNat (history.count (.runCompleted true))
  failures : stats.testRuns.totalFailures = .ofNat (history.count (.runCompleted false))
  passesThisConnection : stats.testRuns.totalPassesThisConnection =
    .ofNat ((thisConnection history).count (.runCompleted true))
  failuresThisConnection : stats.testRuns.totalFailuresThisConnection =
    .ofNat ((thisConnection history).count (.runCompleted false))
  consecutivePasses : stats.testRuns.consecutivePasses = .ofNat (streak true (runResults history))
  consecutiveFailures :
    stats.testRuns.consecutiveFailures = .ofNat (streak false (runResults history))
  tasks : stats.recovery.total = .ofNat (history.count .taskStarted)
  tasksThisConnection : stats.recovery.totalThisConnection =
    .ofNat ((thisConnection history).count .taskStarted)

/-- No counter counts beyond its word. -/
def FitsCounters (history : List Recorded) : Prop :=
  ∀ entry, entry ≠ .settled → history.count entry < UInt64.size

section Counting

variable {history : List Recorded} {stats : TesterStatistics}

@[simp] theorem thisConnection_settled :
    thisConnection (history ++ [.settled]) = [] := since_concat_marked rfl

@[simp] theorem thisConnection_concat {entry : Recorded} (other : entry ≠ .settled) :
    thisConnection (history ++ [entry]) = thisConnection history ++ [entry] :=
  since_concat_unmarked (by simp [other])

theorem countsOf_zero : CountsOf [] .zero := by
  constructor <;> rfl

/-- **One more entry keeps the counters in step with the history.** -/
theorem countsOf_note (counts : CountsOf history stats) (entry : Recorded) :
    CountsOf (history ++ [entry]) (stats.note entry) := by
  obtain ⟨testPasses, testFailures, testPassesHere, testFailuresHere, passes, failures, passesHere,
    failuresHere, passStreak, failStreak, tasks, tasksHere⟩ := counts
  cases entry with
  | settled => constructor <;> simp [TesterStatistics.note, runResults, *]
  | testEnded passed =>
      cases passed <;> constructor <;>
        simp [TesterStatistics.note, TestStatistics.count, runResults, word_succ, *]
  | runCompleted passed =>
      have appended : runResults (history ++ [.runCompleted passed]) =
          runResults history ++ [passed] := by
        simp [runResults]
      cases passed <;> constructor <;>
        simp [TesterStatistics.note, TestRunStatistics.count, TestRunStatistics.countPass,
          TestRunStatistics.countFailure, word_succ, *]
  | runEventSent passed => constructor <;> simp [TesterStatistics.note, runResults, *]
  | taskStarted => constructor <;> simp [TesterStatistics.note, runResults, word_succ, *]

/-- **A fold over a record keeps the counters in step with the history.** -/
theorem countsOf_foldl (counts : CountsOf history stats) (entries : List Recorded) :
    CountsOf (history ++ entries) (entries.foldl TesterStatistics.note stats) := by
  induction entries generalizing history stats with
  | nil => simpa using counts
  | cons entry entries ih =>
      have continued := ih (countsOf_note counts entry)
      rwa [List.append_assoc] at continued

end Counting

/-! ## What a callback records -/

section Steps

variable {iface t : Interface} {launch : Launch} {cb : Callback}

/-- A part of a callback adds the entries to the record, and its counters
follow. -/
structure Tallied (iface t : Interface) (entries : List Recorded) : Prop where
  seen : recorded t.trace = recorded iface.trace ++ entries
  stats : t.tester.stats = entries.foldl TesterStatistics.note iface.tester.stats

/-- Entries that come together: every recovery task follows a failed run, and the
event of a run is sent for each completed run while there is a connection. -/
structure InStep (ctx : InterfaceTesterShared) (entries : List Recorded) : Prop where
  tasks : entries.count .taskStarted ≤ entries.count (.runCompleted false)
  events : ∀ passed, entries.count (.runEventSent passed) =
    if ctx.ubusSockFd < 0 then 0 else entries.count (.runCompleted passed)

theorem InStep.append {ctx : InterfaceTesterShared} {first second : List Recorded}
    (before : InStep ctx first) (after : InStep ctx second) : InStep ctx (first ++ second) := by
  constructor
  · simpa using Nat.add_le_add before.tasks after.tasks
  · intro passed
    have firstEvents := before.events passed
    have secondEvents := after.events passed
    rw [List.count_append, List.count_append, firstEvents, secondEvents]
    split <;> rfl

theorem Tallied.nothing (seen : recorded t.trace = recorded iface.trace)
    (stats : t.tester.stats = iface.tester.stats) : Tallied iface t [] :=
  ⟨by rw [seen, List.append_nil], stats⟩

theorem Tallied.trans {u : Interface} {first second : List Recorded}
    (before : Tallied iface t first) (after : Tallied t u second) :
    Tallied iface u (first ++ second) :=
  ⟨by rw [after.seen, before.seen, List.append_assoc], by
    rw [after.stats, before.stats, List.foldl_append]⟩

theorem tallied_runTest (idle : iface.tester.testProc.pending = none) (index : ℕ)
    (launch : Launch) : Tallied iface (runTest iface index launch).2 [] := by
  refine .nothing (by simp [trace_runTest idle]) ?_
  unfold runTest
  dsimp only
  split <;> rfl

theorem tallied_testerStartConnected (idle : iface.tester.testProc.pending = none) :
    Tallied iface (testerStartConnected iface launch) [] := by
  have ran := @tallied_runTest
    { testerStateTransition iface .testing with tester.testIndex := 0 } idle 0 launch
  refine .nothing ?_ ran.stats
  simp [trace_testerStartConnected idle, Observation.recorded?]

theorem tallied_nextTest (idle : iface.tester.testProc.pending = none) :
    Tallied iface (nextTest iface launch) [] := by
  have ran := @tallied_runTest { iface with tester.testIndex := iface.tester.testIndex + 1 }
    idle (iface.tester.testIndex + 1) launch
  exact ⟨ran.seen, ran.stats⟩

theorem tallied_testerSleep (iface : Interface) : Tallied iface (testerSleep iface) [] := by
  rw [testerSleep_eq]
  exact .nothing (by simp [Observation.recorded?]) rfl

theorem tallied_reconfigured (iface : Interface) (new : InterfaceConfig) :
    Tallied iface (reconfigured iface new) [] := by
  unfold reconfigured
  rw [testerStop_eq]
  exact .nothing (by simp [Observation.recorded?]) rfl

/-- The end of a test run is recorded, with the event that is sent and the task
that is started. -/
theorem RunEnd.tallied {passed : Bool} (ended : RunEnd iface launch passed t) :
    ∃ entries, Tallied iface t entries ∧ InStep iface.ctx entries ∧ testResults entries = [] ∧
      .settled ∉ entries := by
  let reported : List Recorded := if iface.ctx.ubusSockFd < 0 then [] else [.runEventSent passed]
  have counted : Tallied iface (countedRun iface passed) (.runCompleted passed :: reported) := by
    refine ⟨by simp [countedRun, reportedRun, reported, Observation.recorded?], ?_⟩
    unfold reported
    split <;> rfl
  have events : InStep iface.ctx (.runCompleted passed :: reported) := by
    constructor
    · unfold reported
      split <;> simp
    · intro result
      unfold reported
      split <;> cases passed <;> cases result <;> rfl
  have results : testResults (.runCompleted passed :: reported) = [] ∧
      .settled ∉ Recorded.runCompleted passed :: reported := by
    unfold reported
    split <;> simp [testResults]
  have asleep : ∀ {before : Interface}, Tallied (countedRun iface passed) before [] →
      ∃ entries, Tallied iface (testerSleep before) entries ∧ InStep iface.ctx entries ∧
        testResults entries = [] ∧ .settled ∉ entries := by
    intro before kept
    have slept := (counted.trans kept).trans (tallied_testerSleep before)
    simp only [List.append_nil] at slept
    exact ⟨_, slept, events, results⟩
  have broken : passed = false → Tallied (countedRun iface passed) (brokenRun iface) [] := by
    rintro rfl
    refine .nothing ?_ ?_
    · simp [trace_brokenRun, countedRun, reportedRun]
    · rw [(brokenRun_kept iface).1]
  cases ended with
  | passed short => exact asleep (.nothing rfl rfl)
  | restored met =>
      refine asleep (.nothing ?_ ?_)
      · simp [trace_transitionToOperationalState]
      · rw [transitionToOperationalState_eq]
  | failed short => exact asleep (.nothing rfl rfl)
  | noTask met noTasks => exact asleep (broken rfl)
  | notStarted met tasks unsuccessful proc kills slot =>
      have quiet : recorded kills = [] := by
        rcases slot with ⟨-, rfl⟩ | ⟨-, rfl⟩ <;> simp
      have tried : Tallied (brokenRun iface)
          (taskNotStarted (brokenRun iface) proc kills launch) [] :=
        .nothing (by simp [taskNotStarted, quiet, Observation.recorded?, unsuccessful]) rfl
      exact asleep ((broken rfl).trans tried)
  | started met tasks pid memory forked =>
      have succeeds : launch.succeeds = true := by simp [Launch.succeeds, memory, forked]
      have started : Tallied (brokenRun iface) (taskStarted (brokenRun iface) pid launch)
          [.taskStarted] :=
        ⟨by simp [taskStarted, Observation.recorded?, succeeds], rfl⟩
      refine ⟨_, (counted.trans (broken rfl)).trans started, ?_, ?_⟩
      · rw [List.append_nil]
        constructor
        · have quiet : reported.count .taskStarted = 0 := by
            unfold reported
            split <;> rfl
          simp [quiet]
        · intro result
          rw [List.count_append, List.count_append, events.events result]
          simp
      · have few : testResults reported = [] ∧ .settled ∉ reported := by
          unfold reported
          split <;> simp [testResults]
        simp only [testResults] at few
        simp [testResults, few]

theorem recorded_testEnd {passed : Bool} {event : TesterEvent} {ended : Interface}
    (how : TestEnd iface cb passed event ended) :
    recorded (countTest ended passed).trace = recorded iface.trace ∧
      (countTest ended passed).tester.stats = iface.tester.stats.note (.testEnded passed) ∧
      (Observation.testerEvent event .testing true).recorded? = some (.testEnded passed) ∧
      endedTest cb = some passed := by
  obtain ⟨kills, added, only⟩ := trace_testEnd how
  have quiet : recorded kills = [] := filterMap_of_kills (fun _ => rfl) only
  have trace : (countTest ended passed).trace = iface.trace ++ kills := added
  have seen : recorded (countTest ended passed).trace = recorded iface.trace := by
    rw [trace, recorded_append, quiet, List.append_nil]
  cases how with
  | exited status =>
      refine ⟨seen, rfl, ?_, rfl⟩
      cases getTestResultFromExitStatus status <;> rfl
  | timedOut => exact ⟨seen, rfl, rfl, rfl⟩

theorem note_testEnded_comm {entry : Recorded} (other : entry ≠ .settled)
    (stats : TesterStatistics) (passed : Bool) :
    (stats.note (.testEnded passed)).note entry = (stats.note entry).note (.testEnded passed) := by
  cases entry with
  | settled => exact absurd rfl other
  | testEnded result => cases result <;> cases passed <;> rfl
  | runCompleted result => rfl
  | runEventSent result => rfl
  | taskStarted => rfl

/-- A test is counted before what follows from it, and recorded after it. -/
theorem foldl_note_testEnded {entries : List Recorded} (same : .settled ∉ entries)
    (stats : TesterStatistics) (passed : Bool) :
    entries.foldl TesterStatistics.note (stats.note (.testEnded passed)) =
      (entries.foldl TesterStatistics.note stats).note (.testEnded passed) := by
  induction entries generalizing stats with
  | nil => rfl
  | cons entry entries ih =>
      have other : entry ≠ .settled := fun settled => same (settled ▸ List.mem_cons_self)
      have later : .settled ∉ entries := fun member => same (List.mem_cons_of_mem _ member)
      rw [List.foldl_cons, List.foldl_cons, note_testEnded_comm other, ih later]

/-- A test that ends is recorded after what follows from it. -/
theorem Tallied.of_testEnd {passed : Bool} {event : TesterEvent} {ended : Interface}
    {entries : List Recorded} (how : TestEnd iface cb passed event ended)
    (follows : Tallied (countTest ended passed) t entries) (same : .settled ∉ entries) :
    Tallied iface (t.observe (.testerEvent event .testing true))
      (entries ++ [.testEnded passed]) := by
  obtain ⟨seen, counted, event', -⟩ := recorded_testEnd how
  constructor
  · simp [follows.seen, seen, event']
  · rw [List.foldl_append, List.foldl_cons, List.foldl_nil, ← foldl_note_testEnded same, ← counted]
    exact follows.stats

/-- What a callback records, and the result of the test that it ends. -/
structure TallyMove (iface t : Interface) (cb : Callback) (entries : List Recorded) : Prop where
  tallied : Tallied iface t entries
  inStep : InStep iface.ctx entries
  ended : testResults entries = (endedTest cb).toList

theorem inStep_nil (ctx : InterfaceTesterShared) : InStep ctx [] :=
  ⟨Nat.le_refl _, fun passed => by split <;> rfl⟩

theorem TallyMove.nothing (seen : recorded t.trace = recorded iface.trace)
    (stats : t.tester.stats = iface.tester.stats) (noTest : endedTest cb = none) :
    TallyMove iface t cb [] :=
  ⟨.nothing seen stats, inStep_nil _, by rw [noTest]; rfl⟩

theorem TallyMove.observed (kept : Tallied iface t []) {seen : Observation}
    (ignored : seen.recorded? = none) (noTest : endedTest cb = none) :
    TallyMove iface (t.observe seen) cb [] :=
  .nothing (by simp [kept.seen, ignored]) kept.stats noTest

/-- **What a callback records** is followed by its counters. -/
theorem Move.tallyMove (coherent : Coherent iface) (move : Move iface launch cb t) :
    ∃ entries, TallyMove iface t cb entries := by
  cases move with
  | ifupArms down =>
      exact ⟨[], .nothing (by
        simp [connectionStateTransition, settlingDelayTimerStart, Observation.recorded?]) rfl rfl⟩
  | ifupRedundant up => exact ⟨[], .nothing rfl rfl rfl⟩
  | ifdownRedundant down => exact ⟨[], .nothing rfl rfl rfl⟩
  | ifdownSettling settling =>
      exact ⟨[], .nothing (by
        simp [connectionLost, settlingDelayTimerStop, connectionStateTransition,
          Observation.recorded?]) rfl rfl⟩
  | ifdownConnected up live =>
      unfold testerDisconnectedHandler
      rw [testerStop_eq]
      exact ⟨[], .nothing (by
        simp [connectionLost, settlingDelayTimerStop, connectionStateTransition,
          Observation.recorded?]) rfl rfl⟩
  | settled settling stopped =>
      have started := @tallied_testerStartConnected _ launch
        (coherent.idle_settled stopped).testProc
      have before : recorded (connectionSettled iface).trace = recorded iface.trace := by
        simp [connectionSettled, testerInitialisePerConnectionStatistics, settlingDelayTimerStop,
          connectionStateTransition, Observation.recorded?]
      refine ⟨[.settled], ⟨?_, ?_⟩, ⟨Nat.le_refl _, fun passed => ?_⟩, rfl⟩
      · simp [started.seen, before, Observation.recorded?]
      · exact started.stats
      · split <;> rfl
  | intervalElapsed sleeping =>
      have woken : Tallied iface (testerIntervalTimerStop iface) [] := .nothing rfl rfl
      have started := @tallied_testerStartConnected _ launch (coherent.idle_woken sleeping).testProc
      exact ⟨[], .observed (woken.trans started) rfl rfl⟩
  | requested sleeping =>
      have woken : Tallied iface (testerIntervalTimerStop iface) [] := .nothing rfl rfl
      have started := @tallied_testerStartConnected _ launch (coherent.idle_woken sleeping).testProc
      exact ⟨[], .observed (woken.trans started) rfl rfl⟩
  | requestIgnored awake => exact ⟨[], .observed (.nothing rfl rfl) rfl rfl⟩
  | @testEndsNext _ passed event ended testing running how more =>
      have idle := ((coherent.idle_testEnd testing how).countTest passed).testProc
      have next := @tallied_nextTest _ launch idle
      refine ⟨_, .of_testEnd how next (by simp), ⟨Nat.le_refl _, fun result => ?_⟩, ?_⟩
      · split <;> rfl
      · rw [(recorded_testEnd how).2.2.2]
        rfl
  | @testEndsRun _ passed event ended testing running how isOver =>
      obtain ⟨entries, tallied, inStep, results, same⟩ :=
        (interfaceTestRunCompleted_runEnd (how.testing testing) passed launch).tallied
      rw [(fields_of_frame how.frame).1.1] at inStep
      refine ⟨_, .of_testEnd how tallied same,
        inStep.append ⟨Nat.le_refl _, fun result => ?_⟩, ?_⟩
      · split <;> rfl
      · have split : testResults (entries ++ [.testEnded passed]) =
            testResults entries ++ [passed] := by
          simp [testResults]
        rw [split, results, (recorded_testEnd how).2.2.2]
        rfl
  | recoveryEnded status recovering =>
      have ended : Tallied iface (recoveryResponseTimerStop (recoveryTaskExited iface)) [] :=
        .nothing rfl rfl
      exact ⟨[], .observed (ended.trans (tallied_testerSleep _)) rfl rfl⟩
  | recoveryEndIgnored status elsewhere =>
      have ended : Tallied iface (recoveryTaskExited iface) [] := .nothing rfl rfl
      exact ⟨[], .observed ended rfl rfl⟩
  | recoveryTimedOut recovering =>
      have killed : Tallied iface (recoveryTaskKilled iface) [] :=
        .nothing (by simp [recoveryTaskKilled]) rfl
      exact ⟨[], .observed (killed.trans (tallied_testerSleep _)) rfl rfl⟩
  | recoveryTimeoutIgnored elsewhere =>
      have stopped : Tallied iface (recoveryResponseTimerStop iface) [] := .nothing rfl rfl
      exact ⟨[], .observed stopped rfl rfl⟩
  | updateUnchanged same => exact ⟨[], .nothing rfl rfl rfl⟩
  | @updateStopped new stopped changed =>
      have replaced := tallied_reconfigured iface new.config
      exact ⟨[], .nothing (by simp [replaced.seen]) replaced.stats rfl⟩
  | @updateRestarted new live changed =>
      have restarted := (tallied_reconfigured iface new.config).trans
        (@tallied_testerStartConnected _ launch (coherent.idle_reconfigured live new).testProc)
      exact ⟨[], .nothing (by simp [restarted.seen]) restarted.stats rfl⟩

end Steps

/-! ## The counters as numbers -/

/-- The counters are the numbers of the history. -/
structure MatchesHistory (history : List Recorded) (stats : TesterStatistics) : Prop where
  testPasses : stats.tests.totalPasses.toNat = history.count (.testEnded true)
  testFailures : stats.tests.totalFailures.toNat = history.count (.testEnded false)
  testPassesThisConnection : stats.tests.totalPassesThisConnection.toNat =
    (thisConnection history).count (.testEnded true)
  testFailuresThisConnection : stats.tests.totalFailuresThisConnection.toNat =
    (thisConnection history).count (.testEnded false)
  passes : stats.testRuns.totalPasses.toNat = history.count (.runCompleted true)
  failures : stats.testRuns.totalFailures.toNat = history.count (.runCompleted false)
  passesThisConnection : stats.testRuns.totalPassesThisConnection.toNat =
    (thisConnection history).count (.runCompleted true)
  failuresThisConnection : stats.testRuns.totalFailuresThisConnection.toNat =
    (thisConnection history).count (.runCompleted false)
  consecutivePasses : stats.testRuns.consecutivePasses.toNat = streak true (runResults history)
  consecutiveFailures :
    stats.testRuns.consecutiveFailures.toNat = streak false (runResults history)
  tasks : stats.recovery.total.toNat = history.count .taskStarted
  tasksThisConnection : stats.recovery.totalThisConnection.toNat =
    (thisConnection history).count .taskStarted
  tasksAfterFailures : stats.recovery.total.toNat ≤ stats.testRuns.totalFailures.toNat

section Numbers

variable {history : List Recorded} {stats : TesterStatistics} {ctx : InterfaceTesterShared}

theorem count_runResults (history : List Recorded) (passed : Bool) :
    (runResults history).count passed = history.count (.runCompleted passed) := by
  induction history with
  | nil => rfl
  | cons entry history ih =>
      cases entry with
      | runCompleted result =>
          have listed : runResults (.runCompleted result :: history) =
              result :: runResults history := rfl
          rw [listed, List.count_cons, List.count_cons, ih]
          cases result <;> cases passed <;> rfl
      | _ => simpa [runResults] using ih

theorem streak_le_count (passed : Bool) (results : List Bool) :
    streak passed results ≤ results.count passed := by
  have block : (results.reverse.takeWhile fun result => decide (result = passed)).count passed =
      streak passed results := by
    refine List.count_eq_length.mpr fun result member => ?_
    have same := List.mem_takeWhile_imp member
    exact (of_decide_eq_true same).symm
  calc streak passed results
      = (results.reverse.takeWhile fun result => decide (result = passed)).count passed :=
        block.symm
    _ ≤ results.reverse.count passed := (List.takeWhile_sublist _).count_le passed
    _ = results.count passed := List.count_reverse

/-- **Counters that fit their words are the numbers of the history.** -/
theorem CountsOf.matchesHistory (counts : CountsOf history stats) (inStep : InStep ctx history)
    (fits : FitsCounters history) : MatchesHistory history stats := by
  have total : ∀ entry, entry ≠ .settled →
      (UInt64.ofNat (history.count entry)).toNat = history.count entry :=
    fun entry other => toNat_word (fits entry other)
  have here : ∀ entry, entry ≠ .settled →
      (UInt64.ofNat ((thisConnection history).count entry)).toNat =
        (thisConnection history).count entry :=
    fun entry other => toNat_word (Nat.lt_of_le_of_lt (count_since_le entry) (fits entry other))
  have consecutive : ∀ passed,
      (UInt64.ofNat (streak passed (runResults history))).toNat =
        streak passed (runResults history) := fun passed => by
    refine toNat_word (Nat.lt_of_le_of_lt (streak_le_count passed _) ?_)
    rw [count_runResults]
    exact fits _ (by simp)
  exact
    { testPasses := by rw [counts.testPasses, total _ (by simp)]
      testFailures := by rw [counts.testFailures, total _ (by simp)]
      testPassesThisConnection := by rw [counts.testPassesThisConnection, here _ (by simp)]
      testFailuresThisConnection := by rw [counts.testFailuresThisConnection, here _ (by simp)]
      passes := by rw [counts.passes, total _ (by simp)]
      failures := by rw [counts.failures, total _ (by simp)]
      passesThisConnection := by rw [counts.passesThisConnection, here _ (by simp)]
      failuresThisConnection := by rw [counts.failuresThisConnection, here _ (by simp)]
      consecutivePasses := by rw [counts.consecutivePasses, consecutive]
      consecutiveFailures := by rw [counts.consecutiveFailures, consecutive]
      tasks := by rw [counts.tasks, total _ (by simp)]
      tasksThisConnection := by rw [counts.tasksThisConnection, here _ (by simp)]
      tasksAfterFailures := by
        rw [counts.tasks, counts.failures, total _ (by simp), total _ (by simp)]
        exact inStep.tasks }

end Numbers

/-! ## Runs -/

section Runs

variable {ctx : InterfaceTesterShared} {name : String} {config : AcceptedConfig}
variable {isConnected : Bool} {launch : Launch} {inputs : List Input} {t : Interface}

theorem recorded_begun (ctx : InterfaceTesterShared) (name : String) (config : AcceptedConfig)
    (isConnected : Bool) (launch : Launch) :
    recorded (begun ctx name config isConnected launch).trace = [] ∧
      (begun ctx name config isConnected launch).tester.stats = .zero := by
  have before : recorded (beforeBegin ctx name config).trace = [] ∧
      (beforeBegin ctx name config).tester.stats = .zero := by
    unfold beforeBegin
    rw [transitionToOperationalState_eq]
    exact ⟨by simp [interfaceTesterAlloc, Observation.recorded?], rfl⟩
  rw [begun_eq]
  cases isConnected with
  | true =>
      refine ⟨?_, before.2⟩
      simp [connectionStateTransition, settlingDelayTimerStart, before.1, Observation.recorded?]
  | false => exact before

/-- **The counters follow the history in every state between callbacks.** -/
theorem counts_of_visits
    (visited : Visits step (begun ctx name config isConnected launch) inputs t) :
    CountsOf (recorded t.trace) t.tester.stats ∧ InStep ctx (recorded t.trace) := by
  refine visits_of_invariant (I := fun iface =>
    CountsOf (recorded iface.trace) iface.tester.stats ∧ InStep ctx (recorded iface.trace)) ?_ ?_
    visited
  · rintro s ⟨cb, answer⟩ u taken ⟨counts, inStep⟩
    have coherent := coherent_of_visits taken.source
    obtain ⟨entries, moved⟩ := (step_move coherent taken.step_eq).tallyMove coherent
    have same := (identity_of_visits taken.source).1
    rw [moved.tallied.seen, moved.tallied.stats]
    exact ⟨countsOf_foldl counts entries, inStep.append (same ▸ moved.inStep)⟩
  · obtain ⟨unrecorded, zero⟩ := recorded_begun ctx name config isConnected launch
    rw [unrecorded, zero]
    exact ⟨countsOf_zero, inStep_nil ctx⟩

/-- **The statistics equal the history.** While no count exceeds its word, every
counter is the number that the history of the interface gives. With a
connection to `ubus`, an event is sent for each completed test run. The tests
that end are those whose process exits or takes too long, and each of them is
counted once. -/
theorem statistics_equal_history :
    (∀ t, Visits step (begun ctx name config isConnected launch) inputs t →
      FitsCounters (recorded t.trace) → MatchesHistory (recorded t.trace) t.tester.stats) ∧
    (∀ t, Visits step (begun ctx name config isConnected launch) inputs t →
      0 ≤ ctx.ubusSockFd → ∀ passed, (recorded t.trace).count (.runEventSent passed) =
        (recorded t.trace).count (.runCompleted passed)) ∧
    ∀ s cb answer t, Takes step (begun ctx name config isConnected launch) inputs s
        (cb, answer) t →
      testResults (recorded t.trace) =
        testResults (recorded s.trace) ++ (endedTest cb).toList := by
  refine ⟨fun t visited fits => ?_, fun t visited connected passed => ?_, ?_⟩
  · obtain ⟨counts, inStep⟩ := counts_of_visits visited
    exact counts.matchesHistory inStep fits
  · rw [(counts_of_visits visited).2.events passed, if_neg (by omega)]
  · intro s cb answer t taken
    have coherent := coherent_of_visits taken.source
    obtain ⟨entries, moved⟩ := (step_move coherent taken.step_eq).tallyMove coherent
    rw [moved.tallied.seen, ← moved.ended]
    simp [testResults]

end Runs

theorem statistics_equal_history_once : ∃ t,
    run step (begun connectedShared "wan" (eagerConfig []) true .refused)
      [(.settlingDelayTimerExpired, .forked 7), (.testProcExited 0, .refused)] = some t ∧
    MatchesHistory (recorded t.trace) t.tester.stats := by
  have runs : (run step (begun connectedShared "wan" (eagerConfig []) true .refused)
      [(.settlingDelayTimerExpired, .forked 7), (.testProcExited 0, .refused)]).map
      (fun t => decide ((recorded t.trace).length = 4)) = some true := by decide +kernel
  obtain ⟨t, reached, few⟩ := Option.map_eq_some_iff.mp runs
  refine ⟨t, reached, statistics_equal_history.1 t (visits_last reached) fun entry _ => ?_⟩
  refine Nat.lt_of_le_of_lt List.count_le_length ?_
  rw [of_decide_eq_true few]
  decide

/-- Without `ubus` a completed run is counted, and no event is sent. -/
theorem not_passes_equal_events :
    ¬ ∀ ctx name config isConnected launch inputs t,
      Visits step (begun ctx name config isConnected launch) inputs t →
      FitsCounters (recorded t.trace) →
      t.tester.stats.testRuns.totalPasses.toNat =
        (recorded t.trace).count (.runEventSent true) := by
  intro equal
  have runs : (run step (begun disconnectedShared "wan" (eagerConfig []) true .refused)
      [(.settlingDelayTimerExpired, .forked 7), (.testProcExited 0, .refused)]).map
      (fun t => (t.tester.stats.testRuns.totalPasses.toNat,
        decide (recorded t.trace = [.settled, .runCompleted true, .testEnded true]))) =
      some (1, true) := by decide +kernel
  obtain ⟨t, reached, facts⟩ := Option.map_eq_some_iff.mp runs
  simp only [Prod.mk.injEq, decide_eq_true_eq] at facts
  obtain ⟨counted, seen⟩ := facts
  have sent := equal _ _ _ _ _ _ t (visits_last reached) (by
    intro entry _
    rw [seen]
    exact Nat.lt_of_le_of_lt List.count_le_length (by decide))
  rw [counted, seen] at sent
  exact absurd sent (by decide)

end IfaceTester
