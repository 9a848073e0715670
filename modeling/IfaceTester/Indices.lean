import IfaceTester.Observations
import IfaceTester.StateDump

/-!
# The indices into the two lists

The indices of the next test and of the next recovery task belong to the state,
and the lists they point into belong to the configuration, which a load may
replace. Every callback leaves them in range, and no test or recovery task is
looked up out of range.
-/

set_option autoImplicit false

namespace IfaceTester

open Runs

/-! ## Lookups -/

/-- A position of one of the two lists that the program looks up. -/
inductive Lookup where
  | test (testIndex : ℕ)
  | recoveryTask (recoveryIndex : ℕ)
deriving DecidableEq

/-- What `run_test` and `run_recovery_task` look up. -/
def Observation.lookup? : Observation → Option Lookup
  | .runTest testIndex _ _ => some (.test testIndex)
  | .runRecoveryTask recoveryIndex _ _ => some (.recoveryTask recoveryIndex)
  | _ => none

/-- The positions looked up so far, oldest first. -/
def lookups (trace : List Observation) : List Lookup :=
  trace.filterMap Observation.lookup?

/-- There is an entry at the position. -/
def Lookup.InRange (config : InterfaceConfig) : Lookup → Prop
  | .test testIndex => testIndex < config.numTests
  | .recoveryTask recoveryIndex => recoveryIndex < config.numRecoverys

/-- Both indices point into their lists, or the list of recovery tasks is empty. -/
structure IndicesInRange (iface : Interface) : Prop where
  test : iface.tester.testIndex < iface.config.numTests
  recovery : 0 < iface.config.numRecoverys →
    iface.recovery.recoveryIndex < iface.config.numRecoverys
  noRecovery : iface.config.numRecoverys = 0 → iface.recovery.recoveryIndex = 0

@[simp] theorem lookups_append (trace seen : List Observation) :
    lookups (trace ++ seen) = lookups trace ++ lookups seen := by
  simp [lookups]

@[simp] theorem lookups_cons (seen : Observation) (trace : List Observation) :
    lookups (seen :: trace) = seen.lookup?.toList ++ lookups trace := by
  cases h : seen.lookup? <;> simp [lookups, h]

@[simp] theorem lookups_nil : lookups [] = [] := rfl

@[simp] theorem lookups_kills (proc : TesterProcess) :
    lookups (interfaceTesterKillProcess proc).2 = [] := filterMap_kills (fun _ => rfl) proc

@[simp] theorem lookups_testRunMessages (ctx : InterfaceTesterShared) (passed : Bool) :
    lookups (testRunMessages ctx passed) = [] := filterMap_testRunMessages (fun _ => rfl) ctx passed

@[simp] theorem lookups_operationalTrace (ctx : InterfaceTesterShared) :
    lookups (operationalTrace ctx) = [] :=
  filterMap_operationalTrace (fun _ => rfl) (fun _ => rfl) (fun _ => rfl) ctx

@[simp] theorem lookups_breakTrace (iface : Interface) : lookups (breakTrace iface) = [] :=
  filterMap_breakTrace (fun _ => rfl) (fun _ => rfl) (fun _ => rfl) iface

@[simp] theorem lookups_testStartTrace (iface : Interface) (index : ℕ) (launch : Launch) :
    lookups (testStartTrace iface index launch) = [.test index] := by
  unfold testStartTrace
  split <;> simp [Observation.lookup?]

/-! ## What a callback does -/

section Steps

variable {iface t : Interface} {launch : Launch} {cb : Callback}

/-- A part of a callback looks nothing up, and leaves the indices alone or sets
them back. -/
structure IndicesKept (iface t : Interface) : Prop where
  config : t.config = iface.config
  test : t.tester.testIndex = iface.tester.testIndex ∨ t.tester.testIndex = 0
  recovery : t.recovery.recoveryIndex = iface.recovery.recoveryIndex ∨
    t.recovery.recoveryIndex = 0
  seen : lookups t.trace = lookups iface.trace

/-- What a callback does to the indices. -/
inductive IndexMove (iface t : Interface) : Prop where
  | kept (kept : IndicesKept iface t)
  | started (config : t.config = iface.config) (test : t.tester.testIndex = 0)
      (recovery : t.recovery.recoveryIndex = iface.recovery.recoveryIndex)
      (seen : lookups t.trace = lookups iface.trace ++ [.test 0])
  | next (more : iface.tester.testIndex + 1 < iface.config.numTests)
      (config : t.config = iface.config)
      (test : t.tester.testIndex = iface.tester.testIndex + 1)
      (recovery : t.recovery.recoveryIndex = iface.recovery.recoveryIndex)
      (seen : lookups t.trace = lookups iface.trace ++ [.test (iface.tester.testIndex + 1)])
  | rotated (tasks : 0 < iface.config.numRecoverys) (config : t.config = iface.config)
      (test : t.tester.testIndex = 0) (recovery : t.recovery.recoveryIndex = rotatedIndex iface)
      (seen : lookups t.trace = lookups iface.trace ++ [.recoveryTask (nextTask iface)])
  | replaced (accepted : t.config.Accepted) (test : t.tester.testIndex = 0)
      (recovery : t.recovery.recoveryIndex = 0)
      (seen : lookups t.trace = lookups iface.trace ∨
        lookups t.trace = lookups iface.trace ++ [.test 0])

theorem IndicesKept.trans {u : Interface} (first : IndicesKept iface t)
    (second : IndicesKept t u) : IndicesKept iface u := by
  refine ⟨second.config.trans first.config, ?_, ?_, second.seen.trans first.seen⟩
  · rcases second.test with same | zero
    · rw [same]
      exact first.test
    · exact .inr zero
  · rcases second.recovery with same | zero
    · rw [same]
      exact first.recovery
    · exact .inr zero

theorem IndicesKept.observe (kept : IndicesKept iface t) {seen : Observation}
    (ignored : seen.lookup? = none) : IndicesKept iface (t.observe seen) :=
  ⟨kept.config, kept.test, kept.recovery, by simp [ignored, kept.seen]⟩

theorem IndexMove.observe (move : IndexMove iface t) {seen : Observation}
    (ignored : seen.lookup? = none) : IndexMove iface (t.observe seen) := by
  have same : lookups (t.observe seen).trace = lookups t.trace := by simp [ignored]
  cases move with
  | kept kept => exact .kept (kept.observe ignored)
  | started config test recovery seen => exact .started config test recovery (same.trans seen)
  | next more config test recovery seen =>
      exact .next more config test recovery (same.trans seen)
  | rotated tasks config test recovery seen =>
      exact .rotated tasks config test recovery (same.trans seen)
  | replaced accepted test recovery seen =>
      exact .replaced accepted test recovery (same ▸ seen)

/-- A test that is started changes nothing that the indices depend on. -/
theorem runTest_indices (idle : iface.tester.testProc.pending = none) (index : ℕ)
    (launch : Launch) :
    (runTest iface index launch).2.config = iface.config ∧
      (runTest iface index launch).2.tester.testIndex = iface.tester.testIndex ∧
      (runTest iface index launch).2.recovery = iface.recovery ∧
      lookups (runTest iface index launch).2.trace = lookups iface.trace ++ [.test index] := by
  have seen : lookups (runTest iface index launch).2.trace =
      lookups iface.trace ++ [.test index] := by
    simp [trace_runTest idle]
  refine ⟨?_, ?_, ?_, seen⟩ <;>
    · unfold runTest
      dsimp only
      split <;> rfl

theorem testerStartConnected_indices (idle : iface.tester.testProc.pending = none) :
    (testerStartConnected iface launch).config = iface.config ∧
      (testerStartConnected iface launch).tester.testIndex = 0 ∧
      (testerStartConnected iface launch).recovery = iface.recovery ∧
      lookups (testerStartConnected iface launch).trace = lookups iface.trace ++ [.test 0] := by
  obtain ⟨config, test, recovery, seen⟩ := @runTest_indices
    { testerStateTransition iface .testing with tester.testIndex := 0 } idle 0 launch
  refine ⟨config, test, recovery, seen.trans ?_⟩
  simp [testerStateTransition, Observation.lookup?]

/-- The start of a test run, from where the indices were kept. -/
theorem IndexMove.of_start {before : Interface} (kept : IndicesKept iface before)
    (same : before.recovery.recoveryIndex = iface.recovery.recoveryIndex)
    (idle : before.tester.testProc.pending = none) :
    IndexMove iface (testerStartConnected before launch) := by
  obtain ⟨config, test, recovery, seen⟩ := @testerStartConnected_indices before launch idle
  exact .started (config.trans kept.config) test (by rw [recovery, same]) (by rw [seen, kept.seen])

theorem indicesKept_testerSleep (iface : Interface) : IndicesKept iface (testerSleep iface) := by
  rw [testerSleep_eq]
  exact ⟨rfl, .inl rfl, .inl rfl, by simp [Observation.lookup?]⟩

theorem indicesKept_testEnd {passed : Bool} {event : TesterEvent} {ended : Interface}
    (how : TestEnd iface cb passed event ended) : IndicesKept iface (countTest ended passed) := by
  obtain ⟨kills, added, only⟩ := trace_testEnd how
  have quiet : lookups kills = [] := filterMap_of_kills (fun _ => rfl) only
  have trace : (countTest ended passed).trace = iface.trace ++ kills := added
  have seen : lookups (countTest ended passed).trace = lookups iface.trace := by
    rw [trace, lookups_append, quiet, List.append_nil]
  cases how with
  | exited status => exact ⟨rfl, .inl rfl, .inl rfl, seen⟩
  | timedOut => exact ⟨rfl, .inl rfl, .inl rfl, seen⟩

theorem nextTest_indices (idle : iface.tester.testProc.pending = none) :
    (nextTest iface launch).config = iface.config ∧
      (nextTest iface launch).tester.testIndex = iface.tester.testIndex + 1 ∧
      (nextTest iface launch).recovery = iface.recovery ∧
      lookups (nextTest iface launch).trace =
        lookups iface.trace ++ [.test (iface.tester.testIndex + 1)] :=
  @runTest_indices { iface with tester.testIndex := iface.tester.testIndex + 1 } idle
    (iface.tester.testIndex + 1) launch

/-- The next recovery task is looked up at the end of a test run. -/
structure TaskLookedUp (iface t : Interface) : Prop where
  tasks : 0 < iface.config.numRecoverys
  config : t.config = iface.config
  test : t.tester.testIndex = 0
  recovery : t.recovery.recoveryIndex = rotatedIndex iface
  seen : lookups t.trace = lookups iface.trace ++ [.recoveryTask (nextTask iface)]

/-- The end of a test run looks up the next recovery task, or nothing. -/
theorem RunEnd.indices {passed : Bool} (ended : RunEnd iface launch passed t) :
    IndicesKept iface t ∨ TaskLookedUp iface t := by
  have counted : ∀ passed, IndicesKept iface (countedRun iface passed) := fun passed =>
    ⟨rfl, .inr rfl, .inl rfl, by simp [countedRun, reportedRun, Observation.lookup?]⟩
  have restored : IndicesKept iface (transitionToOperationalState (countedRun iface true)) := by
    have seen := (counted true).seen
    rw [transitionToOperationalState_eq]
    exact ⟨rfl, .inr rfl, .inr rfl, by simp [seen]⟩
  have index := (brokenRun_kept iface).2.2.2
  have config := config_brokenRun iface
  have test : (brokenRun iface).tester.testIndex = 0 := by
    rw [(brokenRun_kept iface).1]
    rfl
  have broken : lookups (brokenRun iface).trace = lookups iface.trace := by
    simp [trace_brokenRun, Observation.lookup?]
  have rotates : rotatedIndex (brokenRun iface) = rotatedIndex iface ∧
      nextTask (brokenRun iface) = nextTask iface := by
    simp only [rotatedIndex, nextTask, config, index, and_self]
  cases ended with
  | passed short => exact .inl ((counted true).trans (indicesKept_testerSleep _))
  | restored met => exact .inl (restored.trans (indicesKept_testerSleep _))
  | failed short => exact .inl ((counted false).trans (indicesKept_testerSleep _))
  | noTask met noTasks =>
      have kept : IndicesKept iface (brokenRun iface) := ⟨config, .inr test, .inl index, broken⟩
      exact .inl (kept.trans (indicesKept_testerSleep _))
  | notStarted met tasks unsuccessful proc kills slot =>
      have quiet : lookups kills = [] := by
        rcases slot with ⟨-, rfl⟩ | ⟨-, rfl⟩ <;> simp
      rw [testerSleep_eq]
      refine .inr ⟨tasks, config, test, rotates.1, ?_⟩
      simp [taskNotStarted, broken, quiet, rotates.2, Observation.lookup?]
  | started met tasks pid memory forked =>
      refine .inr ⟨tasks, config, test, rotates.1, ?_⟩
      simp [taskStarted, broken, rotates.2, Observation.lookup?]

theorem recoveryIndex_reconfigured (iface : Interface) (new : InterfaceConfig) :
    (reconfigured iface new).tester.testIndex = 0 ∧
      (reconfigured iface new).recovery.recoveryIndex = 0 ∧
      lookups (reconfigured iface new).trace = lookups iface.trace := by
  unfold reconfigured
  rw [testerStop_eq]
  exact ⟨rfl, rfl, by simp [Observation.lookup?]⟩

/-- **What a callback does to the indices** is one of the listed moves. -/
theorem Move.indexMove (coherent : Coherent iface) (move : Move iface launch cb t) :
    IndexMove iface t := by
  cases move with
  | ifupArms down =>
      exact .kept ⟨rfl, .inl rfl, .inl rfl, by
        simp [connectionStateTransition, settlingDelayTimerStart, Observation.lookup?]⟩
  | ifupRedundant up => exact .kept ⟨rfl, .inl rfl, .inl rfl, rfl⟩
  | ifdownRedundant down => exact .kept ⟨rfl, .inl rfl, .inl rfl, rfl⟩
  | ifdownSettling settling =>
      exact .kept ⟨rfl, .inl rfl, .inl rfl, by
        simp [connectionLost, settlingDelayTimerStop, connectionStateTransition,
          Observation.lookup?]⟩
  | ifdownConnected up live =>
      refine IndexMove.observe ?_ rfl
      unfold testerDisconnectedHandler
      rw [testerStop_eq]
      exact .kept ⟨rfl, .inr rfl, .inl rfl, by
        simp [connectionLost, settlingDelayTimerStop, connectionStateTransition,
          Observation.lookup?]⟩
  | settled settling stopped =>
      have settled : IndicesKept iface (connectionSettled iface) :=
        ⟨rfl, .inl rfl, .inl rfl, by
          simp [connectionSettled, testerInitialisePerConnectionStatistics, settlingDelayTimerStop,
            connectionStateTransition, Observation.lookup?]⟩
      exact (IndexMove.of_start settled rfl (coherent.idle_settled stopped).testProc).observe rfl
  | intervalElapsed sleeping =>
      have woken : IndicesKept iface (testerIntervalTimerStop iface) :=
        ⟨rfl, .inl rfl, .inl rfl, rfl⟩
      exact (IndexMove.of_start woken rfl (coherent.idle_woken sleeping).testProc).observe rfl
  | requested sleeping =>
      have woken : IndicesKept iface (testerIntervalTimerStop iface) :=
        ⟨rfl, .inl rfl, .inl rfl, rfl⟩
      exact (IndexMove.of_start woken rfl (coherent.idle_woken sleeping).testProc).observe rfl
  | requestIgnored awake =>
      exact IndexMove.observe (.kept ⟨rfl, .inl rfl, .inl rfl, rfl⟩) rfl
  | @testEndsNext _ passed event ended testing running how more =>
      have idle := ((coherent.idle_testEnd testing how).countTest passed).testProc
      have counted := indicesKept_testEnd how
      have same : (countTest ended passed).tester.testIndex = iface.tester.testIndex ∧
          (countTest ended passed).recovery = iface.recovery := by
        cases how with
        | exited status => exact ⟨rfl, rfl⟩
        | timedOut => exact ⟨rfl, rfl⟩
      have further : iface.tester.testIndex + 1 < iface.config.numTests := by
        simpa [runIsOver] using (Bool.or_eq_false_iff.mp more).2
      obtain ⟨config, test, recovery, seen⟩ := @nextTest_indices _ launch idle
      rw [same.1, counted.seen] at seen
      exact IndexMove.observe (.next further (config.trans counted.config)
        (test.trans (by rw [same.1]))
        (by rw [recovery, same.2]) seen) rfl
  | @testEndsRun _ passed event ended testing running how isOver =>
      have counted := indicesKept_testEnd how
      have completed :=
        (interfaceTestRunCompleted_runEnd (how.testing testing) passed launch).indices
      refine IndexMove.observe ?_ rfl
      rcases completed with kept | ⟨tasks, config, test, recovery, seen⟩
      · exact .kept (counted.trans kept)
      · have rotates : rotatedIndex (countTest ended passed) = rotatedIndex iface ∧
            nextTask (countTest ended passed) = nextTask iface := by
          cases how with
          | exited status => exact ⟨rfl, rfl⟩
          | timedOut => exact ⟨rfl, rfl⟩
        rw [rotates.2, counted.seen] at seen
        rw [counted.config] at tasks
        exact .rotated tasks (config.trans counted.config) test (recovery.trans rotates.1) seen
  | recoveryEnded status recovering =>
      have ended : IndicesKept iface (recoveryResponseTimerStop (recoveryTaskExited iface)) :=
        ⟨rfl, .inl rfl, .inl rfl, rfl⟩
      exact IndexMove.observe (.kept (ended.trans (indicesKept_testerSleep _))) rfl
  | recoveryEndIgnored status elsewhere =>
      have ended : IndicesKept iface (recoveryTaskExited iface) := ⟨rfl, .inl rfl, .inl rfl, rfl⟩
      exact IndexMove.observe (.kept ended) rfl
  | recoveryTimedOut recovering =>
      have ended : IndicesKept iface (recoveryTaskKilled iface) :=
        ⟨rfl, .inl rfl, .inl rfl, by simp [recoveryTaskKilled]⟩
      exact IndexMove.observe (.kept (ended.trans (indicesKept_testerSleep _))) rfl
  | recoveryTimeoutIgnored elsewhere =>
      have stopped : IndicesKept iface (recoveryResponseTimerStop iface) :=
        ⟨rfl, .inl rfl, .inl rfl, rfl⟩
      exact IndexMove.observe (.kept stopped) rfl
  | updateUnchanged same => exact .kept ⟨rfl, .inl rfl, .inl rfl, rfl⟩
  | @updateStopped new stopped changed =>
      obtain ⟨test, recovery, seen⟩ := recoveryIndex_reconfigured iface new.config
      exact .replaced new.accepted test recovery (.inl seen)
  | @updateRestarted new live changed =>
      have idle := (coherent.idle_reconfigured live new).testProc
      obtain ⟨-, -, before⟩ := recoveryIndex_reconfigured iface new.config
      obtain ⟨config, test, recovery, seen⟩ := @testerStartConnected_indices _ launch idle
      refine .replaced (config ▸ new.accepted) test ?_ (.inr (seen.trans (by rw [before])))
      rw [recovery]
      rfl

/-- **A callback leaves the indices in range**, and looks nothing up out of
range. The recovery task it looks up is the one at the recovery index. -/
theorem IndexMove.inRange (move : IndexMove iface t) (coherent : Coherent iface)
    (inRange : IndicesInRange iface) :
    IndicesInRange t ∧ ∃ used, lookups t.trace = lookups iface.trace ++ used ∧
      ∀ lookup ∈ used, lookup.InRange t.config ∧ ∀ index, lookup = .recoveryTask index →
        index = iface.recovery.recoveryIndex ∧
          iface.recovery.recoveryIndex < iface.config.numRecoverys := by
  have tests := coherent.accepted.numTests_pos
  cases move with
  | kept kept =>
      refine ⟨⟨?_, ?_, ?_⟩, [], by rw [kept.seen, List.append_nil], by simp⟩
      · rw [kept.config]
        rcases kept.test with same | zero
        · exact same ▸ inRange.test
        · exact zero ▸ tests
      · rw [kept.config]
        intro tasks
        rcases kept.recovery with same | zero
        · exact same ▸ inRange.recovery tasks
        · exact zero ▸ tasks
      · rw [kept.config]
        intro noTasks
        rcases kept.recovery with same | zero
        · exact same ▸ inRange.noRecovery noTasks
        · exact zero
  | started config test recovery seen =>
      refine ⟨⟨?_, ?_, ?_⟩, _, seen, ?_⟩
      · rw [config, test]
        exact tests
      · rw [config, recovery]
        exact inRange.recovery
      · rw [config, recovery]
        exact inRange.noRecovery
      · simpa [Lookup.InRange, config] using tests
  | next more config test recovery seen =>
      refine ⟨⟨?_, ?_, ?_⟩, _, seen, ?_⟩
      · rw [config, test]
        exact more
      · rw [config, recovery]
        exact inRange.recovery
      · rw [config, recovery]
        exact inRange.noRecovery
      · simpa [Lookup.InRange, config] using more
  | rotated tasks config test recovery seen =>
      have index := inRange.recovery tasks
      have next : nextTask iface = iface.recovery.recoveryIndex := if_neg (Nat.not_le.mpr index)
      refine ⟨⟨?_, fun _ => ?_, ?_⟩, _, seen, ?_⟩
      · rw [config, test]
        exact tests
      · rw [config, recovery, rotatedIndex]
        split <;> omega
      · rw [config]
        intro noTasks
        omega
      · simp [Lookup.InRange, config, next, index]
  | replaced accepted test recovery seen =>
      have nonempty := accepted.numTests_pos
      refine ⟨⟨test ▸ nonempty, fun tasks => recovery ▸ tasks, fun _ => recovery⟩, ?_⟩
      rcases seen with same | started
      · exact ⟨[], by rw [same, List.append_nil], by simp⟩
      · exact ⟨_, started, by simpa [Lookup.InRange] using nonempty⟩

end Steps

/-! ## Runs -/

section Runs

variable {ctx : InterfaceTesterShared} {name : String} {config : AcceptedConfig}
variable {isConnected : Bool} {launch : Launch} {inputs : List Input}

theorem indicesInRange_begun (ctx : InterfaceTesterShared) (name : String)
    (config : AcceptedConfig) (isConnected : Bool) (launch : Launch) :
    IndicesInRange (begun ctx name config isConnected launch) ∧
      lookups (begun ctx name config isConnected launch).trace = [] := by
  have before : IndicesInRange (beforeBegin ctx name config) ∧
      lookups (beforeBegin ctx name config).trace = [] := by
    unfold beforeBegin
    rw [transitionToOperationalState_eq]
    exact ⟨⟨config.accepted.numTests_pos, id, fun _ => rfl⟩, by
      simp [interfaceTesterAlloc, Observation.lookup?]⟩
  rw [begun_eq]
  cases isConnected with
  | true =>
      refine ⟨⟨before.1.test, before.1.recovery, before.1.noRecovery⟩, ?_⟩
      simp [connectionStateTransition, settlingDelayTimerStart, before.2, Observation.lookup?]
  | false => exact before

theorem indicesInRange_of_visits {t : Interface}
    (visited : Visits step (begun ctx name config isConnected launch) inputs t) :
    IndicesInRange t := by
  refine visits_of_invariant (I := IndicesInRange) ?_
    (indicesInRange_begun ctx name config isConnected launch).1 visited
  rintro s ⟨cb, answer⟩ u taken inRange
  have coherent := coherent_of_visits taken.source
  exact (((step_move coherent taken.step_eq).indexMove coherent).inRange coherent inRange).1

/-- **Every lookup in the two lists is in range.** Between callbacks both indices
are, and with them the one that a state dump uses. A callback looks tests and
recovery tasks up within the lists of the configuration in force, and the
recovery task is the one at the recovery index, so that the correction of an
index that is out of range never applies. -/
theorem lookups_in_range :
    (∀ t, Visits step (begun ctx name config isConnected launch) inputs t →
      IndicesInRange t ∧
        ∀ index, dumpedRecoveryIndex t = some index → index < t.config.numRecoverys) ∧
    lookups (begun ctx name config isConnected launch).trace = [] ∧
    ∀ s input t, Takes step (begun ctx name config isConnected launch) inputs s input t →
      ∃ used, lookups t.trace = lookups s.trace ++ used ∧
        ∀ lookup ∈ used, lookup.InRange t.config ∧ ∀ index, lookup = .recoveryTask index →
          index = s.recovery.recoveryIndex ∧
            s.recovery.recoveryIndex < s.config.numRecoverys := by
  refine ⟨fun t visited => ?_, (indicesInRange_begun ctx name config isConnected launch).2, ?_⟩
  · have inRange := indicesInRange_of_visits visited
    refine ⟨inRange, fun index dumped => ?_⟩
    unfold dumpedRecoveryIndex at dumped
    split at dumped
    · cases dumped
      exact inRange.recovery (by assumption)
    · cases dumped
  · rintro s ⟨cb, answer⟩ t taken
    have coherent := coherent_of_visits taken.source
    exact (((step_move coherent taken.step_eq).indexMove coherent).inRange coherent
      (indicesInRange_of_visits taken.source)).2

end Runs

/-- A recovery task is started, and the lists are then replaced by shorter ones. -/
def shrunkWhileRecovering : List Input :=
  [(.settlingDelayTimerExpired, .forked 7), (.testProcExited 256, .forked 20),
    (.configUpdate (eagerConfig []), .forked 8)]

theorem lookups_in_range_shrunk : ∃ t,
    run step (begun connectedShared "wan" (eagerConfig [plainTask "renew", plainTask "reboot"])
      true .refused) shrunkWhileRecovering = some t ∧ IndicesInRange t := by
  have happens : (run step (begun connectedShared "wan"
      (eagerConfig [plainTask "renew", plainTask "reboot"]) true .refused)
      shrunkWhileRecovering).isSome = true := by decide +kernel
  obtain ⟨t, reached⟩ := Option.isSome_iff_exists.mp happens
  have ranged := @lookups_in_range connectedShared "wan"
    (eagerConfig [plainTask "renew", plainTask "reboot"]) true .refused shrunkWhileRecovering
  exact ⟨t, reached, (ranged.1 t (visits_last reached)).1⟩

end IfaceTester
