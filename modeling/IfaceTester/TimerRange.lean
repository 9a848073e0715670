import IfaceTester.Indices

/-!
# The range of the timers

Every timer is set with a number of seconds that the configuration gives. The
product with `msecs_per_sec` is taken in 32 bits, and `timer_start` makes an
`int` of it. The validation of a configuration only asks that the seconds are
not zero, so the product may wrap and the `int` may be negative.
-/

set_option autoImplicit false

namespace IfaceTester

open Runs

/-- The greatest number of seconds whose milliseconds fit into an `int`. -/
def maxTimeoutSecs : ℕ := 2147483

/-- The `int` that `uloop_timeout_set` gets for a number of seconds. -/
def timeoutMsecs (secs : UInt32) : Int32 := (secs * msecsPerSec).toInt32

/-- **The milliseconds are exact up to the greatest number of seconds**, and
wrong for every greater one. -/
theorem timeoutMsecs_exact_iff (secs : UInt32) :
    (timeoutMsecs secs).toInt = 1000 * (secs.toNat : Int) ↔ secs.toNat ≤ maxTimeoutSecs := by
  have below := secs.toNat_lt
  have product : (secs * msecsPerSec).toNat = secs.toNat * 1000 % 4294967296 :=
    UInt32.toNat_mul secs msecsPerSec
  have narrowed : (timeoutMsecs secs).toInt =
      ((secs * msecsPerSec).toNat : Int).bmod 4294967296 :=
    BitVec.toInt_eq_toNat_bmod (secs * msecsPerSec).toBitVec
  rw [narrowed, product, Int.bmod_def, maxTimeoutSecs]
  omega

/-! ## Armings -/

/-- What a timer was set with. -/
def Observation.arming? : Observation → Option (TimerName × Int32)
  | .timerSet timer msecs => some (timer, msecs)
  | _ => none

/-- The timers set so far, oldest first. -/
def armings (trace : List Observation) : List (TimerName × Int32) :=
  trace.filterMap Observation.arming?

@[simp] theorem armings_append (trace seen : List Observation) :
    armings (trace ++ seen) = armings trace ++ armings seen := by
  simp [armings]

@[simp] theorem armings_cons (seen : Observation) (trace : List Observation) :
    armings (seen :: trace) = seen.arming?.toList ++ armings trace := by
  cases h : seen.arming? <;> simp [armings, h]

@[simp] theorem armings_nil : armings [] = [] := rfl

@[simp] theorem armings_kills (proc : TesterProcess) :
    armings (interfaceTesterKillProcess proc).2 = [] := filterMap_kills (fun _ => rfl) proc

@[simp] theorem armings_testRunMessages (ctx : InterfaceTesterShared) (passed : Bool) :
    armings (testRunMessages ctx passed) = [] := filterMap_testRunMessages (fun _ => rfl) ctx passed

@[simp] theorem armings_operationalTrace (ctx : InterfaceTesterShared) :
    armings (operationalTrace ctx) = [] :=
  filterMap_operationalTrace (fun _ => rfl) (fun _ => rfl) (fun _ => rfl) ctx

@[simp] theorem armings_breakTrace (iface : Interface) : armings (breakTrace iface) = [] :=
  filterMap_breakTrace (fun _ => rfl) (fun _ => rfl) (fun _ => rfl) iface

/-- A started test sets its response timer. -/
theorem armings_testStartTrace (iface : Interface) (index : ℕ) (launch : Launch) :
    armings (testStartTrace iface index launch) =
      if launch.succeeds then [(.testResponse, testTimeoutMsecs iface index)] else [] := by
  unfold testStartTrace
  split <;> simp [Observation.arming?]

/-- The seconds that are selected for a timer that a callback sets: those of the
configuration in force, and for a task its own when it has some. The recovery
task is the one at the recovery index before the callback. -/
def selectedSecs (before after : Interface) : TimerName → UInt32
  | .settlingDelay => after.config.settlingDelaySecs
  | .testInterval => sleepIntervalSecs after
  | .testResponse => after.config.taskTimeoutSecs (testAt after after.tester.testIndex)
  | .recoveryTask => after.config.taskTimeoutSecs (recoveryAt after before.recovery.recoveryIndex)

/-- A callback sets its timers with the seconds that are selected for them. -/
def ArmsAsSelected (before after : Interface) : Prop :=
  ∃ armed, armings after.trace = armings before.trace ++ armed ∧
    ∀ arming ∈ armed, arming.2 = timeoutMsecs (selectedSecs before after arming.1)

section Steps

variable {iface t : Interface} {launch : Launch} {cb : Callback}

theorem ArmsAsSelected.of_same (same : armings t.trace = armings iface.trace) :
    ArmsAsSelected iface t := ⟨[], by rw [same, List.append_nil], by simp⟩

theorem ArmsAsSelected.observe (arms : ArmsAsSelected iface t) {seen : Observation}
    (ignored : seen.arming? = none) : ArmsAsSelected iface (t.observe seen) := by
  obtain ⟨armed, added, selected⟩ := arms
  refine ⟨armed, by simp [ignored, added], fun arming member => (selected arming member).trans ?_⟩
  cases arming.1 <;> rfl

/-- The start of a test run, from where no timer has been set yet. -/
theorem ArmsAsSelected.of_start {before : Interface}
    (same : armings before.trace = armings iface.trace)
    (idle : before.tester.testProc.pending = none) :
    ArmsAsSelected iface (testerStartConnected before launch) := by
  obtain ⟨config, test, -, -⟩ := @testerStartConnected_indices before launch idle
  refine ⟨armings (testStartTrace before 0 launch), ?_, ?_⟩
  · simp [trace_testerStartConnected idle, same, Observation.arming?]
  · intro arming member
    rw [armings_testStartTrace] at member
    split at member
    · rw [List.mem_singleton.mp member]
      simp only [selectedSecs, test, config, testAt]
      rfl
    · cases member

theorem ArmsAsSelected.of_nextTest {before : Interface}
    (same : armings before.trace = armings iface.trace)
    (idle : before.tester.testProc.pending = none) :
    ArmsAsSelected iface (nextTest before launch) := by
  obtain ⟨config, test, -, -⟩ := @nextTest_indices before launch idle
  refine ⟨armings (testStartTrace before (before.tester.testIndex + 1) launch), ?_, ?_⟩
  · simp [trace_nextTest idle, same]
  · intro arming member
    rw [armings_testStartTrace] at member
    split at member
    · rw [List.mem_singleton.mp member]
      simp only [selectedSecs, test, config, testAt]
      rfl
    · cases member

theorem ArmsAsSelected.of_sleep {before : Interface}
    (same : armings before.trace = armings iface.trace) :
    ArmsAsSelected iface (testerSleep before) := by
  refine ⟨[(.testInterval, timeoutMsecs (sleepIntervalSecs before))], ?_, ?_⟩
  · rw [trace_testerSleep, armings_append, same]
    rfl
  · intro arming member
    rw [List.mem_singleton.mp member, testerSleep_eq]
    rfl

/-- The end of a test run sets the timer of the recovery task at the recovery
index, or the interval timer. -/
theorem RunEnd.arms {passed : Bool} (ended : RunEnd iface launch passed t)
    (inRange : IndicesInRange iface) : ArmsAsSelected iface t := by
  have counted : ∀ passed, armings (countedRun iface passed).trace = armings iface.trace :=
    fun passed => by simp [countedRun, reportedRun, Observation.arming?]
  have broken : armings (brokenRun iface).trace = armings iface.trace := by
    simp [trace_brokenRun, Observation.arming?]
  cases ended with
  | passed short => exact .of_sleep (counted true)
  | restored met =>
      refine .of_sleep ?_
      rw [trace_transitionToOperationalState, armings_append, counted, armings_operationalTrace,
        List.append_nil]
  | failed short => exact .of_sleep (counted false)
  | noTask met noTasks => exact .of_sleep broken
  | notStarted met tasks unsuccessful proc kills slot =>
      have quiet : armings kills = [] := by
        rcases slot with ⟨-, rfl⟩ | ⟨-, rfl⟩ <;> simp
      exact .of_sleep (by simp [taskNotStarted, broken, quiet, Observation.arming?])
  | started met tasks pid memory forked =>
      have index : nextTask (brokenRun iface) = iface.recovery.recoveryIndex := by
        simp only [nextTask, config_brokenRun, (brokenRun_kept iface).2.2.2]
        exact if_neg (Nat.not_le.mpr (inRange.recovery tasks))
      refine ⟨[(.recoveryTask,
          recoveryTimeoutMsecs (brokenRun iface) (nextTask (brokenRun iface)))],
        ?_, ?_⟩
      · simp [taskStarted, broken, Observation.arming?]
      · intro arming member
        rw [List.mem_singleton.mp member, index]
        rfl

theorem armings_testEnd {passed : Bool} {event : TesterEvent} {ended : Interface}
    (how : TestEnd iface cb passed event ended) :
    armings (countTest ended passed).trace = armings iface.trace := by
  obtain ⟨kills, added, only⟩ := trace_testEnd how
  have quiet : armings kills = [] := filterMap_of_kills (fun _ => rfl) only
  have trace : (countTest ended passed).trace = iface.trace ++ kills := added
  rw [trace, armings_append, quiet, List.append_nil]

theorem armings_reconfigured (iface : Interface) (new : InterfaceConfig) :
    armings (reconfigured iface new).trace = armings iface.trace := by
  have stopped : (reconfigured iface new).trace = (testerStop iface).trace := rfl
  simp [stopped, trace_testerStop, Observation.arming?]

/-- **A callback sets its timers with the selected seconds.** -/
theorem Move.arms (coherent : Coherent iface) (inRange : IndicesInRange iface)
    (move : Move iface launch cb t) : ArmsAsSelected iface t := by
  cases move with
  | ifupArms down =>
      refine ⟨[(.settlingDelay, timeoutMsecs iface.config.settlingDelaySecs)], ?_, ?_⟩
      · simp [connectionStateTransition, settlingDelayTimerStart, Observation.arming?, timeoutMsecs]
      · intro arming member
        rw [List.mem_singleton.mp member]
        rfl
  | ifupRedundant up => exact .of_same rfl
  | ifdownRedundant down => exact .of_same rfl
  | ifdownSettling settling =>
      exact .of_same (by
        simp [connectionLost, settlingDelayTimerStop, connectionStateTransition,
          Observation.arming?])
  | ifdownConnected up live =>
      refine ArmsAsSelected.observe (.of_same ?_) rfl
      simp [testerDisconnectedHandler, trace_testerStop, connectionLost, settlingDelayTimerStop,
        connectionStateTransition, Observation.arming?]
  | settled settling stopped =>
      refine ArmsAsSelected.observe
        (.of_start ?_ (coherent.idle_settled stopped).testProc) rfl
      simp [connectionSettled, testerInitialisePerConnectionStatistics, settlingDelayTimerStop,
        connectionStateTransition, Observation.arming?]
  | intervalElapsed sleeping =>
      exact ArmsAsSelected.observe (.of_start rfl (coherent.idle_woken sleeping).testProc) rfl
  | requested sleeping =>
      exact ArmsAsSelected.observe (.of_start rfl (coherent.idle_woken sleeping).testProc) rfl
  | requestIgnored awake => exact ArmsAsSelected.observe (.of_same rfl) rfl
  | @testEndsNext _ passed event ended testing running how more =>
      have idle := ((coherent.idle_testEnd testing how).countTest passed).testProc
      exact ArmsAsSelected.observe (.of_nextTest (armings_testEnd how) idle) rfl
  | @testEndsRun _ passed event ended testing running how isOver =>
      have kept : IndicesInRange (countTest ended passed) ∧
          (countTest ended passed).recovery.recoveryIndex = iface.recovery.recoveryIndex := by
        cases how with
        | exited status => exact ⟨⟨inRange.test, inRange.recovery, inRange.noRecovery⟩, rfl⟩
        | timedOut => exact ⟨⟨inRange.test, inRange.recovery, inRange.noRecovery⟩, rfl⟩
      obtain ⟨armed, added, selected⟩ :=
        (interfaceTestRunCompleted_runEnd (how.testing testing) passed launch).arms kept.1
      refine ArmsAsSelected.observe ⟨armed, added.trans (by rw [armings_testEnd how]), ?_⟩ rfl
      intro arming member
      have secs := selected arming member
      simp only [selectedSecs, kept.2] at secs ⊢
      exact secs
  | recoveryEnded status recovering => exact ArmsAsSelected.observe (.of_sleep rfl) rfl
  | recoveryEndIgnored status elsewhere => exact ArmsAsSelected.observe (.of_same rfl) rfl
  | recoveryTimedOut recovering =>
      exact ArmsAsSelected.observe (.of_sleep (by simp [recoveryTaskKilled])) rfl
  | recoveryTimeoutIgnored elsewhere => exact ArmsAsSelected.observe (.of_same rfl) rfl
  | updateUnchanged same => exact .of_same rfl
  | @updateStopped new stopped changed => exact .of_same (armings_reconfigured iface new.config)
  | @updateRestarted new live changed =>
      exact .of_start (armings_reconfigured iface new.config)
        (coherent.idle_reconfigured live new).testProc

end Steps

/-! ## Runs -/

section Runs

variable {ctx : InterfaceTesterShared} {name : String} {config : AcceptedConfig}
variable {isConnected : Bool} {launch : Launch} {inputs : List Input}

/-- An interface that begins sets the settling timer, if it is connected. -/
theorem armings_begun (ctx : InterfaceTesterShared) (name : String) (config : AcceptedConfig)
    (isConnected : Bool) (launch : Launch) :
    armings (begun ctx name config isConnected launch).trace =
      if isConnected then [(.settlingDelay, timeoutMsecs config.config.settlingDelaySecs)]
      else [] := by
  have before : armings (beforeBegin ctx name config).trace = [] := by
    unfold beforeBegin
    rw [trace_transitionToOperationalState]
    simp [interfaceTesterAlloc, Observation.arming?]
  have same : (beforeBegin ctx name config).config = config.config := by
    unfold beforeBegin
    rw [transitionToOperationalState_eq]
  rw [begun_eq]
  cases isConnected with
  | true =>
      simp [connectionStateTransition, settlingDelayTimerStart, before, same, timeoutMsecs,
        Observation.arming?]
  | false => simpa using before

/-- **A timer is set exactly when its seconds are not too many.** Whenever the
program sets a timer, the `int` that it gives to `uloop` is 1000 times the
selected seconds if and only if these are at most `maxTimeoutSecs`. -/
theorem timers_exact_iff :
    (∀ arming ∈ armings (begun ctx name config isConnected launch).trace,
      arming.1 = .settlingDelay ∧
        (arming.2.toInt = 1000 * (config.config.settlingDelaySecs.toNat : Int) ↔
          config.config.settlingDelaySecs.toNat ≤ maxTimeoutSecs)) ∧
    ∀ s input t, Takes step (begun ctx name config isConnected launch) inputs s input t →
      ∃ armed, armings t.trace = armings s.trace ++ armed ∧ ∀ arming ∈ armed,
        (arming.2.toInt = 1000 * ((selectedSecs s t arming.1).toNat : Int) ↔
          (selectedSecs s t arming.1).toNat ≤ maxTimeoutSecs) := by
  constructor
  · intro arming member
    rw [armings_begun] at member
    split at member
    · rw [List.mem_singleton.mp member]
      exact ⟨rfl, timeoutMsecs_exact_iff _⟩
    · cases member
  · rintro s ⟨cb, answer⟩ t taken
    have coherent := coherent_of_visits taken.source
    obtain ⟨armed, added, selected⟩ :=
      (step_move coherent taken.step_eq).arms coherent (indicesInRange_of_visits taken.source)
    refine ⟨armed, added, fun arming member => ?_⟩
    rw [selected arming member]
    exact timeoutMsecs_exact_iff _

end Runs

/-- A settling delay of fifty days. -/
def lateSettling : AcceptedConfig where
  config := { (eagerConfig []).config with settlingDelaySecs := 4294968 }
  accepted :=
    { validated := (eagerConfig []).accepted.validated
      listed := (eagerConfig []).accepted.listed
      testsNonempty := (eagerConfig []).accepted.testsNonempty }

/-- The fifty days are over after 704 milliseconds. -/
theorem not_timers_exact :
    ¬ ∀ ctx name (config : AcceptedConfig) launch,
      ∀ arming ∈ armings (begun ctx name config true launch).trace,
        arming.2.toInt = 1000 * (config.config.settlingDelaySecs.toNat : Int) := by
  intro exact
  have set := exact connectedShared "wan" lateSettling .refused
    (.settlingDelay, timeoutMsecs lateSettling.config.settlingDelaySecs)
    (by rw [armings_begun]; exact List.mem_singleton.mpr rfl)
  exact absurd set (by decide)

end IfaceTester
