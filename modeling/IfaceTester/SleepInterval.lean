import IfaceTester.FailureStreaks
import IfaceTester.Overlap
import IfaceTester.Statistics
import IfaceTester.TimerRange
import IfaceTester.Verdict

/-!
# How long a tester sleeps

`tester_sleep` selects the seconds of the interval timer once, when it is called. It
looks at the configuration, the recovery state and the counter of consecutive failures.
None of them changes while the tester sleeps, so the timer holds the seconds that would be
selected in any later state (`Armed`).

A tester sleeps only after a completed run. Its counter is zero when that run passed, and
also when the failures since the last pass are a positive multiple of 2^64. An operational
interface can have so many, since a new configuration may bring a threshold that they do
not meet (`operational_after_failures`).
-/

set_option autoImplicit false

namespace IfaceTester

open Runs Tallies Hysteresis

/-- The timer of a sleeping tester holds the seconds that `tester_sleep` would select. -/
def Armed (iface : Interface) : Prop :=
  iface.tester.state = .sleeping →
    iface.tester.testIntervalTimer.pending = some (timeoutMsecs (sleepIntervalSecs iface))

/-- The tester is between two test runs. -/
def Rests (iface : Interface) : Prop :=
  iface.tester.state = .sleeping ∨ iface.tester.state = .recovering

section Steps

variable {iface t : Interface} {launch : Launch} {cb : Callback}

/-! ## The timer -/

theorem armed_testerSleep (iface : Interface) : Armed (testerSleep iface) := by
  intro _
  rw [testerSleep_eq]
  rfl

theorem armed_of_awake (awake : t.tester.state ≠ .sleeping) : Armed t :=
  fun sleeping => absurd sleeping awake

theorem armed_testerStartConnected (iface : Interface) (launch : Launch) :
    Armed (testerStartConnected iface launch) :=
  armed_of_awake (by simp [state_testerStartConnected])

theorem armed_testerStop (iface : Interface) : Armed (testerStop iface) :=
  armed_of_awake (by simp [testerStop_eq])

theorem RunEnd.armed {passed : Bool} (ended : RunEnd iface launch passed t) : Armed t := by
  cases ended with
  | started met tasks pid memory forked => exact armed_of_awake (by simp [taskStarted])
  | _ => exact armed_testerSleep _

/-- **No callback leaves a sleeping tester with other seconds.** -/
theorem Move.armed (move : Move iface launch cb t) (armed : Armed iface) : Armed t := by
  cases move with
  | ifdownConnected up live =>
      exact armed_testerStop
        { connectionLost iface with tester.starter := .testerStartDisconnected }
  | settled settling stopped => exact armed_testerStartConnected (connectionSettled iface) launch
  | intervalElapsed sleeping =>
      exact armed_testerStartConnected (testerIntervalTimerStop iface) launch
  | requested sleeping => exact armed_testerStartConnected (testerIntervalTimerStop iface) launch
  | testEndsNext testing running how more =>
      have goesOn := (state_nextTest _ launch).trans (how.testing testing)
      exact armed_of_awake fun sleeping => absurd (goesOn.symm.trans sleeping) (by decide)
  | testEndsRun testing running how isOver =>
      exact (interfaceTestRunCompleted_runEnd (how.testing testing) _ launch).armed
  | recoveryEnded status recovering =>
      exact armed_testerSleep (recoveryResponseTimerStop (recoveryTaskExited iface))
  | recoveryTimedOut recovering => exact armed_testerSleep (recoveryTaskKilled iface)
  | updateStopped stopped changed => exact armed_of_awake (by simp [reconfigured, testerStop_eq])
  | @updateRestarted new live changed =>
      exact armed_testerStartConnected (reconfigured iface new.config) launch
  | _ => exact armed

/-! ## The runs before -/

/-- **A tester that rests did so before, or has just completed a run.** -/
theorem Move.rests (move : Move iface launch cb t) (rests : Rests t) :
    Rests iface ∨ completedRuns t.trace ≠ [] := by
  have stopped : ∀ {s : Interface}, ¬ Rests (testerStop s) := by
    intro s
    simp [Rests, testerStop_eq]
  have started : ∀ {s : Interface}, ¬ Rests (testerStartConnected s launch) := by
    intro s
    simp [Rests, state_testerStartConnected]
  cases move with
  | ifdownConnected up live =>
      exact absurd rests (stopped (s := { connectionLost iface with
        tester.starter := .testerStartDisconnected }))
  | settled settling stopped => exact absurd rests started
  | intervalElapsed sleeping => exact .inl (.inl sleeping)
  | requested sleeping => exact .inl (.inl sleeping)
  | testEndsNext testing running how more =>
      have goesOn := (state_nextTest _ launch).trans (how.testing testing)
      rcases rests with asleep | busy
      · exact absurd (goesOn.symm.trans asleep) (by decide)
      · exact absurd (goesOn.symm.trans busy) (by decide)
  | @testEndsRun _ passed event ended testing running how isOver =>
      have ended := interfaceTestRunCompleted_runEnd (how.testing testing) passed launch
      refine .inr ?_
      rw [completedRuns_observe, ended.completedRuns]
      exact List.append_ne_nil_of_right_ne_nil _ (List.cons_ne_nil _ _)
  | recoveryEnded status recovering => exact .inl (.inr recovering)
  | recoveryTimedOut recovering => exact .inl (.inr recovering)
  | updateStopped stopped' changed => exact absurd rests (stopped (s := iface))
  | updateRestarted live changed => exact absurd rests started
  | _ => exact .inl rests

end Steps

/-! ## Runs -/

/-- The seconds that a sleeping tester is to wait. They are those for a passing interface
only when it is operational and the last completed run passed. -/
def dueSecs (iface : Interface) : UInt32 :=
  if iface.recovery.state = .operational ∧ (completedRuns iface.trace).getLast? = some true
  then iface.config.testPassingIntervalSecs
  else iface.config.testFailingIntervalSecs

/-- The failed runs since the last passed one are so many that their counter is zero. -/
def FailuresWrapped (iface : Interface) : Prop :=
  0 < streak false (completedRuns iface.trace) ∧
    UInt64.size ∣ streak false (completedRuns iface.trace)

/-- The two records of the completed runs agree. -/
theorem runResults_recorded (trace : List Observation) :
    runResults (recorded trace) = completedRuns trace := by
  rw [runResults, recorded, List.filterMap_filterMap, completedRuns]
  refine List.filterMap_congr fun seen _ => ?_
  cases seen with
  | testerEvent event state handled => cases event <;> cases state <;> cases handled <;> rfl
  | runRecoveryTask index exec launch =>
      simp only [Observation.recorded?]
      split <;> rfl
  | _ => rfl

section Runs

variable {ctx : InterfaceTesterShared} {name : String} {config : AcceptedConfig}
variable {isConnected : Bool} {launch : Launch} {inputs : List Input} {t : Interface}

/-- A tester does not rest at the beginning. -/
theorem not_rests_begun : ¬ Rests (begun ctx name config isConnected launch) := by
  have coherent : Coherent (begun ctx name config isConnected launch) := coherent_begun
  have stopped := coherent.stopped_of_down (down_begun ctx name config isConnected launch)
  simp [Rests, stopped]

theorem armed_of_visits
    (visited : Visits step (begun ctx name config isConnected launch) inputs t) : Armed t := by
  refine visits_of_invariant (I := Armed) ?_ ?_ visited
  · intro s input u taken armed
    exact (step_move (coherent_of_visits taken.source) taken.step_eq).armed armed
  · exact armed_of_awake fun sleeping => not_rests_begun (.inl sleeping)

/-- A tester that rests has completed a run. -/
theorem completedRuns_of_rests
    (visited : Visits step (begun ctx name config isConnected launch) inputs t)
    (rests : Rests t) : completedRuns t.trace ≠ [] := by
  refine visits_of_invariant (I := fun iface => Rests iface → completedRuns iface.trace ≠ [])
    ?_ ?_ visited rests
  · intro s input u taken earlier rests
    have coherent := coherent_of_visits taken.source
    have move := step_move coherent taken.step_eq
    rcases move.rests rests with before | ran
    · intro never
      have kept := (move.ledgerMove coherent).completedRuns
      rw [never] at kept
      exact earlier before (List.prefix_nil.mp kept)
    · exact ran
  · exact fun rests => absurd rests not_rests_begun

/-- **The counter of failures against the history.** -/
theorem consecutiveFailures_eq_zero_iff
    (visited : Visits step (begun ctx name config isConnected launch) inputs t) (rests : Rests t) :
    t.tester.stats.testRuns.consecutiveFailures = 0 ↔
      (completedRuns t.trace).getLast? = some true ∨ FailuresWrapped t := by
  have counts := (counts_of_visits visited).1.consecutiveFailures
  rw [runResults_recorded] at counts
  have ran := completedRuns_of_rests visited rests
  rw [counts, word_eq_zero_iff, FailuresWrapped]
  rcases List.eq_nil_or_concat (completedRuns t.trace) with never | ⟨earlier, last, results⟩
  · exact absurd never ran
  · rw [List.concat_eq_append] at results
    rw [results, List.getLast?_concat]
    cases last with
    | true => simp
    | false => simp

/-- The interval timer was armed with the seconds: `tester_sleep` selects them, and the
timer holds them in milliseconds. -/
structure ArmedWith (iface : Interface) (secs : UInt32) : Prop where
  selected : sleepIntervalSecs iface = secs
  pending : iface.tester.testIntervalTimer.pending = some (timeoutMsecs secs)

/-- **The sleep interval matches the configuration and the history.** A sleeping tester
was armed with the seconds that are due, except when its interface is operational and the
counter of its failures has wrapped. Then it was armed with the seconds for a passing
interface. -/
theorem sleep_interval_due :
    ∀ t, Visits step (begun ctx name config isConnected launch) inputs t →
      t.tester.state = .sleeping →
        (¬ (t.recovery.state = .operational ∧ FailuresWrapped t) → ArmedWith t (dueSecs t)) ∧
        (t.recovery.state = .operational ∧ FailuresWrapped t →
          ArmedWith t t.config.testPassingIntervalSecs) := by
  intro t visited sleeping
  have pending := armed_of_visits visited sleeping
  have zero := consecutiveFailures_eq_zero_iff visited (.inl sleeping)
  constructor
  · intro counted
    have selected : sleepIntervalSecs t = dueSecs t := by
      refine if_congr (and_congr_right fun operational => zero.trans ?_) rfl rfl
      exact or_iff_left fun wrapped => counted ⟨operational, wrapped⟩
    exact ⟨selected, selected ▸ pending⟩
  · rintro ⟨operational, wrapped⟩
    have selected : sleepIntervalSecs t = t.config.testPassingIntervalSecs :=
      if_pos ⟨operational, zero.mpr (.inr wrapped)⟩
    exact ⟨selected, selected ▸ pending⟩

end Runs

/-- After a failed run the tester sleeps for the thirty seconds of a failing interface. -/
theorem sleep_interval_due_failing : ∃ t,
    run step (begun connectedShared "wan" (pingConfig 1 2 (by decide) []) true .refused)
      [(.settlingDelayTimerExpired, .forked 7), (.testProcExited 256, .refused)] = some t ∧
    ArmedWith t 30 := by
  have runs : (run step
      (begun connectedShared "wan" (pingConfig 1 2 (by decide) []) true .refused)
      [(.settlingDelayTimerExpired, .forked 7), (.testProcExited 256, .refused)]).map
      (fun t => (t.tester.state, completedRuns t.trace, dueSecs t)) =
      some (.sleeping, [false], 30) := by
    decide +kernel
  obtain ⟨t, reached, facts⟩ := Option.map_eq_some_iff.mp runs
  simp only [Prod.mk.injEq] at facts
  obtain ⟨sleeping, failed, due⟩ := facts
  refine ⟨t, reached, due ▸ (sleep_interval_due t (visits_last reached) sleeping).1 ?_⟩
  rintro ⟨-, -, wrapped⟩
  rw [failed] at wrapped
  exact absurd (Nat.le_of_dvd Nat.one_pos wrapped) (by decide)

/-- After 2^64 failed runs in a row an operational interface is taken for a passing one. -/
theorem not_sleep_interval_due :
    ¬ ∀ ctx name (config : AcceptedConfig) isConnected launch inputs t,
      Visits step (begun ctx name config isConnected launch) inputs t →
      t.tester.state = .sleeping → ArmedWith t (dueSecs t) := by
  intro due
  obtain ⟨inputs, t, reached, persists⟩ := operational_after_failures (UInt64.size - 1)
  have visited := visits_last reached
  have wrapped : FailuresWrapped t := by
    rw [FailuresWrapped, persists.failed, streak_replicate]
    exact ⟨Nat.succ_pos _, Nat.dvd_refl _⟩
  have zero := (consecutiveFailures_eq_zero_iff visited (.inl persists.sleeping)).mpr (.inr wrapped)
  have lastFailed : (completedRuns t.trace).getLast? = some false := by
    rw [persists.failed, List.replicate_succ', List.getLast?_concat]
  have passing : sleepIntervalSecs t = t.config.testPassingIntervalSecs :=
    if_pos ⟨persists.operational, zero⟩
  have failing : dueSecs t = t.config.testFailingIntervalSecs :=
    if_neg (by simp [lastFailed])
  have pending := (due _ _ _ _ _ _ t visited persists.sleeping).pending
  rw [armed_of_visits visited persists.sleeping, passing, failing] at pending
  obtain ⟨passThreshold, failThreshold, positive, config⟩ := persists.config
  rw [config] at pending
  have same : timeoutMsecs 60 = timeoutMsecs 30 := Option.some.inj pending
  exact absurd same (by decide)

end IfaceTester
