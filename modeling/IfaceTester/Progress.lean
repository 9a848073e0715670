import IfaceTester.Daemon
import IfaceTester.Activity
import IfaceTester.Indices
import IfaceTester.TestRun
import IfaceTester.Verdict
import IfaceTester.Wedge
import IfaceTester.Foundations.LongRuns

/-!
# Test runs come to an end

While an interface is up and its configuration stays, every wake-up brings the test run to
its end. What is left to do is counted by `workLeft`: the tests of the run, the timer before
them, and what a recovery task has left behind. A wake-up takes something away from it, or
it completes the run. So between two completed runs there are only so many wake-ups, and as
long as the tester is watched there is a next one.
-/

set_option autoImplicit false

namespace IfaceTester

open Runs

/-- The tests that are left of the run, or the timer before the next run with all of them. -/
def testsLeft (iface : Interface) : ℕ :=
  if iface.tester.state = .testing then iface.config.numTests - iface.tester.testIndex
  else iface.config.numTests + 1

/-- What is left of a recovery task: its child and its timer. -/
def recoveryLeft (iface : Interface) : ℕ :=
  iface.recovery.proc.isRunning.toNat +
    (timerIsRunning iface.recovery.responseTimeoutTimer).toNat

/-- The wake-ups that can come before the test run is complete. -/
def workLeft (iface : Interface) : ℕ := testsLeft iface + recoveryLeft iface

section Parts

variable {iface t : Interface} {launch : Launch} {cb : Callback}

theorem testsLeft_of_testing (testing : iface.tester.state = .testing) :
    testsLeft iface = iface.config.numTests - iface.tester.testIndex := if_pos testing

theorem testsLeft_of_elsewhere (elsewhere : iface.tester.state ≠ .testing) :
    testsLeft iface = iface.config.numTests + 1 := if_neg elsewhere

theorem recoveryLeft_le (iface : Interface) : recoveryLeft iface ≤ 2 := by
  unfold recoveryLeft
  have first := Bool.toNat_le iface.recovery.proc.isRunning
  have second := Bool.toNat_le (timerIsRunning iface.recovery.responseTimeoutTimer)
  omega

theorem workLeft_le (iface : Interface) : workLeft iface ≤ iface.config.numTests + 3 := by
  have recovery := recoveryLeft_le iface
  unfold workLeft testsLeft
  split <;> omega

/-- Starting a test leaves the recovery task and the configuration alone. -/
theorem kept_runTest (iface : Interface) (index : ℕ) (launch : Launch) :
    (runTest iface index launch).2.recovery = iface.recovery ∧
      (runTest iface index launch).2.tester.state = iface.tester.state ∧
      (runTest iface index launch).2.tester.testIndex = iface.tester.testIndex ∧
      (runTest iface index launch).2.config = iface.config := by
  unfold runTest
  dsimp only
  split <;> exact ⟨rfl, rfl, rfl, rfl⟩

/-- A test run that starts has all its tests left. -/
theorem workLeft_testerStartConnected (iface : Interface) (launch : Launch) :
    workLeft (testerStartConnected iface launch) = iface.config.numTests + recoveryLeft iface := by
  obtain ⟨recovery, state, index, config⟩ := kept_runTest
    { testerStateTransition iface .testing with tester.testIndex := 0 } 0 launch
  have started : testerStartConnected iface launch = (runTest
    { testerStateTransition iface .testing with tester.testIndex := 0 } 0 launch).2 := rfl
  unfold workLeft recoveryLeft
  rw [started, testsLeft_of_testing state, recovery, index, config]
  rfl

theorem workLeft_nextTest (testing : iface.tester.state = .testing) :
    workLeft (nextTest iface launch) =
      iface.config.numTests - (iface.tester.testIndex + 1) + recoveryLeft iface := by
  obtain ⟨recovery, state, index, config⟩ := kept_runTest
    { iface with tester.testIndex := iface.tester.testIndex + 1 }
    (iface.tester.testIndex + 1) launch
  have started : nextTest iface launch = (runTest
    { iface with tester.testIndex := iface.tester.testIndex + 1 }
    (iface.tester.testIndex + 1) launch).2 := rfl
  unfold workLeft recoveryLeft
  rw [started, testsLeft_of_testing (state.trans testing), recovery, index, config]

/-- The end of a test leaves the recovery task and the index alone. -/
theorem TestEnd.kept_recovery {passed : Bool} {event : TesterEvent} {ended : Interface}
    (how : TestEnd iface cb passed event ended) :
    ended.recovery = iface.recovery ∧ ended.tester.testIndex = iface.tester.testIndex ∧
      ended.config = iface.config ∧ cb.isWakeUp = true := by
  cases how with
  | exited status => exact ⟨rfl, rfl, rfl, rfl⟩
  | timedOut => exact ⟨rfl, rfl, rfl, rfl⟩

/-- A tester that goes to sleep has a timer and all tests left. -/
theorem workLeft_testerSleep (iface : Interface) :
    workLeft (testerSleep iface) = iface.config.numTests + 1 + recoveryLeft iface := by
  unfold workLeft recoveryLeft
  rw [testerSleep_eq, testsLeft_of_elsewhere (by simp)]

end Parts

section Steps

variable {iface t : Interface} {launch : Launch} {cb : Callback}

/-- **A wake-up takes something away from what is left, or completes the run.** -/
theorem Move.workLeft_le (coherent : Coherent iface) (inRange : IndicesInRange iface)
    (up : iface.connection.state ≠ .disconnected) (stays : StaysUp iface cb)
    (taken : step iface (cb, launch) = some t) (move : Move iface launch cb t) :
    cb.isWakeUp.toNat + workLeft t ≤ workLeft iface ∨
      (0 < workLeft iface ∧ ∃ passed,
        completedRuns t.trace = completedRuns iface.trace ++ [passed]) := by
  have one := Bool.toNat_le cb.isWakeUp
  have index := inRange.test
  cases move with
  | ifupArms down => exact absurd down up
  | ifupRedundant up => exact .inl (Nat.zero_add _).le
  | ifdownRedundant down => exact absurd rfl stays.1
  | ifdownSettling settling => exact absurd rfl stays.1
  | ifdownConnected up live => exact absurd rfl stays.1
  | settled settling stopped =>
      left
      have after : workLeft ((testerStartConnected (connectionSettled iface) launch).observe
          (.testerEvent .interfaceSettled .stopped true)) =
          iface.config.numTests + recoveryLeft iface :=
        workLeft_testerStartConnected (connectionSettled iface) launch
      have before : testsLeft iface = iface.config.numTests + 1 :=
        testsLeft_of_elsewhere (by simp [stopped])
      rw [after, workLeft, before]
      omega
  | intervalElapsed sleeping =>
      left
      have after : workLeft ((testerStartConnected (testerIntervalTimerStop iface) launch).observe
          (.testerEvent .intervalTimerElapsed .sleeping true)) =
          iface.config.numTests + recoveryLeft iface :=
        workLeft_testerStartConnected (testerIntervalTimerStop iface) launch
      have before : testsLeft iface = iface.config.numTests + 1 :=
        testsLeft_of_elsewhere (by simp [sleeping])
      rw [after, workLeft, before]
      omega
  | requested sleeping =>
      left
      have after : workLeft ((testerStartConnected (testerIntervalTimerStop iface) launch).observe
          (.testerEvent .testRunRequested .sleeping true)) =
          iface.config.numTests + recoveryLeft iface :=
        workLeft_testerStartConnected (testerIntervalTimerStop iface) launch
      have before : testsLeft iface = iface.config.numTests + 1 :=
        testsLeft_of_elsewhere (by simp [sleeping])
      rw [after, workLeft, before]
      omega
  | requestIgnored awake => exact .inl (Nat.zero_add _).le
  | @testEndsNext _ passed event ended testing running how more =>
      left
      obtain ⟨recovery, testIndex, config, -⟩ := how.kept_recovery
      have after : workLeft ((nextTest (countTest ended passed) launch).observe
          (.testerEvent event .testing true)) =
          ended.config.numTests - (ended.tester.testIndex + 1) + recoveryLeft ended :=
        @workLeft_nextTest (countTest ended passed) launch (how.testing testing)
      have same : recoveryLeft ended = recoveryLeft iface := by
        unfold recoveryLeft
        rw [recovery]
      rw [after, same, testIndex, config, workLeft, testsLeft_of_testing testing]
      omega
  | @testEndsRun _ passed event ended testing running how isOver =>
      right
      refine ⟨?_, passed, ?_⟩
      · rw [workLeft, testsLeft_of_testing testing]
        omega
      · have ended' := interfaceTestRunCompleted_runEnd (how.testing testing) passed launch
        have before : completedRuns (countTest ended passed).trace = completedRuns iface.trace := by
          rw [completedRuns_eq, completedRuns_eq, how.ledger.2]
        rw [completedRuns_observe, ended'.completedRuns, before]
  | recoveryEnded status recovering =>
      left
      have after : workLeft ((testerSleep (recoveryResponseTimerStop (recoveryTaskExited
          iface))).observe (.testerEvent .recoveryTaskEnded .recovering true)) =
          iface.config.numTests + 1 + 0 :=
        workLeft_testerSleep (recoveryResponseTimerStop (recoveryTaskExited iface))
      have before : testsLeft iface = iface.config.numTests + 1 :=
        testsLeft_of_elsewhere (by simp [recovering])
      obtain ⟨running, timer⟩ := coherent.recovering recovering
      rw [after, workLeft, before, recoveryLeft, running, timer]
      simp only [Bool.toNat_true]
      omega
  | recoveryEndIgnored status elsewhere =>
      left
      obtain ⟨running, -⟩ := isRunning_of_step taken
      have after : workLeft ((recoveryTaskExited iface).observe
          (.testerEvent .recoveryTaskEnded iface.tester.state
            (decide (iface.tester.state = .stopped)))) =
          testsLeft iface + (0 + (timerIsRunning iface.recovery.responseTimeoutTimer).toNat) := rfl
      rw [after, workLeft, recoveryLeft, running]
      simp only [Bool.toNat_true]
      omega
  | recoveryTimedOut recovering =>
      left
      have after : workLeft ((testerSleep (recoveryTaskKilled iface)).observe
          (.testerEvent .recoveryTaskTimedOut .recovering true)) =
          iface.config.numTests + 1 + 0 := workLeft_testerSleep (recoveryTaskKilled iface)
      have before : testsLeft iface = iface.config.numTests + 1 :=
        testsLeft_of_elsewhere (by simp [recovering])
      obtain ⟨running, timer⟩ := coherent.recovering recovering
      rw [after, workLeft, before, recoveryLeft, running, timer]
      simp only [Bool.toNat_true]
      omega
  | recoveryTimeoutIgnored elsewhere =>
      left
      obtain ⟨timer, -⟩ := timerIsRunning_of_step taken
      have after : workLeft ((recoveryResponseTimerStop iface).observe
          (.testerEvent .recoveryTaskTimedOut iface.tester.state
            (decide (iface.tester.state = .stopped)))) =
          testsLeft iface + (iface.recovery.proc.isRunning.toNat + 0) := rfl
      rw [after, workLeft, recoveryLeft, timer]
      simp only [Bool.toNat_true]
      omega
  | updateUnchanged same => exact .inl (Nat.zero_add _).le
  | @updateStopped new stopped changed =>
      rw [stays.2 new rfl] at changed
      cases changed
  | @updateRestarted new live changed =>
      rw [stays.2 new rfl] at changed
      cases changed

/-- Such a callback leaves the interface up, under the same configuration. -/
theorem Move.stays_up (up : iface.connection.state ≠ .disconnected)
    (stays : StaysUp iface cb) (move : Move iface launch cb t) :
    t.connection.state ≠ .disconnected ∧ t.config = iface.config := by
  have kept : ∀ u : Interface, u.frame = iface.frame →
      u.connection.state ≠ .disconnected ∧ u.config = iface.config := by
    intro u same
    obtain ⟨-, config⟩ := fields_of_frame same
    have connection : u.connection = iface.connection :=
      congrArg (fun frame => frame.2.2.2.2) same
    exact ⟨connection ▸ up, config⟩
  cases move with
  | ifupArms down => exact absurd down up
  | ifupRedundant up => exact ⟨up, rfl⟩
  | ifdownRedundant down => exact absurd rfl stays.1
  | ifdownSettling settling => exact absurd rfl stays.1
  | ifdownConnected up live => exact absurd rfl stays.1
  | settled settling stopped =>
      have frame : ((testerStartConnected (connectionSettled iface) launch).observe
          (.testerEvent .interfaceSettled .stopped true)).frame =
          (connectionSettled iface).frame := by
        simp
      obtain ⟨-, config⟩ := fields_of_frame frame
      have connection := congrArg (fun frame => frame.2.2.2.2) frame
      refine ⟨?_, config⟩
      have state : ((testerStartConnected (connectionSettled iface) launch).observe
          (.testerEvent .interfaceSettled .stopped true)).connection.state = .connected :=
        congrArg InterfaceConnection.state connection
      rw [state]
      simp
  | intervalElapsed sleeping => exact kept _ (by simp; rfl)
  | requested sleeping => exact kept _ (by simp; rfl)
  | requestIgnored awake => exact kept _ rfl
  | testEndsNext testing running how more =>
      exact kept _ ((frame_observe _ _).trans ((frame_nextTest _ launch).trans how.frame))
  | testEndsRun testing running how isOver => exact kept _ (by simp [how.frame])
  | recoveryEnded status recovering => exact kept _ (by simp; rfl)
  | recoveryEndIgnored status elsewhere => exact kept _ rfl
  | recoveryTimedOut recovering => exact kept _ (by simp; rfl)
  | recoveryTimeoutIgnored elsewhere => exact kept _ rfl
  | updateUnchanged same => exact ⟨up, rfl⟩
  | @updateStopped new stopped changed =>
      rw [stays.2 new rfl] at changed
      cases changed
  | @updateRestarted new live changed =>
      rw [stays.2 new rfl] at changed
      cases changed

/-- The callback that a watched interface waits for. -/
def nextWakeUp (iface : Interface) : Callback :=
  match iface.tester.state with
  | .stopped => .settlingDelayTimerExpired
  | .sleeping => .testIntervalTimerExpired
  | .testing => .testResponseTimerExpired
  | .recovering => .recoveryTaskTimerExpired

/-- **A watched interface that is up will be woken.** -/
theorem step_nextWakeUp (coherent : Coherent iface) (up : iface.connection.state ≠ .disconnected)
    (watched : Watched iface) (launch : Launch) :
    (nextWakeUp iface).isWakeUp = true ∧ (step iface (nextWakeUp iface, launch)).isSome = true := by
  unfold nextWakeUp
  cases state : iface.tester.state with
  | stopped =>
      have settling : iface.connection.state = .settling := by
        cases connection : iface.connection.state with
        | disconnected => exact absurd connection up
        | settling => rfl
        | connected => exact absurd state (coherent.connected.mp connection)
      simp [Callback.isWakeUp, step, watched.settling settling]
  | sleeping => simp [Callback.isWakeUp, step, watched.sleeping state]
  | testing => simp [Callback.isWakeUp, step, (watched.testing state).2]
  | recovering => simp [Callback.isWakeUp, step, (watched.recovering state).2]

end Steps

/-! ## Runs -/

section Runs

variable {ctx : InterfaceTesterShared} {name : String} {config : AcceptedConfig}
variable {isConnected : Bool} {launch : Launch} {past inputs : List Input} {iface t : Interface}

/-- The input wakes the tester up. -/
def wakesUp (input : Input) : Bool := input.1.isWakeUp

/-- The state that a run leads to in which the interface stays up. -/
structure Continues (ctx : InterfaceTesterShared) (name : String) (config : AcceptedConfig)
    (isConnected : Bool) (launch : Launch) (iface t : Interface) : Prop where
  reached : ∃ inputs, Visits step (begun ctx name config isConnected launch) inputs t
  up : t.connection.state ≠ .disconnected
  config : t.config = iface.config
  shared : t.ctx = iface.ctx

theorem Continues.stays {cb : Callback}
    (continues : Continues ctx name config isConnected launch iface t)
    (stays : StaysUp iface cb) : StaysUp t cb :=
  ⟨stays.1, fun new update => by
    rw [continues.shared, continues.config]
    exact stays.2 new update⟩

theorem continues_of_visits
    (reached : run step (begun ctx name config isConnected launch) past = some iface)
    (up : iface.connection.state ≠ .disconnected)
    (stays : ∀ input ∈ inputs, StaysUp iface input.1)
    (visited : Visits step iface inputs t) :
    Continues ctx name config isConnected launch iface t := by
  refine visits_of_invariant
    (I := Continues ctx name config isConnected launch iface) ?_
    ⟨⟨past, visits_last reached⟩, up, rfl, rfl⟩ visited
  rintro s ⟨cb, answer⟩ u taken continues
  obtain ⟨before, after, split, ran, stepped⟩ := taken
  have visited := visits_last (run_concat (run_trans reached ran) stepped)
  have source : Visits step (begun ctx name config isConnected launch) (past ++ before) s :=
    visits_last (run_trans reached ran)
  have move := step_move (coherent_of_visits source) stepped
  have quiet := continues.stays (stays (cb, answer) (by simp [split]))
  obtain ⟨stillUp, config⟩ := move.stays_up continues.up quiet
  exact ⟨⟨_, visited⟩, stillUp, config.trans continues.config,
    move.identity.1.trans continues.shared⟩

/-- **Test runs come to an end.** From any state in which an interface is up, as long as it
does not go down and its configuration stays: the wake-ups that come are at most the number
of tests and three for every test run that is completed and for the one in progress. And as
long as the tester is watched, there is a wake-up still to come. -/
theorem wakeUps_le_completedRuns
    (reached : run step (begun ctx name config isConnected launch) past = some iface)
    (up : iface.connection.state ≠ .disconnected)
    (stays : ∀ input ∈ inputs, StaysUp iface input.1)
    (ran : run step iface inputs = some t) :
    ∃ completed, completedRuns t.trace = completedRuns iface.trace ++ completed ∧
      inputs.countP wakesUp ≤ (iface.config.numTests + 3) * (completed.length + 1) ∧
      (Watched t → ∃ cb, cb.isWakeUp = true ∧ ∀ answer, (step t (cb, answer)).isSome = true) := by
  have continues : ∀ {u}, Visits step iface inputs u →
      Continues ctx name config isConnected launch iface u :=
    continues_of_visits reached up stays
  have coherent : ∀ {u}, Visits step iface inputs u → Coherent u := by
    intro u visited
    obtain ⟨_, there⟩ := (continues visited).reached
    exact coherent_of_visits there
  have grows : ∀ {s input u}, Takes step iface inputs s input u →
      completedRuns s.trace <+: completedRuns u.trace := fun taken =>
    ((step_move (coherent taken.source) taken.step_eq).ledgerMove
      (coherent taken.source)).completedRuns
  obtain ⟨completed, more⟩ := visits_of_invariant
    (I := fun u : Interface => completedRuns iface.trace <+: completedRuns u.trace)
    (fun _ _ _ taken before => before.trans (grows taken)) (List.prefix_refl _) (visits_last ran)
  refine ⟨completed, more.symm, ?_, fun watched => ?_⟩
  · have counted := @run_account _ _ step iface t inputs
      (fun u => (workLeft u : ℤ) -
        ((iface.config.numTests + 3) * (completedRuns u.trace).length : ℕ))
      wakesUp (fun _ => false) (fun s input u taken => by
        obtain ⟨cb, answer⟩ := input
        have source := continues taken.source
        obtain ⟨_, there⟩ := source.reached
        have quiet : StaysUp s cb := source.stays (stays _ taken.mem)
        have move := step_move (coherent taken.source) taken.step_eq
        have longer := (grows taken).length_le
        have bound := workLeft_le u
        rw [(continues taken.target).config] at bound
        have one := Bool.toNat_le cb.isWakeUp
        simp only [wakesUp, Bool.toNat_false]
        rcases move.workLeft_le (coherent taken.source) (indicesInRange_of_visits there) source.up
          quiet taken.step_eq with less | ⟨tested, passed, done⟩
        · have scaled := Nat.mul_le_mul_left (iface.config.numTests + 3) longer
          omega
        · rw [done, List.length_append, List.length_singleton, Nat.mul_add]
          omega) ran
    have bound := workLeft_le iface
    have noClock : inputs.countP (fun _ => false) = 0 := by simp
    rw [← more, List.length_append, Nat.mul_add, noClock] at counted
    rw [Nat.mul_add]
    omega
  · have last := continues (visits_last ran)
    exact ⟨nextWakeUp t, (step_nextWakeUp (coherent (visits_last ran)) last.up watched
      .refused).1, fun answer => (step_nextWakeUp (coherent (visits_last ran)) last.up watched
        answer).2⟩

/-! ## A tester that nothing wakes -/

/-- An untended tester stays as it is while its interface stays up. -/
theorem Move.stays_untended {s u : Interface} {answer : Launch} {cb : Callback}
    (coherent : Coherent s) (untended : Untended s) (stays : StaysUp s cb)
    (move : Move s answer cb u) :
    u.tester = s.tester ∧ completedRuns u.trace = completedRuns s.trace ∧
      operationalEvents u.trace = operationalEvents s.trace := by
  obtain ⟨testing, idle⟩ := untended
  have up := coherent.connected.mpr (by simp [testing])
  have observed : ∀ (event : TesterEvent) (state : TesterState) (handled : Bool) (w : Interface),
      w.trace = s.trace →
      completedRuns (w.observe (.testerEvent event state handled)).trace = completedRuns s.trace ∧
        operationalEvents (w.observe (.testerEvent event state handled)).trace =
          operationalEvents s.trace := by
    intro event state handled w same
    rw [completedRuns_observe, operationalEvents_eq, verdicts_observe, ← operationalEvents_eq, same]
    exact ⟨rfl, rfl⟩
  cases move with
  | ifupArms down => simp [down] at up
  | ifupRedundant up => exact ⟨rfl, rfl, rfl⟩
  | ifdownRedundant down => exact ⟨rfl, rfl, rfl⟩
  | ifdownSettling settling => exact absurd rfl stays.1
  | ifdownConnected up live => exact absurd rfl stays.1
  | settled settling stopped => simp [testing] at stopped
  | intervalElapsed sleeping => simp [testing] at sleeping
  | requested sleeping => simp [testing] at sleeping
  | requestIgnored awake => exact ⟨rfl, observed _ _ _ s rfl⟩
  | testEndsNext testing running how more => simp [idle] at running
  | testEndsRun testing running how isOver => simp [idle] at running
  | recoveryEnded status recovering => simp [testing] at recovering
  | recoveryEndIgnored status elsewhere => exact ⟨rfl, observed _ _ _ (recoveryTaskExited s) rfl⟩
  | recoveryTimedOut recovering => simp [testing] at recovering
  | recoveryTimeoutIgnored elsewhere =>
      exact ⟨rfl, observed _ _ _ (recoveryResponseTimerStop s) rfl⟩
  | updateUnchanged same => exact ⟨rfl, rfl, rfl⟩
  | @updateStopped new stopped changed =>
      rw [stays.2 new rfl] at changed
      cases changed
  | @updateRestarted new live changed =>
      rw [stays.2 new rfl] at changed
      cases changed

/-- **Only a lost connection or a new configuration ends the wait for a test that is not
there.** From a state in which the tester is untended, no request, no timer and no child
makes it complete a run, report anything or change what it knows, for as long as nothing
else happens. A callback ends the wait exactly when it takes the interface down, or brings a
changed configuration and its first test gets started. -/
theorem untended_until_restarted
    (reached : run step (begun ctx name config isConnected launch) past = some iface)
    (untended : Untended iface) :
    (∀ inputs t, (∀ input ∈ inputs, StaysUp iface input.1) →
      run step iface inputs = some t → Untended t ∧ t.tester = iface.tester ∧
        completedRuns t.trace = completedRuns iface.trace ∧
        operationalEvents t.trace = operationalEvents iface.trace) ∧
    ∀ cb answer t, step iface (cb, answer) = some t →
      (¬ Untended t ↔ cb = .ifdown ∨ (¬ StaysUp iface cb ∧ answer.succeeds = true)) := by
  have coherent := coherent_of_visits (visits_last reached)
  have connected := coherent.connected.mpr (by simp [untended.1])
  have up : iface.connection.state ≠ .disconnected := by simp [connected]
  refine ⟨fun inputs t stays ran => ?_, fun cb answer t taken => ?_⟩
  · have same := visits_of_invariant (I := fun u : Interface => u.tester = iface.tester ∧
        completedRuns u.trace = completedRuns iface.trace ∧
        operationalEvents u.trace = operationalEvents iface.trace) (fun s input u taken before => by
      obtain ⟨cb, answer⟩ := input
      have source := continues_of_visits reached up stays taken.source
      obtain ⟨_, there⟩ := source.reached
      have waits : Untended s := by
        unfold Untended
        rw [before.1]
        exact untended
      obtain ⟨tester, runs, events⟩ := (step_move (coherent_of_visits there)
        taken.step_eq).stays_untended (coherent_of_visits there) waits
          (source.stays (stays _ taken.mem))
      exact ⟨tester.trans before.1, runs.trans before.2.1, events.trans before.2.2⟩)
      ⟨rfl, rfl, rfl⟩ (visits_last ran)
    refine ⟨?_, same⟩
    unfold Untended
    rw [same.1]
    exact untended
  · have move := step_move coherent taken
    by_cases stays : StaysUp iface cb
    · have same := (move.stays_untended coherent untended stays).1
      have waits : Untended t := by
        unfold Untended
        rw [same]
        exact untended
      simp [waits, stays, stays.1]
    · by_cases down : cb = .ifdown
      · subst down
        have left : ¬ Untended t := by
          cases move with
          | ifdownRedundant down => simp [connected] at down
          | ifdownSettling settling => simp [connected] at settling
          | ifdownConnected up live =>
              refine not_untended_of_state ?_
              show (testerDisconnectedHandler (connectionLost iface)).tester.state ≠ .testing
              unfold testerDisconnectedHandler
              rw [testerStop_eq]
              simp
          | testEndsNext testing running how more => cases how
          | testEndsRun testing running how isOver => cases how
        simp [left]
      · obtain ⟨new, rfl, changed⟩ : ∃ new, cb = .configUpdate new ∧
            configChanged iface.ctx.withMetricsAdjustment iface.config new.config = true := by
          by_contra kept
          refine stays ⟨down, fun new update => ?_⟩
          by_contra differs
          exact kept ⟨new, update, eq_true_of_ne_false differs⟩
        have starts : startsTest iface (.configUpdate new) = true := by
          simp [startsTest, untended.1, changed]
        rw [move.untended_iff coherent starts]
        simp [stays]

end Runs

/-! ## One interface -/

/-- The first test of the interface passes. -/
theorem wakeUps_le_completedRuns_wan : ∃ t completed,
    run step (begun connectedShared "wan" (eagerConfig []) true .refused) firstTestPassed = some t ∧
    completedRuns t.trace = completed ∧ firstTestPassed.countP wakesUp = 2 ∧
    firstTestPassed.countP wakesUp ≤ (1 + 3) * (completed.length + 1) := by
  have happens : (run step (begun connectedShared "wan" (eagerConfig []) true .refused)
      firstTestPassed).isSome = true := by decide +kernel
  obtain ⟨t, ran⟩ := Option.isSome_iff_exists.mp happens
  have stays : ∀ input ∈ firstTestPassed, StaysUp
      (begun connectedShared "wan" (eagerConfig []) true .refused) input.1 := by
    intro input member
    simp only [firstTestPassed, List.mem_cons, List.not_mem_nil, or_false] at member
    rcases member with rfl | rfl <;> exact ⟨by simp, by simp⟩
  obtain ⟨completed, more, bound, -⟩ :=
    @wakeUps_le_completedRuns connectedShared "wan" (eagerConfig []) true .refused []
      firstTestPassed _ t rfl (by decide +kernel) stays ran
  exact ⟨t, completed, ran, more, rfl, bound⟩

/-- The first test of the interface is not forked. -/
theorem untended_until_restarted_wan : ∃ iface,
    run step (begun connectedShared "wan" (eagerConfig []) true .refused)
      [(.settlingDelayTimerExpired, .refused)] = some iface ∧ Untended iface ∧
    ∀ t, run step iface [(.startTestRun, .forked 8), (.ifup, .refused)] = some t → Untended t := by
  have happens : (run step (begun connectedShared "wan" (eagerConfig []) true .refused)
      [(.settlingDelayTimerExpired, .refused)]).map (fun iface =>
        (iface.tester.state, iface.tester.testProc.isRunning)) = some (.testing, false) := by
    decide +kernel
  obtain ⟨iface, reached, facts⟩ := Option.map_eq_some_iff.mp happens
  obtain ⟨testing, idle⟩ := Prod.mk.inj facts
  refine ⟨iface, reached, ⟨testing, idle⟩, fun t ran => ?_⟩
  refine ((untended_until_restarted reached ⟨testing, idle⟩).1 _ t ?_ ran).1
  intro input member
  simp only [List.mem_cons, List.not_mem_nil, or_false] at member
  rcases member with rfl | rfl <;> exact ⟨by simp, by simp⟩

end IfaceTester
