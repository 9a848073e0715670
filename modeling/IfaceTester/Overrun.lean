import IfaceTester.Recovery

/-!
# Recovery tasks that take too long

The response timer of a recovery task kills it, but only in the recovering
state. A disconnect leaves that state and leaves the task running on purpose.
When the timer then expires in the stopped state the event is ignored, and
nothing watches the process any more.
-/

set_option autoImplicit false

namespace IfaceTester

open Runs

/-- Whether the timer has expired outside the recovering state since the last
task was started, after one more thing was seen. -/
def noteTimeout (missed : Bool) : RecoverySeen → Bool
  | .started _ => false
  | .timedOut state => missed || decide (state ≠ .recovering)
  | _ => missed

/-- The response timer has expired since the last recovery task was started, and
the tester was not recovering then. -/
def timeoutMissed (trace : List Observation) : Bool :=
  (recoveriesSeen trace).foldl noteTimeout false

/-- Every recovery process has its timer, until that timer has gone unheeded. -/
structure RecoveryTimed (iface : Interface) : Prop where
  running : iface.recovery.proc.isRunning = true →
    timerIsRunning iface.recovery.responseTimeoutTimer = true ∨ timeoutMissed iface.trace = true
  recovering : iface.tester.state = .recovering → iface.recovery.proc.isRunning = true ∧
    timerIsRunning iface.recovery.responseTimeoutTimer = true

section Steps

variable {iface t : Interface} {launch : Launch} {cb : Callback}

theorem timeoutMissed_of_seen {seen : List RecoverySeen}
    (added : recoveriesSeen t.trace = recoveriesSeen iface.trace ++ seen) :
    timeoutMissed t.trace = seen.foldl noteTimeout (timeoutMissed iface.trace) := by
  rw [timeoutMissed, added, List.foldl_append]
  rfl

/-- A callback leaves no recovery process without its timer, except that the
timer may expire. -/
theorem RecoveryMove.running_timed (move : RecoveryMove iface t cb)
    (timed : iface.recovery.proc.isRunning = true →
      timerIsRunning iface.recovery.responseTimeoutTimer = true ∨
        timeoutMissed iface.trace = true)
    (running : t.recovery.proc.isRunning = true) :
    timerIsRunning t.recovery.responseTimeoutTimer = true ∨ timeoutMissed t.trace = true := by
  have not_running : t.recovery.proc.pending ≠ none := by
    intro emptied
    simp [TesterProcess.isRunning, emptied] at running
  cases move with
  | kept _ kept =>
      have missed := timeoutMissed_of_seen (kept.seen.trans (List.append_nil _).symm)
      rw [kept.timer, missed]
      rcases kept.proc with same | emptied
      · exact timed (by rw [TesterProcess.isRunning, ← same]; exact running)
      · exact absurd emptied not_running
  | started _ pid proc timer state seen => exact .inl timer
  | exited status emptied state seen => exact absurd emptied not_running
  | timedOut recovering emptied state seen => exact absurd emptied not_running
  | timeoutIgnored elsewhere proc state seen =>
      right
      rw [timeoutMissed_of_seen seen]
      simp [noteTimeout, elsewhere]

end Steps

/-! ## Runs -/

section Runs

variable {ctx : InterfaceTesterShared} {name : String} {config : AcceptedConfig}
variable {isConnected : Bool} {launch : Launch} {inputs : List Input}

/-- **A recovery task that overruns is killed in the recovering state.** Every
recovery process has its timer armed until the timer expires in another state.
A timer that expires while the tester is recovering kills the process, and one
that expires while it is stopped leaves the process running. -/
theorem overrun_killed_while_recovering :
    (∀ t, Visits step (begun ctx name config isConnected launch) inputs t → RecoveryTimed t) ∧
    ∀ s answer t, Takes step (begun ctx name config isConnected launch) inputs s
        (.recoveryTaskTimerExpired, answer) t →
      (s.tester.state = .recovering → ∃ pid, s.recovery.proc.pending = some pid ∧
        t.recovery.proc.pending = none ∧ killedPids t.trace = killedPids s.trace ++ [pid]) ∧
      (s.tester.state = .stopped → t.recovery.proc = s.recovery.proc ∧
        killedPids t.trace = killedPids s.trace) := by
  constructor
  · intro t visited
    refine ⟨?_, (coherent_of_visits visited).recovering⟩
    refine visits_of_invariant (I := fun iface => iface.recovery.proc.isRunning = true →
      timerIsRunning iface.recovery.responseTimeoutTimer = true ∨
        timeoutMissed iface.trace = true) ?_ ?_ visited
    · rintro s ⟨cb, answer⟩ u taken timed
      have coherent := coherent_of_visits taken.source
      exact ((step_move coherent taken.step_eq).recoveryMove coherent).running_timed timed
    · intro running
      have vacant := (recoveriesSeen_begun ctx name config isConnected launch).2
      rw [TesterProcess.isRunning, vacant] at running
      cases running
  · intro s answer t taken
    have coherent := coherent_of_visits taken.source
    constructor
    · intro recovering
      obtain ⟨pid, running⟩ := coherent.recoveryPid recovering
      exact ⟨pid, running, recoveryTimedOut_of_step coherent taken.step_eq recovering running⟩
    · intro stopped
      exact recoveryTimeoutIgnored_of_step coherent taken.step_eq (by simp [stopped])

end Runs

/-- A recovery task is started, and it overruns. -/
def taskOverruns : List Input :=
  [(.settlingDelayTimerExpired, .forked 7), (.testProcExited 256, .forked 20),
    (.recoveryTaskTimerExpired, .refused)]

theorem overrun_killed_while_recovering_once : ∃ s t,
    run step (begun connectedShared "wan"
      (eagerConfig [plainTask "renew"]) true .refused)
      (taskOverruns.take 2) = some s ∧
    step s (.recoveryTaskTimerExpired, .refused) = some t ∧ RecoveryTimed s ∧
    ∃ pid, s.recovery.proc.pending = some pid ∧
        t.recovery.proc.pending = none ∧ killedPids t.trace = killedPids s.trace ++ [pid] := by
  have happens : (run step (begun connectedShared "wan"
      (eagerConfig [plainTask "renew"]) true .refused)
      (taskOverruns.take 2)).bind (fun s =>
        (step s (.recoveryTaskTimerExpired, .refused)).map fun _ => s.tester.state) =
      some .recovering := by decide +kernel
  obtain ⟨s, reached, continues⟩ := Option.bind_eq_some_iff.mp happens
  obtain ⟨t, taken, recovering⟩ := Option.map_eq_some_iff.mp continues
  have killed := @overrun_killed_while_recovering connectedShared "wan"
    (eagerConfig [plainTask "renew"]) true .refused taskOverruns
  exact ⟨s, t, reached, taken, killed.1 s ⟨_, _, rfl, reached⟩,
    (killed.2 s .refused t ⟨_, [], rfl, reached, taken⟩).1 recovering⟩

/-- A recovery task is started, the interface goes down, and the task takes too
long. -/
theorem not_overrun_always_killed :
    ¬ ∀ ctx name config isConnected launch inputs t,
      Visits step (begun ctx name config isConnected launch) inputs t →
      t.recovery.proc.isRunning = true →
      timerIsRunning t.recovery.responseTimeoutTimer = true := by
  intro watched
  have runs : (run step (begun connectedShared "wan"
      (eagerConfig [plainTask "renew"]) true .refused)
      [(.settlingDelayTimerExpired, .forked 7), (.testProcExited 256, .forked 20),
        (.ifdown, .refused), (.recoveryTaskTimerExpired, .refused)]).map
      (fun t => (t.recovery.proc.isRunning, timerIsRunning t.recovery.responseTimeoutTimer)) =
      some (true, false) := by decide +kernel
  obtain ⟨t, reached, facts⟩ := Option.map_eq_some_iff.mp runs
  obtain ⟨running, unarmed⟩ := Prod.mk.inj facts
  have armed := watched _ _ _ _ _ _ t (visits_last reached) running
  rw [unarmed] at armed
  exact Bool.false_ne_true armed

end IfaceTester
