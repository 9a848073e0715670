import IfaceTester.ProgramEffects
import IfaceTester.Loads

/-!
# The metrics of routes are given back

An adjustment of the metrics is a state of `netifd`, and `metrics_are_adjusted` is
the only thing that remembers it. The last amount that was requested for a name
(`lastAmount`) and the flag of the interface go together (`Mirrors`), through every
step of the program. The interfaces that a load allocates and frees under the same
name request nothing.
-/

set_option autoImplicit false

namespace IfaceTester

open Runs

/-- The amount in force for a name after one more entry. -/
def latestAmount (name : String) (amount : UInt32) : LogEntry → UInt32
  | .seen other (.adjustMetrics requested) => if other = name then requested else amount
  | _ => amount

/-- The last amount that was requested for a name. Before the first request the
metrics are not adjusted. -/
def lastAmount (name : String) (log : List LogEntry) : UInt32 := log.foldl (latestAmount name) 0

/-- The amount in force and the flag go together, and there is an adjustment only
while the interface is broken. -/
structure Mirrors (amount : UInt32) (held : Holdings) : Prop where
  flag : amount ≠ 0 ↔ held.metricsAreAdjusted = true
  broken : held.metricsAreAdjusted = true → held.recoveryState = .broken

section Effects

variable {name : String} {held held' : Holdings} {amount : UInt32}

theorem latestAmount_of_inert {seen : Observation} (inert : seen.isInert = true) :
    latestAmount name amount (.seen name seen) = amount := by
  cases seen with
  | adjustMetrics requested => cases inert
  | _ => rfl

theorem latestAmount_recoveryState (state : RecoveryState) :
    latestAmount name amount (.seen name (.recoveryState state)) = amount := rfl

theorem latestAmount_adjustMetrics (requested : UInt32) :
    latestAmount name amount (.seen name (.adjustMetrics requested)) = requested := if_pos rfl

/-- **The effects of an interface keep its flag and its amount together.** -/
theorem Effects.mirrors {trace : List Observation} (effects : Effects true held trace held')
    (before : Mirrors amount held) :
    Mirrors ((trace.map (.seen name)).foldl (latestAmount name) amount) held' := by
  induction effects generalizing amount with
  | nil held => exact before
  | inert inert _ ih =>
      rw [List.map_cons, List.foldl_cons, latestAmount_of_inert inert]
      exact ih before
  | testKilled running _ ih => exact ih ⟨before.flag, before.broken⟩
  | recoveryKilled running _ ih => exact ih ⟨before.flag, before.broken⟩
  | testStarted memory forked idle _ ih => exact ih ⟨before.flag, before.broken⟩
  | recoveryStarted memory forked idle _ ih => exact ih ⟨before.flag, before.broken⟩
  | restored _ ih =>
      simp only [if_true, List.cons_append, List.nil_append, List.map_cons, List.foldl_cons]
      rw [latestAmount_recoveryState, latestAmount_adjustMetrics]
      exact ih ⟨by simp, by simp⟩
  | broke increase operational _ ih =>
      by_cases positive : increase > 0
      · have nonzero : increase ≠ 0 := fun zero => by simp [zero] at positive
        simp only [positive, decide_true, Bool.and_self, if_true, List.cons_append, List.nil_append,
          List.map_cons, List.foldl_cons]
        rw [latestAmount_recoveryState, latestAmount_adjustMetrics]
        exact ih ⟨by simp [positive, nonzero], fun _ => rfl⟩
      · simp only [positive, decide_false, Bool.and_false, if_false, Bool.false_eq_true,
          List.nil_append, List.map_cons, List.foldl_cons]
        rw [latestAmount_recoveryState]
        exact ih ⟨by simpa [positive] using before.flag, fun _ => rfl⟩
  | handedBack on adjusted _ ih =>
      rw [List.map_cons, List.foldl_cons, latestAmount_adjustMetrics]
      exact ih ⟨by simp, by simp⟩

theorem LogEffects.mirrors {log : List LogEntry} (effects : LogEffects true name held log held')
    (before : Mirrors amount held) : Mirrors (log.foldl (latestAmount name) amount) held' := by
  induction effects generalizing amount with
  | seen effects => exact effects.mirrors before
  | testExited running _ ih => exact ih ⟨before.flag, before.broken⟩
  | recoveryExited running _ ih => exact ih ⟨before.flag, before.broken⟩

theorem latestAmount_other {other : String} (apart : other ≠ name) (seen : Observation) :
    latestAmount other amount (.seen name seen) = amount := by
  cases seen with
  | adjustMetrics requested => exact if_neg (Ne.symm apart)
  | _ => rfl

/-- The effects of one name request nothing for another. -/
theorem LogEffects.other {metrics : Bool} {log : List LogEntry}
    (effects : LogEffects metrics name held log held') {other : String} (apart : other ≠ name) :
    log.foldl (latestAmount other) amount = amount := by
  induction effects with
  | @seen held held' trace effects =>
      clear effects
      induction trace with
      | nil => rfl
      | cons seen trace ih =>
          rw [List.map_cons, List.foldl_cons, latestAmount_other apart]
          exact ih
  | testExited running _ ih => exact ih
  | recoveryExited running _ ih => exact ih

end Effects

/-- The flags of the tracked interfaces are right, and no other name has an adjustment. -/
structure Balanced (program : Program) : Prop where
  tracked : ∀ name iface, program.interfaces.find name = some iface →
    Mirrors (lastAmount name program.log) iface.holdings
  untracked : ∀ name, program.interfaces.find name = none → lastAmount name program.log = 0

section Steps

variable {ctx : InterfaceTesterShared} {program q : Program}

/-- **Every step keeps the flags and the amounts together.** -/
theorem LogStep.balanced {name : String} (logged : LogStep program q name)
    (on : program.ctx.withMetricsAdjustment = true) (same : q.ctx = program.ctx)
    (before : Balanced program) : Balanced q := by
  obtain ⟨held, held', added, log, effects, holds, holds'⟩ := logged.effects
  rw [on] at effects
  have start : Mirrors (lastAmount name program.log) held := by
    cases found : program.interfaces.find name with
    | none =>
        obtain ⟨-, -, unadjusted⟩ := holds.untracked found
        rw [on, Bool.true_and] at unadjusted
        rw [before.untracked name found]
        exact ⟨by simp [unadjusted], by simp [unadjusted]⟩
    | some iface => exact holds.tracked iface found ▸ before.tracked name iface found
  have after : Mirrors (lastAmount name q.log) held' := by
    unfold lastAmount
    rw [log, List.foldl_append]
    exact effects.mirrors start
  have others : ∀ other, other ≠ name → lastAmount other q.log = lastAmount other program.log := by
    intro other apart
    unfold lastAmount
    rw [log, List.foldl_append]
    exact effects.other apart
  refine ⟨fun other iface found => ?_, fun other untracked => ?_⟩
  · by_cases here : other = name
    · subst here
      exact holds'.tracked iface found ▸ after
    · rw [others other here]
      rw [logged.others other here] at found
      exact before.tracked other iface found
  · by_cases here : other = name
    · subst here
      obtain ⟨-, -, unadjusted⟩ := holds'.untracked untracked
      rw [same, on, Bool.true_and] at unadjusted
      by_contra adjusted
      exact absurd (after.flag.mp adjusted) (by simp [unadjusted])
    · rw [others other here]
      rw [logged.others other here] at untracked
      exact before.untracked other untracked

theorem balanced_moves (moves : ProgramMoves program q) (sound : Sound program)
    (on : program.ctx.withMetricsAdjustment = true) (before : Balanced program) : Balanced q := by
  have all := moves_invariant
    (I := fun later => Sound later ∧ later.ctx = program.ctx ∧ Balanced later) ?_ moves
    ⟨sound, rfl, before⟩
  · exact all.2.2
  · rintro middle next move ⟨sound, same, balanced⟩
    obtain ⟨name, logged⟩ := move.logged sound
    exact ⟨move.sound sound, move.ctx.trans same,
      logged.balanced (same.symm ▸ on) move.ctx balanced⟩

end Steps

/-- **Route metrics are never leaked.** With the build option, the last amount that was
requested for a tracked interface is not zero exactly when `metrics_are_adjusted` is
set, which it is only while the interface is broken. The last amount for any other
name is zero, and after the shutdown it is zero for every name. -/
theorem metrics_never_leaked {ctx : InterfaceTesterShared}
    (on : ctx.withMetricsAdjustment = true) {events : List ProgramEvent} {program : Program}
    (reached : run programStep (configInit ctx) events = some program) :
    (∀ name iface, program.interfaces.find name = some iface →
      (lastAmount name program.log ≠ 0 ↔ iface.recovery.metricsAreAdjusted = true) ∧
      (iface.recovery.metricsAreAdjusted = true → iface.recovery.state = .broken)) ∧
    (∀ name, program.interfaces.find name = none → lastAmount name program.log = 0) ∧
    ∀ name, lastAmount name (interfaceTestersFree program).log = 0 := by
  have start : Balanced (configInit ctx) := ⟨(fun _ _ found => by cases found), fun _ _ => rfl⟩
  have balanced := balanced_moves (run_moves reached) (sound_configInit ctx) on start
  have stopped : run programStep (configInit ctx) (events ++ [.testersFree]) =
      some (interfaceTestersFree program) := run_concat reached rfl
  have after := balanced_moves (run_moves stopped) (sound_configInit ctx) on start
  have current := allCurrent_of_run reached
  refine ⟨fun name iface found => ?_, balanced.untracked,
    fun name => after.untracked name (find_interfaceTestersFree current name)⟩
  have mirrors := balanced.tracked name iface found
  exact ⟨mirrors.flag, mirrors.broken⟩

/-- A program that adjusts metrics. -/
def meteredShared : InterfaceTesterShared := { connectedShared with withMetricsAdjustment := true }

/-- The interface comes up with an increase of five, and its first test fails. -/
def meteredEvents : List ProgramEvent :=
  [.load [.table "interfaces"
      [.table "wan" (.int32 sFailingTestsMetricsIncrease 5 :: (pingEntry 1 1).data)]]
      fun _ => ⟨true, .refused⟩,
    .callback "wan" .settlingDelayTimerExpired (.forked 7),
    .callback "wan" (.testProcExited 256) .refused]

theorem metrics_never_leaked_wan : ∃ program,
    run programStep (configInit meteredShared) meteredEvents = some program ∧
    lastAmount "wan" program.log = 5 ∧
    (∀ name iface, program.interfaces.find name = some iface →
      (lastAmount name program.log ≠ 0 ↔ iface.recovery.metricsAreAdjusted = true) ∧
      (iface.recovery.metricsAreAdjusted = true → iface.recovery.state = .broken)) ∧
    (∀ name, program.interfaces.find name = none → lastAmount name program.log = 0) ∧
    ∀ name, lastAmount name (interfaceTestersFree program).log = 0 := by
  have ran : (run programStep (configInit meteredShared) meteredEvents).map
      (fun program => lastAmount "wan" program.log) = some 5 := by decide +kernel
  obtain ⟨program, reached, adjusted⟩ := Option.map_eq_some_iff.mp ran
  exact ⟨program, reached, adjusted, metrics_never_leaked rfl reached⟩

end IfaceTester
