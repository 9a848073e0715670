import IfaceTester.Verdict

/-!
# Thresholds and reconfiguration

The code compares the count of passes with the pass threshold by equality and
tests the count of failures for a multiple of the failure threshold. Either
test is missed when `config_update` puts a threshold below a count that is kept.
`SafeUpdate` says which updates cannot do that, and under such updates the
thresholds in force are honoured after every completed run.
-/

set_option autoImplicit false

namespace IfaceTester

open Runs

/-- No threshold in force has been reached without its consequence. -/
structure ThresholdsHonoured (iface : Interface) : Prop where
  passes : iface.recovery.state = .broken →
    iface.tester.stats.testRuns.consecutivePasses < iface.config.passThreshold.toUInt64
  failures : iface.recovery.state = .operational →
    iface.tester.stats.testRuns.consecutiveFailures < iface.config.failThreshold.toUInt64

/-- With these thresholds the next result cannot step over one of them: a pass
at most meets the pass threshold, and a failure stays below the failure
threshold or meets a multiple of it. -/
structure Meets (state : RecoveryState) (passes failures : UInt64)
    (passThreshold failThreshold : UInt32) : Prop where
  broken : state = .broken → passes + 1 ≤ passThreshold.toUInt64
  operational : state = .operational →
    failures + 1 < failThreshold.toUInt64 ∨ (failures + 1) % failThreshold.toUInt64 = 0

/-- The new configuration has no threshold that the counts have passed. -/
def SafeUpdate (iface : Interface) (new : InterfaceConfig) : Prop :=
  Meets iface.recovery.state iface.tester.stats.testRuns.consecutivePasses
    iface.tester.stats.testRuns.consecutiveFailures new.passThreshold new.failThreshold

/-! ## Completed runs -/

section Arithmetic

variable {threshold : UInt32} {count : UInt64}

theorem zero_lt_toUInt64 (positive : 0 < threshold) : 0 < threshold.toUInt64 := by
  have := UInt32.lt_iff_toNat_lt.mp positive
  exact UInt64.lt_iff_toNat_lt.mpr (by simpa using this)

/-- Below a 32-bit threshold a 64-bit counter does not wrap. -/
theorem add_one_toNat_of_lt (below : count < threshold.toUInt64) :
    (count + 1).toNat = count.toNat + 1 := by
  have small := UInt32.toNat_lt threshold
  have below := UInt64.lt_iff_toNat_lt.mp below
  rw [UInt32.toNat_toUInt64] at below
  rw [UInt64.toNat_add]
  exact Nat.mod_eq_of_lt (by simp; omega)

theorem add_one_le_of_lt (below : count < threshold.toUInt64) :
    count + 1 ≤ threshold.toUInt64 := by
  have next := add_one_toNat_of_lt below
  have below := UInt64.lt_iff_toNat_lt.mp below
  exact UInt64.le_iff_toNat_le.mpr (by omega)

/-- A count below the threshold stays below it or meets it with one more. -/
theorem add_one_meets (below : count < threshold.toUInt64) :
    count + 1 < threshold.toUInt64 ∨ (count + 1) % threshold.toUInt64 = 0 := by
  rcases UInt64.lt_or_eq_of_le (add_one_le_of_lt below) with short | met
  · exact .inl short
  · right
    rw [met]
    exact UInt64.toNat_inj.mp (by simp)

end Arithmetic

namespace Ledger

/-- The thresholds of the ledger are honoured. -/
def Honoured (ledger : Ledger) : Prop :=
  (ledger.state = .broken → ledger.consecutivePasses < ledger.config.passThreshold.toUInt64) ∧
    (ledger.state = .operational →
      ledger.consecutiveFailures < ledger.config.failThreshold.toUInt64)

/-- The next result cannot step over a threshold of the ledger. -/
def Ready (ledger : Ledger) : Prop :=
  Meets ledger.state ledger.consecutivePasses ledger.consecutiveFailures
    ledger.config.passThreshold ledger.config.failThreshold

variable {ledger : Ledger}

/-- Where the thresholds are honoured, the next result cannot step over them. -/
theorem Honoured.ready (honoured : ledger.Honoured) : ledger.Ready :=
  ⟨fun broken => add_one_le_of_lt (honoured.1 broken),
    fun operational => add_one_meets (honoured.2 operational)⟩

/-- **A completed run honours the thresholds** when its result cannot step over
one. -/
theorem Ready.honoured_completed (ready : ledger.Ready) (accepted : ledger.config.Accepted)
    (passed : Bool) : (ledger.completed passed).1.Honoured := by
  have passes := zero_lt_toUInt64 accepted.passThreshold_pos
  have failures := zero_lt_toUInt64 accepted.failThreshold_pos
  cases passed with
  | true =>
      simp only [completed, if_true]
      cases restores : ledger.restores with
      | true =>
          rw [if_pos rfl]
          exact ⟨fun broken => (by cases broken), fun _ => failures⟩
      | false =>
          rw [if_neg Bool.false_ne_true]
          refine ⟨fun broken => ?_, fun _ => failures⟩
          have other : ledger.consecutivePasses + 1 ≠ ledger.config.passThreshold.toUInt64 := by
            intro met
            have broken : ledger.state = .broken := broken
            simp [Ledger.restores, broken, met] at restores
          exact UInt64.lt_of_le_of_ne (ready.broken broken) other
  | false =>
      simp only [completed, Bool.false_eq_true, if_false]
      cases escalates : ledger.escalates with
      | true =>
          rw [if_pos rfl]
          split <;> exact ⟨fun _ => passes, fun operational => (by cases operational)⟩
      | false =>
          rw [if_neg Bool.false_ne_true]
          refine ⟨fun _ => passes, fun operational => ?_⟩
          rcases ready.operational operational with below | multiple
          · exact below
          · -- The counter has wrapped around, and zero is below the threshold.
            have wrapped : ledger.consecutiveFailures + 1 = 0 := by
              by_contra positive
              have counted := UInt64.pos_iff_ne_zero.mpr positive
              simp [Ledger.escalates, multiple, counted] at escalates
            show ledger.consecutiveFailures + 1 < _
            rw [wrapped]
            exact failures

end Ledger

/-! ## Runs -/

theorem thresholdsHonoured_of_ledger {iface : Interface} (honoured : iface.ledger.Honoured) :
    ThresholdsHonoured iface := ⟨honoured.1, honoured.2⟩

section Runs

variable {ctx : InterfaceTesterShared} {name : String} {config : AcceptedConfig}
variable {isConnected : Bool} {launch : Launch} {inputs : List Input}

/-- A run whose updates are safe keeps the thresholds ahead of the counts. -/
theorem ready_step {s t : Interface} {input : Input} (coherent : Coherent s)
    (taken : step s input = some t) (ready : s.ledger.Ready)
    (safe : ∀ new, input.1 = .configUpdate new →
      configChanged s.ctx.withMetricsAdjustment s.config new.config = true →
      SafeUpdate s new.config) :
    t.ledger.Ready ∧ (completedRuns t.trace ≠ completedRuns s.trace → t.ledger.Honoured) := by
  obtain ⟨cb, answer⟩ := input
  have moved := (step_move coherent taken).ledgerMove coherent
  cases moved with
  | kept cb ledger quiet =>
      rw [ledger, completedRuns_eq, completedRuns_eq, quiet]
      exact ⟨ready, fun changed => absurd rfl changed⟩
  | reconfigured new changed ledger quiet =>
      rw [ledger, completedRuns_eq, completedRuns_eq, quiet]
      exact ⟨safe new rfl changed, fun changed => absurd rfl changed⟩
  | completed cb passed ledger seen =>
      have honoured := ready.honoured_completed coherent.accepted passed
      rw [ledger]
      exact ⟨honoured.ready, fun _ => honoured⟩

theorem ready_begun : (begun ctx name config isConnected launch).ledger.Ready := by
  have failures := zero_lt_toUInt64 config.accepted.failThreshold_pos
  refine Ledger.Honoured.ready ⟨?_, ?_⟩ <;> rw [(ledger_begun ctx name config isConnected launch).1]
  · intro broken
    cases broken
  · intro _
    exact failures

/-- **The thresholds in force are honoured after every completed run**, in each
run whose configuration updates are safe where they are made. -/
theorem thresholds_honoured_of_safe_updates
    (safe : ∀ s new answer t, Takes step (begun ctx name config isConnected launch) inputs s
      (.configUpdate new, answer) t →
      configChanged s.ctx.withMetricsAdjustment s.config new.config = true →
      SafeUpdate s new.config)
    {s t : Interface} {input : Input}
    (taken : Takes step (begun ctx name config isConnected launch) inputs s input t)
    (completes : completedRuns t.trace ≠ completedRuns s.trace) : ThresholdsHonoured t := by
  have ready : s.ledger.Ready := by
    refine visits_of_invariant (I := fun iface => iface.ledger.Ready) ?_ ready_begun taken.source
    rintro u ⟨cb, answer⟩ v earlier ready
    refine (ready_step (coherent_of_visits earlier.source) earlier.step_eq ready ?_).1
    rintro new rfl
    exact safe u new answer v earlier
  obtain ⟨cb, answer⟩ := input
  refine thresholdsHonoured_of_ledger
    ((ready_step (coherent_of_visits taken.source) taken.step_eq ready ?_).2 completes)
  rintro new rfl
  exact safe s new answer t taken

end Runs

/-- The failure threshold rises before the connection settles, and the interface
breaks at the second failure. -/
def raisedThreshold : List Input :=
  [(.configUpdate (pingConfig 1 2 (by decide) []), .refused),
    (.settlingDelayTimerExpired, .forked 7), (.testProcExited 256, .refused),
    (.testIntervalTimerExpired, .forked 8)]

theorem thresholds_honoured_after_raise : ∃ s t,
    Takes step (begun connectedShared "wan" (eagerConfig []) true .refused)
      (raisedThreshold ++ [(.testProcExited 256, .refused)]) s (.testProcExited 256, .refused) t ∧
      ThresholdsHonoured t := by
  have counted : ((run step
      (begun connectedShared "wan" (eagerConfig []) true .refused)
      raisedThreshold).bind fun s => (step s (.testProcExited 256, .refused)).map fun t =>
        (completedRuns s.trace, completedRuns t.trace)) = some ([false], [false, false]) := by
    decide +kernel
  obtain ⟨s, reached, stepped⟩ := Option.bind_eq_some_iff.mp counted
  obtain ⟨t, taken, runs⟩ := Option.map_eq_some_iff.mp stepped
  obtain ⟨before, after⟩ := Prod.mk.inj runs
  have takes : Takes step _ (raisedThreshold ++ [(.testProcExited 256, .refused)]) s _ t :=
    ⟨raisedThreshold, [], rfl, reached, taken⟩
  refine ⟨s, t, takes, thresholds_honoured_of_safe_updates ?_ takes (by simp [before, after])⟩
  rintro u new answer v ⟨front, back, split, at_u, -⟩ -
  -- The one update of the run is its first input.
  cases front with
  | nil =>
      cases at_u
      simp only [raisedThreshold, List.cons_append, List.nil_append, List.cons.injEq,
        Prod.mk.injEq, Callback.configUpdate.injEq] at split
      rw [← split.1.1]
      exact ⟨fun broken => (by cases broken), fun _ => .inl (by decide)⟩
  | cons first front =>
      exfalso
      have member : (Callback.configUpdate new, answer) ∈
          (raisedThreshold ++ [(Callback.testProcExited 256, Launch.refused)]).tail := by
        rw [split]
        simp
      simp [raisedThreshold] at member

/-- The pass threshold drops from three to one while a broken interface has
passed once. -/
def loweredThreshold : List Input :=
  [(.settlingDelayTimerExpired, .forked 7), (.testProcExited 256, .refused),
    (.testIntervalTimerExpired, .forked 8), (.testProcExited 0, .refused),
    (.configUpdate (eagerConfig []), .forked 9)]

/-- The second pass in a row does not restore the interface, with one pass
required. -/
theorem not_thresholds_honoured_after_update :
    ¬ ∀ ctx name config isConnected launch inputs s input t,
      Takes step (begun ctx name config isConnected launch) inputs s input t →
      completedRuns t.trace ≠ completedRuns s.trace → ThresholdsHonoured t := by
  intro honoured
  have counted : ((run step
      (begun connectedShared "wan" (pingConfig 3 1 (by decide) []) true .refused)
      loweredThreshold).bind fun s => (step s (.testProcExited 0, .refused)).map fun t =>
        ((completedRuns s.trace, completedRuns t.trace), t.recovery.state,
          t.tester.stats.testRuns.consecutivePasses, t.config.passThreshold)) =
      some (([false, true], [false, true, true]), .broken, 2, 1) := by
    decide +kernel
  obtain ⟨s, reached, stepped⟩ := Option.bind_eq_some_iff.mp counted
  obtain ⟨t, taken, facts⟩ := Option.map_eq_some_iff.mp stepped
  simp only [Prod.mk.injEq] at facts
  obtain ⟨⟨before, after⟩, state, passes, threshold⟩ := facts
  have takes : Takes step _ (loweredThreshold ++ [(.testProcExited 0, .refused)]) s _ t :=
    ⟨loweredThreshold, [], rfl, reached, taken⟩
  have below := (honoured _ _ _ _ _ _ s _ t takes (by simp [before, after])).passes state
  rw [passes, threshold] at below
  exact absurd below (by decide)

end IfaceTester
