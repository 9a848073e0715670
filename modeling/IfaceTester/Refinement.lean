import IfaceTester.Thresholds
import IfaceTester.Foundations.Announcements
import IfaceTester.Foundations.Histories

/-!
# The tester is a hysteresis

Under one configuration the ledger carries out the two-threshold machine of the
library, with the thresholds of the configuration. So the recovery state can be
read off the windows of the history of completed runs, and the operational
events that were sent tell its changes.
-/

set_option autoImplicit false

namespace IfaceTester

open Runs Hysteresis Alternation

/-! ## One completed run -/

namespace Ledger

/-- The ledger remembers what the machine remembers. -/
def Remembers (ledger : Ledger) : Standing → Prop
  | .operational failures =>
      ledger.state = .operational ∧ ledger.consecutiveFailures.toNat = failures
  | .broken passes => ledger.state = .broken ∧ ledger.consecutivePasses.toNat = passes

variable {ledger : Ledger} {passes failures : ℕ}

theorem Remembers.isBroken_iff {standing : Standing} (remembers : ledger.Remembers standing) :
    ledger.state = .broken ↔ standing.IsBroken := by
  cases standing with
  | operational failures => exact iff_of_false (by simp [remembers.1]) id
  | broken passes => exact iff_of_true remembers.1 trivial

/-- A count below the threshold meets it exactly when one more makes it equal. -/
theorem add_one_eq_toUInt64_iff {count : UInt64} {threshold : UInt32}
    (below : count.toNat < threshold.toNat) :
    count + 1 = threshold.toUInt64 ↔ threshold.toNat ≤ count.toNat + 1 := by
  have below' : count < threshold.toUInt64 := UInt64.lt_iff_toNat_lt.mpr (by simpa using below)
  have next := add_one_toNat_of_lt below'
  rw [← UInt64.toNat_inj, next, UInt32.toNat_toUInt64]
  omega

/-- A count below the threshold meets a multiple exactly when one more makes it
equal. -/
theorem add_one_mod_eq_zero_iff {count : UInt64} {threshold : UInt32}
    (below : count.toNat < threshold.toNat) :
    (count + 1 > 0 ∧ (count + 1) % threshold.toUInt64 = 0) ↔
      threshold.toNat ≤ count.toNat + 1 := by
  have below' : count < threshold.toUInt64 := UInt64.lt_iff_toNat_lt.mpr (by simpa using below)
  have next := add_one_toNat_of_lt below'
  rw [← UInt64.toNat_inj, gt_iff_lt, UInt64.lt_iff_toNat_lt, UInt64.toNat_mod, next,
    UInt32.toNat_toUInt64]
  constructor
  · rintro ⟨-, multiple⟩
    by_contra short
    rw [Nat.mod_eq_of_lt (by omega)] at multiple
    simp at multiple
  · intro met
    have same : count.toNat + 1 = threshold.toNat := by omega
    rw [same, Nat.mod_self]
    exact ⟨by simp; omega, rfl⟩

theorem escalates_iff (accepted : ledger.config.Accepted) :
    ledger.escalates = true ↔ ledger.consecutiveFailures + 1 > 0 ∧
      (ledger.consecutiveFailures + 1) % ledger.config.failThreshold.toUInt64 = 0 := by
  have nonzero : ledger.config.failThreshold ≠ 0 :=
    UInt32.pos_iff_ne_zero.mp accepted.failThreshold_pos
  simp [escalates, nonzero]

/-- **A completed run is one step of the machine**, as long as the counts that
the machine remembers are below the thresholds. -/
theorem Remembers.completed (accepted : ledger.config.Accepted) {standing : Standing}
    {history : List Bool} (remembers : ledger.Remembers standing)
    (describes : standing.Describes ledger.config.passThreshold.toNat
      ledger.config.failThreshold.toNat history) (passed : Bool) :
    (ledger.completed passed).1.Remembers (standing.next ledger.config.passThreshold.toNat
      ledger.config.failThreshold.toNat passed) := by
  cases standing with
  | operational failures =>
      obtain ⟨state, rfl⟩ := remembers
      obtain ⟨-, -, below⟩ := describes
      cases passed with
      | true =>
          have kept : ledger.restores = false := by simp [restores, state]
          simp only [Ledger.completed, kept, if_true, Bool.false_eq_true, if_false]
          exact ⟨state, rfl⟩
      | false =>
          have met := (escalates_iff accepted).trans (add_one_mod_eq_zero_iff below)
          simp only [Ledger.completed, Standing.next, ← met, Bool.false_eq_true, if_false]
          cases escalates : ledger.escalates with
          | true =>
              rw [if_pos rfl, if_pos rfl]
              split <;> exact ⟨rfl, rfl⟩
          | false =>
              rw [if_neg Bool.false_ne_true, if_neg Bool.false_ne_true]
              exact ⟨state, add_one_toNat_of_lt (UInt64.lt_iff_toNat_lt.mpr (by simpa using below))⟩
  | broken passes =>
      obtain ⟨state, rfl⟩ := remembers
      obtain ⟨-, -, below⟩ := describes
      cases passed with
      | true =>
          have met : ledger.restores = true ↔
              ledger.config.passThreshold.toNat ≤ ledger.consecutivePasses.toNat + 1 := by
            rw [← add_one_eq_toUInt64_iff below]
            simp [restores, state]
          simp only [Ledger.completed, Standing.next, ← met, if_true]
          cases restores : ledger.restores with
          | true =>
              rw [if_pos rfl, if_pos rfl]
              exact ⟨rfl, rfl⟩
          | false =>
              rw [if_neg Bool.false_ne_true, if_neg Bool.false_ne_true]
              exact ⟨state, add_one_toNat_of_lt (UInt64.lt_iff_toNat_lt.mpr (by simpa using below))⟩
      | false =>
          simp only [Ledger.completed, Standing.next, Bool.false_eq_true, if_false]
          split
          · split <;> exact ⟨rfl, rfl⟩
          · exact ⟨state, rfl⟩

/-- An operational event is sent exactly when the recovery state changes. -/
theorem operationalEvents_completed (ledger : Ledger) (passed : Bool) :
    (ledger.completed passed).2.filterMap Verdict.operationalEvent? =
      if ledger.ctx.ubusSockFd < 0 ∨ (ledger.completed passed).1.state = ledger.state then []
      else [decide ((ledger.completed passed).1.state = .operational)] := by
  have report : ∀ up, (ledger.report up).filterMap Verdict.operationalEvent? =
      if ledger.ctx.ubusSockFd < 0 then [] else [up] := by
    intro up
    unfold report
    split <;> rfl
  cases passed with
  | true =>
      simp only [completed, if_true]
      cases restores : ledger.restores with
      | true =>
          have state : ledger.state = .broken := by
            simp only [Ledger.restores, Bool.and_eq_true, decide_eq_true_eq] at restores
            exact restores.1
          simp only [if_true, List.filterMap_cons, Verdict.operationalEvent?, report, state,
            reduceCtorEq, or_false, decide_true]
      | false =>
          simp only [Bool.false_eq_true, if_false, List.filterMap_cons, List.filterMap_nil,
            Verdict.operationalEvent?]
          rw [if_pos (.inr rfl)]
  | false =>
      simp only [completed, Bool.false_eq_true, if_false]
      cases escalates : ledger.escalates with
      | true =>
          have breaks : ledger.breakVerdicts.filterMap Verdict.operationalEvent? =
              if ledger.ctx.ubusSockFd < 0 ∨ RecoveryState.broken = ledger.state then []
              else [false] := by
            cases state : ledger.state with
            | operational =>
                simp only [breakVerdicts, state, if_true, List.filterMap_cons,
                  Verdict.operationalEvent?, report, reduceCtorEq, or_false]
            | broken =>
                simp only [breakVerdicts, state, reduceCtorEq, if_false, List.filterMap_nil,
                  or_true, if_true]
          rw [if_pos rfl]
          split <;> simp only [List.filterMap_cons, List.filterMap_nil, List.filterMap_append,
            List.cons_append, List.append_nil, Verdict.operationalEvent?, breaks, reduceCtorEq,
            decide_false]
      | false =>
          rw [if_neg Bool.false_ne_true]
          exact (if_pos (.inr rfl)).symm

end Ledger

/-! ## Runs -/

section Runs

variable {ctx : InterfaceTesterShared} {name : String} {config : AcceptedConfig}
variable {isConnected : Bool} {launch : Launch} {inputs : List Input} {t : Interface}

/-- The verdicts tell the state: the history by its windows, and the events by
the last of them. -/
structure VerdictsTell (ledger : Ledger) (seen : List Verdict) : Prop where
  remembers : ledger.Remembers (standing ledger.config.passThreshold.toNat
    ledger.config.failThreshold.toNat (seen.filterMap Verdict.completedRun?))
  alternates : Alternates true (seen.filterMap Verdict.operationalEvent?)
  last : 0 ≤ ledger.ctx.ubusSockFd → (seen.filterMap Verdict.operationalEvent?).getLast? =
    some (decide (ledger.state = .operational))
  silent : ledger.ctx.ubusSockFd < 0 → seen.filterMap Verdict.operationalEvent? = []

theorem verdictsTell_initial :
    VerdictsTell (Ledger.initial ctx config) (initialVerdicts ctx config) := by
  by_cases down : ctx.ubusSockFd < 0
  · have opened : initialVerdicts ctx config = [.stateChanged .operational] := by
      simp [initialVerdicts, Ledger.report, Ledger.initial, down]
    rw [opened]
    exact ⟨⟨rfl, rfl⟩, alternates_nil true, fun up => absurd down (Int.not_lt.mpr up), fun _ => rfl⟩
  · have one : initialVerdicts ctx config = [.stateChanged .operational, .reported true] := by
      simp [initialVerdicts, Ledger.report, Ledger.initial, down]
    rw [one]
    exact ⟨⟨rfl, rfl⟩, (alternates_nil true).concat (by simp), fun _ => rfl,
      fun negative => absurd negative down⟩

/-- **A completed run keeps the verdicts true.** -/
theorem VerdictsTell.completed {ledger : Ledger} {seen : List Verdict}
    (accepted : ledger.config.Accepted) (tell : VerdictsTell ledger seen) (passed : Bool) :
    VerdictsTell (ledger.completed passed).1 (seen ++ (ledger.completed passed).2) := by
  have describes := describes_standing (UInt32.lt_iff_toNat_lt.mp accepted.passThreshold_pos)
    (UInt32.lt_iff_toNat_lt.mp accepted.failThreshold_pos)
    (seen.filterMap Verdict.completedRun?)
  have sent := ledger.operationalEvents_completed passed
  have remembers : (ledger.completed passed).1.Remembers (standing
      (ledger.completed passed).1.config.passThreshold.toNat
      (ledger.completed passed).1.config.failThreshold.toNat
      ((seen ++ (ledger.completed passed).2).filterMap Verdict.completedRun?)) := by
    rw [List.filterMap_append, completedRuns_completed, standing_concat, Ledger.config_completed]
    exact tell.remembers.completed accepted describes passed
  by_cases quiet : ledger.ctx.ubusSockFd < 0 ∨ (ledger.completed passed).1.state = ledger.state
  · rw [if_pos quiet] at sent
    have same : (seen ++ (ledger.completed passed).2).filterMap Verdict.operationalEvent? =
        seen.filterMap Verdict.operationalEvent? := by
      rw [List.filterMap_append, sent, List.append_nil]
    refine ⟨remembers, by rw [same]; exact tell.alternates, fun up => ?_, fun down => ?_⟩
    · rw [Ledger.ctx_completed] at up
      have kept := quiet.resolve_left (Int.not_lt.mpr up)
      rw [same, kept]
      exact tell.last up
    · rw [Ledger.ctx_completed] at down
      rw [same]
      exact tell.silent down
  · rw [if_neg quiet] at sent
    obtain ⟨up, changed⟩ := not_or.mp quiet
    have more : (seen ++ (ledger.completed passed).2).filterMap Verdict.operationalEvent? =
        seen.filterMap Verdict.operationalEvent? ++
          [decide ((ledger.completed passed).1.state = .operational)] := by
      rw [List.filterMap_append, sent]
    have turn : lastReport true (seen.filterMap Verdict.operationalEvent?) ≠
        decide ((ledger.completed passed).1.state = .operational) := by
      rw [lastReport, tell.last (Int.not_lt.mp up), Option.getD_some]
      intro same
      cases before : ledger.state <;> cases after : (ledger.completed passed).1.state <;>
        simp_all
    refine ⟨remembers, by rw [more]; exact tell.alternates.concat turn, fun _ => ?_,
      fun down => ?_⟩
    · rw [more, List.getLast?_concat]
    · rw [Ledger.ctx_completed] at down
      exact absurd down up

/-- **The tester is a hysteresis.** Under one configuration an interface is
broken exactly when its history has a window of failing runs that no later
window of passing runs makes up for. The operational events that were sent
alternate from an operational one, and the last of them tells the state; with a
socket there is a last one. -/
theorem hysteresis_refinement (keeps : KeepsConfig ctx config inputs)
    (visited : Visits step (begun ctx name config isConnected launch) inputs t) :
    (t.recovery.state = .broken ↔ BrokenBy config.config.passThreshold.toNat
      config.config.failThreshold.toNat (completedRuns t.trace)) ∧
    Alternates true (operationalEvents t.trace) ∧
    (0 ≤ ctx.ubusSockFd → (operationalEvents t.trace).getLast? =
      some (decide (t.recovery.state = .operational))) ∧
    ∀ last ∈ (operationalEvents t.trace).getLast?,
      last = decide (t.recovery.state = .operational) := by
  obtain ⟨sameCtx, sameConfig, tell⟩ := verdict_of_visits keeps (P := VerdictsTell)
    verdictsTell_initial (fun ledger seen passed _ same tell =>
      tell.completed (same ▸ config.accepted) passed) visited
  have passes := UInt32.lt_iff_toNat_lt.mp config.accepted.passThreshold_pos
  have failures := UInt32.lt_iff_toNat_lt.mp config.accepted.failThreshold_pos
  have last : 0 ≤ ctx.ubusSockFd → (operationalEvents t.trace).getLast? =
      some (decide (t.recovery.state = .operational)) := fun up => by
    rw [operationalEvents_eq]
    refine tell.last ?_
    show 0 ≤ t.ctx.ubusSockFd
    rw [sameCtx]
    exact up
  refine ⟨?_, ?_, last, fun told member => ?_⟩
  · rw [completedRuns_eq, ← standing_isBroken_iff passes failures, ← sameConfig]
    exact tell.remembers.isBroken_iff
  · rw [operationalEvents_eq]
    exact tell.alternates
  · by_cases down : ctx.ubusSockFd < 0
    · have silent : operationalEvents t.trace = [] := by
        rw [operationalEvents_eq]
        refine tell.silent ?_
        show t.ctx.ubusSockFd < 0
        rw [sameCtx]
        exact down
      rw [silent] at member
      cases member
    · rw [last (Int.not_lt.mp down)] at member
      exact (Option.some.inj member).symm

end Runs

/-- Two failing runs break an interface, and one passing run restores it. -/
def brokenAndRestored : List Input :=
  [(.settlingDelayTimerExpired, .forked 7), (.testProcExited 256, .refused),
    (.testIntervalTimerExpired, .forked 8), (.testResponseTimerExpired, .refused),
    (.startTestRun, .forked 9), (.testProcExited 0, .refused)]

theorem hysteresis_refinement_restored : ∃ t,
    run step (begun connectedShared "wan" (pingConfig 1 2 (by decide) []) true .refused)
      brokenAndRestored = some t ∧
    completedRuns t.trace = [false, false, true] ∧ operationalEvents t.trace = [true, false, true] ∧
    (t.recovery.state = .broken ↔ BrokenBy 1 2 (completedRuns t.trace)) ∧
    ∀ last ∈ (operationalEvents t.trace).getLast?,
      last = decide (t.recovery.state = .operational) := by
  have ends : (run step (begun connectedShared "wan" (pingConfig 1 2 (by decide) []) true
      .refused) brokenAndRestored).map
        (fun t => (completedRuns t.trace, operationalEvents t.trace)) =
      some ([false, false, true], [true, false, true]) := by decide +kernel
  obtain ⟨t, reached, facts⟩ := Option.map_eq_some_iff.mp ends
  obtain ⟨runs, events⟩ := Prod.mk.inj facts
  have keeps : KeepsConfig connectedShared (pingConfig 1 2 (by decide) []) brokenAndRestored := by
    intro new answer member
    simp [brokenAndRestored] at member
  obtain ⟨windows, -, -, last⟩ := hysteresis_refinement keeps (visits_last reached)
  exact ⟨t, reached, runs, events, windows, last⟩

end IfaceTester
