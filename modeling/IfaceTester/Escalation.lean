import IfaceTester.Refinement

/-!
# The rotation of the recovery tasks

A failing run whose count of consecutive failures is a multiple of the failure
threshold attempts the next recovery task. The index of that task goes round the
list, survives lost connections and passes that are too few, and is set back
when the interface becomes operational. An attempt that fails moves it on too.
-/

set_option autoImplicit false

namespace IfaceTester

open Runs Hysteresis

/-- The task that a verdict attempts. -/
def Verdict.taskAttempted? : Verdict → Option ℕ
  | .taskAttempted index => some index
  | _ => none

/-- The attempts to start a recovery task, by the index of the task. -/
def taskAttempts (trace : List Observation) : List ℕ :=
  (verdicts trace).filterMap Verdict.taskAttempted?

/-- Becoming operational begins a new list of attempts. -/
def Verdict.attempt (attempts : List ℕ) : Verdict → List ℕ
  | .stateChanged .operational => []
  | .taskAttempted index => attempts ++ [index]
  | _ => attempts

/-- The attempts since the interface last became operational. -/
def attemptsSinceOperational (trace : List Observation) : List ℕ :=
  (verdicts trace).foldl Verdict.attempt []

/-- The tasks in turn: the `k`-th of them is `k` modulo their number. -/
def inRotation (tasks attempts : ℕ) : List ℕ :=
  (List.range attempts).map fun k => k % tasks

theorem inRotation_succ (tasks attempts : ℕ) :
    inRotation tasks (attempts + 1) = inRotation tasks attempts ++ [attempts % tasks] := by
  simp [inRotation, List.range_succ]

/-- The index that follows in the rotation. -/
theorem rotate_mod {tasks attempts : ℕ} (nonempty : 0 < tasks) :
    (if attempts % tasks + 1 ≥ tasks then 0 else attempts % tasks + 1) =
      (attempts + 1) % tasks := by
  have below := Nat.mod_lt attempts nonempty
  rw [← Nat.mod_add_mod]
  split
  case isTrue wraps =>
    have last : attempts % tasks + 1 = tasks := by omega
    rw [last, Nat.mod_self]
  case isFalse goes => exact (Nat.mod_eq_of_lt (by omega)).symm

/-! ## One completed run -/

namespace Ledger

variable {ledger : Ledger} {seen : List Verdict}

/-- The rotation and the count of failures, as the verdicts tell them. -/
structure InTurn (ledger : Ledger) (seen : List Verdict) : Prop where
  attempts : seen.foldl Verdict.attempt [] = inRotation ledger.config.numRecoverys
    (seen.foldl Verdict.attempt []).length
  index : ledger.recoveryIndex =
    (seen.foldl Verdict.attempt []).length % ledger.config.numRecoverys
  operational : ledger.state = .operational → seen.foldl Verdict.attempt [] = []
  failures : ledger.consecutiveFailures =
    UInt64.ofNat (streak false (seen.filterMap Verdict.completedRun?))

theorem foldl_report (ledger : Ledger) (up : Bool) (attempts : List ℕ) :
    (ledger.report up).foldl Verdict.attempt attempts = attempts := by
  unfold report
  split <;> rfl

theorem foldl_breakVerdicts (ledger : Ledger) (attempts : List ℕ) :
    ledger.breakVerdicts.foldl Verdict.attempt attempts = attempts := by
  unfold breakVerdicts
  split
  · exact foldl_report ledger false attempts
  · rfl

/-- What a completed run adds to the attempts. -/
theorem foldl_completed (ledger : Ledger) (passed : Bool) (attempts : List ℕ) :
    (ledger.completed passed).2.foldl Verdict.attempt attempts =
      if passed then if ledger.restores then [] else attempts
      else if ledger.escalates ∧ ledger.config.numRecoverys ≠ 0 then
        attempts ++ [ledger.nextTask]
      else attempts := by
  cases passed with
  | true =>
      simp only [completed, if_true]
      split
      · exact foldl_report ledger true []
      · rfl
  | false =>
      simp only [completed, Bool.false_eq_true, if_false]
      cases ledger.escalates with
      | true =>
          by_cases noTasks : ledger.config.numRecoverys = 0
          · rw [if_pos rfl, if_pos noTasks, if_neg (by simp [noTasks])]
            exact foldl_breakVerdicts ledger attempts
          · rw [if_pos rfl, if_neg noTasks, if_pos ⟨rfl, noTasks⟩, List.foldl_append]
            exact congrArg (fun before => before ++ [ledger.nextTask])
              (foldl_breakVerdicts ledger attempts)
      | false =>
          rw [if_neg Bool.false_ne_true, if_neg (by simp)]
          rfl

theorem failures_completed (ledger : Ledger) (passed : Bool) :
    (ledger.completed passed).1.consecutiveFailures =
      if passed then 0 else ledger.consecutiveFailures + 1 := by
  unfold completed
  split <;> split <;> first | rfl | (split <;> rfl)

/-- **A completed run keeps the tasks in turn.** -/
theorem InTurn.completed (inTurn : InTurn ledger seen) (tasks : 0 < ledger.config.numRecoverys)
    (passed : Bool) :
    InTurn (ledger.completed passed).1 (seen ++ (ledger.completed passed).2) := by
  have failures : (ledger.completed passed).1.consecutiveFailures = UInt64.ofNat
      (streak false ((seen ++ (ledger.completed passed).2).filterMap Verdict.completedRun?)) := by
    rw [List.filterMap_append, completedRuns_completed, failures_completed]
    cases passed with
    | true => rw [streak_false_concat_true]; rfl
    | false =>
        rw [streak_concat_self, if_neg Bool.false_ne_true, inTurn.failures, UInt64.ofNat_add]
        rfl
  have fold : (seen ++ (ledger.completed passed).2).foldl Verdict.attempt [] = _ :=
    List.foldl_append.trans (foldl_completed ledger passed _)
  have position := Nat.mod_lt (seen.foldl Verdict.attempt []).length tasks
  refine ⟨?_, ?_, ?_, failures⟩ <;> rw [fold] <;> clear fold failures
  · rw [config_completed]
    cases passed with
    | true =>
        cases ledger.restores with
        | true => rfl
        | false => exact inTurn.attempts
    | false =>
        by_cases attempted : ledger.escalates = true ∧ ledger.config.numRecoverys ≠ 0
        · have next : ledger.nextTask = (seen.foldl Verdict.attempt []).length %
              ledger.config.numRecoverys := by
            rw [nextTask, inTurn.index, if_neg (by omega)]
          rw [if_neg Bool.false_ne_true, if_pos attempted, List.length_append,
            List.length_singleton, inRotation_succ, ← inTurn.attempts, next]
        · rw [if_neg Bool.false_ne_true, if_neg attempted]
          exact inTurn.attempts
  · rw [config_completed]
    cases passed with
    | true =>
        simp only [Ledger.completed, if_true]
        cases ledger.restores with
        | true => rfl
        | false => exact inTurn.index
    | false =>
        simp only [Ledger.completed, Bool.false_eq_true, if_false]
        cases escalates : ledger.escalates with
        | true =>
            rw [if_pos rfl, if_neg tasks.ne', if_pos ⟨rfl, tasks.ne'⟩, List.length_append,
              List.length_singleton, ← rotate_mod tasks, ← inTurn.index]
            rfl
        | false =>
            rw [if_neg Bool.false_ne_true, if_neg (by simp)]
            exact inTurn.index
  · intro operational
    cases passed with
    | true =>
        simp only [Ledger.completed, if_true] at operational
        cases restores : ledger.restores with
        | true => rfl
        | false =>
            rw [restores, if_neg Bool.false_ne_true] at operational
            exact inTurn.operational operational
    | false =>
        simp only [Ledger.completed, Bool.false_eq_true, if_false] at operational
        cases escalates : ledger.escalates with
        | true =>
            rw [escalates, if_pos rfl, if_neg tasks.ne'] at operational
            cases operational
        | false =>
            rw [escalates, if_neg Bool.false_ne_true] at operational
            rw [if_neg Bool.false_ne_true, if_neg (by simp)]
            exact inTurn.operational operational

/-- A run attempts a task exactly when it is a failing one whose count of
failures is a positive multiple of the threshold. -/
theorem taskAttempts_completed (accepted : ledger.config.Accepted)
    (tasks : 0 < ledger.config.numRecoverys) (passed : Bool) :
    (ledger.completed passed).2.filterMap Verdict.taskAttempted? =
      if passed = false ∧ 0 < (ledger.completed passed).1.consecutiveFailures.toNat ∧
        ledger.config.failThreshold.toNat ∣ (ledger.completed passed).1.consecutiveFailures.toNat
      then [ledger.nextTask] else [] := by
  have report : ∀ up, (ledger.report up).filterMap Verdict.taskAttempted? = [] := by
    intro up
    unfold Ledger.report
    split <;> rfl
  cases passed with
  | true =>
      rw [if_neg (by simp)]
      simp only [completed, if_true]
      split <;> simp only [List.filterMap_cons, List.filterMap_nil, Verdict.taskAttempted?, report]
  | false =>
      have breaks : ledger.breakVerdicts.filterMap Verdict.taskAttempted? = [] := by
        unfold breakVerdicts
        split
        · simp only [List.filterMap_cons, Verdict.taskAttempted?, report]
        · rfl
      have met : ledger.escalates = true ↔ 0 < (ledger.consecutiveFailures + 1).toNat ∧
          ledger.config.failThreshold.toNat ∣ (ledger.consecutiveFailures + 1).toNat := by
        rw [escalates_iff accepted, gt_iff_lt, UInt64.lt_iff_toNat_lt, ← UInt64.toNat_inj,
          UInt64.toNat_mod, UInt32.toNat_toUInt64, Nat.dvd_iff_mod_eq_zero]
        rfl
      rw [failures_completed, if_neg Bool.false_ne_true]
      simp only [completed, Bool.false_eq_true, if_false, true_and, ← met]
      cases ledger.escalates with
      | true =>
          rw [if_pos rfl, if_neg tasks.ne', if_pos rfl]
          simp only [List.filterMap_cons, List.filterMap_nil, List.filterMap_append,
            List.cons_append, List.nil_append, Verdict.taskAttempted?, breaks]
      | false =>
          rw [if_neg Bool.false_ne_true, if_neg Bool.false_ne_true]
          rfl

end Ledger

/-! ## Runs -/

section Runs

variable {ctx : InterfaceTesterShared} {name : String} {config : AcceptedConfig}
variable {isConnected : Bool} {launch : Launch} {inputs : List Input} {s t : Interface}

theorem inTurn_initial :
    (Ledger.initial ctx config).InTurn (initialVerdicts ctx config) := by
  have unattempted : (initialVerdicts ctx config).foldl Verdict.attempt [] = [] :=
    Ledger.foldl_report (Ledger.initial ctx config) true []
  have unfinished : (initialVerdicts ctx config).filterMap Verdict.completedRun? = [] := by
    unfold initialVerdicts Ledger.report
    split <;> rfl
  refine ⟨?_, ?_, fun _ => unattempted, ?_⟩
  · rw [unattempted]
    rfl
  · rw [unattempted]
    exact (Nat.zero_mod _).symm
  · rw [unfinished]
    rfl

/-- What the recovery tasks are attempted by, in a state between callbacks. -/
structure TasksInTurn (iface : Interface) : Prop where
  /-- The tasks were attempted in the order of the list, and round it. -/
  attempts : attemptsSinceOperational iface.trace = inRotation iface.config.numRecoverys
    (attemptsSinceOperational iface.trace).length
  /-- The first task is next while the interface is operational. -/
  operational : iface.recovery.state = .operational → iface.recovery.recoveryIndex = 0
  /-- The failures in a row are counted in 64 bits. -/
  failures : iface.tester.stats.testRuns.consecutiveFailures =
    UInt64.ofNat (streak false (completedRuns iface.trace))

theorem tasksInTurn_of_ledger {iface : Interface}
    (inTurn : iface.ledger.InTurn (verdicts iface.trace)) : TasksInTurn iface := by
  refine ⟨inTurn.attempts, fun operational => ?_, ?_⟩
  · have unattempted := inTurn.operational operational
    have index := inTurn.index
    rw [unattempted] at index
    exact index.trans (Nat.zero_mod _)
  · rw [completedRuns_eq]
    exact inTurn.failures

/-- The transition completes a failing run, and the failures in a row are a
positive multiple of the failure threshold. -/
def EscalatingRun (s t : Interface) : Prop :=
  completedRuns t.trace = completedRuns s.trace ++ [false] ∧
    0 < t.tester.stats.testRuns.consecutiveFailures.toNat ∧
    t.config.failThreshold.toNat ∣ t.tester.stats.testRuns.consecutiveFailures.toNat

/-- The count of an escalating run is the number of failures at the end of the
history, as long as that number fits in 64 bits. -/
theorem escalatingRun_iff {s t : Interface} (inTurn : TasksInTurn t)
    (fits : streak false (completedRuns t.trace) < UInt64.size) :
    EscalatingRun s t ↔ completedRuns t.trace = completedRuns s.trace ++ [false] ∧
      0 < streak false (completedRuns t.trace) ∧
      t.config.failThreshold.toNat ∣ streak false (completedRuns t.trace) := by
  have counted : t.tester.stats.testRuns.consecutiveFailures.toNat =
      streak false (completedRuns t.trace) := by
    rw [inTurn.failures, UInt64.toNat_ofNat']
    exact Nat.mod_eq_of_lt fits
  rw [EscalatingRun, counted]

/-- **The escalation schedule.** Under one configuration with recovery tasks, a
task is attempted exactly by the failing runs whose count of failures is a
positive multiple of the threshold, and by each of them once. The count is the
number of failures in a row, in 64 bits. The tasks are attempted in turn since
the interface last became operational, and while it is operational the first one
is next. -/
theorem escalation_schedule (keeps : KeepsConfig ctx config inputs)
    (nonempty : 0 < config.config.numRecoverys) :
    (∀ t, Visits step (begun ctx name config isConnected launch) inputs t → TasksInTurn t) ∧
    ∀ s input t, Takes step (begun ctx name config isConnected launch) inputs s input t →
      ((EscalatingRun s t ∧ ∃ index, taskAttempts t.trace = taskAttempts s.trace ++ [index]) ∨
        (¬ EscalatingRun s t ∧ taskAttempts t.trace = taskAttempts s.trace)) ∧
      (streak false (completedRuns t.trace) < UInt64.size →
        (EscalatingRun s t ↔ completedRuns t.trace = completedRuns s.trace ++ [false] ∧
          0 < streak false (completedRuns t.trace) ∧
          t.config.failThreshold.toNat ∣ streak false (completedRuns t.trace))) := by
  have inTurn : ∀ t, Visits step (begun ctx name config isConnected launch) inputs t →
      t.ctx = ctx ∧ t.config = config.config ∧ t.ledger.InTurn (verdicts t.trace) :=
    fun t visited => verdict_of_visits keeps (P := Ledger.InTurn) inTurn_initial
      (fun ledger seen passed _ same inTurn => inTurn.completed (same ▸ nonempty) passed) visited
  refine ⟨fun t visited => tasksInTurn_of_ledger (inTurn t visited).2.2, ?_⟩
  rintro s ⟨cb, answer⟩ t taken
  refine ⟨?_, escalatingRun_iff (tasksInTurn_of_ledger (inTurn t taken.target).2.2)⟩
  obtain ⟨sameCtx, sameConfig, -⟩ := inTurn s taken.source
  have coherent := coherent_of_visits taken.source
  have moved := (step_move coherent taken.step_eq).ledgerMove coherent
  rcases moved.of_keepsConfig sameCtx sameConfig keeps taken.mem with
    ⟨ledger, quiet⟩ | ⟨passed, ledger, seen⟩
  · refine .inr ⟨fun escalating => ?_, by rw [taskAttempts, quiet]; rfl⟩
    have longer := escalating.1
    rw [completedRuns_eq, completedRuns_eq, quiet] at longer
    simp at longer
  · have tasks : 0 < s.ledger.config.numRecoverys := by
      show 0 < s.config.numRecoverys
      rw [sameConfig]
      exact nonempty
    have attempts := Ledger.taskAttempts_completed coherent.accepted tasks passed
    have runs : completedRuns t.trace = completedRuns s.trace ++ [passed] := by
      rw [completedRuns_eq, completedRuns_eq, seen, List.filterMap_append, completedRuns_completed]
    have sameRun : EscalatingRun s t ↔ passed = false ∧
        0 < (s.ledger.completed passed).1.consecutiveFailures.toNat ∧
        s.ledger.config.failThreshold.toNat ∣
          (s.ledger.completed passed).1.consecutiveFailures.toNat := by
      have config : t.ledger.config = s.ledger.config := by
        rw [ledger, Ledger.config_completed]
      rw [← ledger, ← config, EscalatingRun, runs]
      simp only [List.append_cancel_left_eq, List.cons.injEq, and_true]
      rfl
    have added : taskAttempts t.trace = taskAttempts s.trace ++
        (s.ledger.completed passed).2.filterMap Verdict.taskAttempted? := by
      rw [taskAttempts, seen, List.filterMap_append]
      rfl
    rw [attempts] at added
    by_cases escalating : EscalatingRun s t
    · rw [if_pos (sameRun.mp escalating)] at added
      exact .inl ⟨escalating, _, added⟩
    · rw [if_neg (mt sameRun.mpr escalating), List.append_nil] at added
      exact .inr ⟨escalating, added⟩

end Runs

/-- Each failing run attempts a task. The first task cannot be started, and the
third attempt begins the list again. -/
def threeAttempts : List Input :=
  [(.settlingDelayTimerExpired, .forked 7), (.testProcExited 256, .refused),
    (.testIntervalTimerExpired, .forked 8), (.testProcExited 256, .forked 20),
    (.recoveryProcExited 0, .refused), (.ifdown, .refused), (.ifup, .refused),
    (.settlingDelayTimerExpired, .forked 9), (.testResponseTimerExpired, .forked 21)]

theorem escalation_schedule_three_attempts : ∃ t,
    run step (begun connectedShared "wan"
      (eagerConfig [plainTask "renew", plainTask "reset"]) true .refused)
      threeAttempts = some t ∧
    attemptsSinceOperational t.trace = [0, 1, 0] ∧ TasksInTurn t := by
  have ends : (run step (begun connectedShared "wan"
      (eagerConfig [plainTask "renew", plainTask "reset"]) true .refused)
      threeAttempts).map (fun t => attemptsSinceOperational t.trace) = some [0, 1, 0] := by
    decide +kernel
  obtain ⟨t, reached, attempts⟩ := Option.map_eq_some_iff.mp ends
  have keeps : KeepsConfig connectedShared
      (eagerConfig [plainTask "renew", plainTask "reset"]) threeAttempts := by
    intro new answer member
    simp [threeAttempts] at member
  have schedule := @escalation_schedule connectedShared "wan"
    (eagerConfig [plainTask "renew", plainTask "reset"]) true .refused threeAttempts
    keeps (by decide)
  exact ⟨t, reached, attempts, schedule.1 t (visits_last reached)⟩

end IfaceTester
