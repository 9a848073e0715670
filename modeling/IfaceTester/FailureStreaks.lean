import IfaceTester.Overlap
import IfaceTester.Verdict

/-!
# Streaks of failures

An interface breaks when the counter of consecutive failures is a multiple of the
threshold. A new configuration may bring another threshold, and it leaves the counter as
it is. For every counter there is a threshold that does not divide it
(`exists_failThreshold`). So an interface may fail any number of runs in a row and still
be operational, when its configuration is changed often enough
(`operational_after_failures`).
-/

set_option autoImplicit false

namespace IfaceTester

open Runs

/-- **Every counter has a threshold that it does not meet.** No count that fits into 64
bits is a multiple of all the three largest thresholds, unless it is zero. -/
theorem exists_failThreshold (failures : UInt64) :
    ∃ failThreshold : UInt32, 0 < failThreshold ∧
      ¬ (failures > 0 ∧ failures % failThreshold.toUInt64 = 0) := by
  by_contra hits
  push Not at hits
  have positive : failures > 0 := (hits 1 (by decide)).1
  have divides : ∀ failThreshold : UInt32, 0 < failThreshold →
      failThreshold.toNat ∣ failures.toNat := by
    intro failThreshold given
    have remainder := congrArg UInt64.toNat (hits failThreshold given).2
    rw [UInt64.toNat_mod, UInt32.toNat_toUInt64] at remainder
    exact Nat.dvd_of_mod_eq_zero remainder
  have two : 4294967295 * 4294967294 ∣ failures.toNat :=
    Nat.Coprime.mul_dvd_of_dvd_of_dvd (by decide) (divides 4294967295 (by decide))
      (divides 4294967294 (by decide))
  have three : 4294967295 * 4294967294 * 4294967293 ∣ failures.toNat :=
    Nat.Coprime.mul_dvd_of_dvd_of_dvd (by decide) two (divides 4294967293 (by decide))
  have above : 0 < failures.toNat := UInt64.lt_iff_toNat_lt.mp positive
  exact absurd failures.toNat_lt (Nat.not_lt.mpr ((by decide : 2 ^ 64 ≤ _).trans
    (Nat.le_of_dvd above three)))

/-- A failure that does not meet the threshold changes nothing but the counters. -/
theorem Ledger.not_escalates {ledger : Ledger} (positive : 0 < ledger.config.failThreshold)
    (short : ¬ (ledger.consecutiveFailures + 1 > 0 ∧
      (ledger.consecutiveFailures + 1) % ledger.config.failThreshold.toUInt64 = 0)) :
    ledger.escalates = false := by
  have nonzero : ledger.config.failThreshold ≠ 0 := UInt32.pos_iff_ne_zero.mp positive
  simpa [Ledger.escalates, nonzero] using short

section Steps

variable {iface t : Interface} {launch : Launch}

/-- Without recovery tasks the tester sleeps after every run. -/
theorem RunEnd.sleeping {passed : Bool} (ended : RunEnd iface launch passed t)
    (noTasks : iface.config.numRecoverys = 0) : t.tester.state = .sleeping := by
  have asleep : ∀ before, (testerSleep before).tester.state = .sleeping := by
    intro before
    rw [testerSleep_eq]
  cases ended with
  | started met tasks pid memory forked => exact absurd noTasks (Nat.pos_iff_ne_zero.mp tasks)
  | _ => exact asleep _

/-- A run that is started has a test running. -/
theorem isRunning_testerStartConnected (iface : Interface) (pid : Pid) :
    (testerStartConnected iface (.forked pid)).tester.testProc.isRunning = true := by
  let first : Interface := { testerStateTransition iface .testing with tester.testIndex := 0 }
  have forked : (Launch.forked pid).fork = some pid := rfl
  have ran : testerStartConnected iface (.forked pid) = _ :=
    congrArg Prod.snd (runTest_of_fork rfl forked first 0)
  rw [ran]
  rfl

/-- A changed configuration starts a new run of a live tester. -/
theorem configUpdate_of_live (coherent : Coherent iface) (live : iface.tester.state ≠ .stopped)
    {new : AcceptedConfig}
    (changed : configChanged iface.ctx.withMetricsAdjustment iface.config new.config = true) :
    configUpdate iface new.config launch =
      testerStartConnected (reconfigured iface new.config) launch := by
  have restarted : configUpdate iface new.config launch =
      testerStart (reconfigured iface new.config) launch := if_pos changed
  rw [restarted]
  exact testerStart_of_connected (coherent.starter.mpr live)

/-- **A failed test that decides its run**, below the threshold and with no recovery
tasks. -/
theorem Move.fails {status : Int32}
    (move : Move iface launch (.testProcExited status) t)
    (failed : getTestResultFromExitStatus status = false) (all : iface.config.condition = .all)
    (noTasks : iface.config.numRecoverys = 0) (short : iface.ledger.escalates = false) :
    t.tester.state = .sleeping ∧ t.ledger = iface.ledger.countFailure ∧
      completedRuns t.trace = completedRuns iface.trace ++ [false] := by
  have ends : runIsOver iface false = true := by simp [runIsOver, decisive, all]
  cases move with
  | testEndsNext testing running how more =>
      cases how with
      | exited =>
          rw [failed, ends] at more
          cases more
  | testEndsRun testing running how isOver =>
      have kept := how.ledger
      cases how with
      | exited =>
          rw [failed] at kept ⊢
          have ended := @interfaceTestRunCompleted_runEnd
            (countTest (testExited iface status) false)
            testing false launch
          have counted : (iface.ledger.completed false).1 = iface.ledger.countFailure := by
            simp [Ledger.completed, short]
          have earlier : completedRuns (countTest (testExited iface status) false).trace =
              completedRuns iface.trace := by
            rw [completedRuns_eq, kept.2, ← completedRuns_eq]
          refine ⟨ended.sleeping noTasks, ?_, ?_⟩
          · rw [ledger_observe, ended.ledger.1, kept.1, counted]
          · rw [completedRuns_observe, ended.completedRuns, earlier]

/-- The interface has failed all its runs so far and is operational. It sleeps, under a
configuration with one test and no recovery tasks. -/
structure Persists (iface : Interface) (failures : ℕ) : Prop where
  sleeping : iface.tester.state = .sleeping
  operational : iface.recovery.state = .operational
  config : ∃ passThreshold failThreshold positive,
    iface.config = (pingConfig passThreshold failThreshold positive []).config
  failed : completedRuns iface.trace = List.replicate failures false

/-- **One more failure does not matter under a suitable threshold.** The configuration is
changed, which starts a run, and its test fails. -/
theorem Persists.fails (coherent : Coherent iface) {failures : ℕ}
    (persists : Persists iface failures) :
    ∃ inputs t, run step iface inputs = some t ∧ Persists t (failures + 1) := by
  obtain ⟨passThreshold, oldThreshold, positive, config⟩ := persists.config
  obtain ⟨failThreshold, given, short⟩ :=
    exists_failThreshold (iface.tester.stats.testRuns.consecutiveFailures + 1)
  obtain ⟨other, positive', differs⟩ : ∃ other : UInt32, 0 < other ∧ passThreshold ≠ other := by
    by_cases one : passThreshold = 1
    · exact ⟨2, by decide, by rw [one]; decide⟩
    · exact ⟨1, by decide, one⟩
  let new := pingConfig other failThreshold ⟨positive', given⟩ []
  let started := testerStartConnected (reconfigured iface new.config) (.forked 7)
  have live : iface.tester.state ≠ .stopped := by simp [persists.sleeping]
  have changed : configChanged iface.ctx.withMetricsAdjustment iface.config new.config = true := by
    simp [configChanged, config, new, pingConfig, differs]
  have updated : step iface (.configUpdate new, .forked 7) = Option.some started :=
    congrArg Option.some (configUpdate_of_live coherent live changed)
  have ledger : started.ledger = { iface.ledger with config := new.config, recoveryIndex := 0 } :=
    ledger_testerStartConnected (reconfigured iface new.config) (.forked 7)
  have earlier : completedRuns started.trace = completedRuns iface.trace := by
    rw [completedRuns_eq, completedRuns_eq,
      verdicts_testerStartConnected (coherent.idle_reconfigured live new)]
    exact congrArg _ (verdicts_testerStop iface)
  have config' : started.config = new.config := congrArg Ledger.config ledger
  have coherent' : Coherent started := coherent.stepped updated
  have running : started.tester.testProc.isRunning = true := isRunning_testerStartConnected _ 7
  obtain ⟨t, exits⟩ : ∃ t, step started (.testProcExited 256, .refused) = Option.some t := by
    rw [step, if_pos running]
    exact ⟨_, rfl⟩
  have below : started.ledger.escalates = false := by
    rw [ledger]
    exact Ledger.not_escalates given short
  obtain ⟨sleeping, counted, failed⟩ := (step_move coherent' exits).fails (by decide)
    (by rw [config']; rfl) (by rw [config']; rfl) below
  refine ⟨[(.configUpdate new, .forked 7), (.testProcExited 256, .refused)], t, ?_, ?_⟩
  · rw [run_cons, updated, Option.bind_some, run_cons, exits]
    rfl
  · exact
      { sleeping := sleeping
        operational := by
          have state := congrArg Ledger.state counted
          rw [ledger] at state
          exact state.trans persists.operational
        config := ⟨other, failThreshold, _, (congrArg Ledger.config counted).trans config'⟩
        failed := by
          rw [failed, earlier, persists.failed]
          exact List.replicate_succ'.symm }

end Steps

/-- **An interface may fail any number of runs in a row and still be operational.** -/
theorem operational_after_failures (failures : ℕ) :
    ∃ inputs t, run step (begun connectedShared "wan" (pingConfig 1 2 (by decide) []) true .refused)
      inputs = some t ∧ Persists t (failures + 1) := by
  induction failures with
  | zero =>
      have first : (run step
          (begun connectedShared "wan" (pingConfig 1 2 (by decide) []) true .refused)
          [(.settlingDelayTimerExpired, .forked 7), (.testProcExited 256, .refused)]).map
          (fun t => (t.tester.state, t.recovery.state, t.config, completedRuns t.trace)) =
          some (.sleeping, .operational, (pingConfig 1 2 (by decide) []).config, [false]) := by
        decide +kernel
      obtain ⟨t, reached, facts⟩ := Option.map_eq_some_iff.mp first
      simp only [Prod.mk.injEq] at facts
      obtain ⟨sleeping, operational, config, failed⟩ := facts
      exact ⟨_, t, reached, sleeping, operational, ⟨1, 2, _, config⟩, failed⟩
  | succ failures ih =>
      obtain ⟨inputs, s, reached, persists⟩ := ih
      obtain ⟨more, t, goesOn, persists'⟩ :=
        persists.fails (coherent_of_visits (visits_last reached))
      exact ⟨inputs ++ more, t, run_trans reached goesOn, persists'⟩

end IfaceTester
