import IfaceTester.Dump
import IfaceTester.Observations

/-!
# Reconfiguration

`config_update` compares two configurations field by field, and the two lists
position by position. For configurations that the handler hands over, the
comparison is equality (`configChanged_eq_false_iff`): the index it does not look
at is the position, and the metric that it looks at only with the build option is
zero without it.

So an update leaves the new configuration behind, it does nothing when the
configuration is the same, and it restarts the tester otherwise (`Restarted`).
-/

set_option autoImplicit false

namespace IfaceTester

open Runs

/-! ## The comparison -/

theorem taskConfigChanged_eq_false_iff {index : ℕ} {existing new : TaskConfig}
    (left : existing.Loadable index) (right : new.Loadable index) :
    taskConfigChanged existing new = false ↔ existing = new := by
  obtain ⟨at_index, executable, label, timeout, params⟩ := existing
  obtain ⟨at_index', executable', label', timeout', params'⟩ := new
  obtain rfl : at_index = index := left.index
  obtain rfl : at_index' = at_index := right.index
  have compared : blobAttrEqual params params' = true ↔ params = params' :=
    blobAttrEqual_iff params params'
  simp [taskConfigChanged, compared, and_assoc]

/-- **The list comparison looks at every position.** -/
theorem taskConfigsChanged_eq_false_iff {existing new : List TaskConfig}
    (left : ∀ k (task : TaskConfig), existing[k]? = some task → task.Loadable k)
    (right : ∀ k (task : TaskConfig), new[k]? = some task → task.Loadable k) :
    taskConfigsChanged existing new = false ↔ existing = new := by
  constructor
  · intro same
    unfold taskConfigsChanged at same
    split at same
    case isTrue => cases same
    case isFalse length =>
      have length : existing.length = new.length := by simpa using length
      rw [List.any_eq_false] at same
      refine List.ext_getElem? fun k => ?_
      rcases Nat.lt_or_ge k existing.length with inside | outside
      · have within : k < new.length := length ▸ inside
        have first : existing[k]? = some existing[k] := List.getElem?_eq_getElem inside
        have second : new[k]? = some new[k] := List.getElem?_eq_getElem within
        have zipped : (existing[k], new[k]) ∈ existing.zip new := by
          have position : k < (existing.zip new).length := by
            rw [List.length_zip, ← length, Nat.min_self]
            exact inside
          rw [← List.getElem_zip (h := position)]
          exact List.getElem_mem position
        have unchanged : taskConfigChanged existing[k] new[k] = false := by
          simpa using same _ zipped
        rw [first, second,
          (taskConfigChanged_eq_false_iff (left k _ first) (right k _ second)).mp unchanged]
      · have beyond : new.length ≤ k := length ▸ outside
        rw [List.getElem?_eq_none outside, List.getElem?_eq_none beyond]
  · rintro rfl
    exact taskConfigsChanged_self existing

/-- **The comparison of `config_update` is equality** of configurations that can be
loaded. -/
theorem configChanged_eq_false_iff {metrics : Bool} {existing new : InterfaceConfig}
    (left : existing.Loadable metrics) (right : new.Loadable metrics) :
    configChanged metrics existing new = false ↔ existing = new := by
  have tests := taskConfigsChanged_eq_false_iff left.tests right.tests
  have recoverys := taskConfigsChanged_eq_false_iff left.recoverys right.recoverys
  have metric : (metrics = true →
      existing.failingTestsMetricsIncrease = new.failingTestsMetricsIncrease) ↔
      existing.failingTestsMetricsIncrease = new.failingTestsMetricsIncrease := by
    refine ⟨fun same => ?_, fun same _ => same⟩
    cases on : metrics with
    | true => exact same on
    | false => rw [left.metrics on, right.metrics on]
  have count : existing.tests = new.tests → existing.numTests = new.numTests :=
    fun same => congrArg List.length same
  simp only [configChanged, interfaceTesterConfigTestsChanged,
    interfaceTesterConfigRecoverysChanged, Bool.or_eq_false_iff, Bool.and_eq_false_imp,
    decide_eq_false_iff_not, not_not, ne_eq, tests, recoverys, metric]
  constructor
  · rintro ⟨⟨⟨⟨⟨⟨⟨⟨⟨⟨condition, settling⟩, passing⟩, failing⟩, pass⟩, fail⟩, response⟩, adjust⟩, -⟩,
      sameTests⟩, sameRecoverys⟩
    cases existing
    cases new
    simp_all
  · rintro rfl
    simp

section Updates

variable {iface t : Interface} {launch : Launch}

/-! ## What an update does -/

/-- The tester was stopped and started again with the configuration. A tester that
has a settled connection begins with its first test. -/
structure Restarted (iface t : Interface) (config : InterfaceConfig) : Prop where
  config : t.config = config
  testIndex : t.tester.testIndex = 0
  recoveryIndex : t.recovery.recoveryIndex = 0
  state : t.tester.state = if iface.connection.state = .connected then .testing else .stopped
  sleeping : t.tester.testIntervalTimer = ⟨none⟩
  connection : t.connection = iface.connection
  recoveryState : t.recovery.state = iface.recovery.state
  metricsAreAdjusted : t.recovery.metricsAreAdjusted = iface.recovery.metricsAreAdjusted
  stats : t.tester.stats = iface.tester.stats
  logged : ∃ seen, t.trace = iface.trace ++ .testerState .stopped :: seen

theorem runTest_kept (iface : Interface) (index : ℕ) (launch : Launch) :
    (runTest iface index launch).2.tester.state = iface.tester.state ∧
      (runTest iface index launch).2.tester.testIndex = iface.tester.testIndex ∧
      (runTest iface index launch).2.tester.testIntervalTimer = iface.tester.testIntervalTimer ∧
      (runTest iface index launch).2.tester.stats = iface.tester.stats ∧
      (runTest iface index launch).2.recovery = iface.recovery := by
  unfold runTest
  dsimp only
  split <;> exact ⟨rfl, rfl, rfl, rfl, rfl⟩

theorem restarted_of_stopped (coherent : Coherent iface) (config : InterfaceConfig)
    (stopped : iface.tester.state = .stopped) :
    Restarted iface (reconfigured iface config) config := by
  have down : iface.connection.state ≠ .connected := fun up => coherent.connected.mp up stopped
  exact
    { config := rfl
      testIndex := rfl
      recoveryIndex := rfl
      state := (if_neg down).symm
      sleeping := rfl
      connection := rfl
      recoveryState := rfl
      metricsAreAdjusted := rfl
      stats := rfl
      logged := ⟨_, trace_testerStop iface⟩ }

theorem restarted_of_live (coherent : Coherent iface) (config : InterfaceConfig)
    (live : iface.tester.state ≠ .stopped) (launch : Launch) :
    Restarted iface (testerStartConnected (reconfigured iface config) launch) config := by
  have up := coherent.connected.mpr live
  obtain ⟨state, index, interval, stats, recovery⟩ := runTest_kept
    { testerStateTransition (reconfigured iface config) .testing with tester.testIndex := 0 } 0
    launch
  have kept : (testerStartConnected (reconfigured iface config) launch).recovery =
      { iface.recovery with recoveryIndex := 0 } := recovery
  have frame := frame_testerStartConnected (reconfigured iface config) launch
  have idle : (reconfigured iface config).tester.testProc.pending = none := by
    unfold reconfigured
    rw [testerStop_eq]
  have stopped : (reconfigured iface config).trace = iface.trace ++ .testerState .stopped ::
      (interfaceTesterKillProcess iface.tester.testProc).2 := trace_testerStop iface
  exact
    { config := (fields_of_frame frame).2
      testIndex := index
      recoveryIndex := by rw [kept]
      state := state.trans (if_pos up).symm
      sleeping := interval
      connection := congrArg (fun frame => frame.2.2.2.2) frame
      recoveryState := by rw [kept]
      metricsAreAdjusted := by rw [kept]
      stats := stats
      logged := by
        rw [trace_testerStartConnected idle, stopped, List.append_assoc]
        exact ⟨_, rfl⟩ }

/-- **An update with a changed configuration restarts the tester.** -/
theorem restarted_of_changed (coherent : Coherent iface) (new : AcceptedConfig)
    (changed : configChanged iface.ctx.withMetricsAdjustment iface.config new.config = true)
    (launch : Launch) :
    Restarted iface (configUpdate iface new.config launch) new.config := by
  have updated : configUpdate iface new.config launch =
      testerStart (reconfigured iface new.config) launch := by
    unfold configUpdate
    rw [if_pos changed]
    rfl
  rw [updated]
  by_cases stopped : iface.tester.state = .stopped
  · have starter := (coherent.stopped_parts stopped).2.1
    rw [testerStart_of_disconnected (by exact starter)]
    exact restarted_of_stopped coherent new.config stopped
  · have starter := coherent.starter.mpr stopped
    rw [testerStart_of_connected (by exact starter)]
    exact restarted_of_live coherent new.config stopped launch

/-- What an update leaves behind, when both configurations can be loaded. -/
theorem configUpdate_config (coherent : Coherent iface) {new : InterfaceConfig}
    (left : iface.config.Loadable iface.ctx.withMetricsAdjustment)
    (right : new.Loadable iface.ctx.withMetricsAdjustment) (launch : Launch) :
    (configUpdate iface new launch).config = new := by
  cases changed : configChanged iface.ctx.withMetricsAdjustment iface.config new with
  | true => exact (restarted_of_changed coherent ⟨new, right.accepted⟩ changed launch).config
  | false =>
      obtain rfl := (configChanged_eq_false_iff left right).mp changed
      rw [configUpdate_self]

end Updates

end IfaceTester
