import IfaceTester.ConfigLoad

/-!
# Dumping the configuration of an interface

The `config` table of a state dump has the fields that a configuration load
reads, written in another file. What comes back when it is loaded again is the
dumped configuration with the two thresholds exchanged.
-/

set_option autoImplicit false

namespace IfaceTester

open Decoding

/-! ## `dump.c` -/

/-- The loop over one of the two lists of tasks. -/
def dumpTaskConfigs (name : String) (tasks : List TaskConfig) : BlobAttr :=
  .array name (tasks.map fun task => .table ""
    [.string sExecutable task.executableName, .string sLabel task.label,
      .int32 sResponseTimeoutSecs task.responseTimeoutSecs, task.params])

/-- `interface_dump_test_config`. -/
def interfaceDumpTestConfig (config : InterfaceConfig) : BlobAttr :=
  dumpTaskConfigs sTests config.tests

/-- `interface_dump_recovery_config`. -/
def interfaceDumpRecoveryConfig (config : InterfaceConfig) : BlobAttr :=
  dumpTaskConfigs sRecoveryTasks config.recoverys

/-- `interface_dump_config`. Each threshold is written under the name of the
other. -/
def interfaceDumpConfig (iface : Interface) : BlobAttr :=
  let config := iface.config
  .table sConfig
    ([.string sSuccessCondition (config.successCondition.elim "" SuccessCondition.name),
      .int32 sSettlingDelaySecs config.settlingDelaySecs,
      .int32 sPassingIntervalSecs config.testPassingIntervalSecs,
      .int32 sFailingIntervalSecs config.testFailingIntervalSecs,
      .int32 sPassThreshold config.failThreshold,
      .int32 sFailThreshold config.passThreshold,
      .int32 sResponseTimeoutSecs config.responseTimeoutSecs]
      ++ (if iface.ctx.withMetricsAdjustment then
        [.int32 sFailingTestsMetricsIncrease config.failingTestsMetricsIncrease] else [])
      ++ [interfaceDumpTestConfig config, interfaceDumpRecoveryConfig config])

/-! ## Loading what was dumped -/

/-- The entry of a configuration load that holds a dumped table under a name. -/
def reloadEntry (name : String) (dumped : BlobAttr) : BlobAttr := .table name dumped.data

/-- The configuration with its thresholds exchanged. -/
def InterfaceConfig.thresholdsSwapped (config : InterfaceConfig) : InterfaceConfig :=
  { config with passThreshold := config.failThreshold, failThreshold := config.passThreshold }

/-- The field of a dumped task for an entry of the policy. -/
def dumpedTaskField (task : TaskConfig) : TaskConfigPolicy → BlobAttr
  | .executable => .string sExecutable task.executableName
  | .label => .string sLabel task.label
  | .responseTimeout => .int32 sResponseTimeoutSecs task.responseTimeoutSecs
  | .params => task.params

/-- A dumped task decodes to itself. -/
theorem addTaskConfiguration_dump {index : ℕ} {task : TaskConfig}
    (loadable : task.Loadable index) :
    addTaskConfiguration taskConfigPolicy index (.table ""
      [.string sExecutable task.executableName, .string sLabel task.label,
        .int32 sResponseTimeoutSecs task.responseTimeoutSecs, task.params]) = some task := by
  obtain ⟨-, found⟩ := @blobmsgParse_map _ taskConfigPolicy
    [.executable, .label, .responseTimeout, .params] (dumpedTaskField task) (by simp) (fun i _ => by
      cases i with
      | params =>
          obtain ⟨fields, table⟩ := loadable.params
          simp [BlobmsgPolicy.selects, dumpedTaskField, taskConfigPolicy, table, BlobAttr.type,
            BlobAttr.name]
      | _ => rfl) (by decide)
  have executable := found .executable (by simp)
  have label := found .label (by simp)
  have timeout := found .responseTimeout (by simp)
  have params := found .params (by simp)
  simp only [List.map_cons, List.map_nil, dumpedTaskField] at executable label timeout params
  simp only [addTaskConfiguration, BlobAttr.data, executable, label, timeout, params]
  rw [← loadable.index]
  rfl

/-- A dumped list of tasks decodes to itself, unless its length is refused. -/
theorem addTaskConfigurations_dump {refuses : Int → Bool} {name : String}
    {tasks : List TaskConfig} (enough : refuses tasks.length = false)
    (loadable : ∀ k (task : TaskConfig), tasks[k]? = some task → task.Loadable k) :
    addTaskConfigurations refuses (addTaskConfiguration taskConfigPolicy)
      (dumpTaskConfigs name tasks) = some tasks := by
  have decoded := @decodeFrom_map _ _ (addTaskConfiguration taskConfigPolicy) 0 tasks _
    (fun k task member => by
      rw [Nat.zero_add]
      exact addTaskConfiguration_dump (loadable k task member))
  have counted : blobmsgCheckArray (dumpTaskConfigs name tasks) .table = tasks.length := by
    simp [blobmsgCheckArray, dumpTaskConfigs, BlobAttr.type]
  unfold addTaskConfigurations
  rw [counted, enough]
  simpa [dumpTaskConfigs, BlobAttr.type, BlobAttr.data] using decoded

/-- The field that a dump writes for an entry of the policy. -/
def dumpedField (iface : Interface) : InterfaceConfigPolicy → BlobAttr
  | .successCondition => .string sSuccessCondition
      (iface.config.successCondition.elim "" SuccessCondition.name)
  | .settlingDelay => .int32 sSettlingDelaySecs iface.config.settlingDelaySecs
  | .passingInterval => .int32 sPassingIntervalSecs iface.config.testPassingIntervalSecs
  | .failingInterval => .int32 sFailingIntervalSecs iface.config.testFailingIntervalSecs
  | .passThreshold => .int32 sPassThreshold iface.config.failThreshold
  | .failThreshold => .int32 sFailThreshold iface.config.passThreshold
  | .responseTimeout => .int32 sResponseTimeoutSecs iface.config.responseTimeoutSecs
  | .tests => interfaceDumpTestConfig iface.config
  | .recovery => interfaceDumpRecoveryConfig iface.config
  | .failingTestsMetricsIncrease =>
      .int32 sFailingTestsMetricsIncrease iface.config.failingTestsMetricsIncrease

/-- The entries of the policy in the order of a dump. -/
def dumpOrder (withMetricsAdjustment : Bool) : List InterfaceConfigPolicy :=
  [.successCondition, .settlingDelay, .passingInterval, .failingInterval, .passThreshold,
    .failThreshold, .responseTimeout]
    ++ (if withMetricsAdjustment then [.failingTestsMetricsIncrease] else [])
    ++ [.tests, .recovery]

theorem data_interfaceDumpConfig (iface : Interface) : (interfaceDumpConfig iface).data =
    (dumpOrder iface.ctx.withMetricsAdjustment).map (dumpedField iface) := by
  unfold interfaceDumpConfig dumpOrder
  cases iface.ctx.withMetricsAdjustment <;> rfl

/-- The parser finds every field of a dump that the handler asks for. -/
theorem blobmsgParse_dump (iface : Interface) :
    (blobmsgParse interfaceConfigPolicy (interfaceDumpConfig iface).data).1 = ubusStatusOk ∧
      ∀ i ∈ interfaceConfigFields iface.ctx.withMetricsAdjustment,
        (blobmsgParse interfaceConfigPolicy (interfaceDumpConfig iface).data).2 i =
          some (dumpedField iface i) := by
  have asked : ∀ i, (interfaceConfigPolicy i).selects (dumpedField iface i) = true := by
    intro i
    cases i <;> rfl
  have dumped : ∀ built, ∀ i ∈ interfaceConfigFields built, i ∈ dumpOrder built := by decide
  have distinct : ∀ built,
      ((dumpOrder built).map fun i => (interfaceConfigPolicy i).name).Nodup := by decide
  obtain ⟨status, found⟩ := blobmsgParse_map
    (show dumpOrder iface.ctx.withMetricsAdjustment ≠ [] by simp [dumpOrder])
    (fun i _ => asked i) (distinct _)
  rw [data_interfaceDumpConfig]
  exact ⟨status, fun i member => found i (dumped _ i member)⟩

/-- The dumped fields, read back. -/
theorem config_of_dumpedField {withMetricsAdjustment : Bool} {iface : Interface}
    (loadable : iface.config.Loadable withMetricsAdjustment) :
    { interfaceConfigScalars withMetricsAdjustment (dumpedField iface) with
      tests := iface.config.tests, recoverys := iface.config.recoverys } =
      iface.config.thresholdsSwapped := by
  have condition : successConditionFromName
      (iface.config.successCondition.elim "" SuccessCondition.name) =
        iface.config.successCondition := by
    have valid := loadable.accepted.validated
    simp only [interfaceConfigValidate, Bool.and_eq_true] at valid
    obtain ⟨definition, found⟩ := Option.isSome_iff_exists.mp valid.1.1.1.1.1
    rw [found]
    exact successConditionFromName_name (loadable.accepted.listed definition found)
  have metrics : (if withMetricsAdjustment then iface.config.failingTestsMetricsIncrease else 0) =
      iface.config.failingTestsMetricsIncrease := by
    cases withMetricsAdjustment with
    | true => rfl
    | false => exact (loadable.metrics rfl).symm
  simp only [interfaceConfigScalars, dumpedField, BlobAttr.getString, BlobAttr.getU32, condition,
    metrics, InterfaceConfig.thresholdsSwapped]

/-- **A dumped configuration is accepted again**, with its thresholds exchanged. -/
theorem interfaceHandleConfig_dump {ctx : InterfaceTesterShared} {iface : Interface}
    (built : iface.ctx.withMetricsAdjustment = ctx.withMetricsAdjustment)
    (loadable : iface.config.Loadable ctx.withMetricsAdjustment) (name : String) :
    (interfaceHandleConfig ctx (reloadEntry name (interfaceDumpConfig iface))).added =
      some { interfaceTesterAlloc ctx name with config := iface.config.thresholdsSwapped } := by
  obtain ⟨status, found⟩ := blobmsgParse_dump iface
  have tests : addTestConfigurations (interfaceDumpTestConfig iface.config) =
      some iface.config.tests :=
    addTaskConfigurations_dump (by simpa using loadable.accepted.testsNonempty) loadable.tests
  have recoverys : addRecoveryConfigurations (interfaceDumpRecoveryConfig iface.config) =
      some iface.config.recoverys :=
    addTaskConfigurations_dump (by simp) loadable.recoverys
  have same : { interfaceConfigScalars ctx.withMetricsAdjustment (dumpedField iface) with
      tests := iface.config.tests, recoverys := iface.config.recoverys } =
      iface.config.thresholdsSwapped :=
    config_of_dumpedField loadable
  have valid : interfaceConfigValidate iface.config.thresholdsSwapped = true := by
    have valid := loadable.accepted.validated
    simp only [interfaceConfigValidate, InterfaceConfig.thresholdsSwapped, Bool.and_eq_true] at *
    exact ⟨⟨valid.1.1, valid.2⟩, valid.1.2⟩
  rw [← same] at valid ⊢
  exact interfaceHandleConfig_of_fields status (built ▸ found) tests recoverys valid

/-! ## Reloading -/

/-- A list of tasks has not changed from itself. -/
theorem taskConfigsChanged_self (tasks : List TaskConfig) :
    taskConfigsChanged tasks tasks = false := by
  simp only [taskConfigsChanged, ne_eq, not_true_eq_false, if_false, List.any_eq_false]
  rintro ⟨existing, new⟩ member
  obtain rfl : existing = new := by
    obtain ⟨k, inside, same⟩ := List.mem_iff_getElem.mp member
    rw [List.getElem_zip] at same
    exact (Prod.mk.inj same).1.symm.trans (Prod.mk.inj same).2
  simp [taskConfigChanged]

theorem InterfaceConfig.thresholdsSwapped_of_eq {config : InterfaceConfig}
    (equal : config.passThreshold = config.failThreshold) : config.thresholdsSwapped = config := by
  cases config
  cases equal
  rfl

/-- An update to the same configuration does nothing. -/
theorem configUpdate_self (iface : Interface) (launch : Launch) :
    configUpdate iface iface.config launch = iface := by
  have same : configChanged iface.ctx.withMetricsAdjustment iface.config iface.config = false := by
    simp [configChanged, interfaceTesterConfigTestsChanged, interfaceTesterConfigRecoverysChanged,
      taskConfigsChanged_self]
  rw [configUpdate, same]
  rfl

/-- The dumped configuration is accepted under the name of the interface, it is
the configuration in use, and the update to it changes nothing. -/
def ReloadsUnchanged (iface : Interface) : Prop :=
  ∃ again, (interfaceHandleConfig iface.ctx
      (reloadEntry iface.name (interfaceDumpConfig iface))).added = some again ∧
    again.name = iface.name ∧ again.config = iface.config ∧
    ∀ launch, configUpdate iface again.config launch = iface

/-- **Dump and load are inverse exactly when the thresholds are equal.** -/
theorem reloads_unchanged_iff {msg : BlobAttr} {iface added : Interface}
    (handled : (interfaceHandleConfig iface.ctx msg).added = some added)
    (loaded : iface.config = added.config) :
    ReloadsUnchanged iface ↔ iface.config.passThreshold = iface.config.failThreshold := by
  have loadable := (loadable_of_interfaceHandleConfig handled).1
  rw [← loaded] at loadable
  have again := interfaceHandleConfig_dump rfl loadable iface.name
  constructor
  · rintro ⟨other, reloaded, -, same, -⟩
    obtain rfl := Option.some.inj (again.symm.trans reloaded)
    exact (congrArg InterfaceConfig.passThreshold same).symm
  · intro equal
    rw [InterfaceConfig.thresholdsSwapped_of_eq equal] at again
    exact ⟨_, again, rfl, rfl, configUpdate_self iface⟩

/-- The entry of an interface with one test and one recovery task. -/
def pingEntry (passThreshold failThreshold : UInt32) : BlobAttr :=
  .table "wan"
    [.string sSuccessCondition "all_tests_must_pass", .int32 sSettlingDelaySecs 1,
      .int32 sPassingIntervalSecs 60, .int32 sFailingIntervalSecs 30,
      .int32 sPassThreshold passThreshold, .int32 sFailThreshold failThreshold,
      .int32 sResponseTimeoutSecs 10,
      .array sTests [.table "" [.string sExecutable "ping"]],
      .array sRecoveryTasks [.table "" [.string sExecutable "renew", .string sLabel "renew"]]]

theorem reloads_unchanged_ping : ∃ iface,
    (interfaceHandleConfig connectedShared (pingEntry 3 3)).added = some iface ∧
      ReloadsUnchanged iface := by
  have accepted : (interfaceHandleConfig connectedShared (pingEntry 3 3)).added.map
      (fun iface => (iface.config.passThreshold, iface.config.failThreshold)) = some (3, 3) := by
    decide +kernel
  obtain ⟨iface, handled, thresholds⟩ := Option.map_eq_some_iff.mp accepted
  obtain ⟨pass, fail⟩ := Prod.mk.inj thresholds
  have allocated := (loadable_of_interfaceHandleConfig handled).2
  have shared : iface.ctx = connectedShared := by
    rw [allocated]
    rfl
  have equal : iface.config.passThreshold = iface.config.failThreshold := pass.trans fail.symm
  exact ⟨iface, handled, (reloads_unchanged_iff (shared ▸ handled) rfl).mpr equal⟩

/-- The thresholds of a dumped configuration come back exchanged. -/
theorem not_reloads_unchanged : ¬ ∀ (msg : BlobAttr) (iface added : Interface),
    (interfaceHandleConfig iface.ctx msg).added = some added → iface.config = added.config →
      ReloadsUnchanged iface := by
  intro reloads
  have accepted : (interfaceHandleConfig connectedShared (pingEntry 3 4)).added.bind (fun iface =>
      (interfaceHandleConfig iface.ctx
        (reloadEntry iface.name (interfaceDumpConfig iface))).added.map fun again =>
          (decide (iface.ctx = connectedShared), iface.config.passThreshold,
            again.config.passThreshold)) = some (true, 3, 4) := by decide +kernel
  obtain ⟨iface, handled, continues⟩ := Option.bind_eq_some_iff.mp accepted
  obtain ⟨again, reloaded, facts⟩ := Option.map_eq_some_iff.mp continues
  simp only [Prod.mk.injEq, decide_eq_true_eq] at facts
  obtain ⟨shared, before, after⟩ := facts
  obtain ⟨other, found, -, same, -⟩ := reloads (pingEntry 3 4) iface iface (shared ▸ handled) rfl
  obtain rfl := Option.some.inj (reloaded.symm.trans found)
  have equal := before.symm.trans ((congrArg InterfaceConfig.passThreshold same).symm.trans after)
  revert equal
  decide

end IfaceTester
