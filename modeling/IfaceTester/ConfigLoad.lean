import IfaceTester.Callbacks
import IfaceTester.Foundations.Decoding

/-!
# Loading the configuration of an interface

`interface_handle_config` of `config.c` and what it calls: the policy tables,
the decoders of the two task lists, and the entry handler. The lists are decoded
by the same code twice, with the names of the tests and of the recovery tasks.

`Loadable` says what every configuration has that the handler hands to the list
of interfaces.
-/

set_option autoImplicit false

namespace IfaceTester

open Decoding

/-! ## `strings.c` -/

def sConfig : String := "config"
def sTests : String := "tests"
def sRecoveryTasks : String := "recovery_tasks"
def sExecutable : String := "executable"
def sLabel : String := "label"
def sResponseTimeoutSecs : String := "response_timeout_secs"
def sParams : String := "params"
def sSuccessCondition : String := "success_condition"
def sSettlingDelaySecs : String := "settling_delay_secs"
def sPassingIntervalSecs : String := "passing_interval_secs"
def sFailingIntervalSecs : String := "failing_interval_secs"
def sPassThreshold : String := "pass_threshold"
def sFailThreshold : String := "fail_threshold"
def sFailingTestsMetricsIncrease : String := "failing_tests_metrics_increase"

/-! ## Tests and recovery tasks -/

/-- `interface_test_config_policy_t` and `interface_recovery_config_policy_t`. -/
inductive TaskConfigPolicy where
  | executable
  | label
  | responseTimeout
  | params

/-- The entries that the two policy tables share. -/
def taskConfigPolicy : TaskConfigPolicy → BlobmsgPolicy
  | .executable => { name := sExecutable, type := .string }
  | .label => { name := sLabel, type := .string }
  | .responseTimeout => { name := sResponseTimeoutSecs, type := .int32 }
  | .params => { name := sParams, type := .table }

/-- `interface_test_config_policy`. -/
def interfaceTestConfigPolicy : TaskConfigPolicy → BlobmsgPolicy := taskConfigPolicy

/-- `interface_recovery_config_policy`. -/
def interfaceRecoveryConfigPolicy : TaskConfigPolicy → BlobmsgPolicy := taskConfigPolicy

/-- The decoder of one task. A task without parameters gets an empty table, so
that its pointer is not null. -/
def addTaskConfiguration (policy : TaskConfigPolicy → BlobmsgPolicy) (index : ℕ)
    (task : BlobAttr) : Option TaskConfig :=
  let tb := (blobmsgParse policy task.data).2
  match tb .executable with
  | none => none
  | some executable => some
      { index := index
        executableName := executable.getString
        label := (tb .label).elim "" BlobAttr.getString
        responseTimeoutSecs := (tb .responseTimeout).elim 0 BlobAttr.getU32
        params := (tb .params).getD (.table sParams []) }

/-- `add_test_configuration`. -/
def addTestConfiguration : ℕ → BlobAttr → Option TestConfig :=
  addTaskConfiguration interfaceTestConfigPolicy

/-- `add_recovery_configuration`. -/
def addRecoveryConfiguration : ℕ → BlobAttr → Option RecoveryConfig :=
  addTaskConfiguration interfaceRecoveryConfigPolicy

/-- The decoder of a list of tasks, which refuses some counts of tables. -/
def addTaskConfigurations (refuses : Int → Bool) (add : ℕ → BlobAttr → Option TaskConfig)
    (tasks : BlobAttr) : Option (List TaskConfig) :=
  if tasks.type ≠ some .array then none
  else if refuses (blobmsgCheckArray tasks .table) then none
  else decodeFrom add 0 tasks.data

/-- `add_test_configurations`. There has to be a test. -/
def addTestConfigurations : BlobAttr → Option (List TestConfig) :=
  addTaskConfigurations (fun numTests => decide (numTests ≤ 0)) addTestConfiguration

/-- `add_recovery_configurations`. -/
def addRecoveryConfigurations : BlobAttr → Option (List RecoveryConfig) :=
  addTaskConfigurations (fun numRecoverys => decide (numRecoverys < 0)) addRecoveryConfiguration

/-! ## One interface -/

/-- `interface_config_policy_t`. -/
inductive InterfaceConfigPolicy where
  | successCondition
  | settlingDelay
  | passingInterval
  | failingInterval
  | passThreshold
  | failThreshold
  | responseTimeout
  | tests
  | recovery
  | failingTestsMetricsIncrease
deriving DecidableEq

/-- `interface_config_policy`. -/
def interfaceConfigPolicy : InterfaceConfigPolicy → BlobmsgPolicy
  | .successCondition => { name := sSuccessCondition, type := .string }
  | .settlingDelay => { name := sSettlingDelaySecs, type := .int32 }
  | .passingInterval => { name := sPassingIntervalSecs, type := .int32 }
  | .failingInterval => { name := sFailingIntervalSecs, type := .int32 }
  | .passThreshold => { name := sPassThreshold, type := .int32 }
  | .failThreshold => { name := sFailThreshold, type := .int32 }
  | .responseTimeout => { name := sResponseTimeoutSecs, type := .int32 }
  | .tests => { name := sTests, type := .array }
  | .recovery => { name := sRecoveryTasks, type := .array }
  | .failingTestsMetricsIncrease => { name := sFailingTestsMetricsIncrease, type := .int32 }

/-- The entries of the table, of which the last needs the build option. -/
def interfaceConfigFields (withMetricsAdjustment : Bool) : List InterfaceConfigPolicy :=
  [.successCondition, .settlingDelay, .passingInterval, .failingInterval, .passThreshold,
    .failThreshold, .responseTimeout, .tests, .recovery]
    ++ if withMetricsAdjustment then [.failingTestsMetricsIncrease] else []

/-- The scalar fields of a configuration, when no field is missing. -/
def interfaceConfigScalars (withMetricsAdjustment : Bool)
    (field : InterfaceConfigPolicy → BlobAttr) : InterfaceConfig :=
  { InterfaceConfig.zeroed with
    successCondition := successConditionFromName (field .successCondition).getString
    settlingDelaySecs := (field .settlingDelay).getU32
    testPassingIntervalSecs := (field .passingInterval).getU32
    testFailingIntervalSecs := (field .failingInterval).getU32
    passThreshold := (field .passThreshold).getU32
    failThreshold := (field .failThreshold).getU32
    responseTimeoutSecs := (field .responseTimeout).getU32
    failingTestsMetricsIncrease :=
      if withMetricsAdjustment then (field .failingTestsMetricsIncrease).getU32 else 0 }

/-- What the handler of an entry leaves behind: its status, the interface that
it handed to `vlist_add`, and the one that it freed. -/
structure HandledConfig where
  res : Int
  added : Option Interface
  freed : Option Interface

/-- `UBUS_STATUS_OK`. -/
def ubusStatusOk : Int := 0

/-- `interface_handle_config`. The name of an attribute is never null. The status
of an entry that is refused after the fields were parsed is the one that the
parser returned. -/
def interfaceHandleConfig (ctx : InterfaceTesterShared) (msg : BlobAttr) : HandledConfig :=
  let parsed := blobmsgParse interfaceConfigPolicy msg.data
  let res := parsed.1
  let tb := parsed.2
  if res ≠ ubusStatusOk then { res := res, added := none, freed := none }
  else if (interfaceConfigFields ctx.withMetricsAdjustment).any fun i => (tb i).isNone then
    { res := res, added := none, freed := none }
  else
    let field := fun i => (tb i).getD .invalid
    let iface :=
      { interfaceTesterAlloc ctx msg.name with
        config := interfaceConfigScalars ctx.withMetricsAdjustment field }
    match addTestConfigurations (field .tests) with
    | none => { res := res, added := none, freed := some (interfaceTesterFree iface) }
    | some tests =>
        match addRecoveryConfigurations (field .recovery) with
        | none => { res := res, added := none, freed := some (interfaceTesterFree iface) }
        | some recoverys =>
            let iface := { iface with config.tests := tests, config.recoverys := recoverys }
            if interfaceConfigValidate iface.config then
              { res := ubusStatusOk, added := some iface, freed := none }
            else { res := res, added := none, freed := some (interfaceTesterFree iface) }

/-! ## What the handler accepts -/

/-- The task is one that the decoder can produce at the index. -/
structure TaskConfig.Loadable (index : ℕ) (task : TaskConfig) : Prop where
  index : task.index = index
  params : ∃ fields, task.params = .table sParams fields

/-- The configuration is one that the handler can hand over. -/
structure InterfaceConfig.Loadable (withMetricsAdjustment : Bool) (config : InterfaceConfig) :
    Prop where
  accepted : config.Accepted
  tests : ∀ k (task : TaskConfig), config.tests[k]? = some task → task.Loadable k
  recoverys : ∀ k (task : TaskConfig), config.recoverys[k]? = some task → task.Loadable k
  metrics : withMetricsAdjustment = false → config.failingTestsMetricsIncrease = 0

theorem eq_table_of_type {attr : BlobAttr} (type : attr.type = some .table) :
    ∃ fields, attr = .table attr.name fields := by
  cases attr with
  | table name fields => exact ⟨fields, rfl⟩
  | _ => cases type

/-- A decoded task is loadable at its index. -/
theorem loadable_of_addTaskConfiguration {index : ℕ} {attr : BlobAttr} {task : TaskConfig}
    (added : addTaskConfiguration taskConfigPolicy index attr = some task) :
    task.Loadable index := by
  unfold addTaskConfiguration at added
  dsimp only at added
  split at added
  · cases added
  · cases added
    refine ⟨rfl, ?_⟩
    cases found : (blobmsgParse taskConfigPolicy attr.data).2 .params with
    | none => exact ⟨[], rfl⟩
    | some params =>
        obtain ⟨type, name⟩ := selects_of_blobmsgParse found
        obtain ⟨fields, table⟩ := eq_table_of_type type
        exact ⟨fields, table.trans (by rw [name]; rfl)⟩

theorem loadable_of_addTaskConfigurations {refuses : Int → Bool} {attr : BlobAttr}
    {tasks : List TaskConfig}
    (added : addTaskConfigurations refuses (addTaskConfiguration taskConfigPolicy) attr =
      some tasks) (k : ℕ) (task : TaskConfig) (member : tasks[k]? = some task) :
    task.Loadable k := by
  unfold addTaskConfigurations at added
  split at added
  · cases added
  · split at added
    · cases added
    · have loadable := forall_of_decodeFrom added
        (fun _ _ _ decoded => loadable_of_addTaskConfiguration decoded) k task member
      rwa [Nat.zero_add] at loadable

/-- A list of tests that is accepted has a test. -/
theorem ne_nil_of_addTestConfigurations {attr : BlobAttr} {tests : List TestConfig}
    (added : addTestConfigurations attr = some tests) : tests ≠ [] := by
  unfold addTestConfigurations addTaskConfigurations at added
  split at added
  · cases added
  · split at added
    · cases added
    case isFalse enough =>
      rintro rfl
      have empty := (decodeFrom_eq_some_iff.mp added).1
      have nothing := List.eq_nil_of_length_eq_zero empty
      cases attr <;> simp_all [blobmsgCheckArray, BlobAttr.data]

/-- **What the handler hands over**: an interface as it was allocated for the
name of the entry, with a loadable configuration. -/
theorem loadable_of_interfaceHandleConfig {ctx : InterfaceTesterShared} {msg : BlobAttr}
    {iface : Interface} (handled : (interfaceHandleConfig ctx msg).added = some iface) :
    iface.config.Loadable ctx.withMetricsAdjustment ∧
      iface = { interfaceTesterAlloc ctx msg.name with config := iface.config } := by
  unfold interfaceHandleConfig at handled
  dsimp only at handled
  split at handled
  · cases handled
  · split at handled
    · cases handled
    · split at handled
      · cases handled
      case h_2 tests testsAdded =>
        split at handled
        · cases handled
        case h_2 recoverys recoverysAdded =>
          split at handled
          case isTrue valid =>
            cases handled
            refine ⟨⟨⟨valid, ?_, ne_nil_of_addTestConfigurations testsAdded⟩,
              loadable_of_addTaskConfigurations testsAdded,
              loadable_of_addTaskConfigurations recoverysAdded, ?_⟩, rfl⟩
            · intro definition found
              exact mem_of_successConditionFromName found
            · intro off
              simp [interfaceConfigScalars, off]
          case isFalse => cases handled

/-- `config_add` begins a run with what the handler hands over. -/
theorem begun_of_interfaceHandleConfig {ctx : InterfaceTesterShared} {msg : BlobAttr}
    {iface : Interface} (handled : (interfaceHandleConfig ctx msg).added = some iface)
    (isConnected : Bool) (launch : Launch) :
    interfaceTesterBegin iface isConnected launch = begun ctx msg.name
      ⟨iface.config, (loadable_of_interfaceHandleConfig handled).1.accepted⟩ isConnected
      launch := by
  have allocated := (loadable_of_interfaceHandleConfig handled).2
  exact congrArg (interfaceTesterBegin · isConnected launch) allocated

/-- The scalars depend on the fields of the policy only. -/
theorem interfaceConfigScalars_congr {withMetricsAdjustment : Bool}
    {field other : InterfaceConfigPolicy → BlobAttr}
    (same : ∀ i ∈ interfaceConfigFields withMetricsAdjustment, field i = other i) :
    interfaceConfigScalars withMetricsAdjustment field =
      interfaceConfigScalars withMetricsAdjustment other := by
  have listed : ∀ i, i ≠ .failingTestsMetricsIncrease → field i = other i := fun i scalar =>
    same i (by cases i <;> simp [interfaceConfigFields] at scalar ⊢)
  unfold interfaceConfigScalars
  cases withMetricsAdjustment with
  | false => simp [listed]
  | true => simp [listed, same .failingTestsMetricsIncrease (by simp [interfaceConfigFields])]

/-- **An entry with every field of the policy is accepted** when both lists are
and the configuration is valid. -/
theorem interfaceHandleConfig_of_fields {ctx : InterfaceTesterShared} {msg : BlobAttr}
    {field : InterfaceConfigPolicy → BlobAttr} {tests : List TestConfig}
    {recoverys : List RecoveryConfig}
    (status : (blobmsgParse interfaceConfigPolicy msg.data).1 = ubusStatusOk)
    (found : ∀ i ∈ interfaceConfigFields ctx.withMetricsAdjustment,
      (blobmsgParse interfaceConfigPolicy msg.data).2 i = some (field i))
    (testsAdded : addTestConfigurations (field .tests) = some tests)
    (recoverysAdded : addRecoveryConfigurations (field .recovery) = some recoverys)
    (valid : interfaceConfigValidate
      { interfaceConfigScalars ctx.withMetricsAdjustment field with tests, recoverys } = true) :
    (interfaceHandleConfig ctx msg).added = some
      { interfaceTesterAlloc ctx msg.name with
        config := { interfaceConfigScalars ctx.withMetricsAdjustment field with
          tests, recoverys } } := by
  have present : ((interfaceConfigFields ctx.withMetricsAdjustment).any fun i =>
      ((blobmsgParse interfaceConfigPolicy msg.data).2 i).isNone) = false := by
    rw [List.any_eq_false]
    intro i member
    simp [found i member]
  have read : ∀ i ∈ interfaceConfigFields ctx.withMetricsAdjustment,
      ((blobmsgParse interfaceConfigPolicy msg.data).2 i).getD .invalid = field i := by
    intro i member
    rw [found i member]
    rfl
  have scalars := interfaceConfigScalars_congr read
  unfold interfaceHandleConfig
  simp only [status, ne_eq, not_true_eq_false, if_false, present, Bool.false_eq_true, scalars,
    read .tests (by simp [interfaceConfigFields]), testsAdded,
    read .recovery (by simp [interfaceConfigFields]), recoverysAdded, valid, if_true]

end IfaceTester
