import IfaceTester.Blobmsg

/-!
# The configuration of an interface

The records of `tester_common.h` that hold a configuration, and the test
`interface_config_validate` that a decoded configuration has to pass. The
arrays `tests` and `recoverys` are lists, and their lengths are `num_tests` and
`num_recoverys`.

`AcceptedConfig` is a configuration that the decoder can hand over: it passes
the validation and has at least one test. The runs of the tester are about
these only.
-/

set_option autoImplicit false

namespace IfaceTester

/-- `test_config_st` and `recovery_config_st`, which have the same fields. A
response timeout of zero stands for the default of the interface. -/
structure TaskConfig where
  index : ℕ
  executableName : String
  label : String
  responseTimeoutSecs : UInt32
  params : BlobAttr
deriving DecidableEq

abbrev TestConfig := TaskConfig

abbrev RecoveryConfig := TaskConfig

instance : Inhabited TaskConfig :=
  ⟨{ index := 0, executableName := "", label := "", responseTimeoutSecs := 0, params := .invalid }⟩

/-- `test_run_success_condition_t`, with the count that closes the C list. -/
inductive TestRunSuccessCondition where
  | one
  | all
  | count
deriving DecidableEq

/-- `success_condition_st`. -/
structure SuccessCondition where
  name : String
  condition : TestRunSuccessCondition
deriving DecidableEq

/-- `condition_definitions`, the only entries a configuration points to. -/
def conditionDefinitions : List SuccessCondition :=
  [{ name := "one_test_must_pass", condition := .one },
    { name := "all_tests_must_pass", condition := .all }]

/-- `success_condition_from_name`. -/
def successConditionFromName (name : String) : Option SuccessCondition :=
  conditionDefinitions.find? fun definition => decide (name = definition.name)

/-- `interface_config_st`. The pointer to the success condition is null when
the name was not known. -/
structure InterfaceConfig where
  successCondition : Option SuccessCondition
  settlingDelaySecs : UInt32
  testPassingIntervalSecs : UInt32
  testFailingIntervalSecs : UInt32
  passThreshold : UInt32
  failThreshold : UInt32
  responseTimeoutSecs : UInt32
  failingTestsMetricsIncrease : UInt32
  tests : List TestConfig
  recoverys : List RecoveryConfig
deriving DecidableEq

namespace InterfaceConfig

/-- `num_tests`. -/
def numTests (config : InterfaceConfig) : ℕ := config.tests.length

/-- `num_recoverys`. -/
def numRecoverys (config : InterfaceConfig) : ℕ := config.recoverys.length

/-- `config->success_condition->condition`. No configuration that passes the
validation has a null pointer there. -/
def condition (config : InterfaceConfig) : TestRunSuccessCondition :=
  match config.successCondition with
  | some definition => definition.condition
  | none => .count

/-- The fields are as `calloc` leaves them. -/
def zeroed : InterfaceConfig where
  successCondition := none
  settlingDelaySecs := 0
  testPassingIntervalSecs := 0
  testFailingIntervalSecs := 0
  passThreshold := 0
  failThreshold := 0
  responseTimeoutSecs := 0
  failingTestsMetricsIncrease := 0
  tests := []
  recoverys := []

end InterfaceConfig

/-- `interface_config_validate`. -/
def interfaceConfigValidate (config : InterfaceConfig) : Bool :=
  config.successCondition.isSome
    && decide (config.responseTimeoutSecs > 0)
    && decide (config.testPassingIntervalSecs > 0)
    && decide (config.testFailingIntervalSecs > 0)
    && decide (config.passThreshold > 0)
    && decide (config.failThreshold > 0)

/-- What the decoder promises of a configuration it hands over. -/
structure InterfaceConfig.Accepted (config : InterfaceConfig) : Prop where
  validated : interfaceConfigValidate config = true
  listed : ∀ definition, config.successCondition = some definition →
    definition ∈ conditionDefinitions
  testsNonempty : config.tests ≠ []

/-- A configuration the tester may run with. -/
structure AcceptedConfig where
  config : InterfaceConfig
  accepted : config.Accepted

namespace InterfaceConfig.Accepted

variable {config : InterfaceConfig}

theorem numTests_pos (accepted : config.Accepted) : 0 < config.numTests :=
  List.length_pos_iff.mpr accepted.testsNonempty

theorem passThreshold_pos (accepted : config.Accepted) : 0 < config.passThreshold := by
  have valid := accepted.validated
  simp only [interfaceConfigValidate, Bool.and_eq_true, decide_eq_true_eq] at valid
  exact valid.1.2

theorem failThreshold_pos (accepted : config.Accepted) : 0 < config.failThreshold := by
  have valid := accepted.validated
  simp only [interfaceConfigValidate, Bool.and_eq_true, decide_eq_true_eq] at valid
  exact valid.2

/-- The condition of an accepted configuration is one of the two in the table. -/
theorem condition_cases (accepted : config.Accepted) :
    config.condition = .one ∨ config.condition = .all := by
  have valid := accepted.validated
  simp only [interfaceConfigValidate, Bool.and_eq_true] at valid
  obtain ⟨definition, found⟩ := Option.isSome_iff_exists.mp valid.1.1.1.1.1
  have member := accepted.listed definition found
  simp only [conditionDefinitions, List.mem_cons, List.not_mem_nil, or_false] at member
  rcases member with rfl | rfl
  · exact .inl (by simp [condition, found])
  · exact .inr (by simp [condition, found])

end InterfaceConfig.Accepted

/-- The name of a listed condition leads back to it. -/
theorem successConditionFromName_name {definition : SuccessCondition}
    (listed : definition ∈ conditionDefinitions) :
    successConditionFromName definition.name = some definition := by
  simp only [conditionDefinitions, List.mem_cons, List.not_mem_nil, or_false] at listed
  rcases listed with rfl | rfl <;> decide

theorem mem_of_successConditionFromName {name : String} {definition : SuccessCondition}
    (found : successConditionFromName name = some definition) :
    definition ∈ conditionDefinitions :=
  List.mem_of_find?_eq_some found

end IfaceTester
