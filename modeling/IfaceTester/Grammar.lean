import IfaceTester.ConfigLoad

/-!
# The grammar of an interface entry

What an entry has to look like for `interface_handle_config` to hand an interface to
`vlist_add`, and what configuration it then hands over. Both are said about the
attributes of the entry alone: a field is the first attribute of its name and type
(`First`), and an element of a list is a table with an executable (`IsTask`).

`interfaceHandleConfig_grammar` says that the handler accepts exactly the entries of
the grammar (`InGrammar`) and decodes them as it should (`Decoded`).
-/

set_option autoImplicit false

namespace IfaceTester

open Decoding

/-! ## Fields -/

/-- The first attribute that a policy entry asks for, with nothing malformed before
it. -/
def First (data : List BlobAttr) (policy : BlobmsgPolicy) (attr : BlobAttr) : Prop :=
  ∃ before after, data = before ++ attr :: after ∧
    (∀ other ∈ before, other.type.isSome = true ∧ policy.selects other = false) ∧
    policy.selects attr = true

section Fields

variable {ι : Type} {policy : ι → BlobmsgPolicy} {data : List BlobAttr} {i : ι} {attr : BlobAttr}

theorem typed_of_selects {policy : BlobmsgPolicy} (selected : policy.selects attr = true) :
    attr.type.isSome = true := by
  simp only [BlobmsgPolicy.selects, Bool.and_eq_true, decide_eq_true_eq] at selected
  rw [selected.1]
  rfl

/-- **The parser gives the first field of the name and type.** -/
theorem blobmsgParse_eq_some_iff :
    (blobmsgParse policy data).2 i = some attr ↔ First data (policy i) attr := by
  simp only [blobmsgParse, List.find?_eq_some_iff_append]
  constructor
  · rintro ⟨selected, before, after, split, skipped⟩
    refine ⟨before, after ++ data.dropWhile fun other => other.type.isSome, ?_, ?_, selected⟩
    · have whole := @List.takeWhile_append_dropWhile _
        (fun attr : BlobAttr => attr.type.isSome) data
      rw [split] at whole
      exact whole.symm.trans (by simp)
    · intro other member
      have read : other ∈ data.takeWhile fun other => other.type.isSome := by
        rw [split]
        exact List.mem_append_left _ member
      have typed := @List.mem_takeWhile_imp _ (fun other : BlobAttr => other.type.isSome) _ _ read
      exact ⟨typed, by simpa using skipped other member⟩
  · rintro ⟨before, after, rfl, skipped, selected⟩
    refine ⟨selected, before, after.takeWhile fun other => other.type.isSome, ?_, ?_⟩
    · rw [List.takeWhile_append_of_pos fun other member => (skipped other member).1,
        @List.takeWhile_cons_of_pos _ (fun other : BlobAttr => other.type.isSome) _ _
          (typed_of_selects selected)]
    · intro other member
      simp [(skipped other member).2]

theorem blobmsgParse_eq_none_iff :
    (blobmsgParse policy data).2 i = none ↔ ∀ attr, ¬ First data (policy i) attr := by
  rw [Option.eq_none_iff_forall_ne_some]
  exact forall_congr' fun attr => not_congr blobmsgParse_eq_some_iff

/-- There is at most one first field. -/
theorem First.unique {policy : BlobmsgPolicy} {other : BlobAttr} (left : First data policy attr)
    (right : First data policy other) : attr = other := by
  have first := (@blobmsgParse_eq_some_iff Unit (fun _ => policy) data () attr).mpr left
  have second := (@blobmsgParse_eq_some_iff Unit (fun _ => policy) data () other).mpr right
  exact Option.some.inj (first.symm.trans second)

theorem First.type {policy : BlobmsgPolicy} (first : First data policy attr) :
    attr.type = some policy.type := by
  obtain ⟨-, -, -, -, selected⟩ := first
  simp only [BlobmsgPolicy.selects, Bool.and_eq_true, decide_eq_true_eq] at selected
  exact selected.1

/-- The status of the parser is zero for a message with only well-formed fields. -/
theorem blobmsgParse_status_iff : (blobmsgParse policy data).1 = 0 ↔
    data ≠ [] ∧ ∀ attr ∈ data, attr.type.isSome = true := by
  have start : data.takeWhile (fun attr => attr.type.isSome) <+: data := List.takeWhile_prefix _
  rw [← List.takeWhile_eq_self_iff]
  unfold blobmsgParse
  dsimp only
  split
  case isTrue empty => simp [List.isEmpty_iff.mp empty]
  case isFalse nonempty =>
    rw [List.isEmpty_iff] at nonempty
    split
    case isTrue cut =>
      refine iff_of_false (by decide) fun ⟨_, whole⟩ => ?_
      rw [whole] at cut
      exact absurd cut (lt_irrefl _)
    case isFalse uncut =>
      refine iff_of_true rfl ⟨nonempty, ?_⟩
      exact start.eq_of_length (le_antisymm start.length_le (not_lt.mp uncut))

end Fields

/-! ## The grammar -/

/-- An element of a task list: a table with an executable. -/
def IsTask (element : BlobAttr) : Prop :=
  element.type = some .table ∧ ∃ executable, First element.data (taskConfigPolicy .executable)
    executable

/-- The five scalars that must not be zero. -/
def nonzeroFields : List InterfaceConfigPolicy :=
  [.responseTimeout, .passingInterval, .failingInterval, .passThreshold, .failThreshold]

/-- The entry is one that can be loaded. All its attributes are fields: the parser
refuses the whole message when it comes to a malformed one. -/
structure InGrammar (withMetricsAdjustment : Bool) (msg : BlobAttr) : Prop where
  wellFormed : ∀ attr ∈ msg.data, attr.type.isSome = true
  present : ∀ i ∈ interfaceConfigFields withMetricsAdjustment,
    ∃ attr, First msg.data (interfaceConfigPolicy i) attr
  condition : ∀ attr, First msg.data (interfaceConfigPolicy .successCondition) attr →
    attr.getString = "one_test_must_pass" ∨ attr.getString = "all_tests_must_pass"
  nonzero : ∀ i ∈ nonzeroFields, ∀ attr, First msg.data (interfaceConfigPolicy i) attr →
    attr.getU32 ≠ 0
  tests : ∀ attr, First msg.data (interfaceConfigPolicy .tests) attr →
    attr.data ≠ [] ∧ ∀ element ∈ attr.data, IsTask element
  recoverys : ∀ attr, First msg.data (interfaceConfigPolicy .recovery) attr →
    ∀ element ∈ attr.data, IsTask element

/-- The task that stands for an element. A missing label is empty, a missing timeout
is zero, and missing parameters are an empty table. -/
structure DecodedTask (index : ℕ) (element : BlobAttr) (task : TaskConfig) : Prop where
  index : task.index = index
  executable : ∀ attr, First element.data (taskConfigPolicy .executable) attr →
    task.executableName = attr.getString
  label : ∀ attr, First element.data (taskConfigPolicy .label) attr → task.label = attr.getString
  noLabel : (∀ attr, ¬ First element.data (taskConfigPolicy .label) attr) → task.label = ""
  timeout : ∀ attr, First element.data (taskConfigPolicy .responseTimeout) attr →
    task.responseTimeoutSecs = attr.getU32
  noTimeout : (∀ attr, ¬ First element.data (taskConfigPolicy .responseTimeout) attr) →
    task.responseTimeoutSecs = 0
  params : ∀ attr, First element.data (taskConfigPolicy .params) attr → task.params = attr
  noParams : (∀ attr, ¬ First element.data (taskConfigPolicy .params) attr) →
    task.params = .table sParams []

/-- The tasks that stand for the elements of a list, in their order. -/
def DecodedTasks (elements : List BlobAttr) (tasks : List TaskConfig) : Prop :=
  tasks.length = elements.length ∧ ∀ k element task, elements[k]? = some element →
    tasks[k]? = some task → DecodedTask k element task

/-- The configuration that stands for an entry. -/
structure Decoded (withMetricsAdjustment : Bool) (msg : BlobAttr) (config : InterfaceConfig) :
    Prop where
  condition : ∀ attr, First msg.data (interfaceConfigPolicy .successCondition) attr →
    ∃ definition ∈ conditionDefinitions, config.successCondition = some definition ∧
      definition.name = attr.getString
  settlingDelay : ∀ attr, First msg.data (interfaceConfigPolicy .settlingDelay) attr →
    config.settlingDelaySecs = attr.getU32
  passingInterval : ∀ attr, First msg.data (interfaceConfigPolicy .passingInterval) attr →
    config.testPassingIntervalSecs = attr.getU32
  failingInterval : ∀ attr, First msg.data (interfaceConfigPolicy .failingInterval) attr →
    config.testFailingIntervalSecs = attr.getU32
  passThreshold : ∀ attr, First msg.data (interfaceConfigPolicy .passThreshold) attr →
    config.passThreshold = attr.getU32
  failThreshold : ∀ attr, First msg.data (interfaceConfigPolicy .failThreshold) attr →
    config.failThreshold = attr.getU32
  responseTimeout : ∀ attr, First msg.data (interfaceConfigPolicy .responseTimeout) attr →
    config.responseTimeoutSecs = attr.getU32
  metrics : withMetricsAdjustment = true →
    ∀ attr, First msg.data (interfaceConfigPolicy .failingTestsMetricsIncrease) attr →
      config.failingTestsMetricsIncrease = attr.getU32
  noMetrics : withMetricsAdjustment = false → config.failingTestsMetricsIncrease = 0
  tests : ∀ attr, First msg.data (interfaceConfigPolicy .tests) attr →
    DecodedTasks attr.data config.tests
  recoverys : ∀ attr, First msg.data (interfaceConfigPolicy .recovery) attr →
    DecodedTasks attr.data config.recoverys

/-! ## One task -/

section Tasks

variable {index : ℕ} {element : BlobAttr} {task : TaskConfig}

/-- **A task is decoded when it has an executable**, and then as it should be. -/
theorem addTaskConfiguration_spec :
    ((addTaskConfiguration taskConfigPolicy index element).isSome = true ↔
      ∃ executable, First element.data (taskConfigPolicy .executable) executable) ∧
    (addTaskConfiguration taskConfigPolicy index element = some task →
      DecodedTask index element task) := by
  unfold addTaskConfiguration
  dsimp only
  cases found : (blobmsgParse taskConfigPolicy element.data).2 .executable with
  | none =>
      refine ⟨iff_of_false Bool.false_ne_true ?_, fun added => by cases added⟩
      rintro ⟨executable, first⟩
      exact blobmsgParse_eq_none_iff.mp found executable first
  | some executable =>
      refine ⟨iff_of_true rfl ⟨executable, blobmsgParse_eq_some_iff.mp found⟩, ?_⟩
      rintro ⟨⟩
      have reads : ∀ {i attr}, First element.data (taskConfigPolicy i) attr →
          (blobmsgParse taskConfigPolicy element.data).2 i = some attr :=
        fun first => blobmsgParse_eq_some_iff.mpr first
      have lacks : ∀ {i}, (∀ attr, ¬ First element.data (taskConfigPolicy i) attr) →
          (blobmsgParse taskConfigPolicy element.data).2 i = none :=
        fun absent => blobmsgParse_eq_none_iff.mpr absent
      exact
        { index := rfl
          executable := fun attr first => by
            rw [Option.some.inj (found.symm.trans (reads first))]
          label := fun attr first => by simp [reads first]
          noLabel := fun absent => by simp [lacks absent]
          timeout := fun attr first => by simp [reads first]
          noTimeout := fun absent => by simp [lacks absent]
          params := fun attr first => by simp [reads first]
          noParams := fun absent => by simp [lacks absent] }

end Tasks

/-! ## The lists of tasks -/

section Lists

variable {refuses : Int → Bool} {attr : BlobAttr} {tasks : List TaskConfig}

theorem blobmsgCheckArray_of_array (array : attr.type = some .array) :
    blobmsgCheckArray attr .table =
      if attr.data.all fun element => decide (element.type = some .table) then
        (attr.data.length : Int) else -1 := by
  cases attr with
  | array name elements => rfl
  | _ => cases array

/-- **A list is accepted when its count is, and every element is a task.** -/
theorem isSome_addTaskConfigurations (array : attr.type = some .array)
    (negative : refuses (-1) = true) :
    (addTaskConfigurations refuses (addTaskConfiguration taskConfigPolicy) attr).isSome = true ↔
      refuses attr.data.length = false ∧ ∀ element ∈ attr.data, IsTask element := by
  unfold addTaskConfigurations
  rw [if_neg (not_not_intro array), blobmsgCheckArray_of_array array]
  have decoded : (decodeFrom (addTaskConfiguration taskConfigPolicy) 0 attr.data).isSome = true ↔
      ∀ element ∈ attr.data,
        ∃ executable, First element.data (taskConfigPolicy .executable) executable := by
    rw [isSome_decodeFrom_iff]
    constructor
    · intro each element member
      obtain ⟨k, here⟩ := List.mem_iff_getElem?.mp member
      exact (@addTaskConfiguration_spec (0 + k) element default).1.mp (each k element here)
    · intro every k element here
      exact (@addTaskConfiguration_spec (0 + k) element default).1.mpr
        (every element (List.mem_of_getElem? here))
  cases tables : attr.data.all fun element => decide (element.type = some .table) with
  | false =>
      rw [if_neg Bool.false_ne_true, if_pos negative]
      refine iff_of_false Bool.false_ne_true fun ⟨_, every⟩ => ?_
      obtain ⟨element, member, other⟩ := List.all_eq_false.mp tables
      exact other (decide_eq_true (every element member).1)
  | true =>
      have every : ∀ element ∈ attr.data, element.type = some .table := fun element member =>
        of_decide_eq_true (List.all_eq_true.mp tables element member)
      rw [if_pos rfl]
      cases counted : refuses attr.data.length with
      | true =>
          rw [if_pos rfl]
          exact iff_of_false Bool.false_ne_true fun ⟨accepted, _⟩ => by cases accepted
      | false =>
          rw [if_neg Bool.false_ne_true, decoded, and_iff_right rfl]
          exact forall₂_congr fun element member => (and_iff_right (every element member)).symm

theorem decodedTasks_of_added
    (added : addTaskConfigurations refuses (addTaskConfiguration taskConfigPolicy) attr =
      some tasks) : DecodedTasks attr.data tasks := by
  unfold addTaskConfigurations at added
  split at added
  · cases added
  · split at added
    · cases added
    · obtain ⟨length, each⟩ := decodeFrom_eq_some_iff.mp added
      refine ⟨length.symm, fun k element task left right => ?_⟩
      have task := each k element task left right
      rw [Nat.zero_add] at task
      exact addTaskConfiguration_spec.2 task

/-- There has to be a test. -/
theorem isSome_addTestConfigurations (array : attr.type = some .array) :
    (addTestConfigurations attr).isSome = true ↔
      attr.data ≠ [] ∧ ∀ element ∈ attr.data, IsTask element := by
  refine (isSome_addTaskConfigurations array rfl).trans (and_congr_left fun _ => ?_)
  rw [decide_eq_false_iff_not, ← List.length_pos_iff]
  omega

/-- There need not be a recovery task. -/
theorem isSome_addRecoveryConfigurations (array : attr.type = some .array) :
    (addRecoveryConfigurations attr).isSome = true ↔ ∀ element ∈ attr.data, IsTask element := by
  refine (isSome_addTaskConfigurations array rfl).trans (and_iff_right ?_)
  rw [decide_eq_false_iff_not]
  omega

end Lists

/-! ## The entry -/

section Entry

variable {ctx : InterfaceTesterShared} {msg : BlobAttr} {iface : Interface}

/-- What the handler needs to hand an interface over, and which one it is. -/
theorem interfaceHandleConfig_eq_some_iff :
    (interfaceHandleConfig ctx msg).added = some iface ↔
      ∃ field tests recoverys,
        (blobmsgParse interfaceConfigPolicy msg.data).1 = ubusStatusOk ∧
        (∀ i ∈ interfaceConfigFields ctx.withMetricsAdjustment,
          (blobmsgParse interfaceConfigPolicy msg.data).2 i = some (field i)) ∧
        addTestConfigurations (field .tests) = some tests ∧
        addRecoveryConfigurations (field .recovery) = some recoverys ∧
        interfaceConfigValidate { interfaceConfigScalars ctx.withMetricsAdjustment field with
          tests, recoverys } = true ∧
        iface = { interfaceTesterAlloc ctx msg.name with
          config := { interfaceConfigScalars ctx.withMetricsAdjustment field with
            tests, recoverys } } := by
  constructor
  · intro handled
    unfold interfaceHandleConfig at handled
    dsimp only at handled
    split at handled
    · cases handled
    case isFalse status =>
      split at handled
      · cases handled
      case isFalse present =>
        split at handled
        · cases handled
        case h_2 tests testsAdded =>
          split at handled
          · cases handled
          case h_2 recoverys recoverysAdded =>
            split at handled
            case isTrue valid =>
              refine ⟨fun i => ((blobmsgParse interfaceConfigPolicy msg.data).2 i).getD .invalid,
                tests, recoverys, not_not.mp status, fun i listed => ?_, testsAdded, recoverysAdded,
                valid, (Option.some.inj handled).symm⟩
              have found : ((blobmsgParse interfaceConfigPolicy msg.data).2 i).isNone = false := by
                have all := List.any_eq_false.mp (Bool.eq_false_iff.mpr present) i listed
                exact Bool.eq_false_iff.mpr all
              obtain ⟨attr, first⟩ := Option.isSome_iff_exists.mp
                (Option.isNone_eq_false_iff.mp found)
              dsimp only
              rw [first]
              rfl
            case isFalse => cases handled
  · rintro ⟨field, tests, recoverys, status, found, testsAdded, recoverysAdded, valid, rfl⟩
    exact interfaceHandleConfig_of_fields status found testsAdded recoverysAdded valid

/-- The names in the table of success conditions. -/
theorem successConditionFromName_isSome_iff (name : String) :
    (successConditionFromName name).isSome = true ↔
      name = "one_test_must_pass" ∨ name = "all_tests_must_pass" := by
  simp [successConditionFromName, conditionDefinitions]

/-- What `interface_config_validate` looks at. -/
theorem interfaceConfigValidate_iff (withMetricsAdjustment : Bool)
    (field : InterfaceConfigPolicy → BlobAttr) (tests : List TestConfig)
    (recoverys : List RecoveryConfig) :
    interfaceConfigValidate { interfaceConfigScalars withMetricsAdjustment field with
        tests, recoverys } = true ↔
      (successConditionFromName (field .successCondition).getString).isSome = true ∧
        ∀ i ∈ nonzeroFields, (field i).getU32 ≠ 0 := by
  have positive : ∀ value : UInt32, value > 0 ↔ value ≠ 0 := fun value => UInt32.pos_iff_ne_zero
  simp [interfaceConfigValidate, interfaceConfigScalars, nonzeroFields, positive, and_assoc]

/-- The fields that every build asks for. -/
theorem mem_interfaceConfigFields {withMetricsAdjustment : Bool} {i : InterfaceConfigPolicy}
    (scalar : i ≠ .failingTestsMetricsIncrease) :
    i ∈ interfaceConfigFields withMetricsAdjustment := by
  cases i <;> simp [interfaceConfigFields] at scalar ⊢

theorem inGrammar_of_added (handled : (interfaceHandleConfig ctx msg).added = some iface) :
    InGrammar ctx.withMetricsAdjustment msg := by
  obtain ⟨field, tests, recoverys, status, found, testsAdded, recoverysAdded, valid, -⟩ :=
    interfaceHandleConfig_eq_some_iff.mp handled
  have first : ∀ i ∈ interfaceConfigFields ctx.withMetricsAdjustment,
      First msg.data (interfaceConfigPolicy i) (field i) :=
    fun i listed => blobmsgParse_eq_some_iff.mp (found i listed)
  have only : ∀ {i attr}, i ≠ .failingTestsMetricsIncrease →
      First msg.data (interfaceConfigPolicy i) attr → attr = field i :=
    fun scalar here => here.unique (first _ (mem_interfaceConfigFields scalar))
  obtain ⟨known, nonzero⟩ := (interfaceConfigValidate_iff _ field tests recoverys).mp valid
  have testsType := (first .tests (mem_interfaceConfigFields (by simp))).type
  have recoveryType := (first .recovery (mem_interfaceConfigFields (by simp))).type
  exact
    { wellFormed := (blobmsgParse_status_iff.mp status).2
      present := fun i listed => ⟨field i, first i listed⟩
      condition := fun attr here => by
        rw [only (by simp) here, ← successConditionFromName_isSome_iff]
        exact known
      nonzero := fun i listed attr here => by
        have scalar : i ≠ .failingTestsMetricsIncrease := by
          rintro rfl
          simp [nonzeroFields] at listed
        rw [only scalar here]
        exact nonzero i listed
      tests := fun attr here => by
        rw [only (by simp) here]
        exact (isSome_addTestConfigurations testsType).mp (by rw [testsAdded]; rfl)
      recoverys := fun attr here => by
        rw [only (by simp) here]
        exact (isSome_addRecoveryConfigurations recoveryType).mp (by rw [recoverysAdded]; rfl) }

theorem added_of_inGrammar (grammar : InGrammar ctx.withMetricsAdjustment msg) :
    (interfaceHandleConfig ctx msg).added.isSome = true := by
  have found : ∀ i ∈ interfaceConfigFields ctx.withMetricsAdjustment,
      (blobmsgParse interfaceConfigPolicy msg.data).2 i =
        some (((blobmsgParse interfaceConfigPolicy msg.data).2 i).getD .invalid) := by
    intro i listed
    obtain ⟨attr, here⟩ := grammar.present i listed
    rw [blobmsgParse_eq_some_iff.mpr here]
    rfl
  generalize chosen : (fun i => ((blobmsgParse interfaceConfigPolicy msg.data).2 i).getD
    BlobAttr.invalid) = field at found
  have found : ∀ i ∈ interfaceConfigFields ctx.withMetricsAdjustment,
      (blobmsgParse interfaceConfigPolicy msg.data).2 i = some (field i) := chosen ▸ found
  have first : ∀ {i}, i ≠ .failingTestsMetricsIncrease →
      First msg.data (interfaceConfigPolicy i) (field i) :=
    fun scalar => blobmsgParse_eq_some_iff.mp (found _ (mem_interfaceConfigFields scalar))
  have testsField := first (i := .tests) (by simp)
  have recoveryField := first (i := .recovery) (by simp)
  have nonempty : msg.data ≠ [] := by
    rintro empty
    obtain ⟨before, after, split, -, -⟩ := testsField
    rw [empty] at split
    exact absurd split.symm (by simp)
  obtain ⟨tests, testsAdded⟩ := Option.isSome_iff_exists.mp
    ((isSome_addTestConfigurations testsField.type).mpr (grammar.tests _ testsField))
  obtain ⟨recoverys, recoverysAdded⟩ := Option.isSome_iff_exists.mp
    ((isSome_addRecoveryConfigurations recoveryField.type).mpr (grammar.recoverys _ recoveryField))
  have valid := (interfaceConfigValidate_iff ctx.withMetricsAdjustment field tests recoverys).mpr
    ⟨(successConditionFromName_isSome_iff _).mpr (grammar.condition _ (first (by simp))),
      fun i listed => grammar.nonzero i listed _
        (first (by rintro rfl; simp [nonzeroFields] at listed))⟩
  rw [interfaceHandleConfig_of_fields (blobmsgParse_status_iff.mpr ⟨nonempty, grammar.wellFormed⟩)
    found testsAdded recoverysAdded valid]
  rfl

theorem decoded_of_added (handled : (interfaceHandleConfig ctx msg).added = some iface) :
    Decoded ctx.withMetricsAdjustment msg iface.config := by
  obtain ⟨field, tests, recoverys, -, found, testsAdded, recoverysAdded, valid, rfl⟩ :=
    interfaceHandleConfig_eq_some_iff.mp handled
  have only : ∀ {i attr}, i ∈ interfaceConfigFields ctx.withMetricsAdjustment →
      First msg.data (interfaceConfigPolicy i) attr → attr = field i :=
    fun listed here => here.unique (blobmsgParse_eq_some_iff.mp (found _ listed))
  have listed : ∀ {i}, i ≠ .failingTestsMetricsIncrease →
      i ∈ interfaceConfigFields ctx.withMetricsAdjustment := mem_interfaceConfigFields
  obtain ⟨known, -⟩ := (interfaceConfigValidate_iff _ field tests recoverys).mp valid
  exact
    { condition := fun attr here => by
        rw [only (listed (by simp)) here]
        obtain ⟨definition, named⟩ := Option.isSome_iff_exists.mp known
        have same := List.find?_some named
        exact ⟨definition, mem_of_successConditionFromName named, named,
          (of_decide_eq_true same).symm⟩
      settlingDelay := fun attr here => by rw [only (listed (by simp)) here]; rfl
      passingInterval := fun attr here => by rw [only (listed (by simp)) here]; rfl
      failingInterval := fun attr here => by rw [only (listed (by simp)) here]; rfl
      passThreshold := fun attr here => by rw [only (listed (by simp)) here]; rfl
      failThreshold := fun attr here => by rw [only (listed (by simp)) here]; rfl
      responseTimeout := fun attr here => by rw [only (listed (by simp)) here]; rfl
      metrics := fun on attr here => by
        rw [only (by simp [interfaceConfigFields, on]) here]
        simp [interfaceConfigScalars, on]
      noMetrics := fun off => by simp [interfaceConfigScalars, off]
      tests := fun attr here => by
        rw [only (listed (by simp)) here]
        exact decodedTasks_of_added testsAdded
      recoverys := fun attr here => by
        rw [only (listed (by simp)) here]
        exact decodedTasks_of_added recoverysAdded }

/-- **An entry is accepted exactly when it is in the grammar**, and the interface is
then the one that was allocated for its name, with the configuration that the entry
stands for. -/
theorem interfaceHandleConfig_grammar (ctx : InterfaceTesterShared) (msg : BlobAttr) :
    ((interfaceHandleConfig ctx msg).added.isSome = true ↔
      InGrammar ctx.withMetricsAdjustment msg) ∧
    ∀ iface, (interfaceHandleConfig ctx msg).added = some iface →
      Decoded ctx.withMetricsAdjustment msg iface.config ∧
        iface = { interfaceTesterAlloc ctx msg.name with config := iface.config } := by
  refine ⟨⟨fun accepted => ?_, added_of_inGrammar⟩, fun iface handled =>
    ⟨decoded_of_added handled, (loadable_of_interfaceHandleConfig handled).2⟩⟩
  obtain ⟨iface, handled⟩ := Option.isSome_iff_exists.mp accepted
  exact inGrammar_of_added handled

end Entry

end IfaceTester
