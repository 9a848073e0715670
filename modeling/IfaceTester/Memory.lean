import IfaceTester.DaemonMoves
import IfaceTester.Foundations.Heap

/-!
# The memory of the interfaces

What `config.c`, `tester_common.c` and `ubus.c` allocate for an interface: the interface
itself, the path of its object, and for each list of tasks an array with three blocks for
each task. A function of the source that allocates or frees some of it is here once more
with this memory only, in the same order of calls.

What a function allocates for itself only, and frees before it returns, is followed where
it happens on the way to a configuration.

`calloc`, `calloc_a`, `strdup` and `blob_memdup` are taken to succeed, as the source does,
which looks at none of their results. Only `asprintf` may fail.
-/

set_option autoImplicit false

namespace IfaceTester

/-- The memory of `test_config_st` and `recovery_config_st`. -/
structure TaskBlocks where
  executableName : ℕ
  label : ℕ
  params : ℕ

/-- `tests` with `num_tests`, or `recoverys` with `num_recoverys`. -/
structure TaskArray where
  array : Option ℕ
  tasks : List TaskBlocks

/-- The memory of `interface_config_st`. -/
structure ConfigBlocks where
  tests : TaskArray
  recoverys : TaskArray

/-- The memory of `interface_st`, with the name of its object. -/
structure InterfaceBlocks where
  iface : ℕ
  objectName : Pointer
  config : ConfigBlocks

/-- The fields after `calloc` or `memset`. -/
def TaskArray.zeroed : TaskArray := ⟨none, []⟩

/-- The fields after `calloc` or `memset`. -/
def ConfigBlocks.zeroed : ConfigBlocks := ⟨.zeroed, .zeroed⟩

section Owned

/-- The blocks of a task. -/
def TaskBlocks.owned (task : TaskBlocks) : Multiset ℕ :=
  {task.executableName} + {task.label} + {task.params}

/-- The array, and the blocks of its tasks. -/
def TaskArray.owned (tasks : TaskArray) : Multiset ℕ :=
  (Pointer.ofBlock tasks.array).owned + (tasks.tasks.map TaskBlocks.owned).sum

/-- The blocks of both lists. -/
def ConfigBlocks.owned (config : ConfigBlocks) : Multiset ℕ :=
  config.tests.owned + config.recoverys.owned

/-- All the blocks of an interface. -/
def InterfaceBlocks.owned (blocks : InterfaceBlocks) : Multiset ℕ :=
  {blocks.iface} + blocks.objectName.owned + blocks.config.owned

/-- The blocks of an interface, if there is one. -/
def ownedBy (added : Option InterfaceBlocks) : Multiset ℕ := added.elim 0 InterfaceBlocks.owned

theorem TaskArray.owned_zeroed : TaskArray.zeroed.owned = 0 := rfl

theorem ConfigBlocks.owned_zeroed : ConfigBlocks.zeroed.owned = 0 := rfl

end Owned

namespace Memory

/-! ## Freeing -/

/-- `interface_tester_test_config_free` and `interface_tester_recovery_config_free`. -/
def taskConfigFree (task : TaskBlocks) : Allocating Unit := do
  free (.block task.executableName)
  free (.block task.label)
  free (.block task.params)

/-- `interface_tester_test_configs_free` and `interface_tester_recovery_configs_free`. -/
def taskConfigsFree (tasks : TaskArray) : Allocating Unit := do
  tasks.tasks.forM taskConfigFree
  free (.ofBlock tasks.array)

/-- `interface_tester_config_free`. -/
def interfaceTesterConfigFree (config : ConfigBlocks) : Allocating Unit := do
  taskConfigsFree config.tests
  taskConfigsFree config.recoverys

/-- `ubus_remove_interface_object`. The pointer is left at null, whatever it was. -/
def ubusRemoveInterfaceObject (iface : InterfaceBlocks) : Allocating InterfaceBlocks := do
  free iface.objectName
  return { iface with objectName := .null }

/-- `interface_tester_free`. -/
def interfaceTesterFree (iface : InterfaceBlocks) : Allocating Unit := do
  let iface ← ubusRemoveInterfaceObject iface
  interfaceTesterConfigFree iface.config
  free (.block iface.iface)

/-! ## Decoding a configuration -/

/-- What the decoder of one task allocates when it succeeds. Without parameters it builds an
empty table in a buffer. -/
def addTaskConfiguration (policy : TaskConfigPolicy → BlobmsgPolicy) (task : BlobAttr) :
    Allocating TaskBlocks := do
  let executableName ← malloc
  let label ← malloc
  match (blobmsgParse policy task.data).2 .params with
  | some _ =>
      let params ← malloc
      return ⟨executableName, label, params⟩
  | none =>
      let buffer ← malloc
      let params ← malloc
      free (.block buffer)
      return ⟨executableName, label, params⟩

/-- The loop of the decoder of a list. A task is decoded in its place of the array, and the
first one that is refused ends the loop. -/
def addTasks (policy : TaskConfigPolicy → BlobmsgPolicy) (size : ℕ) :
    ℕ → List BlobAttr → Allocating (List TaskBlocks)
  | _, [] => pure []
  | numTasks, cur :: rest => do
      access size numTasks
      match IfaceTester.addTaskConfiguration policy numTasks cur with
      | none => pure []
      | some _ =>
          let task ← addTaskConfiguration policy cur
          let tasks ← addTasks policy size (numTasks + 1) rest
          return task :: tasks

/-- The decoder of a list of tasks. The array has a place for every table that was counted. -/
def addTaskConfigurations (refuses : Int → Bool) (policy : TaskConfigPolicy → BlobmsgPolicy)
    (tasks : BlobAttr) : Allocating TaskArray :=
  if tasks.type ≠ some .array then pure .zeroed
  else
    let numTasks := blobmsgCheckArray tasks .table
    if refuses numTasks then pure .zeroed
    else do
      let array ← malloc
      let tasks ← addTasks policy numTasks.toNat 0 tasks.data
      return ⟨some array, tasks⟩

/-- `add_test_configurations`. -/
def addTestConfigurations : BlobAttr → Allocating TaskArray :=
  addTaskConfigurations (fun numTests => decide (numTests ≤ 0)) interfaceTestConfigPolicy

/-- `add_recovery_configurations`. -/
def addRecoveryConfigurations : BlobAttr → Allocating TaskArray :=
  addTaskConfigurations (fun numRecoverys => decide (numRecoverys < 0))
    interfaceRecoveryConfigPolicy

/-- An entry is refused after the interface was allocated. -/
def refuse (iface : ℕ) (tests recoverys : TaskArray) : Allocating (Option InterfaceBlocks) := do
  interfaceTesterFree ⟨iface, .null, ⟨tests, recoverys⟩⟩
  return none

/-- `interface_handle_config`, up to `vlist_add`. -/
def interfaceHandleConfig (ctx : InterfaceTesterShared) (msg : BlobAttr) :
    Allocating (Option InterfaceBlocks) :=
  let parsed := blobmsgParse interfaceConfigPolicy msg.data
  let tb := parsed.2
  if parsed.1 ≠ ubusStatusOk then pure none
  else if (interfaceConfigFields ctx.withMetricsAdjustment).any fun i => (tb i).isNone then
    pure none
  else do
    let field := fun i => (tb i).getD .invalid
    let iface ← malloc
    let tests ← addTestConfigurations (field .tests)
    match IfaceTester.addTestConfigurations (field .tests) with
    | none => refuse iface tests .zeroed
    | some decodedTests =>
        let recoverys ← addRecoveryConfigurations (field .recovery)
        match IfaceTester.addRecoveryConfigurations (field .recovery) with
        | none => refuse iface tests recoverys
        | some decodedRecoverys =>
            if interfaceConfigValidate
                { interfaceConfigScalars ctx.withMetricsAdjustment field with
                  tests := decodedTests, recoverys := decodedRecoverys } then
              return some ⟨iface, .null, ⟨tests, recoverys⟩⟩
            else refuse iface tests recoverys

/-! ## Tracking an interface -/

/-- `ubus_add_interface_object`. The template has a constant for a name. -/
def ubusAddInterfaceObject (iface : InterfaceBlocks) (answer : PublishAnswer) :
    Allocating InterfaceBlocks :=
  let iface := { iface with objectName := .constant }
  if answer.asprintf then do
    let name ← malloc
    let iface := { iface with objectName := .block name }
    if answer.status ≠ ubusStatusOk then do
      free iface.objectName
      return { iface with objectName := .null }
    else return iface
  else return iface

/-- `config_update`, when the configurations differ or not. -/
def configUpdate (existing new : InterfaceBlocks) (changed : Bool) :
    Allocating (InterfaceBlocks × InterfaceBlocks) :=
  if changed then do
    interfaceTesterConfigFree existing.config
    return ({ existing with config := new.config }, { new with config := .zeroed })
  else return (existing, new)

/-- What `interface_update_cb` does with an interface that is tracked already. -/
def updateInterface (existing new : InterfaceBlocks) (changed : Bool) :
    Allocating InterfaceBlocks := do
  let both ← configUpdate existing new changed
  interfaceTesterFree both.2
  return both.1

end Memory

/-! ## What each part does -/

namespace Memory

section Freeing

theorem exchanges_taskConfigFree (task : TaskBlocks) :
    Exchanges (taskConfigFree task) task.owned (fun _ => 0) 0 := by
  have all := (exchanges_free (.block task.executableName)).giveUp fun _ =>
    (exchanges_free (.block task.label)).giveUp fun _ => exchanges_free (.block task.params)
  exact all.recount (add_assoc _ _ _).symm (fun _ => rfl) rfl

theorem exchanges_taskConfigsFree (tasks : TaskArray) :
    Exchanges (taskConfigsFree tasks) tasks.owned (fun _ => 0) 0 := by
  have all := (exchanges_forM exchanges_taskConfigFree tasks.tasks).giveUp fun _ =>
    exchanges_free (.ofBlock tasks.array)
  refine all.recount (add_comm _ _) (fun _ => rfl) ?_
  rw [Pointer.misuses_ofBlock]

theorem exchanges_interfaceTesterConfigFree (config : ConfigBlocks) :
    Exchanges (interfaceTesterConfigFree config) config.owned (fun _ => 0) 0 :=
  (exchanges_taskConfigsFree config.tests).giveUp fun _ =>
    exchanges_taskConfigsFree config.recoverys

/-- **All the memory of an interface is freed.** It is a misuse when the name of its object
is a constant. -/
theorem exchanges_interfaceTesterFree (iface : InterfaceBlocks) :
    Exchanges (interfaceTesterFree iface) iface.owned (fun _ => 0) iface.objectName.misuses := by
  have itself := (exchanges_interfaceTesterConfigFree iface.config).giveUp fun _ =>
    exchanges_free (.block iface.iface)
  have all := (exchanges_free iface.objectName).giveUp fun _ => itself
  refine all.recount ?_ (fun _ => rfl) rfl
  rw [InterfaceBlocks.owned, add_comm iface.config.owned, add_left_comm, add_assoc]
  rfl

end Freeing

section Decoding

variable {policy : TaskConfigPolicy → BlobmsgPolicy}

theorem exchanges_addTaskConfiguration (policy : TaskConfigPolicy → BlobmsgPolicy)
    (task : BlobAttr) : Exchanges (addTaskConfiguration policy task) 0 TaskBlocks.owned 0 := by
  unfold addTaskConfiguration
  refine exchanges_malloc.bind fun executableName => exchanges_malloc.gain fun label => ?_
  cases (blobmsgParse policy task.data).2 .params with
  | some params =>
      refine exchanges_malloc.gain fun params => ?_
      exact (exchanges_pure _ TaskBlocks.owned).recount
        (by simp only [TaskBlocks.owned]; abel) (fun _ => rfl) rfl
  | none =>
      refine exchanges_malloc.gain fun buffer => exchanges_malloc.gain fun params => ?_
      have freed := (exchanges_free (.block buffer)).giveUp fun _ =>
        exchanges_pure (⟨executableName, label, params⟩ : TaskBlocks) TaskBlocks.owned
      exact freed.recount (by simp only [TaskBlocks.owned, Pointer.owned]; abel) (fun _ => rfl) rfl

/-- **The tasks of a list get their blocks**, as long as the array has a place for each. -/
theorem exchanges_addTasks (policy : TaskConfigPolicy → BlobmsgPolicy) {size numTasks : ℕ}
    {attrs : List BlobAttr} (fit : numTasks + attrs.length ≤ size) :
    Exchanges (addTasks policy size numTasks attrs) 0
      (fun tasks => (tasks.map TaskBlocks.owned).sum) 0 := by
  induction attrs generalizing numTasks with
  | nil => exact exchanges_pure [] _
  | cons cur rest ih =>
      rw [List.length_cons] at fit
      unfold addTasks
      have inside : numTasks < size := by omega
      refine (exchanges_access inside).bind fun _ => ?_
      cases IfaceTester.addTaskConfiguration policy numTasks cur with
      | none => exact exchanges_pure [] _
      | some decoded =>
          refine (exchanges_addTaskConfiguration policy cur).bind fun task => ?_
          have others : numTasks + 1 + rest.length ≤ size := by omega
          refine (ih others).gain fun tasks => ?_
          refine (exchanges_pure (task :: tasks) _).recount ?_ (fun _ => rfl) rfl
          rw [List.map_cons, List.sum_cons, add_comm]

/-- When the list is decoded, each task has its blocks. -/
theorem returns_addTasks (policy : TaskConfigPolicy → BlobmsgPolicy) (size numTasks : ℕ)
    (attrs : List BlobAttr) : Returns (addTasks policy size numTasks attrs) fun tasks =>
      ∀ decoded, Decoding.decodeFrom (IfaceTester.addTaskConfiguration policy) numTasks attrs =
        some decoded → tasks.length = decoded.length := by
  induction attrs generalizing numTasks with
  | nil =>
      refine returns_pure fun decoded same => ?_
      cases same
      rfl
  | cons cur rest ih =>
      unfold addTasks
      refine (returns_true _).bind fun _ _ => ?_
      cases first : IfaceTester.addTaskConfiguration policy numTasks cur with
      | none =>
          refine returns_pure fun decoded same => ?_
          rw [Decoding.decodeFrom, first] at same
          cases same
      | some task =>
          refine (returns_true _).bind fun _ _ => (ih (numTasks + 1)).bind fun tasks same => ?_
          refine returns_pure fun decoded all => ?_
          obtain ⟨task', others, -, later, rfl⟩ := Decoding.decodeFrom_cons_eq_some.mp all
          rw [List.length_cons, List.length_cons, same others later]

/-- The array has a place for each element. -/
theorem length_le_blobmsgCheckArray {attr : BlobAttr} {type : BlobmsgType}
    (counted : 0 ≤ blobmsgCheckArray attr type) :
    attr.data.length ≤ (blobmsgCheckArray attr type).toNat := by
  unfold blobmsgCheckArray at counted ⊢
  split at counted
  · split at counted
    case isTrue all => simp [all, BlobAttr.data]
    case isFalse => exact absurd counted (by decide)
  · split at counted
    case isTrue all => simp [all, BlobAttr.data]
    case isFalse => exact absurd counted (by decide)
  · exact absurd counted (by decide)

theorem exchanges_addTaskConfigurations {refuses : Int → Bool} (attr : BlobAttr)
    (counts : ∀ numTasks, refuses numTasks = false → 0 ≤ numTasks) :
    Exchanges (addTaskConfigurations refuses policy attr) 0 TaskArray.owned 0 := by
  unfold addTaskConfigurations
  split
  · exact exchanges_pure TaskArray.zeroed TaskArray.owned
  · dsimp only
    split
    · exact exchanges_pure TaskArray.zeroed TaskArray.owned
    case isFalse counted =>
      have room := @length_le_blobmsgCheckArray attr .table (counts _ (Bool.eq_false_of_not_eq_true
        counted))
      refine exchanges_malloc.bind fun array => ?_
      refine (exchanges_addTasks policy (by rw [Nat.zero_add]; exact room)).gain fun tasks => ?_
      refine (exchanges_pure (⟨some array, tasks⟩ : TaskArray) _).recount ?_ (fun _ => rfl) rfl
      exact add_comm _ _

theorem returns_addTaskConfigurations {refuses : Int → Bool} (attr : BlobAttr) :
    Returns (addTaskConfigurations refuses policy attr) fun tasks =>
      ∀ decoded, IfaceTester.addTaskConfigurations refuses
        (IfaceTester.addTaskConfiguration policy) attr = some decoded →
          tasks.tasks.length = decoded.length := by
  unfold addTaskConfigurations IfaceTester.addTaskConfigurations
  split
  · exact returns_pure fun _ absent => by cases absent
  · dsimp only
    split
    · exact returns_pure fun _ absent => by cases absent
    · exact (returns_true _).bind fun _ _ => (returns_addTasks policy _ 0 attr.data).bind
        fun _ same => returns_pure same

theorem exchanges_addTestConfigurations (attr : BlobAttr) :
    Exchanges (addTestConfigurations attr) 0 TaskArray.owned 0 :=
  exchanges_addTaskConfigurations attr fun numTests enough => by
    have more := of_decide_eq_false enough
    omega

theorem exchanges_addRecoveryConfigurations (attr : BlobAttr) :
    Exchanges (addRecoveryConfigurations attr) 0 TaskArray.owned 0 :=
  exchanges_addTaskConfigurations attr fun numRecoverys enough => by
    have more := of_decide_eq_false enough
    omega

/-- Each task of the configuration has its blocks. -/
structure Holds (blocks : InterfaceBlocks)
    (config : InterfaceConfig) : Prop where
  tests : blocks.config.tests.tasks.length = config.tests.length
  recoverys : blocks.config.recoverys.tasks.length = config.recoverys.length

theorem exchanges_refuse (iface : ℕ) (tests recoverys : TaskArray) :
    Exchanges (refuse iface tests recoverys) ({iface} + tests.owned + recoverys.owned)
      ownedBy 0 := by
  have freed : Exchanges (interfaceTesterFree ⟨iface, .null, ⟨tests, recoverys⟩⟩) _ _ 0 :=
    exchanges_interfaceTesterFree _
  refine (freed.recount ?_ (fun _ => rfl) rfl).bind fun _ => exchanges_pure none ownedBy
  simp only [InterfaceBlocks.owned, ConfigBlocks.owned, Pointer.owned]
  abel

/-- **An entry is handed over with its memory, or all of it is freed.** -/
theorem exchanges_interfaceHandleConfig (ctx : InterfaceTesterShared) (msg : BlobAttr) :
    Exchanges (interfaceHandleConfig ctx msg) 0 ownedBy 0 := by
  unfold interfaceHandleConfig
  dsimp only
  split
  · exact exchanges_pure none ownedBy
  · split
    · exact exchanges_pure none ownedBy
    · refine exchanges_malloc.bind fun iface => ?_
      refine (exchanges_addTestConfigurations _).gain fun tests => ?_
      split
      · refine (exchanges_refuse iface tests .zeroed).recount ?_ (fun _ => rfl) rfl
        rw [TaskArray.owned_zeroed]
        abel
      · refine (exchanges_addRecoveryConfigurations _).gain fun recoverys => ?_
        have refused := (exchanges_refuse iface tests recoverys).recount
          (show _ = recoverys.owned + (tests.owned + {iface}) by abel) (fun _ => rfl) rfl
        split
        · exact refused
        · split
          · refine (exchanges_pure (some _) ownedBy).recount ?_ (fun _ => rfl) rfl
            simp only [ownedBy, Option.elim_some, InterfaceBlocks.owned, ConfigBlocks.owned,
              Pointer.owned]
            abel
          · exact refused

/-- What is handed over has no object yet, and has the blocks of its configuration. -/
def HandsOver (handled : HandledConfig) (added : Option InterfaceBlocks) : Prop :=
  added.isSome = handled.added.isSome ∧
    ∀ blocks iface, added = some blocks → handled.added = some iface →
      blocks.objectName = .null ∧ Holds blocks iface.config

theorem returns_refuse {handled : HandledConfig} (refused : handled.added = none) (iface : ℕ)
    (tests recoverys : TaskArray) : Returns (refuse iface tests recoverys) (HandsOver handled) :=
  (returns_true _).bind fun _ _ =>
    returns_pure ⟨by rw [refused]; rfl, fun _ _ present => by cases present⟩

theorem returns_interfaceHandleConfig (ctx : InterfaceTesterShared) (msg : BlobAttr) :
    Returns (interfaceHandleConfig ctx msg)
      (HandsOver (IfaceTester.interfaceHandleConfig ctx msg)) := by
  unfold interfaceHandleConfig IfaceTester.interfaceHandleConfig
  dsimp only
  split
  · exact returns_pure ⟨rfl, fun _ _ present => by cases present⟩
  · split
    · exact returns_pure ⟨rfl, fun _ _ present => by cases present⟩
    · refine (returns_true _).bind fun iface _ => ?_
      refine (returns_addTaskConfigurations _).bind fun tests sameTests => ?_
      cases decodedTests : IfaceTester.addTestConfigurations _ with
      | none => exact returns_refuse rfl iface tests .zeroed
      | some testConfigs =>
          refine (returns_addTaskConfigurations _).bind fun recoverys sameRecoverys => ?_
          cases decodedRecoverys : IfaceTester.addRecoveryConfigurations _ with
          | none => exact returns_refuse rfl iface tests recoverys
          | some recoveryConfigs =>
              dsimp only
              split
              · refine returns_pure ⟨rfl, fun blocks added present same => ?_⟩
                cases present
                cases same
                exact ⟨rfl, sameTests _ decodedTests, sameRecoverys _ decodedRecoverys⟩
              · exact returns_refuse rfl iface tests recoverys

end Decoding

section Tracking

/-- The pointer to a name is what the name is. -/
inductive IsFor : Pointer → ObjectName → Prop
  | null : IsFor .null .null
  | constant : IsFor .constant .template
  | allocated (block : ℕ) (path : String) : IsFor (.block block) (.allocated path)

theorem exchanges_ubusAddInterfaceObject {iface : InterfaceBlocks} (null : iface.objectName = .null)
    (answer : PublishAnswer) :
    Exchanges (ubusAddInterfaceObject iface answer) iface.owned InterfaceBlocks.owned 0 := by
  obtain ⟨iface, objectName, config⟩ := iface
  obtain rfl : objectName = .null := null
  unfold ubusAddInterfaceObject
  dsimp only
  split
  · refine exchanges_malloc.gain fun name => ?_
    split
    · have freed := (exchanges_free (.block name)).giveUp fun _ =>
        exchanges_pure (⟨iface, .null, config⟩ : InterfaceBlocks) InterfaceBlocks.owned
      exact freed
    · refine (exchanges_pure (⟨iface, .block name, config⟩ : InterfaceBlocks) _).recount ?_
        (fun _ => rfl) rfl
      simp only [InterfaceBlocks.owned, Pointer.owned]
      abel
  · exact exchanges_pure (⟨iface, .constant, config⟩ : InterfaceBlocks) InterfaceBlocks.owned

theorem returns_ubusAddInterfaceObject (objects : ObjectTable) (name : String)
    (iface : InterfaceBlocks) (answer : PublishAnswer) :
    Returns (ubusAddInterfaceObject iface answer) fun added => added.config = iface.config ∧
      IsFor added.objectName
        ((IfaceTester.ubusAddInterfaceObject objects name answer).2.names name) := by
  unfold ubusAddInterfaceObject IfaceTester.ubusAddInterfaceObject
  dsimp only
  split
  · refine (returns_true _).bind fun path _ => ?_
    split
    · refine (returns_true _).bind fun _ _ => returns_pure ⟨rfl, ?_⟩
      simpa [ObjectTable.rename] using IsFor.null
    · refine returns_pure ⟨rfl, ?_⟩
      simpa [ObjectTable.rename] using IsFor.allocated path _
  · refine returns_pure ⟨rfl, ?_⟩
    simpa [ObjectTable.rename] using IsFor.constant

/-- **An update frees one of the two configurations**, and all else of the new interface. -/
theorem exchanges_updateInterface {new : InterfaceBlocks} (existing : InterfaceBlocks)
    (null : new.objectName = .null) (changed : Bool) :
    Exchanges (updateInterface existing new changed) (existing.owned + new.owned)
      InterfaceBlocks.owned 0 := by
  obtain ⟨iface, objectName, config⟩ := new
  obtain rfl : objectName = .null := null
  cases changed with
  | true =>
      have all := (exchanges_interfaceTesterConfigFree existing.config).giveUp fun _ =>
        (exchanges_interfaceTesterFree ⟨iface, .null, .zeroed⟩).giveUp fun _ =>
          exchanges_pure { existing with config } InterfaceBlocks.owned
      refine Exchanges.recount all ?_ (fun _ => rfl) rfl
      simp only [InterfaceBlocks.owned, ConfigBlocks.owned_zeroed, Pointer.owned]
      abel
  | false =>
      have all := (exchanges_interfaceTesterFree ⟨iface, .null, config⟩).giveUp fun _ =>
        exchanges_pure existing InterfaceBlocks.owned
      exact Exchanges.recount all (add_comm _ _) (fun _ => rfl) rfl

theorem returns_updateInterface (existing new : InterfaceBlocks) (changed : Bool) :
    Returns (updateInterface existing new changed) fun updated =>
      updated.objectName = existing.objectName ∧
        updated.config = if changed then new.config else existing.config := by
  cases changed with
  | true => exact fun heap => ⟨rfl, rfl⟩
  | false => exact fun heap => ⟨rfl, rfl⟩

end Tracking


end Memory

end IfaceTester
