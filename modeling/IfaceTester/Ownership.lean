import IfaceTester.Memory
import IfaceTester.UnchangedLoads

/-!
# Who owns the memory

The heap of the daemon, with the memory of each tracked interface, and what a load does to
it. What an entry allocates is in flight until it is tracked or freed. Otherwise every live
block belongs to exactly one tracked interface (`Accounted`).

There is one misuse that the program can do. An interface whose path could not be allocated
keeps the constant name of the template, and when it is removed that constant is freed.
-/

set_option autoImplicit false

namespace IfaceTester

open Runs

/-- The heap, and the memory of each tracked interface. -/
structure Memory where
  heap : Heap
  blocks : String → Option InterfaceBlocks

namespace Memory

/-- Nothing is allocated, and nothing is tracked. -/
def start : Memory := ⟨.empty, fun _ => none⟩

/-- An interface is tracked with the memory that a function has left. -/
def store (memory : Memory) (name : String) (left : InterfaceBlocks × Heap) : Memory where
  heap := left.2
  blocks := fun other => if other = name then some left.1 else memory.blocks other

/-- `config_remove`. -/
def configRemove (memory : Memory) (name : String) : Memory where
  heap := (((memory.blocks name).elim (pure ()) interfaceTesterFree).run memory.heap).2
  blocks := fun other => if other = name then none else memory.blocks other

/-- `vlist_add` with `interface_update_cb`. -/
def vlistAdd (memory : Memory) (daemon : Daemon) (new : Interface) (blocks : InterfaceBlocks)
    (answer : DaemonAnswer) : Memory :=
  match daemon.program.interfaces.find new.name with
  | none => memory.store new.name ((ubusAddInterfaceObject blocks answer.publish).run memory.heap)
  | some old =>
      match memory.blocks new.name with
      | none => memory
      | some existing =>
          memory.store new.name ((updateInterface existing blocks
            (configChanged old.ctx.withMetricsAdjustment old.config new.config)).run memory.heap)

/-- `interface_handle_config`. -/
def handleEntry (memory : Memory) (daemon : Daemon) (msg : BlobAttr) (answer : DaemonAnswer) :
    Memory :=
  let handled := (interfaceHandleConfig daemon.program.ctx msg).run memory.heap
  let memory := { memory with heap := handled.2 }
  match (IfaceTester.interfaceHandleConfig daemon.program.ctx msg).added, handled.1 with
  | some iface, some blocks => memory.vlistAdd daemon iface blocks answer
  | _, _ => memory

/-- The loop of `config_load_config`. -/
def loadEntries : List BlobAttr → (ℕ → DaemonAnswer) → Daemon → Memory → Memory
  | [], _, _, memory => memory
  | cur :: rest, answers, daemon, memory =>
      if isEntry cur then
        loadEntries rest (fun k => answers (k + 1)) (daemon.handleEntry cur (answers 0))
          (memory.handleEntry daemon cur (answers 0))
      else memory

/-- `interface_flush_old`. -/
def interfaceFlushOld (memory : Memory) (daemon : Daemon) : Memory :=
  daemon.program.interfaces.stale.foldl (fun memory node => memory.configRemove node.key) memory

/-- `config_load_config`. -/
def configLoadConfig (memory : Memory) (daemon : Daemon) (config : List BlobAttr)
    (answers : ℕ → DaemonAnswer) : Memory :=
  match interfacesTable config with
  | none => memory.interfaceFlushOld daemon
  | some interfaces =>
      if interfaces.type ≠ some BlobmsgType.table then memory.interfaceFlushOld daemon
      else
        (loadEntries interfaces.data answers daemon.interfaceUpdate memory).interfaceFlushOld
          (Daemon.loadEntries interfaces.data answers daemon.interfaceUpdate).2

end Memory

/-! ## Every live block has an owner -/

/-- The live blocks are those of the interfaces with these names, and some in flight. -/
def Memory.Owns (memory : Memory) (names : List String) (inFlight : Multiset ℕ) : Prop :=
  memory.heap.live.val = inFlight + (names.map fun name => ownedBy (memory.blocks name)).sum

/-- Every live block has an owner, and every tracked interface has its memory. A misuse is
the end of a name that is a constant. -/
structure Accounted (daemon : Daemon) (memory : Memory) (inFlight : Multiset ℕ) : Prop where
  owns : memory.Owns daemon.program.interfaces.keys inFlight
  misused : memory.heap.misused = daemon.objects.constantsFreed
  tracked : ∀ name config,
    (daemon.program.interfaces.find name).map Interface.config = some config →
    ∃ blocks, memory.blocks name = some blocks ∧ Memory.Holds blocks config ∧
      Memory.IsFor blocks.objectName (daemon.objects.names name)

section Owners

variable {memory : Memory} {names : List String} {name : String} {given : Multiset ℕ}
variable {existing : InterfaceBlocks} {m : Allocating InterfaceBlocks}

/-- The memory of one interface among all. -/
theorem sum_of_mem (member : name ∈ names) (owned : String → Multiset ℕ) :
    (names.map owned).sum = owned name + ((names.erase name).map owned).sum :=
  (List.sum_map_erase owned member).symm

/-- The others keep their memory when one name gets other memory. -/
theorem sum_others (distinct : names.Nodup) (one : Option InterfaceBlocks) :
    ((names.erase name).map fun other =>
        ownedBy (if other = name then one else memory.blocks other)).sum =
      ((names.erase name).map fun other => ownedBy (memory.blocks other)).sum := by
  refine congrArg List.sum (List.map_congr_left fun other member => ?_)
  rw [if_neg (distinct.mem_erase_iff.mp member).1]

/-- **A new name gets what was in flight.** -/
theorem Memory.Owns.stored_new (owns : memory.Owns names given) (absent : name ∉ names)
    (exchanges : Exchanges m given InterfaceBlocks.owned 0) :
    (memory.store name (m.run memory.heap)).Owns (names ++ [name]) 0 ∧
      (memory.store name (m.run memory.heap)).heap.misused = memory.heap.misused := by
  obtain ⟨live, misused⟩ := exchanges memory.heap _ owns
  refine ⟨?_, misused⟩
  have others :
      (names.map fun other => ownedBy ((memory.store name (m.run memory.heap)).blocks other)) =
      names.map fun other => ownedBy (memory.blocks other) := by
    refine List.map_congr_left fun other member => congrArg ownedBy (if_neg ?_)
    rintro rfl
    exact absent member
  have itself : (memory.store name (m.run memory.heap)).blocks name = some (m.run memory.heap).1 :=
    if_pos rfl
  unfold Owns
  rw [List.map_append, List.sum_append, List.map_singleton, List.sum_singleton, others, itself,
    zero_add, add_comm]
  exact live

/-- **A name gets other memory**, for what was in flight and what it had. -/
theorem Memory.Owns.stored (owns : memory.Owns names given) (distinct : names.Nodup)
    (member : name ∈ names) (has : memory.blocks name = some existing)
    (exchanges : Exchanges m (existing.owned + given) InterfaceBlocks.owned 0) :
    (memory.store name (m.run memory.heap)).Owns names 0 ∧
      (memory.store name (m.run memory.heap)).heap.misused = memory.heap.misused := by
  unfold Owns at owns
  rw [sum_of_mem member, has, ← add_assoc, add_comm given] at owns
  obtain ⟨live, misused⟩ := exchanges memory.heap _ owns
  refine ⟨?_, misused⟩
  have itself : (memory.store name (m.run memory.heap)).blocks name = some (m.run memory.heap).1 :=
    if_pos rfl
  unfold Owns
  rw [sum_of_mem member, itself, zero_add]
  exact live.trans (congrArg _ (sum_others distinct (some (m.run memory.heap).1)).symm)

/-- **A name gives up its memory.** -/
theorem Memory.Owns.removed (owns : memory.Owns names 0) (distinct : names.Nodup)
    (member : name ∈ names) (has : memory.blocks name = some existing) :
    (memory.configRemove name).Owns (names.erase name) 0 ∧
      (memory.configRemove name).heap.misused =
        memory.heap.misused + existing.objectName.misuses := by
  unfold Owns at owns
  rw [sum_of_mem member, has, zero_add] at owns
  obtain ⟨live, misused⟩ := exchanges_interfaceTesterFree existing memory.heap _ owns
  have freed : (memory.configRemove name).heap =
      ((interfaceTesterFree existing).run memory.heap).2 := by
    unfold configRemove
    rw [has]
    rfl
  rw [freed]
  refine ⟨?_, misused⟩
  unfold Owns
  rw [freed]
  exact live.trans (congrArg _ (sum_others distinct none).symm)

end Owners

section Accounts

variable {daemon d : Daemon} {memory : Memory} {inFlight : Multiset ℕ}

/-- Nothing happens to what the interfaces own. -/
theorem Accounted.of_same (accounted : Accounted daemon memory inFlight)
    (keys : d.program.interfaces.keys = daemon.program.interfaces.keys)
    (configs : ∀ name, (d.program.interfaces.find name).map Interface.config =
      (daemon.program.interfaces.find name).map Interface.config)
    (objects : d.objects = daemon.objects) : Accounted d memory inFlight where
  owns := keys ▸ accounted.owns
  misused := objects ▸ accounted.misused
  tracked := fun name config found => objects ▸ accounted.tracked name config (configs name ▸ found)

end Accounts

section Entries

variable {daemon : Daemon} {program : Program} {memory : Memory} {msg : BlobAttr}
variable {iface : Interface}

/-- After `vlist_add` the interface has the configuration that was asked for. -/
theorem configs_vlistAdd (sound : Sound program)
    (handled : (interfaceHandleConfig program.ctx msg).added = some iface) (answer : Answer)
    (name : String) :
    ((vlistAdd program iface answer).interfaces.find name).map Interface.config =
      if name = iface.name then some iface.config
      else (program.interfaces.find name).map Interface.config := by
  obtain ⟨-, -, find⟩ := interfaces_vlistAdd answer sound
  rw [find name]
  split
  case isTrue here =>
    obtain ⟨t, tracked, -, config⟩ := track_spec (fun old found => sound name old found) answer
      here.symm handled
    rw [tracked, Option.map_some, config]
  case isFalse => rfl

theorem constantsFreed_ubusAddInterfaceObject (objects : ObjectTable) (name : String)
    (answer : PublishAnswer) :
    (ubusAddInterfaceObject objects name answer).2.constantsFreed = objects.constantsFreed := by
  unfold ubusAddInterfaceObject
  dsimp only
  split
  · split <;> rfl
  · rfl

theorem names_ubusAddInterfaceObject {objects : ObjectTable} {here name : String}
    (apart : name ≠ here) (answer : PublishAnswer) :
    (ubusAddInterfaceObject objects here answer).2.names name = objects.names name := by
  unfold ubusAddInterfaceObject
  dsimp only
  split
  · split <;> simp [ObjectTable.rename, apart]
  · simp [ObjectTable.rename, apart]

/-- The interface has what a function has left for it, and the others have what they had. -/
theorem Accounted.tracked_vlistAdd {inFlight : Multiset ℕ} {left : InterfaceBlocks × Heap}
    (sound : Sound daemon.program) (accounted : Accounted daemon memory inFlight)
    (handled : (interfaceHandleConfig daemon.program.ctx msg).added = some iface)
    (answer : DaemonAnswer) (holds : Memory.Holds left.1 iface.config)
    (others : ∀ other, other ≠ iface.name →
      (daemon.vlistAdd iface answer).objects.names other = daemon.objects.names other)
    (named : Memory.IsFor left.1.objectName
      ((daemon.vlistAdd iface answer).objects.names iface.name)) {name : String}
    {config : InterfaceConfig}
    (asked : ((daemon.vlistAdd iface answer).program.interfaces.find name).map Interface.config =
      some config) :
    ∃ blocks, (memory.store iface.name left).blocks name = some blocks ∧
      Memory.Holds blocks config ∧
      Memory.IsFor blocks.objectName ((daemon.vlistAdd iface answer).objects.names name) := by
  rw [Daemon.program_vlistAdd, configs_vlistAdd sound handled answer.answer name] at asked
  by_cases here : name = iface.name
  · subst here
    rw [if_pos rfl] at asked
    obtain rfl := Option.some.inj asked
    exact ⟨left.1, if_pos rfl, holds, named⟩
  · rw [if_neg here] at asked
    rw [others name here]
    obtain ⟨blocks, has, rest⟩ := accounted.tracked name config asked
    exact ⟨blocks, (if_neg here).trans has, rest⟩

/-- After an update the interface has the blocks of the new configuration. When the old one
stays, it is the same. -/
theorem holds_update {existing blocks updated : InterfaceBlocks} {old : Interface}
    (sound : Sound daemon.program) (found : daemon.program.interfaces.find iface.name = some old)
    (handled : (interfaceHandleConfig daemon.program.ctx msg).added = some iface)
    (held : Memory.Holds existing old.config) (holds : Memory.Holds blocks iface.config)
    (kept : updated.config =
      if configChanged old.ctx.withMetricsAdjustment old.config iface.config then blocks.config
      else existing.config) : Memory.Holds updated iface.config := by
  cases changed : configChanged old.ctx.withMetricsAdjustment old.config iface.config with
  | true =>
      rw [changed, if_pos rfl] at kept
      exact ⟨kept ▸ holds.tests, kept ▸ holds.recoverys⟩
  | false =>
      have reached := sound iface.name old found
      have ctx : old.ctx = daemon.program.ctx := reached.identity.1
      have equal : old.config = iface.config := (configChanged_eq_false_iff
        (ctx ▸ reached.loadable) (ctx ▸ (loadable_of_interfaceHandleConfig handled).1)).mp changed
      rw [changed, if_neg Bool.false_ne_true] at kept
      rw [← equal]
      exact ⟨kept ▸ held.tests, kept ▸ held.recoverys⟩

/-- **An interface that was decoded becomes tracked with its memory**, or all that is not
used of it is freed. -/
theorem Accounted.vlistAdd {blocks : InterfaceBlocks} (sound : Sound daemon.program)
    (accounted : Accounted daemon memory blocks.owned)
    (handled : (interfaceHandleConfig daemon.program.ctx msg).added = some iface)
    (null : blocks.objectName = .null) (holds : Memory.Holds blocks iface.config)
    (answer : DaemonAnswer) :
    Accounted (daemon.vlistAdd iface answer) (memory.vlistAdd daemon iface blocks answer) 0 := by
  have keys : (daemon.vlistAdd iface answer).program.interfaces.keys =
      (daemon.program.interfaces.add iface.name iface).keys := by
    obtain ⟨t, -, list⟩ := @vlistAdd_eq daemon.program iface answer.answer sound
    rw [Daemon.program_vlistAdd, list, VersionedList.keys_set]
  unfold Memory.vlistAdd
  cases found : daemon.program.interfaces.find iface.name with
  | none =>
      have absent := VersionedList.find_eq_none_iff.mp found
      have objects : (daemon.vlistAdd iface answer).objects =
          (ubusAddInterfaceObject daemon.objects iface.name answer.publish).2 := by
        unfold Daemon.vlistAdd
        rw [found]
        rfl
      obtain ⟨owns, misused⟩ := accounted.owns.stored_new absent
        (Memory.exchanges_ubusAddInterfaceObject null answer.publish)
      obtain ⟨same, named⟩ := Memory.returns_ubusAddInterfaceObject daemon.objects iface.name blocks
        answer.publish memory.heap
      refine ⟨?_, ?_, fun name config => accounted.tracked_vlistAdd sound handled answer
        ⟨same ▸ holds.tests, same ▸ holds.recoverys⟩ (fun other apart => ?_) ?_⟩
      · rw [keys, VersionedList.keys_add_of_notMem absent]
        exact owns
      · rw [objects, constantsFreed_ubusAddInterfaceObject]
        exact misused.trans accounted.misused
      · rw [objects, names_ubusAddInterfaceObject apart]
      · rw [objects]
        exact named
  | some old =>
      have member := VersionedList.mem_keys_iff.mpr ⟨old, found⟩
      have objects : (daemon.vlistAdd iface answer).objects = daemon.objects := by
        unfold Daemon.vlistAdd
        rw [found]
        rfl
      obtain ⟨existing, has, held, named⟩ := accounted.tracked iface.name old.config
        (by rw [found, Option.map_some])
      dsimp only
      rw [has]
      dsimp only
      obtain ⟨same, kept⟩ := Memory.returns_updateInterface existing blocks
        (configChanged old.ctx.withMetricsAdjustment old.config iface.config) memory.heap
      obtain ⟨owns, misused⟩ := accounted.owns.stored daemon.program.interfaces.distinct member has
        (Memory.exchanges_updateInterface existing null
          (configChanged old.ctx.withMetricsAdjustment old.config iface.config))
      refine ⟨?_, ?_, fun name config => accounted.tracked_vlistAdd sound handled answer
        (holds_update sound found handled held holds kept) (fun _ _ => by rw [objects]) ?_⟩
      · rw [keys, VersionedList.keys_add_of_mem member]
        exact owns
      · rw [objects]
        exact misused.trans accounted.misused
      · rw [objects, same]
        exact named

/-- **An entry leaves nothing in flight**, whether it is accepted or refused. -/
theorem Accounted.handleEntry (sound : Sound daemon.program)
    (accounted : Accounted daemon memory 0) (msg : BlobAttr) (answer : DaemonAnswer) :
    Accounted (daemon.handleEntry msg answer) (memory.handleEntry daemon msg answer) 0 := by
  obtain ⟨live, misused⟩ := Memory.exchanges_interfaceHandleConfig daemon.program.ctx msg
    memory.heap _ accounted.owns
  obtain ⟨isSome, hands⟩ := Memory.returns_interfaceHandleConfig daemon.program.ctx msg memory.heap
  unfold Daemon.handleEntry Memory.handleEntry
  generalize (Memory.interfaceHandleConfig daemon.program.ctx msg).run memory.heap = left at *
  obtain ⟨left, heap⟩ := left
  dsimp only at live misused isSome hands ⊢
  cases handled : (interfaceHandleConfig daemon.program.ctx msg).added with
  | none =>
      rw [handled] at isSome
      obtain rfl := Option.not_isSome_iff_eq_none.mp (Bool.eq_false_iff.mp isSome)
      have accounted : Accounted daemon { memory with heap := heap } 0 :=
        ⟨live, misused.trans accounted.misused, accounted.tracked⟩
      have list : (IfaceTester.handleEntry daemon.program msg answer.answer).interfaces =
          daemon.program.interfaces := by
        unfold IfaceTester.handleEntry
        dsimp only
        rw [handled]
        cases (interfaceHandleConfig daemon.program.ctx msg).freed <;> rfl
      refine accounted.of_same (congrArg VersionedList.keys list) (fun name => ?_) rfl
      exact congrArg (fun tree => Option.map Interface.config (VersionedList.find tree name)) list
  | some iface =>
      rw [handled] at isSome
      obtain ⟨blocks, rfl⟩ := Option.isSome_iff_exists.mp isSome
      obtain ⟨null, holds⟩ := hands blocks iface rfl handled
      have accounted : Accounted (daemon.advance (daemon.program.record [] iface))
          { memory with heap := heap } blocks.owned :=
        ⟨live, misused.trans accounted.misused, accounted.tracked⟩
      have recorded : Sound (daemon.advance (daemon.program.record [] iface)).program := sound
      exact accounted.vlistAdd recorded handled null holds answer

theorem Accounted.loadEntries (sound : Sound daemon.program)
    (accounted : Accounted daemon memory 0) (entries : List BlobAttr)
    (answers : ℕ → DaemonAnswer) :
    Accounted (Daemon.loadEntries entries answers daemon).2
      (Memory.loadEntries entries answers daemon memory) 0 := by
  induction entries generalizing answers daemon memory with
  | nil => exact accounted
  | cons cur rest ih =>
      unfold Daemon.loadEntries Memory.loadEntries
      split
      · refine ih ?_ (accounted.handleEntry sound cur (answers 0)) _
        rw [Daemon.program_handleEntry]
        exact sound_moves (handleEntry_moves daemon.program cur (answers 0).answer) sound
      · exact accounted

end Entries

section Flush

variable {daemon : Daemon} {memory : Memory}

theorem constantsFreed_ubusRemoveInterfaceObject {objects : ObjectTable} {name : String}
    {pointer : Pointer} (object : Memory.IsFor pointer (objects.names name)) :
    (ubusRemoveInterfaceObject objects name).constantsFreed =
      objects.constantsFreed + pointer.misuses := by
  unfold ubusRemoveInterfaceObject
  generalize objects.names name = named at object ⊢
  cases object <;> rfl

/-- **An interface that is dropped gives up all its memory.** -/
theorem Accounted.vlistDelete (sound : Sound daemon.program)
    (accounted : Accounted daemon memory 0) {node : VersionedNode String Interface}
    (listed : daemon.program.interfaces.find node.key = some node.value) :
    Accounted (daemon.vlistDelete node) (memory.configRemove node.key) 0 := by
  have distinct : daemon.program.interfaces.keys.Nodup := daemon.program.interfaces.distinct
  have named : node.value.name = node.key := sound.named listed
  have member := VersionedList.mem_keys_iff.mpr ⟨node.value, listed⟩
  have list : (daemon.vlistDelete node).program.interfaces =
      daemon.program.interfaces.remove node.key := rfl
  have objects : (daemon.vlistDelete node).objects =
      ubusRemoveInterfaceObject daemon.objects node.key := by
    rw [← named]
    rfl
  obtain ⟨existing, has, -, object⟩ := accounted.tracked node.key node.value.config
    (by rw [listed, Option.map_some])
  obtain ⟨owns, misused⟩ := accounted.owns.removed distinct member has
  refine ⟨?_, ?_, fun name config asked => ?_⟩
  · rw [list, VersionedList.keys_remove]
    exact owns
  · rw [misused, accounted.misused, objects, constantsFreed_ubusRemoveInterfaceObject object]
  · rw [list, VersionedList.find_remove] at asked
    by_cases here : name = node.key
    · rw [if_pos here] at asked
      cases asked
    · rw [if_neg here] at asked
      obtain ⟨blocks, kept, held, object⟩ := accounted.tracked name config asked
      have others : (ubusRemoveInterfaceObject daemon.objects node.key).names name =
          daemon.objects.names name := by
        unfold ubusRemoveInterfaceObject
        split <;> simp [ObjectTable.rename, here]
      exact ⟨blocks, (if_neg here).trans kept, held, by rw [objects, others]; exact object⟩

theorem Accounted.interfaceFlushOld (sound : Sound daemon.program)
    (accounted : Accounted daemon memory 0) :
    Accounted daemon.interfaceFlushOld (memory.interfaceFlushOld daemon) 0 :=
  Daemon.flush_induction (I := fun d memory => Accounted d memory 0)
    (fun _ _ _ sound listed accounted => accounted.vlistDelete sound listed) sound memory accounted

theorem Accounted.configLoadConfig (sound : Sound daemon.program)
    (accounted : Accounted daemon memory 0) (config : List BlobAttr)
    (answers : ℕ → DaemonAnswer) :
    Accounted (daemon.configLoadConfig config answers).2
      (memory.configLoadConfig daemon config answers) 0 := by
  unfold Daemon.configLoadConfig Memory.configLoadConfig
  cases interfacesTable config with
  | none => exact accounted.interfaceFlushOld sound
  | some table =>
      dsimp only
      split
      · exact accounted.interfaceFlushOld sound
      · have bumped : Accounted daemon.interfaceUpdate memory 0 :=
          accounted.of_same rfl (fun _ => rfl) rfl
        have soundLater : Sound daemon.interfaceUpdate.program := sound
        refine (bumped.loadEntries soundLater table.data answers).interfaceFlushOld ?_
        rw [(@Daemon.program_loadEntries daemon.interfaceUpdate table.data answers).2]
        exact sound_moves (loadEntries_moves _ _ _) soundLater

end Flush

/-! ## Names that are constants -/

section Constants

variable {daemon : Daemon}

/-- No object has the constant name, and no constant was freed. -/
structure NoConstants (objects : ObjectTable) : Prop where
  names : ∀ name, objects.names name ≠ .template
  freed : objects.constantsFreed = 0

theorem NoConstants.add {objects : ObjectTable} (without : NoConstants objects) (here : String)
    {answer : PublishAnswer} (allocated : answer.asprintf = true) :
    NoConstants (ubusAddInterfaceObject objects here answer).2 where
  names := by
    intro name
    by_cases same : name = here
    · subst same
      unfold ubusAddInterfaceObject
      dsimp only
      rw [if_pos allocated]
      split <;> simp [ObjectTable.rename]
    · rw [names_ubusAddInterfaceObject same]
      exact without.names name
  freed := (constantsFreed_ubusAddInterfaceObject objects here answer).trans without.freed

theorem NoConstants.remove {objects : ObjectTable} (without : NoConstants objects) (here : String) :
    NoConstants (ubusRemoveInterfaceObject objects here) := by
  unfold ubusRemoveInterfaceObject
  cases named : objects.names here with
  | null => exact without
  | template => exact absurd named (without.names here)
  | allocated path =>
      refine ⟨fun name => ?_, without.freed⟩
      by_cases same : name = here
      · simp [ObjectTable.rename, same]
      · simpa [ObjectTable.rename, same] using without.names name

theorem NoConstants.interfaceFlushOld (sound : Sound daemon.program)
    (without : NoConstants daemon.objects) : NoConstants daemon.interfaceFlushOld.objects :=
  Daemon.flush_induction (I := fun d (_ : Unit) => NoConstants d.objects) (f := fun s _ => s)
    (fun _ _ node _ _ without => without.remove node.value.name) sound () without

theorem NoConstants.handleEntry (without : NoConstants daemon.objects) (msg : BlobAttr)
    {answer : DaemonAnswer} (allocated : answer.publish.asprintf = true) :
    NoConstants (daemon.handleEntry msg answer).objects := by
  unfold Daemon.handleEntry
  dsimp only
  cases (interfaceHandleConfig daemon.program.ctx msg).added with
  | none => exact without
  | some iface =>
      dsimp only
      unfold Daemon.vlistAdd
      cases (daemon.advance (daemon.program.record [] iface)).program.interfaces.find
        iface.name with
      | none => exact without.add iface.name allocated
      | some old => exact without

theorem NoConstants.loadEntries (without : NoConstants daemon.objects) (entries : List BlobAttr)
    {answers : ℕ → DaemonAnswer} (allocated : ∀ k, (answers k).publish.asprintf = true) :
    NoConstants (Daemon.loadEntries entries answers daemon).2.objects := by
  induction entries generalizing answers daemon with
  | nil => exact without
  | cons cur rest ih =>
      unfold Daemon.loadEntries
      split
      · exact ih (without.handleEntry cur (allocated 0)) fun k => allocated (k + 1)
      · exact without

theorem NoConstants.configLoadConfig (sound : Sound daemon.program)
    (without : NoConstants daemon.objects) (config : List BlobAttr) {answers : ℕ → DaemonAnswer}
    (allocated : ∀ k, (answers k).publish.asprintf = true) :
    NoConstants (daemon.configLoadConfig config answers).2.objects := by
  unfold Daemon.configLoadConfig
  dsimp only
  split
  · exact without.interfaceFlushOld sound
  · split
    · exact without.interfaceFlushOld sound
    case isFalse table _ _ =>
      have bumped : NoConstants daemon.interfaceUpdate.objects := without
      have soundLater : Sound daemon.interfaceUpdate.program := sound
      refine (bumped.loadEntries table.data allocated).interfaceFlushOld ?_
      rw [(@Daemon.program_loadEntries daemon.interfaceUpdate table.data answers).2]
      exact sound_moves (loadEntries_moves _ _ _) soundLater

end Constants

end IfaceTester
