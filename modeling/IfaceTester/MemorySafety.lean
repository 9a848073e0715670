import IfaceTester.Ownership
import IfaceTester.UnchangedLoads

/-!
# No block is lost, and none is freed twice

The events of the main loop with the memory. Loads and the shutdown change what interfaces
have, all other events leave it as it is (`Memory.after`). So in every state that the daemon
can come to, each live block has exactly one owner, and after the shutdown no block is left.
-/

set_option autoImplicit false

namespace IfaceTester

open Runs

namespace Memory

/-- `config_load_from_file_check`. -/
def configLoadFromFileCheck (memory : Memory) (daemon : Daemon) (file : Option (List BlobAttr))
    (answers : ℕ → DaemonAnswer) : Memory :=
  match daemon.configFile with
  | none => memory
  | some _ =>
      match file with
      | none => memory
      | some config => memory.configLoadConfig daemon config answers

/-- What an event of the main loop leaves of the memory. Only loads and the shutdown change
what interfaces have. -/
def after (memory : Memory) (daemon : Daemon) : DaemonEvent → Memory
  | .connected status around =>
      memory.configLoadFromFileCheck (daemon.publishObjects status).2 around.file around.answers
  | .event _ _ => memory
  | .request path method msg around =>
      if path = sInterfaceTester ∧ daemon.mainObject = true then
        if method = "config" then memory.configLoadConfig daemon msg around.answers
        else if method = "config_reload" then
          memory.configLoadFromFileCheck daemon around.file around.answers
        else memory
      else memory
  | .wakeUp _ _ _ => memory
  | .shutdown =>
      memory.interfaceFlushOld
        (daemon.send (interfaceTesterSendUpDownEvent daemon.program.ctx false)).interfaceUpdate

end Memory

/-- One event of the main loop, with the memory. -/
def memoryStep (both : Daemon × Memory) (event : DaemonEvent) : Option (Daemon × Memory) :=
  (daemonStep both.1 event).map fun daemon => (daemon, both.2.after both.1 event)

/-- Every path that is asked for is allocated. -/
def DaemonEvent.PathsAllocated : DaemonEvent → Prop
  | .connected _ around => ∀ k, (around.answers k).publish.asprintf = true
  | .request _ _ _ around => ∀ k, (around.answers k).publish.asprintf = true
  | _ => True

section Events

variable {safe : Prop} {daemon d : Daemon} {memory : Memory}

/-- What holds between events: every live block has its owner, and if it is safe no object
has a constant for a name. -/
structure Kept (safe : Prop) (daemon : Daemon) (memory : Memory) : Prop where
  sound : Sound daemon.program
  accounted : Accounted daemon memory 0
  constants : safe → NoConstants daemon.objects

theorem Kept.of_same (kept : Kept safe daemon memory) (sound : Sound d.program)
    (keys : d.program.interfaces.keys = daemon.program.interfaces.keys)
    (configs : ∀ name, (d.program.interfaces.find name).map Interface.config =
      (daemon.program.interfaces.find name).map Interface.config)
    (objects : d.objects = daemon.objects) : Kept safe d memory :=
  ⟨sound, kept.accounted.of_same keys configs objects, fun holds => objects ▸ kept.constants holds⟩

theorem Kept.interfaceFlushOld (kept : Kept safe daemon memory) :
    Kept safe daemon.interfaceFlushOld (memory.interfaceFlushOld daemon) where
  sound := by
    rw [Daemon.program_interfaceFlushOld]
    exact sound_moves (interfaceFlushOld_moves _) kept.sound
  accounted := kept.accounted.interfaceFlushOld kept.sound
  constants := fun holds => (kept.constants holds).interfaceFlushOld kept.sound

theorem Kept.configLoadConfig (kept : Kept safe daemon memory) (config : List BlobAttr)
    {answers : ℕ → DaemonAnswer} (allocated : safe → ∀ k, (answers k).publish.asprintf = true) :
    Kept safe (daemon.configLoadConfig config answers).2
      (memory.configLoadConfig daemon config answers) where
  sound := by
    rw [(Daemon.program_configLoadConfig config answers).2]
    exact sound_moves (configLoadConfig_moves _ _ _) kept.sound
  accounted := kept.accounted.configLoadConfig kept.sound config answers
  constants := fun holds => (kept.constants holds).configLoadConfig kept.sound config
    (allocated holds)

theorem Kept.configLoadFromFileCheck (kept : Kept safe daemon memory)
    (file : Option (List BlobAttr)) {answers : ℕ → DaemonAnswer}
    (allocated : safe → ∀ k, (answers k).publish.asprintf = true) :
    Kept safe (daemon.configLoadFromFileCheck file answers)
      (memory.configLoadFromFileCheck daemon file answers) := by
  unfold Daemon.configLoadFromFileCheck Memory.configLoadFromFileCheck
  cases daemon.configFile with
  | none => exact kept
  | some path =>
      cases file with
      | none => exact kept
      | some config => exact kept.configLoadConfig config allocated

/-- An event that leaves the configuration only moves the program. -/
theorem leavesConfig_advance {event : DaemonEvent} (leaves : event.leavesConfig = true)
    (taken : daemonStep daemon event = some d) : ∃ program, d = daemon.advance program := by
  have nothing : ∃ program, daemon = daemon.advance program := ⟨daemon.program, advance_self.symm⟩
  cases event with
  | connected status around => cases leaves
  | shutdown => cases leaves
  | event event launch =>
      cases taken
      unfold Daemon.deliver
      split
      · split
        · exact Daemon.handleInterfaceEvent_advance _ _ _ _
        · split
          · exact Daemon.handleInterfaceEvent_advance _ _ _ _
          · exact nothing
      · exact nothing
  | wakeUp name cb launch =>
      simp only [daemonStep] at taken
      split at taken
      · obtain ⟨program, -, rfl⟩ := Option.map_eq_some_iff.mp taken
        exact ⟨program, rfl⟩
      · cases taken
  | request path method msg around =>
      cases taken
      unfold Daemon.request
      split
      case isTrue main =>
        simp only [DaemonEvent.leavesConfig, main.1, decide_true, Bool.true_and, Bool.not_eq_true',
          Bool.or_eq_false_iff, decide_eq_false_iff_not] at leaves
        unfold Daemon.mainRequest
        rw [if_neg leaves.1, if_neg leaves.2]
        split <;> exact nothing
      case isFalse =>
        split
        · split
          · unfold Daemon.interfaceRequest
            split
            · exact nothing
            · split
              · exact ⟨_, rfl⟩
              · exact nothing
          · exact nothing
        · exact nothing

/-- A request for a load is no request that an interface knows. -/
theorem request_of_load {path method : String} (msg : List BlobAttr) (around : Surroundings)
    (main : ¬ (path = sInterfaceTester ∧ daemon.mainObject = true))
    (load : method = "config" ∨ method = "config_reload") :
    (daemon.request path method msg around).1 = daemon := by
  unfold Daemon.request
  rw [if_neg main]
  split
  · split
    · unfold Daemon.interfaceRequest
      rcases load with rfl | rfl <;> rfl
    · rfl
  · rfl

/-- Events that leave the configuration leave what the interfaces own. -/
theorem Kept.of_leavesConfig (kept : Kept safe daemon memory) {event : DaemonEvent}
    (leaves : event.leavesConfig = true) (taken : daemonStep daemon event = some d) :
    Kept safe d memory := by
  have same : Sound d.program ∧ d.program.interfaces.keys = daemon.program.interfaces.keys ∧
      ∀ name, (d.program.interfaces.find name).map Interface.config =
        (daemon.program.interfaces.find name).map Interface.config := by
    refine visits_of_invariant (I := fun q : Program => Sound q ∧
      q.interfaces.keys = daemon.program.interfaces.keys ∧
      ∀ name, (q.interfaces.find name).map Interface.config =
        (daemon.program.interfaces.find name).map Interface.config) ?_
      ⟨kept.sound, rfl, fun _ => rfl⟩ (visits_last (run_asks kept.sound taken))
    rintro q asked r stepped ⟨soundBefore, keys, configs⟩
    obtain ⟨keys', configs'⟩ := configs_callback soundBefore
      (asks_isCallback leaves asked stepped.mem) stepped.step_eq
    exact ⟨sound_moves (programStep_moves stepped.step_eq) soundBefore, keys'.trans keys,
      fun name => (configs' name).trans (configs name)⟩
  obtain ⟨program, rfl⟩ := leavesConfig_advance leaves taken
  exact kept.of_same same.1 same.2.1 same.2.2 rfl

/-- **Every event leaves every live block with its owner.** -/
theorem Kept.stepped (kept : Kept safe daemon memory) {event : DaemonEvent}
    (allocated : safe → event.PathsAllocated) (taken : daemonStep daemon event = some d) :
    Kept safe d (memory.after daemon event) := by
  cases event with
  | event event launch => exact kept.of_leavesConfig rfl taken
  | wakeUp name cb launch => exact kept.of_leavesConfig rfl taken
  | connected status around =>
      cases taken
      have opened : Kept safe (daemon.publishObjects status).2 memory := by
        unfold Daemon.publishObjects
        split
        · exact kept.of_same kept.sound rfl (fun _ => rfl) rfl
        · exact kept
      have loaded := opened.configLoadFromFileCheck around.file allocated
      exact loaded.of_same loaded.sound rfl (fun _ => rfl) rfl
  | shutdown =>
      cases taken
      have bumped : Kept safe (daemon.send (interfaceTesterSendUpDownEvent daemon.program.ctx
          false)).interfaceUpdate memory := kept.of_same kept.sound rfl (fun _ => rfl) rfl
      exact bumped.interfaceFlushOld
  | request path method msg around =>
      by_cases main : path = sInterfaceTester ∧ daemon.mainObject = true
      · have left : memory.after daemon (.request path method msg around) =
            if method = "config" then memory.configLoadConfig daemon msg around.answers
            else if method = "config_reload" then
              memory.configLoadFromFileCheck daemon around.file around.answers
            else memory := if_pos main
        have requested : daemon.request path method msg around =
            daemon.mainRequest method msg around := if_pos main
        rw [left]
        by_cases config : method = "config"
        · subst config
          obtain rfl := Option.some.inj taken
          rw [requested]
          exact kept.configLoadConfig msg allocated
        · rw [if_neg config]
          by_cases reload : method = "config_reload"
          · subst reload
            obtain rfl := Option.some.inj taken
            rw [requested]
            exact kept.configLoadFromFileCheck around.file allocated
          · rw [if_neg reload]
            exact kept.of_leavesConfig (by simp [DaemonEvent.leavesConfig, config, reload]) taken
      · have left : memory.after daemon (.request path method msg around) = memory := if_neg main
        rw [left]
        by_cases load : method = "config" ∨ method = "config_reload"
        · obtain rfl := Option.some.inj taken
          rw [request_of_load msg around main load]
          exact kept
        · obtain ⟨config, reload⟩ := not_or.mp load
          exact kept.of_leavesConfig (by simp [DaemonEvent.leavesConfig, config, reload]) taken

end Events

section Runs

variable {ctx : InterfaceTesterShared} {configFile : Option String} {events : List DaemonEvent}
variable {daemon : Daemon}

/-- The memory follows every run of the daemon. -/
theorem exists_run_memoryStep {before : Daemon} (memory : Memory)
    (reached : run daemonStep before events = some daemon) :
    ∃ left, run memoryStep (before, memory) events = some (daemon, left) := by
  induction events generalizing before memory with
  | nil =>
      cases reached
      exact ⟨memory, rfl⟩
  | cons event events ih =>
      obtain ⟨next, taken, later⟩ := Option.bind_eq_some_iff.mp reached
      obtain ⟨left, ran⟩ := ih (memory.after before event) later
      refine ⟨left, ?_⟩
      rw [run_cons, memoryStep, taken]
      exact ran

/-- **No block is lost, and none is freed twice.** In every state that the daemon comes to,
each live block belongs to exactly one tracked interface, as one of the blocks that its
configuration and its object have. The only misuse there ever is is the end of an object
whose path could not be allocated. The shutdown frees every block. All this is for as long
as `calloc`, `calloc_a`, `strdup` and `blob_memdup` find memory. -/
theorem every_block_has_one_owner
    (reached : run daemonStep (contextInit ctx configFile) events = some daemon) :
    ∃ memory, run memoryStep (contextInit ctx configFile, .start) events = some (daemon, memory) ∧
      Accounted daemon memory 0 ∧
      ((∀ event ∈ events, event.PathsAllocated) → memory.heap.misused = 0) ∧
      (memory.after daemon .shutdown).heap.live = ∅ := by
  obtain ⟨memory, ran⟩ := exists_run_memoryStep .start reached
  have kept : Kept (∀ event ∈ events, event.PathsAllocated) daemon memory := by
    refine visits_of_invariant (I := fun both : Daemon × Memory =>
      Kept (∀ event ∈ events, event.PathsAllocated) both.1 both.2) ?_ ?_ (visits_last ran)
    · rintro ⟨before, memory⟩ event ⟨after, left⟩ taken there
      obtain ⟨next, stepped, same⟩ := Option.map_eq_some_iff.mp taken.step_eq
      cases same
      exact there.stepped (fun allocated => allocated event taken.mem) stepped
    · refine ⟨sound_configInit ctx, ⟨rfl, rfl, fun name config absent => ?_⟩, fun _ => ⟨?_, rfl⟩⟩
      · cases absent
      · exact fun name named => by cases named
  refine ⟨memory, ran, kept.accounted, fun allocated => ?_, ?_⟩
  · rw [kept.accounted.misused, (kept.constants allocated).freed]
  · have ended : Kept _ daemon.contextShutdown (memory.after daemon .shutdown) :=
      kept.stepped (fun _ => trivial) rfl
    have current := allCurrent_of_run (run_askedBy (sound_configInit ctx) reached)
    have emptied : daemon.contextShutdown.program.interfaces.keys = [] := by
      unfold Daemon.contextShutdown VersionedList.keys
      rw [Daemon.program_interfaceTestersFree]
      exact congrArg (List.map VersionedNode.key) (nodes_interfaceTestersFree current)
    have owns := ended.accounted.owns
    unfold Memory.Owns at owns
    rw [emptied, List.map_nil, List.sum_nil, zero_add] at owns
    exact Finset.val_eq_zero.mp owns

end Runs

/-! ## One interface is monitored, with and without its path -/

theorem every_block_has_one_owner_wan : ∃ daemon memory,
    run memoryStep (contextInit connectedShared (some "interfaces.json"), .start) wanMonitored =
      some (daemon, memory) ∧
    Accounted daemon memory 0 ∧ memory.heap.misused = 0 ∧
    (memory.after daemon .shutdown).heap.live = ∅ := by
  obtain ⟨daemon, reached⟩ := Option.isSome_iff_exists.mp wanMonitored_run
  obtain ⟨memory, ran, accounted, safe, freed⟩ := every_block_has_one_owner reached
  have allocated : ∀ event ∈ wanMonitored, event.PathsAllocated := by
    intro event member
    simp only [wanMonitored, List.mem_cons, List.not_mem_nil, or_false] at member
    rcases member with rfl | rfl | rfl
    · exact fun _ => rfl
    · exact trivial
    · exact trivial
  exact ⟨daemon, memory, ran, accounted, safe allocated, freed⟩

/-- The path of the interface cannot be allocated. -/
def wanUnnamed : List DaemonEvent :=
  [.connected ubusStatusOk { wanSurroundings with
    answers := fun _ => ⟨⟨false, ubusStatusOk⟩, ⟨true, ubusStatusOk, [[.int8 "up" 1]]⟩, .refused⟩ },
    .shutdown]

example : (run memoryStep (contextInit connectedShared (some "interfaces.json"), .start)
    wanUnnamed).map (fun both => (both.2.heap.misused, decide (both.2.heap.live = ∅))) =
      some (1, true) := by decide +kernel

end IfaceTester
