import IfaceTester.ProgramEffects
import IfaceTester.Loads
import IfaceTester.Foundations.ChildTable

/-!
# Nothing outlives its interface

The log tells which children are alive, and the slots of the tracked interfaces tell
which are registered. The slots follow the log (`follows_of_run`): a child is started
into a free slot, and it leaves the slot when it is killed or exits. So the children
that are alive are the registered ones, as long as the system does not give the id of
a living child to a new one. An interface that was freed has no timer and no child,
and after the shutdown there is no interface left.
-/

set_option autoImplicit false

namespace IfaceTester

open Runs ChildTable

/-! ## Children in the log -/

/-- The two process slots of an interface. -/
inductive ProcessSlot where
  | test
  | recovery
deriving DecidableEq

/-- The child in a slot. -/
def Holdings.pid (held : Holdings) : ProcessSlot → Option Pid
  | .test => held.testPid
  | .recovery => held.recoveryPid

/-- Another child in a slot. -/
def Holdings.set (held : Holdings) : ProcessSlot → Option Pid → Holdings
  | .test, pid => { held with testPid := pid }
  | .recovery, pid => { held with recoveryPid := pid }

/-- The start or the end of a child. -/
def LogEntry.childEvent? : LogEntry → Option (ChildEvent (String × ProcessSlot))
  | .seen name (.runTest _ _ launch) =>
      if launch.asprintf then launch.fork.map (.started (name, .test)) else none
  | .seen name (.runRecoveryTask _ _ launch) =>
      if launch.asprintf then launch.fork.map (.started (name, .recovery)) else none
  | .seen _ (.kill pid) => some (.ended pid)
  | .exited _ pid => some (.ended pid)
  | _ => none

/-- The starts and the ends of children, oldest first. -/
def childEvents (log : List LogEntry) : List (ChildEvent (String × ProcessSlot)) :=
  log.filterMap LogEntry.childEvent?

/-- The children that are registered for the tracked interfaces. -/
def registered (program : Program) (slot : String × ProcessSlot) : Option Pid :=
  (program.interfaces.find slot.1).bind fun iface => iface.holdings.pid slot.2

theorem childEvents_append (log later : List LogEntry) :
    childEvents (log ++ later) = childEvents log ++ childEvents later := List.filterMap_append

theorem childEvent?_of_inert {name : String} {seen : Observation} (inert : seen.isInert = true) :
    (LogEntry.seen name seen).childEvent? = none := by
  cases seen with
  | runTest index exec launch =>
      rcases launch with ⟨_ | _, _ | pid⟩ <;> simp_all [Observation.isInert, Launch.succeeds,
        LogEntry.childEvent?]
  | runRecoveryTask index exec launch =>
      rcases launch with ⟨_ | _, _ | pid⟩ <;> simp_all [Observation.isInert, Launch.succeeds,
        LogEntry.childEvent?]
  | kill pid => cases inert
  | _ => rfl

section Follow

variable {metrics : Bool} {name : String} {held held' : Holdings}
variable {table : String × ProcessSlot → Option Pid}

/-- The table with the slots of one interface written anew. -/
def rewritten (table : String × ProcessSlot → Option Pid) (name : String) (held : Holdings)
    (slot : String × ProcessSlot) : Option Pid :=
  if slot.1 = name then held.pid slot.2 else table slot

theorem rewritten_same (agrees : ∀ slot, table (name, slot) = held.pid slot) :
    rewritten table name held = table := by
  funext ⟨other, slot⟩
  unfold rewritten
  split
  case isTrue here =>
    dsimp only at here
    rw [here, agrees]
  case isFalse => rfl

/-- A change of one slot does not matter when the interface is written anew. -/
theorem rewritten_update (slot : ProcessSlot) (pid : Option Pid) :
    rewritten (Function.update table (name, slot) pid) name held = rewritten table name held := by
  funext ⟨other, slot'⟩
  unfold rewritten
  by_cases here : other = name
  · simp [here]
  · have apart : (other, slot') ≠ (name, slot) := fun same => here (congrArg Prod.fst same)
    simp [here, apart]

/-- The table after the child of a slot changed. -/
theorem agrees_set (agrees : ∀ slot, table (name, slot) = held.pid slot) (slot : ProcessSlot)
    (pid : Option Pid) (other : ProcessSlot) :
    Function.update table (name, slot) pid (name, other) = (held.set slot pid).pid other := by
  by_cases here : other = slot
  · subst here
    rw [Function.update_self]
    cases other <;> rfl
  · have apart : (name, other) ≠ (name, slot) := fun same => here (congrArg Prod.snd same)
    rw [Function.update_of_ne apart, agrees]
    cases slot <;> cases other <;> first | rfl | exact absurd rfl here

/-- **The slots of an interface follow what is seen of it.** -/
theorem Effects.follows {trace : List Observation} (effects : Effects metrics held trace held')
    (agrees : ∀ slot, table (name, slot) = held.pid slot) :
    Follows table (childEvents (trace.map (.seen name))) (rewritten table name held') := by
  induction effects generalizing table with
  | nil held =>
      rw [rewritten_same agrees]
      exact .nil table
  | inert inert _ ih =>
      unfold childEvents
      rw [List.map_cons, List.filterMap_cons, childEvent?_of_inert inert]
      exact ih agrees
  | testKilled running _ ih =>
      have next := ih (agrees_set agrees .test none)
      rw [rewritten_update] at next
      exact .ended ((agrees .test).trans running) next
  | recoveryKilled running _ ih =>
      have next := ih (agrees_set agrees .recovery none)
      rw [rewritten_update] at next
      exact .ended ((agrees .recovery).trans running) next
  | @testStarted held _ _ index exec launch pid memory forked idle _ ih =>
      have next := ih (agrees_set agrees .test (some pid))
      rw [rewritten_update] at next
      unfold childEvents
      rw [List.map_cons, List.filterMap_cons]
      simp only [LogEntry.childEvent?, memory, if_true, forked, Option.map_some]
      exact .started ((agrees .test).trans idle) next
  | @recoveryStarted held _ _ index exec launch pid memory forked idle _ ih =>
      have next := ih (agrees_set agrees .recovery (some pid))
      rw [rewritten_update] at next
      unfold childEvents
      rw [List.map_cons, List.filterMap_cons]
      simp only [LogEntry.childEvent?, memory, if_true, forked, Option.map_some]
      exact .started ((agrees .recovery).trans idle) next
  | restored _ ih =>
      have next := ih agrees
      split <;> exact next
  | broke amount operational _ ih =>
      have next := ih agrees
      split <;> exact next
  | handedBack on adjusted _ ih => exact ih agrees

theorem LogEffects.follows {log : List LogEntry} (effects : LogEffects metrics name held log held')
    (agrees : ∀ slot, table (name, slot) = held.pid slot) :
    Follows table (childEvents log) (rewritten table name held') := by
  induction effects generalizing table with
  | seen effects => exact effects.follows agrees
  | testExited running _ ih =>
      have next := ih (agrees_set agrees .test none)
      rw [rewritten_update] at next
      exact .ended ((agrees .test).trans running) next
  | recoveryExited running _ ih =>
      have next := ih (agrees_set agrees .recovery none)
      rw [rewritten_update] at next
      exact .ended ((agrees .recovery).trans running) next

end Follow

/-! ## Freed interfaces -/

/-- No timer of the interface is set, and no child is registered for it. -/
structure Released (iface : Interface) : Prop where
  settlingDelay : timerIsRunning iface.connection.settlingDelayTimer = false
  testInterval : timerIsRunning iface.tester.testIntervalTimer = false
  testResponse : timerIsRunning iface.tester.testResponseTimeoutTimer = false
  recoveryTask : timerIsRunning iface.recovery.responseTimeoutTimer = false
  testProc : iface.tester.testProc.pending = none
  recoveryProc : iface.recovery.proc.pending = none

/-- **`interface_tester_free` releases an interface in any state.** -/
theorem released_interfaceTesterFree (iface : Interface) :
    Released (interfaceTesterFree iface) := by
  unfold interfaceTesterFree interfaceTesterCleanup recoveryCleanup
  rw [testerStop_eq]
  dsimp only
  rw [interfaceTesterKillProcess_slot]
  split <;> exact ⟨rfl, rfl, rfl, rfl, rfl, rfl⟩

section Steps

variable {ctx : InterfaceTesterShared} {program q : Program}

theorem ProgramMove.released (move : ProgramMove program q)
    (before : ∀ iface ∈ program.freed, Released iface) : ∀ iface ∈ q.freed, Released iface := by
  have added : ∀ last, Released last → ∀ iface ∈ program.freed ++ [last], Released iface := by
    intro last released iface member
    rcases List.mem_append.mp member with earlier | here
    · exact before iface earlier
    · exact List.mem_singleton.mp here ▸ released
  cases move with
  | rejected handled =>
      obtain ⟨config, rfl⟩ := freed_of_interfaceHandleConfig handled
      exact added _ (released_interfaceTesterFree _)
  | updated answer handled tracked => exact added _ (released_interfaceTesterFree _)
  | removed tracked => exact added _ (released_interfaceTesterFree _)
  | _ => exact before

/-- **The slots of the tracked interfaces follow the log.** -/
theorem LogStep.follows {name : String} (logged : LogStep program q name)
    (before : Follows (fun _ => none) (childEvents program.log) (registered program)) :
    Follows (fun _ => none) (childEvents q.log) (registered q) := by
  obtain ⟨held, held', added, log, effects, holds, holds'⟩ := logged.effects
  have agrees : ∀ {state : Program} {held : Holdings}, Holds state name held →
      ∀ slot, registered state (name, slot) = held.pid slot := by
    intro state held holds slot
    unfold registered
    cases found : state.interfaces.find name with
    | none =>
        obtain ⟨test, recovery, -⟩ := holds.untracked found
        cases slot with
        | test => exact test.symm
        | recovery => exact recovery.symm
    | some iface =>
        exact congrArg (fun held : Holdings => held.pid slot) (holds.tracked iface found)
  have after : rewritten (registered program) name held' = registered q := by
    funext ⟨other, slot⟩
    unfold rewritten
    split
    case isTrue here =>
      dsimp only at here
      rw [here, agrees holds']
    case isFalse apart =>
      unfold registered
      rw [logged.others other apart]
  rw [log, childEvents_append]
  exact before.trans (after ▸ effects.follows (agrees holds))

/-- What holds between events: the log accounts for the slots, and what was freed is
released. -/
theorem accounted_of_run {events : List ProgramEvent}
    (reached : run programStep (configInit ctx) events = some program) :
    Follows (fun _ => none) (childEvents program.log) (registered program) ∧
      ∀ iface ∈ program.freed, Released iface := by
  have all := moves_invariant
    (I := fun program => Sound program ∧
      Follows (fun _ => none) (childEvents program.log) (registered program) ∧
        ∀ iface ∈ program.freed, Released iface) ?_ (run_moves reached)
    ⟨sound_configInit ctx, .nil _, fun iface member => absurd member List.not_mem_nil⟩
  · exact all.2
  · rintro program q move ⟨sound, follows, released⟩
    obtain ⟨name, logged⟩ := move.logged sound
    exact ⟨move.sound sound, logged.follows follows, move.released released⟩

/-! ## The shutdown -/

/-- The log grows by ends of children only. -/
def OnlyEnds (log later : List LogEntry) : Prop :=
  ∃ added, later = log ++ added ∧ ∀ event ∈ childEvents added, ∃ pid, event = .ended pid

theorem onlyEnds_free (program : Program) (iface : Interface) :
    OnlyEnds program.log (program.free iface).log := by
  refine ⟨_, log_free program iface, fun event member => ?_⟩
  obtain ⟨entry, listed, is⟩ := List.mem_filterMap.mp member
  obtain ⟨seen, traced, rfl⟩ := List.mem_map.mp listed
  have kill : ∀ proc : TesterProcess, seen ∈ (interfaceTesterKillProcess proc).2 →
      ∃ pid, event = .ended pid := by
    intro proc killed
    cases pending : proc.pending with
    | none =>
        rw [interfaceTesterKillProcess_of_idle pending] at killed
        cases killed
    | some pid =>
        rw [interfaceTesterKillProcess_of_running pending] at killed
        obtain rfl := List.mem_singleton.mp killed
        exact ⟨pid, (Option.some.inj is).symm⟩
  unfold freeTrace at traced
  rcases List.mem_append.mp traced with killed | rest
  · exact kill _ killed
  · rcases List.mem_append.mp rest with adjusted | rest
    · split at adjusted
      · obtain rfl := List.mem_singleton.mp adjusted
        cases is
      · cases adjusted
    · rcases List.mem_cons.mp rest with rfl | killed
      · cases is
      · exact kill _ killed

theorem onlyEnds_foldl (nodes : List (VersionedNode String Interface)) (program : Program) :
    OnlyEnds program.log (nodes.foldl vlistDelete program).log := by
  induction nodes generalizing program with
  | nil => exact ⟨[], (List.append_nil _).symm, fun event member => by cases member⟩
  | cons node nodes ih =>
      obtain ⟨first, grown, ends⟩ := onlyEnds_free
        { program with interfaces := program.interfaces.remove node.key } node.value
      obtain ⟨rest, later, ends'⟩ := ih (vlistDelete program node)
      refine ⟨first ++ rest, ?_, fun event member => ?_⟩
      · rw [List.foldl_cons, later, ← List.append_assoc]
        exact congrArg (· ++ rest) grown
      · rw [childEvents_append] at member
        rcases List.mem_append.mp member with early | late
        · exact ends event early
        · exact ends' event late

end Steps

/-- **Nothing outlives its interface.** When the system never gives the id of a living
child to a new one: what was freed has no timer and no child, the living children are
exactly those in the slots of the tracked interfaces with at most one to a slot, and
the shutdown leaves no interface and no child. -/
theorem nothing_outlives_its_interface {ctx : InterfaceTesterShared} {events : List ProgramEvent}
    {program : Program} (reached : run programStep (configInit ctx) events = some program)
    (fresh : FreshIds [] (childEvents program.log)) :
    (∀ iface ∈ program.freed, Released iface) ∧
    (∀ name slot pid, ((name, slot), pid) ∈ alive (childEvents program.log) ↔
      ∃ iface, program.interfaces.find name = some iface ∧ iface.name = name ∧
        iface.holdings.pid slot = some pid) ∧
    ((alive (childEvents program.log)).map Prod.fst).Nodup ∧
    (interfaceTestersFree program).interfaces.nodes = [] ∧
    alive (childEvents (interfaceTestersFree program).log) = [] ∧
    ∀ iface ∈ (interfaceTestersFree program).freed, Released iface := by
  obtain ⟨follows, released⟩ := accounted_of_run reached
  have sound := (sound_of_run reached).1
  have knows := follows.knows_alive fresh
  have stopped : run programStep (configInit ctx) (events ++ [.testersFree]) =
      some (interfaceTestersFree program) := run_concat reached rfl
  obtain ⟨follows', released'⟩ := accounted_of_run stopped
  have emptied := nodes_interfaceTestersFree (allCurrent_of_run reached)
  refine ⟨released, fun name slot pid => ?_, knows.slots, emptied, ?_, released'⟩
  · rw [knows.listed, registered, Option.bind_eq_some_iff]
    constructor
    · rintro ⟨iface, found, held⟩
      exact ⟨iface, found, sound.named found, held⟩
    · rintro ⟨iface, found, -, held⟩
      exact ⟨iface, found, held⟩
  · obtain ⟨added, grown, ends⟩ := onlyEnds_foldl (interfaceUpdate program).interfaces.stale
      (interfaceUpdate program)
    have log : (interfaceTestersFree program).log = program.log ++ added := grown
    have fresh' : FreshIds [] (childEvents (interfaceTestersFree program).log) := by
      rw [log, childEvents_append, freshIds_append]
      exact ⟨fresh, freshIds_of_ended ends⟩
    refine List.eq_nil_iff_forall_not_mem.mpr fun ⟨⟨name, slot⟩, pid⟩ living => ?_
    have held := ((follows'.knows_alive fresh').listed (name, slot) pid).mp living
    rw [registered, find_interfaceTestersFree (allCurrent_of_run reached)] at held
    cases held

/-- The interface comes up, and its first test is started. -/
def firstTestEvents : List ProgramEvent :=
  [.load (wanConfig 3) fun _ => ⟨true, .refused⟩,
    .callback "wan" .settlingDelayTimerExpired (.forked 7)]

theorem nothing_outlives_wan : ∃ program,
    run programStep (configInit connectedShared) firstTestEvents = some program ∧
    (∀ iface ∈ program.freed, Released iface) ∧
    (∀ name slot pid, ((name, slot), pid) ∈ alive (childEvents program.log) ↔
      ∃ iface, program.interfaces.find name = some iface ∧ iface.name = name ∧
        iface.holdings.pid slot = some pid) ∧
    ((alive (childEvents program.log)).map Prod.fst).Nodup ∧
    (interfaceTestersFree program).interfaces.nodes = [] ∧
    alive (childEvents (interfaceTestersFree program).log) = [] ∧
    ∀ iface ∈ (interfaceTestersFree program).freed, Released iface := by
  have ran : (run programStep (configInit connectedShared) firstTestEvents).map
      (fun program => decide (FreshIds [] (childEvents program.log))) = some true := by
    decide +kernel
  obtain ⟨program, reached, fresh⟩ := Option.map_eq_some_iff.mp ran
  exact ⟨program, reached, nothing_outlives_its_interface reached (of_decide_eq_true fresh)⟩

end IfaceTester
