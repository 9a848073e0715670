import IfaceTester.ConfigLoad
import IfaceTester.Foundations.VersionedList

/-!
# The whole program

The list of tracked interfaces, and what a configuration load does to it:
`config_load_config` and `interface_update_cb` of `config.c`, with
`interface_testers_free` of `tester_common.c`. An interface is allocated for an
entry of the load. It is then either in the list or freed again, so every interface
there ever was is in `interfaces` or in `freed`.

The log is kept beside the C state. It holds, oldest first, what was seen of any
interface, under its name, and the exits of children. `programStep` is one event
of the main loop.
-/

set_option autoImplicit false

namespace IfaceTester

/-- One thing that was seen of the program. -/
inductive LogEntry where
  /-- Something was seen of the interface with this name. -/
  | seen (name : String) (what : Observation)
  /-- A child of the interface with this name exited by itself. -/
  | exited (name : String) (pid : Pid)

/-- `interface_tester_shared_st` with its list of interfaces. -/
structure Program where
  ctx : InterfaceTesterShared
  interfaces : VersionedList String Interface
  freed : List Interface
  log : List LogEntry

/-- `config_init`: nothing is tracked. -/
def configInit (ctx : InterfaceTesterShared) : Program where
  ctx := ctx
  interfaces := .empty
  freed := []
  log := []

namespace Program

/-- The log gets what was seen of an interface after the given trace. -/
def record (program : Program) (before : List Observation) (iface : Interface) : Program :=
  { program with
    log := program.log ++ (iface.trace.drop before.length).map (.seen iface.name) }

/-- A tracked interface changes. -/
def change (program : Program) (iface t : Interface) : Program :=
  { program.record iface.trace t with interfaces := program.interfaces.set iface.name t }

/-- `interface_tester_free` on an interface that is not in the list any more, or
never was. -/
def free (program : Program) (iface : Interface) : Program :=
  let freed := interfaceTesterFree iface
  { program.record iface.trace freed with freed := program.freed ++ [freed] }

end Program

/-- What the system answers while an entry of a load is handled: the state that
`netifd` reports for a new interface, and the start of a process. -/
structure Answer where
  isConnected : Bool
  launch : Launch

/-! ## The callback of the list -/

/-- `config_add`. -/
def configAdd (program : Program) (iface : Interface) (answer : Answer) : Program :=
  program.change iface (interfaceTesterBegin iface answer.isConnected answer.launch)

/-- `config_remove`. -/
def configRemove (program : Program) (iface : Interface) : Program := program.free iface

/-- What `config_update` leaves in the new interface. Its configuration was moved
when it differs. -/
def configMoved (existing new : Interface) : Interface :=
  if configChanged existing.ctx.withMetricsAdjustment existing.config new.config then
    { new with config := .zeroed }
  else new

/-- `interface_update_cb`. The new interface of an update is not in the list, so it
is freed. -/
def interfaceUpdateCb (program : Program) (new old : Option Interface) (answer : Answer) :
    Program :=
  match new, old with
  | some new, some old =>
      (program.change old (configUpdate old new.config answer.launch)).free (configMoved old new)
  | some new, none => configAdd program new answer
  | none, some old => configRemove program old
  | none, none => program

/-! ## A configuration load -/

/-- `vlist_add` with `keep_old`: a node of the same name stays in place. -/
def vlistAdd (program : Program) (new : Interface) (answer : Answer) : Program :=
  interfaceUpdateCb { program with interfaces := program.interfaces.add new.name new } (some new)
    (program.interfaces.find new.name) answer

/-- `interface_update`. -/
def interfaceUpdate (program : Program) : Program :=
  { program with interfaces := program.interfaces.update }

/-- `vlist_delete`: the node is taken out before the callback is called. No process
is started there, so the answer does not matter. -/
def vlistDelete (program : Program) (node : VersionedNode String Interface) : Program :=
  interfaceUpdateCb { program with interfaces := program.interfaces.remove node.key } none
    (some node.value) ⟨false, .refused⟩

/-- `interface_flush_old`. -/
def interfaceFlushOld (program : Program) : Program :=
  program.interfaces.stale.foldl vlistDelete program

/-- `interface_handle_config` with its effect on the list. -/
def handleEntry (program : Program) (msg : BlobAttr) (answer : Answer) : Program :=
  let handled := interfaceHandleConfig program.ctx msg
  match handled.added, handled.freed with
  | some iface, _ => vlistAdd (program.record [] iface) iface answer
  | none, some iface => { program.record [] iface with freed := program.freed ++ [iface] }
  | none, none => program

/-- `blobmsg_check_attr`, which may ask for a name. -/
def blobmsgCheckAttr (attr : BlobAttr) (name : Bool) : Bool :=
  attr.type.isSome && (!name || decide (attr.name ≠ ""))

/-- An entry of the table is handled only when it is a table with a name. -/
def isEntry (cur : BlobAttr) : Bool :=
  decide (cur.type = some BlobmsgType.table) && blobmsgCheckAttr cur true

/-- The loop of `config_load_config`. It stops at the first attribute that is no
entry. -/
def loadEntries : List BlobAttr → (ℕ → Answer) → Program → Bool × Program
  | [], _, program => (true, program)
  | cur :: rest, answers, program =>
      if isEntry cur then
        loadEntries rest (fun k => answers (k + 1)) (handleEntry program cur (answers 0))
      else (false, program)

/-- `interface_tester_config_policy`. -/
def interfaceTesterConfigPolicy : Unit → BlobmsgPolicy := fun _ =>
  { name := "interfaces", type := .table }

/-- The table that `config_load_config` looks for. -/
def interfacesTable (config : List BlobAttr) : Option BlobAttr :=
  (blobmsgParse interfaceTesterConfigPolicy config).2 ()

/-- `config_load_config`, with one answer of the system for each entry. -/
def configLoadConfig (program : Program) (config : List BlobAttr) (answers : ℕ → Answer) :
    Bool × Program :=
  let loaded :=
    match interfacesTable config with
    | none => (false, program)
    | some interfaces =>
        if interfaces.type ≠ some BlobmsgType.table then (false, program)
        else loadEntries interfaces.data answers (interfaceUpdate program)
  (loaded.1, interfaceFlushOld loaded.2)

/-- `interface_testers_free`. -/
def interfaceTestersFree (program : Program) : Program :=
  interfaceFlushOld (interfaceUpdate program)

/-! ## The main loop -/

/-- The child that a callback reports as gone. -/
def exitedChild (iface : Interface) : Callback → Option Pid
  | .testProcExited _ => iface.tester.testProc.pending
  | .recoveryProcExited _ => iface.recovery.proc.pending
  | _ => none

/-- `uloop` reaps the child before it calls the callback. -/
def Program.reap (program : Program) (iface : Interface) (cb : Callback) : Program :=
  { program with
    log := program.log ++ (exitedChild iface cb).toList.map (LogEntry.exited iface.name) }

/-- What the main loop reacts to. -/
inductive ProgramEvent where
  /-- A callback for the tracked interface with this name. -/
  | callback (name : String) (cb : Callback) (launch : Launch)
  /-- A configuration, from `ubus` or from the file. -/
  | load (config : List BlobAttr) (answers : ℕ → Answer)
  /-- The program shuts down. -/
  | testersFree

/-- A callback for a tracked interface. An update of the configuration comes with a
load only. -/
def callbackStep (program : Program) (name : String) (cb : Callback) (launch : Launch) :
    Option Program :=
  match cb with
  | .configUpdate _ => none
  | _ =>
      (program.interfaces.find name).bind fun iface =>
        (step iface (cb, launch)).map fun t => (program.reap iface cb).change iface t

/-- One event of the main loop. -/
def programStep (program : Program) : ProgramEvent → Option Program
  | .callback name cb launch => callbackStep program name cb launch
  | .load config answers => some (configLoadConfig program config answers).2
  | .testersFree => some (interfaceTestersFree program)

end IfaceTester
