import IfaceTester.AllStates
import IfaceTester.Messages

/-!
# The daemon

`main.c`, with the handlers of `ubus.c` and the file load of `config.c`. Around the
program stand the `ubus` objects: the main object, one for each tracked interface, and
the two subscriptions. The program only changes through a message, a request, a timer, a
child, or the shutdown, and `daemonStep` is one of these.

The functions of `config.c` that publish an object on the way, or take one back, are here
a second time with the objects. Their effect on the list is that of the first time
(`Daemon.program_configLoadConfig` in the next module).
-/

set_option autoImplicit false

namespace IfaceTester

/-! ## The objects of the interfaces -/

/-- `ubus_object.name` of an interface: null, the name that the template has, or a path
that `asprintf` allocated. -/
inductive ObjectName where
  | null
  | template
  | allocated (path : String)
deriving DecidableEq

/-- What the system answers when the object of an interface is published: whether
`asprintf` got its memory, and the status of `ubus_add_object`. -/
structure PublishAnswer where
  asprintf : Bool
  status : Int

/-- The names that the objects of the tracked interfaces have, the paths that are
published, and how often a constant was given to `free`. -/
structure ObjectTable where
  names : String → ObjectName
  published : List String
  constantsFreed : ℕ

namespace ObjectTable

/-- No interface has an object. -/
def empty : ObjectTable := ⟨fun _ => .null, [], 0⟩

/-- The object of an interface gets a name. -/
def rename (objects : ObjectTable) (interfaceName : String) (name : ObjectName) : ObjectTable :=
  { objects with names := fun other => if other = interfaceName then name else objects.names other }

end ObjectTable

/-- The path of the object of an interface. -/
def interfaceObjectPath (interfaceName : String) : String :=
  sInterfaceTester ++ ".interface." ++ interfaceName

/-- `ubus_add_interface_object`. Without memory for the path the object is left with the
name of the template. -/
def ubusAddInterfaceObject (objects : ObjectTable) (interfaceName : String)
    (answer : PublishAnswer) : Bool × ObjectTable :=
  let objects := objects.rename interfaceName .template
  if answer.asprintf then
    let path := interfaceObjectPath interfaceName
    if answer.status ≠ ubusStatusOk then (false, objects.rename interfaceName .null)
    else
      (true, { objects.rename interfaceName (.allocated path) with
        published := objects.published ++ [path] })
  else (false, objects)

/-- `ubus_remove_interface_object`. The name of the template is a constant. The status of
`ubus_remove_object` is not looked at, and `ubus` is taken to give the object up. -/
def ubusRemoveInterfaceObject (objects : ObjectTable) (interfaceName : String) : ObjectTable :=
  match objects.names interfaceName with
  | .null => objects
  | .template =>
      { objects.rename interfaceName .null with constantsFreed := objects.constantsFreed + 1 }
  | .allocated path =>
      { objects.rename interfaceName .null with published := objects.published.erase path }

/-! ## The state of the daemon -/

/-- `interface_tester_shared_st`, with what `ubus` knows about the process. -/
structure Daemon where
  program : Program
  configFile : Option String
  mainObject : Bool
  subscriptions : List String
  objects : ObjectTable
  sent : List BusEvent

/-- `context_init`. -/
def contextInit (ctx : InterfaceTesterShared) (configFile : Option String) : Daemon where
  program := configInit ctx
  configFile := configFile
  mainObject := false
  subscriptions := []
  objects := .empty
  sent := []

/-- What the system answers while an entry of a load is handled. -/
structure DaemonAnswer where
  publish : PublishAnswer
  query : StatusQuery
  launch : Launch

/-- The part of it that the program sees. -/
def DaemonAnswer.answer (answer : DaemonAnswer) : Answer where
  isConnected := interfaceGetCurrentState answer.query
  launch := answer.launch

namespace Daemon

/-- The program of the daemon changes, and the events that it sends go out. -/
def advance (daemon : Daemon) (program : Program) : Daemon :=
  { daemon with
    program := program
    sent := daemon.sent ++ sentEvents (program.log.drop daemon.program.log.length) }

/-- `config_add`. The result of `ubus_publish_interface_object` is not looked at. -/
def configAdd (daemon : Daemon) (iface : Interface) (answer : DaemonAnswer) : Daemon :=
  { daemon.advance (IfaceTester.configAdd daemon.program iface answer.answer) with
    objects := (ubusAddInterfaceObject daemon.objects iface.name answer.publish).2 }

/-- `config_remove`, with the `ubus_remove_interface_object` of `interface_tester_free`. -/
def configRemove (daemon : Daemon) (iface : Interface) : Daemon :=
  { daemon.advance (IfaceTester.configRemove daemon.program iface) with
    objects := ubusRemoveInterfaceObject daemon.objects iface.name }

/-- `interface_update_cb`. The object of the new interface of an update has a null name,
so its `interface_tester_free` takes no object back. -/
def interfaceUpdateCb (daemon : Daemon) (new old : Option Interface) (answer : DaemonAnswer) :
    Daemon :=
  match new, old with
  | some _, some _ =>
      daemon.advance (IfaceTester.interfaceUpdateCb daemon.program new old answer.answer)
  | some new, none => daemon.configAdd new answer
  | none, some old => daemon.configRemove old
  | none, none => daemon

/-- The list of interfaces changes. -/
def setInterfaces (daemon : Daemon) (interfaces : VersionedList String Interface) : Daemon :=
  { daemon with program := { daemon.program with interfaces := interfaces } }

/-- `vlist_add`. -/
def vlistAdd (daemon : Daemon) (new : Interface) (answer : DaemonAnswer) : Daemon :=
  (daemon.setInterfaces (daemon.program.interfaces.add new.name new)).interfaceUpdateCb (some new)
    (daemon.program.interfaces.find new.name) answer

/-- `vlist_delete`. No process is started there, and nothing is published. -/
def vlistDelete (daemon : Daemon) (node : VersionedNode String Interface) : Daemon :=
  (daemon.setInterfaces (daemon.program.interfaces.remove node.key)).interfaceUpdateCb none
    (some node.value) ⟨⟨false, 0⟩, ⟨false, 0, []⟩, .refused⟩

/-- `interface_flush_old`. -/
def interfaceFlushOld (daemon : Daemon) : Daemon :=
  daemon.program.interfaces.stale.foldl vlistDelete daemon

/-- `interface_handle_config`. An interface that is refused has no object yet. -/
def handleEntry (daemon : Daemon) (msg : BlobAttr) (answer : DaemonAnswer) : Daemon :=
  let handled := interfaceHandleConfig daemon.program.ctx msg
  match handled.added with
  | some iface => (daemon.advance (daemon.program.record [] iface)).vlistAdd iface answer
  | none => daemon.advance (IfaceTester.handleEntry daemon.program msg answer.answer)

/-- The loop of `config_load_config`. -/
def loadEntries : List BlobAttr → (ℕ → DaemonAnswer) → Daemon → Bool × Daemon
  | [], _, daemon => (true, daemon)
  | cur :: rest, answers, daemon =>
      if isEntry cur then
        loadEntries rest (fun k => answers (k + 1)) (daemon.handleEntry cur (answers 0))
      else (false, daemon)

/-- `interface_update`. -/
def interfaceUpdate (daemon : Daemon) : Daemon :=
  { daemon with program := IfaceTester.interfaceUpdate daemon.program }

/-- `config_load_config`. -/
def configLoadConfig (daemon : Daemon) (config : List BlobAttr) (answers : ℕ → DaemonAnswer) :
    Bool × Daemon :=
  let loaded :=
    match interfacesTable config with
    | none => (false, daemon)
    | some interfaces =>
        if interfaces.type ≠ some BlobmsgType.table then (false, daemon)
        else loadEntries interfaces.data answers daemon.interfaceUpdate
  (loaded.1, loaded.2.interfaceFlushOld)

/-- `config_load_from_file_check`, with what the file holds when it can be read and
parsed. -/
def configLoadFromFileCheck (daemon : Daemon) (file : Option (List BlobAttr))
    (answers : ℕ → DaemonAnswer) : Daemon :=
  match daemon.configFile with
  | none => daemon
  | some _ =>
      match file with
      | none => daemon
      | some config => (daemon.configLoadConfig config answers).2

/-- `interface_testers_free`. -/
def interfaceTestersFree (daemon : Daemon) : Daemon := daemon.interfaceUpdate.interfaceFlushOld

/-- `interface_tester_lookup_by_name`. -/
def interfaceTesterLookupByName (daemon : Daemon) (interfaceName : String) : Option Interface :=
  daemon.program.interfaces.find interfaceName

/-! ## Events that come in -/

/-- What the two event handlers do with the two strings of their policies. Either may be
missing. -/
def handleInterfaceEvent (daemon : Daemon) (word interfaceName : Option String)
    (wanted : String) (react : Interface → Interface) : Daemon :=
  match word, interfaceName with
  | some word, some interfaceName =>
      if word ≠ wanted then daemon
      else
        match daemon.interfaceTesterLookupByName interfaceName with
        | none => daemon
        | some iface => daemon.advance (daemon.program.change iface (react iface))
  | _, _ => daemon

/-- `network_interface_event_handler_cb`. -/
def networkInterfaceEventHandlerCb (daemon : Daemon) (msg : List BlobAttr) (launch : Launch) :
    Daemon :=
  let tb := (blobmsgParse networkInterfaceEventPolicy msg).2
  daemon.handleInterfaceEvent ((tb .action).map BlobAttr.getString)
    ((tb .interface).map BlobAttr.getString) "ifdown"
    fun iface => interfaceConnectionDisconnected iface launch

/-- `interface_state_event_handler_cb`. -/
def interfaceStateEventHandlerCb (daemon : Daemon) (msg : List BlobAttr) : Daemon :=
  let tb := (blobmsgParse interfaceStateEventPolicy msg).2
  daemon.handleInterfaceEvent ((tb .state).map BlobAttr.getString)
    ((tb .interface).map BlobAttr.getString) "ifup" interfaceConnectionConnected

/-- `ubusd` delivers the events that the process has subscribed to. -/
def deliver (daemon : Daemon) (event : BusEvent) (launch : Launch) : Daemon :=
  if event.type ∈ daemon.subscriptions then
    if event.type = interfaceMonitorEventId then
      daemon.networkInterfaceEventHandlerCb event.msg launch
    else if event.type = interfaceStateEventId then daemon.interfaceStateEventHandlerCb event.msg
    else daemon
  else daemon

end Daemon

/-! ## Requests -/

/-- `UBUS_STATUS_INVALID_ARGUMENT`. -/
def ubusStatusInvalidArgument : Int := 2

/-- `UBUS_STATUS_METHOD_NOT_FOUND`. -/
def ubusStatusMethodNotFound : Int := 3

/-- `UBUS_STATUS_NOT_FOUND`. -/
def ubusStatusNotFound : Int := 4

/-- The status of a request, and the reply that was sent before it. -/
structure Reply where
  status : Int
  data : Option (List BlobAttr)

/-- What the system answers while a message or a request is handled. -/
structure Surroundings where
  launch : Launch
  file : Option (List BlobAttr)
  answers : ℕ → DaemonAnswer
  remaining : String → TimerName → UInt64

namespace Daemon

/-- `interface_tester_handle_config`. -/
def interfaceTesterHandleConfig (daemon : Daemon) (msg : List BlobAttr)
    (answers : ℕ → DaemonAnswer) : Daemon × Reply :=
  let loaded := daemon.configLoadConfig msg answers
  (loaded.2, ⟨if loaded.1 then ubusStatusOk else ubusStatusInvalidArgument, none⟩)

/-- `iface_handle_all_states`. -/
def ifaceHandleAllStates (daemon : Daemon) (remaining : String → TimerName → UInt64) :
    Daemon × Reply :=
  (daemon, ⟨ubusStatusOk, some (interfaceStatesDump daemon.program remaining)⟩)

/-- `iface_handle_config_reload`. -/
def ifaceHandleConfigReload (daemon : Daemon) (around : Surroundings) : Daemon × Reply :=
  (daemon.configLoadFromFileCheck around.file around.answers, ⟨ubusStatusOk, none⟩)

/-- `iface_handle_state`. -/
def ifaceHandleState (daemon : Daemon) (iface : Interface)
    (remaining : String → TimerName → UInt64) : Daemon × Reply :=
  (daemon, ⟨ubusStatusOk, some (interfaceStateDump (remaining iface.name) iface)⟩)

/-- `iface_handle_test`. -/
def ifaceHandleTest (daemon : Daemon) (iface : Interface) (launch : Launch) : Daemon × Reply :=
  (daemon.advance
    (daemon.program.change iface (interfaceTesterSendEvent iface .testRunRequested launch)),
    ⟨ubusStatusOk, none⟩)

/-- The interface around an object with the path. -/
def owner (daemon : Daemon) (path : String) : Option Interface :=
  (daemon.program.interfaces.nodes.find? fun node =>
    decide (daemon.objects.names node.key = .allocated path)).map VersionedNode.value

/-- A request for one of the `iface_tester_object_methods`. -/
def mainRequest (daemon : Daemon) (method : String) (msg : List BlobAttr)
    (around : Surroundings) : Daemon × Reply :=
  if method = "config" then daemon.interfaceTesterHandleConfig msg around.answers
  else if method = "state" then daemon.ifaceHandleAllStates around.remaining
  else if method = "config_reload" then daemon.ifaceHandleConfigReload around
  else (daemon, ⟨ubusStatusMethodNotFound, none⟩)

/-- A request for one of the `iface_object_methods`. -/
def interfaceRequest (daemon : Daemon) (iface : Interface) (method : String)
    (around : Surroundings) : Daemon × Reply :=
  if method = "state" then daemon.ifaceHandleState iface around.remaining
  else if method = "start_test_run" then daemon.ifaceHandleTest iface around.launch
  else (daemon, ⟨ubusStatusMethodNotFound, none⟩)

/-- `ubusd` passes a request on to the object with the path. -/
def request (daemon : Daemon) (path method : String) (msg : List BlobAttr)
    (around : Surroundings) : Daemon × Reply :=
  if path = sInterfaceTester ∧ daemon.mainObject = true then daemon.mainRequest method msg around
  else if path ∈ daemon.objects.published then
    match daemon.owner path with
    | some iface => daemon.interfaceRequest iface method around
    | none => (daemon, ⟨ubusStatusNotFound, none⟩)
  else (daemon, ⟨ubusStatusNotFound, none⟩)

/-! ## The main loop -/

/-- Events go out that the program does not know about. -/
def send (daemon : Daemon) (events : List BusEvent) : Daemon :=
  { daemon with sent := daemon.sent ++ events }

/-- `publish_objects`, when `ubus_add_object` gives the status for the main object. -/
def publishObjects (daemon : Daemon) (status : Int) : Bool × Daemon :=
  if status = ubusStatusOk then
    (true, { daemon with
      mainObject := true
      subscriptions := daemon.subscriptions ++ [interfaceMonitorEventId, interfaceStateEventId] })
  else (false, daemon)

/-- `ubus_connect_handler`. The result of `publish_objects` is not looked at. -/
def ubusConnectHandler (daemon : Daemon) (status : Int) (around : Surroundings) : Daemon :=
  let daemon := (daemon.publishObjects status).2
  let daemon := daemon.configLoadFromFileCheck around.file around.answers
  daemon.send (interfaceTesterSendUpDownEvent daemon.program.ctx true)

/-- `context_shutdown`. -/
def contextShutdown (daemon : Daemon) : Daemon :=
  (daemon.send (interfaceTesterSendUpDownEvent daemon.program.ctx false)).interfaceTestersFree

end Daemon

/-- What the main loop of the daemon reacts to. -/
inductive DaemonEvent where
  /-- The connection to `ubus` is there. -/
  | connected (status : Int) (around : Surroundings)
  /-- An event was sent on `ubus`. -/
  | event (event : BusEvent) (launch : Launch)
  /-- A request was sent to a path. -/
  | request (path method : String) (msg : List BlobAttr) (around : Surroundings)
  /-- A timer of the interface with this name expired, or a child of it exited. -/
  | wakeUp (name : String) (cb : Callback) (launch : Launch)
  /-- `uloop_run` has returned. -/
  | shutdown

/-- The callback is the expiry of a timer or the exit of a child. -/
def Callback.isWakeUp : Callback → Bool
  | .settlingDelayTimerExpired | .testIntervalTimerExpired | .testResponseTimerExpired
  | .recoveryTaskTimerExpired | .testProcExited _ | .recoveryProcExited _ => true
  | _ => false

/-- One event of the main loop. -/
def daemonStep (daemon : Daemon) : DaemonEvent → Option Daemon
  | .connected status around => some (daemon.ubusConnectHandler status around)
  | .event event launch => some (daemon.deliver event launch)
  | .request path method msg around => some (daemon.request path method msg around).1
  | .wakeUp name cb launch =>
      if cb.isWakeUp then (callbackStep daemon.program name cb launch).map daemon.advance else none
  | .shutdown => some daemon.contextShutdown

end IfaceTester
