import IfaceTester.Program
import IfaceTester.StateDump

/-!
# Messages on `ubus`

The messages of `ubus.c`: the events that the tester sends, the events that it has
subscribed to, and the query for the state that `netifd` has for an interface. An event
is a type and the attributes of its message. What the log says was sent for an interface
is turned into the event here.
-/

set_option autoImplicit false

namespace IfaceTester

/-- An event on `ubus`. -/
structure BusEvent where
  type : String
  msg : List BlobAttr
deriving DecidableEq

/-- `Sinterface_tester`. -/
def sInterfaceTester : String := "interface.tester"

/-- The type of the events about the recovery state. -/
def operationalEventType : String := "interface.tester.operational"

/-- The type of the events about completed test runs. -/
def testRunEventType : String := "interface.tester.test_run"

/-- `BLOBMSG_TYPE_BOOL`, which is the type of what `blobmsg_add_u8` adds. -/
def blobmsgTypeBool : BlobmsgType := .int8

/-- `blobmsg_get_bool`. -/
def BlobAttr.getBool : BlobAttr → Bool
  | .int8 _ value => decide (value ≠ 0)
  | _ => false

/-! ## What the tester sends -/

/-- `interface_tester_send_up_down_event`. -/
def interfaceTesterSendUpDownEvent (ctx : InterfaceTesterShared) (areUp : Bool) :
    List BusEvent :=
  if ctx.ubusSockFd < 0 then []
  else [⟨sInterfaceTester, [.string "state" (if areUp then "up" else "down")]⟩]

/-- The event of `ubus_send_interface_operational_event`. -/
def operationalMessage (interfaceName : String) (isOperational : Bool) : BusEvent :=
  ⟨operationalEventType,
    [.int8 "is_operational" (u8OfBool isOperational), .string "interface" interfaceName]⟩

/-- The event of `ubus_send_interface_test_run_event`. -/
def testRunMessage (interfaceName : String) (testRunPassed : Bool) : BusEvent :=
  ⟨testRunEventType,
    [.string "result" (if testRunPassed then "pass" else "fail"),
      .string "interface" interfaceName]⟩

/-- The event that was sent when the entry was logged. The observation is only made
while there is a socket to send on. -/
def LogEntry.busEvent? : LogEntry → Option BusEvent
  | .seen name (.operationalEvent isOperational) => some (operationalMessage name isOperational)
  | .seen name (.testRunEvent testRunPassed) => some (testRunMessage name testRunPassed)
  | _ => none

/-- The events that were sent while the entries were logged. -/
def sentEvents (log : List LogEntry) : List BusEvent := log.filterMap LogEntry.busEvent?

/-! ## What the tester is told -/

/-- `network_interface_event_policy_t`. -/
inductive NetworkInterfaceEventPolicy where
  | action
  | interface
deriving DecidableEq

/-- `network_interface_event_policy`. -/
def networkInterfaceEventPolicy : NetworkInterfaceEventPolicy → BlobmsgPolicy
  | .action => { name := "action", type := .string }
  | .interface => { name := "interface", type := .string }

/-- `interface_state_event_policy_t`. -/
inductive InterfaceStateEventPolicy where
  | state
  | interface
deriving DecidableEq

/-- `interface_state_event_policy`. -/
def interfaceStateEventPolicy : InterfaceStateEventPolicy → BlobmsgPolicy
  | .state => { name := "state", type := .string }
  | .interface => { name := "interface", type := .string }

/-- `interface_monitor_event_id`. -/
def interfaceMonitorEventId : String := "network.interface"

/-- `interface_state_event_id`. -/
def interfaceStateEventId : String := "interface.state"

/-! ## The state that `netifd` has -/

/-- `state_get_policy`. -/
def stateGetPolicy : Unit → BlobmsgPolicy := fun _ => { name := "up", type := blobmsgTypeBool }

/-- `get_interface_state_cb`: what it stores. -/
def getInterfaceStateCb (msg : List BlobAttr) : Bool :=
  match (blobmsgParse stateGetPolicy msg).2 () with
  | some up => up.getBool
  | none => false

/-- What the system answers to `interface_get_current_state`: whether `asprintf` got its
memory, the status of the lookup, and the messages that came while `ubus_invoke` was
waiting. -/
structure StatusQuery where
  asprintf : Bool
  lookup : Int
  replies : List (List BlobAttr)

/-- `interface_get_current_state`. The status of `ubus_invoke` plays no part, since the
callback has already stored what it was told. -/
def interfaceGetCurrentState (query : StatusQuery) : Bool :=
  if query.asprintf ∧ query.lookup = ubusStatusOk then
    query.replies.foldl (fun _ msg => getInterfaceStateCb msg) false
  else false

end IfaceTester
