import IfaceTester.Messages
import IfaceTester.Foundations.Paths

/-!
# The configurator

`src/configurator`: the other process of the repository. It listens to what the tester
sends. When the tester comes up it is given its configuration, and when the tester reports
an interface an event processor is started for it.
-/

set_option autoImplicit false

namespace IfaceTester

/-! ## `event_processor.c` -/

/-- The command of an event processor. Its environment is empty. -/
structure ProcessorExec where
  path : String
  interfaceName : String
  state : String
  workingDir : String
deriving DecidableEq

/-- One call of `run_event_processor`, and what the system answered. -/
structure ProcessorRun where
  exec : ProcessorExec
  launch : Launch
deriving DecidableEq

/-- The last argument of an event processor. -/
def stateWord (isOperational : Bool) : String := if isOperational then "operational" else "broken"

/-- The arguments that `run_event_processor` sets up, and the directory it starts in. -/
def processorExec (eventProcessor interfaceName : String) (isOperational : Bool) :
    ProcessorExec where
  path := "./" ++ String.ofList (Paths.basename eventProcessor.toList)
  interfaceName := interfaceName
  state := stateWord isOperational
  workingDir := String.ofList (Paths.dirname eventProcessor.toList)

/-- `run_event_processor`. -/
def runEventProcessor (eventProcessor interfaceName : String) (isOperational : Bool)
    (launch : Launch) : ProcessorRun :=
  ⟨processorExec eventProcessor interfaceName isOperational, launch⟩

/-- The file that `execvpe` starts after the `chdir`. -/
def ProcessorExec.file (exec : ProcessorExec) : List Char :=
  exec.workingDir.toList ++ '/' :: exec.path.toList

/-- **The file that is started is the one at the configured path.** -/
theorem components_processorExec (eventProcessor interfaceName : String) (isOperational : Bool) :
    Paths.components (processorExec eventProcessor interfaceName isOperational).file =
        Paths.components eventProcessor.toList ∧
      Paths.isAbsolute (processorExec eventProcessor interfaceName isOperational).file =
        Paths.isAbsolute eventProcessor.toList := by
  obtain ⟨names, absolute⟩ := Paths.components_rejoined eventProcessor.toList
  have dir : Paths.dirname eventProcessor.toList ≠ [] := by
    unfold Paths.dirname
    split_ifs <;> simp_all
  have file : (processorExec eventProcessor interfaceName isOperational).file =
      Paths.dirname eventProcessor.toList ++ '/' ::
        (['.'] ++ '/' :: Paths.basename eventProcessor.toList) := by
    simp [ProcessorExec.file, processorExec]
  rw [Paths.components_append_slash] at names
  rw [Paths.isAbsolute_append dir] at absolute
  rw [file, Paths.components_append_slash, Paths.components_append_slash, Paths.components_dot,
    List.nil_append, Paths.isAbsolute_append dir]
  exact ⟨names, absolute⟩

/-! ## `ubus.c` -/

/-- `interface_event_policy`. -/
def interfaceEventPolicy : Unit → BlobmsgPolicy := fun _ => { name := "state", type := .string }

/-- `interface_operational_event_policy_t`. -/
inductive InterfaceOperationalEventPolicy where
  | isOperational
  | interface
deriving DecidableEq

/-- `interface_operational_event_policy`. -/
def interfaceOperationalEventPolicy : InterfaceOperationalEventPolicy → BlobmsgPolicy
  | .isOperational => { name := "is_operational", type := blobmsgTypeBool }
  | .interface => { name := "interface", type := .string }

/-- `configurator_st`, with the requests that it sent and the event processors that it
called. -/
structure Configurator where
  configPath : Option String
  eventProcessorPath : Option String
  interfaceEvents : Bool
  requests : List (List BlobAttr)
  runs : List ProcessorRun

/-- What the system answers while the configurator handles an event: what the configuration
file holds when it can be read, the status of the lookup, and the start of a process. -/
structure ConfiguratorAnswer where
  file : Option (List BlobAttr)
  lookup : Int
  launch : Launch

/-- What an operational event tells: the interface, and whether it is operational. -/
def operationalEventOf (msg : List BlobAttr) : Option (String × Bool) :=
  let tb := (blobmsgParse interfaceOperationalEventPolicy msg).2
  (tb .interface).map fun interfaceName =>
    (interfaceName.getString, (tb .isOperational).elim false BlobAttr.getBool)

namespace Configurator

/-- `context_init`. -/
def contextInit (configPath eventProcessorPath : Option String) : Configurator where
  configPath := configPath
  eventProcessorPath := eventProcessorPath
  interfaceEvents := false
  requests := []
  runs := []

/-- `ubus_connect_handler`, which calls `ubus_subscribe_to_tester_events`. -/
def ubusConnectHandler (configurator : Configurator) : Configurator :=
  { configurator with interfaceEvents := true }

/-- `send_config_to_interface_tester`. The status of the request is not acted on. -/
def sendConfigToInterfaceTester (configurator : Configurator) (answer : ConfiguratorAnswer) :
    Configurator :=
  match answer.file with
  | none => configurator
  | some config =>
      if answer.lookup ≠ ubusStatusOk then configurator
      else { configurator with requests := configurator.requests ++ [config] }

/-- `interface_event_handler_cb`. -/
def interfaceEventHandlerCb (configurator : Configurator) (event : BusEvent)
    (answer : ConfiguratorAnswer) : Configurator :=
  if event.type = sInterfaceTester then
    match ((blobmsgParse interfaceEventPolicy event.msg).2 ()).map BlobAttr.getString with
    | none => configurator
    | some state =>
        if state = "up" ∧ configurator.configPath.isSome then
          configurator.sendConfigToInterfaceTester answer
        else configurator
  else if event.type = operationalEventType then
    match operationalEventOf event.msg with
    | none => configurator
    | some (interfaceName, isOperational) =>
        match configurator.eventProcessorPath with
        | none => configurator
        | some path =>
            { configurator with
              runs := configurator.runs ++
                [runEventProcessor path interfaceName isOperational answer.launch] }
  else configurator

end Configurator

/-- `interface_tester_events` is a pattern: `ubusd` passes on every event with a type that
starts with what is before the star. -/
def BusEvent.isFromTester (event : BusEvent) : Bool :=
  decide (sInterfaceTester.toList <+: event.type.toList)

/-! ## What is told arrives -/

/-- The operational event that a message of the bus is, when it is one. -/
def BusEvent.operational? (event : BusEvent) : Option (String × Bool) :=
  if event.type = operationalEventType then operationalEventOf event.msg else none

/-- The message says that the tester is up. -/
def BusEvent.saysUp (event : BusEvent) : Bool :=
  decide (event.type = sInterfaceTester) &&
    decide (((blobmsgParse interfaceEventPolicy event.msg).2 ()).map BlobAttr.getString = some "up")

section Messages

variable {configurator : Configurator} {event : BusEvent} {answer : ConfiguratorAnswer}

/-- **The operational event of an interface tells its name and its state**, whatever the
name is. -/
theorem operational?_operationalMessage (interfaceName : String) (isOperational : Bool) :
    (operationalMessage interfaceName isOperational).operational? =
      some (interfaceName, isOperational) := by
  have typed : ∀ attr ∈ (operationalMessage interfaceName isOperational).msg,
      attr.type.isSome = true := by
    simp [operationalMessage, BlobAttr.type]
  have type : (operationalMessage interfaceName isOperational).type = operationalEventType := rfl
  have parsed := @blobmsgParse_of_typed _ interfaceOperationalEventPolicy
    (operationalMessage interfaceName isOperational).msg (List.cons_ne_nil _ _) typed
  unfold BusEvent.operational? operationalEventOf
  rw [if_pos type, parsed]
  cases isOperational <;>
    simp [operationalMessage, BlobmsgPolicy.selects, interfaceOperationalEventPolicy,
      BlobAttr.type, BlobAttr.name, BlobAttr.getString, BlobAttr.getBool, blobmsgTypeBool,
      u8OfBool]

theorem operational?_testRunMessage (interfaceName : String) (passed : Bool) :
    (testRunMessage interfaceName passed).operational? = none := by
  unfold BusEvent.operational?
  exact if_neg (by simp [testRunMessage, testRunEventType, operationalEventType])

/-- What the configurator does with an event, in one equation. An event asks for a request
or for an event processor, or for nothing. -/
theorem Configurator.interfaceEventHandlerCb_eq (configurator : Configurator) (event : BusEvent)
    (answer : ConfiguratorAnswer) :
    configurator.interfaceEventHandlerCb event answer =
      { configurator with
        requests := configurator.requests ++
          if event.saysUp ∧ configurator.configPath.isSome ∧ answer.lookup = ubusStatusOk then
            answer.file.toList else []
        runs := configurator.runs ++
          ((event.operational?.bind fun told => configurator.eventProcessorPath.map fun path =>
            runEventProcessor path told.1 told.2 answer.launch)).toList } := by
  have apart : sInterfaceTester ≠ operationalEventType := by decide
  obtain ⟨configPath, eventProcessorPath, interfaceEvents, requests, runs⟩ := configurator
  unfold interfaceEventHandlerCb BusEvent.saysUp BusEvent.operational?
  by_cases tester : event.type = sInterfaceTester
  · have other : event.type ≠ operationalEventType := fun same => apart (tester.symm.trans same)
    rw [if_pos tester, if_neg other]
    cases state : ((blobmsgParse interfaceEventPolicy event.msg).2 ()).map BlobAttr.getString with
    | none => simp
    | some word =>
        by_cases up : word = "up" ∧ configPath.isSome = true
        · unfold sendConfigToInterfaceTester
          cases answer.file <;> by_cases found : answer.lookup = ubusStatusOk <;>
            simp [up, found, tester]
        · have refused :
            ¬ (word = "up" ∧ configPath.isSome = true ∧ answer.lookup = ubusStatusOk) :=
            fun all => up ⟨all.1, all.2.1⟩
          simp [up, refused, tester]
  · rw [if_neg tester]
    by_cases operational : event.type = operationalEventType
    · rw [if_pos operational, if_pos operational]
      cases operationalEventOf event.msg with
      | none => simp [tester]
      | some told => cases eventProcessorPath <;> simp [tester]
    · simp [tester, operational]

end Messages

end IfaceTester
