import IfaceTester.Configurator
import IfaceTester.Foundations.Heap
import Mathlib.Data.Finset.Card

/-!
# The buffers of the configurator

What the configurator allocates while it handles an event. It allocates for itself only, so
all of it should be freed again. `send_config_to_interface_tester` is left before
`blob_buf_free` when the file cannot be read or the tester cannot be found, and its buffer is
lost then; `config_load_from_file_check` of the tester frees its buffer either way. Nothing
else is lost.
-/

set_option autoImplicit false

namespace IfaceTester

namespace Memory

/-- `send_config_to_interface_tester`. Only a request that is sent is followed by
`blob_buf_free`. -/
def sendConfigToInterfaceTester (answer : ConfiguratorAnswer) : Allocating Unit := do
  let b ← malloc
  match answer.file with
  | none => pure ()
  | some _ => if answer.lookup ≠ ubusStatusOk then pure () else free (.block b)

/-- `asprintf`, which may get no memory for the text. -/
def asprintf (succeeds : Bool) : Allocating (Option ℕ) :=
  if succeeds then do
    let text ← malloc
    return some text
  else return none

/-- `run_event_processor`. Both copies of the path are taken to be made. Without a text for
`full_exe_name` nothing is started, and null is freed for it. -/
def runEventProcessor (launch : Launch) : Allocating Unit := do
  let tempExename ← malloc
  let tempDirname ← malloc
  let fullExeName ← asprintf launch.asprintf
  free (.ofBlock fullExeName)
  free (.block tempExename)
  free (.block tempDirname)

/-- `interface_event_handler_cb`. -/
def interfaceEventHandlerCb (configurator : Configurator) (event : BusEvent)
    (answer : ConfiguratorAnswer) : Allocating Unit :=
  if event.type = sInterfaceTester then
    match ((blobmsgParse interfaceEventPolicy event.msg).2 ()).map BlobAttr.getString with
    | none => pure ()
    | some state =>
        if state = "up" ∧ configurator.configPath.isSome then sendConfigToInterfaceTester answer
        else pure ()
  else if event.type = operationalEventType then
    match operationalEventOf event.msg with
    | none => pure ()
    | some _ =>
        match configurator.eventProcessorPath with
        | none => pure ()
        | some _ => runEventProcessor answer.launch
  else pure ()

/-- The configurator handles one event after the other. -/
def handleEvents (configurator : Configurator) :
    List (BusEvent × ConfiguratorAnswer) → Allocating Configurator
  | [] => pure configurator
  | (event, answer) :: later => do
      interfaceEventHandlerCb configurator event answer
      handleEvents (configurator.interfaceEventHandlerCb event answer) later

end Memory

/-- The tester says that it is up, and the configurator has a path to a configuration. -/
def Configurator.asks (configurator : Configurator) (event : BusEvent) : Bool :=
  event.saysUp && configurator.configPath.isSome

/-- There is something to send, and somebody to send it to. -/
def ConfiguratorAnswer.sends (answer : ConfiguratorAnswer) : Bool :=
  answer.file.isSome && decide (answer.lookup = ubusStatusOk)

namespace Memory

section Events

theorem exchanges_asprintf (succeeds : Bool) :
    Exchanges (asprintf succeeds) 0 (fun text => (Pointer.ofBlock text).owned) 0 := by
  have returned := fun text => exchanges_pure text fun text => (Pointer.ofBlock text).owned
  unfold asprintf
  split
  · exact exchanges_malloc.bind fun text => returned (some text)
  · exact returned none

/-- Whether the text was allocated or not, all is freed. -/
theorem exchanges_runEventProcessor (launch : Launch) :
    Exchanges (runEventProcessor launch) 0 (fun _ => 0) 0 := by
  refine exchanges_malloc.bind fun tempExename => exchanges_malloc.gain fun tempDirname =>
    (exchanges_asprintf launch.asprintf).gain fun fullExeName => ?_
  have freed := (exchanges_free (.ofBlock fullExeName)).giveUp fun _ =>
    (exchanges_free (.block tempExename)).giveUp fun _ => exchanges_free (.block tempDirname)
  refine freed.recount ?_ (fun _ => rfl) ?_
  · rw [add_comm (Pointer.block tempExename).owned]
    rfl
  · rw [Pointer.misuses_ofBlock]
    rfl

theorem loses_sendConfigToInterfaceTester (answer : ConfiguratorAnswer) :
    Loses (sendConfigToInterfaceTester answer) 0 (!answer.sends).toNat := by
  refine exchanges_malloc.bind_loses fun b => ?_
  unfold ConfiguratorAnswer.sends
  cases answer.file with
  | none => exact loses_pure () {b}
  | some config =>
      by_cases found : answer.lookup = ubusStatusOk
      · simp only [found, ne_eq, not_true_eq_false, if_false]
        exact (exchanges_free (.block b)).loses
      · simp only [found, ne_eq, not_false_eq_true, if_true]
        exact loses_pure () {b}

/-- **An event costs a block when it asks for a configuration that is not sent**, and no
other does. -/
theorem loses_interfaceEventHandlerCb (configurator : Configurator) (event : BusEvent)
    (answer : ConfiguratorAnswer) :
    Loses (interfaceEventHandlerCb configurator event answer) 0
      (configurator.asks event && !answer.sends).toNat := by
  have nothing : Loses (pure () : Allocating Unit) 0 0 := loses_pure () 0
  unfold interfaceEventHandlerCb Configurator.asks BusEvent.saysUp
  split
  case isTrue tester =>
    cases state : ((blobmsgParse interfaceEventPolicy event.msg).2 ()).map BlobAttr.getString with
    | none => simpa using nothing
    | some word =>
        dsimp only
        split
        case isTrue up => simpa [tester, up] using loses_sendConfigToInterfaceTester answer
        case isFalse other =>
          have refused : (decide (word = "up") && configurator.configPath.isSome) = false := by
            simpa using other
          simpa [tester, refused] using nothing
  case isFalse tester =>
    simp only [tester, decide_false, Bool.false_and, Bool.toNat_false]
    split
    · cases operationalEventOf event.msg with
      | none => exact nothing
      | some told =>
          cases configurator.eventProcessorPath with
          | none => exact nothing
          | some path => exact (exchanges_runEventProcessor answer.launch).loses
    · exact nothing

theorem asks_interfaceEventHandlerCb (configurator : Configurator) (event : BusEvent)
    (answer : ConfiguratorAnswer) :
    (configurator.interfaceEventHandlerCb event answer).asks = configurator.asks := by
  rw [Configurator.interfaceEventHandlerCb_eq]
  rfl

theorem requests_interfaceEventHandlerCb (configurator : Configurator) (event : BusEvent)
    (answer : ConfiguratorAnswer) :
    (configurator.interfaceEventHandlerCb event answer).requests.length =
      configurator.requests.length + (configurator.asks event && answer.sends).toNat := by
  rw [Configurator.interfaceEventHandlerCb_eq, List.length_append]
  unfold Configurator.asks ConfiguratorAnswer.sends
  cases answer.file <;> cases event.saysUp <;> cases configurator.configPath.isSome <;>
    by_cases found : answer.lookup = ubusStatusOk <;> simp [found]

theorem loses_handleEvents (configurator : Configurator)
    (handled : List (BusEvent × ConfiguratorAnswer)) :
    Loses (handleEvents configurator handled) 0
      (handled.countP fun one => configurator.asks one.1 && !one.2.sends) := by
  induction handled generalizing configurator with
  | nil => exact loses_pure configurator 0
  | cons one later ih =>
      have rest := ih (configurator.interfaceEventHandlerCb one.1 one.2)
      rw [asks_interfaceEventHandlerCb] at rest
      have both := (loses_interfaceEventHandlerCb configurator one.1 one.2).seq fun _ => rest
      rw [List.countP_cons, add_comm]
      cases lost : configurator.asks one.1 && !one.2.sends <;> rw [lost] at both <;>
        exact both

theorem returns_handleEvents (configurator : Configurator)
    (handled : List (BusEvent × ConfiguratorAnswer)) :
    Returns (handleEvents configurator handled) fun after => after.requests.length =
      configurator.requests.length +
        handled.countP fun one => configurator.asks one.1 && one.2.sends := by
  induction handled generalizing configurator with
  | nil => exact returns_pure rfl
  | cons one later ih =>
      have rest := ih (configurator.interfaceEventHandlerCb one.1 one.2)
      rw [asks_interfaceEventHandlerCb, requests_interfaceEventHandlerCb] at rest
      refine (returns_true _).bind fun _ _ heap => (rest heap).trans ?_
      rw [List.countP_cons, Nat.add_assoc, Nat.add_comm (Bool.toNat _)]
      cases configurator.asks one.1 && one.2.sends <;> rfl

end Events

/-- **The buffer of a configuration that is not sent is lost.** Whatever events the
configurator handles and whatever the system answers, it has lost one block for each time
the tester said that it is up and was not sent its configuration, and no other. It never
misuses memory, also where `asprintf` gets none. So each time costs a request or a block. -/
theorem unsent_configuration_is_lost (configPath eventProcessorPath : Option String)
    (handled : List (BusEvent × ConfiguratorAnswer)) :
    let configurator := Configurator.contextInit configPath eventProcessorPath
    let after := (handleEvents configurator handled).run Heap.empty
    after.2.misused = 0 ∧
      after.2.live.card =
        (handled.countP fun one => configurator.asks one.1 && !one.2.sends) ∧
      after.1.requests.length + after.2.live.card =
        handled.countP fun one => configurator.asks one.1 := by
  intro configurator after
  obtain ⟨lost, card, live, misused⟩ :=
    loses_handleEvents configurator handled Heap.empty 0 rfl
  have requests : after.1.requests.length =
      handled.countP fun one => configurator.asks one.1 && one.2.sends :=
    (returns_handleEvents configurator handled Heap.empty).trans (Nat.zero_add _)
  have unsent : after.2.live.card =
      handled.countP fun one => configurator.asks one.1 && !one.2.sends := by
    rw [Finset.card_def, live, add_zero, card]
  refine ⟨misused, unsent, ?_⟩
  have counted := List.length_eq_countP_add_countP
    (l := handled.filter fun one => configurator.asks one.1) fun one => one.2.sends
  rw [List.countP_filter, List.countP_filter, ← List.countP_eq_length_filter] at counted
  rw [requests, unsent, counted]
  simp only [Bool.and_comm, Bool.not_eq_true, Bool.decide_eq_false]

end Memory

end IfaceTester
