import IfaceTester.Bus
import IfaceTester.Foundations.LongRuns
import Mathlib.Data.Prod.Lex

/-!
# The tester and the configurator

The two processes of the repository, with `ubus` between them. The events of the tester are
on the way to the configurator for a while, and so are the requests of the configurator to
the tester, both in order. The processes take their steps in any order.

An event processor is called once for every operational event since the configurator
listens, in the order in which they were sent, and never for anything else. When nothing is
on the way, the last call about an interface tells its recovery state. And the two processes
do not keep each other busy: a connection of the tester leads to at most one load, and
deliveries alone come to an end.
-/

set_option autoImplicit false

namespace IfaceTester

open Runs Relation Announcements

/-- Both processes, the events on the way to the configurator, and the requests on the way
to the tester. -/
structure System where
  daemon : Daemon
  configurator : Configurator
  inbox : List BusEvent
  requests : List (List BlobAttr)

/-- Neither process has a connection yet. -/
def systemInit (ctx : InterfaceTesterShared) (configFile configPath eventProcessorPath :
    Option String) : System where
  daemon := contextInit ctx configFile
  configurator := .contextInit configPath eventProcessorPath
  inbox := []
  requests := []

/-- What happens to one of the processes. -/
inductive SystemEvent where
  /-- An event of the main loop of the tester. -/
  | tester (event : DaemonEvent)
  /-- The connection of the configurator is there. -/
  | subscribed
  /-- The configurator handles the event that is next. -/
  | notified (answer : ConfiguratorAnswer)
  /-- The tester handles the request that is next. -/
  | configured (around : Surroundings)

namespace System

/-- The tester has moved on. `ubusd` passes what it sent to a configurator that listens. -/
def advance (system : System) (daemon : Daemon) : System :=
  { system with
    daemon := daemon
    inbox := system.inbox ++
      if system.configurator.interfaceEvents then
        (daemon.sent.drop system.daemon.sent.length).filter BusEvent.isFromTester
      else [] }

@[simp] theorem advance_daemon (system : System) : system.advance system.daemon = system := by
  simp [advance]

end System

/-- One step of either process. -/
def systemStep (system : System) : SystemEvent → Option System
  | .tester event => (daemonStep system.daemon event).map system.advance
  | .subscribed =>
      if system.configurator.interfaceEvents then none
      else some { system with configurator := system.configurator.ubusConnectHandler }
  | .notified answer =>
      match system.inbox with
      | [] => none
      | event :: inbox =>
          let configurator := system.configurator.interfaceEventHandlerCb event answer
          some { system with
            configurator := configurator
            inbox := inbox
            requests := system.requests ++
              configurator.requests.drop system.configurator.requests.length }
  | .configured around =>
      match system.requests with
      | [] => none
      | config :: requests =>
          (daemonStep system.daemon (.request sInterfaceTester "config" config around)).map
            fun daemon => { system.advance daemon with requests := requests }

/-! ## The tester inside -/

section Tester

variable {daemon d : Daemon} {system t : System} {ctx : InterfaceTesterShared}
variable {configFile configPath eventProcessorPath : Option String}

/-- What was sent stays sent. -/
theorem DaemonMove.sent (move : DaemonMove daemon d) : daemon.sent <+: d.sent := by
  cases move with
  | worked work => cases work <;> exact List.prefix_append _ _
  | announced areUp => exact List.prefix_append _ _
  | opened => exact List.prefix_refl _

theorem DaemonMoves.sent (moves : DaemonMoves daemon d) : daemon.sent <+: d.sent := by
  induction moves with
  | refl => exact List.prefix_refl _
  | tail _ move ih => exact ih.trans move.sent

theorem Outcome.sent {event : DaemonEvent} (outcome : Outcome daemon event d) :
    daemon.sent <+: d.sent := outcome.moves.sent

/-- The tester takes a step of its own, and the configurator none. -/
structure TesterStep (system t : System) (event : DaemonEvent) : Prop where
  taken : daemonStep system.daemon event = some t.daemon
  inbox : t.inbox = (system.advance t.daemon).inbox
  configurator : t.configurator = system.configurator

/-- What a step of the system is. -/
inductive SystemMove (system : System) : SystemEvent → System → Prop
  | tester {event : DaemonEvent} {t : System} (step : TesterStep system t event)
      (requests : t.requests = system.requests) : SystemMove system (.tester event) t
  | subscribed (unheard : system.configurator.interfaceEvents = false) :
      SystemMove system .subscribed
        { system with configurator := system.configurator.ubusConnectHandler }
  | notified {event : BusEvent} {inbox : List BusEvent} (answer : ConfiguratorAnswer)
      (next : system.inbox = event :: inbox) :
      SystemMove system (.notified answer)
        { system with
          configurator := system.configurator.interfaceEventHandlerCb event answer
          inbox := inbox
          requests := system.requests ++
            (system.configurator.interfaceEventHandlerCb event answer).requests.drop
              system.configurator.requests.length }
  | configured {config : List BlobAttr} {t : System} (around : Surroundings)
      (step : TesterStep system t (.request sInterfaceTester "config" config around))
      (next : system.requests = config :: t.requests) :
      SystemMove system (.configured around) t

/-- **Every step of the system is one of these.** -/
theorem systemStep_move {event : SystemEvent} (taken : systemStep system event = some t) :
    SystemMove system event t := by
  cases event with
  | tester event =>
      obtain ⟨daemon, stepped, rfl⟩ := Option.map_eq_some_iff.mp taken
      exact .tester ⟨stepped, rfl, rfl⟩ rfl
  | subscribed =>
      simp only [systemStep] at taken
      split at taken
      · cases taken
      case isFalse unheard =>
        cases taken
        exact .subscribed (by simpa using unheard)
  | notified answer =>
      simp only [systemStep] at taken
      split at taken
      · cases taken
      case h_2 event inbox next =>
        cases taken
        exact .notified answer next
  | configured around =>
      simp only [systemStep] at taken
      split at taken
      · cases taken
      case h_2 config requests next =>
        obtain ⟨daemon, stepped, rfl⟩ := Option.map_eq_some_iff.mp taken
        exact .configured around ⟨stepped, rfl, rfl⟩ next

/-- A step of the system is at most one step of the tester. -/
theorem SystemMove.tester_step {event : SystemEvent} (move : SystemMove system event t) :
    t.daemon = system.daemon ∨ ∃ event, daemonStep system.daemon event = some t.daemon := by
  cases move with
  | tester step => exact .inr ⟨_, step.taken⟩
  | subscribed unheard => exact .inl rfl
  | notified answer next => exact .inl rfl
  | configured around step next => exact .inr ⟨_, step.taken⟩

/-- **In the system the tester is in a state that it comes to by itself.** -/
theorem daemon_of_run {events : List SystemEvent}
    (reached : run systemStep (systemInit ctx configFile configPath eventProcessorPath) events =
      some system) :
    ∃ asked, run daemonStep (contextInit ctx configFile) asked = some system.daemon := by
  refine run_invariant (I := fun system : System =>
    ∃ asked, run daemonStep (contextInit ctx configFile) asked = some system.daemon) ?_
    ⟨[], rfl⟩ reached
  rintro system event t ⟨asked, ran⟩ taken
  rcases (systemStep_move taken).tester_step with same | ⟨event, stepped⟩
  · exact ⟨asked, same ▸ ran⟩
  · exact ⟨asked ++ [event], run_concat ran stepped⟩

end Tester

/-! ## Event processors -/

/-- The interface and the state that an event processor is called with. -/
def ProcessorRun.arguments (call : ProcessorRun) : String × String :=
  (call.exec.interfaceName, call.exec.state)

/-- The calls that some events ask for. -/
def askedCalls (events : List BusEvent) : List (String × String) :=
  (events.filterMap BusEvent.operational?).map fun told => (told.1, stateWord told.2)

section Calls

variable {system t : System} {missed : List BusEvent} {path : String}

theorem askedCalls_append (events later : List BusEvent) :
    askedCalls (events ++ later) = askedCalls events ++ askedCalls later := by
  unfold askedCalls
  rw [List.filterMap_append, List.map_append]

/-- `ubusd` holds back nothing that asks for a call. -/
theorem askedCalls_isFromTester (events : List BusEvent) :
    askedCalls (events.filter BusEvent.isFromTester) = askedCalls events := by
  have kept : ∀ event : BusEvent, event.isFromTester = false → event.operational? = none := by
    intro event other
    unfold BusEvent.operational?
    refine if_neg fun type => ?_
    have tester : event.isFromTester = true := by
      unfold BusEvent.isFromTester
      rw [type]
      decide
    rw [tester] at other
    cases other
  unfold askedCalls
  congr 1
  induction events with
  | nil => rfl
  | cons event events ih =>
      cases from? : event.isFromTester with
      | true => rw [List.filter_cons_of_pos from?, List.filterMap_cons, List.filterMap_cons, ih]
      | false =>
          rw [List.filter_cons_of_neg (by simp [from?]), List.filterMap_cons, kept event from?, ih]

/-- The calls that were made and those that are on the way are those that were asked for
since the configurator listens. -/
structure Delivered (missed : List BusEvent) (path : String) (system : System) : Prop where
  listens : system.configurator.interfaceEvents = true
  processor : system.configurator.eventProcessorPath = some path
  sent : missed <+: system.daemon.sent
  calls : system.configurator.runs.map ProcessorRun.arguments ++ askedCalls system.inbox =
    askedCalls (system.daemon.sent.drop missed.length)
  files : ∀ call ∈ system.configurator.runs,
    Paths.components call.exec.file = Paths.components path.toList ∧
      Paths.isAbsolute call.exec.file = Paths.isAbsolute path.toList

theorem Delivered.of_testerStep (was : Delivered missed path system)
    (sound : Sound system.daemon.program) {event : DaemonEvent}
    (step : TesterStep system t event) : Delivered missed path t := by
  have grown := (daemonStep_outcome sound step.taken).sent
  obtain ⟨more, split⟩ := grown
  have inbox : t.inbox = system.inbox ++ more.filter BusEvent.isFromTester := by
    rw [step.inbox, System.advance, if_pos was.listens, ← split, List.drop_left]
  have length := was.sent.length_le
  refine ⟨step.configurator ▸ was.listens, step.configurator ▸ was.processor,
    was.sent.trans ⟨more, split⟩, ?_, step.configurator ▸ was.files⟩
  rw [step.configurator, inbox, askedCalls_append, askedCalls_isFromTester, ← List.append_assoc,
    was.calls, ← split, List.drop_append_of_le_length length, askedCalls_append]

/-- **Every step of the system keeps the calls complete and in order.** -/
theorem SystemMove.delivered {event : SystemEvent} (move : SystemMove system event t)
    (sound : Sound system.daemon.program) (was : Delivered missed path system) :
    Delivered missed path t := by
  cases move with
  | tester step => exact was.of_testerStep sound step
  | subscribed unheard =>
      rw [was.listens] at unheard
      cases unheard
  | configured around step => exact was.of_testerStep sound step
  | @notified event inbox answer next =>
      have handled := system.configurator.interfaceEventHandlerCb_eq event answer
      have runs := congrArg Configurator.runs handled
      have called : ((system.configurator.interfaceEventHandlerCb event answer).runs).map
          ProcessorRun.arguments =
            system.configurator.runs.map ProcessorRun.arguments ++ askedCalls [event] := by
        rw [runs, was.processor, List.map_append]
        cases told : event.operational? with
        | none => simp [askedCalls, told]
        | some told' => simp [askedCalls, told, ProcessorRun.arguments, runEventProcessor,
            processorExec]
      refine ⟨(congrArg Configurator.interfaceEvents handled).trans was.listens,
        (congrArg Configurator.eventProcessorPath handled).trans was.processor, was.sent, ?_,
        fun call member => ?_⟩
      · rw [← was.calls, next]
        refine (congrArg (· ++ askedCalls inbox) called).trans ?_
        rw [List.append_assoc, ← askedCalls_append]
        rfl
      · have member : call ∈ (system.configurator.interfaceEventHandlerCb event answer).runs :=
          member
        rw [runs, was.processor, List.mem_append] at member
        rcases member with earlier | new
        · exact was.files call earlier
        · cases told : event.operational? with
          | none => simp [told] at new
          | some told' =>
              obtain rfl : call = runEventProcessor path told'.1 told'.2 answer.launch := by
                simpa [told] using new
              exact components_processorExec path told'.1 told'.2

end Calls

/-! ## Runs of the system -/

section Runs

variable {ctx : InterfaceTesterShared} {system t : System}
variable {configFile configPath eventProcessorPath : Option String} {path : String}
variable {before after events : List SystemEvent}

theorem sound_of_systemRun
    (reached : run systemStep (systemInit ctx configFile configPath eventProcessorPath) events =
      some system) : Sound system.daemon.program := by
  obtain ⟨asked, ran⟩ := daemon_of_run reached
  exact (published_of_run ran).1

/-- Nothing has been called before the configurator listens. -/
theorem unheard_of_run
    (reached : run systemStep (systemInit ctx configFile configPath eventProcessorPath) events =
      some system) :
    system.configurator.eventProcessorPath = eventProcessorPath ∧
      (system.configurator.interfaceEvents = false →
        system.inbox = [] ∧ system.configurator.runs = []) := by
  refine run_invariant (I := fun system : System =>
    system.configurator.eventProcessorPath = eventProcessorPath ∧
      (system.configurator.interfaceEvents = false →
        system.inbox = [] ∧ system.configurator.runs = [])) ?_ ⟨rfl, fun _ => ⟨rfl, rfl⟩⟩ reached
  rintro system event t ⟨processor, quiet⟩ taken
  have kept : ∀ event, TesterStep system t event →
      t.configurator.eventProcessorPath = eventProcessorPath ∧
        (t.configurator.interfaceEvents = false → t.inbox = [] ∧ t.configurator.runs = []) := by
    intro event step
    rw [step.configurator]
    refine ⟨processor, fun unheard => ⟨?_, (quiet unheard).2⟩⟩
    rw [step.inbox, System.advance, unheard, (quiet unheard).1]
    rfl
  cases systemStep_move taken with
  | tester step => exact kept _ step
  | subscribed unheard => exact ⟨processor, fun deaf => by cases deaf⟩
  | configured around step => exact kept _ step
  | @notified event inbox answer next =>
      have handled := system.configurator.interfaceEventHandlerCb_eq event answer
      refine ⟨(congrArg Configurator.eventProcessorPath handled).trans processor, fun unheard => ?_⟩
      have deaf := (congrArg Configurator.interfaceEvents handled).symm.trans unheard
      rw [(quiet deaf).1] at next
      cases next

theorem delivered_of_run
    (fresh : run systemStep (systemInit ctx configFile configPath (some path)) before = some t)
    (reached : run systemStep t (.subscribed :: after) = some system) :
    Delivered t.daemon.sent path system := by
  obtain ⟨listening, subscribed, rest⟩ := Option.bind_eq_some_iff.mp reached
  obtain ⟨processor, quiet⟩ := unheard_of_run fresh
  have sound := sound_of_systemRun fresh
  have start : Delivered t.daemon.sent path listening ∧ Sound listening.daemon.program := by
    cases systemStep_move subscribed with
    | subscribed unheard =>
        obtain ⟨inbox, runs⟩ := quiet unheard
        refine ⟨⟨rfl, processor, List.prefix_refl _, ?_, fun call member => ?_⟩, sound⟩
        · rw [List.drop_length]
          show t.configurator.runs.map ProcessorRun.arguments ++ askedCalls t.inbox = askedCalls []
          rw [runs, inbox]
          rfl
        · have member : call ∈ t.configurator.runs := member
          rw [runs] at member
          cases member
  refine (run_invariant (I := fun system : System =>
    Delivered t.daemon.sent path system ∧ Sound system.daemon.program) ?_ start rest).1
  rintro system event u ⟨delivered, sound⟩ taken
  have move := systemStep_move taken
  refine ⟨move.delivered sound delivered, ?_⟩
  rcases move.tester_step with same | ⟨event, stepped⟩
  · exact same ▸ sound
  · exact sound_moves (run_moves (run_asks sound stepped)) sound

/-- **Every operational event is acted on exactly once, and in order.** Whatever the two
processes do, and whenever the configurator starts to listen: the event processors that it
has called, and the calls for the events that are still on the way, are together one call
for each operational event that the tester has sent since, in the same order, with the same
interface and state. Each starts the file at the configured path. -/
theorem event_processors_are_called_once
    (fresh : run systemStep (systemInit ctx configFile configPath (some path)) before = some t)
    (reached : run systemStep t (.subscribed :: after) = some system) :
    system.configurator.runs.map ProcessorRun.arguments ++ askedCalls system.inbox =
        askedCalls (system.daemon.sent.drop t.daemon.sent.length) ∧
      ∀ call ∈ system.configurator.runs,
        Paths.components call.exec.file = Paths.components path.toList ∧
          Paths.isAbsolute call.exec.file = Paths.isAbsolute path.toList := by
  have delivered := delivered_of_run fresh reached
  exact ⟨delivered.calls, delivered.files⟩

/-- The states in the calls for a name are what was heard about it. -/
theorem askedCalls_filter (name : String) (events : List BusEvent) :
    ((askedCalls events).filter fun call => decide (call.1 = name)).map Prod.snd =
      (heard name events).map stateWord := by
  unfold askedCalls heard
  induction events with
  | nil => rfl
  | cons event events ih =>
      rw [List.filterMap_cons, List.filterMap_cons]
      cases operational : event.operational? with
      | none =>
          have nothing : event.tells name = none := by simp [BusEvent.tells, operational]
          rw [nothing]
          exact ih
      | some told =>
          by_cases here : told.1 = name
          · have about : event.tells name = some told.2 := by
              simp [BusEvent.tells, operational, here]
            simpa [about, here] using ih
          · have other : event.tells name = none := by simp [BusEvent.tells, operational, here]
            simpa [other, here] using ih

/-- The state in the last call of an event processor for an interface. -/
def Configurator.lastState (configurator : Configurator) (name : String) : Option String :=
  ((configurator.runs.filter fun call => decide (call.exec.interfaceName = name)).getLast?).map
    fun call => call.exec.state

/-- **When nothing is on the way, the two processes agree.** The configurator listens from
the start and has handled every event. Then the last event processor that it called for a
tracked interface was told whether the interface is operational. -/
theorem last_call_tells_the_state (up : 0 ≤ ctx.ubusSockFd)
    (reached : run systemStep (systemInit ctx configFile configPath (some path))
      (.subscribed :: after) = some system)
    (quiet : system.inbox = []) {name : String} {iface : Interface}
    (tracked : system.daemon.program.interfaces.find name = some iface) :
    system.configurator.lastState name =
      some (stateWord (decide (iface.recovery.state = .operational))) := by
  obtain ⟨asked, ran⟩ := daemon_of_run reached
  have calls :=
    (@delivered_of_run ctx system _ configFile configPath path [] after rfl reached).calls
  have all : system.configurator.runs.map ProcessorRun.arguments =
      askedCalls system.daemon.sent := by
    rw [quiet] at calls
    simpa [askedCalls, systemInit, contextInit] using calls
  have states : (system.configurator.runs.filter fun call =>
      decide (call.exec.interfaceName = name)).map (fun call => call.exec.state) =
        (heard name system.daemon.sent).map stateWord := by
    rw [← askedCalls_filter, ← all, List.filter_map, List.map_map]
    rfl
  have last := (heard_of_run ran).told up name iface.isOperational
    (by simp [Program.recovery, tracked])
  unfold Configurator.lastState
  rw [← List.getLast?_map, states, List.getLast?_map, last]
  rfl

/-! ## No feedback -/

/-- The tester handles a request of the configurator. -/
def SystemEvent.isConfigured : SystemEvent → Bool
  | .configured _ => true
  | _ => false

/-- The tester connects to `ubus`. -/
def SystemEvent.isConnected : SystemEvent → Bool
  | .tester event => event.isConnected
  | _ => false

/-- What is still on the way to a load. -/
def System.pending (system : System) : ℕ := system.requests.length + upEvents system.inbox

theorem TesterStep.upEvents_le (sound : Sound system.daemon.program) {event : DaemonEvent}
    (step : TesterStep system t event) :
    upEvents t.inbox ≤ upEvents system.inbox + event.isConnected.toNat := by
  have outcome := daemonStep_outcome sound step.taken
  obtain ⟨more, split⟩ := outcome.sent
  have ups := outcome.upEvents_le
  rw [← split, upEvents_append] at ups
  rw [step.inbox, System.advance, ← split, List.drop_left]
  dsimp only
  split
  · have passed : upEvents (more.filter BusEvent.isFromTester) ≤ upEvents more :=
      List.Sublist.countP_le List.filter_sublist
    rw [upEvents_append]
    omega
  · rw [List.append_nil]
    exact Nat.le_add_right _ _

/-- **Only a connection adds to what is on the way**, and a load takes from it. -/
theorem SystemMove.pending_le {event : SystemEvent} (move : SystemMove system event t)
    (sound : Sound system.daemon.program) :
    event.isConfigured.toNat + t.pending ≤ system.pending + event.isConnected.toNat := by
  unfold System.pending
  cases move with
  | @tester event t step requests =>
      have ups := step.upEvents_le sound
      rw [requests]
      simp only [SystemEvent.isConfigured, SystemEvent.isConnected, Bool.toNat_false] at *
      omega
  | subscribed unheard => exact (Nat.zero_add _).le
  | @notified event inbox answer next =>
      have handled := congrArg Configurator.requests
        (system.configurator.interfaceEventHandlerCb_eq event answer)
      have asked : ((system.configurator.interfaceEventHandlerCb event answer).requests.drop
          system.configurator.requests.length).length ≤ event.saysUp.toNat := by
        rw [handled, List.drop_left]
        cases isUp : event.saysUp with
        | false => simp
        | true =>
            split
            · cases answer.file <;> simp
            · simp
      have ups : upEvents system.inbox = upEvents inbox + event.saysUp.toNat := by
        rw [next]
        unfold upEvents
        rw [List.countP_cons]
        cases event.saysUp <;> rfl
      dsimp only
      rw [List.length_append, ups]
      simp only [SystemEvent.isConfigured, SystemEvent.isConnected, Bool.toNat_false]
      omega
  | configured around step next =>
      have ups := step.upEvents_le sound
      rw [next]
      simp only [SystemEvent.isConfigured, SystemEvent.isConnected, DaemonEvent.isConnected,
        Bool.toNat_true, Bool.toNat_false, List.length_cons] at *
      omega

/-- **The two processes do not keep each other busy.** In every run, the tester has handled
no more requests of the configurator than it has connected to `ubus`, and this holds even
with everything that is still on the way. -/
theorem loads_le_connections
    (reached : run systemStep (systemInit ctx configFile configPath eventProcessorPath) events =
      some system) :
    events.countP SystemEvent.isConfigured + system.requests.length ≤
      events.countP SystemEvent.isConnected := by
  have bound := @run_account _ _ systemStep _ _ _ (fun system : System => (system.pending : ℤ))
    SystemEvent.isConfigured SystemEvent.isConnected (fun s event t taken => by
      obtain ⟨before, after, -, ran, stepped⟩ := taken
      exact_mod_cast (systemStep_move stepped).pending_le (sound_of_systemRun ran)) reached
  have nothing : (systemInit ctx configFile configPath eventProcessorPath).pending = 0 := rfl
  rw [nothing] at bound
  unfold System.pending at bound
  omega

/-! ## Coming to rest -/

/-- The event delivers something that is on the way. -/
def SystemEvent.isDelivery : SystemEvent → Bool
  | .notified _ => true
  | .configured _ => true
  | _ => false

/-- Nothing is on the way. -/
def System.AtRest (system : System) : Prop := system.inbox = [] ∧ system.requests = []

instance (system : System) : Decidable system.AtRest :=
  inferInstanceAs (Decidable (system.inbox = [] ∧ system.requests = []))

/-- A delivery is possible as long as something is on the way. -/
theorem atRest_iff : system.AtRest ↔
    ∀ event : SystemEvent, event.isDelivery = true → systemStep system event = none := by
  constructor
  · rintro ⟨inbox, requests⟩ event delivery
    cases event with
    | tester event => cases delivery
    | subscribed => cases delivery
    | notified answer => simp only [systemStep, inbox]
    | configured around => simp only [systemStep, requests]
  · intro stuck
    constructor
    · cases inbox : system.inbox with
      | nil => rfl
      | cons event rest =>
          have undelivered := stuck (.notified ⟨.none, 0, .refused⟩) rfl
          simp only [systemStep, inbox] at undelivered
          cases undelivered
    · cases requests : system.requests with
      | nil => rfl
      | cons config rest =>
          have undelivered := stuck (.configured ⟨.refused, .none,
            fun _ => ⟨⟨false, 0⟩, ⟨false, 0, []⟩, .refused⟩, fun _ _ => 0⟩) rfl
          simp only [systemStep, daemonStep, requests] at undelivered
          cases undelivered

/-- What is on the way, with what can lead to a load counted first. -/
def System.backlog (system : System) : ℕ ×ₗ ℕ := toLex (system.pending, system.inbox.length)

/-- **Every delivery takes from what is on the way.** A load may send events about
interfaces, but none that leads to another load. -/
theorem SystemMove.backlog_lt {event : SystemEvent} (move : SystemMove system event t)
    (sound : Sound system.daemon.program) (delivery : event.isDelivery = true) :
    t.backlog < system.backlog := by
  have bound := move.pending_le sound
  unfold System.backlog
  rw [Prod.Lex.toLex_lt_toLex]
  cases move with
  | tester step => cases delivery
  | subscribed unheard => cases delivery
  | configured around step next =>
      simp only [SystemEvent.isConfigured, SystemEvent.isConnected, Bool.toNat_true,
        Bool.toNat_false] at bound
      exact .inl (by omega)
  | notified answer next =>
      simp only [SystemEvent.isConfigured, SystemEvent.isConnected, Bool.toNat_false,
        Nat.zero_add, Nat.add_zero] at bound
      rcases Nat.lt_or_eq_of_le bound with less | same
      · exact .inl less
      · refine .inr ⟨same, ?_⟩
        rw [next]
        exact Nat.lt_succ_self _

/-- **Left to themselves, the two processes come to rest.** In a run without an end, there
is always another event that is no delivery. So whatever is sent and asked for in between,
only finitely many deliveries follow one another, and they only stop when nothing is on the
way. -/
theorem processes_come_to_rest {states : ℕ → System} {happens : ℕ → SystemEvent}
    (start : states 0 = systemInit ctx configFile configPath eventProcessorPath)
    (endless : Endless systemStep states happens) :
    (∀ k, ∃ n, k ≤ n ∧ (happens n).isDelivery = false) ∧
      ∀ n, (states n).AtRest ↔
        ∀ event : SystemEvent, event.isDelivery = true → systemStep (states n) event = none := by
  refine ⟨@recurs _ _ _ states happens _ _ System.backlog SystemEvent.isDelivery
    fun n delivery => ?_,
    fun n => atRest_iff⟩
  have reached := endless.run n
  rw [start] at reached
  exact (systemStep_move (endless n)).backlog_lt (sound_of_systemRun reached) delivery

end Runs

/-! ## One interface breaks -/

/-- The configurator is asked to start an event processor, and gets its configuration file. -/
def processorAnswer : ConfiguratorAnswer where
  file := some [.table "interfaces" [pingEntry 1 1]]
  lookup := ubusStatusOk
  launch := .forked 40

/-- The configurator listens, the tester connects, its interface breaks, and everything that
is sent is handled. -/
def wanReported : List SystemEvent :=
  .subscribed :: (wanBreaks.map .tester ++
    [.notified processorAnswer, .notified processorAnswer, .notified processorAnswer,
      .notified processorAnswer, .configured wanSurroundings])

/-- Both processes, with all their files. -/
def wanSystem : System :=
  systemInit connectedShared (some "interfaces.json") (some "/etc/interfaces.json")
    (some "/usr/lib/notify")

theorem wanReported_run :
    (run systemStep wanSystem wanReported).map (fun system =>
      (decide system.AtRest, (system.daemon.program.interfaces.find "wan").isSome,
        system.configurator.runs.map ProcessorRun.arguments)) =
      some (true, true, [("wan", "operational"), ("wan", "broken")]) := by decide +kernel

theorem event_processors_are_called_once_wan : ∃ system,
    run systemStep wanSystem wanReported = some system ∧
    system.configurator.runs.map ProcessorRun.arguments =
      [("wan", "operational"), ("wan", "broken")] ∧
    system.configurator.runs.map ProcessorRun.arguments ++ askedCalls system.inbox =
      askedCalls system.daemon.sent := by
  obtain ⟨system, reached, facts⟩ := Option.map_eq_some_iff.mp wanReported_run
  obtain ⟨-, rest⟩ := Prod.mk.inj facts
  exact ⟨system, reached, (Prod.mk.inj rest).2,
    (@event_processors_are_called_once connectedShared system wanSystem (some "interfaces.json")
      (some "/etc/interfaces.json") "/usr/lib/notify" [] _ rfl reached).1⟩

theorem last_call_tells_the_state_wan : ∃ system iface,
    run systemStep wanSystem wanReported = some system ∧
    system.daemon.program.interfaces.find "wan" = some iface ∧
    system.configurator.lastState "wan" =
      some (stateWord (decide (iface.recovery.state = .operational))) := by
  obtain ⟨system, reached, facts⟩ := Option.map_eq_some_iff.mp wanReported_run
  obtain ⟨empty, rest⟩ := Prod.mk.inj facts
  obtain ⟨iface, tracked⟩ := Option.isSome_iff_exists.mp (Prod.mk.inj rest).1
  exact ⟨system, iface, reached, tracked,
    last_call_tells_the_state (by decide) reached (of_decide_eq_true empty).1 tracked⟩

theorem loads_le_connections_wan : ∃ system,
    run systemStep wanSystem wanReported = some system ∧
    wanReported.countP SystemEvent.isConfigured + system.requests.length ≤
      wanReported.countP SystemEvent.isConnected := by
  obtain ⟨system, reached, -⟩ := Option.map_eq_some_iff.mp wanReported_run
  exact ⟨system, reached, loads_le_connections reached⟩

/-- Somebody else sends an event. -/
def unrelatedEvent : SystemEvent := .tester (.event ⟨"unrelated", []⟩ .refused)

theorem systemStep_unrelatedEvent (system : System) :
    systemStep system unrelatedEvent = some system := by
  have unheard : system.daemon.deliver ⟨"unrelated", []⟩ .refused = system.daemon := by
    unfold Daemon.deliver
    split
    · rw [if_neg (by decide), if_neg (by decide)]
    · rfl
  simp only [unrelatedEvent, systemStep, daemonStep, unheard, Option.map_some,
    System.advance_daemon]

/-- After everything that was sent is handled, somebody else goes on sending events. -/
theorem processes_come_to_rest_wan : ∃ states : ℕ → System,
    states 0 = wanSystem ∧ Endless systemStep states (padded wanReported unrelatedEvent) ∧
    wanReported.countP SystemEvent.isDelivery = 5 ∧ (states wanReported.length).AtRest ∧
    (∀ k, ∃ n, k ≤ n ∧ (padded wanReported unrelatedEvent n).isDelivery = false) ∧
      ∀ n, (states n).AtRest ↔
        ∀ event : SystemEvent, event.isDelivery = true → systemStep (states n) event = none := by
  obtain ⟨system, reached, facts⟩ := Option.map_eq_some_iff.mp wanReported_run
  obtain ⟨empty, -⟩ := Prod.mk.inj facts
  obtain ⟨states, start, last, endless⟩ :=
    endless_padded reached (systemStep_unrelatedEvent system)
  exact ⟨states, start, endless, rfl, last ▸ of_decide_eq_true empty,
    @processes_come_to_rest connectedShared (some "interfaces.json")
      (some "/etc/interfaces.json") (some "/usr/lib/notify") states _ start endless⟩

end IfaceTester
