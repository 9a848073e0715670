import IfaceTester.Reports
import IfaceTester.Configurator

/-!
# What is heard on `ubus`

Whoever listens to the operational events of the tester knows, for every interface that is
tracked, whether it is operational: the last event about it tells. No interface is reported
broken twice in a row. The tester says that it is up when it connects, and at no other time.
-/

set_option autoImplicit false

namespace IfaceTester

open Runs Relation Announcements

/-- What an event tells about a name. -/
def BusEvent.tells (name : String) (event : BusEvent) : Option Bool :=
  event.operational?.bind fun told => if told.1 = name then some told.2 else none

/-- What is heard about a name, oldest first. -/
def heard (name : String) (events : List BusEvent) : List Bool :=
  events.filterMap (BusEvent.tells name)

/-! ## The events that are sent -/

section Messages

variable {ctx : InterfaceTesterShared} {log : List LogEntry} {name : String}

theorem heard_append (name : String) (events later : List BusEvent) :
    heard name (events ++ later) = heard name events ++ heard name later :=
  List.filterMap_append

/-- What the log reports about a name is what is heard about it. -/
theorem heard_sentEvents (name : String) (log : List LogEntry) :
    heard name (sentEvents log) = reports name log := by
  unfold heard sentEvents reports
  rw [List.filterMap_filterMap]
  refine List.filterMap_congr fun entry _ => ?_
  cases entry with
  | exited other pid => rfl
  | seen other what =>
      cases what with
      | operationalEvent isOperational =>
          have told := operational?_operationalMessage other isOperational
          simp [LogEntry.busEvent?, LogEntry.report?, BusEvent.tells, told,
            Observation.operationalEvent?]
      | testRunEvent passed =>
          have told := operational?_testRunMessage other passed
          simp [LogEntry.busEvent?, LogEntry.report?, BusEvent.tells, told,
            Observation.operationalEvent?]
      | _ => simp [LogEntry.busEvent?, LogEntry.report?, Observation.operationalEvent?]

/-- Coming up and going down tells nothing about an interface. -/
theorem heard_upDown (ctx : InterfaceTesterShared) (areUp : Bool) (name : String) :
    heard name (interfaceTesterSendUpDownEvent ctx areUp) = [] := by
  unfold interfaceTesterSendUpDownEvent
  split
  · rfl
  · have silent : ∀ msg, (⟨sInterfaceTester, msg⟩ : BusEvent).tells name = none := by
      intro msg
      have apart : sInterfaceTester ≠ operationalEventType := by decide
      simp [BusEvent.tells, BusEvent.operational?, apart]
    simp [heard, silent]

/-- No event about an interface says that the tester is up. -/
theorem saysUp_of_sentEvents {event : BusEvent} (sent : event ∈ sentEvents log) :
    event.saysUp = false := by
  obtain ⟨entry, -, said⟩ := List.mem_filterMap.mp sent
  have type : event.type = operationalEventType ∨ event.type = testRunEventType := by
    unfold LogEntry.busEvent? at said
    split at said
    · exact .inl (Option.some.inj said ▸ rfl)
    · exact .inr (Option.some.inj said ▸ rfl)
    · cases said
  have first : operationalEventType ≠ sInterfaceTester := by decide
  have second : testRunEventType ≠ sInterfaceTester := by decide
  rcases type with type | type <;> simp [BusEvent.saysUp, type, first, second]

/-- How often the tester says that it is up. -/
def upEvents (events : List BusEvent) : ℕ := events.countP BusEvent.saysUp

theorem upEvents_append (events later : List BusEvent) :
    upEvents (events ++ later) = upEvents events + upEvents later :=
  List.countP_append

theorem upEvents_sentEvents (log : List LogEntry) : upEvents (sentEvents log) = 0 := by
  refine List.countP_eq_zero.mpr fun event sent => ?_
  simp [saysUp_of_sentEvents sent]

theorem upEvents_up_le (ctx : InterfaceTesterShared) :
    upEvents (interfaceTesterSendUpDownEvent ctx true) ≤ 1 := by
  unfold interfaceTesterSendUpDownEvent
  split
  · exact Nat.zero_le _
  · exact List.countP_le_length

theorem upEvents_down (ctx : InterfaceTesterShared) :
    upEvents (interfaceTesterSendUpDownEvent ctx false) = 0 := by
  unfold interfaceTesterSendUpDownEvent
  split
  · rfl
  · decide

end Messages

/-! ## Every state of the daemon -/

/-- A listener who has heard everything knows what there is to know about every name. -/
structure Heard (ctx : InterfaceTesterShared) (daemon : Daemon) : Prop where
  shared : daemon.program.ctx = ctx
  sent : ∀ name, heard name daemon.sent = reports name daemon.program.log
  told : 0 ≤ ctx.ubusSockFd → ∀ name, Told (daemon.program.recovery name) (heard name daemon.sent)
  steady : 0 ≤ ctx.ubusSockFd → ∀ name, Steady true (heard name daemon.sent)

section Daemon

variable {ctx : InterfaceTesterShared} {configFile : Option String} {daemon d : Daemon}
variable {events : List DaemonEvent}

theorem InterfaceTesterShared.announces_of_up (up : 0 ≤ ctx.ubusSockFd) (before now : Option Bool) :
    ctx.announces before now = announce before now := by
  unfold announces
  rw [if_neg (Int.not_lt.mpr up)]

theorem Heard.of_work (was : Heard ctx daemon) {program : Program} {added : List LogEntry}
    (sound : Sound daemon.program) (move : ProgramMove daemon.program program)
    (logged : program.log = daemon.program.log ++ added) (isProgram : d.program = program)
    (isSent : d.sent = daemon.sent ++ sentEvents added) : Heard ctx d := by
  obtain ⟨told, comes⟩ := move.reports sound
  have added : ∀ name, reports name added =
      ctx.announces (daemon.program.recovery name) (program.recovery name) := by
    intro name
    have more := told name
    rw [logged, reports_append, was.shared] at more
    exact List.append_cancel_left more
  have sent : ∀ name, heard name d.sent = heard name daemon.sent ++
      ctx.announces (daemon.program.recovery name) (program.recovery name) := by
    intro name
    rw [isSent, heard_append, heard_sentEvents, added]
  subst isProgram
  refine ⟨move.ctx.trans was.shared, fun name => ?_, fun up name => ?_, fun up name => ?_⟩
  · rw [sent, was.sent, logged, reports_append, added]
  · rw [sent, InterfaceTesterShared.announces_of_up up]
    exact (was.told up name).announce
  · rw [sent, InterfaceTesterShared.announces_of_up up]
    exact (was.steady up name).announce (was.told up name) (comes name)

/-- **Every step of the daemon keeps its listeners informed.** -/
theorem DaemonMove.heard (move : DaemonMove daemon d) (sound : Sound daemon.program)
    (was : Heard ctx daemon) : Heard ctx d := by
  cases move with
  | worked work =>
      cases work with
      | ran move logged => exact was.of_work sound move logged rfl rfl
      | published here answer move logged => exact was.of_work sound move logged rfl rfl
      | withdrawn here move logged => exact was.of_work sound move logged rfl rfl
  | announced areUp =>
      have same : ∀ name, IfaceTester.heard name
          (daemon.send (interfaceTesterSendUpDownEvent daemon.program.ctx areUp)).sent =
          IfaceTester.heard name daemon.sent := by
        intro name
        refine (heard_append name _ _).trans ?_
        rw [heard_upDown, List.append_nil]
      refine ⟨was.shared, fun name => ?_, fun up name => ?_, fun up name => ?_⟩
      · rw [same]
        exact was.sent name
      · rw [same]
        exact was.told up name
      · rw [same]
        exact was.steady up name
  | opened => exact ⟨was.shared, was.sent, was.told, was.steady⟩

theorem heard_of_run (reached : run daemonStep (contextInit ctx configFile) events = some daemon) :
    Heard ctx daemon := by
  refine (daemon_invariant ?_ (fun _ _ move sound was => move.heard sound was) reached).2
  exact ⟨rfl, fun _ => rfl, fun _ name => told_none _, fun _ name => .nil⟩

/-- **The last operational event about an interface tells its recovery state.** In every
state that the daemon comes to, whatever was loaded, removed and loaded again: as long as an
interface is tracked, the last event that was sent about it tells whether it is operational.
And between two events that tell it broken there is one that tells it operational. -/
theorem operational_events_tell_the_state (up : 0 ≤ ctx.ubusSockFd)
    (reached : run daemonStep (contextInit ctx configFile) events = some daemon) :
    (∀ name iface, daemon.program.interfaces.find name = some iface →
      (heard name daemon.sent).getLast? = some (decide (iface.recovery.state = .operational))) ∧
    ∀ name, (heard name daemon.sent).IsChain fun first next => first = true ∨ next = true := by
  have informed := heard_of_run reached
  refine ⟨fun name iface tracked => ?_, fun name => ?_⟩
  · refine informed.told up name _ ?_
    simp [Program.recovery, tracked, Interface.isOperational]
  · refine (informed.steady up name).imp fun first next turn => ?_
    cases first <;> cases next <;> simp_all

/-- One failing run breaks the interface of the configuration file. -/
def wanBreaks : List DaemonEvent :=
  [.connected ubusStatusOk
      { wanSurroundings with file := some [.table "interfaces" [pingEntry 1 1]] },
    .wakeUp "wan" .settlingDelayTimerExpired (.forked 7),
    .wakeUp "wan" (.testProcExited 256) .refused]

theorem wanBreaks_heard :
    (run daemonStep (contextInit connectedShared (some "interfaces.json")) wanBreaks).map
      (fun daemon => ((daemon.program.interfaces.find "wan").isSome, heard "wan" daemon.sent)) =
        some (true, [true, false]) := by decide +kernel

theorem operational_events_tell_the_state_wan : ∃ daemon iface,
    run daemonStep (contextInit connectedShared (some "interfaces.json")) wanBreaks =
      some daemon ∧
    daemon.program.interfaces.find "wan" = some iface ∧
    heard "wan" daemon.sent = [true, false] ∧
    (heard "wan" daemon.sent).getLast? = some (decide (iface.recovery.state = .operational)) := by
  obtain ⟨daemon, reached, facts⟩ := Option.map_eq_some_iff.mp wanBreaks_heard
  obtain ⟨present, told⟩ := Prod.mk.inj facts
  obtain ⟨iface, tracked⟩ := Option.isSome_iff_exists.mp present
  exact ⟨daemon, iface, reached, tracked, told,
    (operational_events_tell_the_state (by decide) reached).1 "wan" iface tracked⟩

/-! ## The tester is up -/

theorem DaemonWorks.upEvents (works : DaemonWorks daemon d) :
    upEvents d.sent = upEvents daemon.sent := by
  induction works with
  | refl => rfl
  | tail _ work ih =>
      rw [← ih]
      cases work with
      | ran => exact (upEvents_append _ _).trans (by rw [upEvents_sentEvents]; rfl)
      | published => exact (upEvents_append _ _).trans (by rw [upEvents_sentEvents]; rfl)
      | withdrawn => exact (upEvents_append _ _).trans (by rw [upEvents_sentEvents]; rfl)

/-- The event of the main loop is the connection to `ubus`. -/
def DaemonEvent.isConnected : DaemonEvent → Bool
  | .connected _ _ => true
  | _ => false

/-- **Only the connection makes the tester say that it is up.** -/
theorem Outcome.upEvents_le {event : DaemonEvent} (outcome : Outcome daemon event d) :
    upEvents d.sent ≤ upEvents daemon.sent + event.isConnected.toNat := by
  cases outcome with
  | @connected status around opened loaded opening works =>
      have same : opened.sent = daemon.sent := by cases opening <;> rfl
      have told : upEvents (loaded.send
          (interfaceTesterSendUpDownEvent loaded.program.ctx true)).sent =
          upEvents loaded.sent +
            upEvents (interfaceTesterSendUpDownEvent loaded.program.ctx true) :=
        upEvents_append _ _
      have once := upEvents_up_le loaded.program.ctx
      rw [told, works.upEvents, same]
      exact Nat.add_le_add_left once _
  | worked works inside alive =>
      rw [works.upEvents]
      exact Nat.le_add_right _ _
  | shutdown works =>
      have told : upEvents (daemon.send
          (interfaceTesterSendUpDownEvent daemon.program.ctx false)).sent =
          upEvents daemon.sent := by
        refine (upEvents_append _ _).trans ?_
        rw [upEvents_down]
        rfl
      rw [works.upEvents, told]
      exact Nat.le_add_right _ _

end Daemon

end IfaceTester
