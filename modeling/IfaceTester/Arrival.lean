import IfaceTester.System
import IfaceTester.UnchangedLoads

/-!
# The configuration arrives

When the tester connects, it says so, and the configurator then sends the configuration
that its file holds. That event, and after it that request, are on the way for a while,
behind others. As long as the configuration has not arrived, one of them is still on the
way (`Arriving`). So when nothing is on the way any more, the configuration is in force,
whatever the tester did in between and whatever configuration it came from.
-/

set_option autoImplicit false

namespace IfaceTester

open Runs Relation

/-- After the connection: the tester neither connects nor ends and only does what leaves its
configuration, and the configurator can read its file, which does not change, and finds the
tester. -/
def SystemEvent.Undisputed (config : List BlobAttr) : SystemEvent → Prop
  | .tester event => event.leavesConfig = true
  | .notified answer => answer.file = some config ∧ answer.lookup = ubusStatusOk
  | .subscribed => True
  | .configured _ => True

/-- The configuration is in force, or it is asked for last, or the configurator is still to
be told that the tester is up. -/
def OnItsWay (config : List BlobAttr) (system : System) : Prop :=
  (∃ event ∈ system.inbox, event.saysUp = true) ∨ system.requests.getLast? = some config ∨
    system.requests = [] ∧ InForce system.daemon.program config

/-- Both processes are there for it, and the configuration is on its way. -/
structure Arriving (config : List BlobAttr) (system : System) : Prop where
  listens : system.configurator.interfaceEvents = true
  path : system.configurator.configPath.isSome = true
  main : system.daemon.mainObject = true
  way : OnItsWay config system

section Tester

variable {daemon d : Daemon}

/-- The main object stays published. -/
theorem DaemonMove.mainObject (move : DaemonMove daemon d) (main : daemon.mainObject = true) :
    d.mainObject = true := by
  cases move with
  | worked work => cases work <;> exact main
  | announced areUp => exact main
  | opened => rfl

theorem DaemonMoves.mainObject (moves : DaemonMoves daemon d) (main : daemon.mainObject = true) :
    d.mainObject = true := by
  induction moves with
  | refl => exact main
  | tail _ move ih => exact move.mainObject ih

/-- A request for a configuration loads it, once the main object is published. -/
theorem program_configRequest (main : daemon.mainObject = true) (config : List BlobAttr)
    (around : Surroundings) :
    (daemon.request sInterfaceTester "config" config around).1.program =
      (configLoadConfig daemon.program config (Daemon.answersOf around.answers)).2 := by
  have handled : (daemon.request sInterfaceTester "config" config around).1 =
      (daemon.configLoadConfig config around.answers).2 := by
    unfold Daemon.request
    rw [if_pos ⟨rfl, main⟩]
    rfl
  rw [handled]
  exact (Daemon.program_configLoadConfig config around.answers).2

/-- What a piece of work leaves as it is for good. -/
theorem DaemonWorks.ctx (works : DaemonWorks daemon d) : d.program.ctx = daemon.program.ctx := by
  induction works with
  | refl => rfl
  | tail _ work ih => exact work.programMove.ctx.trans ih

/-- The event with which the tester says that it is up. -/
def upEvent : BusEvent := ⟨sInterfaceTester, [.string "state" "up"]⟩

/-- **A tester that connects publishes its main object and then says that it is up.** -/
theorem connected_tells (sound : Sound daemon.program) (up : 0 ≤ daemon.program.ctx.ubusSockFd)
    (around : Surroundings) :
    (daemon.ubusConnectHandler ubusStatusOk around).mainObject = true ∧
      ∃ sent, (daemon.ubusConnectHandler ubusStatusOk around).sent =
        daemon.sent ++ (sent ++ [upEvent]) := by
  have published : Sound (daemon.publishObjects ubusStatusOk).2.program := sound
  have works := Daemon.configLoadFromFileCheck_works published around.file around.answers
  have main : (daemon.publishObjects ubusStatusOk).2.mainObject = true := rfl
  refine ⟨works.moves.mainObject main, ?_⟩
  have grown : daemon.sent <+: _ := works.moves.sent
  obtain ⟨sent, loaded⟩ := grown
  refine ⟨sent, ?_⟩
  have told : interfaceTesterSendUpDownEvent ((daemon.publishObjects
      ubusStatusOk).2.configLoadFromFileCheck around.file around.answers).program.ctx true =
        [upEvent] := by
    have open' : ¬ daemon.program.ctx.ubusSockFd < 0 := not_lt.mpr up
    unfold interfaceTesterSendUpDownEvent
    rw [works.ctx]
    exact if_neg open'
  unfold Daemon.ubusConnectHandler
  dsimp only
  rw [told]
  unfold Daemon.send
  dsimp only
  rw [← loaded, List.append_assoc]

end Tester

/-! ## One step -/

section Steps

variable {system t : System} {config : List BlobAttr}

/-- What the tester sends goes to the end of what is on the way. -/
theorem TesterStep.inbox_prefix {event : DaemonEvent} (step : TesterStep system t event) :
    system.inbox <+: t.inbox := by
  rw [step.inbox]
  exact List.prefix_append _ _

/-- **No step loses the configuration on its way.** -/
theorem SystemMove.arriving {event : SystemEvent} (move : SystemMove system event t)
    (sound : Sound system.daemon.program) (current : system.daemon.program.interfaces.AllCurrent)
    (undisputed : event.Undisputed config) (was : Arriving config system) : Arriving config t := by
  cases move with
  | subscribed unheard =>
      rw [was.listens] at unheard
      cases unheard
  | @tester event t step requests =>
      have main := (daemonStep_outcome sound step.taken).moves.mainObject was.main
      refine ⟨step.configurator ▸ was.listens, step.configurator ▸ was.path, main, ?_⟩
      rcases was.way with ⟨up, member, told⟩ | last | ⟨emptied, inForce⟩
      · exact .inl ⟨up, step.inbox_prefix.subset member, told⟩
      · exact .inr (.inl (requests ▸ last))
      · exact .inr (.inr ⟨requests ▸ emptied, inForce.stepped undisputed step.taken⟩)
  | @configured first t around step next =>
      have main := (daemonStep_outcome sound step.taken).moves.mainObject was.main
      refine ⟨step.configurator ▸ was.listens, step.configurator ▸ was.path, main, ?_⟩
      rcases was.way with ⟨up, member, told⟩ | last | ⟨emptied, -⟩
      · exact .inl ⟨up, step.inbox_prefix.subset member, told⟩
      · rw [next] at last
        cases requests : t.requests with
        | cons second rest =>
            rw [requests, List.getLast?_cons_cons] at last
            exact .inr (.inl (requests ▸ last))
        | nil =>
            -- It was the only request, so it is handled now.
            rw [requests, List.getLast?_singleton] at last
            obtain rfl := Option.some.inj last
            refine .inr (.inr ⟨requests, ?_⟩)
            have daemon : t.daemon =
                (system.daemon.request sInterfaceTester "config" first around).1 :=
              (Option.some.inj step.taken).symm
            rw [daemon, program_configRequest was.main]
            exact inForce_configLoadConfig sound current _
      · rw [emptied] at next
        cases next
  | @notified first inbox answer next =>
      have handled := system.configurator.interfaceEventHandlerCb_eq first answer
      have listens := (congrArg Configurator.interfaceEvents handled).trans was.listens
      have path := congrArg Configurator.configPath handled
      refine ⟨listens, path ▸ was.path, was.main, ?_⟩
      have asked : (system.configurator.interfaceEventHandlerCb first answer).requests.drop
          system.configurator.requests.length = if first.saysUp = true then [config] else [] := by
        rw [congrArg Configurator.requests handled, List.drop_left]
        simp [was.path, undisputed.1, undisputed.2]
      cases told : first.saysUp with
      | true =>
          refine .inr (.inl ?_)
          dsimp only
          rw [asked, if_pos told, List.getLast?_concat]
      | false =>
          have emptied : (system.configurator.interfaceEventHandlerCb first answer).requests.drop
              system.configurator.requests.length = [] := by
            rw [asked, told]
            rfl
          unfold OnItsWay
          dsimp only
          rw [emptied, List.append_nil]
          refine was.way.imp_left ?_
          rintro ⟨up, member, isUp⟩
          rw [next] at member
          rcases List.mem_cons.mp member with rfl | later
          · rw [told] at isUp
            cases isUp
          · exact ⟨up, later, isUp⟩

end Steps

/-! ## Runs of the system -/

section Runs

variable {ctx : InterfaceTesterShared} {start system : System} {config : List BlobAttr}
variable {configFile configPath eventProcessorPath : Option String}
variable {before after : List SystemEvent}

/-- The configurator keeps the path of its file. -/
theorem configPath_of_run
    (reached : run systemStep (systemInit ctx configFile configPath eventProcessorPath) before =
      some system) : system.configurator.configPath = configPath := by
  refine run_invariant (I := fun system : System => system.configurator.configPath = configPath) ?_
    rfl reached
  intro system event t same taken
  cases systemStep_move taken with
  | tester step => exact step.configurator ▸ same
  | subscribed unheard => exact same
  | configured around step => exact step.configurator ▸ same
  | @notified event inbox answer next =>
      have handled := system.configurator.interfaceEventHandlerCb_eq event answer
      exact (congrArg Configurator.configPath handled).trans same

/-- In the system the list of interfaces is sound and current between the steps. -/
theorem current_of_systemRun
    (reached : run systemStep (systemInit ctx configFile configPath eventProcessorPath) before =
      some system) :
    (Sound system.daemon.program ∧ system.daemon.program.ctx = ctx) ∧
      system.daemon.program.interfaces.AllCurrent := by
  obtain ⟨asked, ran⟩ := daemon_of_run reached
  have program := run_askedBy (sound_configInit ctx) ran
  exact ⟨sound_of_run program, allCurrent_of_run program⟩

/-- After the connection the configuration is on its way. -/
theorem arriving_of_connected (sound : Sound start.daemon.program)
    (up : 0 ≤ start.daemon.program.ctx.ubusSockFd)
    (listens : start.configurator.interfaceEvents = true)
    (path : start.configurator.configPath.isSome = true) {around : Surroundings}
    (taken : systemStep start (.tester (.connected ubusStatusOk around)) = some system) :
    Arriving config system := by
  obtain rfl : start.advance (start.daemon.ubusConnectHandler ubusStatusOk around) = system :=
    Option.some.inj taken
  obtain ⟨main, sent, told⟩ := connected_tells sound up around
  refine ⟨listens, path, main, .inl ⟨upEvent, ?_, by decide⟩⟩
  unfold System.advance
  dsimp only
  rw [if_pos listens, told, List.drop_left, List.filter_append]
  have passed : [upEvent].filter BusEvent.isFromTester = [upEvent] := by decide
  rw [passed]
  exact List.mem_append_right _ (List.mem_append_right _ (List.mem_singleton_self _))

/-- **The configuration arrives.** The configurator listens and has a file with a table of
interfaces, and the tester connects and `ubus` takes its main object. A file without the
table is refused by the load, and without the object the request reaches nobody. After that
the tester neither connects again nor ends, and it loads nothing but what the configurator
sends. Then, whatever else the two do and in whatever order: when nothing is on the way any
more, exactly the interfaces that this configuration asks for are tracked, as it asks for
them. -/
theorem configuration_arrives (up : 0 ≤ ctx.ubusSockFd) {around : Surroundings}
    (reached : run systemStep (systemInit ctx configFile configPath eventProcessorPath) before =
      some start)
    (listens : start.configurator.interfaceEvents = true) (path : configPath.isSome = true)
    (undisputed : ∀ event ∈ after, event.Undisputed config)
    (ran : run systemStep start (.tester (.connected ubusStatusOk around) :: after) = some system)
    (rest : system.AtRest)
    (table : (interfacesTable config).isSome = true) :
    AsAsked system.daemon.program config := by
  obtain ⟨connected, taken, remaining⟩ := Option.bind_eq_some_iff.mp ran
  obtain ⟨⟨sound, same⟩, -⟩ := current_of_systemRun reached
  have first : Arriving config connected :=
    arriving_of_connected sound (same ▸ up) listens ((configPath_of_run reached).symm ▸ path) taken
  have arriving : Arriving config system := by
    refine visits_of_invariant (I := Arriving config) ?_ first (visits_last remaining)
    rintro s event t ⟨first, later, split, there, stepped⟩ was
    have whole := run_trans reached
      (run_trans (@run_concat _ _ systemStep start start connected _ [] rfl taken) there)
    obtain ⟨⟨sound, -⟩, current⟩ := current_of_systemRun whole
    have member : event ∈ after := by
      rw [split]
      exact List.mem_append_right _ List.mem_cons_self
    exact (systemStep_move stepped).arriving sound current (undisputed event member) was
  rcases arriving.way with ⟨event, member, -⟩ | last | ⟨-, inForce⟩
  · rw [rest.1] at member
    cases member
  · rw [rest.2] at last
    cases last
  · exact inForce.asAsked table

end Runs

/-! ## Another configuration arrives -/

/-- The configurator listens. -/
def wanListening : System :=
  { wanSystem with configurator := wanSystem.configurator.ubusConnectHandler }

/-- Both events of the connection are handled, and then the request. -/
def wanArrives : List SystemEvent :=
  [.notified processorAnswer, .notified processorAnswer, .configured wanSurroundings]

theorem wanArrives_run :
    (run systemStep wanListening
      (.tester (.connected ubusStatusOk wanSurroundings) :: wanArrives)).map (fun system =>
        (system.inbox.isEmpty, system.requests.isEmpty)) = some (true, true) := by decide +kernel

theorem configuration_arrives_wan : ∃ system,
    run systemStep wanListening (.tester (.connected ubusStatusOk wanSurroundings) :: wanArrives) =
      some system ∧
    AsAsked system.daemon.program [.table "interfaces" [pingEntry 1 1]] := by
  obtain ⟨system, ran, facts⟩ := Option.map_eq_some_iff.mp wanArrives_run
  obtain ⟨heard, handled⟩ := Prod.mk.inj facts
  have reached : run systemStep wanSystem [.subscribed] = some wanListening := rfl
  have undisputed : ∀ event ∈ wanArrives,
      event.Undisputed [.table "interfaces" [pingEntry 1 1]] := by
    intro event member
    simp only [wanArrives, List.mem_cons, List.not_mem_nil, or_false] at member
    rcases member with rfl | rfl | rfl
    · exact ⟨rfl, rfl⟩
    · exact ⟨rfl, rfl⟩
    · exact trivial
  exact ⟨system, ran, configuration_arrives (by decide) reached rfl rfl undisputed ran
    ⟨List.isEmpty_iff.mp heard, List.isEmpty_iff.mp handled⟩ (by decide +kernel)⟩

end IfaceTester
