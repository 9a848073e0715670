import IfaceTester.Daemon
import IfaceTester.Isolation

/-!
# The daemon runs the program

Seen without its objects and its connection, the daemon is the program: each event of its
main loop is one event of the program, or none (`Daemon.asks`). Whatever a message holds,
the program only meets callbacks of interfaces that are tracked and loads of a
configuration, so all that was proved about the runs of the program holds in the daemon.
-/

set_option autoImplicit false

namespace IfaceTester

open Runs

/-! ## The program inside -/

namespace Daemon

variable {daemon d : Daemon}

@[simp] theorem program_advance (program : Program) : (daemon.advance program).program = program :=
  rfl

theorem program_interfaceUpdateCb (new old : Option Interface) (answer : DaemonAnswer) :
    (daemon.interfaceUpdateCb new old answer).program =
      IfaceTester.interfaceUpdateCb daemon.program new old answer.answer := by
  cases new <;> cases old <;> rfl

theorem program_vlistAdd (new : Interface) (answer : DaemonAnswer) :
    (daemon.vlistAdd new answer).program =
      IfaceTester.vlistAdd daemon.program new answer.answer :=
  program_interfaceUpdateCb _ _ _

theorem program_vlistDelete (node : VersionedNode String Interface) :
    (daemon.vlistDelete node).program = IfaceTester.vlistDelete daemon.program node :=
  program_interfaceUpdateCb _ _ _

theorem program_foldl_vlistDelete (nodes : List (VersionedNode String Interface)) :
    (nodes.foldl vlistDelete daemon).program =
      nodes.foldl IfaceTester.vlistDelete daemon.program := by
  induction nodes generalizing daemon with
  | nil => rfl
  | cons node nodes ih => rw [List.foldl_cons, List.foldl_cons, ih, program_vlistDelete]

theorem program_interfaceFlushOld :
    daemon.interfaceFlushOld.program = IfaceTester.interfaceFlushOld daemon.program :=
  program_foldl_vlistDelete _

theorem program_handleEntry (msg : BlobAttr) (answer : DaemonAnswer) :
    (daemon.handleEntry msg answer).program =
      IfaceTester.handleEntry daemon.program msg answer.answer := by
  unfold handleEntry
  dsimp only
  cases added : (interfaceHandleConfig daemon.program.ctx msg).added with
  | none => rfl
  | some iface =>
      dsimp only
      rw [program_vlistAdd]
      simp [IfaceTester.handleEntry, added]

/-- The answers that the program sees. -/
abbrev answersOf (answers : ℕ → DaemonAnswer) : ℕ → Answer := fun k => (answers k).answer

theorem program_loadEntries (entries : List BlobAttr) (answers : ℕ → DaemonAnswer) :
    (loadEntries entries answers daemon).1 =
        (IfaceTester.loadEntries entries (answersOf answers) daemon.program).1 ∧
      (loadEntries entries answers daemon).2.program =
        (IfaceTester.loadEntries entries (answersOf answers) daemon.program).2 := by
  induction entries generalizing answers daemon with
  | nil => exact ⟨rfl, rfl⟩
  | cons cur rest ih =>
      unfold loadEntries IfaceTester.loadEntries
      split
      · rw [← program_handleEntry]
        exact ih fun k => answers (k + 1)
      · exact ⟨rfl, rfl⟩

/-- **A load does to the list what it does without the objects.** -/
theorem program_configLoadConfig (config : List BlobAttr) (answers : ℕ → DaemonAnswer) :
    (daemon.configLoadConfig config answers).1 =
        (IfaceTester.configLoadConfig daemon.program config (answersOf answers)).1 ∧
      (daemon.configLoadConfig config answers).2.program =
        (IfaceTester.configLoadConfig daemon.program config (answersOf answers)).2 := by
  unfold configLoadConfig IfaceTester.configLoadConfig
  dsimp only
  rw [program_interfaceFlushOld]
  cases interfacesTable config with
  | none => exact ⟨rfl, rfl⟩
  | some table =>
      dsimp only
      split
      · exact ⟨rfl, rfl⟩
      · obtain ⟨status, list⟩ := @program_loadEntries daemon.interfaceUpdate table.data answers
        exact ⟨status, congrArg IfaceTester.interfaceFlushOld list⟩

theorem program_interfaceTestersFree :
    daemon.interfaceTestersFree.program = IfaceTester.interfaceTestersFree daemon.program :=
  program_interfaceFlushOld

end Daemon

/-! ## What an event asks for -/

/-- The first string of a message with the name, among the fields before one that fails
the check. -/
def firstString (msg : List BlobAttr) (name : String) : Option String :=
  (msg.takeWhile fun attr => attr.type.isSome).findSome? fun attr =>
    match attr with
    | .string other value => if other = name then some value else none
    | _ => none

/-- What the parser makes of a field that is to be a string. -/
theorem map_getString_blobmsgParse {ι : Type} {policy : ι → BlobmsgPolicy} {i : ι}
    {name : String} (wanted : policy i = { name := name, type := .string })
    (msg : List BlobAttr) :
    ((blobmsgParse policy msg).2 i).map BlobAttr.getString = firstString msg name := by
  unfold blobmsgParse firstString
  dsimp only
  rw [wanted]
  induction msg.takeWhile fun attr => attr.type.isSome with
  | nil => rfl
  | cons attr rest ih =>
      cases attr with
      | string other value =>
          by_cases here : other = name
          · subst here
            simp [BlobmsgPolicy.selects, BlobAttr.type, BlobAttr.name, BlobAttr.getString]
          · simpa [BlobmsgPolicy.selects, BlobAttr.type, BlobAttr.name, here] using ih
      | _ => simpa [BlobmsgPolicy.selects, BlobAttr.type] using ih

namespace Daemon

/-- The callback of the interface with the name, when it is tracked. -/
def callbackFor (daemon : Daemon) (name : Option String) (cb : Callback) (launch : Launch) :
    List ProgramEvent :=
  (name.filter fun name => (daemon.program.interfaces.find name).isSome).toList.map
    fun name => .callback name cb launch

/-- The load of the configuration file, when there is one that can be read. -/
def fileLoad (daemon : Daemon) (around : Surroundings) : List ProgramEvent :=
  match daemon.configFile, around.file with
  | some _, some config => [.load config (answersOf around.answers)]
  | _, _ => []

/-- What an event on `ubus` asks for: an `ifdown` from `netifd`, or an `ifup` from the
hotplug script. -/
def eventAsks (daemon : Daemon) (event : BusEvent) (launch : Launch) : List ProgramEvent :=
  if event.type ∉ daemon.subscriptions then []
  else if event.type = interfaceMonitorEventId ∧
      firstString event.msg "action" = some "ifdown" then
    daemon.callbackFor (firstString event.msg "interface") .ifdown launch
  else if event.type = interfaceStateEventId ∧ firstString event.msg "state" = some "ifup" then
    daemon.callbackFor (firstString event.msg "interface") .ifup launch
  else []

/-- What a request asks for. -/
def requestAsks (daemon : Daemon) (path method : String) (msg : List BlobAttr)
    (around : Surroundings) : List ProgramEvent :=
  if path = sInterfaceTester ∧ daemon.mainObject = true then
    if method = "config" then [.load msg (answersOf around.answers)]
    else if method = "config_reload" then daemon.fileLoad around
    else []
  else if path ∈ daemon.objects.published ∧ method = "start_test_run" then
    ((daemon.owner path).map Interface.name).toList.map
      fun name => .callback name .startTestRun around.launch
  else []

/-- What the daemon asks the program to do. -/
def asks (daemon : Daemon) : DaemonEvent → List ProgramEvent
  | .connected _ around => daemon.fileLoad around
  | .event event launch => daemon.eventAsks event launch
  | .request path method msg around => daemon.requestAsks path method msg around
  | .wakeUp name cb launch => [.callback name cb launch]
  | .shutdown => [.testersFree]

end Daemon

/-! ## The daemon does what it is asked for -/

section Steps

variable {daemon d : Daemon} {launch : Launch}

/-- Where no child is reported gone, a callback is a change of the interface. -/
theorem callbackStep_of_change {program : Program} {name : String} {iface t : Interface}
    {cb : Callback} (tracked : program.interfaces.find name = some iface)
    (external : ∀ new, cb ≠ .configUpdate new) (noExit : exitedChild iface cb = none)
    (taken : step iface (cb, launch) = some t) :
    callbackStep program name cb launch = some (program.change iface t) := by
  rw [callbackStep_eq_some_iff]
  refine ⟨external, iface, t, tracked, taken, ?_⟩
  simp [Program.reap, noExit]

theorem Daemon.callbackFor_of_tracked {name : String} {iface : Interface} (cb : Callback)
    (tracked : daemon.program.interfaces.find name = some iface) :
    daemon.callbackFor (some name) cb launch = [.callback name cb launch] := by
  simp [callbackFor, Option.filter, tracked]

theorem Daemon.callbackFor_of_untracked {name : String} (cb : Callback)
    (untracked : daemon.program.interfaces.find name = none) :
    daemon.callbackFor (some name) cb launch = [] := by
  simp [callbackFor, Option.filter, untracked]

theorem Daemon.run_callbackFor {name : String} {iface t : Interface} {cb : Callback}
    (tracked : daemon.program.interfaces.find name = some iface)
    (external : ∀ new, cb ≠ .configUpdate new) (noExit : exitedChild iface cb = none)
    (taken : step iface (cb, launch) = some t) :
    run programStep daemon.program (daemon.callbackFor (some name) cb launch) =
      some (daemon.program.change iface t) := by
  rw [callbackFor_of_tracked cb tracked]
  simp [programStep, callbackStep_of_change tracked external noExit taken]

/-- What the two strings of an event ask for. -/
def Daemon.wordAsks (daemon : Daemon) (word interfaceName : Option String) (wanted : String)
    (cb : Callback) (launch : Launch) : List ProgramEvent :=
  if word = some wanted then daemon.callbackFor interfaceName cb launch else []

/-- **An event handler reacts for the interface that its strings name**, and does nothing
at all when they name none. -/
theorem Daemon.run_handleInterfaceEvent (word interfaceName : Option String) (wanted : String)
    {cb : Callback} {react : Interface → Interface} (external : ∀ new, cb ≠ .configUpdate new)
    (noExit : ∀ iface, exitedChild iface cb = none)
    (reacts : ∀ iface, step iface (cb, launch) = some (react iface)) :
    run programStep daemon.program (daemon.wordAsks word interfaceName wanted cb launch) =
        some (daemon.handleInterfaceEvent word interfaceName wanted react).program ∧
      (daemon.wordAsks word interfaceName wanted cb launch = [] →
        daemon.handleInterfaceEvent word interfaceName wanted react = daemon) := by
  unfold wordAsks handleInterfaceEvent
  cases word with
  | none => exact ⟨rfl, fun _ => rfl⟩
  | some word =>
      cases interfaceName with
      | none =>
          dsimp only
          split <;> exact ⟨rfl, fun _ => rfl⟩
      | some name =>
          dsimp only
          by_cases same : word = wanted
          · rw [if_neg (not_not_intro same), if_pos (congrArg some same)]
            unfold interfaceTesterLookupByName
            cases tracked : daemon.program.interfaces.find name with
            | none =>
                rw [callbackFor_of_untracked cb tracked]
                exact ⟨rfl, fun _ => rfl⟩
            | some iface =>
                refine ⟨run_callbackFor tracked external (noExit iface) (reacts iface), ?_⟩
                rw [callbackFor_of_tracked cb tracked]
                exact fun nothing => absurd nothing (List.cons_ne_nil _ _)
          · rw [if_pos same, if_neg fun equal => same (Option.some.inj equal)]
            exact ⟨rfl, fun _ => rfl⟩

/-- **An event on `ubus` does what it asks for, and no more.** -/
theorem Daemon.run_eventAsks (event : BusEvent) :
    run programStep daemon.program (daemon.eventAsks event launch) =
        some (daemon.deliver event launch).program ∧
      (daemon.eventAsks event launch = [] → daemon.deliver event launch = daemon) := by
  have apart : interfaceMonitorEventId ≠ interfaceStateEventId := by decide
  unfold eventAsks deliver
  by_cases subscribed : event.type ∈ daemon.subscriptions
  · rw [if_neg (not_not_intro subscribed), if_pos subscribed]
    by_cases monitor : event.type = interfaceMonitorEventId
    · have down := @run_handleInterfaceEvent daemon launch (firstString event.msg "action")
        (firstString event.msg "interface") "ifdown" .ifdown
        (fun iface => interfaceConnectionDisconnected iface launch) (fun _ => by simp)
        (fun _ => rfl) fun _ => rfl
      rw [← @map_getString_blobmsgParse _ networkInterfaceEventPolicy .action "action" rfl,
        ← @map_getString_blobmsgParse _ networkInterfaceEventPolicy .interface "interface" rfl]
        at down ⊢
      simp only [monitor, true_and, apart, false_and, if_true, if_false]
      exact down
    · simp only [monitor, false_and, if_false]
      by_cases state : event.type = interfaceStateEventId
      · have up := @run_handleInterfaceEvent daemon launch (firstString event.msg "state")
          (firstString event.msg "interface") "ifup" .ifup interfaceConnectionConnected
          (fun _ => by simp) (fun _ => rfl) fun _ => rfl
        rw [← @map_getString_blobmsgParse _ interfaceStateEventPolicy .state "state" rfl,
          ← @map_getString_blobmsgParse _ interfaceStateEventPolicy .interface "interface" rfl]
          at up ⊢
        simp only [state, true_and, if_true]
        exact up
      · simp [state]
  · rw [if_pos subscribed, if_neg subscribed]
    exact ⟨rfl, fun _ => rfl⟩

theorem Daemon.run_fileLoad (around : Surroundings) :
    run programStep daemon.program (daemon.fileLoad around) =
      some (daemon.configLoadFromFileCheck around.file around.answers).program := by
  unfold fileLoad configLoadFromFileCheck
  cases daemon.configFile with
  | none => rfl
  | some path =>
      cases around.file with
      | none => rfl
      | some config =>
          have loaded := (@program_configLoadConfig daemon config around.answers).2
          simp [programStep, loaded]

/-- An object with a path belongs to a tracked interface. -/
theorem Daemon.owner_tracked {path : String} {iface : Interface}
    (owns : daemon.owner path = some iface) :
    ∃ name, daemon.program.interfaces.find name = some iface ∧
      daemon.objects.names name = .allocated path := by
  obtain ⟨node, found, rfl⟩ := Option.map_eq_some_iff.mp owns
  have named := List.find?_some found
  exact ⟨node.key, VersionedList.find_of_mem (List.mem_of_find?_eq_some found),
    of_decide_eq_true named⟩

/-- **A request does what it asks for, and no more.** -/
theorem Daemon.run_requestAsks (sound : Sound daemon.program) (path method : String)
    (msg : List BlobAttr) (around : Surroundings) :
    run programStep daemon.program (daemon.requestAsks path method msg around) =
      some (daemon.request path method msg around).1.program := by
  unfold requestAsks request
  by_cases main : path = sInterfaceTester ∧ daemon.mainObject = true
  · rw [if_pos main, if_pos main]
    unfold mainRequest
    by_cases config : method = "config"
    · have loaded := (@program_configLoadConfig daemon msg around.answers).2
      simp [config, programStep, interfaceTesterHandleConfig, loaded]
    · by_cases reload : method = "config_reload"
      · simp only [reload, if_true]
        exact run_fileLoad around
      · simp only [config, reload, if_false]
        split <;> rfl
  · rw [if_neg main, if_neg main]
    by_cases published : path ∈ daemon.objects.published
    · rw [if_pos published]
      cases owns : daemon.owner path with
      | none =>
          dsimp only
          split <;> rfl
      | some iface =>
          obtain ⟨name, tracked, -⟩ := owner_tracked owns
          have named := sound.named tracked
          subst named
          unfold interfaceRequest
          by_cases request : method = "start_test_run"
          · have reacts : callbackStep daemon.program iface.name .startTestRun around.launch = _ :=
              callbackStep_of_change tracked (fun _ => by simp) rfl rfl
            simp [published, request, programStep, reacts, ifaceHandleTest]
          · simp only [request, and_false, if_false]
            split <;> rfl
    · rw [if_neg published, if_neg fun both => published both.1]
      rfl

/-- **A step of the daemon is what it asks the program for.** -/
theorem run_asks (sound : Sound daemon.program) {event : DaemonEvent}
    (taken : daemonStep daemon event = some d) :
    run programStep daemon.program (daemon.asks event) = some d.program := by
  cases event with
  | connected status around =>
      cases taken
      have published : (daemon.publishObjects status).2.program = daemon.program := by
        unfold Daemon.publishObjects
        split <;> rfl
      have file : (daemon.publishObjects status).2.configFile = daemon.configFile := by
        unfold Daemon.publishObjects
        split <;> rfl
      have same : (daemon.publishObjects status).2.fileLoad around = daemon.fileLoad around := by
        unfold Daemon.fileLoad
        rw [file]
      have loaded := @Daemon.run_fileLoad (daemon.publishObjects status).2 around
      rw [published, same] at loaded
      exact loaded
  | event event launch =>
      cases taken
      exact (Daemon.run_eventAsks event).1
  | request path method msg around =>
      cases taken
      exact Daemon.run_requestAsks sound path method msg around
  | wakeUp name cb launch =>
      simp only [daemonStep] at taken
      split at taken
      · obtain ⟨program, reacted, rfl⟩ := Option.map_eq_some_iff.mp taken
        simp [Daemon.asks, programStep, reacted]
      · cases taken
  | shutdown =>
      cases taken
      have freed := @Daemon.program_interfaceTestersFree
        (daemon.send (interfaceTesterSendUpDownEvent daemon.program.ctx false))
      exact congrArg some freed.symm

end Steps

/-! ## Runs -/

/-- What a run of the daemon asks the program to do. -/
def askedBy : Daemon → List DaemonEvent → List ProgramEvent
  | _, [] => []
  | daemon, event :: events =>
      daemon.asks event ++ (daemonStep daemon event).elim [] fun d => askedBy d events

section Runs

variable {ctx : InterfaceTesterShared} {configFile : Option String} {daemon d : Daemon}
variable {events : List DaemonEvent}

theorem run_askedBy (sound : Sound daemon.program)
    (reached : run daemonStep daemon events = some d) :
    run programStep daemon.program (askedBy daemon events) = some d.program := by
  induction events generalizing daemon with
  | nil =>
      obtain rfl := Option.some.inj reached
      rfl
  | cons event events ih =>
      obtain ⟨next, taken, rest⟩ := Option.bind_eq_some_iff.mp reached
      have first := run_asks sound taken
      have later : Sound next.program := sound_moves (run_moves first) sound
      unfold askedBy
      rw [taken]
      exact run_trans first (ih later rest)

theorem length_toList_map_le {α β : Type} (one : Option α) (f : α → β) :
    (one.toList.map f).length ≤ 1 := by
  cases one <;> simp

theorem length_fileLoad_le (around : Surroundings) : (daemon.fileLoad around).length ≤ 1 := by
  unfold Daemon.fileLoad
  split <;> simp

/-- No event asks for more than one thing. -/
theorem length_asks_le (event : DaemonEvent) : (daemon.asks event).length ≤ 1 := by
  cases event with
  | connected status around => exact length_fileLoad_le around
  | event event launch =>
      simp only [Daemon.asks, Daemon.eventAsks]
      split
      · exact Nat.zero_le _
      · split
        · exact length_toList_map_le _ _
        · split
          · exact length_toList_map_le _ _
          · exact Nat.zero_le _
  | request path method msg around =>
      simp only [Daemon.asks, Daemon.requestAsks]
      split
      · split
        · exact Nat.le_refl _
        · split
          · exact length_fileLoad_le around
          · exact Nat.zero_le _
      · split
        · exact length_toList_map_le _ _
        · exact Nat.zero_le _
  | wakeUp name cb launch => exact Nat.le_refl _
  | shutdown => exact Nat.le_refl _

theorem length_askedBy_le (daemon : Daemon) (events : List DaemonEvent) :
    (askedBy daemon events).length ≤ events.length := by
  induction events generalizing daemon with
  | nil => exact Nat.le_refl _
  | cons event events ih =>
      unfold askedBy
      have first : (daemon.asks event).length ≤ 1 := length_asks_le event
      cases daemonStep daemon event with
      | none =>
          simp only [Option.elim_none, List.append_nil, List.length_cons]
          omega
      | some d =>
          have rest := ih d
          simp only [Option.elim_some, List.length_append, List.length_cons]
          omega

/-- **The daemon refines the program.** Whatever events, requests and messages come in, a
run of the daemon runs the program with the events that were asked for. Nothing asks for
more than one, and a message that asks for none leaves the whole daemon as it is. -/
theorem daemon_refines_program
    (reached : run daemonStep (contextInit ctx configFile) events = some daemon) :
    run programStep (configInit ctx) (askedBy (contextInit ctx configFile) events) =
        some daemon.program ∧
      (askedBy (contextInit ctx configFile) events).length ≤ events.length ∧
      (∀ event, (daemon.asks event).length ≤ 1) ∧
      ∀ event launch, daemon.eventAsks event launch = [] →
        daemon.deliver event launch = daemon :=
  ⟨run_askedBy (sound_configInit ctx) reached, length_askedBy_le _ _, length_asks_le,
    fun event _ => (Daemon.run_eventAsks event).2⟩

end Runs

/-! ## One interface is monitored -/

/-- The configuration file has one interface, which `netifd` has up. -/
def wanSurroundings : Surroundings where
  launch := .refused
  file := some [.table "interfaces" [pingEntry 3 3]]
  answers := fun _ => ⟨⟨true, ubusStatusOk⟩, ⟨true, ubusStatusOk, [[.int8 "up" 1]]⟩, .refused⟩
  remaining := fun _ _ => 0

/-- The connection is there, the first test starts, and the interface goes down. -/
def wanMonitored : List DaemonEvent :=
  [.connected ubusStatusOk wanSurroundings,
    .wakeUp "wan" .settlingDelayTimerExpired (.forked 7),
    .event ⟨interfaceMonitorEventId, [.string "action" "ifdown", .string "interface" "wan"]⟩
      .refused]

theorem wanMonitored_run :
    (run daemonStep (contextInit connectedShared (some "interfaces.json")) wanMonitored).isSome =
      true := by decide +kernel

/-- An event about an interface that is not tracked. -/
def lanDown : BusEvent :=
  ⟨interfaceMonitorEventId, [.string "action" "ifdown", .string "interface" "lan"]⟩

theorem daemon_refines_program_wan : ∃ daemon,
    run daemonStep (contextInit connectedShared (some "interfaces.json")) wanMonitored =
      some daemon ∧
    run programStep (configInit connectedShared)
      (askedBy (contextInit connectedShared (some "interfaces.json")) wanMonitored) =
        some daemon.program ∧
    (askedBy (contextInit connectedShared (some "interfaces.json")) wanMonitored).length ≤ 3 ∧
    (daemon.asks (.request sInterfaceTester "config" [] wanSurroundings)).length ≤ 1 ∧
    daemon.deliver lanDown .refused = daemon := by
  have happens : (run daemonStep (contextInit connectedShared (some "interfaces.json"))
      wanMonitored).map (fun daemon => (daemon.eventAsks lanDown .refused).isEmpty) =
        some true := by decide +kernel
  obtain ⟨daemon, reached, empty⟩ := Option.map_eq_some_iff.mp happens
  obtain ⟨ran, together, each, ignored⟩ := daemon_refines_program reached
  exact ⟨daemon, reached, ran, together, each _, ignored _ _ (List.isEmpty_iff.mp empty)⟩

end IfaceTester
