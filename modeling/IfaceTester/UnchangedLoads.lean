import IfaceTester.DaemonMoves
import IfaceTester.Reloads

/-!
# Loading what is in place

A configuration is loaded again and again: when the connection to `ubus` comes back, on
request, and when the configurator sends it. Here the tracked interfaces are compared with
what a configuration asks for (`AsAsked`). A load makes them the same, callbacks keep them
the same, and a load of a configuration that is in place is not noticed by anyone: all
interfaces stay in the state that they have come to, their objects stay published, and no
event is sent.
-/

set_option autoImplicit false

namespace IfaceTester

open Runs

/-- The tracked interfaces have the configurations that the load asks for, and no other
interface is tracked. -/
def AsAsked (program : Program) (config : List BlobAttr) : Prop :=
  ∀ name, (program.interfaces.find name).map Interface.config =
    lastAccepted program.ctx ((entriesOf config).takeWhile isEntry) name

/-- Nothing that can be seen from outside has changed. -/
structure Unnoticed (daemon d : Daemon) : Prop where
  interfaces : ∀ name, d.program.interfaces.find name = daemon.program.interfaces.find name
  objects : d.objects = daemon.objects
  sent : d.sent = daemon.sent

/-- The interface is tracked with the configuration that it is to have. -/
def InPlace (program : Program) (new : Interface) : Prop :=
  ∃ old, program.interfaces.find new.name = some old ∧ old.config = new.config

theorem Unnoticed.refl (daemon : Daemon) : Unnoticed daemon daemon := ⟨fun _ => rfl, rfl, rfl⟩

theorem Unnoticed.trans {daemon d later : Daemon} (first : Unnoticed daemon d)
    (second : Unnoticed d later) : Unnoticed daemon later where
  interfaces := fun name => (second.interfaces name).trans (first.interfaces name)
  objects := second.objects.trans first.objects
  sent := second.sent.trans first.sent

/-! ## An entry that is in place -/

section Entries

variable {daemon : Daemon} {program : Program} {msg : BlobAttr}

/-- The program changes, and sends nothing and keeps every interface. -/
theorem Unnoticed.of_silent {added : List LogEntry}
    (logged : program.log = daemon.program.log ++ added) (silent : sentEvents added = [])
    (same : ∀ name, program.interfaces.find name = daemon.program.interfaces.find name) :
    Unnoticed daemon (daemon.advance program) := by
  rw [Daemon.advance_eq logged, silent, List.append_nil]
  exact ⟨same, rfl, rfl⟩

/-- **The handler does nothing for an entry that is in place**, or that it refuses. -/
theorem handleEntry_unnoticed (answer : DaemonAnswer)
    (sound : Sound daemon.program)
    (inPlace : ∀ iface, (interfaceHandleConfig daemon.program.ctx msg).added = some iface →
      InPlace daemon.program iface) :
    Unnoticed daemon (daemon.handleEntry msg answer) := by
  unfold Daemon.handleEntry
  dsimp only
  cases handled : (interfaceHandleConfig daemon.program.ctx msg).added with
  | none =>
      dsimp only
      cases freed : (interfaceHandleConfig daemon.program.ctx msg).freed with
      | none =>
          have nothing : handleEntry daemon.program msg answer.answer = daemon.program := by
            simp [handleEntry, handled, freed]
          rw [nothing, advance_self]
          exact .refl daemon
      | some refused =>
          have rejected : handleEntry daemon.program msg answer.answer =
              daemon.program.rejected refused := by
            simp [handleEntry, handled, freed, Program.rejected]
          rw [rejected]
          refine .of_silent (@log_record refused daemon.program [] refused.trace rfl) ?_
            fun _ => rfl
          rw [trace_freed freed]
          rfl
  | some iface =>
      obtain ⟨old, tracked, config⟩ := inPlace iface handled
      have named := sound.named tracked
      have allocated := (loadable_of_interfaceHandleConfig handled).2
      have kept := configUpdate_of_eq config answer.answer.launch
      -- The interface that was decoded is freed at once, and has nothing to give back.
      have idle : (configMoved old iface).holdings = .nothing := by
        rw [allocated]
        unfold configMoved
        split <;> rfl
      have freed := log_free ((daemon.program.listed iface).change old old) (configMoved old iface)
      rw [freeTrace_of_nothing idle] at freed
      have changed : ((daemon.program.listed iface).change old old).log =
          (daemon.program.record [] iface).log := by
        simp [Program.change, Program.record, Program.listed]
      rw [changed] at freed
      have first := @log_record iface daemon.program [] iface.trace rfl
      have found : (daemon.program.record [] iface).interfaces.find iface.name = some old := tracked
      have same := Daemon.advance_setInterfaces_advance (daemon.program.interfaces.add iface.name
        iface) first freed
      have handles : (daemon.advance (daemon.program.record [] iface)).vlistAdd iface answer =
          ((daemon.advance (daemon.program.record [] iface)).setInterfaces
            (daemon.program.interfaces.add iface.name iface)).advance
              (((daemon.program.listed iface).change old old).free (configMoved old iface)) := by
        unfold Daemon.vlistAdd
        rw [Daemon.program_advance, found]
        exact congrArg (fun old' => ((daemon.advance (daemon.program.record [] iface)).setInterfaces
          (daemon.program.interfaces.add iface.name iface)).advance
            (((daemon.program.listed iface).change old old').free (configMoved old iface))) kept
      dsimp only
      rw [handles, same]
      refine ⟨fun name => ?_, rfl, ?_⟩
      · refine (find_listed_change named name).trans ?_
        split
        case isTrue here => rw [here, tracked]
        case isFalse => rfl
      · rw [sentEvents_append, allocated]
        exact List.append_nil _

/-- The loop of a load does nothing for entries that are in place. -/
theorem loadEntries_unnoticed (sound : Sound daemon.program) (entries : List BlobAttr)
    (answers : ℕ → DaemonAnswer)
    (inPlace : ∀ cur ∈ entries.takeWhile isEntry, ∀ iface,
      (interfaceHandleConfig daemon.program.ctx cur).added = some iface →
        InPlace daemon.program iface) :
    Unnoticed daemon (Daemon.loadEntries entries answers daemon).2 := by
  induction entries generalizing answers daemon with
  | nil => exact .refl daemon
  | cons cur rest ih =>
      unfold Daemon.loadEntries
      split
      case isFalse => exact .refl daemon
      case isTrue entry =>
        rw [List.takeWhile_cons, if_pos entry] at inPlace
        have handled := handleEntry_unnoticed (answers 0) sound
          (inPlace cur List.mem_cons_self)
        have moves := IfaceTester.handleEntry_moves daemon.program cur (answers 0).answer
        have program := @Daemon.program_handleEntry daemon cur (answers 0)
        refine handled.trans (ih ?_ _ fun later member iface accepted => ?_)
        · rw [program]
          exact sound_moves moves sound
        · rw [program, ctx_moves moves] at accepted
          obtain ⟨old, tracked, config⟩ := inPlace later (List.mem_cons_of_mem cur member) iface
            accepted
          exact ⟨old, (handled.interfaces iface.name).trans tracked, config⟩

/-- Nothing is dropped from a list of current nodes. -/
theorem interfaceFlushOld_of_current (current : daemon.program.interfaces.AllCurrent) :
    daemon.interfaceFlushOld = daemon := by
  unfold Daemon.interfaceFlushOld
  rw [current.stale_eq_nil]
  rfl

end Entries

/-! ## A load of what is in place -/

section Load

variable {daemon : Daemon} {program : Program} {config : List BlobAttr} {table : BlobAttr}

/-- With different names, an accepted entry is the one that its interface is tracked for. -/
theorem inPlace_of_asAsked (asAsked : AsAsked program config)
    (distinct : ((entriesOf config).map BlobAttr.name).Nodup) {cur : BlobAttr}
    (member : cur ∈ (entriesOf config).takeWhile isEntry) {iface : Interface}
    (accepted : (interfaceHandleConfig program.ctx cur).added = some iface) :
    InPlace program iface := by
  have listed : iface ∈ acceptedFor program.ctx ((entriesOf config).takeWhile isEntry) iface.name :=
    mem_acceptedFor.mpr ⟨mem_acceptedInterfaces.mpr ⟨cur, member, accepted⟩, rfl⟩
  have asked := asAsked iface.name
  rcases @requestsOf_of_nodup program.ctx config distinct noAnswer iface.name with
    ⟨-, empty⟩ | ⟨new, answer, -, one⟩
  · rw [empty] at listed
    exact absurd listed List.not_mem_nil
  · rw [one, List.mem_singleton] at listed
    rw [lastAccepted, one, ← listed] at asked
    obtain ⟨old, tracked, same⟩ := Option.map_eq_some_iff.mp asked
    exact ⟨old, tracked, same⟩

/-- Every interface that is in place was asked for, so it is current when the loop ends. -/
theorem allCurrent_loadEntries (sound : Sound program) (asAsked : AsAsked program config)
    (answers : ℕ → Answer)
    (same : ∀ name, (loadEntries (entriesOf config) answers
      (interfaceUpdate program)).2.interfaces.find name = program.interfaces.find name) :
    (loadEntries (entriesOf config) answers (interfaceUpdate program)).2.interfaces.AllCurrent := by
  have bumped : Sound (interfaceUpdate program) := sound
  obtain ⟨-, -, current, -⟩ := interfaces_loadEntries (entriesOf config) answers bumped
  intro node member
  have tracked := (same node.key).symm.trans (VersionedList.find_of_mem member)
  have asked := asAsked node.key
  rw [tracked] at asked
  have requested : requestsOf node.key (askedFor program.ctx (entriesOf config) answers) ≠ [] := by
    intro unasked
    rw [lastAccepted, requestsOf_eq_nil_iff.mp unasked] at asked
    cases asked
  obtain ⟨other, found, version⟩ := (current node.key).mpr (.inl requested)
  obtain rfl := Option.some.inj (found.symm.trans (VersionedList.node?_of_mem member))
  exact version

/-- **A load of what is in place is not noticed.** -/
theorem configLoadConfig_unnoticed (sound : Sound daemon.program)
    (current : daemon.program.interfaces.AllCurrent)
    (distinct : ((entriesOf config).map BlobAttr.name).Nodup)
    (asAsked : (interfacesTable config).isSome = true → AsAsked daemon.program config)
    (answers : ℕ → DaemonAnswer) :
    Unnoticed daemon (daemon.configLoadConfig config answers).2 := by
  cases found : interfacesTable config with
  | none =>
      have nothing : (daemon.configLoadConfig config answers).2 = daemon.interfaceFlushOld := by
        unfold Daemon.configLoadConfig
        rw [found]
      rw [nothing, interfaceFlushOld_of_current current]
      exact .refl daemon
  | some table =>
      have asked := asAsked (found ▸ rfl)
      have entries := entriesOf_of_table found
      have bumped : Unnoticed daemon daemon.interfaceUpdate := ⟨fun _ => rfl, rfl, rfl⟩
      have soundLater : Sound daemon.interfaceUpdate.program := sound
      have loaded : Unnoticed daemon
          (Daemon.loadEntries table.data answers daemon.interfaceUpdate).2 := by
        refine bumped.trans (loadEntries_unnoticed soundLater table.data answers
          fun cur member iface accepted => ?_)
        rw [← entries] at member
        exact @inPlace_of_asAsked daemon.program config asked distinct cur member iface accepted
      have kept : (Daemon.loadEntries table.data answers
          daemon.interfaceUpdate).2.program.interfaces.AllCurrent := by
        rw [(@Daemon.program_loadEntries daemon.interfaceUpdate table.data answers).2, ← entries]
        refine allCurrent_loadEntries sound asked (Daemon.answersOf answers) fun name => ?_
        rw [entries]
        have same := loaded.interfaces name
        rw [(@Daemon.program_loadEntries daemon.interfaceUpdate table.data answers).2] at same
        exact same
      have type : table.type = some .table := (selects_of_blobmsgParse found).1
      have load : (daemon.configLoadConfig config answers).2 =
          (Daemon.loadEntries table.data answers daemon.interfaceUpdate).2.interfaceFlushOld := by
        unfold Daemon.configLoadConfig
        rw [found]
        dsimp only
        rw [if_neg (not_not_intro type)]
      rw [load, interfaceFlushOld_of_current kept]
      exact loaded

end Load

/-! ## What stays in place -/

/-- The event is a callback of some interface. -/
def ProgramEvent.isCallback : ProgramEvent → Bool
  | .callback _ _ _ => true
  | _ => false

/-- The event neither loads a configuration nor ends the daemon. -/
def DaemonEvent.leavesConfig : DaemonEvent → Bool
  | .connected _ _ => false
  | .event _ _ => true
  | .request path method _ _ =>
      !(decide (path = sInterfaceTester) &&
        (decide (method = "config") || decide (method = "config_reload")))
  | .wakeUp _ _ _ => true
  | .shutdown => false

/-- The configuration was loaded and is still in place. -/
structure InForce (program : Program) (config : List BlobAttr) : Prop where
  sound : Sound program
  current : program.interfaces.AllCurrent
  asAsked : (interfacesTable config).isSome = true → AsAsked program config

section Stays

variable {daemon d : Daemon} {program q : Program} {config : List BlobAttr}

/-- A load brings its configuration into force, whether it reports success or not. -/
theorem inForce_configLoadConfig (sound : Sound program)
    (current : program.interfaces.AllCurrent) (answers : ℕ → Answer) :
    InForce (configLoadConfig program config answers).2 config where
  sound := sound_moves (configLoadConfig_moves program config answers) sound
  current := allCurrent_configLoadConfig program config answers
  asAsked := by
    intro table name
    obtain ⟨table, found⟩ := Option.isSome_iff_exists.mp table
    obtain ⟨listed, asked⟩ :=
      @tracked_after_load program config answers table sound current found name
    rw [ctx_moves (configLoadConfig_moves program config answers)]
    cases tracked : (configLoadConfig program config answers).2.interfaces.find name with
    | some iface => exact (asked iface tracked).2.symm
    | none =>
        have absent := VersionedList.find_eq_none_iff.mp tracked
        rw [listed, not_not] at absent
        rw [lastAccepted, absent]
        rfl

/-- **A callback leaves every configuration as it is.** -/
theorem configs_callback (sound : Sound program) {event : ProgramEvent}
    (called : event.isCallback = true) (taken : programStep program event = some q) :
    q.interfaces.keys = program.interfaces.keys ∧
      ∀ name, (q.interfaces.find name).map Interface.config =
        (program.interfaces.find name).map Interface.config := by
  cases event with
  | load config answers => cases called
  | testersFree => cases called
  | callback other cb launch =>
      obtain ⟨external, iface, t, tracked, stepped, rfl⟩ := callbackStep_eq_some_iff.mp taken
      have reached := sound other iface tracked
      have kept : t.config = iface.config := by
        rcases (step_move reached.coherent stepped).config with same | ⟨new, update, -⟩
        · exact same
        · exact absurd update (external new)
      have set : ((program.reap iface cb).change iface t).interfaces =
          program.interfaces.set iface.name t := rfl
      refine ⟨by rw [set, VersionedList.keys_set], fun name => ?_⟩
      rw [set, VersionedList.find_set, reached.identity.2]
      split
      case isTrue here =>
        rw [here, tracked, Option.map_some, Option.map_some, Option.map_some, kept]
      case isFalse => rfl

theorem InForce.callback (inForce : InForce program config) {event : ProgramEvent}
    (called : event.isCallback = true) (taken : programStep program event = some q) :
    InForce q config := by
  have moves := programStep_moves taken
  refine ⟨sound_moves moves inForce.sound, allCurrent_step inForce.current taken,
    fun table name => ?_⟩
  rw [(configs_callback inForce.sound called taken).2 name, ctx_moves moves]
  exact inForce.asAsked table name

theorem callbackFor_isCallback (name : Option String) (cb : Callback) (launch : Launch) :
    ∀ asked ∈ daemon.callbackFor name cb launch, asked.isCallback = true := by
  intro asked member
  obtain ⟨name, -, rfl⟩ := List.mem_map.mp member
  rfl

/-- Such an event asks for callbacks only. -/
theorem asks_isCallback {event : DaemonEvent} (leaves : event.leavesConfig = true) :
    ∀ asked ∈ daemon.asks event, asked.isCallback = true := by
  intro asked member
  cases event with
  | connected status around => cases leaves
  | shutdown => cases leaves
  | wakeUp name cb launch =>
      obtain rfl := List.mem_singleton.mp member
      rfl
  | event event launch =>
      have member : asked ∈ daemon.eventAsks event launch := member
      unfold Daemon.eventAsks at member
      split at member
      · cases member
      · split at member
        · exact callbackFor_isCallback _ _ _ asked member
        · split at member
          · exact callbackFor_isCallback _ _ _ asked member
          · cases member
  | request path method msg around =>
      have member : asked ∈ daemon.requestAsks path method msg around := member
      unfold Daemon.requestAsks at member
      split at member
      case isTrue main =>
        simp only [DaemonEvent.leavesConfig, main.1, decide_true, Bool.true_and, Bool.not_eq_true',
          Bool.or_eq_false_iff, decide_eq_false_iff_not] at leaves
        rw [if_neg leaves.1, if_neg leaves.2] at member
        cases member
      case isFalse =>
        split at member
        · obtain ⟨name, -, rfl⟩ := List.mem_map.mp member
          rfl
        · cases member

/-- It leaves what is in force in force. -/
theorem InForce.stepped (inForce : InForce daemon.program config) {event : DaemonEvent}
    (leaves : event.leavesConfig = true) (taken : daemonStep daemon event = some d) :
    InForce d.program config := by
  have ran := run_asks inForce.sound taken
  refine visits_of_invariant (I := fun program => InForce program config)
    (fun before asked after stepped there => ?_) inForce (visits_last ran)
  exact there.callback (asks_isCallback leaves asked stepped.mem) stepped.step_eq

/-- **Loading an unchanged configuration disturbs nothing.** A configuration was loaded in
some state that the daemon came to, and then neither a load nor the shutdown came, but
anything else did. When the configuration is loaded again, the answer is the same, every
interface stays in the state that it has come to, no object is published or taken back, and
no event is sent. -/
theorem unchanged_load_disturbs_nothing {ctx : InterfaceTesterShared}
    {configFile : Option String} {before between : List DaemonEvent} {later : Daemon}
    {answers again : ℕ → DaemonAnswer}
    (reached : run daemonStep (contextInit ctx configFile) before = some daemon)
    (distinct : ((entriesOf config).map BlobAttr.name).Nodup)
    (leaves : ∀ event ∈ between, event.leavesConfig = true)
    (ran : run daemonStep (daemon.configLoadConfig config answers).2 between = some later) :
    (later.configLoadConfig config again).1 = (daemon.configLoadConfig config answers).1 ∧
      Unnoticed later (later.configLoadConfig config again).2 := by
  have sound := (@daemon_invariant daemon ctx configFile before (fun _ => True) trivial
    (fun _ _ _ _ _ => trivial) reached).1
  have current := allCurrent_of_run (run_askedBy (sound_configInit ctx) reached)
  have loaded : InForce (daemon.configLoadConfig config answers).2.program config := by
    rw [(Daemon.program_configLoadConfig config answers).2]
    exact inForce_configLoadConfig sound current _
  have inForce : InForce later.program config :=
    visits_of_invariant (I := fun d : Daemon => InForce d.program config)
      (fun _ event _ taken there => there.stepped (leaves event taken.mem) taken.step_eq) loaded
      (visits_last ran)
  refine ⟨?_, configLoadConfig_unnoticed inForce.sound inForce.current distinct inForce.asAsked
    again⟩
  rw [(Daemon.program_configLoadConfig config again).1,
    (Daemon.program_configLoadConfig config answers).1]
  cases found : interfacesTable config with
  | none => rw [configLoadConfig_of_none found, configLoadConfig_of_none found]
  | some table =>
      rw [configLoadConfig_fst inForce.sound found, configLoadConfig_fst sound found]

end Stays

/-! ## One interface is loaded twice -/

/-- The daemon after a request to monitor one interface. -/
def wanRequested : Daemon :=
  ((contextInit connectedShared none).configLoadConfig (wanConfig 3) wanSurroundings.answers).2

/-- A first test is run, and passes. -/
def wanTested : List DaemonEvent :=
  [.wakeUp "wan" .settlingDelayTimerExpired (.forked 7), .wakeUp "wan" (.testProcExited 0) .refused]

theorem wanTested_run : (run daemonStep wanRequested wanTested).isSome = true := by decide +kernel

theorem unchanged_load_disturbs_nothing_wan : ∃ later,
    run daemonStep wanRequested wanTested = some later ∧
      Unnoticed later (later.configLoadConfig (wanConfig 3) wanSurroundings.answers).2 := by
  obtain ⟨later, ran⟩ := Option.isSome_iff_exists.mp wanTested_run
  exact ⟨later, ran, (@unchanged_load_disturbs_nothing _ _ connectedShared none [] wanTested later
    wanSurroundings.answers wanSurroundings.answers rfl (by decide +kernel) (by decide) ran).2⟩

end IfaceTester
