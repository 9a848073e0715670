import IfaceTester.ProgramMoves
import Mathlib.Data.List.Induction

/-!
# What a configuration load leaves tracked

A load goes through the entries of the table until it meets an attribute that is no
entry, and it always flushes at the end. For one name, the loop is a fold over the
entries of that name that the handler accepts (`track`): the first one begins an
interface, and a later one updates the configuration. After the flush a name is
tracked exactly when the loop came to such an entry (`find_load`).

The rest follows from that: what is tracked after a load that succeeds, what a load
that fails does to the interfaces that were tracked before, and that the second of
two equal loads changes nothing.
-/

set_option autoImplicit false

namespace IfaceTester

open Runs

/-! ## What a load asks for -/

/-- The attributes of the table that a load finds. -/
def entriesOf (config : List BlobAttr) : List BlobAttr :=
  (interfacesTable config).elim [] BlobAttr.data

/-- The interfaces that the handler hands over for some entries, in their order. -/
def acceptedInterfaces (ctx : InterfaceTesterShared) (entries : List BlobAttr) : List Interface :=
  entries.filterMap fun entry => (interfaceHandleConfig ctx entry).added

/-- What the loop asks for, with the answers of the system. -/
def askedFor (ctx : InterfaceTesterShared) :
    List BlobAttr → (ℕ → Answer) → List (Interface × Answer)
  | [], _ => []
  | cur :: rest, answers =>
      if isEntry cur then
        ((interfaceHandleConfig ctx cur).added.map fun iface => (iface, answers 0)).toList ++
          askedFor ctx rest fun k => answers (k + 1)
      else []

/-- What one request does to the interface with its name. -/
def track : Option Interface → Interface × Answer → Option Interface
  | none, (new, answer) => some (interfaceTesterBegin new answer.isConnected answer.launch)
  | some old, (new, answer) => some (configUpdate old new.config answer.launch)

/-- The requests for a name. -/
def requestsOf (name : String) (asked : List (Interface × Answer)) : List (Interface × Answer) :=
  asked.filter fun request => decide (request.1.name = name)

theorem requestsOf_append (name : String) (asked later : List (Interface × Answer)) :
    requestsOf name (asked ++ later) = requestsOf name asked ++ requestsOf name later :=
  List.filter_append _ _

section Requests

variable {ctx : InterfaceTesterShared} {entries : List BlobAttr} {answers : ℕ → Answer}
variable {name : String}

/-- The loop asks for the accepted interfaces of the entries that it comes to. -/
theorem map_fst_askedFor : (askedFor ctx entries answers).map Prod.fst =
    acceptedInterfaces ctx (entries.takeWhile isEntry) := by
  induction entries generalizing answers with
  | nil => rfl
  | cons cur rest ih =>
      unfold askedFor
      cases entry : isEntry cur with
      | false => simp [entry, acceptedInterfaces]
      | true =>
          cases added : (interfaceHandleConfig ctx cur).added <;>
            simp [entry, acceptedInterfaces, added, ih]

theorem mem_acceptedInterfaces {iface : Interface} :
    iface ∈ acceptedInterfaces ctx entries ↔
      ∃ entry ∈ entries, (interfaceHandleConfig ctx entry).added = some iface :=
  List.mem_filterMap

/-- Every request is for an interface that the handler handed over. -/
theorem handled_of_askedFor {request : Interface × Answer}
    (asked : request ∈ askedFor ctx entries answers) :
    ∃ msg, (interfaceHandleConfig ctx msg).added = some request.1 := by
  have accepted : request.1 ∈ (askedFor ctx entries answers).map Prod.fst :=
    List.mem_map_of_mem asked
  rw [map_fst_askedFor] at accepted
  obtain ⟨msg, -, handled⟩ := mem_acceptedInterfaces.mp accepted
  exact ⟨msg, handled⟩

theorem name_of_added {msg : BlobAttr} {iface : Interface}
    (handled : (interfaceHandleConfig ctx msg).added = some iface) : iface.name = msg.name :=
  congrArg Interface.name (loadable_of_interfaceHandleConfig handled).2

/-- The accepted interfaces of a name. -/
def acceptedFor (ctx : InterfaceTesterShared) (entries : List BlobAttr) (name : String) :
    List Interface :=
  (acceptedInterfaces ctx entries).filter fun iface => decide (iface.name = name)

theorem map_fst_requestsOf : (requestsOf name (askedFor ctx entries answers)).map Prod.fst =
    acceptedFor ctx (entries.takeWhile isEntry) name := by
  unfold acceptedFor requestsOf
  rw [← map_fst_askedFor, List.filter_map]
  rfl

theorem mem_acceptedFor {iface : Interface} : iface ∈ acceptedFor ctx entries name ↔
    iface ∈ acceptedInterfaces ctx entries ∧ iface.name = name := by
  simp [acceptedFor]

/-- An accepted interface has the name of its entry. -/
theorem acceptedFor_ne_nil_iff : acceptedFor ctx entries name ≠ [] ↔
    ∃ entry ∈ entries, entry.name = name ∧
      (interfaceHandleConfig ctx entry).added.isSome = true := by
  constructor
  · intro nonempty
    obtain ⟨iface, member⟩ := List.exists_mem_of_ne_nil _ nonempty
    obtain ⟨accepted, named⟩ := mem_acceptedFor.mp member
    obtain ⟨entry, listed, handled⟩ := mem_acceptedInterfaces.mp accepted
    exact ⟨entry, listed, (name_of_added handled).symm.trans named,
      Option.isSome_iff_exists.mpr ⟨iface, handled⟩⟩
  · rintro ⟨entry, listed, named, handled⟩
    obtain ⟨iface, handled⟩ := Option.isSome_iff_exists.mp handled
    have accepted := mem_acceptedInterfaces.mpr ⟨entry, listed, handled⟩
    exact List.ne_nil_of_mem (mem_acceptedFor.mpr ⟨accepted, (name_of_added handled).trans named⟩)

/-- When no two accepted interfaces have the same name, a name has at most one. -/
theorem acceptedFor_of_nodup
    (distinct : ((acceptedInterfaces ctx entries).map Interface.name).Nodup) (name : String) :
    acceptedFor ctx entries name = [] ∨ ∃ iface, acceptedFor ctx entries name = [iface] := by
  have short : (acceptedFor ctx entries name).length ≤ 1 := by
    have one : ((acceptedFor ctx entries name).map Interface.name).Nodup :=
      distinct.sublist (List.filter_sublist.map _)
    have same : (acceptedFor ctx entries name).map Interface.name =
        List.replicate (acceptedFor ctx entries name).length name := by
      rw [List.eq_replicate_iff]
      refine ⟨List.length_map _, fun other member => ?_⟩
      obtain ⟨iface, listed, rfl⟩ := List.mem_map.mp member
      exact (mem_acceptedFor.mp listed).2
    rw [same] at one
    exact List.nodup_replicate.mp one
  rcases Nat.le_one_iff_eq_zero_or_eq_one.mp short with zero | one
  · exact .inl (List.eq_nil_of_length_eq_zero zero)
  · exact .inr (List.length_eq_one_iff.mp one)

end Requests

/-! ## The interface of a name, request by request -/

section Track

variable {ctx : InterfaceTesterShared} {name : String}

/-- The interface of the name, if there is one, is in a state it can be in. -/
def ReachedIfAny (ctx : InterfaceTesterShared) (name : String) (old : Option Interface) : Prop :=
  ∀ iface, old = some iface → Reached ctx name iface

/-- The requests are for interfaces of the name that the handler handed over. -/
def RequestsFor (ctx : InterfaceTesterShared) (name : String)
    (requests : List (Interface × Answer)) : Prop :=
  ∀ request ∈ requests, request.1.name = name ∧
    ∃ msg, (interfaceHandleConfig ctx msg).added = some request.1

theorem requestsFor_requestsOf (ctx : InterfaceTesterShared) (name : String)
    (entries : List BlobAttr) (answers : ℕ → Answer) :
    RequestsFor ctx name (requestsOf name (askedFor ctx entries answers)) := by
  intro request member
  obtain ⟨asked, named⟩ := List.mem_filter.mp member
  exact ⟨of_decide_eq_true named, handled_of_askedFor asked⟩

/-- **One request leaves the interface with the configuration that was asked for.** -/
theorem track_spec {old : Option Interface} (reached : ReachedIfAny ctx name old)
    {new : Interface} (answer : Answer) (named : new.name = name) {msg : BlobAttr}
    (handled : (interfaceHandleConfig ctx msg).added = some new) :
    ∃ t, track old (new, answer) = some t ∧ Reached ctx name t ∧ t.config = new.config := by
  subst named
  have loadable := (loadable_of_interfaceHandleConfig handled).1
  cases old with
  | none =>
      refine ⟨_, rfl, reached_of_interfaceHandleConfig handled answer, ?_⟩
      rw [begun_of_interfaceHandleConfig handled]
      exact config_begun _ _ _ _ _
  | some old =>
      have before := reached old rfl
      refine ⟨_, rfl, before.configUpdate handled answer.launch, ?_⟩
      have same : old.ctx = ctx := before.identity.1
      exact configUpdate_config before.coherent (same ▸ before.loadable) (same ▸ loadable)
        answer.launch

/-- **After some requests the interface has the configuration of the last one.** -/
theorem foldl_track_spec {old : Option Interface} (reached : ReachedIfAny ctx name old)
    {requests : List (Interface × Answer)} (requested : RequestsFor ctx name requests) :
    ReachedIfAny ctx name (requests.foldl track old) ∧
      ∀ request, requests.getLast? = some request →
        ∃ t, requests.foldl track old = some t ∧ t.config = request.1.config := by
  induction requests using List.reverseRecOn with
  | nil => exact ⟨reached, fun request last => by cases last⟩
  | append_singleton requests last ih =>
      obtain ⟨before, -⟩ :=
        ih fun request member => requested request (List.mem_append_left _ member)
      obtain ⟨named, msg, handled⟩ := requested last (List.mem_append_right _ List.mem_cons_self)
      obtain ⟨t, tracked, after, config⟩ := track_spec before last.2 named handled
      rw [List.foldl_append, List.foldl_cons, List.foldl_nil, tracked]
      refine ⟨fun iface same => Option.some.inj same ▸ after, fun request found => ?_⟩
      rw [List.getLast?_append, List.getLast?_singleton, Option.some_or] at found
      obtain rfl := Option.some.inj found
      exact ⟨t, rfl, config⟩

end Track

/-! ## The loop -/

section Loop

variable {ctx : InterfaceTesterShared} {program : Program} {name : String}

theorem sound_moves {q : Program} (moves : ProgramMoves program q) (sound : Sound program) :
    Sound q :=
  moves_invariant (fun _ _ move => move.sound) moves sound

theorem ctx_moves {q : Program} (moves : ProgramMoves program q) : q.ctx = program.ctx :=
  moves_invariant (I := fun later => later.ctx = program.ctx)
    (fun _ _ move same => move.ctx.trans same) moves rfl

/-- The node of the name stays or is made, and what `track` says is stored in it. -/
theorem vlistAdd_eq {iface : Interface} (answer : Answer) (sound : Sound program) :
    ∃ tracked, track (program.interfaces.find iface.name) (iface, answer) = some tracked ∧
      (vlistAdd program iface answer).interfaces =
        (program.interfaces.add iface.name iface).set iface.name tracked := by
  unfold vlistAdd
  cases found : program.interfaces.find iface.name with
  | none => exact ⟨_, rfl, rfl⟩
  | some old =>
      have same := sound.named found
      refine ⟨configUpdate old iface.config answer.launch, rfl, ?_⟩
      rw [← same]
      rfl

theorem interfaces_vlistAdd {iface : Interface} (answer : Answer) (sound : Sound program) :
    (vlistAdd program iface answer).interfaces.version = program.interfaces.version ∧
      (∀ name, (vlistAdd program iface answer).interfaces.Current name ↔
        name = iface.name ∨ program.interfaces.Current name) ∧
      ∀ name, (vlistAdd program iface answer).interfaces.find name =
        if name = iface.name then track (program.interfaces.find name) (iface, answer)
        else program.interfaces.find name := by
  obtain ⟨tracked, asked, list⟩ := vlistAdd_eq answer sound
  rw [list]
  refine ⟨by simp, fun name => by rw [VersionedList.current_set, VersionedList.current_add],
    fun name => ?_⟩
  rw [VersionedList.find_set, VersionedList.find_add]
  split
  case isTrue here =>
    subst here
    rw [asked]
    rfl
  case isFalse => rfl

/-- What the handler of an entry does to the list. -/
theorem interfaces_handleEntry (msg : BlobAttr) (answer : Answer) (sound : Sound program) :
    (handleEntry program msg answer).interfaces.version = program.interfaces.version ∧
      (∀ name, (handleEntry program msg answer).interfaces.Current name ↔
        requestsOf name ((interfaceHandleConfig program.ctx msg).added.map fun iface =>
          (iface, answer)).toList ≠ [] ∨ program.interfaces.Current name) ∧
      ∀ name, (handleEntry program msg answer).interfaces.find name =
        (requestsOf name ((interfaceHandleConfig program.ctx msg).added.map fun iface =>
          (iface, answer)).toList).foldl track (program.interfaces.find name) := by
  unfold handleEntry
  dsimp only
  cases added : (interfaceHandleConfig program.ctx msg).added with
  | none =>
      cases (interfaceHandleConfig program.ctx msg).freed with
      | none => exact ⟨rfl, by simp [requestsOf], fun name => rfl⟩
      | some iface => exact ⟨rfl, by simp [requestsOf, Program.record], fun name => rfl⟩
  | some iface =>
      have recorded : Sound (program.record [] iface) := sound
      obtain ⟨version, current, find⟩ := interfaces_vlistAdd answer recorded
      refine ⟨version, fun name => ?_, fun name => ?_⟩
      · have recorded : (program.record [] iface).interfaces = program.interfaces := rfl
        rw [current name, recorded]
        by_cases here : iface.name = name
        · simp [requestsOf, here]
        · have apart : ¬ name = iface.name := fun same => here same.symm
          simp [requestsOf, here, apart]
      · rw [find name]
        by_cases here : name = iface.name
        · subst here
          simp [requestsOf, Program.record]
        · have apart : iface.name ≠ name := fun same => here same.symm
          simp [requestsOf, here, apart, Program.record]

/-- **The loop of a load is a fold over the requests of each name.** -/
theorem interfaces_loadEntries (entries : List BlobAttr) (answers : ℕ → Answer)
    (sound : Sound program) :
    (loadEntries entries answers program).1 = entries.all isEntry ∧
      (loadEntries entries answers program).2.interfaces.version = program.interfaces.version ∧
      (∀ name, (loadEntries entries answers program).2.interfaces.Current name ↔
        requestsOf name (askedFor program.ctx entries answers) ≠ [] ∨
          program.interfaces.Current name) ∧
      ∀ name, (loadEntries entries answers program).2.interfaces.find name =
        (requestsOf name (askedFor program.ctx entries answers)).foldl track
          (program.interfaces.find name) := by
  induction entries generalizing answers program with
  | nil => exact ⟨rfl, rfl, by simp [askedFor, requestsOf, loadEntries], fun name => rfl⟩
  | cons cur rest ih =>
      unfold loadEntries askedFor
      cases entry : isEntry cur with
      | false => exact ⟨by simp [entry], rfl, by simp [requestsOf], fun name => rfl⟩
      | true =>
          obtain ⟨version, current, find⟩ := interfaces_handleEntry cur (answers 0) sound
          have moves := handleEntry_moves program cur (answers 0)
          obtain ⟨whole, version', current', find'⟩ :=
            ih (fun k => answers (k + 1)) (sound_moves moves sound)
          rw [ctx_moves moves] at current' find'
          refine ⟨by simpa [entry] using whole, version'.trans version, fun name => ?_,
            fun name => ?_⟩
          · rw [if_pos rfl, if_pos rfl, current', current]
            rw [requestsOf_append, ne_eq, ne_eq, ne_eq, List.append_eq_nil_iff, not_and_or,
              or_left_comm, or_assoc]
          · rw [if_pos rfl, if_pos rfl, find', find, requestsOf_append, List.foldl_append]

end Loop

/-! ## A whole load -/

section Load

variable {ctx : InterfaceTesterShared} {program : Program} {config : List BlobAttr}
variable {answers : ℕ → Answer} {table : BlobAttr}

theorem foldl_vlistDelete_interfaces (nodes : List (VersionedNode String Interface))
    (program : Program) : (nodes.foldl vlistDelete program).interfaces =
      nodes.foldl (fun rest node => rest.remove node.key) program.interfaces := by
  induction nodes generalizing program with
  | nil => rfl
  | cons node nodes ih => exact ih (vlistDelete program node)

/-- The list after `interface_flush_old`. -/
theorem interfaces_interfaceFlushOld (program : Program) :
    (interfaceFlushOld program).interfaces = program.interfaces.flush :=
  (foldl_vlistDelete_interfaces _ program).trans (VersionedList.foldl_remove_stale _)

theorem configLoadConfig_of_none (missing : interfacesTable config = none) :
    configLoadConfig program config answers = (false, interfaceFlushOld program) := by
  unfold configLoadConfig
  rw [missing]

theorem configLoadConfig_of_table (found : interfacesTable config = some table) :
    configLoadConfig program config answers =
      ((loadEntries table.data answers (interfaceUpdate program)).1,
        interfaceFlushOld (loadEntries table.data answers (interfaceUpdate program)).2) := by
  have type : table.type = some .table := (selects_of_blobmsgParse found).1
  unfold configLoadConfig
  rw [found]
  dsimp only
  rw [if_neg (not_not_intro type)]

theorem entriesOf_of_table (found : interfacesTable config = some table) :
    entriesOf config = table.data := by
  rw [entriesOf, found]
  rfl

/-- After a load every node is current. -/
theorem allCurrent_configLoadConfig (program : Program) (config : List BlobAttr)
    (answers : ℕ → Answer) : (configLoadConfig program config answers).2.interfaces.AllCurrent := by
  unfold configLoadConfig
  dsimp only
  rw [interfaces_interfaceFlushOld]
  exact VersionedList.allCurrent_flush _

theorem allCurrent_step {event : ProgramEvent} {q : Program}
    (current : program.interfaces.AllCurrent) (taken : programStep program event = some q) :
    q.interfaces.AllCurrent := by
  cases event with
  | load config answers =>
      cases taken
      exact allCurrent_configLoadConfig program config answers
  | testersFree =>
      cases taken
      unfold interfaceTestersFree
      rw [interfaces_interfaceFlushOld]
      exact VersionedList.allCurrent_flush _
  | callback name cb launch =>
      simp only [programStep, callbackStep] at taken
      split at taken
      · cases taken
      · obtain ⟨iface, _, stepped⟩ := Option.bind_eq_some_iff.mp taken
        obtain ⟨t, _, rfl⟩ := Option.map_eq_some_iff.mp stepped
        exact current.set

/-- **Between events every node is current.** -/
theorem allCurrent_of_run {events : List ProgramEvent}
    (reached : run programStep (configInit ctx) events = some program) :
    program.interfaces.AllCurrent :=
  run_invariant (I := fun program : Program => program.interfaces.AllCurrent)
    (fun _ _ _ current taken => allCurrent_step current taken) VersionedList.allCurrent_empty
    reached

/-- **The shutdown leaves no interface.** -/
theorem nodes_interfaceTestersFree (current : program.interfaces.AllCurrent) :
    (interfaceTestersFree program).interfaces.nodes = [] := by
  unfold interfaceTestersFree
  rw [interfaces_interfaceFlushOld]
  refine List.filter_eq_nil_iff.mpr fun node member => ?_
  have before : node.version = program.interfaces.version := current node member
  simp [before, interfaceUpdate, VersionedList.update]

theorem find_interfaceTestersFree (current : program.interfaces.AllCurrent) (name : String) :
    (interfaceTestersFree program).interfaces.find name = none := by
  unfold VersionedList.find VersionedList.node?
  rw [nodes_interfaceTestersFree current]
  rfl

/-- Without a table a load leaves every interface as it is. -/
theorem find_load_of_none (current : program.interfaces.AllCurrent)
    (missing : interfacesTable config = none) (name : String) :
    (configLoadConfig program config answers).2.interfaces.find name =
      program.interfaces.find name := by
  rw [configLoadConfig_of_none missing, interfaces_interfaceFlushOld]
  unfold VersionedList.find VersionedList.node?
  rw [current.flush_nodes]

/-- **With a table, a name is tracked when there was a request for it.** -/
theorem find_load (sound : Sound program) (current : program.interfaces.AllCurrent)
    (found : interfacesTable config = some table) (name : String) :
    (configLoadConfig program config answers).2.interfaces.find name =
      if requestsOf name (askedFor program.ctx (entriesOf config) answers) = [] then none
      else (requestsOf name (askedFor program.ctx (entriesOf config) answers)).foldl track
        (program.interfaces.find name) := by
  have bumped : Sound (interfaceUpdate program) := sound
  obtain ⟨-, -, asked, find⟩ := interfaces_loadEntries table.data answers bumped
  have dropped : ¬ (interfaceUpdate program).interfaces.Current name := current.not_current_update
  have kept := asked name
  rw [or_iff_left dropped] at kept
  rw [configLoadConfig_of_table found, entriesOf_of_table found]
  dsimp only
  rw [interfaces_interfaceFlushOld]
  split
  case isTrue unasked =>
    exact VersionedList.find_flush_of_not_current fun still => kept.mp still unasked
  case isFalse requested =>
    rw [VersionedList.find_flush_of_current (kept.mpr requested), find name]
    rfl

theorem configLoadConfig_fst (sound : Sound program)
    (found : interfacesTable config = some table) :
    (configLoadConfig program config answers).1 = (entriesOf config).all isEntry := by
  have bumped : Sound (interfaceUpdate program) := sound
  rw [configLoadConfig_of_table found, entriesOf_of_table found]
  exact (interfaces_loadEntries table.data answers bumped).1

/-! ## A load that succeeds -/

/-- The configuration of the last accepted entry of a name. -/
def lastAccepted (ctx : InterfaceTesterShared) (entries : List BlobAttr) (name : String) :
    Option InterfaceConfig :=
  (acceptedFor ctx entries name).getLast?.map Interface.config

theorem requestsOf_eq_nil_iff {name : String} :
    requestsOf name (askedFor ctx (entriesOf config) answers) = [] ↔
      acceptedFor ctx ((entriesOf config).takeWhile isEntry) name = [] := by
  rw [← @map_fst_requestsOf ctx (entriesOf config) answers name, List.map_eq_nil_iff]

/-- What is tracked after any load that finds a table: the accepted entries that it
came to. -/
theorem tracked_after_load (sound : Sound program) (current : program.interfaces.AllCurrent)
    (found : interfacesTable config = some table) (name : String) :
    (name ∈ (configLoadConfig program config answers).2.interfaces.keys ↔
      acceptedFor program.ctx ((entriesOf config).takeWhile isEntry) name ≠ []) ∧
    ∀ iface, (configLoadConfig program config answers).2.interfaces.find name = some iface →
      iface.name = name ∧
        lastAccepted program.ctx ((entriesOf config).takeWhile isEntry) name =
          some iface.config := by
  have listed := @requestsOf_eq_nil_iff program.ctx config answers name
  have before : ReachedIfAny program.ctx name (program.interfaces.find name) := sound name
  have requested := requestsFor_requestsOf program.ctx name (entriesOf config) answers
  obtain ⟨after, last⟩ := foldl_track_spec before requested
  have accepted := @map_fst_requestsOf program.ctx (entriesOf config) answers name
  have find := @find_load program config answers table sound current found name
  rw [VersionedList.mem_keys_iff, ne_eq, ← listed, lastAccepted, ← accepted, List.getLast?_map,
    Option.map_map]
  by_cases unasked : requestsOf name (askedFor program.ctx (entriesOf config) answers) = []
  · rw [if_pos unasked] at find
    simp [find, unasked]
  · rw [if_neg unasked] at find
    have ends := List.getLast?_eq_some_getLast unasked
    obtain ⟨t, tracked, asked⟩ := last _ ends
    rw [tracked] at find after
    refine ⟨⟨fun _ => unasked, fun _ => ⟨t, find⟩⟩, fun iface same => ?_⟩
    obtain rfl := Option.some.inj (find.symm.trans same)
    exact ⟨(after t rfl).identity.2, by rw [ends, asked]; rfl⟩

/-- **A load that succeeds tracks exactly what it asks for.** The tracked names are
those of the accepted entries, each interface has the configuration of the last
accepted entry of its name, and every node is current. -/
theorem successful_load_tracks_accepted {events : List ProgramEvent}
    (reached : run programStep (configInit ctx) events = some program)
    (loaded : (configLoadConfig program config answers).1 = true) :
    (∀ name, name ∈ (configLoadConfig program config answers).2.interfaces.keys ↔
      ∃ entry ∈ entriesOf config, entry.name = name ∧
        (interfaceHandleConfig ctx entry).added.isSome = true) ∧
    (∀ name iface,
      (configLoadConfig program config answers).2.interfaces.find name = some iface →
        iface.name = name ∧ lastAccepted ctx (entriesOf config) name = some iface.config) ∧
    (configLoadConfig program config answers).2.interfaces.AllCurrent := by
  obtain ⟨sound, rfl⟩ := sound_of_run reached
  have current := allCurrent_of_run reached
  cases found : interfacesTable config with
  | none =>
      rw [configLoadConfig_of_none found] at loaded
      cases loaded
  | some table =>
      rw [configLoadConfig_fst sound found] at loaded
      have whole : (entriesOf config).takeWhile isEntry = entriesOf config :=
        List.takeWhile_eq_self_iff.mpr (List.all_eq_true.mp loaded)
      have after := fun name =>
        @tracked_after_load program config answers table sound current found name
      rw [whole] at after
      exact ⟨fun name => (after name).1.trans acceptedFor_ne_nil_iff, fun name => (after name).2,
        allCurrent_configLoadConfig program config answers⟩

/-- A configuration with one interface. -/
def wanConfig (threshold : UInt32) : List BlobAttr :=
  [.table "interfaces" [pingEntry threshold threshold]]

/-- Every interface is reported down, and no process can be started. -/
def noAnswer : ℕ → Answer := fun _ => ⟨false, .refused⟩

/-- The program after the load of one interface. -/
def wanProgram : Program := (configLoadConfig (configInit connectedShared) (wanConfig 3) noAnswer).2

theorem wanProgram_reached :
    run programStep (configInit connectedShared) [.load (wanConfig 3) noAnswer] =
      some wanProgram := rfl

theorem successful_load_tracks_wan :
    (∀ name, name ∈ (configLoadConfig wanProgram (wanConfig 4) noAnswer).2.interfaces.keys ↔
      ∃ entry ∈ entriesOf (wanConfig 4), entry.name = name ∧
        (interfaceHandleConfig connectedShared entry).added.isSome = true) ∧
    (∀ name iface,
      (configLoadConfig wanProgram (wanConfig 4) noAnswer).2.interfaces.find name = some iface →
        iface.name = name ∧
          lastAccepted connectedShared (entriesOf (wanConfig 4)) name = some iface.config) ∧
    (configLoadConfig wanProgram (wanConfig 4) noAnswer).2.interfaces.AllCurrent :=
  successful_load_tracks_accepted wanProgram_reached (by decide +kernel)

end Load

end IfaceTester
