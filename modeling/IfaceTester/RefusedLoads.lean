import IfaceTester.Reloads

/-!
# Loads that are refused

A load returns false on two paths. Without a table nothing has been done, and the
flush at the end finds every node current. With an attribute that is no entry, the
version has moved on and the entries before it have been applied, so the flush drops
every interface that they did not name. Such a load leaves everything as it was
exactly when those entries ask for what is tracked (`refused_load_unchanged_iff`).
-/

set_option autoImplicit false

namespace IfaceTester

open Runs

/-- The same names are tracked, and every interface is as it was, with everything
that it did so far. -/
def SameInterfaces (before after : Program) : Prop :=
  ∀ name, after.interfaces.find name = before.interfaces.find name

/-- The C state of an interface, without what is kept beside it. -/
def Interface.untraced (iface : Interface) : Interface := { iface with trace := [] }

/-- The same names are tracked, and the C state of every interface is as it was. -/
def SameStates (before after : Program) : Prop :=
  ∀ name, (after.interfaces.find name).map Interface.untraced =
    (before.interfaces.find name).map Interface.untraced

/-- What the loop of a load applies: the accepted entries before the first attribute
that is no entry. -/
def appliedInterfaces (ctx : InterfaceTesterShared) (config : List BlobAttr) : List Interface :=
  acceptedInterfaces ctx ((entriesOf config).takeWhile isEntry)

/-- The interfaces name everything that is tracked, and each of them has a name that
is tracked with its configuration. -/
def AsksForTracked (program : Program) (asked : List Interface) : Prop :=
  (∀ name ∈ program.interfaces.keys, ∃ new ∈ asked, new.name = name) ∧
    ∀ new ∈ asked, ∃ iface, program.interfaces.find new.name = some iface ∧
      iface.config = new.config

section Requests

variable {ctx : InterfaceTesterShared} {name : String}

/-- An update adds to the trace, and always when the configuration differs. -/
theorem trace_configUpdate {iface new : Interface} (reached : Reached ctx name iface)
    {msg : BlobAttr} (handled : (interfaceHandleConfig ctx msg).added = some new)
    (launch : Launch) :
    iface.trace.length ≤ (configUpdate iface new.config launch).trace.length ∧
      (iface.config ≠ new.config →
        iface.trace.length < (configUpdate iface new.config launch).trace.length) := by
  by_cases same : iface.config = new.config
  · rw [configUpdate_of_eq same]
    exact ⟨le_refl _, fun differs => absurd same differs⟩
  · obtain ⟨seen, grown⟩ := (restarted_of_differs reached handled same launch).logged
    rw [grown]
    simp

theorem trace_foldl_track {old : Interface} (reached : Reached ctx name old)
    {requests : List (Interface × Answer)} (requested : RequestsFor ctx name requests) :
    ∃ t, requests.foldl track (some old) = some t ∧ old.trace.length ≤ t.trace.length := by
  induction requests generalizing old with
  | nil => exact ⟨old, rfl, le_refl _⟩
  | cons request rest ih =>
      obtain ⟨named, msg, handled⟩ := requested request List.mem_cons_self
      have grown := (trace_configUpdate reached handled request.2.launch).1
      obtain ⟨t, tracked, later⟩ := ih (reached.configUpdate handled request.2.launch)
        fun other member => requested other (List.mem_cons_of_mem _ member)
      exact ⟨t, tracked, grown.trans later⟩

/-- **Requests leave an interface as it is exactly when each asks for its
configuration.** -/
theorem foldl_track_eq_iff {old : Interface} (reached : Reached ctx name old)
    {requests : List (Interface × Answer)} (requested : RequestsFor ctx name requests) :
    requests.foldl track (some old) = some old ↔
      ∀ request ∈ requests, old.config = request.1.config := by
  induction requests with
  | nil => simp
  | cons request rest ih =>
      obtain ⟨named, msg, handled⟩ := requested request List.mem_cons_self
      have later : RequestsFor ctx name rest := fun other member =>
        requested other (List.mem_cons_of_mem _ member)
      rw [List.foldl_cons, List.forall_mem_cons]
      by_cases same : old.config = request.1.config
      · have kept : track (some old) request = some old :=
          congrArg some (configUpdate_of_eq same request.2.launch)
        rw [kept, ih later, and_iff_right same]
      · refine ⟨fun unchanged => ?_, fun ⟨equal, _⟩ => absurd equal same⟩
        have first := (trace_configUpdate reached handled request.2.launch).2 same
        obtain ⟨t, tracked, grown⟩ :=
          trace_foldl_track (reached.configUpdate handled request.2.launch) later
        obtain rfl := Option.some.inj (tracked.symm.trans unchanged)
        exact absurd (first.trans_le grown) (lt_irrefl _)

end Requests

section Refused

variable {ctx : InterfaceTesterShared} {program : Program} {config : List BlobAttr}
variable {answers : ℕ → Answer} {table : BlobAttr}

theorem mem_appliedInterfaces_of_request {name : String} {request : Interface × Answer}
    (asked : request ∈ requestsOf name (askedFor ctx (entriesOf config) answers)) :
    request.1 ∈ appliedInterfaces ctx config ∧ request.1.name = name := by
  have listed : request.1 ∈ acceptedFor ctx ((entriesOf config).takeWhile isEntry) name := by
    rw [← @map_fst_requestsOf ctx (entriesOf config) answers name]
    exact List.mem_map_of_mem asked
  exact mem_acceptedFor.mp listed

theorem exists_request_of_applied {new : Interface} (answers : ℕ → Answer)
    (applied : new ∈ appliedInterfaces ctx config) :
    ∃ request ∈ requestsOf new.name (askedFor ctx (entriesOf config) answers), request.1 = new := by
  have listed : new ∈ acceptedFor ctx ((entriesOf config).takeWhile isEntry) new.name :=
    mem_acceptedFor.mpr ⟨applied, rfl⟩
  rw [← @map_fst_requestsOf ctx (entriesOf config) answers new.name] at listed
  exact List.mem_map.mp listed

/-- A load that asks for what is tracked leaves every interface as it is. -/
theorem sameInterfaces_of_asksForTracked (sound : Sound program)
    (current : program.interfaces.AllCurrent) (found : interfacesTable config = some table)
    (asks : AsksForTracked program (appliedInterfaces program.ctx config)) :
    SameInterfaces program (configLoadConfig program config answers).2 := by
  intro name
  rw [find_load sound current found name]
  split
  case isTrue unasked =>
    cases tracked : program.interfaces.find name with
    | none => rfl
    | some iface =>
        obtain ⟨new, applied, rfl⟩ := asks.1 name (VersionedList.mem_keys_iff.mpr ⟨iface, tracked⟩)
        obtain ⟨request, asked, -⟩ := exists_request_of_applied answers applied
        rw [unasked] at asked
        cases asked
  case isFalse requested =>
    obtain ⟨request, asked⟩ := List.exists_mem_of_ne_nil _ requested
    obtain ⟨applied, named⟩ := mem_appliedInterfaces_of_request asked
    obtain ⟨iface, tracked, -⟩ := asks.2 request.1 applied
    rw [named] at tracked
    rw [tracked, foldl_track_eq_iff (sound name iface tracked)
      (requestsFor_requestsOf program.ctx name (entriesOf config) answers)]
    intro other member
    obtain ⟨applied', named'⟩ := mem_appliedInterfaces_of_request member
    obtain ⟨iface', tracked', config⟩ := asks.2 other.1 applied'
    rw [named', tracked] at tracked'
    exact Option.some.inj tracked' ▸ config

/-- When the same names are tracked afterwards, the applied interfaces have them. -/
theorem names_of_same (sound : Sound program) (current : program.interfaces.AllCurrent)
    (found : interfacesTable config = some table)
    (same : ∀ name, ((configLoadConfig program config answers).2.interfaces.find name).isSome =
      (program.interfaces.find name).isSome) :
    (∀ name ∈ program.interfaces.keys, ∃ new ∈ appliedInterfaces program.ctx config,
        new.name = name) ∧
      ∀ new ∈ appliedInterfaces program.ctx config,
        ∃ iface, program.interfaces.find new.name = some iface := by
  have keys : ∀ name, name ∈ program.interfaces.keys ↔
      name ∈ (configLoadConfig program config answers).2.interfaces.keys := by
    intro name
    rw [VersionedList.mem_keys_iff, VersionedList.mem_keys_iff, ← Option.isSome_iff_exists,
      ← Option.isSome_iff_exists, same]
  refine ⟨fun name tracked => ?_, fun new applied => ?_⟩
  · have asked := (tracked_after_load sound current found name).1.mp ((keys name).mp tracked)
    obtain ⟨new, member⟩ := List.exists_mem_of_ne_nil _ asked
    exact ⟨new, mem_acceptedFor.mp member⟩
  · rw [← VersionedList.mem_keys_iff, keys]
    refine (tracked_after_load sound current found new.name).1.mpr ?_
    exact List.ne_nil_of_mem (mem_acceptedFor.mpr ⟨applied, rfl⟩)

/-- **A load leaves every interface as it is exactly when it asks for what is
tracked.** -/
theorem sameInterfaces_iff (sound : Sound program) (current : program.interfaces.AllCurrent)
    (found : interfacesTable config = some table) :
    SameInterfaces program (configLoadConfig program config answers).2 ↔
      AsksForTracked program (appliedInterfaces program.ctx config) := by
  refine ⟨fun same => ?_, sameInterfaces_of_asksForTracked sound current found⟩
  obtain ⟨all, known⟩ := @names_of_same program config answers table sound current found
    fun name => by rw [same name]
  refine ⟨all, fun new applied => ?_⟩
  obtain ⟨iface, tracked⟩ := known new applied
  obtain ⟨request, asked, rfl⟩ := exists_request_of_applied answers applied
  have after := @find_load program config answers table sound current found request.1.name
  rw [if_neg (List.ne_nil_of_mem asked), same, tracked] at after
  have unchanged := (foldl_track_eq_iff (sound _ iface tracked)
    (requestsFor_requestsOf program.ctx request.1.name (entriesOf config) answers)).mp after.symm
  exact ⟨iface, tracked, unchanged request asked⟩

/-- When no name is applied twice, the C state alone decides. -/
theorem asksForTracked_of_sameStates (sound : Sound program)
    (current : program.interfaces.AllCurrent) (found : interfacesTable config = some table)
    (distinct : ((appliedInterfaces program.ctx config).map Interface.name).Nodup)
    (same : SameStates program (configLoadConfig program config answers).2) :
    AsksForTracked program (appliedInterfaces program.ctx config) := by
  obtain ⟨all, known⟩ := @names_of_same program config answers table sound current found
    fun name => by
      have both := congrArg Option.isSome (same name)
      simpa using both
  refine ⟨all, fun new applied => ?_⟩
  obtain ⟨iface, tracked⟩ := known new applied
  refine ⟨iface, tracked, ?_⟩
  have listed : new ∈ acceptedFor program.ctx ((entriesOf config).takeWhile isEntry) new.name :=
    mem_acceptedFor.mpr ⟨applied, rfl⟩
  rcases acceptedFor_of_nodup distinct new.name with empty | ⟨one, only⟩
  · rw [empty] at listed
    cases listed
  · rw [only] at listed
    obtain rfl := List.mem_singleton.mp listed
    obtain ⟨present, asked⟩ := @tracked_after_load program config answers table sound current found
      new.name
    rw [only] at present
    obtain ⟨t, after⟩ := VersionedList.mem_keys_iff.mp (present.mpr (List.cons_ne_nil _ _))
    have last := (asked t after).2
    rw [lastAccepted, only] at last
    have states := same new.name
    rw [after, tracked] at states
    have untraced : t.untraced = iface.untraced := Option.some.inj states
    have equal : t.untraced.config = iface.untraced.config := by rw [untraced]
    have same : iface.config = t.config := equal.symm
    exact same.trans (Option.some.inj last).symm

theorem entriesOf_of_none (missing : interfacesTable config = none) : entriesOf config = [] := by
  rw [entriesOf, missing]
  rfl

/-- What a load does not change when it is refused, for any way of comparing. -/
theorem refused_load_iff {Same : Program → Program → Prop} (sound : Sound program)
    (unchanged : interfacesTable config = none →
      Same program (configLoadConfig program config answers).2)
    (changed : ∀ table, interfacesTable config = some table →
      (Same program (configLoadConfig program config answers).2 ↔
        AsksForTracked program (appliedInterfaces program.ctx config))) :
    ((configLoadConfig program config answers).1 = false →
        Same program (configLoadConfig program config answers).2) ↔
      (entriesOf config).all isEntry = true ∨
        AsksForTracked program (appliedInterfaces program.ctx config) := by
  cases found : interfacesTable config with
  | none =>
      rw [entriesOf_of_none found]
      exact ⟨fun _ => .inl rfl, fun _ _ => unchanged found⟩
  | some table =>
      rw [configLoadConfig_fst sound found, changed table found]
      cases (entriesOf config).all isEntry <;> simp

/-- **When a refused load changes nothing.** Either every attribute of the table is an
entry, so that the load is not refused after it has begun, or the accepted entries
before the first one that is none ask for exactly what is tracked. When no name is
applied twice, the C states alone show it. -/
theorem refused_load_unchanged_iff {events : List ProgramEvent}
    (reached : run programStep (configInit ctx) events = some program) :
    (((configLoadConfig program config answers).1 = false →
        SameInterfaces program (configLoadConfig program config answers).2) ↔
      (entriesOf config).all isEntry = true ∨
        AsksForTracked program (appliedInterfaces ctx config)) ∧
    (((appliedInterfaces ctx config).map Interface.name).Nodup →
      (((configLoadConfig program config answers).1 = false →
          SameStates program (configLoadConfig program config answers).2) ↔
        (entriesOf config).all isEntry = true ∨
          AsksForTracked program (appliedInterfaces ctx config))) := by
  obtain ⟨sound, rfl⟩ := sound_of_run reached
  have current := allCurrent_of_run reached
  have weaken : SameInterfaces program (configLoadConfig program config answers).2 →
      SameStates program (configLoadConfig program config answers).2 :=
    fun same name => by rw [same name]
  refine ⟨refused_load_iff sound (fun missing => find_load_of_none current missing)
    fun table found => sameInterfaces_iff sound current found, fun distinct => ?_⟩
  refine refused_load_iff sound (fun missing => weaken (find_load_of_none current missing))
    fun table found => ⟨asksForTracked_of_sameStates sound current found distinct,
      fun asks => weaken (sameInterfaces_of_asksForTracked sound current found asks)⟩

/-- The entry of the tracked interface, and then an attribute that is no entry. -/
def repeatedConfig : List BlobAttr :=
  [.table "interfaces" [pingEntry 3 3, .string "lan" ""]]

/-- Only an attribute that is no entry. -/
def malformedConfig : List BlobAttr := [.table "interfaces" [.string "lan" ""]]

theorem refused_load_unchanged_wan :
    (((configLoadConfig wanProgram repeatedConfig noAnswer).1 = false →
        SameInterfaces wanProgram (configLoadConfig wanProgram repeatedConfig noAnswer).2) ↔
      (entriesOf repeatedConfig).all isEntry = true ∨
        AsksForTracked wanProgram (appliedInterfaces connectedShared repeatedConfig)) ∧
    (((appliedInterfaces connectedShared repeatedConfig).map Interface.name).Nodup →
      (((configLoadConfig wanProgram repeatedConfig noAnswer).1 = false →
          SameStates wanProgram (configLoadConfig wanProgram repeatedConfig noAnswer).2) ↔
        (entriesOf repeatedConfig).all isEntry = true ∨
          AsksForTracked wanProgram (appliedInterfaces connectedShared repeatedConfig))) :=
  refused_load_unchanged_iff wanProgram_reached

/-- **A refused load may drop an interface.** The attribute that is no entry comes
first, so no entry keeps the interface that was tracked. -/
theorem not_refused_load_unchanged :
    ¬ ∀ (ctx : InterfaceTesterShared) (events : List ProgramEvent) (program : Program)
      (config : List BlobAttr) (answers : ℕ → Answer),
      run programStep (configInit ctx) events = some program →
        (configLoadConfig program config answers).1 = false →
          SameStates program (configLoadConfig program config answers).2 := by
  intro unchanged
  have same := unchanged connectedShared _ wanProgram malformedConfig noAnswer wanProgram_reached
    (by decide +kernel) "wan"
  have tracked : (wanProgram.interfaces.find "wan").isSome = true := by decide +kernel
  have dropped : ((configLoadConfig wanProgram malformedConfig noAnswer).2.interfaces.find
      "wan").isSome = false := by decide +kernel
  have both := congrArg Option.isSome same
  simp only [Option.isSome_map, tracked, dropped] at both
  cases both

end Refused

end IfaceTester
