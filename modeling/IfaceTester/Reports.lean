import IfaceTester.Publication
import IfaceTester.Refinement
import IfaceTester.Foundations.Announcements

/-!
# What is reported of an interface

The operational events of a name are the announcements of its recovery state
(`ProgramMove.reports`). An interface that begins reports itself operational, and from then
on every change is reported and nothing else is. What goes out on `ubus` is what the log
says, and besides it the words with which the tester comes up and goes down. So whoever has
heard every event knows the recovery state of every interface that is tracked.
-/

set_option autoImplicit false

namespace IfaceTester

open Runs Relation Announcements

/-- The interface is not broken. -/
def Interface.isOperational (iface : Interface) : Bool :=
  decide (iface.recovery.state = .operational)

/-- What there is to know about a name: whether its interface is operational, if it is
tracked. -/
def Program.recovery (program : Program) (name : String) : Option Bool :=
  (program.interfaces.find name).map Interface.isOperational

/-- What is announced while there is a socket. -/
def InterfaceTesterShared.announces (ctx : InterfaceTesterShared) (before now : Option Bool) :
    List Bool :=
  if ctx.ubusSockFd < 0 then [] else announce before now

/-- The report that an entry of the log makes about a name. -/
def LogEntry.report? (name : String) : LogEntry → Option Bool
  | .seen other what => if other = name then what.operationalEvent? else none
  | .exited _ _ => none

/-- The reports about a name, oldest first. -/
def reports (name : String) (log : List LogEntry) : List Bool :=
  log.filterMap (LogEntry.report? name)

/-! ## One interface -/

section Interfaces

variable {iface t : Interface} {launch : Launch} {cb : Callback}

/-- A completed run reports the recovery state when it has changed. -/
theorem Ledger.announces_completed (ledger : Ledger) (passed : Bool) :
    (ledger.completed passed).2.filterMap Verdict.operationalEvent? =
      ledger.ctx.announces (some (decide (ledger.state = .operational)))
        (some (decide ((ledger.completed passed).1.state = .operational))) := by
  rw [operationalEvents_completed, InterfaceTesterShared.announces, announce_some]
  by_cases down : ledger.ctx.ubusSockFd < 0
  · simp [down]
  · cases ledger.state <;> cases (ledger.completed passed).1.state <;> simp [down]

/-- **A callback reports the recovery state when it changes it.** -/
theorem Move.reports (coherent : Coherent iface) (move : Move iface launch cb t) :
    operationalEvents t.trace = operationalEvents iface.trace ++
      iface.ctx.announces (some iface.isOperational) (some t.isOperational) := by
  have silent : iface.ctx.announces (some iface.isOperational) (some iface.isOperational) = [] := by
    simp [InterfaceTesterShared.announces]
  have kept : t.recovery.state = iface.recovery.state → verdicts t.trace = verdicts iface.trace →
      operationalEvents t.trace = operationalEvents iface.trace ++
        iface.ctx.announces (some iface.isOperational) (some t.isOperational) := by
    intro state quiet
    have same : t.isOperational = iface.isOperational := by
      unfold Interface.isOperational
      rw [state]
    rw [same, silent, List.append_nil, operationalEvents_eq, operationalEvents_eq, quiet]
  cases move.ledgerMove coherent with
  | kept cb ledger quiet => exact kept (congrArg Ledger.state ledger) quiet
  | reconfigured new changed ledger quiet => exact kept (congrArg Ledger.state ledger) quiet
  | completed cb passed ledger seen =>
      have state : t.recovery.state = (iface.ledger.completed passed).1.state :=
        congrArg Ledger.state ledger
      rw [operationalEvents_eq, operationalEvents_eq, seen, List.filterMap_append,
        Ledger.announces_completed]
      unfold Interface.isOperational
      rw [state]
      rfl

/-- An interface that begins reports itself operational. -/
theorem reports_begun (ctx : InterfaceTesterShared) (name : String) (config : AcceptedConfig)
    (isConnected : Bool) (launch : Launch) :
    (begun ctx name config isConnected launch).isOperational = true ∧
      operationalEvents (begun ctx name config isConnected launch).trace =
        ctx.announces none (some true) := by
  obtain ⟨ledger, seen⟩ := ledger_begun ctx name config isConnected launch
  have state : (begun ctx name config isConnected launch).recovery.state = .operational :=
    congrArg Ledger.state ledger
  constructor
  · simp [Interface.isOperational, state]
  · rw [operationalEvents_eq, seen]
    unfold initialVerdicts Ledger.report InterfaceTesterShared.announces
    by_cases down : ctx.ubusSockFd < 0 <;>
      simp [down, Ledger.initial, Verdict.operationalEvent?, List.filterMap_cons]

@[simp] theorem operationalEvents_append (trace seen : List Observation) :
    operationalEvents (trace ++ seen) = operationalEvents trace ++ operationalEvents seen :=
  List.filterMap_append

/-- Nothing is reported when an interface is freed. -/
theorem operationalEvents_freeTrace (iface : Interface) :
    operationalEvents (freeTrace iface) = [] := by
  have kills : ∀ proc, operationalEvents (interfaceTesterKillProcess proc).2 = [] :=
    filterMap_kills fun _ => rfl
  unfold freeTrace
  rw [operationalEvents_append, operationalEvents_append, kills]
  split <;> exact kills _

end Interfaces

/-! ## The log -/

section Log

variable {program q : Program} {iface old t : Interface} {name : String}

theorem reports_append (name : String) (log later : List LogEntry) :
    reports name (log ++ later) = reports name log ++ reports name later :=
  List.filterMap_append

theorem reports_seen (name other : String) (trace : List Observation) :
    reports name (trace.map (.seen other)) =
      if other = name then operationalEvents trace else [] := by
  unfold reports operationalEvents
  rw [List.filterMap_map]
  split
  case isTrue here => simp [LogEntry.report?, here]
  case isFalse apart => simp [Function.comp_def, LogEntry.report?, apart]

theorem reports_reap (program : Program) (iface : Interface) (cb : Callback) (name : String) :
    reports name (program.reap iface cb).log = reports name program.log := by
  have exits : ∀ pids : List Pid, reports name (pids.map (LogEntry.exited iface.name)) = [] := by
    intro pids
    simp [reports, List.filterMap_map, Function.comp_def, LogEntry.report?]
  unfold Program.reap
  rw [reports_append, exits, List.append_nil]

/-- What is recorded of an interface is reported under its name. -/
theorem reports_record {before seen : List Observation} (grown : iface.trace = before ++ seen)
    (name : String) :
    reports name (program.record before iface).log = reports name program.log ++
      if iface.name = name then operationalEvents seen else [] := by
  rw [log_record program grown, reports_append, reports_seen]

theorem reports_free (program : Program) (iface : Interface) (name : String) :
    reports name (program.free iface).log = reports name program.log := by
  rw [log_free, reports_append, reports_seen, operationalEvents_freeTrace]
  simp

/-- An interface that was only allocated has reported nothing. -/
theorem reports_listed (allocated : operationalEvents iface.trace = []) (name : String) :
    reports name (program.record [] iface).log = reports name program.log := by
  rw [@reports_record program iface [] iface.trace rfl, allocated]
  simp

/-- What a step adds to the reports: the change of what there is to know about the name. -/
structure Reports (program q : Program) : Prop where
  told : ∀ name, reports name q.log = reports name program.log ++
    program.ctx.announces (program.recovery name) (q.recovery name)
  comes : ∀ name, program.recovery name = none → ∀ value, q.recovery name = some value →
    value = true

theorem InterfaceTesterShared.announces_self (ctx : InterfaceTesterShared) (value : Option Bool) :
    ctx.announces value value = [] := by
  cases value <;> simp [announces]

/-- Nothing is reported, and nothing changes. -/
theorem reports_of_silent (log : ∀ name, reports name q.log = reports name program.log)
    (same : ∀ name, q.recovery name = program.recovery name) : Reports program q where
  told := fun name => by rw [log, same, InterfaceTesterShared.announces_self, List.append_nil]
  comes := fun name absent value present => by
    rw [same, absent] at present
    cases present

/-- A tracked interface changes, by a callback or an update. -/
theorem reports_of_move {launch : Launch} {cb : Callback} {seen : List Observation}
    (tracked : program.interfaces.find name = some old) (reached : Reached program.ctx name old)
    (move : Move old launch cb t) (grown : t.trace = old.trace ++ seen)
    (log : ∀ other, reports other q.log = reports other program.log ++
      if t.name = other then operationalEvents seen else [])
    (found : ∀ other, q.interfaces.find other =
      if other = name then some t else program.interfaces.find other) : Reports program q := by
  obtain ⟨sameCtx, named⟩ := reached.identity
  have here : t.name = name := move.identity.2.trans named
  have told := move.reports reached.coherent
  rw [grown, operationalEvents_append, sameCtx] at told
  have later := List.append_cancel_left told
  have was : program.recovery name = some old.isOperational := by simp [Program.recovery, tracked]
  have is : q.recovery name = some t.isOperational := by simp [Program.recovery, found]
  have kept : ∀ other, other ≠ name → q.recovery other = program.recovery other := by
    intro other apart
    simp [Program.recovery, found, apart]
  refine ⟨fun other => ?_, fun other absent value present => ?_⟩
  · rw [log, here, later]
    by_cases same : name = other
    · subst same
      rw [if_pos rfl, was, is]
    · rw [if_neg same, kept other (Ne.symm same), InterfaceTesterShared.announces_self]
  · by_cases same : other = name
    · subst same
      rw [was] at absent
      cases absent
    · rw [kept other same, absent] at present
      cases present

/-- A new interface is reported operational. -/
theorem reports_added {msg : BlobAttr}
    (handled : (interfaceHandleConfig program.ctx msg).added = some iface) (answer : Answer)
    (fresh : program.interfaces.find iface.name = none) :
    Reports program ((program.listed iface).change iface
      (interfaceTesterBegin iface answer.isConnected answer.launch)) := by
  obtain ⟨loadable, allocated⟩ := loadable_of_interfaceHandleConfig handled
  have named : iface.name = msg.name := congrArg Interface.name allocated
  have nothing : operationalEvents iface.trace = [] := by
    rw [allocated]
    rfl
  have acts := acts_begun program.ctx msg.name ⟨iface.config, loadable.accepted⟩
    answer.isConnected answer.launch
  obtain ⟨operational, said⟩ := reports_begun program.ctx msg.name
    ⟨iface.config, loadable.accepted⟩ answer.isConnected answer.launch
  have beginName := (identity_begun program.ctx msg.name ⟨iface.config, loadable.accepted⟩
    answer.isConnected answer.launch).2
  rw [← allocated, ← begun_of_interfaceHandleConfig handled] at acts
  rw [← begun_of_interfaceHandleConfig handled] at operational said beginName
  obtain ⟨seen, grown, -⟩ := acts.effects
  rw [grown, operationalEvents_append, nothing, List.nil_append] at said
  have is : ((program.listed iface).change iface
      (interfaceTesterBegin iface answer.isConnected answer.launch)).recovery iface.name =
      some true := by
    simp [Program.recovery, find_listed_change, operational]
  have was : program.recovery iface.name = none := by simp [Program.recovery, fresh]
  have kept : ∀ other, other ≠ iface.name → ((program.listed iface).change iface
      (interfaceTesterBegin iface answer.isConnected answer.launch)).recovery other =
      program.recovery other := by
    intro other apart
    simp [Program.recovery, find_listed_change, apart]
  refine ⟨fun other => ?_, fun other absent value present => ?_⟩
  · refine (@reports_record (program.listed iface) _ _ _ grown other).trans ?_
    have listed : reports other (program.listed iface).log = reports other program.log :=
      reports_listed nothing other
    rw [listed, said, beginName, ← named]
    by_cases same : iface.name = other
    · subst same
      rw [if_pos rfl, was, is]
    · rw [if_neg same, kept other (Ne.symm same), InterfaceTesterShared.announces_self]
  · by_cases same : other = iface.name
    · subst same
      rw [is] at present
      exact (Option.some.inj present).symm
    · rw [kept other same, absent] at present
      cases present

/-- A removed interface is not reported any more. -/
theorem reports_removed (tracked : program.interfaces.find name = some iface) :
    Reports program ((program.unlisted name).free iface) := by
  have found : ∀ other, ((program.unlisted name).free iface).interfaces.find other =
      if other = name then none else program.interfaces.find other :=
    fun other => VersionedList.find_remove
  refine ⟨fun other => ?_, fun other absent value present => ?_⟩
  · rw [reports_free]
    by_cases same : other = name
    · have gone : ((program.unlisted name).free iface).recovery other = none := by
        simp [Program.recovery, found, same]
      rw [gone]
      simp [InterfaceTesterShared.announces, Program.unlisted]
    · have kept : ((program.unlisted name).free iface).recovery other = program.recovery other := by
        simp [Program.recovery, found, same]
      rw [kept, InterfaceTesterShared.announces_self, List.append_nil]
      rfl
  · by_cases same : other = name
    · subst same
      simp [Program.recovery, tracked] at absent
    · have kept : ((program.unlisted name).free iface).recovery other = program.recovery other := by
        simp [Program.recovery, found, same]
      rw [kept, absent] at present
      cases present

/-- **The reports are the changes of the recovery state.** -/
theorem ProgramMove.reports (move : ProgramMove program q) (sound : Sound program) :
    Reports program q := by
  cases move with
  | bumped => exact reports_of_silent (fun _ => rfl) fun _ => rfl
  | rejected handled =>
      refine reports_of_silent (fun name => reports_listed ?_ name) fun _ => rfl
      rw [trace_freed handled]
      rfl
  | added answer handled fresh => exact reports_added handled answer fresh
  | @updated msg iface old answer handled tracked =>
      obtain ⟨loadable, allocated⟩ := loadable_of_interfaceHandleConfig handled
      have reached := sound _ old tracked
      have nothing : operationalEvents iface.trace = [] := by
        rw [allocated]
        rfl
      have taken : step old (.configUpdate ⟨iface.config, loadable.accepted⟩, answer.launch) =
          some (configUpdate old iface.config answer.launch) := rfl
      have move := step_move reached.coherent taken
      obtain ⟨seen, grown, -⟩ := (move.acts reached.coherent).effects
      have grown : (configUpdate old iface.config answer.launch).trace = old.trace ++ seen := grown
      refine reports_of_move tracked reached move grown (fun other => ?_) fun other => ?_
      · rw [reports_free]
        refine (@reports_record (program.listed iface) _ _ _ grown other).trans ?_
        have listed : reports other (program.listed iface).log = reports other program.log :=
          reports_listed nothing other
        rw [listed]
      · exact find_listed_change reached.identity.2 other
  | removed tracked => exact reports_removed tracked
  | @reacted name iface t cb launch tracked external taken =>
      have reached := sound name iface tracked
      have move := step_move reached.coherent taken
      obtain ⟨seen, grown, -⟩ := (move.acts reached.coherent).effects
      have kept : (reaped iface cb).trace = iface.trace := by cases cb <;> rfl
      rw [kept] at grown
      refine reports_of_move tracked reached move grown (fun other => ?_) fun other => ?_
      · refine (@reports_record (program.reap iface cb) _ _ _ grown other).trans ?_
        rw [reports_reap]
      · have set : ((program.reap iface cb).change iface t).interfaces =
            program.interfaces.set iface.name t := rfl
        rw [set, VersionedList.find_set, reached.identity.2]
        split
        case isTrue same => rw [same, tracked]; rfl
        case isFalse => rfl

end Log

end IfaceTester
