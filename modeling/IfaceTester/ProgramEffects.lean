import IfaceTester.ProgramMoves
import IfaceTester.Effects

/-!
# What a step of the program adds to the log

Every step concerns one name. What it adds to the log are the effects of that
interface, after the exit of a child when there was one, and no other interface
changes (`ProgramMove.logged`). An interface that is allocated and freed within a
step leaves only inert entries, also when a tracked interface has its name.
-/

set_option autoImplicit false

namespace IfaceTester

/-- Effects as they stand in the log, with the children that exited. -/
inductive LogEffects (metrics : Bool) (name : String) :
    Holdings → List LogEntry → Holdings → Prop
  | seen {held held' : Holdings} {trace : List Observation}
      (effects : Effects metrics held trace held') :
      LogEffects metrics name held (trace.map (.seen name)) held'
  | testExited {held held' : Holdings} {log : List LogEntry} {pid : Pid}
      (running : held.testPid = some pid)
      (rest : LogEffects metrics name { held with testPid := none } log held') :
      LogEffects metrics name held (.exited name pid :: log) held'
  | recoveryExited {held held' : Holdings} {log : List LogEntry} {pid : Pid}
      (running : held.recoveryPid = some pid)
      (rest : LogEffects metrics name { held with recoveryPid := none } log held') :
      LogEffects metrics name held (.exited name pid :: log) held'

/-- What the interface of a name holds. A name that is not tracked holds no child and
no adjustment. -/
structure Holds (program : Program) (name : String) (held : Holdings) : Prop where
  tracked : ∀ iface, program.interfaces.find name = some iface → iface.holdings = held
  untracked : program.interfaces.find name = none → held.testPid = none ∧
    held.recoveryPid = none ∧
    (program.ctx.withMetricsAdjustment && held.metricsAreAdjusted) = false

/-- Nothing is held. -/
def Holdings.nothing : Holdings where
  testPid := none
  recoveryPid := none
  recoveryState := .operational
  metricsAreAdjusted := false

section Parts

variable {program : Program} {name : String} {iface : Interface}

theorem holds_of_tracked (found : program.interfaces.find name = some iface) :
    Holds program name iface.holdings where
  tracked := fun other same => by rw [Option.some.inj (same.symm.trans found)]
  untracked := fun missing => by rw [found] at missing; cases missing

theorem holds_of_untracked {held : Holdings} (missing : program.interfaces.find name = none)
    (test : held.testPid = .none) (recovery : held.recoveryPid = .none)
    (metrics : (program.ctx.withMetricsAdjustment && held.metricsAreAdjusted) = false) :
    Holds program name held where
  tracked := fun other same => by rw [missing] at same; cases same
  untracked := fun _ => ⟨test, recovery, metrics⟩

/-! ## Interfaces that were only allocated -/

theorem freeTrace_of_nothing (idle : iface.holdings = .nothing) :
    freeTrace iface = [.testerState .stopped] := by
  have test : iface.tester.testProc.pending = none := congrArg Holdings.testPid idle
  have recovery : iface.recovery.proc.pending = none := congrArg Holdings.recoveryPid idle
  have unadjusted : iface.recovery.metricsAreAdjusted = false :=
    congrArg Holdings.metricsAreAdjusted idle
  simp [freeTrace, interfaceTesterKillProcess_of_idle test,
    interfaceTesterKillProcess_of_idle recovery, unadjusted]

/-- What a refused entry leaves behind. -/
theorem freed_of_interfaceHandleConfig {ctx : InterfaceTesterShared} {msg : BlobAttr}
    (handled : (interfaceHandleConfig ctx msg).freed = some iface) :
    ∃ config, iface =
      interfaceTesterFree { interfaceTesterAlloc ctx msg.name with config := config } := by
  unfold interfaceHandleConfig at handled
  dsimp only at handled
  split at handled
  · cases handled
  · split at handled
    · cases handled
    · split at handled
      · exact ⟨_, (Option.some.inj handled).symm⟩
      · split at handled
        · exact ⟨_, (Option.some.inj handled).symm⟩
        · split at handled
          · cases handled
          · exact ⟨_, (Option.some.inj handled).symm⟩

theorem trace_freed {ctx : InterfaceTesterShared} {msg : BlobAttr}
    (handled : (interfaceHandleConfig ctx msg).freed = some iface) :
    iface.trace = (interfaceTesterAlloc ctx msg.name).trace ++ [.testerState .stopped] := by
  obtain ⟨config, rfl⟩ := freed_of_interfaceHandleConfig handled
  rw [trace_interfaceTesterFree, freeTrace_of_nothing rfl]

theorem effects_alloc {metrics : Bool} {held : Holdings} (ctx : InterfaceTesterShared)
    (name : String) : Effects metrics held (interfaceTesterAlloc ctx name).trace held :=
  effects_of_inert (by simp [interfaceTesterAlloc, Observation.isInert])

theorem log_record (program : Program) {before : List Observation} {seen : List Observation}
    (grown : iface.trace = before ++ seen) :
    (program.record before iface).log = program.log ++ seen.map (.seen iface.name) := by
  unfold Program.record
  rw [grown, List.drop_left]

theorem name_interfaceTesterFree (iface : Interface) :
    (interfaceTesterFree iface).name = iface.name := by
  unfold interfaceTesterFree interfaceTesterCleanup recoveryCleanup
  rw [testerStop_eq]
  dsimp only
  split <;> rfl

theorem log_free (program : Program) (iface : Interface) :
    (program.free iface).log = program.log ++ (freeTrace iface).map (.seen iface.name) := by
  have freed := log_record program (trace_interfaceTesterFree iface)
  rw [name_interfaceTesterFree] at freed
  exact freed

end Parts

/-! ## The steps -/

/-- A step adds the effects of one name to the log, and no other name changes. -/
structure LogStep (program q : Program) (name : String) : Prop where
  effects : ∃ held held' added, q.log = program.log ++ added ∧
    LogEffects program.ctx.withMetricsAdjustment name held added held' ∧
    Holds program name held ∧ Holds q name held'
  others : ∀ other, other ≠ name → q.interfaces.find other = program.interfaces.find other

section Steps

variable {program q : Program} {iface old t : Interface}

/-- A step that adds inert entries and leaves the interfaces alone. -/
theorem logStep_of_inert {name : String} {trace : List Observation}
    (log : q.log = program.log ++ trace.map (.seen name))
    (same : q.interfaces = program.interfaces)
    (inert : ∀ seen ∈ trace, seen.isInert = true) : LogStep program q name := by
  refine ⟨?_, fun other _ => by rw [same]⟩
  cases found : program.interfaces.find name with
  | none =>
      refine ⟨.nothing, .nothing, _, log, .seen (effects_of_inert inert),
        holds_of_untracked found rfl rfl (by simp [Holdings.nothing]), ?_⟩
      exact holds_of_untracked (by rw [same, found]) rfl rfl (by simp [Holdings.nothing])
  | some iface =>
      exact ⟨iface.holdings, iface.holdings, _, log, .seen (effects_of_inert inert),
        holds_of_tracked found, holds_of_tracked (by rw [same, found])⟩

theorem logStep_added {ctx : InterfaceTesterShared} {msg : BlobAttr} (same : program.ctx = ctx)
    (handled : (interfaceHandleConfig ctx msg).added = some iface) (answer : Answer)
    (fresh : program.interfaces.find iface.name = none) :
    LogStep program ((program.listed iface).change iface
      (interfaceTesterBegin iface answer.isConnected answer.launch)) iface.name := by
  subst same
  obtain ⟨loadable, allocated⟩ := loadable_of_interfaceHandleConfig handled
  have named : iface.name = msg.name := congrArg Interface.name allocated
  have acts := acts_begun program.ctx msg.name ⟨iface.config, loadable.accepted⟩
    answer.isConnected answer.launch
  rw [← allocated, ← begun_of_interfaceHandleConfig handled] at acts
  obtain ⟨seen, grown, effects⟩ := acts.effects
  have same : iface.ctx = program.ctx := congrArg Interface.ctx allocated
  have idle : iface.holdings = .nothing := by
    rw [allocated]
    rfl
  have beginName : (interfaceTesterBegin iface answer.isConnected answer.launch).name =
      iface.name := by
    rw [begun_of_interfaceHandleConfig handled, named]
    exact (identity_begun _ _ _ _ _).2
  have alloc : iface.trace = (interfaceTesterAlloc program.ctx msg.name).trace := by
    rw [allocated]
  rw [same, idle] at effects
  refine ⟨⟨.nothing, (interfaceTesterBegin iface answer.isConnected answer.launch).holdings,
    iface.trace.map (.seen iface.name) ++ seen.map (.seen iface.name), ?_, ?_,
    holds_of_untracked fresh rfl rfl (by simp [Holdings.nothing]), ?_⟩, fun other apart => ?_⟩
  · have listed := @log_record iface program [] iface.trace rfl
    have begun := log_record (program.listed iface) grown
    rw [beginName] at begun
    refine begun.trans ?_
    rw [← List.append_assoc]
    exact congrArg (· ++ _) listed
  · rw [← List.map_append, alloc]
    exact .seen ((effects_alloc program.ctx msg.name).trans effects)
  · refine holds_of_tracked ?_
    rw [find_listed_change rfl, if_pos rfl]
  · rw [find_listed_change rfl, if_neg apart]

theorem configMoved_kept (old new : Interface) :
    (configMoved old new).holdings = new.holdings ∧ (configMoved old new).name = new.name := by
  unfold configMoved
  split <;> exact ⟨rfl, rfl⟩

theorem logStep_updated {ctx : InterfaceTesterShared} {msg : BlobAttr} (same : program.ctx = ctx)
    (handled : (interfaceHandleConfig ctx msg).added = some iface) (answer : Answer)
    (tracked : program.interfaces.find iface.name = some old)
    (reached : Reached ctx iface.name old) :
    LogStep program (((program.listed iface).change old
      (configUpdate old iface.config answer.launch)).free (configMoved old iface))
      iface.name := by
  subst same
  obtain ⟨loadable, allocated⟩ := loadable_of_interfaceHandleConfig handled
  obtain ⟨sameCtx, named⟩ := reached.identity
  have taken : step old (.configUpdate ⟨iface.config, loadable.accepted⟩, answer.launch) =
      some (configUpdate old iface.config answer.launch) := rfl
  have move := step_move reached.coherent taken
  obtain ⟨seen, grown, effects⟩ := (move.acts reached.coherent).effects
  have effects : Effects old.ctx.withMetricsAdjustment old.holdings seen
      (configUpdate old iface.config answer.launch).holdings := effects
  have updatedName : (configUpdate old iface.config answer.launch).name = iface.name :=
    move.identity.2.trans named
  have idle : iface.holdings = .nothing := by
    rw [allocated]
    rfl
  have alloc : iface.trace = (interfaceTesterAlloc program.ctx msg.name).trace := by
    rw [allocated]
  obtain ⟨movedHoldings, movedName⟩ := configMoved_kept old iface
  have freed := freeTrace_of_nothing (movedHoldings.trans idle)
  rw [sameCtx] at effects
  refine ⟨⟨old.holdings, (configUpdate old iface.config answer.launch).holdings,
    (iface.trace ++ (seen ++ [Observation.testerState .stopped])).map (.seen iface.name),
    ?_, .seen ?_, holds_of_tracked tracked, ?_⟩, fun other apart => ?_⟩
  · have listed := @log_record iface program [] iface.trace rfl
    have updated := log_record (program.listed iface) grown
    have last := log_free ((program.listed iface).change old
      (configUpdate old iface.config answer.launch)) (configMoved old iface)
    rw [updatedName] at updated
    rw [movedName, freed] at last
    refine last.trans ?_
    rw [List.map_append, List.map_append, ← List.append_assoc, ← List.append_assoc]
    refine congrArg (· ++ _) (updated.trans ?_)
    exact congrArg (· ++ _) listed
  · rw [alloc]
    exact (effects_alloc program.ctx msg.name).trans
      (effects.trans (effects_of_inert (by simp [Observation.isInert])))
  · refine holds_of_tracked ?_
    exact (find_listed_change named iface.name).trans (if_pos rfl)
  · exact (find_listed_change named other).trans (if_neg apart)

theorem logStep_removed {name : String} (tracked : program.interfaces.find name = some iface)
    (reached : Reached program.ctx name iface) :
    LogStep program ((program.unlisted name).free iface) name := by
  obtain ⟨sameCtx, named⟩ := reached.identity
  have effects := effects_freeTrace iface
  have gone : ∀ other, ((program.unlisted name).free iface).interfaces.find other =
      if other = name then none else program.interfaces.find other :=
    fun other => VersionedList.find_remove
  rw [sameCtx] at effects
  refine ⟨⟨iface.holdings, _, _, ?_, .seen effects, holds_of_tracked tracked, ?_⟩,
    fun other apart => ?_⟩
  · have freed := log_free (program.unlisted name) iface
    rw [named] at freed
    exact freed
  · have same : ((program.unlisted name).free iface).ctx = program.ctx := rfl
    refine holds_of_untracked (by rw [gone, if_pos rfl]) rfl rfl ?_
    rw [same]
    cases program.ctx.withMetricsAdjustment <;> rfl
  · rw [gone, if_neg apart]

/-- The exit of a child, before the callback for it. -/
theorem logEffects_reaped {metrics : Bool} {name : String} {held' : Holdings}
    {trace : List Observation} {cb : Callback} {launch : Launch}
    (taken : step iface (cb, launch) = some t)
    (effects : Effects metrics (reaped iface cb).holdings trace held') :
    LogEffects metrics name iface.holdings
      ((exitedChild iface cb).toList.map (LogEntry.exited name) ++ trace.map (.seen name))
        held' := by
  cases cb with
  | testProcExited status =>
      obtain ⟨running, -⟩ := isRunning_of_step taken
      obtain ⟨pid, pending⟩ := Option.isSome_iff_exists.mp running
      have exited : exitedChild iface (.testProcExited status) = some pid := pending
      rw [exited]
      exact .testExited pending (.seen effects)
  | recoveryProcExited status =>
      obtain ⟨running, -⟩ := isRunning_of_step taken
      obtain ⟨pid, pending⟩ := Option.isSome_iff_exists.mp running
      have exited : exitedChild iface (.recoveryProcExited status) = some pid := pending
      rw [exited]
      exact .recoveryExited pending (.seen effects)
  | _ => exact .seen effects

theorem logStep_reacted {name : String} {cb : Callback} {launch : Launch}
    (tracked : program.interfaces.find name = some iface)
    (reached : Reached program.ctx name iface) (taken : step iface (cb, launch) = some t) :
    LogStep program ((program.reap iface cb).change iface t) name := by
  obtain ⟨sameCtx, named⟩ := reached.identity
  have move := step_move reached.coherent taken
  have reapedParts : (reaped iface cb).ctx = iface.ctx ∧ (reaped iface cb).trace = iface.trace := by
    cases cb with
    | _ => exact ⟨rfl, rfl⟩
  obtain ⟨seen, grown, effects⟩ := (move.acts reached.coherent).effects
  rw [reapedParts.2] at grown
  rw [reapedParts.1, sameCtx] at effects
  have changed : ∀ other, ((program.reap iface cb).change iface t).interfaces.find other =
      if other = name then (program.interfaces.find other).map fun _ => t
      else program.interfaces.find other := by
    intro other
    have set : ((program.reap iface cb).change iface t).interfaces =
        program.interfaces.set iface.name t := rfl
    rw [set, VersionedList.find_set, named]
  refine ⟨⟨iface.holdings, t.holdings, _, ?_, logEffects_reaped taken effects,
    holds_of_tracked tracked, ?_⟩, fun other apart => ?_⟩
  · have after := log_record (program.reap iface cb) grown
    rw [move.identity.2, named] at after
    refine after.trans ?_
    rw [← List.append_assoc]
    unfold Program.reap
    rw [named]
  · refine holds_of_tracked ?_
    rw [changed, if_pos rfl, tracked]
    rfl
  · rw [changed, if_neg apart]

/-- **Every step adds the effects of one name to the log.** -/
theorem ProgramMove.logged (move : ProgramMove program q) (sound : Sound program) :
    ∃ name, LogStep program q name := by
  cases move with
  | bumped =>
      have log : (interfaceUpdate program).log = program.log ++ [].map (.seen "") := by
        simp [interfaceUpdate]
      refine ⟨"", ?_, fun other _ => rfl⟩
      cases found : program.interfaces.find "" with
      | none =>
          exact ⟨.nothing, .nothing, _, log, .seen (.nil _),
            holds_of_untracked found rfl rfl (by simp [Holdings.nothing]),
            holds_of_untracked found rfl rfl (by simp [Holdings.nothing])⟩
      | some iface =>
          exact ⟨iface.holdings, iface.holdings, _, log, .seen (.nil _), holds_of_tracked found,
            holds_of_tracked found⟩
  | @rejected msg iface handled =>
      refine ⟨iface.name, logStep_of_inert (@log_record iface program [] iface.trace rfl) rfl ?_⟩
      rw [trace_freed handled]
      simp [interfaceTesterAlloc, Observation.isInert]
  | @added msg iface answer handled fresh => exact ⟨_, logStep_added rfl handled answer fresh⟩
  | @updated msg iface old answer handled tracked =>
      exact ⟨_, logStep_updated rfl handled answer tracked (sound _ old tracked)⟩
  | @removed name iface tracked => exact ⟨name, logStep_removed tracked (sound name iface tracked)⟩
  | @reacted name iface t cb launch tracked external taken =>
      exact ⟨name, logStep_reacted tracked (sound name iface tracked) taken⟩

end Steps

end IfaceTester
