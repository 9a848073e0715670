import IfaceTester.Loads
import IfaceTester.ProgramEffects
import IfaceTester.Foundations.Views

/-!
# Interfaces do not interfere

The interfaces share the list, the log and the main loop. Here each name is an observer
of the program: it sees the interface of that name and what the log says about it. A
callback for another interface does not concern it, and what a load does for a name
depends on the entries and on that name only. So the names are separated in the sense of
`Runs.Separated`: the events of other interfaces can be taken out of a run or moved to
another place, and nothing changes for the name.
-/

set_option autoImplicit false

namespace IfaceTester

open Runs

/-- The interface that an entry of the log is about. -/
def LogEntry.name : LogEntry → String
  | .seen name _ => name
  | .exited name _ => name

/-- What a log says about one name. -/
def logOf (name : String) (log : List LogEntry) : List LogEntry :=
  log.filter fun entry => decide (entry.name = name)

/-- The event concerns the name: it is a callback for its interface, or it goes through
the whole list. -/
def ProgramEvent.concerns (name : String) : ProgramEvent → Bool
  | .callback other _ _ => decide (other = name)
  | .load _ _ => true
  | .testersFree => true

/-- Two states of the program with the same interface under the name, and the same
history of it. -/
structure SameFor (name : String) (program q : Program) : Prop where
  ctx : program.ctx = q.ctx
  tracked : program.interfaces.find name = q.interfaces.find name
  current : program.interfaces.Current name ↔ q.interfaces.Current name
  log : logOf name program.log = logOf name q.log

/-! ## What is added to the log -/

section Logs

variable {ctx : InterfaceTesterShared} {program : Program} {name : String}

theorem logOf_append (name : String) (log later : List LogEntry) :
    logOf name (log ++ later) = logOf name log ++ logOf name later :=
  List.filter_append _ _

theorem logOf_seen (name other : String) (trace : List Observation) :
    logOf name (trace.map (.seen other)) =
      if other = name then trace.map (.seen other) else [] := by
  unfold logOf
  rw [List.filter_map]
  split
  case isTrue here => simp [Function.comp_def, LogEntry.name, here]
  case isFalse apart => simp [Function.comp_def, LogEntry.name, apart]

/-- What is seen while the handler of an entry runs, when `old` has the name. -/
def entrySeen (ctx : InterfaceTesterShared) (msg : BlobAttr) (answer : Answer)
    (old : Option Interface) : List Observation :=
  match (interfaceHandleConfig ctx msg).added, (interfaceHandleConfig ctx msg).freed, old with
  | some new, _, none =>
      new.trace ++ (interfaceTesterBegin new answer.isConnected answer.launch).trace.drop
        new.trace.length
  | some new, _, some old =>
      new.trace ++ ((configUpdate old new.config answer.launch).trace.drop old.trace.length ++
        freeTrace (configMoved old new))
  | none, some refused, _ => refused.trace
  | none, none, _ => []

theorem name_configMoved (old new : Interface) : (configMoved old new).name = new.name := by
  unfold configMoved
  split <;> rfl

theorem name_freed {msg : BlobAttr} {iface : Interface}
    (handled : (interfaceHandleConfig ctx msg).freed = some iface) : iface.name = msg.name := by
  obtain ⟨config, rfl⟩ := freed_of_interfaceHandleConfig handled
  rw [name_interfaceTesterFree]
  rfl

/-- **The handler of an entry logs things about the name of the entry only**, and they
depend on nothing but the interface of that name. -/
theorem log_handleEntry (sound : Sound program) (msg : BlobAttr) (answer : Answer) :
    (handleEntry program msg answer).log = program.log ++
      (entrySeen program.ctx msg answer (program.interfaces.find msg.name)).map
        (.seen msg.name) := by
  cases added : (interfaceHandleConfig program.ctx msg).added with
  | none =>
      cases freed : (interfaceHandleConfig program.ctx msg).freed with
      | none => simp [handleEntry, entrySeen, added, freed]
      | some refused =>
          simp [handleEntry, entrySeen, added, freed, Program.record, name_freed freed]
  | some new =>
      have named := name_of_added added
      have handled : handleEntry program msg answer =
          interfaceUpdateCb { program.record [] new with
            interfaces := program.interfaces.add msg.name new } (some new)
            (program.interfaces.find msg.name) answer := by
        simp [handleEntry, added, vlistAdd, Program.record, named]
      rw [handled]
      cases found : program.interfaces.find msg.name with
      | none =>
          have begins : (interfaceTesterBegin new answer.isConnected answer.launch).name =
              msg.name :=
            (reached_of_interfaceHandleConfig added answer).identity.2.trans named
          simp [interfaceUpdateCb, configAdd, Program.change, Program.record, entrySeen, added,
            named, begins]
      | some old =>
          have updated : (configUpdate old new.config answer.launch).name = msg.name :=
            ((sound _ old found).configUpdate added answer.launch).identity.2
          have moved : (configMoved old new).name = msg.name :=
            (name_configMoved old new).trans named
          dsimp only [interfaceUpdateCb]
          rw [log_free, moved]
          simp [Program.change, Program.record, entrySeen, added, named, updated]

/-- What is seen when the nodes are dropped one by one. -/
theorem log_foldl_vlistDelete {nodes : List (VersionedNode String Interface)}
    (named : ∀ node ∈ nodes, node.value.name = node.key)
    (distinct : (nodes.map VersionedNode.key).Nodup) (program : Program) (name : String) :
    logOf name (nodes.foldl vlistDelete program).log = logOf name program.log ++
      (((nodes.find? fun node => decide (node.key = name)).map VersionedNode.value).elim []
        freeTrace).map (.seen name) := by
  induction nodes generalizing program with
  | nil => simp
  | cons node nodes ih =>
      rw [List.map_cons, List.nodup_cons] at distinct
      have dropped : (vlistDelete program node).log =
          program.log ++ (freeTrace node.value).map (.seen node.key) := by
        rw [← named node List.mem_cons_self]
        exact log_free _ _
      rw [List.foldl_cons, ih (fun other later => named other (List.mem_cons_of_mem _ later))
        distinct.2, dropped, logOf_append, logOf_seen]
      by_cases here : node.key = name
      · have gone : nodes.find? (fun other => decide (other.key = name)) = none := by
          rw [List.find?_eq_none]
          intro other later same
          exact distinct.1 (List.mem_map.mpr ⟨other, later, (of_decide_eq_true same).trans
            here.symm⟩)
        simp [here, gone]
      · simp [here]

end Logs

/-! ## Two programs that are the same for a name -/

section Same

variable {name : String} {program q p' q' : Program}

theorem SameFor.refl (name : String) (program : Program) : SameFor name program program :=
  ⟨rfl, rfl, Iff.rfl, rfl⟩

theorem SameFor.symm (same : SameFor name program q) : SameFor name q program :=
  ⟨same.ctx.symm, same.tracked.symm, same.current.symm, same.log.symm⟩

theorem SameFor.trans {r : Program} (same : SameFor name program q) (rest : SameFor name q r) :
    SameFor name program r :=
  ⟨same.ctx.trans rest.ctx, same.tracked.trans rest.tracked, same.current.trans rest.current,
    same.log.trans rest.log⟩

/-- An entry keeps the two programs the same for every name. -/
theorem SameFor.handleEntry (same : SameFor name program q) (sound : Sound program)
    (sound' : Sound q) (msg : BlobAttr) (answer : Answer) :
    SameFor name (handleEntry program msg answer) (handleEntry q msg answer) := by
  obtain ⟨-, current, find⟩ := interfaces_handleEntry msg answer sound
  obtain ⟨-, current', find'⟩ := interfaces_handleEntry msg answer sound'
  constructor
  · rw [ctx_moves (handleEntry_moves program msg answer),
      ctx_moves (handleEntry_moves q msg answer)]
    exact same.ctx
  · rw [find, find', same.ctx, same.tracked]
  · rw [current, current', same.ctx, same.current]
  · rw [log_handleEntry sound, log_handleEntry sound', logOf_append, logOf_append, same.log,
      same.ctx, logOf_seen, logOf_seen]
    by_cases here : msg.name = name
    · rw [here, same.tracked]
    · rw [if_neg here, if_neg here]

theorem SameFor.loadEntries (same : SameFor name program q) (sound : Sound program)
    (sound' : Sound q) (entries : List BlobAttr) (answers : ℕ → Answer) :
    SameFor name (loadEntries entries answers program).2 (loadEntries entries answers q).2 := by
  induction entries generalizing answers program q with
  | nil => exact same
  | cons cur rest ih =>
      unfold IfaceTester.loadEntries
      split
      · exact ih (same.handleEntry sound sound' cur (answers 0))
          (sound_moves (handleEntry_moves program cur (answers 0)) sound)
          (sound_moves (handleEntry_moves q cur (answers 0)) sound') _
      · exact same

/-- What a flush adds to the log. -/
theorem logOf_interfaceFlushOld (sound : Sound program) (name : String) :
    logOf name (interfaceFlushOld program).log = logOf name program.log ++
      (((program.interfaces.stale.find? fun node => decide (node.key = name)).map
        VersionedNode.value).elim [] freeTrace).map (.seen name) :=
  log_foldl_vlistDelete
    (fun _ dropped =>
      sound.named (VersionedList.find_of_mem (VersionedList.mem_stale.mp dropped).1))
    program.interfaces.distinct_stale program name

theorem SameFor.interfaceFlushOld (same : SameFor name program q) (sound : Sound program)
    (sound' : Sound q) : SameFor name (interfaceFlushOld program) (interfaceFlushOld q) := by
  have left := interfaces_interfaceFlushOld program
  have right := interfaces_interfaceFlushOld q
  constructor
  · rw [ctx_moves (interfaceFlushOld_moves program), ctx_moves (interfaceFlushOld_moves q)]
    exact same.ctx
  · rw [left, right]
    by_cases current : program.interfaces.Current name
    · rw [VersionedList.find_flush_of_current current,
        VersionedList.find_flush_of_current (same.current.mp current), same.tracked]
    · rw [VersionedList.find_flush_of_not_current current,
        VersionedList.find_flush_of_not_current fun later => current (same.current.mpr later)]
  · rw [left, right, (VersionedList.allCurrent_flush _).current_iff,
      (VersionedList.allCurrent_flush _).current_iff, VersionedList.mem_keys_flush,
      VersionedList.mem_keys_flush]
    exact same.current
  · rw [logOf_interfaceFlushOld sound, logOf_interfaceFlushOld sound', same.log]
    by_cases current : program.interfaces.Current name
    · rw [current.find?_stale, (same.current.mp current).find?_stale]
    · rw [VersionedList.map_find?_stale current,
        VersionedList.map_find?_stale fun later => current (same.current.mpr later), same.tracked]

/-- When the version moves on, no name is current any more. -/
theorem SameFor.interfaceUpdate (same : SameFor name program q)
    (current : program.interfaces.AllCurrent) (current' : q.interfaces.AllCurrent) :
    SameFor name (interfaceUpdate program) (interfaceUpdate q) where
  ctx := same.ctx
  tracked := same.tracked
  current := iff_of_false current.not_current_update current'.not_current_update
  log := same.log

theorem SameFor.configLoadConfig (same : SameFor name program q) (sound : Sound program)
    (sound' : Sound q) (current : program.interfaces.AllCurrent)
    (current' : q.interfaces.AllCurrent) (config : List BlobAttr) (answers : ℕ → Answer) :
    SameFor name (configLoadConfig program config answers).2
      (configLoadConfig q config answers).2 := by
  cases found : interfacesTable config with
  | none =>
      rw [configLoadConfig_of_none found, configLoadConfig_of_none found]
      exact same.interfaceFlushOld sound sound'
  | some table =>
      rw [configLoadConfig_of_table found, configLoadConfig_of_table found]
      have bumped : Sound (IfaceTester.interfaceUpdate program) := sound
      have bumped' : Sound (IfaceTester.interfaceUpdate q) := sound'
      refine ((same.interfaceUpdate current current').loadEntries bumped bumped' table.data
        answers).interfaceFlushOld ?_ ?_
      · exact sound_moves (loadEntries_moves _ _ _) bumped
      · exact sound_moves (loadEntries_moves _ _ _) bumped'

/-- What a callback is, when it can come. -/
theorem callbackStep_eq_some_iff {other : String} {cb : Callback} {launch : Launch} :
    callbackStep program other cb launch = some q ↔ (∀ new, cb ≠ .configUpdate new) ∧
      ∃ iface t, program.interfaces.find other = some iface ∧ step iface (cb, launch) = some t ∧
        q = (program.reap iface cb).change iface t := by
  constructor
  · intro taken
    unfold callbackStep at taken
    split at taken
    · cases taken
    case h_2 external =>
      obtain ⟨iface, tracked, stepped⟩ := Option.bind_eq_some_iff.mp taken
      obtain ⟨t, moved, rfl⟩ := Option.map_eq_some_iff.mp stepped
      exact ⟨external, iface, t, tracked, moved, rfl⟩
  · rintro ⟨external, iface, t, tracked, moved, rfl⟩
    cases cb with
    | configUpdate new => exact absurd rfl (external new)
    | _ => simp [callbackStep, tracked, moved]

/-- What a callback does, seen from some name. -/
theorem callback_views {other : String} {iface t : Interface} {cb : Callback} {launch : Launch}
    (sound : Sound program) (tracked : program.interfaces.find other = some iface)
    (external : ∀ new, cb ≠ .configUpdate new) (taken : step iface (cb, launch) = some t)
    (name : String) :
    ((program.reap iface cb).change iface t).interfaces.find name =
        (if name = other then some t else program.interfaces.find name) ∧
      (((program.reap iface cb).change iface t).interfaces.Current name ↔
        program.interfaces.Current name) ∧
      logOf name ((program.reap iface cb).change iface t).log = logOf name program.log ++
        if other = name then (exitedChild iface cb).toList.map (.exited name) ++
          (t.trace.drop iface.trace.length).map (.seen name) else [] := by
  have named := sound.named tracked
  have kept : t.name = other :=
    ((sound other iface tracked).step (fun new update => absurd update (external new))
      taken).identity.2
  have set : ((program.reap iface cb).change iface t).interfaces =
      program.interfaces.set other t := by rw [← named]; rfl
  refine ⟨?_, ?_, ?_⟩
  · rw [set, VersionedList.find_set]
    split
    case isTrue here => simp [here, tracked]
    case isFalse => rfl
  · rw [set, VersionedList.current_set]
  · have log : ((program.reap iface cb).change iface t).log =
        program.log ++ (exitedChild iface cb).toList.map (.exited other) ++
          (t.trace.drop iface.trace.length).map (.seen other) := by
      simp only [Program.change, Program.record, Program.reap, named, kept]
    rw [log, logOf_append, logOf_append, logOf_seen]
    by_cases here : other = name
    · subst here
      simp [logOf, LogEntry.name]
    · simp [logOf, LogEntry.name, here]

end Same

/-! ## Names are separated -/

section Names

variable {ctx : InterfaceTesterShared} {name : String} {program q : Program}
variable {events events' : List ProgramEvent}

/-- A state of the program between two events. -/
def Settled (program : Program) : Prop := Sound program ∧ program.interfaces.AllCurrent

theorem Settled.step {event : ProgramEvent} (settled : Settled program)
    (taken : programStep program event = some q) : Settled q :=
  ⟨sound_moves (programStep_moves taken) settled.1, allCurrent_step settled.2 taken⟩

/-- A callback for another interface changes nothing for the name. -/
theorem sameFor_of_unconcerned {event : ProgramEvent} (settled : Settled program)
    (elsewhere : event.concerns name = false) (taken : programStep program event = some q) :
    SameFor name program q := by
  cases event with
  | callback other cb launch =>
      have apart : ¬ other = name := of_decide_eq_false elsewhere
      have apart' : ¬ name = other := fun same => apart same.symm
      obtain ⟨external, iface, t, tracked, moved, rfl⟩ := callbackStep_eq_some_iff.mp taken
      obtain ⟨find, current, log⟩ := callback_views settled.1 tracked external moved name
      rw [if_neg apart'] at find
      rw [if_neg apart, List.append_nil] at log
      exact ⟨rfl, find.symm, current.symm, log.symm⟩
  | load config answers => cases elsewhere
  | testersFree => cases elsewhere

/-- An event does the same to two programs that are the same for the name it concerns. -/
theorem SameFor.step {p' : Program} {event : ProgramEvent} (settled : Settled program)
    (settled' : Settled q) (concern : event.concerns name = true) (same : SameFor name program q)
    (taken : programStep program event = some p') :
    ∃ q', programStep q event = some q' ∧ SameFor name p' q' := by
  cases event with
  | callback other cb launch =>
      obtain rfl : other = name := of_decide_eq_true concern
      obtain ⟨external, iface, t, tracked, moved, rfl⟩ := callbackStep_eq_some_iff.mp taken
      have tracked' : q.interfaces.find other = some iface := same.tracked ▸ tracked
      refine ⟨_, callbackStep_eq_some_iff.mpr ⟨external, iface, t, tracked', moved, rfl⟩, ?_⟩
      obtain ⟨find, current, log⟩ := callback_views settled.1 tracked external moved other
      obtain ⟨find', current', log'⟩ := callback_views settled'.1 tracked' external moved other
      refine ⟨same.ctx, ?_, ?_, ?_⟩
      · rw [find, find', same.tracked]
      · rw [current, current', same.current]
      · rw [log, log', same.log]
  | load config answers =>
      cases taken
      exact ⟨_, rfl, same.configLoadConfig settled.1 settled'.1 settled.2 settled'.2 config answers⟩
  | testersFree =>
      cases taken
      exact ⟨_, rfl, (same.interfaceUpdate settled.2 settled'.2).interfaceFlushOld settled.1
        settled'.1⟩

/-- **The names are separated observers of the program.** -/
theorem names_separated :
    Separated programStep Settled ProgramEvent.concerns SameFor where
  good_step := Settled.step
  refl := SameFor.refl
  symm := SameFor.symm
  trans := SameFor.trans
  unconcerned := sameFor_of_unconcerned
  concerned := SameFor.step
  somebody event := by
    cases event with
    | callback name cb launch => exact ⟨name, decide_eq_true rfl⟩
    | load config answers => exact ⟨"", rfl⟩
    | testersFree => exact ⟨"", rfl⟩

theorem settled_configInit (ctx : InterfaceTesterShared) : Settled (configInit ctx) :=
  ⟨sound_configInit ctx, VersionedList.allCurrent_empty⟩

/-- **What happens to other interfaces does not matter to an interface.** A run of the
program is possible exactly when, for each name, the run is possible that has the events
for that name only. Both lead the interface of the name to the same state, and the log
says the same about it. -/
theorem interfaces_do_not_interfere :
    ((∃ program, run programStep (configInit ctx) events = some program) ↔
      ∀ name, ∃ program,
        run programStep (configInit ctx) (events.filter (ProgramEvent.concerns name)) =
          some program) ∧
    ∀ program q name, run programStep (configInit ctx) events = some program →
      run programStep (configInit ctx) (events.filter (ProgramEvent.concerns name)) = some q →
        program.interfaces.find name = q.interfaces.find name ∧
          logOf name program.log = logOf name q.log := by
  have start := settled_configInit ctx
  refine ⟨⟨?_, names_separated.exists_run_of_filters start⟩, ?_⟩
  · rintro ⟨program, ran⟩ name
    obtain ⟨q, part, -⟩ := names_separated.run_filter name start ran
    exact ⟨q, part⟩
  · intro program q name ran part
    obtain ⟨q', part', same⟩ := names_separated.run_filter name start ran
    obtain rfl := Option.some.inj (part.symm.trans part')
    exact ⟨same.tracked, same.log⟩

/-- **Any interleaving of the same events is as good as another.** When two lists of
events are the same for each name, and one of them can occur, the other can, and every
interface has come to the same state by the same history. -/
theorem interleaving_does_not_matter
    (same : ∀ name, events.filter (ProgramEvent.concerns name) =
      events'.filter (ProgramEvent.concerns name))
    (ran : run programStep (configInit ctx) events = some program) :
    ∃ q, run programStep (configInit ctx) events' = some q ∧
      ∀ name, program.interfaces.find name = q.interfaces.find name ∧
        logOf name program.log = logOf name q.log := by
  obtain ⟨q, ran', alike⟩ :=
    names_separated.run_interleaving (settled_configInit ctx) same ran
  exact ⟨q, ran', fun name => ⟨(alike name).tracked, (alike name).log⟩⟩

end Names

/-! ## Two interfaces -/

/-- Two interfaces are loaded, and both are up. -/
def wanAndLan : ProgramEvent :=
  .load [.table "interfaces" [pingEntry 3 3, .table "lan" (pingEntry 2 2).data]]
    fun _ => ⟨true, .refused⟩

/-- The first test of one of them starts. -/
def wanSettles : ProgramEvent := .callback "wan" .settlingDelayTimerExpired (.forked 7)

/-- The other one goes down. -/
def lanGoesDown : ProgramEvent := .callback "lan" .ifdown .refused

theorem wanAndLan_run : (run programStep (configInit connectedShared)
    [wanAndLan, lanGoesDown, wanSettles]).isSome = true := by decide +kernel

theorem interfaces_do_not_interfere_wan : ∃ program q,
    run programStep (configInit connectedShared) [wanAndLan, lanGoesDown, wanSettles] =
      some program ∧
    run programStep (configInit connectedShared) [wanAndLan, wanSettles] = some q ∧
    program.interfaces.find "wan" = q.interfaces.find "wan" ∧
    logOf "wan" program.log = logOf "wan" q.log := by
  obtain ⟨program, reached⟩ := Option.isSome_iff_exists.mp wanAndLan_run
  obtain ⟨q, part⟩ := interfaces_do_not_interfere.1.mp ⟨program, reached⟩ "wan"
  exact ⟨program, q, reached, part, interfaces_do_not_interfere.2 program q "wan" reached part⟩

theorem interleaving_does_not_matter_wan : ∃ program q,
    run programStep (configInit connectedShared) [wanAndLan, lanGoesDown, wanSettles] =
      some program ∧
    run programStep (configInit connectedShared) [wanAndLan, wanSettles, lanGoesDown] = some q ∧
    ∀ name, program.interfaces.find name = q.interfaces.find name ∧
      logOf name program.log = logOf name q.log := by
  obtain ⟨program, reached⟩ := Option.isSome_iff_exists.mp wanAndLan_run
  have same : ∀ name, [wanAndLan, lanGoesDown, wanSettles].filter (ProgramEvent.concerns name) =
      [wanAndLan, wanSettles, lanGoesDown].filter (ProgramEvent.concerns name) := by
    intro name
    by_cases wan : "wan" = name
    · subst wan
      rfl
    · simp [wanAndLan, wanSettles, lanGoesDown, ProgramEvent.concerns, List.filter_cons, wan]
  obtain ⟨q, reached', alike⟩ := interleaving_does_not_matter same reached
  exact ⟨program, q, reached, reached', alike⟩

end IfaceTester
