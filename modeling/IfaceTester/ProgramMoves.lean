import IfaceTester.Program
import IfaceTester.Reconfiguration
import Mathlib.Logic.Relation

/-!
# What the program can do

A load, the shutdown and a callback are each a sequence of a few kinds of steps
(`ProgramMove`): the version of the list moves on, an entry is rejected, a new
interface is added, an existing one is updated, one is removed, or one reacts to a
callback. `programStep_moves` is the only place where the loops of a load are taken
apart. What holds in every reachable state of the program is proved by cases on
these steps.

Every tracked interface is in a state that a run of its own leads to (`Reached`), so
what was proved about one interface holds of all that are tracked.
-/

set_option autoImplicit false

namespace IfaceTester

open Runs Relation

/-! ## The steps -/

/-- The log and the list when an interface was decoded and handed to `vlist_add`. -/
def Program.listed (program : Program) (iface : Interface) : Program :=
  { program.record [] iface with interfaces := program.interfaces.add iface.name iface }

/-- An interface was decoded and then refused. -/
def Program.rejected (program : Program) (iface : Interface) : Program :=
  { program.record [] iface with freed := program.freed ++ [iface] }

/-- The node of a name is out of the list. -/
def Program.unlisted (program : Program) (name : String) : Program :=
  { program with interfaces := program.interfaces.remove name }

/-- One step of the program. -/
inductive ProgramMove (program : Program) : Program → Prop
  | bumped : ProgramMove program (interfaceUpdate program)
  | rejected {msg : BlobAttr} {iface : Interface}
      (handled : (interfaceHandleConfig program.ctx msg).freed = some iface) :
      ProgramMove program (program.rejected iface)
  | added {msg : BlobAttr} {iface : Interface} (answer : Answer)
      (handled : (interfaceHandleConfig program.ctx msg).added = some iface)
      (fresh : program.interfaces.find iface.name = none) :
      ProgramMove program ((program.listed iface).change iface
        (interfaceTesterBegin iface answer.isConnected answer.launch))
  | updated {msg : BlobAttr} {iface old : Interface} (answer : Answer)
      (handled : (interfaceHandleConfig program.ctx msg).added = some iface)
      (tracked : program.interfaces.find iface.name = some old) :
      ProgramMove program
        (((program.listed iface).change old (configUpdate old iface.config answer.launch)).free
          (configMoved old iface))
  | removed {name : String} {iface : Interface}
      (tracked : program.interfaces.find name = some iface) :
      ProgramMove program ((program.unlisted name).free iface)
  | reacted {name : String} {iface t : Interface} {cb : Callback} {launch : Launch}
      (tracked : program.interfaces.find name = some iface)
      (external : ∀ new, cb ≠ .configUpdate new)
      (taken : step iface (cb, launch) = some t) :
      ProgramMove program ((program.reap iface cb).change iface t)

/-- Any number of steps. -/
abbrev ProgramMoves := ReflTransGen ProgramMove

section Inversion

variable {program q : Program}

theorem vlistAdd_move {msg : BlobAttr} {iface : Interface} (answer : Answer)
    (handled : (interfaceHandleConfig program.ctx msg).added = some iface) :
    ProgramMove program (vlistAdd (program.record [] iface) iface answer) := by
  unfold vlistAdd
  cases tracked : program.interfaces.find iface.name with
  | none =>
      have found : (program.record [] iface).interfaces.find iface.name = none := tracked
      rw [found]
      exact .added answer handled tracked
  | some old =>
      have found : (program.record [] iface).interfaces.find iface.name = some old := tracked
      rw [found]
      exact .updated answer handled tracked

theorem handleEntry_moves (program : Program) (msg : BlobAttr) (answer : Answer) :
    ProgramMoves program (handleEntry program msg answer) := by
  unfold handleEntry
  dsimp only
  cases added : (interfaceHandleConfig program.ctx msg).added with
  | some iface => exact .single (vlistAdd_move answer added)
  | none =>
      cases freed : (interfaceHandleConfig program.ctx msg).freed with
      | some iface => exact .single (.rejected freed)
      | none => exact .refl

theorem loadEntries_moves (entries : List BlobAttr) (answers : ℕ → Answer) (program : Program) :
    ProgramMoves program (loadEntries entries answers program).2 := by
  induction entries generalizing answers program with
  | nil => exact .refl
  | cons cur rest ih =>
      unfold loadEntries
      split
      · exact (handleEntry_moves program cur (answers 0)).trans (ih _ _)
      · exact .refl

/-- The nodes that are left to drop are still in the list. -/
theorem foldl_vlistDelete_moves {nodes : List (VersionedNode String Interface)}
    (tracked : ∀ node ∈ nodes, program.interfaces.find node.key = some node.value)
    (distinct : (nodes.map VersionedNode.key).Nodup) :
    ProgramMoves program (nodes.foldl vlistDelete program) := by
  induction nodes generalizing program with
  | nil => exact .refl
  | cons node nodes ih =>
      rw [List.map_cons, List.nodup_cons] at distinct
      have first : ProgramMove program (vlistDelete program node) :=
        .removed (tracked node List.mem_cons_self)
      refine (ReflTransGen.single first).trans (ih (fun other later => ?_) distinct.2)
      have apart : other.key ≠ node.key := fun same =>
        distinct.1 (same ▸ List.mem_map_of_mem later)
      have kept : (program.interfaces.remove node.key).find other.key =
          program.interfaces.find other.key := by rw [VersionedList.find_remove, if_neg apart]
      exact kept.trans (tracked other (List.mem_cons_of_mem _ later))

theorem interfaceFlushOld_moves (program : Program) :
    ProgramMoves program (interfaceFlushOld program) := by
  refine foldl_vlistDelete_moves (fun node dropped => ?_) program.interfaces.distinct_stale
  exact VersionedList.find_of_mem (VersionedList.mem_stale.mp dropped).1

theorem configLoadConfig_moves (program : Program) (config : List BlobAttr)
    (answers : ℕ → Answer) : ProgramMoves program (configLoadConfig program config answers).2 := by
  unfold configLoadConfig
  refine ReflTransGen.trans ?_ (interfaceFlushOld_moves _)
  split
  · exact .refl
  · split
    · exact .refl
    · exact (ReflTransGen.single .bumped).trans (loadEntries_moves _ _ _)

/-- **An event of the main loop is a sequence of such steps.** -/
theorem programStep_moves {event : ProgramEvent} (taken : programStep program event = some q) :
    ProgramMoves program q := by
  cases event with
  | load config answers =>
      cases taken
      exact configLoadConfig_moves program config answers
  | testersFree =>
      cases taken
      exact (ReflTransGen.single .bumped).trans (interfaceFlushOld_moves _)
  | callback name cb launch =>
      have reacts : (∀ new, cb ≠ .configUpdate new) →
          ((program.interfaces.find name).bind fun iface =>
            (step iface (cb, launch)).map fun t => (program.reap iface cb).change iface t) =
              some q → ProgramMoves program q := by
        intro external reacted
        obtain ⟨iface, tracked, stepped⟩ := Option.bind_eq_some_iff.mp reacted
        obtain ⟨t, moved, rfl⟩ := Option.map_eq_some_iff.mp stepped
        exact .single (.reacted tracked external moved)
      simp only [programStep, callbackStep] at taken
      split at taken
      · cases taken
      case h_2 external => exact reacts external taken

theorem run_moves {events : List ProgramEvent} (reached : run programStep program events = some q) :
    ProgramMoves program q :=
  run_invariant (I := ProgramMoves program)
    (fun _ _ _ moved taken => moved.trans (programStep_moves taken)) .refl reached

/-- **What every step keeps holds in every state the program comes to.** -/
theorem moves_invariant {I : Program → Prop}
    (keeps : ∀ program q, ProgramMove program q → I program → I q)
    (moves : ProgramMoves program q) (start : I program) : I q := by
  induction moves with
  | refl => exact start
  | tail _ move ih => exact keeps _ _ move ih

theorem ProgramMove.ctx (move : ProgramMove program q) : q.ctx = program.ctx := by
  cases move <;> rfl

end Inversion

/-! ## Tracked interfaces -/

/-- The configurations that come with an input can be loaded. -/
def LoadableInput (metrics : Bool) (input : Input) : Prop :=
  ∀ new, input.1 = .configUpdate new → new.config.Loadable metrics

/-- A state that a run of one interface leads to, from its start under the name. -/
def Reached (ctx : InterfaceTesterShared) (name : String) (iface : Interface) : Prop :=
  ∃ config isConnected launch inputs, config.config.Loadable ctx.withMetricsAdjustment ∧
    (∀ input ∈ inputs, LoadableInput ctx.withMetricsAdjustment input) ∧
    run step (begun ctx name config isConnected launch) inputs = some iface

section Reached

variable {ctx : InterfaceTesterShared} {name : String} {iface t : Interface}

theorem Reached.coherent (reached : Reached ctx name iface) : Coherent iface := by
  obtain ⟨config, isConnected, launch, inputs, -, -, ran⟩ := reached
  exact coherent_of_visits (visits_last ran)

theorem Reached.identity (reached : Reached ctx name iface) :
    iface.ctx = ctx ∧ iface.name = name := by
  obtain ⟨config, isConnected, launch, inputs, -, -, ran⟩ := reached
  exact identity_of_visits (visits_last ran)

theorem Reached.step (reached : Reached ctx name iface) {input : Input}
    (loadable : LoadableInput ctx.withMetricsAdjustment input)
    (taken : step iface input = some t) : Reached ctx name t := by
  obtain ⟨config, isConnected, launch, inputs, fits, each, ran⟩ := reached
  refine ⟨config, isConnected, launch, inputs ++ [input], fits, fun later member => ?_,
    run_concat ran taken⟩
  rcases List.mem_append.mp member with earlier | last
  · exact each later earlier
  · exact List.mem_singleton.mp last ▸ loadable

theorem config_begun (ctx : InterfaceTesterShared) (name : String) (config : AcceptedConfig)
    (isConnected : Bool) (launch : Launch) :
    (begun ctx name config isConnected launch).config = config.config := by
  have before : (beforeBegin ctx name config).config = config.config :=
    (fields_of_frame (frame_transitionToOperationalState _)).2
  rw [begun_eq]
  cases isConnected with
  | true => exact before
  | false => exact before

/-- The configuration of a tracked interface came from a load. -/
theorem Reached.loadable (reached : Reached ctx name iface) :
    iface.config.Loadable ctx.withMetricsAdjustment := by
  obtain ⟨config, isConnected, launch, inputs, fits, each, ran⟩ := reached
  refine visits_of_invariant
    (I := fun iface : Interface => iface.config.Loadable ctx.withMetricsAdjustment) ?_ ?_
    (visits_last ran)
  · rintro s ⟨cb, answer⟩ u taken loadable
    have coherent := coherent_of_visits taken.source
    rcases (step_move coherent taken.step_eq).config with same | ⟨new, update, replaced⟩
    · exact same ▸ loadable
    · exact replaced ▸ each _ taken.mem new update
  · exact (config_begun ctx name config isConnected launch).symm ▸ fits

/-- An interface is reached when it begins with a configuration of the handler. -/
theorem reached_of_interfaceHandleConfig {msg : BlobAttr}
    (handled : (interfaceHandleConfig ctx msg).added = some iface) (answer : Answer) :
    Reached ctx iface.name (interfaceTesterBegin iface answer.isConnected answer.launch) := by
  have loadable := (loadable_of_interfaceHandleConfig handled).1
  have named : iface.name = msg.name :=
    congrArg Interface.name (loadable_of_interfaceHandleConfig handled).2
  refine ⟨⟨iface.config, loadable.accepted⟩, answer.isConnected, answer.launch, [], loadable,
    by simp, ?_⟩
  rw [begun_of_interfaceHandleConfig handled, named]
  rfl

/-- An update with a configuration of the handler is a callback. -/
theorem Reached.configUpdate (reached : Reached ctx name iface) {msg : BlobAttr}
    {new : Interface} (handled : (interfaceHandleConfig ctx msg).added = some new)
    (launch : Launch) : Reached ctx name (configUpdate iface new.config launch) := by
  have loadable := (loadable_of_interfaceHandleConfig handled).1
  have taken : IfaceTester.step iface (.configUpdate ⟨new.config, loadable.accepted⟩, launch) =
      some (IfaceTester.configUpdate iface new.config launch) := rfl
  refine reached.step ?_ taken
  rintro other ⟨⟩
  exact loadable

end Reached

/-! ## Reachable states of the program -/

/-- Every tracked interface is in a state that it can be in under its name. -/
def Sound (program : Program) : Prop :=
  ∀ name iface, program.interfaces.find name = some iface → Reached program.ctx name iface

section Sound

variable {program q : Program} {ctx : InterfaceTesterShared}

theorem Sound.named (sound : Sound program) {name : String} {iface : Interface}
    (tracked : program.interfaces.find name = some iface) : iface.name = name :=
  (sound name iface tracked).identity.2

theorem find_listed_change {iface old t : Interface} (same : old.name = iface.name)
    (name : String) :
    ((program.listed iface).change old t).interfaces.find name =
      if name = iface.name then some t else program.interfaces.find name := by
  have set : ((program.listed iface).change old t).interfaces =
      (program.interfaces.add iface.name iface).set old.name t := rfl
  rw [set, VersionedList.find_set, VersionedList.find_add, same]
  split <;> simp

/-- **Every step keeps the tracked interfaces in such states.** -/
theorem ProgramMove.sound (move : ProgramMove program q) (sound : Sound program) : Sound q := by
  cases move with
  | bumped => exact sound
  | rejected handled => exact sound
  | @added msg iface answer handled fresh =>
      intro name t tracked
      rw [find_listed_change rfl] at tracked
      split at tracked
      case isTrue here =>
        obtain rfl := Option.some.inj tracked
        exact here ▸ reached_of_interfaceHandleConfig handled answer
      case isFalse => exact sound name t tracked
  | @updated msg iface old answer handled found =>
      have same := sound.named found
      intro name t tracked
      have tracked : ((program.listed iface).change old _).interfaces.find name = some t := tracked
      rw [find_listed_change same] at tracked
      split at tracked
      case isTrue here =>
        obtain rfl := Option.some.inj tracked
        exact here ▸ (sound _ old found).configUpdate handled answer.launch
      case isFalse => exact sound name t tracked
  | @removed gone iface found =>
      intro name t tracked
      have tracked : (program.interfaces.remove gone).find name = some t := tracked
      rw [VersionedList.find_remove] at tracked
      split at tracked
      · cases tracked
      · exact sound name t tracked
  | @reacted here iface u cb launch found external taken =>
      have same := sound.named found
      intro name t tracked
      have tracked : (program.interfaces.set iface.name u).find name = some t := tracked
      rw [VersionedList.find_set, same] at tracked
      split at tracked
      case isTrue it =>
        subst it
        rw [found] at tracked
        obtain rfl := Option.some.inj tracked
        exact (sound _ iface found).step (fun new update => absurd update (external new)) taken
      case isFalse => exact sound name t tracked

theorem sound_configInit (ctx : InterfaceTesterShared) : Sound (configInit ctx) :=
  fun _ _ tracked => by cases tracked

/-- **In every state of the program, the tracked interfaces are in such states.** -/
theorem sound_of_run {events : List ProgramEvent}
    (reached : run programStep (configInit ctx) events = some program) :
    Sound program ∧ program.ctx = ctx := by
  refine moves_invariant (I := fun program => Sound program ∧ program.ctx = ctx) ?_
    (run_moves reached) ⟨sound_configInit ctx, rfl⟩
  rintro program q move ⟨sound, same⟩
  exact ⟨move.sound sound, move.ctx.trans same⟩

end Sound

end IfaceTester
