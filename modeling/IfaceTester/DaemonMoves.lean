import IfaceTester.DaemonRuns

/-!
# What the daemon can do

What a load, a message or a request leads to is a sequence of a few kinds of work
(`DaemonWork`). The program makes a step and nothing happens to the objects, an interface
is added and its object is published, or an interface is removed and its object is taken
back. What the program logs on the way goes out as events. Besides, the daemon says that
it is up or down, and opens itself to requests (`DaemonMove`).
-/

set_option autoImplicit false

namespace IfaceTester

open Runs Relation

/-- The names that are tracked in a program. -/
def Tracks (program : Program) (name : String) : Prop :=
  (program.interfaces.find name).isSome = true

/-- One piece of work. -/
inductive DaemonWork (daemon : Daemon) : Daemon → Prop
  | ran {program : Program} {added : List LogEntry}
      (move : ProgramMove daemon.program program)
      (logged : program.log = daemon.program.log ++ added)
      (tracked : ∀ name, Tracks program name ↔ Tracks daemon.program name) :
      DaemonWork daemon
        { daemon with program := program, sent := daemon.sent ++ sentEvents added }
  | published {program : Program} {added : List LogEntry} (here : String)
      (answer : PublishAnswer) (move : ProgramMove daemon.program program)
      (logged : program.log = daemon.program.log ++ added)
      (fresh : ¬ Tracks daemon.program here)
      (tracked : ∀ name, Tracks program name ↔ name = here ∨ Tracks daemon.program name) :
      DaemonWork daemon
        { daemon with
          program := program
          sent := daemon.sent ++ sentEvents added
          objects := (ubusAddInterfaceObject daemon.objects here answer).2 }
  | withdrawn {program : Program} {added : List LogEntry} (here : String)
      (move : ProgramMove daemon.program program)
      (logged : program.log = daemon.program.log ++ added)
      (tracked : ∀ name, Tracks program name ↔ name ≠ here ∧ Tracks daemon.program name) :
      DaemonWork daemon
        { daemon with
          program := program
          sent := daemon.sent ++ sentEvents added
          objects := ubusRemoveInterfaceObject daemon.objects here }

/-- Any amount of work. -/
abbrev DaemonWorks := ReflTransGen DaemonWork

/-- One step of the daemon. -/
inductive DaemonMove (daemon : Daemon) : Daemon → Prop
  | worked {d : Daemon} (work : DaemonWork daemon d) : DaemonMove daemon d
  | announced (areUp : Bool) :
      DaemonMove daemon (daemon.send (interfaceTesterSendUpDownEvent daemon.program.ctx areUp))
  | opened :
      DaemonMove daemon { daemon with
        mainObject := true
        subscriptions := daemon.subscriptions ++ [interfaceMonitorEventId, interfaceStateEventId] }

/-- Any number of steps. -/
abbrev DaemonMoves := ReflTransGen DaemonMove

section Inversion

variable {daemon d : Daemon} {program : Program}

/-- Every step of the program adds to the log. -/
theorem ProgramMove.grows {q : Program} (move : ProgramMove program q) :
    ∃ added, q.log = program.log ++ added := by
  cases move with
  | bumped => exact ⟨[], (List.append_nil _).symm⟩
  | rejected handled => exact ⟨_, rfl⟩
  | added answer handled fresh => exact ⟨_, List.append_assoc _ _ _⟩
  | updated answer handled tracked =>
      exact ⟨_, (List.append_assoc _ _ _).trans (List.append_assoc _ _ _)⟩
  | removed tracked => exact ⟨_, rfl⟩
  | reacted tracked external taken => exact ⟨_, List.append_assoc _ _ _⟩

theorem Daemon.advance_eq {added : List LogEntry}
    (logged : program.log = daemon.program.log ++ added) :
    daemon.advance program =
      { daemon with program := program, sent := daemon.sent ++ sentEvents added } := by
  unfold advance
  rw [logged, List.drop_left]

theorem sentEvents_append (log later : List LogEntry) :
    sentEvents (log ++ later) = sentEvents log ++ sentEvents later :=
  List.filterMap_append

/-- A step of the program that keeps the tracked names, as a step of the daemon. -/
theorem DaemonWork.advance (move : ProgramMove daemon.program program)
    (tracked : ∀ name, Tracks program name ↔ Tracks daemon.program name) :
    DaemonWork daemon (daemon.advance program) := by
  obtain ⟨added, logged⟩ := move.grows
  rw [Daemon.advance_eq logged]
  exact .ran move logged tracked

theorem tracks_set {iface t : Interface} (name : String) :
    Tracks (program.change iface t) name ↔ Tracks program name := by
  have set : (program.change iface t).interfaces = program.interfaces.set iface.name t := rfl
  unfold Tracks
  rw [set, VersionedList.find_set]
  split <;> simp

theorem advance_self : daemon.advance daemon.program = daemon := by
  rw [Daemon.advance_eq (List.append_nil _).symm]
  simp [sentEvents]

/-- A tracked interface reacts to a callback. -/
theorem reacts_work {name : String} {iface t : Interface} {cb : Callback} {launch : Launch}
    (tracked : daemon.program.interfaces.find name = some iface)
    (external : ∀ new, cb ≠ .configUpdate new) (taken : step iface (cb, launch) = some t) :
    DaemonWork daemon (daemon.advance ((daemon.program.reap iface cb).change iface t)) :=
  .advance (.reacted tracked external taken) fun name =>
    @tracks_set (daemon.program.reap iface cb) iface t name

/-! ## A load -/

theorem tracks_listed (iface : Interface) (name : String) :
    Tracks (program.listed iface) name ↔ name = iface.name ∨ Tracks program name := by
  have list : (program.listed iface).interfaces = program.interfaces.add iface.name iface := rfl
  unfold Tracks
  rw [list, VersionedList.find_add]
  split <;> simp_all

theorem Daemon.advance_setInterfaces_advance {q : Program} {added later : List LogEntry}
    (tree : VersionedList String Interface)
    (first : program.log = daemon.program.log ++ added) (second : q.log = program.log ++ later) :
    ((daemon.advance program).setInterfaces tree).advance q =
      { daemon with program := q, sent := daemon.sent ++ sentEvents (added ++ later) } := by
  rw [@advance_eq ((daemon.advance program).setInterfaces tree) q later second,
    sentEvents_append, ← List.append_assoc, advance_eq first]
  rfl

/-- What `vlist_add` does after an interface was decoded. -/
theorem vlistAdd_daemonWork {msg : BlobAttr} {iface : Interface} (answer : DaemonAnswer)
    (sound : Sound daemon.program)
    (handled : (interfaceHandleConfig daemon.program.ctx msg).added = some iface) :
    DaemonWork daemon
      ((daemon.advance (daemon.program.record [] iface)).vlistAdd iface answer) := by
  have first : (daemon.program.record [] iface).log = daemon.program.log ++ _ := rfl
  unfold Daemon.vlistAdd
  rw [Daemon.program_advance]
  cases tracked : daemon.program.interfaces.find iface.name with
  | none =>
      have found : (daemon.program.record [] iface).interfaces.find iface.name = none := tracked
      have fresh : ¬ Tracks daemon.program iface.name := by simp [Tracks, tracked]
      have second : ((daemon.program.listed iface).change iface
          (interfaceTesterBegin iface answer.answer.isConnected answer.answer.launch)).log =
          (daemon.program.record [] iface).log ++ _ := rfl
      have move : ProgramMove daemon.program _ := .added answer.answer handled tracked
      have published : DaemonWork daemon _ := .published iface.name answer.publish move
        (second.trans (List.append_assoc _ _ _)) fresh fun name =>
          (tracks_set name).trans (tracks_listed iface name)
      have same : ((daemon.advance (daemon.program.record [] iface)).setInterfaces
          (daemon.program.interfaces.add iface.name iface)).configAdd iface answer = _ :=
        congrArg (fun advanced : Daemon => { advanced with
            objects := (ubusAddInterfaceObject daemon.objects iface.name answer.publish).2 })
          (Daemon.advance_setInterfaces_advance (daemon.program.interfaces.add iface.name iface)
            first second)
      rw [found]
      exact (congrArg (DaemonWork daemon) same).mpr published
  | some old =>
      have found : (daemon.program.record [] iface).interfaces.find iface.name = some old := tracked
      have named := sound.named tracked
      have second : (((daemon.program.listed iface).change old
          (configUpdate old iface.config answer.answer.launch)).free (configMoved old iface)).log =
          (daemon.program.record [] iface).log ++ _ := List.append_assoc _ _ _
      have move : ProgramMove daemon.program _ := .updated answer.answer handled tracked
      have kept : ∀ name, Tracks (((daemon.program.listed iface).change old
          (configUpdate old iface.config answer.answer.launch)).free (configMoved old iface)) name ↔
          Tracks daemon.program name := by
        intro name
        refine Iff.trans (@tracks_set (daemon.program.listed iface) old _ name)
          ((tracks_listed iface name).trans (or_iff_right_of_imp ?_))
        rintro rfl
        simp [Tracks, tracked]
      have ran : DaemonWork daemon _ := .ran move (second.trans (List.append_assoc _ _ _)) kept
      have same := Daemon.advance_setInterfaces_advance
        (daemon.program.interfaces.add iface.name iface) first second
      rw [found]
      exact (congrArg (DaemonWork daemon) same).mpr ran

/-- The handler of an entry. -/
theorem Daemon.handleEntry_works (sound : Sound daemon.program) (msg : BlobAttr)
    (answer : DaemonAnswer) : DaemonWorks daemon (daemon.handleEntry msg answer) := by
  unfold handleEntry
  dsimp only
  cases added : (interfaceHandleConfig daemon.program.ctx msg).added with
  | some iface => exact .single (vlistAdd_daemonWork answer sound added)
  | none =>
      dsimp only
      cases freed : (interfaceHandleConfig daemon.program.ctx msg).freed with
      | some refused =>
          have handled : IfaceTester.handleEntry daemon.program msg answer.answer =
              daemon.program.rejected refused := by
            simp [IfaceTester.handleEntry, added, freed, Program.rejected]
          rw [handled]
          exact .single (.advance (.rejected freed) fun _ => Iff.rfl)
      | none =>
          have handled : IfaceTester.handleEntry daemon.program msg answer.answer =
              daemon.program := by
            simp [IfaceTester.handleEntry, added, freed]
          rw [handled, advance_self]

theorem Daemon.loadEntries_works (sound : Sound daemon.program) (entries : List BlobAttr)
    (answers : ℕ → DaemonAnswer) :
    DaemonWorks daemon (loadEntries entries answers daemon).2 := by
  induction entries generalizing answers daemon with
  | nil => exact .refl
  | cons cur rest ih =>
      unfold loadEntries
      split
      · have first := handleEntry_works sound cur (answers 0)
        refine first.trans (ih ?_ fun k => answers (k + 1))
        rw [program_handleEntry]
        exact sound_moves (IfaceTester.handleEntry_moves _ cur (answers 0).answer) sound
      · exact .refl

/-- A node is dropped. -/
theorem vlistDelete_daemonWork {node : VersionedNode String Interface}
    (sound : Sound daemon.program)
    (listed : daemon.program.interfaces.find node.key = some node.value) :
    DaemonWork daemon (daemon.vlistDelete node) := by
  have named := sound.named listed
  have logged : ((daemon.program.unlisted node.key).free node.value).log =
      daemon.program.log ++ _ := rfl
  have tracked : ∀ name, Tracks ((daemon.program.unlisted node.key).free node.value) name ↔
      name ≠ node.value.name ∧ Tracks daemon.program name := by
    intro name
    have list : ((daemon.program.unlisted node.key).free node.value).interfaces =
        daemon.program.interfaces.remove node.key := rfl
    unfold Tracks
    rw [list, VersionedList.find_remove, named]
    split <;> simp_all
  have move : ProgramMove daemon.program _ := .removed listed
  have withdrawn : DaemonWork daemon _ := .withdrawn node.value.name move logged tracked
  have advanced := @Daemon.advance_eq (daemon.setInterfaces (daemon.program.interfaces.remove
    node.key)) _ _ logged
  have same : daemon.vlistDelete node = _ := congrArg (fun advanced : Daemon => { advanced with
    objects := ubusRemoveInterfaceObject daemon.objects node.value.name }) advanced
  exact (congrArg (DaemonWork daemon) same).mpr withdrawn

/-- **What every drop keeps a flush keeps.** The nodes that are left to drop are still in
the list. Something else may be folded along. -/
theorem Daemon.flush_induction {σ : Type*} {I : Daemon → σ → Prop}
    {f : σ → VersionedNode String Interface → σ}
    (keeps : ∀ daemon s node, Sound daemon.program →
      daemon.program.interfaces.find node.key = some node.value → I daemon s →
        I (daemon.vlistDelete node) (f s node))
    (sound : Sound daemon.program) (s : σ) (start : I daemon s) :
    I daemon.interfaceFlushOld (daemon.program.interfaces.stale.foldl f s) := by
  have tracked : ∀ node ∈ daemon.program.interfaces.stale,
      daemon.program.interfaces.find node.key = some node.value := fun node dropped =>
    VersionedList.find_of_mem (VersionedList.mem_stale.mp dropped).1
  have distinct := daemon.program.interfaces.distinct_stale
  unfold interfaceFlushOld
  generalize daemon.program.interfaces.stale = nodes at tracked distinct ⊢
  induction nodes generalizing daemon s with
  | nil => exact start
  | cons node nodes ih =>
      rw [List.map_cons, List.nodup_cons] at distinct
      have listed := tracked node List.mem_cons_self
      have dropped := @program_vlistDelete daemon node
      refine ih ?_ (f s node) (keeps daemon s node sound listed start) (fun other later => ?_)
        distinct.2
      · rw [dropped]
        exact (ProgramMove.removed listed).sound sound
      · have apart : other.key ≠ node.key := fun same =>
          distinct.1 (same ▸ List.mem_map_of_mem later)
        have kept : (daemon.program.interfaces.remove node.key).find other.key =
            daemon.program.interfaces.find other.key := by
          rw [VersionedList.find_remove, if_neg apart]
        rw [dropped]
        exact kept.trans (tracked other (List.mem_cons_of_mem _ later))

theorem Daemon.interfaceFlushOld_works (sound : Sound daemon.program) :
    DaemonWorks daemon daemon.interfaceFlushOld :=
  flush_induction (I := fun d (_ : Unit) => DaemonWorks daemon d) (f := fun s _ => s)
    (fun _ _ _ sound listed works => works.tail (vlistDelete_daemonWork sound listed))
    sound () .refl

/-- The version of the list moves on. -/
theorem interfaceUpdate_daemonWork : DaemonWork daemon daemon.interfaceUpdate := by
  have bumped : DaemonWork daemon _ := .ran .bumped (List.append_nil _).symm fun _ => Iff.rfl
  have nothing : daemon.sent ++ sentEvents [] = daemon.sent := List.append_nil _
  rw [nothing] at bumped
  exact bumped

theorem Daemon.configLoadConfig_works (sound : Sound daemon.program) (config : List BlobAttr)
    (answers : ℕ → DaemonAnswer) :
    DaemonWorks daemon (daemon.configLoadConfig config answers).2 := by
  unfold configLoadConfig
  dsimp only
  split
  · exact interfaceFlushOld_works sound
  · split
    · exact interfaceFlushOld_works sound
    case isFalse interfaces _ _ =>
      have bumped : Sound daemon.interfaceUpdate.program := sound
      refine ((ReflTransGen.single interfaceUpdate_daemonWork).trans
        (loadEntries_works bumped interfaces.data answers)).trans (interfaceFlushOld_works ?_)
      rw [(@program_loadEntries daemon.interfaceUpdate interfaces.data answers).2]
      exact sound_moves (IfaceTester.loadEntries_moves _ _ _) bumped

theorem Daemon.configLoadFromFileCheck_works (sound : Sound daemon.program)
    (file : Option (List BlobAttr)) (answers : ℕ → DaemonAnswer) :
    DaemonWorks daemon (daemon.configLoadFromFileCheck file answers) := by
  unfold configLoadFromFileCheck
  split
  · exact .refl
  · split
    · exact .refl
    · exact configLoadConfig_works sound _ answers

/-! ## Every event -/

/-- A change of an interface by a callback that no child has to exit for. -/
theorem change_works {name : String} {iface t : Interface} (cb : Callback) (launch : Launch)
    (tracked : daemon.program.interfaces.find name = some iface)
    (external : ∀ new, cb ≠ .configUpdate new) (noExit : exitedChild iface cb = none)
    (taken : step iface (cb, launch) = some t) :
    DaemonWorks daemon (daemon.advance (daemon.program.change iface t)) := by
  have moved := @reacts_work daemon name iface t cb launch tracked external taken
  have same : daemon.program.reap iface cb = daemon.program := by simp [Program.reap, noExit]
  rw [same] at moved
  exact .single moved

/-- The handlers of the two events only ever move the program. -/
theorem Daemon.handleInterfaceEvent_advance (word interfaceName : Option String) (wanted : String)
    (react : Interface → Interface) :
    ∃ program, daemon.handleInterfaceEvent word interfaceName wanted react =
      daemon.advance program := by
  have nothing : ∃ program, daemon = daemon.advance program := ⟨daemon.program, advance_self.symm⟩
  unfold handleInterfaceEvent
  split
  · split
    · exact nothing
    · split
      · exact nothing
      · exact ⟨_, rfl⟩
  · exact nothing

theorem Daemon.handleInterfaceEvent_works (cb : Callback) (launch : Launch)
    (word interfaceName : Option String) (wanted : String) {react : Interface → Interface}
    (external : ∀ new, cb ≠ .configUpdate new) (noExit : ∀ iface, exitedChild iface cb = none)
    (reacts : ∀ iface, step iface (cb, launch) = some (react iface)) :
    DaemonWorks daemon (daemon.handleInterfaceEvent word interfaceName wanted react) := by
  unfold handleInterfaceEvent
  split
  · split
    · exact .refl
    · split
      · exact .refl
      case h_2 iface tracked =>
        exact change_works cb launch tracked external (noExit iface) (reacts iface)
  · exact .refl

theorem Daemon.deliver_works (event : BusEvent) (launch : Launch) :
    DaemonWorks daemon (daemon.deliver event launch) := by
  unfold deliver
  split
  · split
    · exact handleInterfaceEvent_works .ifdown launch _ _ _ (fun _ => by simp) (fun _ => rfl)
        fun _ => rfl
    · split
      · exact handleInterfaceEvent_works .ifup launch _ _ _ (fun _ => by simp) (fun _ => rfl)
          fun _ => rfl
      · exact .refl
  · exact .refl

theorem Daemon.request_works (sound : Sound daemon.program) (path method : String)
    (msg : List BlobAttr) (around : Surroundings) :
    DaemonWorks daemon (daemon.request path method msg around).1 := by
  unfold request
  split
  · unfold mainRequest
    split
    · exact configLoadConfig_works sound msg around.answers
    · split
      · exact .refl
      · split
        · exact configLoadFromFileCheck_works sound around.file around.answers
        · exact .refl
  · split
    · cases owns : daemon.owner path with
      | none => exact .refl
      | some iface =>
          obtain ⟨name, tracked, -⟩ := owner_tracked owns
          dsimp only
          unfold interfaceRequest
          split
          · exact .refl
          · split
            · exact change_works .startTestRun around.launch tracked (fun _ => by simp) rfl rfl
            · exact .refl
    · exact .refl

/-- The process is published, or it is not. -/
inductive Opened (daemon : Daemon) : Daemon → Prop
  | refused : Opened daemon daemon
  | opened : Opened daemon
      { daemon with
        mainObject := true
        subscriptions := daemon.subscriptions ++ [interfaceMonitorEventId, interfaceStateEventId] }

/-- What an event of the main loop leads to, besides the work. -/
inductive Outcome (daemon : Daemon) : DaemonEvent → Daemon → Prop
  | connected {status : Int} {around : Surroundings} {opened loaded : Daemon}
      (opening : Opened daemon opened) (works : DaemonWorks opened loaded) :
      Outcome daemon (.connected status around)
        (loaded.send (interfaceTesterSendUpDownEvent loaded.program.ctx true))
  | worked {event : DaemonEvent} {d : Daemon} (works : DaemonWorks daemon d)
      (inside : ∀ status around, event ≠ .connected status around) (alive : event ≠ .shutdown) :
      Outcome daemon event d
  | shutdown {d : Daemon}
      (works : DaemonWorks
        (daemon.send (interfaceTesterSendUpDownEvent daemon.program.ctx false)) d) :
      Outcome daemon .shutdown d

/-- **Every event of the main loop has such an outcome.** -/
theorem daemonStep_outcome (sound : Sound daemon.program) {event : DaemonEvent}
    (taken : daemonStep daemon event = some d) : Outcome daemon event d := by
  cases event with
  | connected status around =>
      cases taken
      unfold Daemon.ubusConnectHandler Daemon.publishObjects
      split
      · exact .connected .opened
          (Daemon.configLoadFromFileCheck_works (by exact sound) around.file around.answers)
      · exact .connected .refused
          (Daemon.configLoadFromFileCheck_works sound around.file around.answers)
  | event event launch =>
      cases taken
      exact .worked (Daemon.deliver_works event launch) (by simp) (by simp)
  | request path method msg around =>
      cases taken
      exact .worked (Daemon.request_works sound path method msg around) (by simp) (by simp)
  | wakeUp name cb launch =>
      simp only [daemonStep] at taken
      split at taken
      · obtain ⟨program, reacted, rfl⟩ := Option.map_eq_some_iff.mp taken
        obtain ⟨external, iface, t, tracked, stepped, rfl⟩ := callbackStep_eq_some_iff.mp reacted
        exact .worked (.single (reacts_work tracked external stepped)) (by simp) (by simp)
      · cases taken
  | shutdown =>
      cases taken
      refine .shutdown ((ReflTransGen.single interfaceUpdate_daemonWork).trans
        (Daemon.interfaceFlushOld_works ?_))
      exact sound

theorem DaemonWorks.moves (works : DaemonWorks daemon d) : DaemonMoves daemon d :=
  ReflTransGen.mono (fun _ _ => DaemonMove.worked) _ _ works

/-- An event of the main loop is a sequence of steps. -/
theorem Outcome.moves {event : DaemonEvent} (outcome : Outcome daemon event d) :
    DaemonMoves daemon d := by
  cases outcome with
  | connected opening works =>
      cases opening with
      | refused => exact works.moves.tail (.announced true)
      | opened => exact ((ReflTransGen.single .opened).trans works.moves).tail (.announced true)
  | worked works => exact works.moves
  | shutdown works => exact (ReflTransGen.single (.announced false)).trans works.moves

/-! ## Invariants -/

/-- A piece of work is a step of the program. -/
theorem DaemonWork.programMove (work : DaemonWork daemon d) :
    ProgramMove daemon.program d.program := by
  cases work with
  | ran move => exact move
  | published here answer move => exact move
  | withdrawn here move => exact move

/-- Every step keeps the program sound. -/
theorem DaemonMove.sound (move : DaemonMove daemon d) (sound : Sound daemon.program) :
    Sound d.program := by
  cases move with
  | worked work => exact work.programMove.sound sound
  | announced areUp => exact sound
  | opened => exact sound

/-- **What every step keeps holds in every state that the daemon comes to.** -/
theorem daemon_invariant {ctx : InterfaceTesterShared} {configFile : Option String}
    {events : List DaemonEvent} {I : Daemon → Prop} (start : I (contextInit ctx configFile))
    (keeps : ∀ daemon d, DaemonMove daemon d → Sound daemon.program → I daemon → I d)
    (reached : run daemonStep (contextInit ctx configFile) events = some d) :
    Sound d.program ∧ I d := by
  refine run_invariant (I := fun daemon : Daemon => Sound daemon.program ∧ I daemon) ?_
    ⟨sound_configInit ctx, start⟩ reached
  rintro before event after ⟨sound, holds⟩ taken
  have moves := (daemonStep_outcome sound taken).moves
  clear taken
  induction moves with
  | refl => exact ⟨sound, holds⟩
  | tail _ move ih => exact ⟨move.sound ih.1, keeps _ _ move ih.1 ih.2⟩

end Inversion

end IfaceTester
