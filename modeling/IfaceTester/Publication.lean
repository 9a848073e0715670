import IfaceTester.DaemonMoves

/-!
# The published objects

Every tracked interface has an object of its own, under a path with its name in it, unless
the publication failed. The objects are taken back with the interfaces. So the paths that
are published are those of tracked interfaces, and a request to one of them reaches the
interface that the path names.
-/

set_option autoImplicit false

namespace IfaceTester

open Runs

/-- The path tells the interface. -/
theorem interfaceObjectPath_inj {name other : String}
    (same : interfaceObjectPath name = interfaceObjectPath other) : name = other := by
  unfold interfaceObjectPath at same
  have lists := congrArg String.toList same
  simp only [String.toList_append] at lists
  exact String.toList_inj.mp (List.append_cancel_left lists)

/-- The published paths are those of tracked interfaces. -/
structure Published (daemon : Daemon) : Prop where
  distinct : daemon.objects.published.Nodup
  listed : ∀ path, path ∈ daemon.objects.published ↔
    ∃ name, daemon.objects.names name = .allocated path
  own : ∀ name path, daemon.objects.names name = .allocated path →
    path = interfaceObjectPath name
  tracked : ∀ name, daemon.objects.names name ≠ .null → Tracks daemon.program name

section Steps

variable {daemon d : Daemon} {objects : ObjectTable} {name here : String}

theorem names_rename (objects : ObjectTable) (here : String) (given : ObjectName)
    (name : String) : (objects.rename here given).names name =
      if name = here then given else objects.names name := rfl

/-- What publishing does to the table: the object gets its path, or it gets no path and
nothing is published. -/
theorem ubusAddInterfaceObject_cases (objects : ObjectTable) (here : String)
    (answer : PublishAnswer) :
    (∃ given, (∀ path, given ≠ .allocated path) ∧
      (∀ name, (ubusAddInterfaceObject objects here answer).2.names name =
        if name = here then given else objects.names name) ∧
      (ubusAddInterfaceObject objects here answer).2.published = objects.published) ∨
    ((∀ name, (ubusAddInterfaceObject objects here answer).2.names name =
        if name = here then .allocated (interfaceObjectPath here) else objects.names name) ∧
      (ubusAddInterfaceObject objects here answer).2.published =
        objects.published ++ [interfaceObjectPath here]) := by
  unfold ubusAddInterfaceObject
  dsimp only
  split
  · split
    · refine .inl ⟨.null, by simp, fun name => ?_, rfl⟩
      dsimp only
      rw [names_rename, names_rename]
      split <;> rfl
    · refine .inr ⟨fun name => ?_, rfl⟩
      dsimp only
      rw [names_rename, names_rename]
      split <;> rfl
  · exact .inl ⟨.template, by simp, fun name => rfl, rfl⟩

theorem Published.add (published : Published daemon) (fresh : ¬ Tracks daemon.program here)
    (answer : PublishAnswer) {program : Program} {sent : List BusEvent}
    (tracked : ∀ name, Tracks program name ↔ name = here ∨ Tracks daemon.program name) :
    Published { daemon with
      program := program
      sent := sent
      objects := (ubusAddInterfaceObject daemon.objects here answer).2 } := by
  have absent : daemon.objects.names here = .null :=
    not_not.mp fun named => fresh (published.tracked here named)
  have held : ∀ {name path}, daemon.objects.names name = .allocated path → name ≠ here := by
    rintro name path allocated rfl
    rw [absent] at allocated
    cases allocated
  rcases ubusAddInterfaceObject_cases daemon.objects here answer with
    ⟨given, unheld, names, same⟩ | ⟨names, more⟩
  · refine ⟨?_, fun path => ?_, fun name path allocated => ?_, fun name named => ?_⟩
    · dsimp only
      rw [same]
      exact published.distinct
    · dsimp only
      rw [same, published.listed]
      refine exists_congr fun name => ?_
      rw [names name]
      split
      case isTrue it => simp [it, absent, unheld path]
      case isFalse => rfl
    · dsimp only at allocated
      rw [names name] at allocated
      split at allocated
      · exact absurd allocated (unheld path)
      · exact published.own name path allocated
    · dsimp only at named
      rw [names name] at named
      refine (tracked name).mpr ?_
      split at named
      case isTrue it => exact .inl it
      case isFalse => exact .inr (published.tracked name named)
  · refine ⟨?_, fun path => ?_, fun name path allocated => ?_, fun name named => ?_⟩
    · dsimp only
      rw [more, List.nodup_append']
      refine ⟨published.distinct, List.nodup_singleton _, ?_⟩
      rw [List.disjoint_singleton]
      intro member
      obtain ⟨name, allocated⟩ := (published.listed _).mp member
      exact held allocated (interfaceObjectPath_inj (published.own name _ allocated)).symm
    · dsimp only
      rw [more, List.mem_append, List.mem_singleton, published.listed]
      constructor
      · rintro (⟨name, allocated⟩ | rfl)
        · exact ⟨name, by rw [names name, if_neg (held allocated), allocated]⟩
        · exact ⟨here, by rw [names here, if_pos rfl]⟩
      · rintro ⟨name, allocated⟩
        rw [names name] at allocated
        split at allocated
        · exact .inr (ObjectName.allocated.inj allocated).symm
        · exact .inl ⟨name, allocated⟩
    · dsimp only at allocated
      rw [names name] at allocated
      split at allocated
      case isTrue it => rw [it, ← ObjectName.allocated.inj allocated]
      case isFalse => exact published.own name path allocated
    · dsimp only at named
      rw [names name] at named
      refine (tracked name).mpr ?_
      split at named
      case isTrue it => exact .inl it
      case isFalse => exact .inr (published.tracked name named)

/-- What taking an object back does to the table. -/
theorem ubusRemoveInterfaceObject_names (objects : ObjectTable) (here name : String) :
    (ubusRemoveInterfaceObject objects here).names name =
      if name = here then .null else objects.names name := by
  unfold ubusRemoveInterfaceObject
  split
  case h_1 unnamed =>
    split
    case isTrue it => rw [it, unnamed]
    case isFalse => rfl
  · rfl
  · rfl

theorem Published.remove (published : Published daemon) (here : String) {program : Program}
    {sent : List BusEvent}
    (tracked : ∀ name, Tracks program name ↔ name ≠ here ∧ Tracks daemon.program name) :
    Published { daemon with
      program := program
      sent := sent
      objects := ubusRemoveInterfaceObject daemon.objects here } := by
  have names := ubusRemoveInterfaceObject_names daemon.objects here
  have left : ∀ path, path ∈ (ubusRemoveInterfaceObject daemon.objects here).published ↔
      daemon.objects.names here ≠ .allocated path ∧ path ∈ daemon.objects.published := by
    intro path
    unfold ubusRemoveInterfaceObject
    split
    case h_1 unnamed => simp [unnamed]
    case h_2 template => simp [template, ObjectTable.rename]
    case h_3 gone allocated =>
      rw [published.distinct.mem_erase_iff, allocated]
      simp [ne_comm]
  refine ⟨?_, fun path => ?_, fun name path allocated => ?_, fun name named => ?_⟩
  · dsimp only
    unfold ubusRemoveInterfaceObject
    split
    · exact published.distinct
    · exact published.distinct
    · exact published.distinct.erase _
  · dsimp only
    rw [left, published.listed]
    constructor
    · rintro ⟨other, name, allocated⟩
      refine ⟨name, ?_⟩
      rw [names name, if_neg, allocated]
      rintro rfl
      exact other allocated
    · rintro ⟨name, allocated⟩
      rw [names name] at allocated
      split at allocated
      · cases allocated
      case isFalse apart =>
        refine ⟨fun same => apart ?_, name, allocated⟩
        exact interfaceObjectPath_inj
          ((published.own name path allocated).symm.trans (published.own here path same))
  · dsimp only at allocated
    rw [names name] at allocated
    split at allocated
    · cases allocated
    · exact published.own name path allocated
  · dsimp only at named
    rw [names name] at named
    split at named
    · exact absurd rfl named
    case isFalse apart => exact (tracked name).mpr ⟨apart, published.tracked name named⟩

/-- **Every step of the daemon keeps the objects in order.** -/
theorem DaemonMove.published (move : DaemonMove daemon d) (published : Published daemon) :
    Published d := by
  cases move with
  | worked work =>
      cases work with
      | ran move logged tracked =>
          exact ⟨published.distinct, published.listed, published.own,
            fun name named => (tracked name).mpr (published.tracked name named)⟩
      | published here answer move logged fresh tracked =>
          exact published.add fresh answer tracked
      | withdrawn here move logged tracked => exact published.remove here tracked
  | announced areUp =>
      exact ⟨published.distinct, published.listed, published.own, published.tracked⟩
  | opened => exact ⟨published.distinct, published.listed, published.own, published.tracked⟩

end Steps

/-! ## Requests reach the interface that the path names -/

section Runs

variable {ctx : InterfaceTesterShared} {configFile : Option String} {daemon : Daemon}
variable {events : List DaemonEvent}

theorem published_of_run
    (reached : run daemonStep (contextInit ctx configFile) events = some daemon) :
    Sound daemon.program ∧ Published daemon := by
  refine daemon_invariant ?_ (fun _ _ move _ => move.published) reached
  refine ⟨List.nodup_nil, fun path => ?_, fun name path allocated => ?_, fun name named => ?_⟩
  · simp [contextInit, ObjectTable.empty]
  · cases allocated
  · exact absurd rfl named

/-- The object with the path of a published interface is around that interface. -/
theorem Published.owner {name path : String} (published : Published daemon)
    (allocated : daemon.objects.names name = .allocated path) :
    daemon.owner path = daemon.program.interfaces.find name := by
  unfold Daemon.owner VersionedList.find VersionedList.node?
  have same : ∀ node : VersionedNode String Interface,
      decide (daemon.objects.names node.key = .allocated path) = decide (node.key = name) := by
    refine fun node => decide_eq_decide.mpr ⟨fun here => ?_, fun here => here ▸ allocated⟩
    exact interfaceObjectPath_inj
      ((published.own node.key path here).symm.trans (published.own name path allocated))
  simp only [same]

/-- The path of an interface is not that of the tester. -/
theorem interfaceObjectPath_ne (name : String) : interfaceObjectPath name ≠ sInterfaceTester := by
  intro same
  have lengths := congrArg (fun path => path.toList.length) same
  simp [interfaceObjectPath, sInterfaceTester] at lengths

/-- **A published object belongs to the interface that its path names.** In every state
that the daemon comes to, no path is published twice, and the published paths are those of
tracked interfaces. A request to one of them is handled for the interface with that name,
a request to any other path but that of the tester changes nothing, and the shutdown takes
all of them back. Here `ubus` gives up every object that it is asked to give up. -/
theorem requests_reach_their_interface
    (reached : run daemonStep (contextInit ctx configFile) events = some daemon) :
    daemon.objects.published.Nodup ∧
    (∀ path ∈ daemon.objects.published, ∃ name iface, path = interfaceObjectPath name ∧
      daemon.program.interfaces.find name = some iface ∧ iface.name = name ∧
      ∀ method msg around, daemon.request path method msg around =
        daemon.interfaceRequest iface method around) ∧
    (∀ path, path ∉ daemon.objects.published → path ≠ sInterfaceTester →
      ∀ method msg around, daemon.request path method msg around =
        (daemon, ⟨ubusStatusNotFound, none⟩)) ∧
    daemon.contextShutdown.objects.published = [] := by
  obtain ⟨sound, published⟩ := published_of_run reached
  refine ⟨published.distinct, fun path member => ?_, fun path absent other method msg around => ?_,
    ?_⟩
  · obtain ⟨name, allocated⟩ := (published.listed path).mp member
    have own := published.own name path allocated
    have tracked : Tracks daemon.program name := published.tracked name (by simp [allocated])
    obtain ⟨iface, found⟩ := Option.isSome_iff_exists.mp tracked
    refine ⟨name, iface, own, found, sound.named found, fun method msg around => ?_⟩
    have main : path ≠ sInterfaceTester := own ▸ interfaceObjectPath_ne name
    unfold Daemon.request
    rw [if_neg fun both => main both.1, if_pos member, published.owner allocated, found]
  · unfold Daemon.request
    rw [if_neg fun both => other both.1, if_neg absent]
  · have after : run daemonStep (contextInit ctx configFile) (events ++ [.shutdown]) =
        some daemon.contextShutdown := run_trans reached rfl
    have current := allCurrent_of_run (run_askedBy (sound_configInit ctx) reached)
    obtain ⟨-, objects⟩ := published_of_run after
    rw [List.eq_nil_iff_forall_not_mem]
    intro path member
    obtain ⟨name, allocated⟩ := (objects.listed path).mp member
    have tracked : Tracks daemon.contextShutdown.program name :=
      objects.tracked name (by simp [allocated])
    have gone := find_interfaceTestersFree current name
    have freed : daemon.contextShutdown.program = interfaceTestersFree daemon.program :=
      Daemon.program_interfaceTestersFree
    rw [Tracks, freed, gone] at tracked
    cases tracked

end Runs

theorem wanMonitored_published :
    (run daemonStep (contextInit connectedShared (some "interfaces.json")) wanMonitored).map
      (fun daemon => daemon.objects.published) = some [interfaceObjectPath "wan"] := by
  decide +kernel

/-- A test is requested of the interface, and the state of one that is not there. -/
theorem requests_reach_their_interface_wan : ∃ daemon iface,
    run daemonStep (contextInit connectedShared (some "interfaces.json")) wanMonitored =
      some daemon ∧
    daemon.objects.published = [interfaceObjectPath "wan"] ∧ daemon.objects.published.Nodup ∧
    daemon.program.interfaces.find "wan" = some iface ∧
    daemon.request (interfaceObjectPath "wan") "start_test_run" [] wanSurroundings =
      daemon.interfaceRequest iface "start_test_run" wanSurroundings ∧
    daemon.request (interfaceObjectPath "lan") "state" [] wanSurroundings =
      (daemon, ⟨ubusStatusNotFound, none⟩) ∧
    daemon.contextShutdown.objects.published = [] := by
  obtain ⟨daemon, reached, listed⟩ := Option.map_eq_some_iff.mp wanMonitored_published
  obtain ⟨distinct, reach, others, freed⟩ := requests_reach_their_interface reached
  have member : interfaceObjectPath "wan" ∈ daemon.objects.published := by simp [listed]
  obtain ⟨name, iface, path, found, -, handled⟩ := reach _ member
  obtain rfl : "wan" = name := interfaceObjectPath_inj path
  have absent : interfaceObjectPath "lan" ∉ daemon.objects.published := by
    rw [listed, List.mem_singleton]
    exact fun same => absurd (interfaceObjectPath_inj same) (by decide)
  exact ⟨daemon, iface, reached, listed, distinct, found, handled _ _ _,
    others _ absent (interfaceObjectPath_ne "lan") _ _ _, freed⟩

end IfaceTester
