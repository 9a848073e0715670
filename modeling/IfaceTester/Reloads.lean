import IfaceTester.Loads

/-!
# Loading again

An update of a tracked interface is exact: it leaves the new configuration, it does
nothing when the configuration is the same, and it restarts the tester otherwise. So
the second of two loads of one table with different names does nothing to any
interface.
-/

set_option autoImplicit false

namespace IfaceTester

open Runs

section Reloads

variable {ctx : InterfaceTesterShared} {program : Program} {config : List BlobAttr}
variable {answers again : ℕ → Answer} {name : String}

/-- The accepted interfaces have different names when the entries do. -/
theorem nodup_acceptedInterfaces {entries : List BlobAttr}
    (distinct : (entries.map BlobAttr.name).Nodup) :
    ((acceptedInterfaces ctx entries).map Interface.name).Nodup := by
  induction entries with
  | nil => exact List.nodup_nil
  | cons entry rest ih =>
      rw [List.map_cons, List.nodup_cons] at distinct
      unfold acceptedInterfaces
      cases added : (interfaceHandleConfig ctx entry).added with
      | none =>
          rw [List.filterMap_cons, added]
          exact ih distinct.2
      | some iface =>
          rw [List.filterMap_cons, added]
          dsimp only
          rw [List.map_cons, List.nodup_cons]
          refine ⟨fun member => distinct.1 ?_, ih distinct.2⟩
          obtain ⟨other, listed, same⟩ := List.mem_map.mp member
          obtain ⟨later, follows, handled⟩ := mem_acceptedInterfaces.mp listed
          rw [← name_of_added added, ← same, name_of_added handled]
          exact List.mem_map_of_mem follows

/-- With different names there is at most one request for a name. -/
theorem requestsOf_of_nodup (distinct : ((entriesOf config).map BlobAttr.name).Nodup)
    (answers : ℕ → Answer) (name : String) :
    (requestsOf name (askedFor ctx (entriesOf config) answers) = [] ∧
        acceptedFor ctx ((entriesOf config).takeWhile isEntry) name = []) ∨
      ∃ new answer, requestsOf name (askedFor ctx (entriesOf config) answers) = [(new, answer)] ∧
        acceptedFor ctx ((entriesOf config).takeWhile isEntry) name = [new] := by
  have read : ((entriesOf config).takeWhile isEntry).map BlobAttr.name |>.Nodup :=
    distinct.sublist ((List.takeWhile_sublist _).map _)
  have listed := @map_fst_requestsOf ctx (entriesOf config) answers name
  rcases @acceptedFor_of_nodup ctx _ (nodup_acceptedInterfaces read) name with empty | ⟨new, one⟩
  · rw [empty, List.map_eq_nil_iff] at listed
    exact .inl ⟨listed, empty⟩
  · rw [one, List.map_eq_singleton_iff] at listed
    obtain ⟨⟨_, answer⟩, requests, rfl⟩ := listed
    exact .inr ⟨_, answer, requests, one⟩

/-- An update with the configuration that is already in place. -/
theorem configUpdate_of_eq {iface : Interface} {new : InterfaceConfig}
    (same : iface.config = new) (launch : Launch) : configUpdate iface new launch = iface := by
  rw [← same]
  exact configUpdate_self iface launch

/-- An update with another configuration restarts the tester. -/
theorem restarted_of_differs {iface new : Interface} {msg : BlobAttr}
    (reached : Reached ctx name iface) (handled : (interfaceHandleConfig ctx msg).added = some new)
    (differs : iface.config ≠ new.config) (launch : Launch) :
    Restarted iface (configUpdate iface new.config launch) new.config := by
  have same : iface.ctx = ctx := reached.identity.1
  have right := (loadable_of_interfaceHandleConfig handled).1
  have compared := configChanged_eq_false_iff (same ▸ reached.loadable) (same ▸ right)
  have changed : configChanged iface.ctx.withMetricsAdjustment iface.config new.config = true :=
    by_contra fun unchanged => differs (compared.mp (by simpa using unchanged))
  exact restarted_of_changed reached.coherent ⟨new.config, right.accepted⟩ changed launch

/-- **The second of two loads of one table does nothing.** -/
theorem second_load_noop (sound : Sound program) (current : program.interfaces.AllCurrent)
    (distinct : ((entriesOf config).map BlobAttr.name).Nodup) (name : String) :
    (configLoadConfig (configLoadConfig program config answers).2 config again).2.interfaces.find
        name =
      (configLoadConfig program config answers).2.interfaces.find name := by
  have moves := configLoadConfig_moves program config answers
  have soundOnce := sound_moves moves sound
  have currentOnce := allCurrent_configLoadConfig program config answers
  cases found : interfacesTable config with
  | none => exact find_load_of_none currentOnce found name
  | some table =>
      rw [find_load soundOnce currentOnce found name, ctx_moves moves]
      rcases @requestsOf_of_nodup program.ctx config distinct again name with
        ⟨unasked, skipped⟩ | ⟨new, answer, one, accepted⟩
      · rw [if_pos unasked, find_load sound current found name, if_pos]
        exact requestsOf_eq_nil_iff.mpr skipped
      · rw [one, if_neg (List.cons_ne_nil _ _)]
        have tracked := @tracked_after_load program config answers table sound current found name
        rw [accepted] at tracked
        obtain ⟨iface, kept⟩ :=
          VersionedList.mem_keys_iff.mp (tracked.1.mpr (List.cons_ne_nil _ _))
        have last := (tracked.2 iface kept).2
        rw [lastAccepted, accepted] at last
        have same : iface.config = new.config := (Option.some.inj last).symm
        rw [kept]
        exact congrArg some (configUpdate_of_eq same answer.launch)

/-- **Reconfiguration is exact.** An update with what the handler decoded leaves
that configuration; it changes nothing when the configuration was the same, and it
restarts the tester when it differs. The second load of a table with different
names changes no interface. -/
theorem reconfiguration_exact :
    (∀ (name : String) (iface new : Interface) (msg : BlobAttr) (launch : Launch),
      Reached ctx name iface → (interfaceHandleConfig ctx msg).added = some new →
        (configUpdate iface new.config launch).config = new.config ∧
        (iface.config = new.config → configUpdate iface new.config launch = iface) ∧
        (iface.config ≠ new.config →
          Restarted iface (configUpdate iface new.config launch) new.config)) ∧
    ∀ (events : List ProgramEvent) (program : Program) (config : List BlobAttr)
      (answers again : ℕ → Answer),
      run programStep (configInit ctx) events = some program →
        (∀ name iface, program.interfaces.find name = some iface → Reached ctx name iface) ∧
        (((entriesOf config).map BlobAttr.name).Nodup →
          ∀ name, (configLoadConfig (configLoadConfig program config answers).2 config
              again).2.interfaces.find name =
            (configLoadConfig program config answers).2.interfaces.find name) := by
  refine ⟨fun name iface new msg launch reached handled => ?_,
    fun events program config answers again reached => ?_⟩
  · have same : iface.ctx = ctx := reached.identity.1
    have right := (loadable_of_interfaceHandleConfig handled).1
    exact ⟨configUpdate_config reached.coherent (same ▸ reached.loadable) (same ▸ right) launch,
      fun equal => configUpdate_of_eq equal launch,
      fun differs => restarted_of_differs reached handled differs launch⟩
  · obtain ⟨sound, rfl⟩ := sound_of_run reached
    exact ⟨sound, fun distinct => second_load_noop sound (allCurrent_of_run reached) distinct⟩

/-- An update with what is in place, one with other thresholds, and the second of two
loads. -/
theorem reconfiguration_exact_wan : ∃ iface same new,
    wanProgram.interfaces.find "wan" = some iface ∧
    (interfaceHandleConfig connectedShared (pingEntry 3 3)).added = some same ∧
    configUpdate iface same.config .refused = iface ∧
    (interfaceHandleConfig connectedShared (pingEntry 4 4)).added = some new ∧
    Restarted iface (configUpdate iface new.config .refused) new.config ∧
    ∀ name, (configLoadConfig (configLoadConfig wanProgram (wanConfig 4) noAnswer).2 (wanConfig 4)
        noAnswer).2.interfaces.find name =
      (configLoadConfig wanProgram (wanConfig 4) noAnswer).2.interfaces.find name := by
  have inPlace : (wanProgram.interfaces.find "wan").map Interface.config =
      (interfaceHandleConfig connectedShared (pingEntry 3 3)).added.map Interface.config := by
    decide +kernel
  have changed : (wanProgram.interfaces.find "wan").map Interface.config ≠
      (interfaceHandleConfig connectedShared (pingEntry 4 4)).added.map Interface.config := by
    decide +kernel
  obtain ⟨iface, tracked⟩ := Option.isSome_iff_exists.mp
    (show (wanProgram.interfaces.find "wan").isSome = true by decide +kernel)
  obtain ⟨same, first⟩ := Option.isSome_iff_exists.mp (show
    (interfaceHandleConfig connectedShared (pingEntry 3 3)).added.isSome = true by decide +kernel)
  obtain ⟨new, second⟩ := Option.isSome_iff_exists.mp (show
    (interfaceHandleConfig connectedShared (pingEntry 4 4)).added.isSome = true by decide +kernel)
  rw [tracked, first] at inPlace
  rw [tracked, second] at changed
  obtain ⟨update, load⟩ := @reconfiguration_exact connectedShared
  obtain ⟨reached, again⟩ := load _ wanProgram (wanConfig 4) noAnswer noAnswer wanProgram_reached
  obtain ⟨-, unchanged, -⟩ := update "wan" iface same _ .refused (reached _ _ tracked) first
  obtain ⟨-, -, restarts⟩ := update "wan" iface new _ .refused (reached _ _ tracked) second
  exact ⟨iface, same, new, tracked, first, unchanged (Option.some.inj inPlace), second,
    restarts fun equal => changed (congrArg some equal), again (by decide +kernel)⟩

end Reloads

end IfaceTester
