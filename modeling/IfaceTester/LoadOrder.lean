import IfaceTester.Isolation

/-!
# The order of the entries of a load

One entry of a load changes the interface of its own name only. So the names are
separated observers of the loop of `config_load_config` as well: entries of different
names may stand in any order, while those of one name are handled one after the other.
-/

set_option autoImplicit false

namespace IfaceTester

open Runs

/-- The entries of a load, each with the answer of the system to it. -/
def answered : List BlobAttr → (ℕ → Answer) → List (BlobAttr × Answer)
  | [], _ => []
  | cur :: rest, answers => (cur, answers 0) :: answered rest fun k => answers (k + 1)

/-- The entry has the name. -/
def isFor (name : String) (entry : BlobAttr × Answer) : Bool := decide (entry.1.name = name)

/-- One entry as a step of the loop. -/
def entryStep (program : Program) (entry : BlobAttr × Answer) : Option Program :=
  some (handleEntry program entry.1 entry.2)

section Entries

variable {name : String} {program : Program} {entries : List BlobAttr} {answers : ℕ → Answer}

/-- An entry of another name changes nothing for the name. -/
theorem sameFor_handleEntry (sound : Sound program) {msg : BlobAttr} (apart : msg.name ≠ name)
    (answer : Answer) : SameFor name program (handleEntry program msg answer) := by
  obtain ⟨-, current, find⟩ := interfaces_handleEntry msg answer sound
  have unasked : requestsOf name ((interfaceHandleConfig program.ctx msg).added.map fun iface =>
      (iface, answer)).toList = [] := by
    cases added : (interfaceHandleConfig program.ctx msg).added with
    | none => rfl
    | some iface => simp [requestsOf, name_of_added added, apart]
  constructor
  · exact (ctx_moves (handleEntry_moves program msg answer)).symm
  · rw [find, unasked, List.foldl_nil]
  · simp [current, unasked]
  · rw [log_handleEntry sound, logOf_append, logOf_seen, if_neg apart, List.append_nil]

/-- **The names are separated observers of the loop.** -/
theorem entries_separated : Separated entryStep Sound isFor SameFor where
  good_step sound taken :=
    Option.some.inj taken ▸ sound_moves (handleEntry_moves _ _ _) sound
  refl := SameFor.refl
  symm := SameFor.symm
  trans := SameFor.trans
  unconcerned sound elsewhere taken :=
    Option.some.inj taken ▸ sameFor_handleEntry sound (of_decide_eq_false elsewhere) _
  concerned sound sound' _ same taken :=
    ⟨_, rfl, Option.some.inj taken ▸ same.handleEntry sound sound' _ _⟩
  somebody entry := ⟨entry.1.name, decide_eq_true rfl⟩

/-- The loop goes through all entries when each is one. -/
theorem loadEntries_eq_run (whole : ∀ cur ∈ entries, isEntry cur = true) :
    (loadEntries entries answers program).1 = true ∧
      run entryStep program (answered entries answers) =
        some (loadEntries entries answers program).2 := by
  induction entries generalizing answers program with
  | nil => exact ⟨rfl, rfl⟩
  | cons cur rest ih =>
      unfold loadEntries
      rw [if_pos (whole cur List.mem_cons_self)]
      exact ih fun other later => whole other (List.mem_cons_of_mem _ later)

theorem mem_answered {cur : BlobAttr} (member : cur ∈ entries) :
    ∃ answer, (cur, answer) ∈ answered entries answers := by
  induction entries generalizing answers with
  | nil => cases member
  | cons first rest ih =>
      rcases List.mem_cons.mp member with rfl | later
      · exact ⟨answers 0, List.mem_cons_self⟩
      · obtain ⟨answer, found⟩ := @ih (fun k => answers (k + 1)) later
        exact ⟨answer, List.mem_cons_of_mem _ found⟩

theorem mem_of_mem_answered {entry : BlobAttr × Answer}
    (member : entry ∈ answered entries answers) :
    entry.1 ∈ entries := by
  induction entries generalizing answers with
  | nil => cases member
  | cons first rest ih =>
      rcases List.mem_cons.mp member with rfl | later
      · exact List.mem_cons_self
      · exact List.mem_cons_of_mem _ (ih later)

end Entries

section Loads

variable {ctx : InterfaceTesterShared} {program : Program} {events : List ProgramEvent}
variable {config config' : List BlobAttr} {answers answers' : ℕ → Answer}

/-- **Only the order among entries of one name matters to a load.** When two tables
have the same entries for each name, with the same answers, and a load of the first
succeeds, then a load of the second does, and every name has the same interface and the
same history after it. -/
theorem load_order_does_not_matter
    (reached : run programStep (configInit ctx) events = some program)
    (loaded : (configLoadConfig program config answers).1 = true)
    (table : (interfacesTable config').isSome = true)
    (same : ∀ name, (answered (entriesOf config) answers).filter (isFor name) =
      (answered (entriesOf config') answers').filter (isFor name)) :
    (configLoadConfig program config' answers').1 = true ∧
      ∀ name, (configLoadConfig program config answers).2.interfaces.find name =
          (configLoadConfig program config' answers').2.interfaces.find name ∧
        logOf name (configLoadConfig program config answers).2.log =
          logOf name (configLoadConfig program config' answers').2.log := by
  obtain ⟨sound, -⟩ := sound_of_run reached
  have bumped : Sound (interfaceUpdate program) := sound
  obtain ⟨table', found'⟩ := Option.isSome_iff_exists.mp table
  cases found : interfacesTable config with
  | none =>
      rw [configLoadConfig_of_none found] at loaded
      cases loaded
  | some first =>
      rw [configLoadConfig_fst sound found, List.all_eq_true] at loaded
      have loaded' : ∀ cur ∈ entriesOf config', isEntry cur = true := by
        intro cur member
        obtain ⟨answer, listed⟩ := @mem_answered _ answers' _ member
        have kept : (cur, answer) ∈ (answered (entriesOf config') answers').filter
            (isFor cur.name) := List.mem_filter.mpr ⟨listed, decide_eq_true rfl⟩
        rw [← same] at kept
        exact loaded cur (mem_of_mem_answered (List.mem_of_mem_filter kept))
      refine ⟨?_, fun name => ?_⟩
      · rw [configLoadConfig_fst sound found', List.all_eq_true]
        exact loaded'
      · obtain ⟨-, ran⟩ := @loadEntries_eq_run (interfaceUpdate program) _ answers loaded
        obtain ⟨-, ran'⟩ := @loadEntries_eq_run (interfaceUpdate program) _ answers' loaded'
        obtain ⟨q, ran'', alike⟩ := entries_separated.run_interleaving bumped same ran
        obtain rfl := Option.some.inj (ran'.symm.trans ran'')
        have flushed := (alike name).interfaceFlushOld
          (sound_moves (loadEntries_moves _ _ _) bumped)
          (sound_moves (loadEntries_moves _ _ _) bumped)
        rw [entriesOf_of_table found, entriesOf_of_table found'] at flushed
        rw [configLoadConfig_of_table found, configLoadConfig_of_table found']
        exact ⟨flushed.tracked, flushed.log⟩

end Loads

/-- Two interfaces in one order, and in the other. -/
def wanFirst : List BlobAttr :=
  [.table "interfaces" [pingEntry 3 3, .table "lan" (pingEntry 2 2).data]]

/-- See `wanFirst`. -/
def lanFirst : List BlobAttr :=
  [.table "interfaces" [.table "lan" (pingEntry 2 2).data, pingEntry 3 3]]

theorem load_order_does_not_matter_wan :
    (configLoadConfig wanProgram lanFirst noAnswer).1 = true ∧
      ∀ name, (configLoadConfig wanProgram wanFirst noAnswer).2.interfaces.find name =
          (configLoadConfig wanProgram lanFirst noAnswer).2.interfaces.find name ∧
        logOf name (configLoadConfig wanProgram wanFirst noAnswer).2.log =
          logOf name (configLoadConfig wanProgram lanFirst noAnswer).2.log := by
  refine load_order_does_not_matter wanProgram_reached (by decide +kernel) (by decide +kernel)
    fun name => ?_
  have first : entriesOf wanFirst = [pingEntry 3 3, .table "lan" (pingEntry 2 2).data] := rfl
  have second : entriesOf lanFirst = [.table "lan" (pingEntry 2 2).data, pingEntry 3 3] := rfl
  have wan : (pingEntry 3 3).name = "wan" := rfl
  rw [first, second]
  by_cases here : "wan" = name
  · subst here
    rfl
  · simp [answered, isFor, List.filter_cons, wan, here, noAnswer]

end IfaceTester
