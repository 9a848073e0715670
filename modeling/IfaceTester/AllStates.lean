import IfaceTester.Isolation
import IfaceTester.StateDump
import Mathlib.Data.String.Basic

/-!
# Dumping the states of all interfaces

`interface_states_dump` of `dump.c` goes through the tree of the tracked interfaces,
which is sorted by name, and writes one table for each.
-/

set_option autoImplicit false

namespace IfaceTester

/-- `interface_states_dump`. `remaining` is what `timer_remaining` answers for the timers
of an interface. -/
def interfaceStatesDump (program : Program) (remaining : String → TimerName → UInt64) :
    List BlobAttr :=
  program.interfaces.inOrder.map fun node =>
    .table node.value.name (interfaceStateDump (remaining node.value.name) node.value)

namespace VersionedList

variable {ν : Type*} {tree : VersionedList String ν} {name : String}

/-- No two keys are equal, so the order is strict. -/
theorem pairwise_inOrder (tree : VersionedList String ν) :
    tree.inOrder.Pairwise fun node other => node.key < other.key := by
  have total : Std.Total fun node other : VersionedNode String ν => node.key ≤ other.key :=
    ⟨fun node other => le_total node.key other.key⟩
  have transitive : IsTrans (VersionedNode String ν) fun node other => node.key ≤ other.key :=
    ⟨fun _ _ _ first rest => first.trans rest⟩
  have sorted := List.pairwise_insertionSort
    (fun node other : VersionedNode String ν => node.key ≤ other.key) tree.nodes
  have apart := List.pairwise_map.mp tree.distinct_inOrder
  exact (sorted.and apart).imp fun both => lt_of_le_of_ne both.1 both.2

/-- The order of the tree has the same nodes. -/
theorem find?_inOrder (tree : VersionedList String ν) (name : String) :
    (tree.inOrder.find? fun node => decide (node.key = name)) = tree.node? name := by
  refine Option.ext fun node => ?_
  have listed : (tree.inOrder.find? fun node => decide (node.key = name)) = some node ↔
      node ∈ tree.inOrder ∧ node.key = name :=
    @node?_eq_some_iff _ _ _ ⟨tree.version, tree.inOrder, tree.distinct_inOrder⟩ name node
  rw [listed, node?_eq_some_iff, mem_inOrder]

end VersionedList

/-! ## Reading the dump -/

/-- When every field passes the check, the parser looks at all of them. -/
theorem field_of_typed {ι : Type} {policy : ι → BlobmsgPolicy} {data : List BlobAttr}
    (typed : ∀ attr ∈ data, attr.type.isSome = true) (i : ι) :
    (blobmsgParse policy data).2 i = data.find? (policy i).selects := by
  have checked : data.takeWhile (fun attr => attr.type.isSome) = data :=
    List.takeWhile_eq_self_iff.mpr typed
  simp [blobmsgParse, checked]

open Runs

section Dump

variable {ctx : InterfaceTesterShared} {program : Program} {events : List ProgramEvent}

/-- **The dump of all states has one table for each tracked interface.** The names are in
strictly ascending order, and whoever looks for the table of a name finds what the
interface of that name dumps, or nothing when the name is not tracked. -/
theorem all_states_dumped (reached : run programStep (configInit ctx) events = some program)
    (remaining : String → TimerName → UInt64) :
    ((interfaceStatesDump program remaining).map BlobAttr.name).Pairwise (· < ·) ∧
      ∀ name, (blobmsgParse (fun _ : Unit => { name := name, type := .table })
        (interfaceStatesDump program remaining)).2 () =
          (program.interfaces.find name).map fun iface =>
            .table name (interfaceStateDump (remaining name) iface) := by
  obtain ⟨sound, -⟩ := sound_of_run reached
  have named : ∀ node ∈ program.interfaces.inOrder, node.value.name = node.key := fun node listed =>
    sound.named (VersionedList.find_of_mem (VersionedList.mem_inOrder.mp listed))
  have dump : interfaceStatesDump program remaining = program.interfaces.inOrder.map fun node =>
      .table node.key (interfaceStateDump (remaining node.key) node.value) :=
    List.map_congr_left fun node listed => by rw [named node listed]
  rw [dump]
  constructor
  · rw [List.map_map, List.pairwise_map]
    exact program.interfaces.pairwise_inOrder
  · intro name
    rw [field_of_typed (by simp [BlobAttr.type]), List.find?_map]
    have selects : (BlobmsgPolicy.selects { name := name, type := .table }) ∘
        (fun node : VersionedNode String Interface =>
          BlobAttr.table node.key (interfaceStateDump (remaining node.key) node.value)) =
        fun node => decide (node.key = name) := funext fun node => Bool.true_and _
    rw [selects, VersionedList.find?_inOrder, VersionedList.find]
    cases found : program.interfaces.node? name with
    | none => rfl
    | some node =>
        have same := VersionedList.node?_key found
        subst same
        rfl

end Dump

/-- No timer has any time left. -/
def noneRemaining : String → TimerName → UInt64 := fun _ _ => 0

theorem wanAndLan_dumped :
    (run programStep (configInit connectedShared) [wanAndLan, lanGoesDown, wanSettles]).map
      (fun program => (program.interfaces.keys,
        (interfaceStatesDump program noneRemaining).map BlobAttr.name)) =
      some (["wan", "lan"], ["lan", "wan"]) := by decide +kernel

/-- The interface that was added last comes first in the dump. -/
theorem all_states_dumped_wan : ∃ program iface,
    run programStep (configInit connectedShared) [wanAndLan, lanGoesDown, wanSettles] =
      some program ∧
    program.interfaces.keys = ["wan", "lan"] ∧ program.interfaces.find "lan" = some iface ∧
    (interfaceStatesDump program noneRemaining).map BlobAttr.name = ["lan", "wan"] ∧
    ((interfaceStatesDump program noneRemaining).map BlobAttr.name).Pairwise (· < ·) ∧
    (blobmsgParse (fun _ : Unit => { name := "lan", type := .table })
      (interfaceStatesDump program noneRemaining)).2 () =
        some (.table "lan" (interfaceStateDump (noneRemaining "lan") iface)) := by
  obtain ⟨program, reached, names⟩ := Option.map_eq_some_iff.mp wanAndLan_dumped
  obtain ⟨added, listed⟩ := Prod.mk.inj names
  obtain ⟨ascending, found⟩ := all_states_dumped reached noneRemaining
  obtain ⟨iface, lan⟩ := VersionedList.mem_keys_iff.mp
    (show "lan" ∈ program.interfaces.keys by simp [added])
  refine ⟨program, iface, reached, added, lan, listed, ascending, ?_⟩
  rw [found "lan", lan]
  rfl

end IfaceTester
