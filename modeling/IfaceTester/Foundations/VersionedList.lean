import Mathlib.Data.List.Nodup
import Mathlib.Data.List.Sort

/-!
# Keyed lists with versions

A keyed list whose nodes carry a version. A writer that wants to replace the
whole content moves the version of the list on (`update`), adds the keys it wants
(`add`), and then drops every node that it did not add (`flush`). A key that is
already there keeps its node and its value, and only gets the new version.

A node is current when its version is that of the list. After a flush all nodes
are current (`allCurrent_flush`), and the keys that were current before it are the
keys that are left, with their values (`find_flush`). A writer that takes the other
nodes out one at a time, in the order of the keys, has done a flush
(`foldl_remove_stale`).
-/

set_option autoImplicit false

namespace IfaceTester

/-- One node: its key, its version, and its value. -/
structure VersionedNode (κ ν : Type*) where
  key : κ
  version : ℕ
  value : ν

/-- The nodes in the order in which their keys were first added. No two of them
have the same key. -/
structure VersionedList (κ ν : Type*) where
  version : ℕ
  nodes : List (VersionedNode κ ν)
  distinct : (nodes.map VersionedNode.key).Nodup

namespace VersionedList

variable {κ ν : Type*}

/-- No nodes. The first version is one. -/
def empty : VersionedList κ ν := ⟨1, [], List.nodup_nil⟩

/-- The keys of the nodes. -/
def keys (tree : VersionedList κ ν) : List κ := tree.nodes.map VersionedNode.key

/-- The version of the list moves on. -/
def update (tree : VersionedList κ ν) : VersionedList κ ν :=
  { tree with version := tree.version + 1 }

/-- The nodes in the order of their keys, which is the one that a reader goes through them
in. -/
def inOrder [LE κ] [DecidableLE κ] (tree : VersionedList κ ν) : List (VersionedNode κ ν) :=
  tree.nodes.insertionSort fun node other => node.key ≤ other.key

/-- The nodes that a flush drops. -/
def stale [LE κ] [DecidableLE κ] (tree : VersionedList κ ν) : List (VersionedNode κ ν) :=
  tree.inOrder.filter fun node => decide (node.version ≠ tree.version)

/-- Drop the nodes that are not current. -/
def flush (tree : VersionedList κ ν) : VersionedList κ ν where
  version := tree.version
  nodes := tree.nodes.filter fun node => decide (node.version = tree.version)
  distinct := tree.distinct.sublist (List.filter_sublist.map _)

/-- Every node is current. -/
def AllCurrent (tree : VersionedList κ ν) : Prop :=
  ∀ node ∈ tree.nodes, node.version = tree.version

section Versions

variable {tree : VersionedList κ ν}

theorem allCurrent_empty : (empty : VersionedList κ ν).AllCurrent :=
  fun _ member => absurd member List.not_mem_nil

/-- **After a flush every node is current.** -/
theorem allCurrent_flush (tree : VersionedList κ ν) : tree.flush.AllCurrent := fun node member => by
  have current := (List.mem_filter.mp member).2
  exact of_decide_eq_true current

theorem AllCurrent.flush_nodes (all : tree.AllCurrent) : tree.flush.nodes = tree.nodes :=
  List.filter_eq_self.mpr fun node member => by simpa using all node member

end Versions

section Order

variable [LE κ] [DecidableLE κ] {node : VersionedNode κ ν}

theorem mem_inOrder {tree : VersionedList κ ν} : node ∈ tree.inOrder ↔ node ∈ tree.nodes :=
  List.mem_insertionSort _

theorem distinct_inOrder (tree : VersionedList κ ν) :
    (tree.inOrder.map VersionedNode.key).Nodup :=
  ((List.perm_insertionSort _ tree.nodes).map VersionedNode.key).nodup_iff.mpr tree.distinct

theorem mem_stale {tree : VersionedList κ ν} :
    node ∈ tree.stale ↔ node ∈ tree.nodes ∧ node.version ≠ tree.version := by
  rw [stale, List.mem_filter, mem_inOrder, decide_eq_true_eq]

theorem distinct_stale (tree : VersionedList κ ν) : (tree.stale.map VersionedNode.key).Nodup :=
  tree.distinct_inOrder.sublist (List.filter_sublist.map _)

theorem AllCurrent.stale_eq_nil {tree : VersionedList κ ν} (all : tree.AllCurrent) :
    tree.stale = [] :=
  List.eq_nil_iff_forall_not_mem.mpr fun node dropped =>
    (mem_stale.mp dropped).2 (all node (mem_stale.mp dropped).1)

end Order

section Keys

variable [DecidableEq κ]

/-- The node of a key. -/
def node? (tree : VersionedList κ ν) (key : κ) : Option (VersionedNode κ ν) :=
  tree.nodes.find? fun node => decide (node.key = key)

/-- The value of a key. -/
def find (tree : VersionedList κ ν) (key : κ) : Option ν := (tree.node? key).map VersionedNode.value

/-- Change the node of a key. The change keeps the key. -/
def changeNode (tree : VersionedList κ ν) (key : κ)
    (change : VersionedNode κ ν → VersionedNode κ ν)
    (keeps : ∀ node, (change node).key = node.key) : VersionedList κ ν where
  version := tree.version
  nodes := tree.nodes.map fun node => if node.key = key then change node else node
  distinct := by
    have same : (tree.nodes.map fun node => if node.key = key then change node else node).map
        VersionedNode.key = tree.nodes.map VersionedNode.key := by
      rw [List.map_map]
      refine List.map_congr_left fun node _ => ?_
      simp only [Function.comp_apply]
      split <;> simp [keeps]
    exact same ▸ tree.distinct

/-- Change the value of a key. -/
def set (tree : VersionedList κ ν) (key : κ) (value : ν) : VersionedList κ ν :=
  tree.changeNode key (fun node => { node with value := value }) fun _ => rfl

/-- Take the node of a key out. -/
def remove (tree : VersionedList κ ν) (key : κ) : VersionedList κ ν where
  version := tree.version
  nodes := tree.nodes.filter fun node => decide (node.key ≠ key)
  distinct := tree.distinct.sublist (List.filter_sublist.map _)

/-- Add a key with a value. A key that is there keeps its value. -/
def add (tree : VersionedList κ ν) (key : κ) (value : ν) : VersionedList κ ν :=
  if present : key ∈ tree.keys then
    tree.changeNode key (fun node => { node with version := tree.version }) fun _ => rfl
  else
    { version := tree.version
      nodes := tree.nodes ++ [{ key := key, version := tree.version, value := value }]
      distinct := by
        rw [List.map_append, List.nodup_append']
        refine ⟨tree.distinct, List.nodup_singleton _, ?_⟩
        simpa [keys] using present }

end Keys

/-! ## Looking up a key -/

section Find

variable [DecidableEq κ] {tree : VersionedList κ ν} {key other : κ} {value : ν}

theorem node?_key {node : VersionedNode κ ν} (found : tree.node? key = some node) :
    node.key = key := by
  simpa using List.find?_some found

/-- A node is the one that its key finds. -/
theorem node?_of_mem {node : VersionedNode κ ν} (member : node ∈ tree.nodes) :
    tree.node? node.key = some node := by
  obtain ⟨version, nodes, distinct⟩ := tree
  induction nodes with
  | nil => cases member
  | cons first rest ih =>
      rw [List.map_cons] at distinct
      obtain ⟨fresh, distinct⟩ := List.nodup_cons.mp distinct
      rcases List.mem_cons.mp member with rfl | later
      · exact List.find?_cons_of_pos (by simp)
      · have apart : first.key ≠ node.key := fun same => fresh (same ▸ List.mem_map_of_mem later)
        have found : rest.find? (fun other => decide (other.key = node.key)) = some node :=
          ih distinct later
        simpa [node?, apart] using found

theorem node?_eq_some_iff {node : VersionedNode κ ν} :
    tree.node? key = some node ↔ node ∈ tree.nodes ∧ node.key = key :=
  ⟨fun found => ⟨List.mem_of_find?_eq_some found, node?_key found⟩,
    fun ⟨member, same⟩ => same ▸ node?_of_mem member⟩

theorem find_eq_some_iff : tree.find key = some value ↔
    ∃ node ∈ tree.nodes, node.key = key ∧ node.value = value := by
  simp only [find, Option.map_eq_some_iff, node?_eq_some_iff, and_assoc]

theorem find_of_mem {node : VersionedNode κ ν} (member : node ∈ tree.nodes) :
    tree.find node.key = some node.value :=
  find_eq_some_iff.mpr ⟨node, member, rfl, rfl⟩

/-- The keys of the nodes are the keys that have a value. -/
theorem mem_keys_iff : key ∈ tree.keys ↔ ∃ value, tree.find key = some value := by
  simp only [keys, List.mem_map, find_eq_some_iff]
  constructor
  · rintro ⟨node, member, same⟩
    exact ⟨node.value, node, member, same, rfl⟩
  · rintro ⟨value, node, member, same, -⟩
    exact ⟨node, member, same⟩

theorem find_eq_none_iff : tree.find key = none ↔ key ∉ tree.keys := by
  rw [mem_keys_iff, Option.eq_none_iff_forall_ne_some, not_exists]

@[simp] theorem find_empty : (empty : VersionedList κ ν).find key = none := rfl

@[simp] theorem find_update : tree.update.find key = tree.find key := rfl

@[simp] theorem keys_changeNode {change : VersionedNode κ ν → VersionedNode κ ν}
    {keeps : ∀ node, (change node).key = node.key} :
    (tree.changeNode key change keeps).keys = tree.keys := by
  simp only [keys, changeNode, List.map_map]
  refine List.map_congr_left fun node _ => ?_
  simp only [Function.comp_apply]
  split <;> simp [keeps]

theorem node?_changeNode {change : VersionedNode κ ν → VersionedNode κ ν}
    {keeps : ∀ node, (change node).key = node.key} :
    (tree.changeNode key change keeps).node? other =
      (tree.node? other).map fun node => if node.key = key then change node else node := by
  unfold node? changeNode
  rw [List.find?_map]
  congr 2
  funext node
  simp only [Function.comp_apply]
  split <;> simp [keeps]

@[simp] theorem find_set : (tree.set key value).find other =
    if other = key then (tree.find other).map fun _ => value else tree.find other := by
  unfold find set
  rw [node?_changeNode]
  cases found : tree.node? other with
  | none => simp
  | some node =>
      have same := node?_key found
      by_cases here : other = key
      · simp [same, here]
      · simp [same, here]

/-- Storing the value that is there. -/
theorem set_of_find (found : tree.find key = some value) : tree.set key value = tree := by
  obtain ⟨node, listed, rfl, rfl⟩ := find_eq_some_iff.mp found
  have same : (tree.set node.key node.value).nodes = tree.nodes := by
    refine (List.map_congr_left fun other member => ?_).trans (List.map_id _)
    split
    case isTrue here =>
      have first := @node?_of_mem _ _ _ tree other member
      rw [here, node?_of_mem listed] at first
      rw [← Option.some.inj first]
      rfl
    case isFalse => rfl
  obtain ⟨version, nodes, distinct⟩ := tree
  simpa [set, changeNode] using same

@[simp] theorem keys_set : (tree.set key value).keys = tree.keys := keys_changeNode

theorem keys_add_of_mem (present : key ∈ tree.keys) : (tree.add key value).keys = tree.keys := by
  unfold add
  rw [dif_pos present]
  exact keys_changeNode

theorem keys_add_of_notMem (absent : key ∉ tree.keys) :
    (tree.add key value).keys = tree.keys ++ [key] := by
  unfold add
  rw [dif_neg absent]
  exact List.map_append

theorem keys_remove : (tree.remove key).keys = tree.keys.erase key := by
  rw [(show tree.keys.Nodup from tree.distinct).erase_eq_filter]
  unfold keys remove
  rw [List.filter_map]
  refine congrArg _ (List.filter_congr fun node _ => ?_)
  by_cases same : node.key = key
  · simp [same]
  · simp [same]

@[simp] theorem version_set : (tree.set key value).version = tree.version := rfl

@[simp] theorem version_add : (tree.add key value).version = tree.version := by
  unfold add
  split <;> rfl

/-- **A key that is added keeps the value it has**, and gets the new one when it
has none. No other key is touched. -/
theorem find_add : (tree.add key value).find other =
    if other = key then some ((tree.find other).getD value) else tree.find other := by
  unfold add
  split
  case isTrue present =>
    obtain ⟨old, present⟩ := mem_keys_iff.mp present
    unfold find
    rw [node?_changeNode]
    cases found : tree.node? other with
    | none =>
        split
        case isTrue here =>
          subst here
          simp [find, found] at present
        case isFalse => rfl
    | some node =>
        have same := node?_key found
        by_cases here : other = key
        · simp [same, here]
        · simp [same, here]
  case isFalse absent =>
    have missing := find_eq_none_iff.mpr absent
    unfold find node? at missing ⊢
    rw [List.find?_append]
    by_cases here : other = key
    · subst here
      rw [Option.map_eq_none_iff] at missing
      simp [missing]
    · have apart : ¬ key = other := fun same => here same.symm
      simp [apart, here]

@[simp] theorem version_remove : (tree.remove key).version = tree.version := rfl

@[simp] theorem find_remove : (tree.remove key).find other =
    if other = key then none else tree.find other := by
  unfold find node? remove
  rw [List.find?_filter]
  by_cases here : other = key
  · subst here
    have missing : tree.nodes.find? (fun node => decide (decide (node.key ≠ other) = true ∧
        decide (node.key = other) = true)) = none := by
      rw [List.find?_eq_none]
      simp
    rw [missing, if_pos rfl]
    rfl
  · rw [if_neg here]
    congr 2
    funext node
    by_cases same : node.key = other
    · simp [same, here]
    · simp [same]

end Find

/-! ## Current nodes -/

section Current

variable [DecidableEq κ] {tree : VersionedList κ ν} {key other : κ} {value : ν}

/-- The key has a node, and it is current. -/
def Current (tree : VersionedList κ ν) (key : κ) : Prop :=
  ∃ node, tree.node? key = some node ∧ node.version = tree.version

theorem AllCurrent.set (all : tree.AllCurrent) : (tree.set key value).AllCurrent := by
  intro node member
  obtain ⟨old, listed, rfl⟩ := List.mem_map.mp member
  have current := all old listed
  split <;> exact current

/-- When the version moves on, no node stays current. -/
theorem AllCurrent.not_current_update (all : tree.AllCurrent) : ¬ tree.update.Current key := by
  rintro ⟨node, found, current⟩
  have before := all node (node?_eq_some_iff.mp found).1
  rw [before] at current
  exact absurd current (Nat.ne_of_lt (Nat.lt_succ_self _))

theorem current_set : (tree.set key value).Current other ↔ tree.Current other := by
  unfold Current set
  rw [node?_changeNode]
  cases tree.node? other with
  | none => simp
  | some node =>
      by_cases here : node.key = key
      · simp [here, changeNode]
      · simp [here, changeNode]

theorem current_add : (tree.add key value).Current other ↔ other = key ∨ tree.Current other := by
  unfold add
  split
  case isTrue present =>
    obtain ⟨old, member, rfl⟩ := List.mem_map.mp present
    unfold Current
    rw [node?_changeNode]
    by_cases here : other = old.key
    · subst here
      simp [node?_of_mem member, changeNode]
    · cases found : tree.node? other with
      | none => simp [here]
      | some node =>
          have apart : ¬ node.key = old.key := fun same => here ((node?_key found).symm.trans same)
          simp [here, apart, changeNode]
  case isFalse absent =>
    unfold Current node?
    rw [List.find?_append]
    by_cases here : other = key
    · subst here
      have missing := find_eq_none_iff.mpr absent
      unfold find node? at missing
      rw [Option.map_eq_none_iff] at missing
      simp [missing]
    · have apart : ¬ key = other := fun same => here same.symm
      simp [here, apart]

/-- **A flush keeps the current keys and their values.** -/
theorem find_flush : tree.flush.find key = some value ↔
    tree.Current key ∧ tree.find key = some value := by
  simp only [find_eq_some_iff, flush, List.mem_filter, decide_eq_true_eq, Current,
    node?_eq_some_iff]
  constructor
  · rintro ⟨node, ⟨member, current⟩, same, holds⟩
    exact ⟨⟨node, ⟨member, same⟩, current⟩, node, member, same, holds⟩
  · rintro ⟨⟨node, ⟨member, same⟩, current⟩, node', member', same', holds⟩
    have one : node' = node := by
      have left := node?_of_mem member'
      rw [same', ← same, node?_of_mem member] at left
      exact (Option.some.inj left).symm
    subst one
    exact ⟨node', ⟨member, current⟩, same, holds⟩

theorem mem_keys_flush : key ∈ tree.flush.keys ↔ tree.Current key := by
  rw [mem_keys_iff]
  constructor
  · rintro ⟨value, found⟩
    exact (find_flush.mp found).1
  · intro current
    obtain ⟨node, found, _⟩ := id current
    exact ⟨node.value, find_flush.mpr ⟨current, by simp [find, found]⟩⟩

theorem find_flush_of_current (current : tree.Current key) :
    tree.flush.find key = tree.find key := by
  obtain ⟨node, found, _⟩ := id current
  have value : tree.find key = some node.value := by simp [find, found]
  rw [value]
  exact find_flush.mpr ⟨current, value⟩

theorem find_flush_of_not_current (dropped : ¬ tree.Current key) : tree.flush.find key = none := by
  rw [find_eq_none_iff, mem_keys_flush]
  exact dropped

/-- When all nodes are current, a key is current when it has a node. -/
theorem AllCurrent.current_iff (all : tree.AllCurrent) : tree.Current key ↔ key ∈ tree.keys := by
  rw [mem_keys_iff]
  constructor
  · rintro ⟨node, found, -⟩
    exact ⟨node.value, by simp [find, found]⟩
  · rintro ⟨value, found⟩
    obtain ⟨node, member, same, -⟩ := find_eq_some_iff.mp found
    exact ⟨node, node?_eq_some_iff.mpr ⟨member, same⟩, all node member⟩

section Stale

variable [LE κ] [DecidableLE κ]

/-- **Taking the stale nodes out one by one is a flush.** -/
theorem foldl_remove_stale (tree : VersionedList κ ν) :
    tree.stale.foldl (fun rest node => rest.remove node.key) tree = tree.flush := by
  have removed : ∀ (nodes : List (VersionedNode κ ν)) (rest : VersionedList κ ν),
      (nodes.foldl (fun rest node => rest.remove node.key) rest).version = rest.version ∧
        (nodes.foldl (fun rest node => rest.remove node.key) rest).nodes =
          rest.nodes.filter fun node => decide (node.key ∉ nodes.map VersionedNode.key) := by
    intro nodes
    induction nodes with
    | nil => simp
    | cons first nodes ih =>
        intro rest
        obtain ⟨version, left⟩ := ih (rest.remove first.key)
        refine ⟨version, left.trans ?_⟩
        simp only [remove, List.filter_filter]
        refine List.filter_congr fun node _ => ?_
        rw [List.map_cons, ← Bool.decide_and, decide_eq_decide, List.mem_cons, not_or, and_comm]
  obtain ⟨version, left⟩ := removed tree.stale tree
  have nodes : (tree.stale.foldl (fun rest node => rest.remove node.key) tree).nodes =
      tree.flush.nodes := by
    rw [left]
    refine List.filter_congr fun node member => ?_
    have stale : node.key ∈ tree.stale.map VersionedNode.key ↔ node.version ≠ tree.version := by
      rw [List.mem_map]
      constructor
      · rintro ⟨other, dropped, same⟩
        obtain ⟨listed, old⟩ := mem_stale.mp dropped
        have one : other = node := List.inj_on_of_nodup_map tree.distinct listed member same
        exact one ▸ old
      · intro old
        exact ⟨node, mem_stale.mpr ⟨member, old⟩, rfl⟩
    simp [stale]
  generalize tree.stale.foldl (fun rest node => rest.remove node.key) tree = rest at version nodes
  obtain ⟨restVersion, restNodes, restDistinct⟩ := rest
  dsimp only at version nodes
  subst version nodes
  rfl

/-- A key has a stale node when it has a node that is not current. -/
theorem find?_stale {node : VersionedNode κ ν} :
    (tree.stale.find? fun node => decide (node.key = key)) = some node ↔
      tree.node? key = some node ∧ node.version ≠ tree.version := by
  have listed : (tree.stale.find? fun node => decide (node.key = key)) = some node ↔
      node ∈ tree.stale ∧ node.key = key :=
    @node?_eq_some_iff _ _ _ ⟨tree.version, tree.stale, tree.distinct_stale⟩ key node
  rw [listed, node?_eq_some_iff, mem_stale, and_right_comm]

/-- A current key has no stale node. -/
theorem Current.find?_stale (current : tree.Current key) :
    (tree.stale.find? fun node => decide (node.key = key)) = none := by
  obtain ⟨node, found, here⟩ := current
  refine Option.eq_none_iff_forall_ne_some.mpr fun other same => ?_
  obtain ⟨found', old⟩ := VersionedList.find?_stale.mp same
  rw [found] at found'
  exact old (Option.some.inj found' ▸ here)

/-- The node of any other key is the one that a flush drops. -/
theorem map_find?_stale (dropped : ¬ tree.Current key) :
    (tree.stale.find? fun node => decide (node.key = key)).map VersionedNode.value =
      tree.find key := by
  unfold find
  congr 1
  refine Option.ext fun node => ?_
  rw [VersionedList.find?_stale]
  exact and_iff_left_of_imp fun found current => dropped ⟨node, found, current⟩

end Stale

end Current

end VersionedList

end IfaceTester
