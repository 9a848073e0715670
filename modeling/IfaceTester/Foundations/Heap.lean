import Mathlib.Data.Finset.Insert
import Mathlib.Data.Finset.Erase
import Mathlib.Algebra.Order.Group.Multiset
import Mathlib.Algebra.BigOperators.Group.List.Basic
import Mathlib.Tactic.Abel

/-!
# Memory that is allocated and freed

A heap knows which of its blocks are live. The blocks are numbered as they are allocated,
so no number is given out twice. It is a misuse to free a block that is not live, or
something that never was a block, and to access an array past its end.

`Exchanges` says what a program does with memory. It gives up some blocks that are live and
gets others, and whatever else is live stays so. The rest is in the definition, so the
statement about a part can be used within any whole (`Exchanges.frame`), and what one part
gets the next can give up (`Exchanges.seq`). `Loses` is for a program that forgets some of
its blocks: they stay live, and nobody can give them up any more.
-/

set_option autoImplicit false

namespace IfaceTester

universe u

/-- The blocks that are allocated and not freed yet, and how often memory was misused. -/
structure Heap where
  next : ℕ
  live : Finset ℕ
  misused : ℕ
  fresh : ∀ block ∈ live, block < next

/-- What can be given to `free`. -/
inductive Pointer where
  | null
  | constant
  | block (number : ℕ)
deriving DecidableEq

namespace Pointer

/-- The pointer to a block, if there is one. -/
def ofBlock (number : Option ℕ) : Pointer := number.elim .null .block

/-- The block that the pointer points to. -/
def owned : Pointer → Multiset ℕ
  | .block number => {number}
  | _ => 0

/-- How often it is a misuse to free the pointer. -/
def misuses : Pointer → ℕ
  | .constant => 1
  | _ => 0

theorem misuses_ofBlock (number : Option ℕ) : (ofBlock number).misuses = 0 := by
  cases number <;> rfl

end Pointer

/-- Nothing is allocated. -/
def Heap.empty : Heap := ⟨0, ∅, 0, fun _ member => absurd member (Finset.notMem_empty _)⟩

/-- A program that allocates and frees. -/
def Allocating (α : Type u) : Type u := Heap → α × Heap

instance : Monad Allocating.{u} where
  pure a := fun heap => (a, heap)
  bind m f := fun heap => f (m heap).1 (m heap).2

/-- What the program returns, and the heap that it leaves. -/
def Allocating.run {α : Type u} (m : Allocating α) (heap : Heap) : α × Heap := m heap

/-- A new block. -/
def malloc : Allocating ℕ := fun heap =>
  (heap.next,
    { next := heap.next + 1
      live := insert heap.next heap.live
      misused := heap.misused
      fresh := fun block member => by
        rcases Finset.mem_insert.mp member with rfl | before
        · exact Nat.lt_succ_self _
        · exact (heap.fresh block before).trans (Nat.lt_succ_self _) })

/-- Something is done that is not allowed. -/
def misuse : Allocating Unit := fun heap => ((), { heap with misused := heap.misused + 1 })

/-- Nothing happens when there is no block. -/
def free : Pointer → Allocating Unit
  | .null => pure ()
  | .constant => misuse
  | .block number => fun heap =>
      if number ∈ heap.live then
        ((), { heap with
          live := heap.live.erase number
          fresh := fun block member => heap.fresh block (Finset.mem_of_mem_erase member) })
      else misuse heap

/-- Access an array at an index. -/
def access (size index : ℕ) : Allocating Unit := if index < size then pure () else misuse

section Rules

variable {α β : Type u} {m : Allocating α} {f : α → Allocating β}
variable {owned kept : Multiset ℕ} {gets : α → Multiset ℕ} {later : β → Multiset ℕ}
variable {wrong next : ℕ}

/-- The program gives up the blocks that it owns for those of its result, whatever else is
live, and misuses memory so often. -/
def Exchanges (m : Allocating α) (owned : Multiset ℕ) (gets : α → Multiset ℕ) (wrong : ℕ) : Prop :=
  ∀ (heap : Heap) (rest : Multiset ℕ), heap.live.val = owned + rest →
    (m.run heap).2.live.val = gets (m.run heap).1 + rest ∧
      (m.run heap).2.misused = heap.misused + wrong

/-- Every result of the program has the property. -/
def Returns (m : Allocating α) (property : α → Prop) : Prop := ∀ heap, property (m.run heap).1

theorem exchanges_pure (a : α) (gets : α → Multiset ℕ) : Exchanges (pure a) (gets a) gets 0 :=
  fun _ _ live => ⟨live, rfl⟩

/-- **What one part gets the next gives up**, and the misuses of both count. -/
theorem Exchanges.seq (first : Exchanges m owned gets wrong)
    (second : ∀ a, Exchanges (f a) (gets a) later next) :
    Exchanges (m >>= f) owned later (wrong + next) := by
  intro heap rest live
  obtain ⟨live, misused⟩ := first heap rest live
  obtain ⟨live, misused'⟩ := second (m.run heap).1 (m.run heap).2 rest live
  refine ⟨live, ?_⟩
  rw [← Nat.add_assoc, ← misused]
  exact misused'

/-- **Other memory can be kept on the way.** -/
theorem Exchanges.frame (part : Exchanges m owned gets wrong) (kept : Multiset ℕ) :
    Exchanges m (owned + kept) (fun a => gets a + kept) wrong := by
  intro heap rest live
  rw [add_assoc] at live
  obtain ⟨live, misused⟩ := part heap (kept + rest) live
  exact ⟨live.trans (add_assoc _ _ _).symm, misused⟩

/-- What is owned may be counted in another way. -/
theorem Exchanges.recount {owned' : Multiset ℕ} {gets' : α → Multiset ℕ} {wrong' : ℕ}
    (part : Exchanges m owned gets wrong) (before : owned = owned')
    (after : ∀ a, gets a = gets' a) (same : wrong = wrong') : Exchanges m owned' gets' wrong' := by
  obtain rfl : gets = gets' := funext after
  subst before same
  exact part

/-- The first part misuses nothing. -/
theorem Exchanges.bind (first : Exchanges m owned gets 0)
    (second : ∀ a, Exchanges (f a) (gets a) later next) : Exchanges (m >>= f) owned later next :=
  (first.seq second).recount rfl (fun _ => rfl) (Nat.zero_add next)

/-- The first part gets something new, which the others have besides the rest. -/
theorem Exchanges.gain (first : Exchanges m 0 gets 0)
    (second : ∀ a, Exchanges (f a) (gets a + kept) later next) :
    Exchanges (m >>= f) kept later next :=
  ((first.frame kept).bind second).recount (zero_add kept) (fun _ => rfl) rfl

/-- The first part gives up what it owns, and the others have the rest. -/
theorem Exchanges.giveUp (first : Exchanges m owned (fun _ => 0) wrong)
    (second : ∀ a, Exchanges (f a) kept later next) :
    Exchanges (m >>= f) (owned + kept) later (wrong + next) :=
  (first.frame kept).seq fun a => (second a).recount (zero_add kept).symm (fun _ => rfl) rfl

theorem returns_pure {property : α → Prop} {a : α} (holds : property a) :
    Returns (pure a) property := fun _ => holds

theorem Returns.bind {property : α → Prop} {last : β → Prop} (first : Returns m property)
    (second : ∀ a, property a → Returns (f a) last) : Returns (m >>= f) last :=
  fun heap => second _ (first heap) _

theorem returns_true (m : Allocating α) : Returns m fun _ => True := fun _ => trivial

end Rules

section Programs

theorem exchanges_malloc : Exchanges malloc 0 (fun block => {block}) 0 := by
  intro heap rest live
  have new : heap.next ∉ heap.live := fun member => Nat.lt_irrefl _ (heap.fresh _ member)
  refine ⟨(Finset.insert_val_of_notMem new).trans ?_, rfl⟩
  rw [live, zero_add]
  exact (Multiset.singleton_add _ _).symm

theorem exchanges_misuse : Exchanges misuse 0 (fun _ => 0) 1 := fun _ _ live => ⟨live, rfl⟩

/-- **A block that is owned can be freed.** -/
theorem exchanges_free (pointer : Pointer) :
    Exchanges (free pointer) pointer.owned (fun _ => 0) pointer.misuses := by
  cases pointer with
  | null => exact exchanges_pure () fun _ => 0
  | constant => exact exchanges_misuse
  | block number =>
      intro heap rest live
      have owned : heap.live.val = number ::ₘ rest := live.trans (Multiset.singleton_add _ _)
      have member : number ∈ heap.live := by
        rw [← Finset.mem_val, owned]
        exact Multiset.mem_cons_self _ _
      have freed : (free (.block number)).run heap = ((), { heap with
          live := heap.live.erase number
          fresh := fun block member => heap.fresh block (Finset.mem_of_mem_erase member) }) :=
        if_pos member
      rw [freed]
      refine ⟨?_, rfl⟩
      dsimp only
      rw [Finset.erase_val, owned, Multiset.erase_cons_head, zero_add]

theorem exchanges_access {size index : ℕ} (inside : index < size) :
    Exchanges (access size index) 0 (fun _ => 0) 0 := by
  unfold access
  rw [if_pos inside]
  exact exchanges_pure () fun _ => 0

/-- Many are given up, one after the other. -/
theorem exchanges_forM {α : Type} {f : α → Allocating Unit} {owned : α → Multiset ℕ}
    (each : ∀ a, Exchanges (f a) (owned a) (fun _ => 0) 0) (as : List α) :
    Exchanges (as.forM f) (as.map owned).sum (fun _ => 0) 0 := by
  induction as with
  | nil => exact exchanges_pure () fun _ => 0
  | cons a as ih =>
      have both : Exchanges (f a >>= fun _ => as.forM f) (owned a + (as.map owned).sum)
          (fun _ => 0) (0 + 0) := (each a).giveUp fun _ => ih
      exact both

end Programs

section Losses

variable {α β : Type u} {m : Allocating α} {f : α → Allocating β}
variable {owned : Multiset ℕ} {gets : α → Multiset ℕ} {count next : ℕ}

/-- Whatever else is live, of the blocks that the program owns and allocates so many stay
live when it ends. It misuses nothing. -/
def Loses (m : Allocating α) (owned : Multiset ℕ) (count : ℕ) : Prop :=
  ∀ (heap : Heap) (rest : Multiset ℕ), heap.live.val = owned + rest →
    ∃ lost : Multiset ℕ, lost.card = count ∧ (m.run heap).2.live.val = lost + rest ∧
      (m.run heap).2.misused = heap.misused

theorem loses_pure (a : α) (owned : Multiset ℕ) : Loses (pure a) owned owned.card :=
  fun _ _ live => ⟨owned, rfl, live, rfl⟩

/-- A program that gives up all that it owns loses nothing. -/
theorem Exchanges.loses (part : Exchanges m owned (fun _ => 0) 0) : Loses m owned 0 :=
  fun heap rest live => ⟨0, rfl, part heap rest live⟩

/-- What the first part gets the second may lose. -/
theorem Exchanges.bind_loses (first : Exchanges m owned gets 0)
    (second : ∀ a, Loses (f a) (gets a) count) : Loses (m >>= f) owned count := by
  intro heap rest live
  obtain ⟨live, misused⟩ := first heap rest live
  obtain ⟨lost, card, live, misused'⟩ := second (m.run heap).1 (m.run heap).2 rest live
  exact ⟨lost, card, live, misused'.trans misused⟩

/-- **What is lost stays lost.** The losses of two parts add up. -/
theorem Loses.seq (first : Loses m owned count) (second : ∀ a, Loses (f a) 0 next) :
    Loses (m >>= f) owned (count + next) := by
  intro heap rest live
  obtain ⟨lost, card, live, misused⟩ := first heap rest live
  obtain ⟨more, card', live, misused'⟩ :=
    second (m.run heap).1 (m.run heap).2 (lost + rest) (live.trans (zero_add _).symm)
  refine ⟨lost + more, by rw [Multiset.card_add, card, card'], ?_, misused'.trans misused⟩
  exact live.trans (by rw [add_left_comm, add_assoc])

end Losses

end IfaceTester
