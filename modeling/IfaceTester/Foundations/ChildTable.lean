import Mathlib.Data.List.Basic
import Mathlib.Data.List.Nodup
import Mathlib.Logic.Function.Basic

/-!
# Child processes and the table that knows them

A program starts child processes and keeps the id of each in a slot. Two things
are said about a log of starts and ends. The children that are alive after it can
be read off the log alone (`alive`). A table follows the log (`Follows`) when each
start fills a slot that was free and each end empties the slot that has the id.

A table that follows the log knows the children: the living ones are exactly the
ones in its slots (`Follows.knows`). The system has to do its part, and not give
the id of a living child to a new one (`FreshIds`).
-/

set_option autoImplicit false

namespace IfaceTester

/-- A child was started for a slot, or the child with an id is gone. -/
inductive ChildEvent (ι : Type*) where
  | started (slot : ι) (pid : ℕ)
  | ended (pid : ℕ)

namespace ChildTable

variable {ι : Type*}

/-- The living children after one more event, each with the slot it was started
for. -/
def follow (children : List (ι × ℕ)) : ChildEvent ι → List (ι × ℕ)
  | .started slot pid => children ++ [(slot, pid)]
  | .ended pid => children.filter fun child => decide (child.2 ≠ pid)

/-- The living children after the events of a log. -/
def alive (events : List (ChildEvent ι)) : List (ι × ℕ) := events.foldl follow []

/-- No start gets the id of a living child. -/
def FreshIds : List (ι × ℕ) → List (ChildEvent ι) → Prop
  | _, [] => True
  | children, .started slot pid :: events =>
      pid ∉ children.map Prod.snd ∧ FreshIds (follow children (.started slot pid)) events
  | children, .ended pid :: events => FreshIds (follow children (.ended pid)) events

/-- Freshness is decided by going through the log. -/
instance decidableFreshIds : ∀ (children : List (ι × ℕ)) (events : List (ChildEvent ι)),
    Decidable (FreshIds children events)
  | _, [] => .isTrue trivial
  | children, .started slot pid :: events =>
      have := decidableFreshIds (follow children (.started slot pid)) events
      inferInstanceAs (Decidable (pid ∉ children.map Prod.snd ∧
        FreshIds (follow children (.started slot pid)) events))
  | children, .ended pid :: events => decidableFreshIds (follow children (.ended pid)) events

/-- A log that only ends children asks nothing of the system. -/
theorem freshIds_of_ended {children : List (ι × ℕ)} {events : List (ChildEvent ι)}
    (ends : ∀ event ∈ events, ∃ pid, event = .ended pid) : FreshIds children events := by
  induction events generalizing children with
  | nil => trivial
  | cons event events ih =>
      obtain ⟨pid, rfl⟩ := ends event List.mem_cons_self
      exact ih fun later member => ends later (List.mem_cons_of_mem _ member)

theorem freshIds_append {children : List (ι × ℕ)} {events later : List (ChildEvent ι)} :
    FreshIds children (events ++ later) ↔
      FreshIds children events ∧ FreshIds (events.foldl follow children) later := by
  induction events generalizing children with
  | nil => simp [FreshIds]
  | cons event events ih => cases event <;> simp [FreshIds, ih, and_assoc]

/-- A table that is written at each event: a start needs a free slot, and an end
needs the slot of the child. -/
inductive Follows [DecidableEq ι] :
    (ι → Option ℕ) → List (ChildEvent ι) → (ι → Option ℕ) → Prop
  | nil (table : ι → Option ℕ) : Follows table [] table
  | started {table table' : ι → Option ℕ} {events : List (ChildEvent ι)} {slot : ι} {pid : ℕ}
      (free : table slot = none)
      (rest : Follows (Function.update table slot (some pid)) events table') :
      Follows table (.started slot pid :: events) table'
  | ended {table table' : ι → Option ℕ} {events : List (ChildEvent ι)} {slot : ι} {pid : ℕ}
      (held : table slot = some pid)
      (rest : Follows (Function.update table slot none) events table') :
      Follows table (.ended pid :: events) table'

/-- The children are the ones in the slots, and their ids differ. -/
structure Knows (table : ι → Option ℕ) (children : List (ι × ℕ)) : Prop where
  listed : ∀ slot pid, (slot, pid) ∈ children ↔ table slot = some pid
  ids : (children.map Prod.snd).Nodup

theorem knows_nil : Knows (fun _ : ι => none) [] where
  listed := by simp
  ids := List.nodup_nil

/-- A slot has at most one living child. -/
theorem Knows.slots {table : ι → Option ℕ} {children : List (ι × ℕ)}
    (knows : Knows table children) : (children.map Prod.fst).Nodup := by
  refine List.Nodup.map_on ?_ knows.ids.of_map
  rintro ⟨slot, pid⟩ left ⟨slot', pid'⟩ right rfl
  have first := (knows.listed slot pid).mp left
  have second := (knows.listed slot pid').mp right
  rw [Option.some.inj (first.symm.trans second)]

variable [DecidableEq ι] {table table' table'' : ι → Option ℕ} {children : List (ι × ℕ)}
variable {events later : List (ChildEvent ι)} {slot : ι} {pid : ℕ}

theorem Follows.trans (first : Follows table events table') (rest : Follows table' later table'') :
    Follows table (events ++ later) table'' := by
  induction first with
  | nil table => exact rest
  | started free _ ih => exact .started free (ih rest)
  | ended held _ ih => exact .ended held (ih rest)

theorem Knows.started (knows : Knows table children) (free : table slot = none)
    (fresh : pid ∉ children.map Prod.snd) :
    Knows (Function.update table slot (some pid)) (follow children (.started slot pid)) where
  listed := by
    intro other id
    simp only [follow, List.mem_append, knows.listed, List.mem_singleton, Prod.mk.injEq]
    by_cases here : other = slot
    · subst here
      simp [free, eq_comm]
    · simp [here]
  ids := by
    simp only [follow, List.map_append, List.map_cons, List.map_nil, List.nodup_append']
    exact ⟨knows.ids, List.nodup_singleton _, by simpa using fresh⟩

theorem Knows.ended (knows : Knows table children) (held : table slot = some pid) :
    Knows (Function.update table slot none) (follow children (.ended pid)) where
  listed := by
    intro other id
    have member := (knows.listed slot pid).mpr held
    simp only [follow, List.mem_filter, decide_eq_true_eq]
    by_cases here : other = slot
    · subst here
      simp only [Function.update_self, reduceCtorEq, iff_false, not_and_not_right]
      intro listed
      exact Option.some.inj (((knows.listed other id).mp listed).symm.trans held)
    · rw [Function.update_of_ne here, ← knows.listed]
      refine and_iff_left_of_imp fun listed same => here ?_
      exact congrArg Prod.fst (List.inj_on_of_nodup_map knows.ids listed member same)
  ids := knows.ids.sublist (List.filter_sublist.map _)

/-- **A table that follows a log knows the living children.** -/
theorem Follows.knows (follows : Follows table events table') (before : Knows table children)
    (fresh : FreshIds children events) : Knows table' (events.foldl follow children) := by
  induction follows generalizing children with
  | nil table => exact before
  | started free _ ih => exact ih (before.started free fresh.1) fresh.2
  | ended held _ ih => exact ih (before.ended held) fresh

/-- The same from the start of the log on. -/
theorem Follows.knows_alive (follows : Follows (fun _ => none) events table)
    (fresh : FreshIds [] events) : Knows table (alive events) :=
  follows.knows knows_nil fresh

end ChildTable

end IfaceTester
