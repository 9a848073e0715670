import IfaceTester.Foundations.Runs
import Mathlib.Data.Int.Order.Basic
import Mathlib.Order.WellFounded

/-!
# Long runs

Three things that need a look at a whole run, and not only at its steps.

Some inputs spend and some earn. When every transition of a run is paid for by what it
earns and by what the state has saved, then so is the whole run (`run_account`).

An endless run is a sequence of states and a sequence of inputs, each input leading from
one state to the next. Where some inputs take from a measure that cannot be taken from for
ever, the others come again and again (`recurs`).

Some inputs do nothing where they come: the second of two equal notifications, say. A mark
of the state tells which ones. When the mark can be kept up from the inputs alone, these
inputs can be found without a look at the state (`withoutIdle`), and a run may leave them
out (`Stutters.run_withoutIdle`).
-/

set_option autoImplicit false

namespace IfaceTester.Runs

variable {σ α β : Type*} {step : σ → α → Option σ} {s t : σ} {as : List α}

/-! ## Counting along a run -/

/-- **A run that pays for each transition pays for all of them.** What the state has saved
may be negative, so that it can count what the run has produced. -/
theorem run_account {saved : σ → ℤ} {spends earns : α → Bool}
    (pays : ∀ t a u, Takes step s as t a u →
      (spends a).toNat + saved u ≤ saved t + (earns a).toNat)
    (h : run step s as = some t) :
    (as.countP spends : ℤ) + saved t ≤ saved s + (as.countP earns : ℤ) := by
  induction as generalizing s with
  | nil =>
      obtain rfl := Option.some.inj h
      simp
  | cons a as ih =>
      obtain ⟨u, taken, rest⟩ := Option.bind_eq_some_iff.mp h
      have first := pays s a u (takes_cons.mpr (.inl ⟨rfl, rfl, taken⟩))
      have later := ih (fun v b w taken' => pays v b w (takes_cons.mpr (.inr ⟨u, taken, taken'⟩)))
        rest
      rw [List.countP_cons, List.countP_cons]
      cases spent : spends a <;> cases earned : earns a <;>
        simp only [spent, earned, Bool.toNat_true, Bool.toNat_false] at first <;> simp <;> omega

/-! ## Runs without an end -/

section Endless

/-- Every input leads to the next state. -/
def Endless (step : σ → α → Option σ) (states : ℕ → σ) (inputs : ℕ → α) : Prop :=
  ∀ n, step (states n) (inputs n) = some (states (n + 1))

variable {states : ℕ → σ} {inputs : ℕ → α}

/-- The first inputs of an endless run are a run. -/
theorem Endless.run (endless : Endless step states inputs) (n : ℕ) :
    Runs.run step (states 0) ((List.range n).map inputs) = some (states n) := by
  induction n with
  | zero => rfl
  | succ n ih =>
      rw [List.range_succ, List.map_append]
      exact run_concat ih (endless n)

/-- **What is not selected comes again and again**, when each selected input takes from a
measure. -/
theorem recurs [LT β] [IsWellFounded β (· < ·)] (measure : σ → β) (selects : α → Bool)
    (takes : ∀ n, selects (inputs n) = true → measure (states (n + 1)) < measure (states n))
    (k : ℕ) : ∃ n, k ≤ n ∧ selects (inputs n) = false := by
  by_contra never
  push Not at never
  obtain ⟨n, stays⟩ := @WellFounded.not_rel_apply_succ β (· < ·) _ fun n => measure (states (k + n))
  exact stays (takes (k + n) (eq_true_of_ne_false (never (k + n) (Nat.le_add_right k n))))

/-- These inputs, and after them one and the same for ever. -/
def padded (as : List α) (pad : α) (n : ℕ) : α := as.getD n pad

/-- **A run goes on for ever once an input leaves its last state alone.** -/
theorem endless_padded {pad : α} (reached : Runs.run step s as = some t)
    (stays : step t pad = some t) :
    ∃ states, states 0 = s ∧ states as.length = t ∧ Endless step states (padded as pad) := by
  induction as generalizing s with
  | nil =>
      obtain rfl := Option.some.inj reached
      exact ⟨fun _ => s, rfl, rfl, fun _ => stays⟩
  | cons a as ih =>
      obtain ⟨u, taken, rest⟩ := Option.bind_eq_some_iff.mp reached
      obtain ⟨states, start, last, endless⟩ := ih rest
      refine ⟨fun n => n.casesOn s states, rfl, last, fun n => ?_⟩
      cases n with
      | zero => exact taken.trans (congrArg some start.symm)
      | succ n => exact endless n

end Endless

/-! ## Inputs that do nothing -/

section Stutters

variable {idle : β → α → Bool} {next : β → α → β}

/-- The inputs without those that are idle at their place, when the mark is kept up from
the first one on. -/
def withoutIdle (idle : β → α → Bool) (next : β → α → β) : β → List α → List α
  | _, [] => []
  | mark, a :: as =>
      if idle mark a then withoutIdle idle next mark as
      else a :: withoutIdle idle next (next mark a) as

/-- Where the invariant holds, the mark tells which inputs do nothing, and every input
takes it to the next one. -/
structure Stutters (step : σ → α → Option σ) (I : σ → Prop) (mark : σ → β)
    (idle : β → α → Bool) (next : β → α → β) : Prop where
  stays : ∀ {s a}, I s → idle (mark s) a = true → step s a = some s
  keeps : ∀ {s a t}, I s → step s a = some t → I t ∧ mark t = next (mark s) a

variable {I : σ → Prop} {mark : σ → β}

/-- **A run may leave out what is idle.** -/
theorem Stutters.run_withoutIdle (stutters : Stutters step I mark idle next) (start : I s)
    (as : List α) : run step s (withoutIdle idle next (mark s) as) = run step s as := by
  induction as generalizing s with
  | nil => rfl
  | cons a as ih =>
      unfold withoutIdle
      split
      case isTrue nothing =>
        rw [run_cons, stutters.stays start nothing]
        exact ih start
      case isFalse =>
        rw [run_cons, run_cons]
        cases taken : step s a with
        | none => rfl
        | some t =>
            obtain ⟨there, marked⟩ := stutters.keeps start taken
            rw [← marked]
            exact ih there

end Stutters

end IfaceTester.Runs
