import Mathlib.Data.List.Basic

/-!
# Runs of a labelled partial step

A system that reacts to one input at a time is a partial function
`step : σ → α → Option σ`. It gives `none` when the input cannot occur in the
state. A run feeds it a list of inputs.

Three things are said about a run: which states it visits (`Visits`), which
transitions it takes (`Takes`), and that an invariant of the single step holds
in all of them (`visits_of_invariant`, `run_invariant`). The step need only keep
the invariant on the transitions of the run, so that a property may be proved
for the runs whose inputs meet a condition.
-/

set_option autoImplicit false

namespace IfaceTester.Runs

variable {σ α : Type*}

/-- Feed the inputs to the step, from the first to the last. -/
def run (step : σ → α → Option σ) : σ → List α → Option σ
  | s, [] => some s
  | s, a :: as => (step s a).bind fun t => run step t as

/-- The run from `s` is in `t` after some of its inputs, possibly none or all. -/
def Visits (step : σ → α → Option σ) (s : σ) (as : List α) (t : σ) : Prop :=
  ∃ before after, as = before ++ after ∧ run step s before = some t

/-- The run from `s` takes the transition from `t` to `u` on the input `a`. -/
def Takes (step : σ → α → Option σ) (s : σ) (as : List α) (t : σ) (a : α) (u : σ) : Prop :=
  ∃ before after, as = before ++ a :: after ∧ run step s before = some t ∧ step t a = some u

variable {step : σ → α → Option σ} {s t u : σ} {a : α} {as bs : List α}

@[simp] theorem run_nil : run step s [] = some s := rfl

@[simp] theorem run_cons : run step s (a :: as) = (step s a).bind fun t => run step t as := rfl

theorem run_append : run step s (as ++ bs) = (run step s as).bind fun t => run step t bs := by
  induction as generalizing s with
  | nil => rfl
  | cons a as ih =>
      cases taken : step s a with
      | none => simp [taken]
      | some t => simpa [taken] using ih

theorem run_concat (first : run step s as = some t) (last : step t a = some u) :
    run step s (as ++ [a]) = some u := by
  simp [run_append, first, last]

theorem run_trans (first : run step s as = some t) (rest : run step t bs = some u) :
    run step s (as ++ bs) = some u := by
  simp [run_append, first, rest]

theorem Visits.refl : Visits step s as s := ⟨[], as, rfl, rfl⟩

theorem visits_last (h : run step s as = some t) : Visits step s as t :=
  ⟨as, [], (List.append_nil as).symm, h⟩

/-- The states a longer run visits: the first one, then those of the rest. -/
theorem visits_cons : Visits step s (a :: as) u ↔
    u = s ∨ ∃ t, step s a = some t ∧ Visits step t as u := by
  constructor
  · rintro ⟨before, after, split, reached⟩
    cases before with
    | nil => exact .inl (Option.some.inj reached).symm
    | cons b before =>
        obtain ⟨rfl, rfl⟩ := List.cons.inj split
        obtain ⟨t, taken, rest⟩ := Option.bind_eq_some_iff.mp reached
        exact .inr ⟨t, taken, before, after, rfl, rest⟩
  · rintro (rfl | ⟨t, taken, before, after, rfl, rest⟩)
    · exact .refl
    · exact ⟨a :: before, after, rfl, by simp [taken, rest]⟩

/-- The transitions a longer run takes: the first one, then those of the rest. -/
theorem takes_cons {b : α} {v : σ} : Takes step s (a :: as) u b v ↔
    (u = s ∧ b = a ∧ step s a = some v) ∨ ∃ t, step s a = some t ∧ Takes step t as u b v := by
  constructor
  · rintro ⟨before, after, split, reached, last⟩
    cases before with
    | nil =>
        obtain ⟨rfl, rfl⟩ := List.cons.inj split
        cases reached
        exact .inl ⟨rfl, rfl, last⟩
    | cons c before =>
        obtain ⟨rfl, rfl⟩ := List.cons.inj split
        obtain ⟨t, taken, rest⟩ := Option.bind_eq_some_iff.mp reached
        exact .inr ⟨t, taken, before, after, rfl, rest, last⟩
  · rintro (⟨rfl, rfl, last⟩ | ⟨t, taken, before, after, rfl, rest, last⟩)
    · exact ⟨[], as, rfl, rfl, last⟩
    · exact ⟨a :: before, after, rfl, by simp [taken, rest], last⟩

/-- The states a longer run visits: those of the run without its last input, then
the last one. -/
theorem visits_concat (h : Visits step s (as ++ [a]) u) :
    Visits step s as u ∨ run step s (as ++ [a]) = some u := by
  obtain ⟨before, after, split, reached⟩ := h
  rcases List.eq_nil_or_concat after with rfl | ⟨after, last, rfl⟩
  · rw [List.append_nil] at split
    exact .inr (split ▸ reached)
  · rw [List.concat_eq_append, ← List.append_assoc] at split
    exact .inl ⟨before, after, (List.append_inj' split rfl).1, reached⟩

/-! ## Invariants of a run -/

/-- **An invariant of the single step holds in every state a run visits.** The
step need only keep it on the transitions the run takes. -/
theorem visits_of_invariant {I : σ → Prop}
    (preserves : ∀ t a u, Takes step s as t a u → I t → I u) (start : I s)
    (visited : Visits step s as t) : I t := by
  induction as generalizing s with
  | nil =>
      obtain ⟨before, after, split, reached⟩ := visited
      obtain ⟨rfl, rfl⟩ := List.append_eq_nil_iff.mp split.symm
      exact Option.some.inj reached ▸ start
  | cons a as ih =>
      rcases visits_cons.mp visited with rfl | ⟨v, taken, rest⟩
      · exact start
      · refine ih (fun w b x later => preserves w b x (takes_cons.mpr (.inr ⟨v, taken, later⟩)))
          ?_ rest
        exact preserves s a v (takes_cons.mpr (.inl ⟨rfl, rfl, taken⟩)) start

/-- **An invariant of the single step holds at the end of a run.** -/
theorem run_invariant {I : σ → Prop} (preserves : ∀ t a u, I t → step t a = some u → I u)
    (start : I s) (h : run step s as = some t) : I t :=
  visits_of_invariant (fun v b w ⟨_, _, _, _, taken⟩ inv => preserves v b w inv taken) start
    (visits_last h)

/-- **A part of the state that every step folds its input into** is at the end the fold
of all of them. -/
theorem run_foldl {β : Type*} (view : σ → β) (fold : β → α → β)
    (folds : ∀ t a u, Takes step s as t a u → view u = fold (view t) a)
    (h : run step s as = some t) : view t = as.foldl fold (view s) := by
  induction as generalizing s with
  | nil =>
      obtain rfl := Option.some.inj h
      rfl
  | cons a as ih =>
      obtain ⟨v, taken, rest⟩ := Option.bind_eq_some_iff.mp h
      have first := folds s a v (takes_cons.mpr (.inl ⟨rfl, rfl, taken⟩))
      have later := ih (fun w b x taken' => folds w b x (takes_cons.mpr (.inr ⟨v, taken, taken'⟩)))
        rest
      rw [later, first, List.foldl_cons]

/-- The source of a transition of the run is a state of the run. -/
theorem Takes.source {v : σ} (h : Takes step s as u a v) : Visits step s as u := by
  obtain ⟨before, after, split, reached, _⟩ := h
  exact ⟨before, a :: after, split, reached⟩

theorem Takes.step_eq {v : σ} (h : Takes step s as u a v) : step u a = some v := by
  obtain ⟨_, _, _, _, taken⟩ := h
  exact taken

/-- The target of a transition of the run is a state of the run. -/
theorem Takes.target {v : σ} (h : Takes step s as u a v) : Visits step s as v := by
  obtain ⟨before, after, split, reached, taken⟩ := h
  exact ⟨before ++ [a], after, by simp [split], run_concat reached taken⟩

/-- The input of a transition of the run is one of its inputs. -/
theorem Takes.mem {v : σ} (h : Takes step s as u a v) : a ∈ as := by
  obtain ⟨_, _, rfl, _, _⟩ := h
  simp

end IfaceTester.Runs
