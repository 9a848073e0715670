import IfaceTester.Foundations.Runs
import Mathlib.Data.List.Induction

/-!
# Runs seen by several observers

A system is looked at by several observers. Each observer has a relation on states
(`same i s t`: it cannot tell `s` from `t`), and is concerned by some of the inputs.
The observers are separated when an input changes only what the concerned observers
see, and when what a concerned observer sees of it depends only on what it saw before.

Then an observer sees the same of a run and of the run that is left when the other
inputs are taken out (`run_filter`), a run is possible when it is possible for each
observer alone (`exists_run_of_filters`), and two runs that are the same list of inputs
for each observer are the same for all of them, whatever the order in between
(`run_interleaving`).
-/

set_option autoImplicit false

namespace IfaceTester.Runs

variable {ι σ α : Type*}

/-- The observers do not get in each other's way, in states that are `good`. -/
structure Separated (step : σ → α → Option σ) (good : σ → Prop) (concerns : ι → α → Bool)
    (same : ι → σ → σ → Prop) : Prop where
  good_step : ∀ {s a t}, good s → step s a = some t → good t
  refl : ∀ i s, same i s s
  symm : ∀ {i s t}, same i s t → same i t s
  trans : ∀ {i s t u}, same i s t → same i t u → same i s u
  unconcerned : ∀ {i s a t}, good s → concerns i a = false → step s a = some t → same i s t
  concerned : ∀ {i s a t u}, good s → good u → concerns i a = true → same i s u →
    step s a = some t → ∃ v, step u a = some v ∧ same i t v
  somebody : ∀ a, ∃ i, concerns i a = true

namespace Separated

variable {step : σ → α → Option σ} {good : σ → Prop} {concerns : ι → α → Bool}
variable {same : ι → σ → σ → Prop} {s t u v : σ} {as bs : List α}

theorem good_run (separated : Separated step good concerns same) (start : good s)
    (ran : run step s as = some t) : good t :=
  run_invariant (fun _ _ _ before taken => separated.good_step before taken) start ran

/-- **An observer does not see the inputs that do not concern it.** -/
theorem run_filter (separated : Separated step good concerns same) (i : ι) (start : good s)
    (ran : run step s as = some t) :
    ∃ u, run step s (as.filter (concerns i)) = some u ∧ same i t u := by
  suffices shifted : ∀ {s' : σ}, good s' → same i s s' →
      ∃ u, run step s' (as.filter (concerns i)) = some u ∧ same i t u from
    shifted start (separated.refl i s)
  induction as generalizing s with
  | nil =>
      intro s' _ alike
      obtain rfl := Option.some.inj ran
      exact ⟨s', rfl, alike⟩
  | cons a as ih =>
      intro s' start' alike
      obtain ⟨w, taken, rest⟩ := Option.bind_eq_some_iff.mp ran
      have next := separated.good_step start taken
      cases concern : concerns i a with
      | false =>
          rw [List.filter_cons_of_neg (by simp [concern])]
          have silent := separated.unconcerned start concern taken
          exact ih next rest start' (separated.trans (separated.symm silent) alike)
      | true =>
          obtain ⟨w', taken', alike'⟩ := separated.concerned start start' concern alike taken
          obtain ⟨u, ran', last⟩ := ih next rest (separated.good_step start' taken') alike'
          rw [List.filter_cons_of_pos concern]
          exact ⟨u, by simp [taken', ran'], last⟩

/-- **A run is possible when each observer's part of it is.** -/
theorem exists_run_of_filters (separated : Separated step good concerns same) (start : good s)
    (parts : ∀ i, ∃ u, run step s (as.filter (concerns i)) = some u) :
    ∃ t, run step s as = some t := by
  induction as using List.reverseRecOn with
  | nil => exact ⟨s, rfl⟩
  | append_singleton as a ih =>
      have earlier : ∀ i, ∃ u, run step s (as.filter (concerns i)) = some u := by
        intro i
        obtain ⟨u, ran⟩ := parts i
        rw [List.filter_append, run_append] at ran
        obtain ⟨w, first, -⟩ := Option.bind_eq_some_iff.mp ran
        exact ⟨w, first⟩
      obtain ⟨t, ran⟩ := ih earlier
      obtain ⟨i, concern⟩ := separated.somebody a
      obtain ⟨u, part⟩ := parts i
      obtain ⟨w, first, alike⟩ := separated.run_filter i start ran
      rw [List.filter_append, List.filter_cons_of_pos concern, List.filter_nil, run_append,
        first, Option.bind_some] at part
      obtain ⟨v, taken, -⟩ := Option.bind_eq_some_iff.mp part
      obtain ⟨t', taken', -⟩ := separated.concerned (separated.good_run start first)
        (separated.good_run start ran) concern (separated.symm alike) taken
      exact ⟨t', run_concat ran taken'⟩

/-- **The order of inputs matters to the observers they concern only.** -/
theorem run_interleaving (separated : Separated step good concerns same) (start : good s)
    (parts : ∀ i, as.filter (concerns i) = bs.filter (concerns i))
    (ran : run step s as = some t) : ∃ u, run step s bs = some u ∧ ∀ i, same i t u := by
  have possible : ∀ i, ∃ u, run step s (bs.filter (concerns i)) = some u := by
    intro i
    obtain ⟨u, part, -⟩ := separated.run_filter i start ran
    exact ⟨u, parts i ▸ part⟩
  obtain ⟨u, ran'⟩ := separated.exists_run_of_filters start possible
  refine ⟨u, ran', fun i => ?_⟩
  obtain ⟨v, part, alike⟩ := separated.run_filter i start ran
  obtain ⟨v', part', alike'⟩ := separated.run_filter i start ran'
  obtain rfl : v = v' := by
    rw [parts i] at part
    exact Option.some.inj (part.symm.trans part')
  exact separated.trans alike (separated.symm alike')

end Separated

end IfaceTester.Runs
