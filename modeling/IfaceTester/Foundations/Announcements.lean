import Mathlib.Data.List.Chain

/-!
# Announced changes

A list of reports of a two-valued state alternates when no report repeats the
one before it. Reports that are sent on a change of the state alternate, and the
last one tells the state.

A source holds a value, or nothing while it is away. It announces the value with which it
comes, and then every value that differs from the one before it. A listener that has heard
everything knows the value of a source that is there. When the source always comes with the
same value, then only that value is ever announced twice in a row.
-/

set_option autoImplicit false

namespace IfaceTester.Alternation

variable {first next : Bool} {reports : List Bool}

/-- The reports start with `first`, and none repeats the one before it. -/
structure Alternates (first : Bool) (reports : List Bool) : Prop where
  changes : List.IsChain (· ≠ ·) reports
  starts : ∀ report ∈ reports.head?, report = first

/-- What was reported last. Before the first report it is the opposite of it. -/
def lastReport (first : Bool) (reports : List Bool) : Bool := reports.getLast?.getD (!first)

@[simp] theorem lastReport_nil (first : Bool) : lastReport first [] = !first := rfl

@[simp] theorem lastReport_concat (first next : Bool) (reports : List Bool) :
    lastReport first (reports ++ [next]) = next := by
  simp [lastReport]

theorem alternates_nil (first : Bool) : Alternates first [] := ⟨.nil, by simp⟩

/-- **A report that differs from the last one keeps the alternation.** -/
theorem Alternates.concat (alternates : Alternates first reports)
    (turn : lastReport first reports ≠ next) : Alternates first (reports ++ [next]) := by
  constructor
  · refine alternates.changes.append (.singleton next) fun last member report found => ?_
    have same : report = next := by simpa using found.symm
    rw [Option.mem_def] at member
    rw [lastReport, member] at turn
    exact same ▸ turn
  · intro report found
    cases reports with
    | nil =>
        have same : report = next := by simpa using found.symm
        rw [lastReport_nil] at turn
        cases first <;> cases next <;> simp_all
    | cons head tail => exact alternates.starts report (by simpa using found)

end IfaceTester.Alternation

namespace IfaceTester.Announcements

variable {V : Type*} [DecidableEq V]

/-- What is announced when the source goes from one value, or none, to another. -/
def announce : Option V → Option V → List V
  | _, none => []
  | none, some now => [now]
  | some before, some now => if before = now then [] else [now]

/-- The last announcement is the value of the source, as long as it is there. -/
def Told (current : Option V) (said : List V) : Prop :=
  ∀ value, current = some value → said.getLast? = some value

/-- Only the value with which the source comes is announced twice in a row. -/
def Steady (first : V) (said : List V) : Prop := said.IsChain fun a b => a ≠ b ∨ b = first

section Changes

variable {before now : Option V} {old new first : V} {said : List V}

@[simp] theorem announce_none (before : Option V) : announce before none = [] := by
  cases before <;> rfl

@[simp] theorem announce_comes (new : V) : announce none (some new) = [new] := rfl

theorem announce_some (old new : V) :
    announce (some old) (some new) = if old = new then [] else [new] := rfl

@[simp] theorem announce_same (value : V) : announce (some value) (some value) = [] := if_pos rfl

theorem announce_change (changed : old ≠ new) : announce (some old) (some new) = [new] :=
  if_neg changed

omit [DecidableEq V] in
theorem told_none (said : List V) : Told none said := fun _ absent => by cases absent

/-- **A listener that was told stays told.** -/
theorem Told.announce (told : Told before said) : Told now (said ++ announce before now) := by
  rintro new rfl
  cases before with
  | none => exact List.getLast?_concat
  | some old =>
      by_cases same : old = new
      · subst same
        rw [announce_same, List.append_nil]
        exact told old rfl
      · rw [announce_change same]
        exact List.getLast?_concat

omit [DecidableEq V] in
theorem Steady.concat (steady : Steady first said)
    (turn : ∀ last, said.getLast? = some last → last ≠ new ∨ new = first) :
    Steady first (said ++ [new]) := by
  refine List.IsChain.append steady (.singleton new) fun last member value announced => ?_
  obtain rfl : new = value := by simpa using announced
  exact turn last member

/-- **A source that always comes with the same value is steady.** -/
theorem Steady.announce (steady : Steady first said) (told : Told before said)
    (comes : before = none → ∀ new, now = some new → new = first) :
    Steady first (said ++ announce before now) := by
  cases now with
  | none => simpa using steady
  | some new =>
      cases before with
      | none => exact steady.concat fun _ _ => .inr (comes rfl new rfl)
      | some old =>
          by_cases same : old = new
          · subst same
            simpa using steady
          · rw [announce_change same]
            refine steady.concat fun last found => .inl ?_
            obtain rfl : old = last := Option.some.inj ((told old rfl).symm.trans found)
            exact same

end Changes

end IfaceTester.Announcements
