import Mathlib.Data.List.Chain
import Mathlib.Data.List.Infix
import Mathlib.Data.List.TakeWhile

/-!
# Histories

A history is a list, oldest entry first.

A monitored thing passes or fails, again and again. It counts as broken after
`F` failures in a row and as restored after `P` passes in a row. There are two
ways to say when it is broken. One looks at the whole history: there is a window
of `F` failures with no later window of `P` passes (`BrokenBy`). The other is a
machine that remembers a single count (`Standing.next`). Both agree
(`standing_isBroken_iff`). A streak is the block of equal results at the end of
a history.

Some entries mark a fresh start, and `since` is the part after the last mark. A
program that keeps the count of an entry in a machine word has the count modulo
the size of the word, which is the count itself while that is below the size.
-/

set_option autoImplicit false

namespace IfaceTester.Hysteresis

/-! ## Streaks -/

/-- The number of results at the end of the history that equal `b`. -/
def streak (b : Bool) (history : List Bool) : ℕ :=
  (history.reverse.takeWhile fun result => decide (result = b)).length

variable {b : Bool} {history : List Bool} {P F k : ℕ}

@[simp] theorem streak_nil (b : Bool) : streak b [] = 0 := rfl

@[simp] theorem streak_concat_self (b : Bool) (history : List Bool) :
    streak b (history ++ [b]) = streak b history + 1 := by
  simp [streak]

@[simp] theorem streak_concat_not (b : Bool) (history : List Bool) :
    streak b (history ++ [!b]) = 0 := by
  simp [streak]

@[simp] theorem streak_false_concat_true (history : List Bool) :
    streak false (history ++ [true]) = 0 := streak_concat_not false history

@[simp] theorem streak_true_concat_false (history : List Bool) :
    streak true (history ++ [false]) = 0 := streak_concat_not true history

/-- A block of equal results is a streak. -/
theorem streak_replicate (b : Bool) (k : ℕ) : streak b (List.replicate k b) = k := by
  induction k with
  | zero => rfl
  | succ k ih => rw [List.replicate_succ', streak_concat_self, ih]

/-- **A block of `k` equal results stands at the end exactly when the streak is
at least that long.** -/
theorem replicate_suffix_iff : List.replicate k b <:+ history ↔ k ≤ streak b history := by
  induction history using List.reverseRecOn generalizing k with
  | nil => simp
  | append_singleton history result ih =>
      cases k with
      | zero => simp
      | succ k =>
          rw [List.replicate_succ']
          by_cases same : result = b
          · subst same
            rw [streak_concat_self, Nat.add_le_add_iff_right, ← ih]
            constructor
            · rintro ⟨front, whole⟩
              rw [← List.append_assoc] at whole
              exact ⟨front, List.append_inj_left' whole rfl⟩
            · rintro ⟨front, whole⟩
              exact ⟨front, by rw [← List.append_assoc, whole]⟩
          · have other : result = !b := by
              cases result <;> cases b <;> simp_all
            subst other
            rw [streak_concat_not]
            refine iff_of_false ?_ (by omega)
            rintro ⟨front, whole⟩
            rw [← List.append_assoc] at whole
            have last := List.append_inj_right' whole rfl
            simp at last

/-! ## The windows of a history -/

/-- Some `F` failures in a row are not followed by `P` passes in a row. -/
def BrokenBy (P F : ℕ) (history : List Bool) : Prop :=
  ∃ before after, history = before ++ List.replicate F false ++ after ∧
    ¬ List.replicate P true <:+: after

theorem not_brokenBy_nil (positive : 0 < F) : ¬ BrokenBy P F [] := by
  rintro ⟨before, after, whole, -⟩
  have lengths := congrArg List.length whole
  simp only [List.length_nil, List.length_append, List.length_replicate] at lengths
  omega

/-- No block of passes ends in a failure. -/
theorem not_replicate_true_suffix_concat_false (positive : 0 < P) (history : List Bool) :
    ¬ List.replicate P true <:+ history ++ [false] := by
  rw [replicate_suffix_iff, streak_true_concat_false]
  omega

/-- A failure breaks when it completes a window of failures. -/
theorem brokenBy_concat_false (history : List Bool) (passes : 0 < P) :
    BrokenBy P F (history ++ [false]) ↔
      BrokenBy P F history ∨ F ≤ streak false history + 1 := by
  rw [← streak_concat_self, ← replicate_suffix_iff]
  constructor
  · rintro ⟨before, after, whole, unrestored⟩
    rcases List.eq_nil_or_concat after with rfl | ⟨after, last, rfl⟩
    · exact .inr ⟨before, by simpa using whole.symm⟩
    · rw [List.concat_eq_append, ← List.append_assoc] at whole
      obtain ⟨shorter, -⟩ := List.append_inj' whole rfl
      refine .inl ⟨before, after, shorter, fun window => unrestored ?_⟩
      rw [List.concat_eq_append]
      exact window.trans (List.prefix_append after [last]).isInfix
  · rintro (⟨before, after, rfl, unrestored⟩ | ⟨before, whole⟩)
    · refine ⟨before, after ++ [false], by simp, fun window => ?_⟩
      rcases List.infix_concat_iff.mp window with atEnd | earlier
      · exact not_replicate_true_suffix_concat_false passes after atEnd
      · exact unrestored earlier
    · refine ⟨before, [], by simpa using whole.symm, fun window => ?_⟩
      have empty := List.infix_nil.mp window
      simp only [List.replicate_eq_nil_iff] at empty
      omega

/-- A block of passes at the end of a history that had a failure stands after
that failure. -/
theorem replicate_true_suffix_of_failure {before after : List Bool}
    (block : List.replicate P true <:+ before ++ [false] ++ after) :
    List.replicate P true <:+ after := by
  have failing : false :: after <:+ before ++ [false] ++ after :=
    ⟨before, by rw [List.append_assoc, List.singleton_append]⟩
  rcases List.suffix_or_suffix_of_suffix block failing with shorter | longer
  · rcases List.suffix_cons_iff.mp shorter with whole | inside
    · have member : false ∈ List.replicate P true := by simp [whole]
      simp at member
    · exact inside
  · have member : false ∈ List.replicate P true := longer.subset (by simp)
    simp at member

/-- A pass restores when it completes a window of passes. -/
theorem brokenBy_concat_true (history : List Bool) (failures : 0 < F) :
    BrokenBy P F (history ++ [true]) ↔
      BrokenBy P F history ∧ streak true history + 1 < P := by
  rw [← streak_concat_self, ← Nat.not_le, ← replicate_suffix_iff]
  constructor
  · rintro ⟨before, after, whole, unrestored⟩
    rcases List.eq_nil_or_concat after with rfl | ⟨after, last, rfl⟩
    · exfalso
      have block : List.replicate F false <:+ history ++ [true] :=
        ⟨before, by simpa using whole.symm⟩
      rw [replicate_suffix_iff, streak_false_concat_true] at block
      omega
    · rw [List.concat_eq_append] at unrestored whole
      constructor
      · rw [← List.append_assoc] at whole
        obtain ⟨shorter, -⟩ := List.append_inj' whole rfl
        exact ⟨before, after, shorter, fun window =>
          unrestored (window.trans (List.prefix_append after [last]).isInfix)⟩
      · intro atEnd
        obtain ⟨k, rfl⟩ := Nat.exists_eq_succ_of_ne_zero failures.ne'
        rw [whole, List.replicate_succ', ← List.append_assoc before] at atEnd
        exact unrestored (replicate_true_suffix_of_failure atEnd).isInfix
  · rintro ⟨⟨before, after, rfl, unrestored⟩, unfinished⟩
    refine ⟨before, after ++ [true], by simp, fun window => ?_⟩
    rcases List.infix_concat_iff.mp window with atEnd | earlier
    · exact unfinished (atEnd.trans ⟨before ++ List.replicate F false, by simp⟩)
    · exact unrestored earlier

/-! ## The machine -/

/-- What the machine remembers: the failures in a row while all is well, or the
passes in a row since it broke. -/
inductive Standing where
  | operational (failures : ℕ)
  | broken (passes : ℕ)

/-- One more result. -/
def Standing.next (P F : ℕ) : Standing → Bool → Standing
  | .operational _, true => .operational 0
  | .operational failures, false =>
      if F ≤ failures + 1 then .broken 0 else .operational (failures + 1)
  | .broken passes, true => if P ≤ passes + 1 then .operational 0 else .broken (passes + 1)
  | .broken _, false => .broken 0

/-- The machine after a history, from an operational start. -/
def standing (P F : ℕ) (history : List Bool) : Standing :=
  history.foldl (Standing.next P F) (.operational 0)

@[simp] theorem standing_nil (P F : ℕ) : standing P F [] = .operational 0 := rfl

theorem standing_concat (P F : ℕ) (history : List Bool) (result : Bool) :
    standing P F (history ++ [result]) = (standing P F history).next P F result := by
  simp [standing]

/-- How the count of the machine reads off the history. -/
def Standing.Describes (P F : ℕ) (history : List Bool) : Standing → Prop
  | .operational failures =>
      ¬ BrokenBy P F history ∧ failures = streak false history ∧ failures < F
  | .broken passes => BrokenBy P F history ∧ passes = streak true history ∧ passes < P

/-- A result keeps the description. -/
theorem Standing.describes_next (passes : 0 < P) (failures : 0 < F) {standing : Standing}
    (describes : standing.Describes P F history) (result : Bool) :
    (standing.next P F result).Describes P F (history ++ [result]) := by
  cases standing with
  | operational count =>
      obtain ⟨sound, rfl, short⟩ := describes
      cases result with
      | true =>
          refine ⟨?_, by simp, failures⟩
          rw [brokenBy_concat_true history failures]
          exact fun broken => sound broken.1
      | false =>
          have breaks := brokenBy_concat_false (F := F) history passes
          by_cases reached : F ≤ streak false history + 1
          · rw [show Standing.next P F (.operational (streak false history)) false = .broken 0
              from if_pos reached]
            exact ⟨breaks.mpr (.inr reached), by simp, passes⟩
          · rw [show Standing.next P F (.operational (streak false history)) false =
              .operational (streak false history + 1) from if_neg reached]
            refine ⟨fun broken => ?_, by simp, by omega⟩
            exact (breaks.mp broken).elim sound reached
  | broken count =>
      obtain ⟨broken, rfl, short⟩ := describes
      cases result with
      | false =>
          refine ⟨?_, by simp, passes⟩
          exact (brokenBy_concat_false history passes).mpr (.inl broken)
      | true =>
          have restores := brokenBy_concat_true (P := P) history failures
          by_cases reached : P ≤ streak true history + 1
          · rw [show Standing.next P F (.broken (streak true history)) true = .operational 0
              from if_pos reached]
            refine ⟨fun still => ?_, by simp, failures⟩
            exact absurd (restores.mp still).2 (by omega)
          · rw [show Standing.next P F (.broken (streak true history)) true =
              .broken (streak true history + 1) from if_neg reached]
            exact ⟨restores.mpr ⟨broken, by omega⟩, by simp, by omega⟩

/-- **The count of the machine describes the whole history.** -/
theorem describes_standing (passes : 0 < P) (failures : 0 < F) (history : List Bool) :
    (standing P F history).Describes P F history := by
  induction history using List.reverseRecOn with
  | nil => exact ⟨not_brokenBy_nil failures, rfl, failures⟩
  | append_singleton history result ih =>
      rw [standing_concat]
      exact Standing.describes_next passes failures ih result

/-- The machine is in its broken state. -/
def Standing.IsBroken : Standing → Prop
  | .operational _ => False
  | .broken _ => True

/-- **The machine is broken exactly when the windows say so.** -/
theorem standing_isBroken_iff (passes : 0 < P) (failures : 0 < F) (history : List Bool) :
    (standing P F history).IsBroken ↔ BrokenBy P F history := by
  have describes := describes_standing passes failures history
  cases standing : standing P F history with
  | operational count =>
      rw [standing] at describes
      exact iff_of_false id describes.1
  | broken count =>
      rw [standing] at describes
      exact iff_of_true trivial describes.1

end IfaceTester.Hysteresis

namespace IfaceTester.Tallies

variable {α : Type*} {marks : α → Bool} {history : List α} {entry : α}

/-- The part of the history after its last mark. -/
def since (marks : α → Bool) (history : List α) : List α :=
  (history.reverse.takeWhile fun entry => !marks entry).reverse

@[simp] theorem since_nil : since marks [] = [] := rfl

@[simp] theorem since_concat_marked (marked : marks entry = true) :
    since marks (history ++ [entry]) = [] := by
  simp [since, marked]

@[simp] theorem since_concat_unmarked (unmarked : marks entry = false) :
    since marks (history ++ [entry]) = since marks history ++ [entry] := by
  simp [since, unmarked]

/-- What came since the last mark is the end of the history. -/
theorem since_suffix : since marks history <:+ history := by
  have front := List.takeWhile_prefix (l := history.reverse) (fun entry => !marks entry)
  have reversed := List.reverse_suffix.mpr front
  rwa [List.reverse_reverse] at reversed

theorem count_since_le [BEq α] (entry : α) :
    (since marks history).count entry ≤ history.count entry :=
  since_suffix.sublist.count_le entry

/-! ## Counts in a word -/

theorem word_succ (count : ℕ) : UInt64.ofNat (count + 1) = UInt64.ofNat count + 1 := by
  rw [UInt64.ofNat_add]
  rfl

/-- The word is zero again whenever the count is a multiple of its size. -/
theorem word_eq_zero_iff (count : ℕ) : UInt64.ofNat count = 0 ↔ UInt64.size ∣ count := by
  rw [← UInt64.toNat_inj, UInt64.toNat_ofNat', Nat.dvd_iff_mod_eq_zero]
  rfl

/-- A count that fits into the word is the word. -/
theorem toNat_word {count : ℕ} (fits : count < UInt64.size) :
    (UInt64.ofNat count).toNat = count :=
  UInt64.toNat_ofNat_of_lt' fits

end IfaceTester.Tallies
