import Mathlib.Data.List.Range

/-!
# Tables of open files

A process has a table of open files with a limited number of places. Opening a file takes
the lowest place that is free, and a file can be put at another place on top of what is
there. A file that is opened to be put elsewhere gives its own place back
(`Descriptors.moveTo`). While a place is free, the lowest free place stays the same under
this, and it is the only place that cannot be reached (`Descriptors.file_moveAll`).
-/

set_option autoImplicit false

namespace IfaceTester

/-- The files at the places of a table. There is nothing beyond the limit. -/
structure Descriptors (φ : Type*) where
  limit : ℕ
  file : ℕ → Option φ
  bounded : ∀ fd, limit ≤ fd → file fd = none

namespace Descriptors

variable {φ : Type*}

/-- Put a file at a place, or nothing. Beyond the limit this fails and changes nothing. -/
def put (table : Descriptors φ) (fd : ℕ) (file : Option φ) : Descriptors φ where
  limit := table.limit
  file := fun other => if other = fd ∧ fd < table.limit then file else table.file other
  bounded := fun other outside => by
    split
    case isTrue here => exact absurd (here.1 ▸ here.2) (not_lt.mpr outside)
    case isFalse => exact table.bounded other outside

/-- The lowest place that is free. -/
def lowest (table : Descriptors φ) : Option ℕ :=
  (List.range table.limit).find? fun fd => (table.file fd).isNone

/-- A new file takes the lowest free place. -/
def openFile (table : Descriptors φ) (file : φ) : Option (ℕ × Descriptors φ) :=
  table.lowest.map fun fd => (fd, table.put fd (some file))

/-- `dup2`: what is at the first place is put at the second one, too. -/
def dup2 (table : Descriptors φ) (fd target : ℕ) : Descriptors φ :=
  match table.file fd with
  | none => table
  | some file => table.put target (some file)

/-- The place is given back. -/
def close (table : Descriptors φ) (fd : ℕ) : Descriptors φ := table.put fd none

/-- Open a file, put it at the place, and give its first place back. -/
def moveTo (table : Descriptors φ) (target : ℕ) (file : Option φ) : Descriptors φ :=
  match file.bind table.openFile with
  | none => table
  | some (fd, table) => (table.dup2 fd target).close fd

/-- Open several files, each for its place, one after the other. -/
def moveAll (table : Descriptors φ) (files : List (ℕ × Option φ)) : Descriptors φ :=
  files.foldl (fun table moved => table.moveTo moved.1 moved.2) table

/-- A file can be moved to the place: there is one, a place is free, and it is not the
lowest of the free places. -/
def reaches (table : Descriptors φ) (fd : ℕ) : Bool :=
  decide (fd < table.limit) && table.lowest.any fun low => decide (fd ≠ low)

section Lemmas

variable {table t : Descriptors φ} {fd low target : ℕ}

theorem ext_file (limit : t.limit = table.limit) (file : ∀ fd, t.file fd = table.file fd) :
    t = table := by
  obtain ⟨limit', file', bounded'⟩ := t
  obtain ⟨limit'', file'', bounded''⟩ := table
  obtain rfl : limit' = limit'' := limit
  obtain rfl : file' = file'' := funext file
  rfl

/-- The lowest free place is free, and no place below it is. -/
theorem lowest_eq_some_iff : table.lowest = some low ↔
    low < table.limit ∧ table.file low = none ∧ ∀ fd < low, table.file fd ≠ none := by
  unfold lowest
  rw [List.find?_range_eq_some]
  simp only [Option.isNone_iff_eq_none, List.mem_range, Bool.not_eq_true', ne_eq,
    Option.isNone_eq_false_iff, Option.isSome_iff_ne_none]
  exact and_left_comm

/-- **A file that is moved comes to its place**, unless its place is the one that it is
opened at. Then that place is given back. -/
theorem moveTo_of_free (free : table.lowest = some low) (file : φ) :
    table.moveTo target (some file) =
      if target = low then table else table.put target (some file) := by
  obtain ⟨inside, closed, -⟩ := lowest_eq_some_iff.mp free
  have opened : table.openFile file = some (low, table.put low (some file)) := by
    rw [openFile, free]
    rfl
  have there : (table.put low (some file)).file low = some file := if_pos ⟨rfl, inside⟩
  have moved : table.moveTo target (some file) =
      ((table.put low (some file)).put target (some file)).put low none := by
    unfold moveTo
    rw [Option.bind_some, opened]
    unfold dup2 close
    dsimp only
    rw [there]
  rw [moved]
  refine ext_file (by split <;> rfl) fun fd => ?_
  by_cases same : target = low
  · subst same
    by_cases here : fd = target
    · simp [put, here, inside, closed]
    · simp [put, here]
  · rw [if_neg same]
    by_cases here : fd = low
    · have apart : low ≠ target := fun equal => same equal.symm
      simp [put, here, inside, closed, apart]
    · simp [put, here]

theorem moveTo_of_full (full : table.lowest = none) (file : Option φ) :
    table.moveTo target file = table := by
  have unopened : file.bind table.openFile = none := by
    cases file <;> simp [openFile, full]
  unfold moveTo
  rw [unopened]

theorem limit_moveTo (file : Option φ) : (table.moveTo target file).limit = table.limit := by
  cases file with
  | none => rfl
  | some file =>
      cases free : table.lowest with
      | none => rw [moveTo_of_full free]
      | some low =>
          rw [moveTo_of_free free]
          split <;> rfl

/-- **The lowest free place stays the same.** -/
theorem lowest_moveTo (file : Option φ) : (table.moveTo target file).lowest = table.lowest := by
  cases file with
  | none => rfl
  | some file =>
      cases free : table.lowest with
      | none => rw [moveTo_of_full free, free]
      | some low =>
          rw [moveTo_of_free free]
          split
          case isTrue => exact free
          case isFalse apart =>
            obtain ⟨inside, closed, below⟩ := lowest_eq_some_iff.mp free
            rw [lowest_eq_some_iff]
            refine ⟨inside, ?_, fun fd lower => ?_⟩
            · have other : ¬ (low = target ∧ target < table.limit) := fun both => apart both.1.symm
              exact (if_neg other).trans closed
            · unfold put
              dsimp only
              split
              · simp
              · exact below fd lower

/-- What is at a place after one file was moved. -/
theorem file_moveTo (file : Option φ) (fd : ℕ) : (table.moveTo target file).file fd =
    if table.reaches fd ∧ fd = target then file.or (table.file fd) else table.file fd := by
  cases file with
  | none =>
      have same : (table.moveTo target none).file fd = table.file fd := rfl
      rw [same, Option.none_or, ite_self]
  | some file =>
      unfold reaches
      cases free : table.lowest with
      | none => simp [moveTo_of_full free]
      | some low =>
          rw [moveTo_of_free free]
          by_cases same : target = low
          · by_cases here : fd = target
            · simp [same, here]
            · simp [same]
          · by_cases here : fd = target
            · by_cases inside : target < table.limit
              · simp [same, here, put, inside]
              · simp [same, here, put, inside]
            · simp [same, here, put]

/-- **What is at a place after several files were moved.** Each has come to its place, but
the lowest free place is still free. -/
theorem file_moveAll {files : List (ℕ × Option φ)} (distinct : (files.map Prod.fst).Nodup)
    (fd : ℕ) : (table.moveAll files).file fd =
      if table.reaches fd then
        ((files.find? fun moved => decide (moved.1 = fd)).bind Prod.snd).or (table.file fd)
      else table.file fd := by
  induction files generalizing table with
  | nil => simp [moveAll]
  | cons moved files ih =>
      obtain ⟨target, file⟩ := moved
      rw [List.map_cons, List.nodup_cons] at distinct
      have rest : (table.moveAll ((target, file) :: files)).file fd =
          ((table.moveTo target file).moveAll files).file fd := rfl
      have reach : (table.moveTo target file).reaches fd = table.reaches fd := by
        unfold reaches
        rw [limit_moveTo, lowest_moveTo]
      rw [rest, ih distinct.2, reach, file_moveTo]
      by_cases here : fd = target
      · subst here
        have once : files.find? (fun moved => decide (moved.1 = fd)) = none := by
          rw [List.find?_eq_none]
          intro moved member
          have listed : moved.1 ∈ files.map Prod.fst := List.mem_map_of_mem member
          have apart : moved.1 ≠ fd := fun same => distinct.1 (same ▸ listed)
          simp [apart]
        cases reached : table.reaches fd <;> simp [once]
      · have apart : target ≠ fd := fun same => here same.symm
        simp [here, apart]

end Lemmas

end Descriptors

end IfaceTester
