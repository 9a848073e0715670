import IfaceTester.LastResult
import IfaceTester.Foundations.Descriptors

/-!
# The children

The side of `fork` that `process.c` of either program does not come back from. A child goes
to its working directory, puts the null device in the place of its three standard files,
and executes the file that it was started for, with an empty environment. When it cannot do
one of these it exits, and the tester learns of it by the exit status only.

The null device is opened for each of them, at the lowest free place, and that place is
given back afterwards. So a standard file that the program had closed at the fork stays closed
when it is at that place. One for which the null device cannot be opened stays what it was,
and so do all three when no place is free. The others are replaced.
-/

set_option autoImplicit false

namespace IfaceTester

open Runs

/-- How `/dev/null` is opened. -/
inductive OpenFlag where
  | rdonly
  | wronly
deriving DecidableEq

/-- What the system answers in the child: whether `chdir` succeeds, what each of the three
openings of the null device gives if it succeeds, and whether `execvpe` finds something to
execute. -/
structure ChildSystem (φ : Type*) where
  chdir : Bool
  devNull : ℕ → OpenFlag → Option φ
  execvpe : Bool

/-- What becomes of a child. -/
inductive ChildFate (φ : Type*) where
  /-- `_exit`, with the status. -/
  | exits (status : UInt8)
  /-- The file is executed, with these open files but for those that are marked to be closed
  then. -/
  | executes (files : Descriptors φ)

section Child

variable {φ : Type*}

/-- `redirect_fd`. Without a descriptor to redirect from, the null device is opened. -/
def redirectFd (files : Descriptors φ) (source : Option ℕ) (target : ℕ) (devNull : Option φ) :
    Descriptors φ :=
  match source with
  | some fd => (files.dup2 fd target).close fd
  | none => files.moveTo target devNull

/-- The child of `interface_tester_start_process`, and that of
`event_processor_start_process`, with the files that are open at the fork. -/
def childProcess (files : Descriptors φ) (workingDir : Option String) (system : ChildSystem φ) :
    ChildFate φ :=
  if workingDir.isSome ∧ system.chdir = false then .exits 1
  else
    let files := redirectFd files none 0 (system.devNull 0 .rdonly)
    let files := redirectFd files none 1 (system.devNull 1 .wronly)
    let files := redirectFd files none 2 (system.devNull 2 .wronly)
    if system.execvpe then .executes files else .exits 127

/-- The status that `waitpid` gives for a process that has exited. -/
def waitStatus (status : UInt8) : Int32 := Int32.ofNat (status.toNat * 256)

/-- How the null device is opened in the place of a standard file. -/
def standardFlag (fd : ℕ) : OpenFlag := if fd = 0 then .rdonly else .wronly

variable {files seen : Descriptors φ} {workingDir : Option String} {system : ChildSystem φ}

/-- The three redirections as one move of files. -/
theorem redirections_eq (files : Descriptors φ) (devNull : ℕ → OpenFlag → Option φ) :
    redirectFd (redirectFd (redirectFd files none 0 (devNull 0 .rdonly)) none 1
        (devNull 1 .wronly)) none 2 (devNull 2 .wronly) =
      files.moveAll [(0, devNull 0 .rdonly), (1, devNull 1 .wronly), (2, devNull 2 .wronly)] := rfl

/-- **The standard files are replaced** where the null device can be opened, but for the
lowest free place. -/
theorem file_of_executes (executes : childProcess files workingDir system = .executes seen)
    (fd : ℕ) : seen.file fd =
      if files.reaches fd = true ∧ fd < 3 then
        (system.devNull fd (standardFlag fd)).or (files.file fd)
      else files.file fd := by
  have moved : seen =
      files.moveAll [(0, system.devNull 0 .rdonly), (1, system.devNull 1 .wronly),
        (2, system.devNull 2 .wronly)] := by
    unfold childProcess at executes
    split at executes
    · cases executes
    · split at executes
      · cases executes
        exact redirections_eq files system.devNull
      · cases executes
  rw [moved, Descriptors.file_moveAll (by simp) fd]
  match fd with
  | 0 => simp [standardFlag]
  | 1 => simp [standardFlag]
  | 2 => simp [standardFlag]
  | fd + 3 => simp

/-- A child that exits by itself tells a failure. -/
theorem result_of_exits {status : UInt8}
    (exits : childProcess files workingDir system = .exits status) :
    getTestResultFromExitStatus (waitStatus status) = false := by
  unfold childProcess at exits
  split at exits
  · cases exits
    decide
  · split at exits
    · cases exits
    · cases exits
      decide

end Child

/-- The status of a process that has exited tells success when it is zero. -/
theorem result_waitStatus (status : UInt8) :
    getTestResultFromExitStatus (waitStatus status) = decide (status = 0) := by
  have each : ∀ n : Fin 256, getTestResultFromExitStatus (waitStatus (.ofFin n)) =
      decide (UInt8.ofFin n = 0) := by decide +kernel
  exact each status.toFin

section Runs

variable {φ : Type*} {ctx : InterfaceTesterShared} {name : String} {config : AcceptedConfig}
variable {isConnected : Bool} {launch answer : Launch} {inputs : List Input} {iface : Interface}

/-- **What becomes of the child of a test**, with the files that are open at the fork and for
any outcome of each call. When it executes its file, a standard file has been replaced by the
null device where that could be opened, but not at the lowest free place and not when no place
is free, and no other file is touched. The test then passes exactly when it exits with zero. A
child that does not get to execute its file makes the test fail. -/
theorem child_of_test (files : Descriptors φ) (workingDir : Option String) (system : ChildSystem φ)
    (reached : run step (begun ctx name config isConnected launch) inputs = some iface)
    (running : iface.tester.testProc.isRunning = true) :
    (∀ seen, childProcess files workingDir system = .executes seen →
      (∀ fd, seen.file fd =
        if files.reaches fd = true ∧ fd < 3 then
          (system.devNull fd (standardFlag fd)).or (files.file fd)
        else files.file fd) ∧
      ∀ status, ∃ t, step iface (.testProcExited (waitStatus status), answer) = some t ∧
        testResults (recorded t.trace) =
          testResults (recorded iface.trace) ++ [decide (status = 0)]) ∧
    ∀ status, childProcess files workingDir system = .exits status →
      ∃ t, step iface (.testProcExited (waitStatus status), answer) = some t ∧
        testResults (recorded t.trace) = testResults (recorded iface.trace) ++ [false] := by
  have coherent := coherent_of_visits (visits_last reached)
  have counts : ∀ status, ∃ t, step iface (.testProcExited (waitStatus status), answer) = some t ∧
      testResults (recorded t.trace) = testResults (recorded iface.trace) ++
        [getTestResultFromExitStatus (waitStatus status)] := by
    intro status
    have taken : step iface (.testProcExited (waitStatus status), answer) = some _ := if_pos running
    exact ⟨_, taken, (step_move coherent taken).testResults coherent⟩
  refine ⟨fun seen executes => ⟨file_of_executes executes, fun status => ?_⟩,
    fun status exits => ?_⟩
  · obtain ⟨t, taken, counted⟩ := counts status
    exact ⟨t, taken, counted.trans (by rw [result_waitStatus])⟩
  · obtain ⟨t, taken, counted⟩ := counts status
    exact ⟨t, taken, counted.trans (by rw [result_of_exits exits])⟩

end Runs

/-! ## A program without an input -/

/-- The standard input was closed before the fork, and the program logs to a file. -/
def withoutInput : Descriptors String where
  limit := 8
  file := fun fd => if fd = 1 ∨ fd = 2 then some "log" else none
  bounded := fun fd outside => if_neg (by omega)

/-- The null device cannot be opened for the standard error. -/
def pingSystem : ChildSystem String :=
  ⟨true, fun fd _ => if fd = 2 then none else some "null", true⟩

/-- The standard input stays closed, the standard output is replaced, and the standard error
still goes to the log. -/
theorem child_of_test_wan : ∃ iface seen,
    run step (begun connectedShared "wan" (eagerConfig []) true .refused)
      [(.settlingDelayTimerExpired, .forked 7)] = some iface ∧
    childProcess withoutInput none pingSystem = .executes seen ∧
    seen.file 0 = none ∧ seen.file 1 = some "null" ∧ seen.file 2 = some "log" ∧
    ∃ t, step iface (.testProcExited (waitStatus 0), .refused) = some t ∧
      testResults (recorded t.trace) = testResults (recorded iface.trace) ++ [true] := by
  have happens : (run step (begun connectedShared "wan" (eagerConfig []) true .refused)
      [(.settlingDelayTimerExpired, .forked 7)]).map (fun iface =>
        iface.tester.testProc.isRunning) = some true := by decide +kernel
  obtain ⟨iface, reached, running⟩ := Option.map_eq_some_iff.mp happens
  have executes : childProcess withoutInput none pingSystem = .executes _ := rfl
  obtain ⟨files, counted⟩ := (@child_of_test String connectedShared "wan" (eagerConfig []) true
    .refused .refused _ iface withoutInput none pingSystem reached running).1 _ executes
  refine ⟨iface, _, reached, executes, ?_, ?_, ?_, counted 0⟩
  · exact (files 0).trans (by decide)
  · exact (files 1).trans (by decide)
  · exact (files 2).trans (by decide)

end IfaceTester
