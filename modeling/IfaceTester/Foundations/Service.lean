import Mathlib.Data.List.Basic
import Mathlib.Data.List.Infix

/-!
# A server with a queue

A server takes jobs and handles them one at a time, in the order in which it took
them. It keeps a log of what it did: a job was accepted or refused, and the handling
of a job was started or finished. `Serves` says which entry a server may write, and
what is then waiting and being served.

The log of such a server tells its state (`Tells`). When nothing is left to do, every
accepted job was handled once, in order, and no two of them at a time
(`Tells.handled_of_idle`).
-/

set_option autoImplicit false

namespace IfaceTester.Service

variable {α : Type*}

/-- One entry of the log of a server. -/
inductive Entry (α : Type*) where
  | accepted (job : α)
  | refused (job : α)
  | started (job : α)
  | finished (job : α)
deriving DecidableEq

/-- The job that the entry says was accepted. -/
def Entry.accepts? : Entry α → Option α
  | .accepted job => some job
  | _ => none

/-- The job whose handling the entry says was started. -/
def Entry.starts? : Entry α → Option α
  | .started job => some job
  | _ => none

/-- The job whose handling the entry says was finished. -/
def Entry.finishes? : Entry α → Option α
  | .finished job => some job
  | _ => none

/-- The entry is about the handling of a job. -/
def Entry.handles (entry : Entry α) : Bool := entry.starts?.isSome || entry.finishes?.isSome

/-- The jobs that were accepted, oldest first. -/
def accepted (log : List (Entry α)) : List α := log.filterMap Entry.accepts?

/-- The jobs whose handling was started. -/
def started (log : List (Entry α)) : List α := log.filterMap Entry.starts?

/-- The jobs whose handling was finished. -/
def finished (log : List (Entry α)) : List α := log.filterMap Entry.finishes?

/-- The part of the log that is about the handling of jobs. -/
def handling (log : List (Entry α)) : List (Entry α) := log.filter Entry.handles

/-- The handling of a job from its start to its end, with nothing between them. -/
def handled (job : α) : List (Entry α) := [.started job, .finished job]

/-- What a server has before it. -/
structure Server (α : Type*) where
  waiting : List α
  serving : Option α

/-- Nothing is left to do. -/
def Server.idle : Server α := ⟨[], none⟩

/-- The jobs that were accepted and are not finished. -/
def Server.load (server : Server α) : ℕ := server.waiting.length + server.serving.toList.length

/-- What a server may do. A job waits at the end of the queue, and the first one that
waits is the next to be served, when no other is. -/
inductive Serves : Server α → Entry α → Server α → Prop where
  | accepts (waiting : List α) (serving : Option α) (job : α) :
      Serves ⟨waiting, serving⟩ (.accepted job) ⟨waiting ++ [job], serving⟩
  | refuses (server : Server α) (job : α) : Serves server (.refused job) server
  | starts (waiting : List α) (job : α) :
      Serves ⟨job :: waiting, none⟩ (.started job) ⟨waiting, some job⟩
  | finishes (waiting : List α) (job : α) :
      Serves ⟨waiting, some job⟩ (.finished job) ⟨waiting, none⟩

/-- The server does one thing, or none. The entries are what it writes. -/
inductive Advances : Server α → List (Entry α) → Server α → Prop where
  | rests (server : Server α) : Advances server [] server
  | serves {server later : Server α} {entry : Entry α} (serves : Serves server entry later) :
      Advances server [entry] later

theorem accepted_append (first rest : List (Entry α)) :
    accepted (first ++ rest) = accepted first ++ accepted rest := List.filterMap_append

section Concat

variable (log : List (Entry α)) (entry : Entry α)

@[simp] theorem accepted_concat :
    accepted (log ++ [entry]) = accepted log ++ entry.accepts?.toList := by
  cases here : entry.accepts? <;> simp [accepted, here]

@[simp] theorem started_concat :
    started (log ++ [entry]) = started log ++ entry.starts?.toList := by
  cases here : entry.starts? <;> simp [started, here]

@[simp] theorem finished_concat :
    finished (log ++ [entry]) = finished log ++ entry.finishes?.toList := by
  cases here : entry.finishes? <;> simp [finished, here]

@[simp] theorem handling_concat :
    handling (log ++ [entry]) = handling log ++ if entry.handles then [entry] else [] := by
  cases here : entry.handles <;> simp [handling, here]

end Concat

/-! ## The log and the server -/

/-- The log fits the server: jobs are started in the order in which they were accepted,
and a job is finished before the next one is started. -/
structure Tells (log : List (Entry α)) (server : Server α) : Prop where
  inOrder : accepted log = started log ++ server.waiting
  oneByOne : started log = finished log ++ server.serving.toList
  apart : handling log = (finished log).flatMap handled ++ server.serving.toList.map .started

section Tells

variable {log : List (Entry α)} {server later : Server α} {entry : Entry α}

theorem tells_nil : Tells ([] : List (Entry α)) .idle := ⟨rfl, rfl, rfl⟩

/-- **What a server does keeps its log right.** -/
theorem Tells.concat (tells : Tells log server) (serves : Serves server entry later) :
    Tells (log ++ [entry]) later := by
  obtain ⟨inOrder, oneByOne, apart⟩ := tells
  cases serves with
  | accepts waiting serving job =>
      exact
        { inOrder := by simp [inOrder, Entry.accepts?, Entry.starts?]
          oneByOne := by simpa [Entry.starts?, Entry.finishes?] using oneByOne
          apart := by simpa [Entry.handles, Entry.starts?, Entry.finishes?] using apart }
  | refuses server job =>
      exact
        { inOrder := by simpa [Entry.accepts?, Entry.starts?] using inOrder
          oneByOne := by simpa [Entry.starts?, Entry.finishes?] using oneByOne
          apart := by simpa [Entry.handles, Entry.starts?, Entry.finishes?] using apart }
  | starts waiting job =>
      exact
        { inOrder := by simp [inOrder, Entry.accepts?, Entry.starts?]
          oneByOne := by simpa [Entry.starts?, Entry.finishes?] using oneByOne
          apart := by simp [apart, Entry.handles, Entry.starts?, Entry.finishes?] }
  | finishes waiting job =>
      exact
        { inOrder := by simpa [Entry.accepts?, Entry.starts?] using inOrder
          oneByOne := by simpa [Entry.starts?, Entry.finishes?] using oneByOne
          apart := by simp [apart, Entry.handles, Entry.starts?, Entry.finishes?, handled] }

theorem Tells.advance {entries : List (Entry α)} (tells : Tells log server)
    (advances : Advances server entries later) : Tells (log ++ entries) later := by
  cases advances with
  | rests => rwa [List.append_nil]
  | serves serves => exact tells.concat serves

/-- Nothing is started that was not accepted before. -/
theorem Tells.started_prefix (tells : Tells log server) : started log <+: accepted log :=
  ⟨server.waiting, tells.inOrder.symm⟩

/-- The load of the server is what the log leaves open. -/
theorem Tells.load_eq (tells : Tells log server) :
    (accepted log).length = (finished log).length + server.load := by
  rw [tells.inOrder, tells.oneByOne, List.length_append, List.length_append, Server.load]
  omega

/-- **A server that has nothing left to do has handled each accepted job once**, in
the order of acceptance and one after the other. -/
theorem Tells.handled_of_idle (tells : Tells log .idle) :
    handling log = (accepted log).flatMap handled ∧ started log = accepted log := by
  obtain ⟨inOrder, oneByOne, apart⟩ := tells
  have all : accepted log = finished log := by
    rw [inOrder, oneByOne]
    simp [Server.idle]
  refine ⟨?_, ?_⟩
  · rw [apart, all]
    simp [Server.idle]
  · rw [all, oneByOne]
    simp [Server.idle]

end Tells

/-! ## Jobs that are refused -/

/-- Each job in the log that was refused met a server with at least that load. -/
def RefusedAt (load : ℕ) (log : List (Entry α)) : Prop :=
  ∀ before job after, log = before ++ .refused job :: after →
    (finished before).length + load ≤ (accepted before).length

section Refused

variable {log : List (Entry α)} {entry : Entry α} {load : ℕ}

theorem refusedAt_nil : RefusedAt load ([] : List (Entry α)) := by
  intro before job after split
  simp at split

/-- One more entry matters only when it refuses a job. -/
theorem refusedAt_concat : RefusedAt load (log ++ [entry]) ↔ RefusedAt load log ∧
    ∀ job, entry = .refused job → (finished log).length + load ≤ (accepted log).length := by
  constructor
  · intro refused
    refine ⟨fun before job after split => ?_, fun job same => ?_⟩
    · exact refused before job (after ++ [entry]) (by rw [split]; simp)
    · exact refused log job [] (by rw [same])
  · rintro ⟨earlier, last⟩ before job after split
    rcases List.eq_nil_or_concat after with rfl | ⟨after, ending, rfl⟩
    · obtain ⟨rfl, same⟩ := List.append_inj' split rfl
      exact last job (List.cons.inj same).1
    · rw [List.concat_eq_append, ← List.cons_append, ← List.append_assoc] at split
      exact earlier before job after (List.append_inj' split rfl).1

end Refused

end IfaceTester.Service
