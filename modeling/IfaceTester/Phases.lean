import IfaceTester.Recovery

/-!
# Recovery events belong to their phase

Every start of a recovery task gets a number, and so each process, each arming
of the response timer and each recovering phase can be tagged with the start
that caused it. The recovering state acts on an exit or on an expiry only when
all of these tags agree.
-/

set_option autoImplicit false

namespace IfaceTester

open Runs

/-- One start of a recovery task. The number is never used again, while the
system may use the process id for another child. -/
structure TaskStart where
  number : ℕ
  pid : Pid
deriving DecidableEq

/-- The start that each of these was caused by. `cause` is the start that the
running callback made, until it enters its phase. -/
structure Tags where
  starts : ℕ
  cause : Option TaskStart
  proc : Option TaskStart
  timer : Option TaskStart
  phase : Option TaskStart
deriving DecidableEq

/-- The tags before anything is started. -/
def Tags.none : Tags := ⟨0, .none, .none, .none, .none⟩

/-- The tags after one more thing was seen. -/
def Tags.note (tags : Tags) : RecoverySeen → Tags
  | .started pid =>
      { tags with
        starts := tags.starts + 1
        cause := some ⟨tags.starts, pid⟩
        proc := some ⟨tags.starts, pid⟩ }
  | .timerArmed => { tags with timer := tags.cause }
  | .phaseEntered => { tags with phase := tags.cause, cause := .none }
  | .timedOut _ => tags

/-- The tags after all that has been seen. -/
def tagsOf (trace : List Observation) : Tags := (recoveriesSeen trace).foldl Tags.note .none

/-- The process in the slot has its tag, and in the recovering state the phase,
the timer and the process have the same one. -/
structure InPhase (iface : Interface) : Prop where
  proc : ∀ pid, iface.recovery.proc.pending = some pid →
    ∃ start, (tagsOf iface.trace).proc = some start ∧ start.pid = pid
  phase : iface.tester.state = .recovering →
    (tagsOf iface.trace).phase = (tagsOf iface.trace).proc ∧
      (tagsOf iface.trace).timer = (tagsOf iface.trace).proc

section Steps

variable {iface t : Interface} {launch : Launch} {cb : Callback}

theorem tagsOf_of_seen {seen : List RecoverySeen}
    (added : recoveriesSeen t.trace = recoveriesSeen iface.trace ++ seen) :
    tagsOf t.trace = seen.foldl Tags.note (tagsOf iface.trace) := by
  rw [tagsOf, added, List.foldl_append]
  rfl

theorem inPhase_of_tags (same : tagsOf t.trace = tagsOf iface.trace) (inPhase : InPhase iface)
    (proc : t.recovery.proc.pending = iface.recovery.proc.pending ∨
      t.recovery.proc.pending = none)
    (state : t.tester.state ≠ .recovering ∨ t.tester.state = iface.tester.state) : InPhase t := by
  constructor
  · intro pid running
    rw [same]
    rcases proc with kept | emptied
    · exact inPhase.proc pid (kept ▸ running)
    · rw [emptied] at running
      cases running
  · intro recovering
    rw [same]
    rcases state with other | kept
    · exact absurd recovering other
    · exact inPhase.phase (kept ▸ recovering)

/-- A callback that starts a task tags everything with it, and no other callback
enters the recovering state or fills the slot. -/
theorem RecoveryMove.inPhase (move : RecoveryMove iface t cb) (inPhase : InPhase iface) :
    InPhase t := by
  cases move with
  | kept _ kept =>
      have same := tagsOf_of_seen (kept.seen.trans (List.append_nil _).symm)
      exact inPhase_of_tags same inPhase kept.proc kept.state
  | started _ pid proc timer state seen =>
      have tags := tagsOf_of_seen seen
      constructor
      · intro running slot
        rw [tags]
        exact ⟨_, rfl, Option.some.inj (proc.symm.trans slot)⟩
      · intro recovering
        rw [tags]
        exact ⟨rfl, rfl⟩
  | exited status proc state seen =>
      have same := tagsOf_of_seen (seen.trans (List.append_nil _).symm)
      exact inPhase_of_tags same inPhase (.inr proc) (.inl state)
  | timedOut recovering proc state seen =>
      exact inPhase_of_tags (tagsOf_of_seen seen) inPhase (.inr proc) (.inl state)
  | timeoutIgnored elsewhere proc state seen =>
      exact inPhase_of_tags (tagsOf_of_seen seen) inPhase (.inl (congrArg _ proc)) (.inr state)

/-- In the recovering state the process that runs is the one of the phase. -/
theorem InPhase.start (inPhase : InPhase iface) (coherent : Coherent iface)
    (recovering : iface.tester.state = .recovering) :
    ∃ start, (tagsOf iface.trace).phase = some start ∧ (tagsOf iface.trace).proc = some start ∧
      (tagsOf iface.trace).timer = some start ∧
      iface.recovery.proc.pending = some start.pid := by
  obtain ⟨pid, running⟩ := coherent.recoveryPid recovering
  obtain ⟨start, proc, rfl⟩ := inPhase.proc pid running
  obtain ⟨phase, timer⟩ := inPhase.phase recovering
  exact ⟨start, phase.trans proc, proc, timer.trans proc, running⟩

/-- `recovering_state_event_handler` handled the event in the callback. -/
def RecoveringHandles (iface t : Interface) (event : TesterEvent) : Prop :=
  ∃ seen, testerEvents t.trace = testerEvents iface.trace ++ seen ∧
    (event, .recovering, true) ∈ seen

/-- The event that is handled is the one that the callback sends. -/
theorem RecoveringHandles.sent {event : TesterEvent} (handled : RecoveringHandles iface t event)
    (coherent : Coherent iface) (taken : step iface (cb, launch) = some t) :
    iface.tester.state = .recovering ∧ sentEvent iface cb = some event := by
  obtain ⟨seen, added, member⟩ := handled
  have events := (step_move coherent taken).testerEvents coherent
  rw [added, List.append_cancel_left_eq] at events
  rw [events] at member
  cases sent : sentEvent iface cb with
  | none => simp [sent] at member
  | some other =>
      simp only [sent, Option.toList_some, List.map_cons, List.map_nil, List.mem_singleton,
        Prod.mk.injEq] at member
      obtain ⟨rfl, recovering, -⟩ := member
      exact ⟨recovering.symm, rfl⟩

end Steps

/-! ## Runs -/

section Runs

variable {ctx : InterfaceTesterShared} {name : String} {config : AcceptedConfig}
variable {isConnected : Bool} {launch : Launch} {inputs : List Input}

/-- **Every state between callbacks has its recovery in phase.** -/
theorem inPhase_of_visits {t : Interface}
    (visited : Visits step (begun ctx name config isConnected launch) inputs t) : InPhase t := by
  refine visits_of_invariant ?_ ?_ visited
  · rintro s ⟨cb, answer⟩ u taken inPhase
    have coherent := coherent_of_visits taken.source
    exact ((step_move coherent taken.step_eq).recoveryMove coherent).inPhase inPhase
  · have vacant := (recoveriesSeen_begun ctx name config isConnected launch).2
    constructor
    · intro pid running
      rw [vacant] at running
      cases running
    · intro recovering
      have running := (coherent_begun.recovering recovering).1
      rw [TesterProcess.isRunning, vacant] at running
      cases running

/-- **No stale recovery event is acted upon.** When the recovering state handles
the end of a task, the process that exited is the one whose start entered the
phase. When it handles a time-out, the timer was armed by that start, and the
one process that is killed is its process. -/
theorem recovery_events_in_phase :
    ∀ s cb answer t, Takes step (begun ctx name config isConnected launch) inputs s
        (cb, answer) t →
      (RecoveringHandles s t .recoveryTaskEnded →
        (∃ status, cb = .recoveryProcExited status) ∧
        (∃ start, (tagsOf s.trace).phase = some start ∧ (tagsOf s.trace).proc = some start ∧
          s.recovery.proc.pending = some start.pid) ∧
        killedPids t.trace = killedPids s.trace) ∧
      (RecoveringHandles s t .recoveryTaskTimedOut →
        cb = .recoveryTaskTimerExpired ∧
        ∃ start, (tagsOf s.trace).phase = some start ∧ (tagsOf s.trace).timer = some start ∧
          (tagsOf s.trace).proc = some start ∧ s.recovery.proc.pending = some start.pid ∧
          killedPids t.trace = killedPids s.trace ++ [start.pid]) := by
  intro s cb answer t taken
  have coherent := coherent_of_visits taken.source
  have inPhase := inPhase_of_visits taken.source
  constructor
  · intro handled
    obtain ⟨recovering, sent⟩ := handled.sent coherent taken.step_eq
    obtain ⟨status, rfl⟩ := sentBy_of_sentEvent sent
    obtain ⟨start, phase, proc, -, running⟩ := inPhase.start coherent recovering
    exact ⟨⟨status, rfl⟩, ⟨start, phase, proc, running⟩,
      recoveryEnded_of_step coherent taken.step_eq recovering⟩
  · intro handled
    obtain ⟨recovering, sent⟩ := handled.sent coherent taken.step_eq
    have expired : cb = .recoveryTaskTimerExpired := sentBy_of_sentEvent sent
    subst expired
    obtain ⟨start, phase, proc, timer, running⟩ := inPhase.start coherent recovering
    have killed := (recoveryTimedOut_of_step coherent taken.step_eq recovering running).2
    exact ⟨rfl, start, phase, timer, proc, running, killed⟩

end Runs

/-- A task is left behind by a disconnect, and its exit and timer come in the
next connection, where a second task has been started and times out. -/
def taskLeftBehind : List Input :=
  [(.settlingDelayTimerExpired, .forked 7), (.testProcExited 256, .forked 20),
    (.ifdown, .refused), (.recoveryProcExited 0, .refused), (.ifup, .refused),
    (.settlingDelayTimerExpired, .forked 8), (.testProcExited 256, .forked 20),
    (.recoveryTaskTimerExpired, .refused)]

theorem recovery_events_in_phase_after_left_behind : ∃ s t,
    run step (begun connectedShared "wan"
      (eagerConfig [plainTask "renew"]) true .refused)
      (taskLeftBehind.take 7) = some s ∧
    step s (.recoveryTaskTimerExpired, .refused) = some t ∧
    tagsOf s.trace = ⟨2, none, some ⟨1, 20⟩, some ⟨1, 20⟩, some ⟨1, 20⟩⟩ ∧
    killedPids t.trace = killedPids s.trace ++ [20] := by
  have happens : (run step (begun connectedShared "wan"
      (eagerConfig [plainTask "renew"]) true .refused)
      (taskLeftBehind.take 7)).bind (fun s =>
        (step s (.recoveryTaskTimerExpired, .refused)).map fun t =>
          (tagsOf s.trace, decide (testerEvents t.trace =
            testerEvents s.trace ++ [(.recoveryTaskTimedOut, .recovering, true)]))) =
      some (⟨2, none, some ⟨1, 20⟩, some ⟨1, 20⟩, some ⟨1, 20⟩⟩, true) := by decide +kernel
  obtain ⟨s, reached, continues⟩ := Option.bind_eq_some_iff.mp happens
  obtain ⟨t, taken, facts⟩ := Option.map_eq_some_iff.mp continues
  obtain ⟨tags, events⟩ := Prod.mk.inj facts
  have handled : RecoveringHandles s t .recoveryTaskTimedOut :=
    ⟨_, of_decide_eq_true events, List.mem_singleton_self _⟩
  obtain ⟨-, start, phase, -, -, -, killed⟩ := (@recovery_events_in_phase connectedShared "wan"
    (eagerConfig [plainTask "renew"]) true .refused taskLeftBehind s _ _ t
    ⟨_, [], rfl, reached, taken⟩).2 handled
  rw [tags] at phase
  cases phase
  exact ⟨s, t, reached, taken, tags, killed⟩

end IfaceTester
