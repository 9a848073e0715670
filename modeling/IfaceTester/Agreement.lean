import IfaceTester.Observations
import IfaceTester.Foundations.Announcements

/-!
# The connection and the tester agree

The connection tells the tester by an event that it has settled and that it was
lost, and the tester then installs one starter or the other. A configuration
update stops and starts the tester without an event. Even so the two machines
never disagree between callbacks, and none of these events is lost.
-/

set_option autoImplicit false

namespace IfaceTester

open Runs Alternation

/-- Both machines, and the installed starter, tell the same about the connection. -/
structure Agrees (iface : Interface) : Prop where
  connected : iface.connection.state = .connected ↔ iface.tester.state ≠ .stopped
  starter : iface.tester.state ≠ .stopped ↔ iface.tester.starter = .testerStartConnected

/-- The two events with which the connection tells the tester. -/
def isLinkEvent : TesterEvent → Bool
  | .interfaceSettled => true
  | .interfaceDisconnected => true
  | _ => false

/-- The events of the connection that were sent to the tester, oldest first. -/
def linkEvents (trace : List Observation) : List (TesterEvent × TesterState × Bool) :=
  (testerEvents trace).filter fun sent => isLinkEvent sent.1

/-- For each of these events, whether it is the one of a settled connection. -/
def linkReports (trace : List Observation) : List Bool :=
  (linkEvents trace).map fun sent => decide (sent.1 = .interfaceSettled)

/-- The events of the connection come in turn, and each meets a state that
handles it. -/
structure LinksInTurn (trace : List Observation) : Prop where
  alternates : Alternates true (linkReports trace)
  settled : ∀ state handled, (.interfaceSettled, state, handled) ∈ linkEvents trace →
    state = .stopped ∧ handled = true
  disconnected : ∀ state handled, (.interfaceDisconnected, state, handled) ∈ linkEvents trace →
    state ≠ .stopped ∧ handled = true

/-- The last of these events tells the state of the connection. -/
structure LinksTell (iface : Interface) : Prop where
  inTurn : LinksInTurn iface.trace
  last : lastReport true (linkReports iface.trace) =
    decide (iface.connection.state = .connected)

section Steps

variable {iface t : Interface} {launch : Launch} {cb : Callback}

/-- Where a callback takes the connection. -/
def nextConnection (state : ConnectionState) : Callback → ConnectionState
  | .ifup => if state = .disconnected then .settling else state
  | .ifdown => .disconnected
  | .settlingDelayTimerExpired => .connected
  | _ => state

theorem connection_of_frame (same : t.frame = iface.frame) : t.connection = iface.connection :=
  congrArg (fun frame => frame.2.2.2.2) same

theorem TestEnd.nextConnection {passed : Bool} {event : TesterEvent} {ended : Interface}
    (how : TestEnd iface cb passed event ended) (state : ConnectionState) :
    IfaceTester.nextConnection state cb = state := by
  cases how with
  | exited status => rfl
  | timedOut => rfl

/-- Only the three callbacks of the connection change its state. -/
theorem Move.connection_state (move : Move iface launch cb t) :
    t.connection.state = nextConnection iface.connection.state cb := by
  have kept : ∀ {before : Interface}, t.frame = before.frame →
      t.connection.state = before.connection.state :=
    fun same => congrArg InterfaceConnection.state (connection_of_frame same)
  cases move with
  | ifupArms down => simp [nextConnection, down, connectionStateTransition, Interface.observe]
  | ifupRedundant up => simp [nextConnection, up]
  | ifdownRedundant down => exact down
  | ifdownSettling settling => rfl
  | ifdownConnected up live =>
      exact kept ((frame_observe _ _).trans
        (frame_testerDisconnectedHandler (connectionLost iface)))
  | settled settling stopped =>
      exact kept ((frame_observe _ _).trans
        (frame_testerStartConnected (connectionSettled iface) launch))
  | intervalElapsed sleeping =>
      exact kept ((frame_observe _ _).trans
        (frame_testerStartConnected (testerIntervalTimerStop iface) launch))
  | requested sleeping =>
      exact kept ((frame_observe _ _).trans
        (frame_testerStartConnected (testerIntervalTimerStop iface) launch))
  | requestIgnored awake => rfl
  | testEndsNext testing running how more =>
      rw [how.nextConnection]
      exact kept (((frame_observe _ _).trans (frame_nextTest _ launch)).trans how.frame)
  | testEndsRun testing running how isOver =>
      rw [how.nextConnection]
      exact kept (((frame_observe _ _).trans
        (frame_interfaceTestRunCompleted _ _ launch)).trans how.frame)
  | recoveryEnded status recovering =>
      exact kept ((frame_observe _ _).trans
        (frame_testerSleep (recoveryResponseTimerStop (recoveryTaskExited iface))))
  | recoveryEndIgnored status elsewhere => rfl
  | recoveryTimedOut recovering =>
      exact kept ((frame_observe _ _).trans (frame_testerSleep (recoveryTaskKilled iface)))
  | recoveryTimeoutIgnored elsewhere => rfl
  | updateUnchanged same => rfl
  | updateStopped stopped changed =>
      have lost := connection_of_frame (frame_testerStop iface)
      exact congrArg InterfaceConnection.state lost
  | @updateRestarted new live changed =>
      have started := kept (frame_testerStartConnected (reconfigured iface new.config) launch)
      have stopped := connection_of_frame (frame_testerStop iface)
      exact started.trans (congrArg InterfaceConnection.state stopped)

/-- A callback that sends no event of the connection does not settle it or lose it. -/
theorem connected_of_unlinked
    (unlinked : ∀ event, sentEvent iface cb = some event → isLinkEvent event = false) :
    nextConnection iface.connection.state cb = .connected ↔
      iface.connection.state = .connected := by
  cases cb with
  | ifup =>
      simp only [nextConnection]
      split
      case isTrue down => simp [down]
      case isFalse up => exact Iff.rfl
  | ifdown =>
      by_cases up : iface.connection.state = .connected
      · exact absurd (unlinked .interfaceDisconnected (by simp [sentEvent, up]))
          (by simp [isLinkEvent])
      · simp [nextConnection, up]
  | settlingDelayTimerExpired =>
      exact absurd (unlinked .interfaceSettled rfl) (by simp [isLinkEvent])
  | _ => exact Iff.rfl

/-- What a callback adds to the events of the connection. -/
theorem Move.linkEvents (coherent : Coherent iface) (move : Move iface launch cb t) :
    linkEvents t.trace = linkEvents iface.trace ++
      ((sentEvent iface cb).toList.map fun event =>
        (event, iface.tester.state, handles iface.tester.state event)).filter
          fun sent => isLinkEvent sent.1 := by
  rw [IfaceTester.linkEvents, move.testerEvents coherent, List.filter_append]
  rfl

/-- An event of the connection changes whether the connection is settled, and
the tester handles it. -/
theorem Coherent.link_of_sent (coherent : Coherent iface)
    (taken : step iface (cb, launch) = some t) {event : TesterEvent}
    (sent : sentEvent iface cb = some event) (linked : isLinkEvent event = true) :
    (event = .interfaceSettled ∧ iface.tester.state = .stopped ∧
        iface.connection.state ≠ .connected ∧ t.connection.state = .connected ∨
      event = .interfaceDisconnected ∧ iface.tester.state ≠ .stopped ∧
        iface.connection.state = .connected ∧ t.connection.state ≠ .connected) ∧
      handles iface.tester.state event = true := by
  have connection := (step_move coherent taken).connection_state
  have sender := sentBy_of_sentEvent sent
  cases event with
  | interfaceSettled =>
      obtain rfl : cb = .settlingDelayTimerExpired := sender
      have settling := coherent.settlingTimer.mp (timerIsRunning_of_step taken).1
      have down : iface.connection.state ≠ .connected := by simp [settling]
      have stopped := coherent.stopped_of_down down
      exact ⟨.inl ⟨rfl, stopped, down, connection⟩, by rw [stopped]; rfl⟩
  | interfaceDisconnected =>
      obtain rfl : cb = .ifdown := sender
      simp only [sentEvent] at sent
      split at sent
      case isTrue up =>
        have live := coherent.connected.mp up
        refine ⟨.inr ⟨rfl, live, up, by rw [connection]; simp [nextConnection]⟩, ?_⟩
        cases state : iface.tester.state <;> first | rfl | exact absurd state live
      case isFalse down => cases sent
  | _ => cases linked

/-- **A callback keeps the events in turn**, and the last of them true. -/
theorem Coherent.linksTell_step (coherent : Coherent iface)
    (taken : step iface (cb, launch) = some t) (tell : LinksTell iface) : LinksTell t := by
  have move := step_move coherent taken
  have added := move.linkEvents coherent
  have connection := move.connection_state
  by_cases unlinked : ∀ event, sentEvent iface cb = some event → isLinkEvent event = false
  · -- Nothing is added, and the connection is as settled as before.
    have quiet : linkEvents t.trace = linkEvents iface.trace := by
      rw [added, List.filter_eq_nil_iff.mpr, List.append_nil]
      intro sent member
      simp only [List.mem_map, Option.mem_toList] at member
      obtain ⟨event, isSent, rfl⟩ := member
      simp [unlinked event isSent]
    have same := connected_of_unlinked unlinked
    rw [← connection] at same
    constructor
    · exact ⟨by rw [linkReports, quiet]; exact tell.inTurn.alternates,
        by rw [quiet]; exact tell.inTurn.settled, by rw [quiet]; exact tell.inTurn.disconnected⟩
    · rw [linkReports, quiet]
      exact tell.last.trans (by simp [same])
  · push Not at unlinked
    obtain ⟨event, sent, linked⟩ := unlinked
    -- One event is added. It is the opposite of the last one.
    have one : linkEvents t.trace = linkEvents iface.trace ++
        [(event, iface.tester.state, handles iface.tester.state event)] := by
      rw [added, sent]
      simp [linked]
    have reports : linkReports t.trace =
        linkReports iface.trace ++ [decide (event = .interfaceSettled)] := by
      simp [linkReports, one]
    obtain ⟨change, handled⟩ := coherent.link_of_sent taken sent
      (eq_true_of_ne_false linked)
    refine ⟨⟨?_, fun state handling member => ?_, fun state handling member => ?_⟩, ?_⟩
    · rw [reports]
      refine tell.inTurn.alternates.concat ?_
      rw [tell.last]
      rcases change with ⟨rfl, -, down, -⟩ | ⟨rfl, -, up, -⟩
      · simp [down]
      · simp [up]
    · rw [one, List.mem_append, List.mem_singleton] at member
      rcases member with earlier | now
      · exact tell.inTurn.settled state handling earlier
      · cases now
        rcases change with ⟨-, stopped, -⟩ | ⟨other, -⟩
        · exact ⟨stopped, handled⟩
        · cases other
    · rw [one, List.mem_append, List.mem_singleton] at member
      rcases member with earlier | now
      · exact tell.inTurn.disconnected state handling earlier
      · cases now
        rcases change with ⟨other, -⟩ | ⟨-, live, -⟩
        · cases other
        · exact ⟨live, handled⟩
    · rw [reports, lastReport_concat]
      rcases change with ⟨rfl, -, -, up⟩ | ⟨rfl, -, -, down⟩
      · simp [up]
      · simp [down]

end Steps

/-! ## Runs -/

section Runs

variable {ctx : InterfaceTesterShared} {name : String} {config : AcceptedConfig}
variable {isConnected : Bool} {launch : Launch} {inputs : List Input} {t : Interface}

theorem linksTell_begun : LinksTell (begun ctx name config isConnected launch) := by
  have quiet : linkEvents (begun ctx name config isConnected launch).trace = [] := by
    rw [linkEvents, testerEvents_begun]
    rfl
  have down := down_begun ctx name config isConnected launch
  refine ⟨⟨?_, ?_, ?_⟩, ?_⟩
  · rw [linkReports, quiet]
    exact alternates_nil true
  · simp [quiet]
  · simp [quiet]
  · rw [linkReports, quiet]
    simp [down]

theorem linksTell_of_visits
    (visited : Visits step (begun ctx name config isConnected launch) inputs t) : LinksTell t :=
  visits_of_invariant (fun _ _ _ taken tell =>
    (coherent_of_visits taken.source).linksTell_step taken.step_eq tell) linksTell_begun visited

theorem Coherent.agrees {iface : Interface} (coherent : Coherent iface) : Agrees iface :=
  ⟨coherent.connected, coherent.starter.symm⟩

/-- The settling delay that is pending after these inputs was armed at the
beginning or by an `ifup` that found the interface disconnected. No `ifdown`
came since, and the connection has been settling all the time. -/
def SettlingSince (start : Interface) (isConnected : Bool) (inputs : List Input) : Prop :=
  ∃ earlier later armed, inputs = earlier ++ later ∧ run step start earlier = some armed ∧
    (earlier = [] ∧ isConnected = true ∨
      ∃ first answer down, earlier = first ++ [(.ifup, answer)] ∧
        run step start first = some down ∧ down.connection.state = .disconnected) ∧
    (∀ input ∈ later, input.1 ≠ .ifdown) ∧
    ∀ w, Visits step armed later w → w.connection.state = .settling

/-- Wherever the connection settles, it has done so since it was armed. -/
theorem settlingSince_of_settling (inputs : List Input) {t : Interface}
    (reached : run step (begun ctx name config isConnected launch) inputs = some t)
    (settling : t.connection.state = .settling) :
    SettlingSince (begun ctx name config isConnected launch) isConnected inputs := by
  induction inputs using List.reverseRecOn generalizing t with
  | nil =>
      cases reached
      refine ⟨[], [], _, rfl, rfl, .inl ⟨rfl, ?_⟩, by simp, ?_⟩
      · rw [begun_eq] at settling
        cases isConnected with
        | true => rfl
        | false => simp [beforeBegin_disconnected] at settling
      · rintro w ⟨before, after, split, at_w⟩
        obtain ⟨rfl, rfl⟩ := List.append_eq_nil_iff.mp split.symm
        cases at_w
        exact settling
  | append_singleton inputs input ih =>
      rw [run_append, Option.bind_eq_some_iff] at reached
      obtain ⟨s, before, last⟩ := reached
      obtain ⟨cb, answer⟩ := input
      have taken : step s (cb, answer) = some t := by simpa using last
      have coherent := coherent_of_visits (visits_last before)
      have connection := (step_move coherent taken).connection_state
      by_cases already : s.connection.state = .settling
      · -- The delay was pending before, and the callback was no `ifdown`.
        obtain ⟨earlier, later, armed, rfl, at_armed, armedBy, noIfdown, always⟩ :=
          ih before already
        refine ⟨earlier, later ++ [(cb, answer)], armed, by rw [List.append_assoc], at_armed,
          armedBy, ?_, ?_⟩
        · intro input member
          rw [List.mem_append, List.mem_singleton] at member
          rcases member with old | rfl
          · exact noIfdown input old
          · rintro rfl
            rw [connection] at settling
            cases settling
        · intro w visited
          rcases visits_concat visited with old | last
          · exact always w old
          · have whole := run_trans at_armed last
            rw [← List.append_assoc, run_concat before taken] at whole
            exact Option.some.inj whole ▸ settling
      · -- Only an `ifup` that finds the interface disconnected begins to settle.
        rw [connection] at settling
        cases cb with
        | ifup =>
            have down : s.connection.state = .disconnected := by
              by_contra up
              simp only [nextConnection, if_neg up] at settling
              exact already settling
            refine ⟨inputs ++ [(.ifup, answer)], [], t, (List.append_nil _).symm,
              run_concat before taken, .inr ⟨inputs, answer, s, rfl, before, down⟩, by simp, ?_⟩
            rintro w ⟨front, back, split, at_w⟩
            obtain ⟨rfl, rfl⟩ := List.append_eq_nil_iff.mp split.symm
            cases at_w
            rw [connection]
            exact settling
        | ifdown => cases settling
        | settlingDelayTimerExpired => cases settling
        | _ => exact absurd settling already

/-- **The two machines never disagree.** Between callbacks they and the starter
tell the same, the events of the connection come in turn and are all handled,
and the connection is called settled only by a settling delay that no `ifdown`
interrupted. -/
theorem connection_and_tester_agree
    (reached : run step (begun ctx name config isConnected launch) inputs = some t) :
    Agrees t ∧ LinksInTurn t.trace ∧
      ∀ input u state handled, step t input = some u →
        linkEvents u.trace = linkEvents t.trace ++ [(.interfaceSettled, state, handled)] →
        input.1 = .settlingDelayTimerExpired ∧
          SettlingSince (begun ctx name config isConnected launch) isConnected inputs := by
  have coherent := coherent_of_visits (visits_last reached)
  refine ⟨coherent.agrees, (linksTell_of_visits (visits_last reached)).inTurn, ?_⟩
  rintro ⟨cb, answer⟩ u state handled taken added
  have links := (step_move coherent taken).linkEvents coherent
  rw [added, List.append_cancel_left_eq] at links
  have sent : sentEvent t cb = some .interfaceSettled := by
    cases h : sentEvent t cb with
    | none => simp [h] at links
    | some event =>
        cases event <;> simp [h, isLinkEvent] at links
        rfl
  have expired : cb = .settlingDelayTimerExpired := sentBy_of_sentEvent sent
  subst expired
  have settling := coherent.settlingTimer.mp (timerIsRunning_of_step taken).1
  exact ⟨rfl, settlingSince_of_settling inputs reached settling⟩

end Runs

/-- An interface that settles, is lost, and settles once more. -/
def settledTwice : List Input :=
  [(.settlingDelayTimerExpired, .forked 7), (.ifdown, .refused), (.ifup, .refused),
    (.settlingDelayTimerExpired, .forked 8)]

theorem connection_and_tester_agree_twice : ∃ t,
    run step (begun connectedShared "wan" (eagerConfig []) true .refused)
      settledTwice = some t ∧ Agrees t ∧ LinksInTurn t.trace := by
  have happens : (run step (begun connectedShared "wan" (eagerConfig []) true
      .refused) settledTwice).isSome = true := by decide +kernel
  obtain ⟨t, reached⟩ := Option.isSome_iff_exists.mp happens
  have agree := connection_and_tester_agree reached
  exact ⟨t, reached, agree.1, agree.2.1⟩

end IfaceTester
