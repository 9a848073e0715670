import IfaceTester.DaemonMoves
import IfaceTester.Agreement
import IfaceTester.Foundations.LongRuns

/-!
# Notifications that repeat what is known

`netifd` and the hotplug script tell of an interface that goes down or comes up, and they
may do so more than once. An interface is up from the first `ifup` to the next `ifdown`,
whatever the tester does in between, so the notifications that repeat what is known can
be told from the others by looking at the notifications only. None of them does anything.

So an event on `ubus` that is delivered a second time does nothing to the whole daemon,
whatever it says and whatever the system answers.
-/

set_option autoImplicit false

namespace IfaceTester

open Runs

/-- The interface was up when it was last heard of. -/
def Interface.isUp (iface : Interface) : Bool := decide (iface.connection.state ≠ .disconnected)

/-- The notification says what is known. -/
def repeatsNews (up : Bool) : Input → Bool
  | (.ifup, _) => up
  | (.ifdown, _) => !up
  | _ => false

/-- What is known after an input. -/
def upAfter (up : Bool) : Input → Bool
  | (.ifup, _) => true
  | (.ifdown, _) => false
  | _ => up

section Steps

variable {iface t : Interface} {input : Input}

/-- **Only the two notifications say whether the interface is up.** -/
theorem Coherent.isUp_step (coherent : Coherent iface) (taken : step iface input = some t) :
    t.isUp = upAfter iface.isUp input := by
  obtain ⟨cb, launch⟩ := input
  have connection := (step_move coherent taken).connection_state
  unfold Interface.isUp
  rw [connection]
  cases cb with
  | ifup =>
      by_cases down : iface.connection.state = .disconnected
      · simp [nextConnection, upAfter, down]
      · simp [nextConnection, upAfter, down]
  | ifdown => rfl
  | settlingDelayTimerExpired =>
      -- The timer only runs while the interface settles.
      have settling := coherent.settlingTimer.mp (timerIsRunning_of_step taken).1
      simp [nextConnection, upAfter, settling]
  | _ => rfl

/-- A notification that says what is known does nothing. -/
theorem step_of_repeatsNews (known : repeatsNews iface.isUp input = true) :
    step iface input = some iface := by
  obtain ⟨cb, launch⟩ := input
  cases cb with
  | ifup =>
      have up : iface.connection.state ≠ .disconnected := of_decide_eq_true known
      exact congrArg some (if_neg up)
  | ifdown =>
      have down : iface.connection.state = .disconnected := by
        simpa [repeatsNews, Interface.isUp] using known
      exact congrArg some (if_neg (not_not_intro down))
  | _ => cases known

theorem links_stutter : Stutters step Coherent Interface.isUp repeatsNews upAfter where
  stays := fun _ known => step_of_repeatsNews known
  keeps := fun coherent taken => ⟨coherent.stepped taken, coherent.isUp_step taken⟩

end Steps

section Runs

variable {ctx : InterfaceTesterShared} {name : String} {config : AcceptedConfig}
variable {isConnected : Bool} {launch : Launch}

theorem isUp_begun : (begun ctx name config isConnected launch).isUp = isConnected := by
  rw [begun_eq]
  cases isConnected with
  | true => rfl
  | false =>
      have down := beforeBegin_disconnected ctx name config
      simp [Interface.isUp, down]

/-- **Repeated notifications change nothing.** In every run, each `ifup` that comes while
the interface is up and each `ifdown` that comes while it is down can be left out. The run
is possible as before, and the interface ends in the same state with the same history. -/
theorem repeated_notifications_ignored (inputs : List Input) :
    run step (begun ctx name config isConnected launch)
        (withoutIdle repeatsNews upAfter isConnected inputs) =
      run step (begun ctx name config isConnected launch) inputs := by
  have same := links_stutter.run_withoutIdle
    (@coherent_begun ctx name config isConnected launch) inputs
  rw [isUp_begun] at same
  exact same

end Runs

/-! ## Events that are delivered twice -/

section Delivery

variable {daemon : Daemon} {program : Program} {iface : Interface}

/-- A tracked interface that stays as it is. -/
theorem change_self (tracked : program.interfaces.find iface.name = some iface) :
    program.change iface iface = program := by
  unfold Program.change Program.record
  rw [VersionedList.set_of_find tracked, List.drop_length, List.map_nil, List.append_nil]

/-- The two handlers do nothing the second time, when the reaction leaves nothing to do. -/
theorem Daemon.handleInterfaceEvent_twice (sound : Sound daemon.program)
    (word interfaceName : Option String) (wanted : String) {react again : Interface → Interface}
    (settles : ∀ iface, Coherent iface →
      (react iface).name = iface.name ∧ again (react iface) = react iface) :
    (daemon.handleInterfaceEvent word interfaceName wanted react).handleInterfaceEvent word
        interfaceName wanted again =
      daemon.handleInterfaceEvent word interfaceName wanted react := by
  cases word with
  | none => rfl
  | some word =>
      cases interfaceName with
      | none => rfl
      | some name =>
          by_cases unwanted : word ≠ wanted
          · simp only [handleInterfaceEvent, if_pos unwanted]
          · simp only [handleInterfaceEvent, if_neg unwanted]
            cases tracked : daemon.interfaceTesterLookupByName name with
            | none => simp only [tracked]
            | some iface =>
                have named := sound.named tracked
                obtain ⟨kept, nothing⟩ := settles iface (sound name iface tracked).coherent
                have there : (daemon.program.change iface (react iface)).interfaces.find name =
                    some (react iface) := by
                  have set : (daemon.program.change iface (react iface)).interfaces =
                      daemon.program.interfaces.set iface.name (react iface) := rfl
                  have found : daemon.program.interfaces.find name = some iface := tracked
                  rw [set, VersionedList.find_set, if_pos named.symm, found]
                  rfl
                have looked : (daemon.advance (daemon.program.change iface
                    (react iface))).interfaceTesterLookupByName name = some (react iface) := there
                dsimp only
                rw [looked]
                dsimp only
                rw [nothing, program_advance, change_self (by rw [kept, named]; exact there)]
                exact advance_self

theorem Daemon.subscriptions_handleInterfaceEvent (word interfaceName : Option String)
    (wanted : String) (react : Interface → Interface) :
    (daemon.handleInterfaceEvent word interfaceName wanted react).subscriptions =
      daemon.subscriptions := by
  obtain ⟨program, moved⟩ := daemon.handleInterfaceEvent_advance word interfaceName wanted react
  rw [moved]
  rfl

/-- **An event does nothing the second time.** -/
theorem Daemon.deliver_twice (sound : Sound daemon.program) (event : BusEvent)
    (launch again : Launch) :
    (daemon.deliver event launch).deliver event again = daemon.deliver event launch := by
  by_cases subscribed : event.type ∈ daemon.subscriptions
  · by_cases monitor : event.type = interfaceMonitorEventId
    · have first : ∀ (d : Daemon) (launch : Launch), event.type ∈ d.subscriptions →
          d.deliver event launch = d.networkInterfaceEventHandlerCb event.msg launch := by
        intro d launch listening
        simp only [deliver, if_pos listening, if_pos monitor]
      rw [first daemon launch subscribed, first]
      · refine handleInterfaceEvent_twice sound _ _ _ fun iface coherent => ?_
        have lost : Move iface launch .ifdown _ := move_of_ifdown coherent
        have down : (interfaceConnectionDisconnected iface launch).connection.state =
            .disconnected := lost.connection_state
        exact ⟨lost.identity.2, if_neg (not_not_intro down)⟩
      · exact (subscriptions_handleInterfaceEvent _ _ _ _).symm ▸ subscribed
    · by_cases state : event.type = interfaceStateEventId
      · have first : ∀ (d : Daemon) (launch : Launch), event.type ∈ d.subscriptions →
            d.deliver event launch = d.interfaceStateEventHandlerCb event.msg := by
          intro d launch listening
          simp only [deliver, if_pos listening, if_neg monitor, if_pos state]
        rw [first daemon launch subscribed, first]
        · refine handleInterfaceEvent_twice sound _ _ _ fun iface coherent => ?_
          have taken : step iface (.ifup, launch) = some (interfaceConnectionConnected iface) := rfl
          have up := coherent.isUp_step taken
          exact ⟨(step_move coherent taken).identity.2, if_neg (of_decide_eq_true up)⟩
        · exact (subscriptions_handleInterfaceEvent _ _ _ _).symm ▸ subscribed
      · simp only [deliver, if_pos subscribed, if_neg monitor, if_neg state]
  · simp only [deliver, if_neg subscribed]

/-- **It does not matter how often an event is delivered.** In every run of the daemon, an
event that is delivered twice in a row does what it does when it is delivered once. -/
theorem repeated_event_ignored {ctx : InterfaceTesterShared} {configFile : Option String}
    (before after : List DaemonEvent) (event : BusEvent) (launch again : Launch) :
    run daemonStep (contextInit ctx configFile)
        (before ++ .event event launch :: .event event again :: after) =
      run daemonStep (contextInit ctx configFile) (before ++ .event event launch :: after) := by
  rw [run_append, run_append]
  cases reached : run daemonStep (contextInit ctx configFile) before with
  | none => rfl
  | some daemon =>
      have sound := (@daemon_invariant daemon ctx configFile before (fun _ => True) trivial
        (fun _ _ _ _ _ => trivial) reached).1
      have twice := daemon.deliver_twice sound event launch again
      simp only [Option.bind_some, run_cons, daemonStep, twice]

end Delivery

end IfaceTester
