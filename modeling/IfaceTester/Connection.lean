import IfaceTester.Tester

/-!
# The connection of an interface

`interface_connection.c`. The connection settles for a while after the
interface comes up. Only then is the tester told, by an event. It is told again
when a settled connection is lost.
-/

set_option autoImplicit false

namespace IfaceTester

/-- `connection_state_transition`. -/
def connectionStateTransition (iface : Interface) (newState : ConnectionState) : Interface :=
  { iface with connection.state := newState }.observe (.connectionState newState)

/-- `settling_delay_timer_stop`. -/
def settlingDelayTimerStop (iface : Interface) : Interface :=
  { iface with connection.settlingDelayTimer := timerStop iface.connection.settlingDelayTimer }

/-- `settling_delay_timer_start`. -/
def settlingDelayTimerStart (iface : Interface) : Interface :=
  let settlingDelayMsecs := iface.config.settlingDelaySecs * msecsPerSec
  { iface with
    connection.settlingDelayTimer :=
      timerStart iface.connection.settlingDelayTimer settlingDelayMsecs }.observe
    (.timerSet .settlingDelay settlingDelayMsecs.toInt32)

/-- `settling_delay_timer_expired`. -/
def settlingDelayTimerExpired (iface : Interface) (launch : Launch) : Interface :=
  if iface.connection.state = .settling then
    interfaceTesterSendEvent (connectionStateTransition iface .connected) .interfaceSettled launch
  else iface

/-- `interface_connection_connected`. -/
def interfaceConnectionConnected (iface : Interface) : Interface :=
  if iface.connection.state = .disconnected then
    connectionStateTransition (settlingDelayTimerStart iface) .settling
  else iface

/-- `interface_connection_disconnected`. -/
def interfaceConnectionDisconnected (iface : Interface) (launch : Launch) : Interface :=
  if iface.connection.state ≠ .disconnected then
    let wasConnected := decide (iface.connection.state = .connected)
    let iface := settlingDelayTimerStop (connectionStateTransition iface .disconnected)
    if wasConnected then interfaceTesterSendEvent iface .interfaceDisconnected launch else iface
  else iface

/-- `interface_connection_begin`, with the state that `netifd` reports for the
interface. -/
def interfaceConnectionBegin (iface : Interface) (isConnected : Bool) (launch : Launch) :
    Interface :=
  if isConnected then interfaceConnectionConnected iface
  else interfaceConnectionDisconnected iface launch

/-- `interface_connection_cleanup`. -/
def interfaceConnectionCleanup (iface : Interface) : Interface := settlingDelayTimerStop iface

/-! ## The life of an interface -/

/-- `interface_tester_alloc` with `interface_tester_initialise`: the fields are
zero but for what the initialisers set. -/
def interfaceTesterAlloc (ctx : InterfaceTesterShared) (name : String) : Interface where
  ctx := ctx
  name := name
  eventQueue := .empty
  config := .zeroed
  connection := { state := .disconnected, settlingDelayTimer := ⟨none⟩ }
  recovery :=
    { state := .operational
      metricsAreAdjusted := false
      responseTimeoutTimer := ⟨none⟩
      recoveryIndex := 0
      proc := { pending := none, cb := none } }
  tester :=
    { state := .stopped
      testIndex := 0
      starter := .testerStartDisconnected
      testProc := { pending := none, cb := none }
      testResponseTimeoutTimer := ⟨none⟩
      testIntervalTimer := ⟨none⟩
      lastTestExitCode := 0
      lastTestPassed := false
      stats :=
        { tests :=
            { totalPassesThisConnection := 0
              totalFailuresThisConnection := 0
              totalPasses := 0
              totalFailures := 0 }
          testRuns :=
            { consecutivePasses := 0
              totalPassesThisConnection := 0
              totalPasses := 0
              consecutiveFailures := 0
              totalFailuresThisConnection := 0
              totalFailures := 0 }
          recovery := { totalThisConnection := 0, total := 0 } } }
  trace := [.connectionState .disconnected, .testerState .stopped]

/-- `interface_tester_begin`. -/
def interfaceTesterBegin (iface : Interface) (isConnected : Bool) (launch : Launch) : Interface :=
  interfaceConnectionBegin (transitionToOperationalState iface) isConnected launch

/-- `interface_tester_cleanup`. -/
def interfaceTesterCleanup (iface : Interface) : Interface :=
  testerStop (interfaceConnectionCleanup (recoveryCleanup iface))

/-- `interface_tester_free`: what is left of an interface when its memory is
released. `interface_tester_config_free` empties the two lists. -/
def interfaceTesterFree (iface : Interface) : Interface :=
  { interfaceTesterCleanup iface with config.tests := [], config.recoverys := [] }

end IfaceTester
