import MullvadVpn.Systems.TransitionSystem
import MullvadVpn.Tunnel.Handle

/-!
The tunnel state machine as a transition system. An event is what the current state receives next:
a command, a tunnel event or the tunnel's close event, as far as that state listens to it. The
command channel is fused: once it has delivered its end, the waiting states with a tunnel skip it
and the others read its end again. The listener of the reported transitions is taken to be alive.
-/

namespace MullvadVpn.Tunnel

open Net Firewall Systems

structure InitialTunnelState where
  allowLan : Bool
  lockdownMode : LockdownMode
  dnsConfig : DnsConfig
  allowedEndpoint : AllowedEndpoint
  resetFirewall : Bool
  excludePaths : List String

structure TunnelStateMachine where
  /-- `none` once the machine has finished. -/
  currentState : Option TunnelState
  /-- Whether the command channel has delivered its end. -/
  commandsDone : Bool
  shared : SharedTunnelStateValues
  /-- The transitions sent to the listener, most recent first. -/
  transitions : List TunnelStateTransition

namespace TunnelStateMachine

variable (env : Environment) (settings : InitialTunnelState)
  (machine : TunnelStateMachine) (commandsDone : Bool) (connectivity : Connectivity)
  (leftover : Option FirewallPolicy)

/-- The firewall as `Firewall::from_args` sets it up. Only Windows enters the blocked state there;
elsewhere the policy an earlier process left in the kernel stays in force. -/
def initialFirewall : FirewallStatus where
  policy :=
    if env.os = .windows ∧ (settings.lockdownMode.bool ∨ ¬ settings.resetFirewall) then
      some (.blocked settings.allowLan (some settings.allowedEndpoint))
    else
      leftover
  persist := true

def initialShared : SharedTunnelStateValues where
  firewall := initialFirewall env settings leftover
  allowLan := settings.allowLan
  -- there is no lockdown mode on Android
  lockdownMode := if env.os = .android then .disabled else settings.lockdownMode
  connectivity := connectivity
  dnsConfig := settings.dnsConfig
  allowedEndpoint := settings.allowedEndpoint
  connectivityCheckWasEnabled := none
  excludedPackages := settings.excludePaths
  calls := []

/-- The transition into the initial disconnected state is not reported. -/
def new : TunnelStateMachine :=
  let entered := DisconnectedState.enter env (initialShared env settings connectivity leftover)
    settings.resetFirewall
  { currentState := some entered.state
    commandsDone := false
    shared := entered.shared
    transitions := [] }

/-- Whether a command can come out of the fused command channel. -/
def commandReceivable : Option TunnelCommand → Bool
  | some command => !commandsDone && command.existsOn env.os
  | none => true

def receives : TunnelState → EventResult → Bool
  | .disconnected, .command command => commandReceivable env commandsDone command
  | .error _, .command command => commandReceivable env commandsDone command
  | .connecting _, .command command => !commandsDone && commandReceivable env commandsDone command
  | .connected _, .command command => !commandsDone && commandReceivable env commandsDone command
  | .connecting _, _ => true
  | .connected _, _ => true
  | .disconnecting state, event =>
    match state.tunnelCloseEvent, event with
    | .pending, .command command => !commandsDone && commandReceivable env commandsDone command
    | .pending, .close _ => true
    | .terminated, .command command => !commandsDone && commandReceivable env commandsDone command
    | .terminated, .close result => decide (result = .ok none)
    | _, .event _ => false
  | _, _ => false

/-- `TunnelState::handle_event`, for the event the state received. -/
def handleEvent (state : TunnelState) (event : EventResult)
    (shared : SharedTunnelStateValues) : EventConsequence × SharedTunnelStateValues :=
  match state, event with
  | .disconnected, .command command => DisconnectedState.handleEvent env command shared
  | .error state, .command command => ErrorState.handleEvent env state command shared
  | .connecting state, .command command => ConnectingState.handleCommands env state command shared
  | .connecting state, .event event => ConnectingState.handleTunnelEvents env state event shared
  | .connecting state, .close result =>
    ConnectingState.handleTunnelCloseEvent env state (closeBlockReason result) shared
  | .connected state, .command command => ConnectedState.handleCommands env state command shared
  | .connected state, .event event => ConnectedState.handleTunnelEvents env state event shared
  | .connected state, .close result =>
    ConnectedState.handleTunnelCloseEvent env state (closeBlockReason result) shared
  | .disconnecting state, .command command =>
    DisconnectingState.handleCommands env state command shared
  | .disconnecting state, .close result =>
    (state.afterDisconnectEnter env (closeBlockReason result) shared).newState
  | state, _ => (.sameState state, shared)

/-- The fused channel notices its end, except when a terminated close event makes the disconnecting
state read the channel underneath it. -/
def noticesEnd : TunnelState → EventResult → Bool
  | .disconnecting ⟨.terminated, _⟩, _ => false
  | _, event => event == .command none

/-- What the loop in `run` makes of a consequence. Only a new state is reported. -/
def advance :
    EventConsequence × SharedTunnelStateValues → TunnelStateMachine
  | (.newState state transition, shared) =>
    ⟨some state, commandsDone, shared, transition :: machine.transitions⟩
  | (.sameState state, shared) => ⟨some state, commandsDone, shared, machine.transitions⟩
  | (.finished, shared) => ⟨none, commandsDone, shared, machine.transitions⟩

/-- One turn of the loop in `run`. -/
def step (event : EventResult) : Option TunnelStateMachine :=
  match machine.currentState with
  | none => none
  | some state =>
    if receives env machine.commandsDone state event then
      some (machine.advance (machine.commandsDone || noticesEnd state event)
        (handleEvent env state event machine.shared))
    else
      none

/-- All runs of the machine in an environment, from any settings, connectivity and leftover
policy. -/
def system : TransitionSystem TunnelStateMachine EventResult where
  Init machine := ∃ settings connectivity leftover, machine = new env settings connectivity leftover
  step := step env

theorem run_of_exec {env settings connectivity} {leftover events machine}
    (h : (system env).exec (new env settings connectivity leftover) events = some machine) :
    (system env).Run events.reverse machine := by
  have hinit : (system env).Run [] (new env settings connectivity leftover) :=
    TransitionSystem.Run.init ⟨settings, connectivity, leftover, rfl⟩
  simpa using hinit.exec h

end TunnelStateMachine

def directRelay : TunnelParameters :=
  .wireguard
    { peer := ⟨⟨1⟩, [], ⟨.v4 (ipv4Addr 192 0 2 1), 51820⟩⟩
      exitPeer := none
      quantumResistant := false
      daita := false
      obfuscation := none }

def directMetadata : TunnelMetadata where
  interface := "wg0-mullvad"
  ips := [.v4 (ipv4Addr 10 8 0 2)]
  ipv4Gateway := ipv4Addr 10 64 0 1
  ipv6Gateway := none

/-- Settings that change nothing but the lockdown mode. -/
def InitialTunnelState.ofLockdownMode (mode : LockdownMode) : InitialTunnelState where
  allowLan := false
  lockdownMode := mode
  dnsConfig := .default
  allowedEndpoint := ⟨⟨⟨.v4 (ipv4Addr 192 0 2 2), 443⟩, .tcp⟩, .root⟩
  resetFirewall := true
  excludePaths := []

end MullvadVpn.Tunnel
