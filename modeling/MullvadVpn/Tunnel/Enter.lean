import MullvadVpn.Tunnel.Shared

/-!
Entering each of the five tunnel states: which firewall policy is applied, what else is set up or
torn down, and which state is really entered when a step on the way fails. `ConnectingState::enter`
may end in the error state and `ConnectedState::enter` in the disconnecting state.
-/

namespace MullvadVpn.Tunnel

open Net Firewall

/-- What an `enter` function returns, with the shared values it leaves behind. -/
structure Entered where
  state : TunnelState
  transition : TunnelStateTransition
  shared : SharedTunnelStateValues

def Entered.newState (entered : Entered) : EventConsequence × SharedTunnelStateValues :=
  (.newState entered.state entered.transition, entered.shared)

def DisconnectingState.enter (shared : SharedTunnelStateValues) (tunnelCloseEvent : TunnelCloseEvent)
    (afterDisconnect : AfterDisconnect) : Entered where
  state := .disconnecting ⟨tunnelCloseEvent, afterDisconnect⟩
  transition := .disconnecting afterDisconnect.action
  shared := shared.record .closeTunnel

namespace ErrorState

def firewallPolicyError : FirewallError → FirewallPolicyError
  | .applyingBlockedPolicy error => error
  | _ => .generic

def setFirewallPolicy (env : Environment) (shared : SharedTunnelStateValues) :
    Except FirewallPolicyError Unit × SharedTunnelStateValues :=
  let policy := .blocked shared.allowLan (some shared.allowedEndpoint)
  let shared := if env.os = .linux then shared.disableConnectivityCheck env else shared
  let (result, shared) := shared.applyPolicy env policy
  (result.mapError firewallPolicyError, shared)

/-- The blocking half of `enter`. On Android the blocking tunnel device takes the firewall's place. -/
def enterBlocking (env : Environment) (shared : SharedTunnelStateValues)
    (blockReason : ErrorStateCause) : Entered :=
  if env.os = .android then
    let (ok, shared) := shared.restartTunnel env true
    { state := .error ⟨blockReason⟩
      transition := .error blockReason (if ok then none else some .generic)
      shared := shared }
  else
    let (result, shared) := setFirewallPolicy env shared
    { state := .error ⟨blockReason⟩
      transition := .error blockReason (match result with
        | .ok () => none
        | .error error => some error)
      shared := shared }

def enter (env : Environment) (shared : SharedTunnelStateValues) (blockReason : ErrorStateCause) :
    Entered :=
  let shared := if env.os = .windows then (shared.setTunnelAddresses env none).2 else shared
  if env.os = .macos ∧ ¬ blockReason.preventsFilteringResolver then
    let (ok, shared) := shared.dnsSetLocal env
    if ok then
      enterBlocking env shared blockReason
    else
      -- `Self::enter(shared_values, SetDnsError)`, which does not try the resolver again
      enterBlocking env shared .setDnsError
  else
    enterBlocking env shared blockReason

end ErrorState

namespace DisconnectedState

variable (env : Environment) (shared : SharedTunnelStateValues) (shouldResetFirewall : Bool)

def setupLocalDnsConfig : Bool × SharedTunnelStateValues :=
  (shared.record .resolverDisableForward).dnsSetLocal env

def registerSplitTunnelAddresses : SharedTunnelStateValues :=
  if shouldResetFirewall && !shared.lockdownMode.bool then
    shared.record .splitTunnelClearAddresses
  else
    (shared.setTunnelAddresses env none).2

/-- Failures are only logged. -/
def setFirewallPolicy : SharedTunnelStateValues :=
  if env.os = .android then
    shared
  else if shared.lockdownMode.bool then
    let shared := shared.persistFirewall env (shared.lockdownMode.shouldPersist env.os)
    (shared.applyPolicy env (.blocked shared.allowLan (some shared.allowedEndpoint))).2
  else if shouldResetFirewall then
    shared.resetPolicy env
  else
    shared

def constructStateTransition : Entered where
  state := .disconnected
  transition := .disconnected shared.lockdownMode.bool
  shared := shared

/-- The host DNS part of `enter`, on macOS. -/
def enterDns : SharedTunnelStateValues :=
  let shared := shared.record .splitTunnelReset
  if shared.lockdownMode.bool then (setupLocalDnsConfig env shared).2 else shared.dnsReset

def enter : Entered :=
  let shared := if env.os = .macos then enterDns env shared else shared
  let shared :=
    if env.os = .windows then registerSplitTunnelAddresses env shared shouldResetFirewall else shared
  let shared := setFirewallPolicy env shared shouldResetFirewall
  let shared := if env.os = .linux then shared.resetConnectivityCheck else shared
  let shared := if env.os = .android then shared.record .closeTun else shared
  constructStateTransition shared

end DisconnectedState

/-- Who may talk to the relay: the client executable on Windows, root elsewhere, and everyone when
a local proxy of the user makes the connection. -/
def relayClients (env : Environment) (params : TunnelParameters) : AllowedClients :=
  if env.os = .windows then
    .executables (env.relayClient params).toList
  else if params.getOpenvpnLocalProxySettings.isSome then
    .all
  else
    .root

def peerEndpoints (env : Environment) (params : TunnelParameters) : List AllowedEndpoint :=
  params.getNextHopEndpoints.map fun endpoint => ⟨endpoint, relayClients env params⟩

def exitEndpointIp (env : Environment) (params : TunnelParameters) : Option IpAddr :=
  if env.os = .windows then params.getExitHopEndpoint.map fun endpoint => endpoint.address.ip else none

def redirectInterface (env : Environment) (shared : SharedTunnelStateValues) : Option String :=
  if env.os = .macos then env.splitTunnelInterface shared.clock else none

namespace ConnectingState

def firewallPolicyError : FirewallError → FirewallPolicyError
  | .applyingConnectingPolicy error => error
  | _ => .generic

variable (env : Environment) (shared : SharedTunnelStateValues) (retryAttempt : UInt32)

def firewallPolicy (params : TunnelParameters)
    (tunnelMetadata : Option TunnelMetadata) (allowedTunnelTraffic : AllowedTunnelTraffic) :
    FirewallPolicy :=
  .connecting (peerEndpoints env params) (exitEndpointIp env params) tunnelMetadata shared.allowLan
    shared.allowedEndpoint allowedTunnelTraffic (redirectInterface env shared)

def setFirewallPolicy (params : TunnelParameters) (tunnelMetadata : Option TunnelMetadata)
    (allowedTunnelTraffic : AllowedTunnelTraffic) :
    Except FirewallPolicyError Unit × SharedTunnelStateValues :=
  let shared := if env.os = .linux then shared.disableConnectivityCheck env else shared
  let (result, shared) :=
    shared.applyPolicy env (firewallPolicy env shared params tunnelMetadata allowedTunnelTraffic)
  (result.mapError firewallPolicyError, shared)

/-- After how many attempts the Android tunnel device is recreated. -/
def maxAttemptsWithSameTun : UInt32 := 5

/-- The tunnel provider part of `enter`, on Android. -/
def prepareTun : SharedTunnelStateValues :=
  let shared := shared.record (.prepareTunConfig false)
  if retryAttempt > 0 ∧ retryAttempt % maxAttemptsWithSameTun = 0 then
    shared.record .openTunForced
  else
    shared

def startTunnel (parameters : TunnelParameters) (retryAttempt : UInt32) : ConnectingState where
  tunnelParameters := parameters
  tunnelMetadata := none
  allowedTunnelTraffic := .none
  tunnelCloseEvent := .pending
  retryAttempt := retryAttempt

/-- The part of `enter` after the tunnel parameters were generated. -/
def enterWith (tunnelParameters : TunnelParameters) : Entered :=
  let (result, shared) := setFirewallPolicy env shared tunnelParameters none .none
  match result with
  | .error error => ErrorState.enter env shared (.setFirewallPolicyError error)
  | .ok () =>
    let shared := if env.os = .android then prepareTun shared retryAttempt else shared
    { state := .connecting (startTunnel tunnelParameters retryAttempt)
      transition := .connecting tunnelParameters.getTunnelEndpoint
      shared := shared.record (.startTunnel tunnelParameters retryAttempt) }

def enter : Entered :=
  let shared :=
    if env.os = .macos ∧ env.localDnsResolver then (shared.dnsSetLocal env).2 else shared
  match shared.connectivity.availability with
  | none =>
    let shared := if env.os = .macos then shared.record .refreshRoutes else shared
    ErrorState.enter env shared .isOffline
  | some ipAvailability =>
    let generated := env.generate shared.clock retryAttempt ipAvailability
    let shared := shared.record (.generateParameters retryAttempt)
    match generated with
    | .error error => ErrorState.enter env shared (.tunnelParameterError error)
    | .ok tunnelParameters =>
      if env.os = .windows then
        let (ok, shared) := shared.setTunnelAddresses env none
        if ok then
          enterWith env shared retryAttempt tunnelParameters
        else
          ErrorState.enter env shared .splitTunnelError
      else
        enterWith env shared retryAttempt tunnelParameters

end ConnectingState

namespace ConnectedState

def firewallPolicyError (os : TargetOs) : FirewallError → FirewallPolicyError
  | .applyingConnectedPolicy error => if os = .windows then error else .generic
  | _ => .generic

def resolveDns (metadata : TunnelMetadata) (shared : SharedTunnelStateValues) : ResolvedDnsConfig :=
  shared.dnsConfig.resolve metadata.gateways 53

variable (env : Environment) (state : ConnectedState) (shared : SharedTunnelStateValues)

def getFirewallPolicy : FirewallPolicy :=
  .connected (peerEndpoints env state.tunnelParameters) (exitEndpointIp env state.tunnelParameters)
    state.metadata shared.allowLan (resolveDns state.metadata shared) (redirectInterface env shared)

def setFirewallPolicy : Except FirewallPolicyError Unit × SharedTunnelStateValues :=
  let (result, shared) := shared.applyPolicy env (getFirewallPolicy env state shared)
  (result.mapError (firewallPolicyError env.os), shared)

/-- On macOS with a local resolver, DNS is set up by making the resolver forward, which cannot
fail. -/
def setDns : Bool × SharedTunnelStateValues :=
  let dnsConfig := resolveDns state.metadata shared
  if env.os = .macos ∧ env.localDnsResolver then
    (true, shared.record (.resolverEnableForward dnsConfig.addresses (state.metadata.ips.all IpAddr.isIpv4)))
  else
    shared.dnsSet env state.metadata.interface dnsConfig

def resetDns : SharedTunnelStateValues :=
  if env.os = .macos ∧ env.localDnsResolver then
    shared.record .resolverDisableForward
  else
    shared.record .dnsResetBeforeInterfaceRemoval

def enter (metadata : TunnelMetadata)
    (tunnelParameters : TunnelParameters) (tunnelCloseEvent : TunnelCloseEvent) : Entered :=
  let state : ConnectedState := ⟨metadata, tunnelParameters, tunnelCloseEvent⟩
  let (firewallResult, shared) := setFirewallPolicy env state shared
  match firewallResult with
  | .error error =>
    DisconnectingState.enter shared tunnelCloseEvent (.block (.setFirewallPolicyError error))
  | .ok () =>
    let (dnsOk, shared) := setDns env state shared
    if dnsOk then
      { state := .connected state
        transition := .connected { tunnelParameters.getTunnelEndpoint with
          tunnelInterface := some metadata.interface }
        shared := shared }
    else
      DisconnectingState.enter shared tunnelCloseEvent (.block .setDnsError)

end ConnectedState

end MullvadVpn.Tunnel
