import MullvadVpn.Tunnel.Enter

/-!
How each tunnel state handles a command, a tunnel event or the tunnel's close event. Commands that
do not exist on a platform never reach its handlers; their branches leave everything as it is.
-/

namespace MullvadVpn.Tunnel

open Net

namespace DisconnectedState

/-- The answer to `LockdownMode` when the mode really changes. -/
def setLockdownMode (env : Environment) (lockdownMode : LockdownMode)
    (shared : SharedTunnelStateValues) : EventConsequence × SharedTunnelStateValues :=
  let shared := { shared with lockdownMode := lockdownMode }
  let shared := setFirewallPolicy env shared true
  let shared :=
    if env.os = .windows then registerSplitTunnelAddresses env shared true else shared
  if env.os = .macos then
    if lockdownMode.bool then
      let (ok, shared) := setupLocalDnsConfig env shared
      if ok then
        (constructStateTransition shared).newState
      else
        (ErrorState.enter env shared .setDnsError).newState
    else
      (constructStateTransition shared.dnsReset).newState
  else
    (constructStateTransition shared).newState

def handleEvent (env : Environment) (command : Option TunnelCommand)
    (shared : SharedTunnelStateValues) : EventConsequence × SharedTunnelStateValues :=
  match command with
  | some (.allowLan allowLan) =>
    let (changed, shared) := shared.setAllowLan allowLan
    (.sameState .disconnected, if changed then setFirewallPolicy env shared false else shared)
  | some (.allowEndpoint endpoint) =>
    if shared.allowedEndpoint ≠ endpoint then
      let shared := { shared with allowedEndpoint := endpoint }
      (.sameState .disconnected, setFirewallPolicy env shared false)
    else
      (.sameState .disconnected, shared)
  | some (.dns servers) => (.sameState .disconnected, (shared.setDnsConfig servers).2)
  | some (.lockdownMode lockdownMode) =>
    if shared.lockdownMode.eq lockdownMode then
      (.sameState .disconnected, shared)
    else
      setLockdownMode env lockdownMode shared
  | some (.connectivity connectivity) =>
    (.sameState .disconnected, { shared with connectivity := connectivity })
  | some .connect => (ConnectingState.enter env shared 0).newState
  | some (.block _) => (.sameState .disconnected, shared)
  | some (.bypassSocket fd) => (.sameState .disconnected, shared.record (.bypassSocket fd))
  | some (.setExcludedApps paths) => (.sameState .disconnected, shared.storeExcludedApps env paths)
  | none => (.finished, shared.dnsReset)
  | some .disconnect => (.sameState .disconnected, shared)

end DisconnectedState

namespace DisconnectingState

def updateAfterDisconnect (afterDisconnect : AfterDisconnect) : Option TunnelCommand → AfterDisconnect
  | some (.connectivity connectivity) =>
    match afterDisconnect with
    | .reconnect retryAttempt =>
      if connectivity.isOffline then .block .isOffline else .reconnect retryAttempt
    | .block .isOffline => if connectivity.isOffline then .block .isOffline else .reconnect 0
    | afterDisconnect => afterDisconnect
  | some .connect =>
    match afterDisconnect with
    | .reconnect retryAttempt => .reconnect retryAttempt
    | _ => .reconnect 0
  | some .disconnect => .nothing
  | some (.block reason) =>
    match afterDisconnect with
    | .nothing => .nothing
    | _ => .block reason
  | none =>
    match afterDisconnect with
    | .reconnect _ => .nothing
    | afterDisconnect => afterDisconnect
  | _ => afterDisconnect

variable (env : Environment)

def storeCommand (shared : SharedTunnelStateValues) :
    Option TunnelCommand → SharedTunnelStateValues
  | some (.allowLan allowLan) => (shared.setAllowLan allowLan).2
  | some (.allowEndpoint endpoint) => { shared with allowedEndpoint := endpoint }
  | some (.dns servers) => (shared.setDnsConfig servers).2
  | some (.lockdownMode lockdownMode) => { shared with lockdownMode := lockdownMode }
  | some (.connectivity connectivity) => { shared with connectivity := connectivity }
  | some (.bypassSocket fd) => shared.record (.bypassSocket fd)
  | some (.setExcludedApps paths) => shared.storeExcludedApps env paths
  | _ => shared

def handleCommands (state : DisconnectingState) (command : Option TunnelCommand)
    (shared : SharedTunnelStateValues) : EventConsequence × SharedTunnelStateValues :=
  (.sameState (.disconnecting { state with
      afterDisconnect := updateAfterDisconnect state.afterDisconnect command }),
    storeCommand env shared command)

def afterDisconnectEnter (state : DisconnectingState)
    (blockReason : Option ErrorStateCause) (shared : SharedTunnelStateValues) : Entered :=
  match blockReason with
  | some reason => ErrorState.enter env shared reason
  | none =>
    match state.afterDisconnect with
    | .nothing => DisconnectedState.enter env shared true
    | .block cause => ErrorState.enter env shared cause
    | .reconnect retryAttempt => ConnectingState.enter env shared retryAttempt

end DisconnectingState

namespace ErrorState

/-- Whether new connectivity makes it worth trying to connect again. -/
def shouldReconnect (blockReason : ErrorStateCause) (connectivity : Connectivity) : Bool :=
  !connectivity.isOffline && match blockReason with
    | .isOffline => true
    | .tunnelParameterError (.ipVersionUnavailable family) => connectivity.hasFamily family
    | _ => false

variable (env : Environment) (shared : SharedTunnelStateValues)

/-- DNS stays with the local resolver on macOS. -/
def resetDnsUnlessLocal : SharedTunnelStateValues :=
  if env.os = .macos ∧ env.localDnsResolver then shared else shared.dnsReset

def reconnect : EventConsequence × SharedTunnelStateValues :=
  (ConnectingState.enter env (resetDnsUnlessLocal env shared) 0).newState

def handleEvent (state : ErrorState) (command : Option TunnelCommand)
    (shared : SharedTunnelStateValues) : EventConsequence × SharedTunnelStateValues :=
  match command with
  | some (.allowLan allowLan) =>
    let (changed, shared) := shared.setAllowLan allowLan
    if changed then
      if env.os = .android then
        let (ok, shared) := shared.restartTunnel env true
        if ok then
          (.sameState (.error state), shared)
        else
          (enter env shared .startTunnelError).newState
      else
        (.sameState (.error state), (setFirewallPolicy env shared).2)
    else
      (.sameState (.error state), shared)
  | some (.allowEndpoint endpoint) =>
    if shared.allowedEndpoint ≠ endpoint then
      let shared := { shared with allowedEndpoint := endpoint }
      (.sameState (.error state), (setFirewallPolicy env shared).2)
    else
      (.sameState (.error state), shared)
  | some (.dns servers) =>
    let (changed, shared) := shared.setDnsConfig servers
    if changed then
      if env.os = .android then
        let shared := shared.record (.prepareTunConfig true)
        if state.blockReason.isInvalidDnsServers then
          (ConnectingState.enter env shared 0).newState
        else
          (.sameState (.error state), shared)
      else
        (.sameState (.error state), (setFirewallPolicy env shared).2)
    else
      (.sameState (.error state), shared)
  | some (.lockdownMode lockdownMode) =>
    (.sameState (.error state), { shared with lockdownMode := lockdownMode })
  | some (.connectivity connectivity) =>
    let shared := { shared with connectivity := connectivity }
    if shouldReconnect state.blockReason connectivity then
      reconnect env shared
    else
      (.sameState (.error state), shared)
  | some .connect => reconnect env shared
  | some .disconnect | none =>
    let shared := if env.os = .linux then shared.resetConnectivityCheck else shared
    (DisconnectedState.enter env shared.dnsReset true).newState
  | some (.block reason) => (enter env shared reason).newState
  | some (.bypassSocket fd) => (.sameState (.error state), shared.record (.bypassSocket fd))
  | some (.setExcludedApps paths) =>
    if env.os = .android then
      let (changed, shared) := shared.setExcludedPaths paths
      (.sameState (.error state), if changed then (shared.restartTunnel env true).2 else shared)
    else
      (.sameState (.error state), shared.storeExcludedApps env paths)

end ErrorState

namespace ConnectingState

variable (env : Environment) (state : ConnectingState)

def disconnect (afterDisconnect : AfterDisconnect)
    (shared : SharedTunnelStateValues) : EventConsequence × SharedTunnelStateValues :=
  (DisconnectingState.enter (shared.resetRoutes env) state.tunnelCloseEvent afterDisconnect).newState

/-- Apply the policy of the current state again; on failure give up the tunnel and block. -/
def resetFirewall (shared : SharedTunnelStateValues) : EventConsequence × SharedTunnelStateValues :=
  let (result, shared) := setFirewallPolicy env shared state.tunnelParameters state.tunnelMetadata
    state.allowedTunnelTraffic
  match result with
  | .ok () => (.sameState (.connecting state), shared)
  | .error error => disconnect env state (.block (.setFirewallPolicyError error)) shared

def handleCommands (command : Option TunnelCommand)
    (shared : SharedTunnelStateValues) : EventConsequence × SharedTunnelStateValues :=
  match command with
  | some (.allowLan allowLan) =>
    let (changed, shared) := shared.setAllowLan allowLan
    if changed then
      if env.os = .android then
        disconnect env state (.reconnect 0) shared
      else
        resetFirewall env state shared
    else
      (.sameState (.connecting state), shared)
  | some (.allowEndpoint endpoint) =>
    if shared.allowedEndpoint ≠ endpoint then
      resetFirewall env state { shared with allowedEndpoint := endpoint }
    else
      (.sameState (.connecting state), shared)
  | some (.dns servers) =>
    let (changed, shared) := shared.setDnsConfig servers
    if changed ∧ env.os = .android then
      disconnect env state (.reconnect 0) shared
    else
      (.sameState (.connecting state), shared)
  | some (.lockdownMode lockdownMode) =>
    (.sameState (.connecting state), { shared with lockdownMode := lockdownMode })
  | some (.connectivity connectivity) =>
    let shared := { shared with connectivity := connectivity }
    if connectivity.isOffline then
      disconnect env state (.block .isOffline) shared
    else
      (.sameState (.connecting state), shared)
  | some .connect => disconnect env state (.reconnect 0) shared
  | some .disconnect | none => disconnect env state .nothing shared
  | some (.block reason) => disconnect env state (.block reason) shared
  | some (.bypassSocket fd) => (.sameState (.connecting state), shared.record (.bypassSocket fd))
  | some (.setExcludedApps paths) =>
    match env.os with
    | .windows => (.sameState (.connecting state), shared.excludePaths paths)
    | .android =>
      let (changed, shared) := shared.setExcludedPaths paths
      if changed then
        disconnect env state (.reconnect 0) shared
      else
        (.sameState (.connecting state), shared)
    | .macos =>
      match shared.setExcludePaths env paths with
      | (.ok addedDevice, shared) =>
        if addedDevice then
          resetFirewall env state shared
        else
          (.sameState (.connecting state), shared)
      | (.error error, shared) => disconnect env state (.block error.cause) shared
    | .linux => (.sameState (.connecting state), shared)

/-- The firewall part of the answer to `InterfaceUp`. -/
def interfaceUp (metadata : TunnelMetadata)
    (allowedTunnelTraffic : AllowedTunnelTraffic) (shared : SharedTunnelStateValues) :
    EventConsequence × SharedTunnelStateValues :=
  resetFirewall env { state with
    allowedTunnelTraffic := allowedTunnelTraffic, tunnelMetadata := some metadata } shared

def handleTunnelEvents (event : Option TunnelEvent)
    (shared : SharedTunnelStateValues) : EventConsequence × SharedTunnelStateValues :=
  match event with
  | some (.authFailed reason) => disconnect env state (.block (.authFailed reason)) shared
  | some (.interfaceUp metadata allowedTunnelTraffic) =>
    match env.os with
    | .windows =>
      let (ok, shared) := shared.setTunnelAddresses env (some metadata)
      if ok then
        interfaceUp env state metadata allowedTunnelTraffic shared
      else
        disconnect env state (.block .splitTunnelError) shared
    | .macos =>
      match shared.enableSplitTunnel env metadata with
      | (.ok (), shared) => interfaceUp env state metadata allowedTunnelTraffic shared
      | (.error error, shared) => disconnect env state (.block error) shared
    | .linux | .android => interfaceUp env state metadata allowedTunnelTraffic shared
  | some (.up metadata) =>
    (ConnectedState.enter env shared metadata state.tunnelParameters state.tunnelCloseEvent).newState
  | some .down =>
    (.sameState (.connecting { state with
      allowedTunnelTraffic := .none, tunnelMetadata := none }), shared)
  | none => disconnect env state (.reconnect (state.retryAttempt + 1)) shared

def handleTunnelCloseEvent (blockReason : Option ErrorStateCause) (shared : SharedTunnelStateValues) :
    EventConsequence × SharedTunnelStateValues :=
  match blockReason with
  | some blockReason => (ErrorState.enter env (shared.resetRoutes env) blockReason).newState
  | none => (enter env (shared.resetRoutes env) (state.retryAttempt + 1)).newState

end ConnectingState

namespace ConnectedState

variable (env : Environment) (state : ConnectedState)

def disconnect (afterDisconnect : AfterDisconnect)
    (shared : SharedTunnelStateValues) : EventConsequence × SharedTunnelStateValues :=
  (DisconnectingState.enter ((resetDns env shared).resetRoutes env) state.tunnelCloseEvent
    afterDisconnect).newState

variable (shared : SharedTunnelStateValues)

/-- Apply the policy of the current state again; on failure give up the tunnel and block. -/
def resetFirewall : EventConsequence × SharedTunnelStateValues :=
  let (result, shared) := setFirewallPolicy env state shared
  match result with
  | .ok () => (.sameState (.connected state), shared)
  | .error error => disconnect env state (.block (.setFirewallPolicyError error)) shared

/-- The answer to `Dns` on desktop when the configuration changes. -/
def resetFirewallAndDns : EventConsequence × SharedTunnelStateValues :=
  let (result, shared) := setFirewallPolicy env state shared
  match result with
  | .error error => disconnect env state (.block (.setFirewallPolicyError error)) shared
  | .ok () =>
    let (ok, shared) := setDns env state shared
    if ok then
      (.sameState (.connected state), shared)
    else
      disconnect env state (.block .setDnsError) shared

def handleCommands (command : Option TunnelCommand)
    (shared : SharedTunnelStateValues) : EventConsequence × SharedTunnelStateValues :=
  match command with
  | some (.allowLan allowLan) =>
    let (changed, shared) := shared.setAllowLan allowLan
    if changed then
      if env.os = .android then
        disconnect env state (.reconnect 0) shared
      else
        resetFirewall env state shared
    else
      (.sameState (.connected state), shared)
  | some (.allowEndpoint endpoint) =>
    (.sameState (.connected state), { shared with allowedEndpoint := endpoint })
  | some (.dns servers) =>
    let (changed, shared) := shared.setDnsConfig servers
    if changed then
      if env.os = .android then
        disconnect env state (.reconnect 0) shared
      else
        resetFirewallAndDns env state shared
    else
      (.sameState (.connected state), shared)
  | some (.lockdownMode lockdownMode) =>
    (.sameState (.connected state), { shared with lockdownMode := lockdownMode })
  | some (.connectivity connectivity) =>
    let shared := { shared with connectivity := connectivity }
    if connectivity.isOffline then
      disconnect env state (.block .isOffline) shared
    else
      (.sameState (.connected state), shared)
  | some .connect => disconnect env state (.reconnect 0) shared
  | some .disconnect | none => disconnect env state .nothing shared
  | some (.block reason) => disconnect env state (.block reason) shared
  | some (.bypassSocket fd) => (.sameState (.connected state), shared.record (.bypassSocket fd))
  | some (.setExcludedApps paths) =>
    match env.os with
    | .windows => (.sameState (.connected state), shared.excludePaths paths)
    | .android =>
      let (changed, shared) := shared.setExcludedPaths paths
      if changed then
        disconnect env state (.reconnect 0) shared
      else
        (.sameState (.connected state), shared)
    | .macos =>
      match shared.setExcludePaths env paths with
      | (.ok interfaceChanged, shared) =>
        if interfaceChanged then
          resetFirewall env state shared
        else
          (.sameState (.connected state), shared)
      | (.error error, shared) => disconnect env state (.block error.cause) shared
    | .linux => (.sameState (.connected state), shared)

def handleTunnelEvents (event : Option TunnelEvent)
    (shared : SharedTunnelStateValues) : EventConsequence × SharedTunnelStateValues :=
  match event with
  | some .down | none => disconnect env state (.reconnect 0) shared
  | some _ => (.sameState (.connected state), shared)

def handleTunnelCloseEvent (_state : ConnectedState)
    (blockReason : Option ErrorStateCause) (shared : SharedTunnelStateValues) :
    EventConsequence × SharedTunnelStateValues :=
  let shared := (resetDns env shared).resetRoutes env
  match blockReason with
  | some blockReason => (ErrorState.enter env shared blockReason).newState
  | none => (ConnectingState.enter env shared 0).newState

end ConnectedState

end MullvadVpn.Tunnel
