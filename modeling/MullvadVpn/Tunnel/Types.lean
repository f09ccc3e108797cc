import MullvadVpn.Firewall.Policy

/-!
The vocabulary of the tunnel state machine (`talpid_core::tunnel_state_machine`): commands, events,
error causes, the five states and the transitions it reports. All four platforms are covered; what
the source selects with `cfg` attributes is selected here by a `TargetOs` value. The reply channels
inside commands and events are not modelled: the machine only ever sends `()` or a result on them.
-/

namespace MullvadVpn.Tunnel

open Net

inductive TargetOs where
  | linux
  | windows
  | macos
  | android
  deriving DecidableEq

/-- If the firewall should block in the disconnected state. -/
inductive LockdownMode where
  | disabled
  | enabled (persist : Bool)
  deriving DecidableEq

namespace LockdownMode

def yes : LockdownMode := .enabled true

def no : LockdownMode := .disabled

def bool : LockdownMode → Bool
  | disabled => false
  | enabled _ => true

/-- If the blocked state should persist across reboots. Always true except on Windows. -/
def shouldPersist (os : TargetOs) (mode : LockdownMode) : Bool :=
  if os = .windows then mode == .enabled true else true

/-- Forget the previous value of `persist`. The identity except on Windows. -/
def persist (os : TargetOs) (mode : LockdownMode) (persist : Bool) : LockdownMode :=
  if os = .windows then
    match mode with
    | disabled => disabled
    | enabled _ => enabled persist
  else
    mode

def ofBool (block : Bool) : LockdownMode :=
  if block then yes else no

/-- The `PartialEq` instance of the source, which ignores `persist`. -/
def eq (mode other : LockdownMode) : Bool :=
  mode.bool == other.bool

end LockdownMode

structure BlockingApplication where
  name : String
  pid : UInt32
  deriving DecidableEq

inductive FirewallPolicyError where
  | generic
  | locked (application : Option BlockingApplication)
  deriving DecidableEq

inductive ParameterGenerationError where
  | noMatchingRelay
  | noMatchingBridgeRelay
  | noWireguardKey
  | customTunnelHostResolutionError
  | ipVersionUnavailable (family : IpVersion)
  deriving DecidableEq

inductive ErrorStateCause where
  | authFailed (reason : Option String)
  | ipv6Unavailable
  | setFirewallPolicyError (error : FirewallPolicyError)
  | setDnsError
  | invalidDnsServers (addresses : List IpAddr)
  | createTunnelDevice (osError : Option Int)
  | startTunnelError
  | tunnelParameterError (error : ParameterGenerationError)
  | isOffline
  | notPrepared
  | otherAlwaysOnApp (appName : String)
  | otherLegacyAlwaysOnVpn
  | splitTunnelError
  | needFullDiskPermissions
  deriving DecidableEq

namespace ErrorStateCause

def preventsFilteringResolver : ErrorStateCause → Bool
  | setDnsError => true
  | _ => false

def isInvalidDnsServers : ErrorStateCause → Bool
  | invalidDnsServers _ => true
  | _ => false

end ErrorStateCause

/-- The failures of the macOS split tunnel module that the machine tells apart. -/
inductive SplitTunnelError where
  | needFullDiskPermissions
  | offline
  | other

def SplitTunnelError.cause : SplitTunnelError → ErrorStateCause
  | needFullDiskPermissions => .needFullDiskPermissions
  | offline => .isOffline
  | other => .splitTunnelError

inductive TunnelCommand where
  | allowLan (allow : Bool)
  | allowEndpoint (endpoint : AllowedEndpoint)
  | dns (config : DnsConfig)
  | lockdownMode (mode : LockdownMode)
  | connectivity (connectivity : Connectivity)
  | connect
  | disconnect
  | block (cause : ErrorStateCause)
  | bypassSocket (fd : Int)
  | setExcludedApps (paths : List String)
  deriving DecidableEq

def TunnelCommand.existsOn (os : TargetOs) : TunnelCommand → Bool
  | allowEndpoint _ => os ≠ .android
  | lockdownMode _ => os ≠ .android
  | bypassSocket _ => os = .android
  | setExcludedApps _ => os ≠ .linux
  | _ => true

/-- Events from the tunnel and the process managing it. -/
inductive TunnelEvent where
  | authFailed (reason : Option String)
  | interfaceUp (metadata : TunnelMetadata) (allowedTunnelTraffic : AllowedTunnelTraffic)
  | up (metadata : TunnelMetadata)
  | down
  deriving DecidableEq

/-- What a state waits for. A closed command or event channel delivers `none`; a close event whose
sender vanished delivers an error. -/
inductive EventResult where
  | command (command : Option TunnelCommand)
  | event (event : Option TunnelEvent)
  | close (result : Except Unit (Option ErrorStateCause))
  deriving DecidableEq

/-- `result.unwrap_or(None)`. -/
def closeBlockReason : Except Unit (Option ErrorStateCause) → Option ErrorStateCause
  | .ok reason => reason
  | .error _ => none

inductive AfterDisconnect where
  | nothing
  | block (cause : ErrorStateCause)
  | reconnect (retryAttempt : UInt32)
  deriving DecidableEq

inductive ActionAfterDisconnect where
  | nothing
  | block
  | reconnect
  deriving DecidableEq

def AfterDisconnect.action : AfterDisconnect → ActionAfterDisconnect
  | nothing => .nothing
  | block _ => .block
  | reconnect _ => .reconnect

/-- The fused receiver of the tunnel's close event. -/
inductive TunnelCloseEvent where
  | pending
  | terminated
  deriving DecidableEq

/-- The tunnel has been started, but it is not functional yet. -/
structure ConnectingState where
  tunnelParameters : TunnelParameters
  tunnelMetadata : Option TunnelMetadata
  allowedTunnelTraffic : AllowedTunnelTraffic
  tunnelCloseEvent : TunnelCloseEvent
  retryAttempt : UInt32
  deriving DecidableEq

structure ConnectedState where
  metadata : TunnelMetadata
  tunnelParameters : TunnelParameters
  tunnelCloseEvent : TunnelCloseEvent
  deriving DecidableEq

/-- From when a tunnel kill is triggered until the tunnel has closed. -/
structure DisconnectingState where
  tunnelCloseEvent : TunnelCloseEvent
  afterDisconnect : AfterDisconnect
  deriving DecidableEq

/-- No tunnel is running and all network connections are blocked. -/
structure ErrorState where
  blockReason : ErrorStateCause
  deriving DecidableEq

inductive TunnelState where
  | disconnected
  | connecting (state : ConnectingState)
  | connected (state : ConnectedState)
  | disconnecting (state : DisconnectingState)
  | error (state : ErrorState)
  deriving DecidableEq

/-- What the machine reports when it enters a state. -/
inductive TunnelStateTransition where
  | disconnected (lockedDown : Bool)
  | connecting (endpoint : TunnelEndpoint)
  | connected (endpoint : TunnelEndpoint)
  | disconnecting (action : ActionAfterDisconnect)
  | error (cause : ErrorStateCause) (blockFailure : Option FirewallPolicyError)
  deriving DecidableEq

inductive EventConsequence where
  | newState (state : TunnelState) (transition : TunnelStateTransition)
  | sameState (state : TunnelState)
  | finished

end MullvadVpn.Tunnel
