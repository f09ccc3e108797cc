import MullvadVpn.Tunnel.Types

/-!
The values all tunnel states share and the calls the machine makes to the rest of the system. What
those calls answer is an `Environment`: for every call it may depend on how many calls were made
before, so quantifying over environments covers every pattern of failures. Each call is recorded,
most recent first. A failing firewall call leaves the policy in force as it was.
-/

namespace MullvadVpn.Tunnel

open Net Firewall

/-- A call out of the state machine, with the outcome where the machine or a proof needs it. -/
inductive SystemCall where
  | applyPolicy (policy : FirewallPolicy) (ok : Bool)
  | resetPolicy (ok : Bool)
  | dnsSet (interface : String) (config : ResolvedDnsConfig) (ok : Bool)
  | dnsReset
  | dnsResetBeforeInterfaceRemoval
  | resolverEnableForward (addresses : List IpAddr) (filterOutAaaa : Bool)
  | resolverDisableForward
  | clearRoutes
  | clearRoutingRules
  | refreshRoutes
  | splitTunnelSetAddresses (metadata : Option TunnelMetadata) (ok : Bool)
  | splitTunnelClearAddresses
  | splitTunnelSetTunnel (metadata : TunnelMetadata) (ok : Bool)
  | splitTunnelReset
  | splitTunnelSetPaths (paths : List String) (ok : Bool)
  | disableConnectivityCheck
  | enableConnectivityCheck
  | generateParameters (retryAttempt : UInt32)
  | startTunnel (params : TunnelParameters) (retryAttempt : UInt32)
  | closeTunnel
  | prepareTunConfig (blocking : Bool)
  | openTun (ok : Bool)
  | openTunForced
  | closeTun
  | bypassSocket (fd : Int)
  deriving DecidableEq

/-- The platform and the answers of everything outside the machine. The number argument is the
count of calls made before. -/
structure Environment where
  os : TargetOs
  /-- `LOCAL_DNS_RESOLVER` on macOS. -/
  localDnsResolver : Bool
  /-- Where the filtering resolver listens, on macOS. -/
  resolverListeningAddr : SocketAddr
  /-- `none` for success. -/
  applyPolicy : Nat → FirewallPolicy → Option FirewallPolicyError
  resetPolicy : Nat → Bool
  dnsSet : Nat → Bool
  splitTunnelSetAddresses : Nat → Bool
  splitTunnelSetTunnel : Nat → Option SplitTunnelError
  splitTunnelSetPaths : Nat → Option SplitTunnelError
  splitTunnelInterface : Nat → Option String
  /-- `None` when NetworkManager is absent or the setting was not changed. -/
  disableConnectivityCheck : Nat → Option Bool
  generate : Nat → UInt32 → IpAvailability → Except ParameterGenerationError TunnelParameters
  /-- The executable that talks to the relay, on Windows. -/
  relayClient : TunnelParameters → Option String
  openTun : Nat → Bool

/-- Every call succeeds, and the same tunnel parameters are generated every time. -/
def Environment.reliable (os : TargetOs) (params : TunnelParameters) : Environment where
  os := os
  localDnsResolver := true
  resolverListeningAddr := ⟨.v4 (ipv4Addr 127 0 0 1), 53⟩
  applyPolicy _ _ := none
  resetPolicy _ := true
  dnsSet _ := true
  splitTunnelSetAddresses _ := true
  splitTunnelSetTunnel _ := none
  splitTunnelSetPaths _ := none
  splitTunnelInterface _ := none
  disableConnectivityCheck _ := none
  generate _ _ _ := .ok params
  relayClient _ := none
  openTun _ := true

/-- The firewall: the policy in force, `none` after a reset, and the Windows flag that says whether
the filters outlive a reboot. -/
structure FirewallStatus where
  policy : Option FirewallPolicy
  persist : Bool

structure SharedTunnelStateValues where
  firewall : FirewallStatus
  allowLan : Bool
  lockdownMode : LockdownMode
  connectivity : Connectivity
  dnsConfig : DnsConfig
  allowedEndpoint : AllowedEndpoint
  connectivityCheckWasEnabled : Option Bool
  excludedPackages : List String
  calls : List SystemCall

/-- The errors of `Firewall::apply_policy`. Only Windows says which policy could not be applied and
why. -/
inductive FirewallError where
  | applyingConnectingPolicy (error : FirewallPolicyError)
  | applyingConnectedPolicy (error : FirewallPolicyError)
  | applyingBlockedPolicy (error : FirewallPolicyError)
  | other

def FirewallError.ofPolicy (os : TargetOs) (policy : FirewallPolicy) (error : FirewallPolicyError) :
    FirewallError :=
  if os = .windows then
    match policy with
    | .connecting .. => applyingConnectingPolicy error
    | .connected .. => applyingConnectedPolicy error
    | .blocked .. => applyingBlockedPolicy error
  else
    other

namespace SharedTunnelStateValues

variable (env : Environment) (shared : SharedTunnelStateValues)

def clock : Nat :=
  shared.calls.length

def record (call : SystemCall) : SharedTunnelStateValues :=
  { shared with calls := call :: shared.calls }

/-- The Android firewall is a stub that accepts everything and enforces nothing. -/
def applyPolicy (policy : FirewallPolicy) : Except FirewallError Unit × SharedTunnelStateValues :=
  if env.os = .android then
    (.ok (), shared.record (.applyPolicy policy true))
  else
    match env.applyPolicy shared.clock policy with
    | none =>
      (.ok (), { shared.record (.applyPolicy policy true) with
        firewall := { shared.firewall with policy := some policy } })
    | some error => (.error (.ofPolicy env.os policy error), shared.record (.applyPolicy policy false))

def resetPolicy : SharedTunnelStateValues :=
  if env.resetPolicy shared.clock then
    { shared.record (.resetPolicy true) with firewall := { shared.firewall with policy := none } }
  else
    shared.record (.resetPolicy false)

/-- `Firewall::persist`, which exists on Windows only. -/
def persistFirewall (persist : Bool) : SharedTunnelStateValues :=
  if env.os = .windows then
    { shared with firewall := { shared.firewall with persist := persist } }
  else
    shared

def dnsSet (interface : String) (config : ResolvedDnsConfig) : Bool × SharedTunnelStateValues :=
  (env.dnsSet shared.clock, shared.record (.dnsSet interface config (env.dnsSet shared.clock)))

/-- The system DNS set to the local filtering resolver. -/
def dnsSetLocal : Bool × SharedTunnelStateValues :=
  shared.dnsSet env "lo"
    (DnsConfig.default.resolve [env.resolverListeningAddr.ip] env.resolverListeningAddr.port)

def dnsReset : SharedTunnelStateValues :=
  shared.record .dnsReset

def resetRoutes : SharedTunnelStateValues :=
  let shared := shared.record .clearRoutes
  if env.os = .linux then shared.record .clearRoutingRules else shared

def setTunnelAddresses (metadata : Option TunnelMetadata) : Bool × SharedTunnelStateValues :=
  (env.splitTunnelSetAddresses shared.clock,
    shared.record (.splitTunnelSetAddresses metadata (env.splitTunnelSetAddresses shared.clock)))

def enableSplitTunnel (metadata : TunnelMetadata) :
    Except ErrorStateCause Unit × SharedTunnelStateValues :=
  match env.splitTunnelSetTunnel shared.clock with
  | none => (.ok (), shared.record (.splitTunnelSetTunnel metadata true))
  | some error => (.error error.cause, shared.record (.splitTunnelSetTunnel metadata false))

variable (paths : List String)

/-- Whether a split tunnel interface was added or removed. -/
def setExcludePaths : Except SplitTunnelError Bool × SharedTunnelStateValues :=
  let hadInterface := (env.splitTunnelInterface shared.clock).isSome
  match env.splitTunnelSetPaths shared.clock with
  | some error => (.error error, shared.record (.splitTunnelSetPaths paths false))
  | none =>
    let shared := shared.record (.splitTunnelSetPaths paths true)
    let hasInterface := (env.splitTunnelInterface shared.clock).isSome
    (.ok (hadInterface != hasInterface), shared)

/-- The Windows `exclude_paths`, which hands the paths to the driver without waiting. -/
def excludePaths : SharedTunnelStateValues :=
  shared.record (.splitTunnelSetPaths paths true)

def disableConnectivityCheck : SharedTunnelStateValues :=
  if shared.connectivityCheckWasEnabled.isNone then
    { shared.record .disableConnectivityCheck with
      connectivityCheckWasEnabled := env.disableConnectivityCheck shared.clock }
  else
    shared

def resetConnectivityCheck : SharedTunnelStateValues :=
  let taken := { shared with connectivityCheckWasEnabled := none }
  if shared.connectivityCheckWasEnabled = some true then
    taken.record .enableConnectivityCheck
  else
    taken

def setExcludedPaths (apps : List String) : Bool × SharedTunnelStateValues :=
  if apps ≠ shared.excludedPackages then
    (true, { shared with excludedPackages := apps })
  else
    (false, shared)

/-- The answer to `SetExcludedApps` in the states that only store the applications. -/
def storeExcludedApps : SharedTunnelStateValues :=
  match env.os with
  | .windows => shared.excludePaths paths
  | .android => (shared.setExcludedPaths paths).2
  | .macos => (shared.setExcludePaths env paths).2
  | .linux => shared

def restartTunnel (blocking : Bool) : Bool × SharedTunnelStateValues :=
  let shared := shared.record (.prepareTunConfig blocking)
  (env.openTun shared.clock, shared.record (.openTun (env.openTun shared.clock)))

def setAllowLan (allowLan : Bool) : Bool × SharedTunnelStateValues :=
  if shared.allowLan ≠ allowLan then
    (true, { shared with allowLan := allowLan })
  else
    (false, shared)

def setDnsConfig (dnsConfig : DnsConfig) : Bool × SharedTunnelStateValues :=
  if shared.dnsConfig ≠ dnsConfig then
    (true, { shared with dnsConfig := dnsConfig })
  else
    (false, shared)

end SharedTunnelStateValues

end MullvadVpn.Tunnel
