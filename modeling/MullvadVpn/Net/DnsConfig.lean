import MullvadVpn.Net.Address

/-!
The DNS configuration of the tunnel state machine (`talpid_core::dns`) and how the daemon computes
it from the user's options (`mullvad_daemon::dns`).
-/

namespace MullvadVpn.Net

/-- Which resolvers to use: the tunnel's gateways, or given addresses in and outside the tunnel. -/
inductive DnsConfig where
  | default
  | override (tunnelConfig nonTunnelConfig : List IpAddr)
  deriving DecidableEq

/-- A configuration with the default resolved. The port is a field on macOS only, and is 53 in the
configurations the firewall gets. -/
structure ResolvedDnsConfig where
  tunnelConfig : List IpAddr
  nonTunnelConfig : List IpAddr
  port : BitVec 16
  deriving DecidableEq

namespace DnsConfig

def resolve (config : DnsConfig) (defaultTunConfig : List IpAddr) (port : BitVec 16) :
    ResolvedDnsConfig :=
  match config with
  | default => ⟨defaultTunConfig, [], port⟩
  | override tunnelConfig nonTunnelConfig => ⟨tunnelConfig, nonTunnelConfig, port⟩

end DnsConfig

def ResolvedDnsConfig.addresses (config : ResolvedDnsConfig) : List IpAddr :=
  config.nonTunnelConfig ++ config.tunnelConfig

inductive DnsState where
  | default
  | custom
  deriving DecidableEq

structure DefaultDnsOptions where
  blockAds : Bool
  blockTrackers : Bool
  blockMalware : Bool
  blockAdultContent : Bool
  blockGambling : Bool
  blockSocialMedia : Bool
  deriving DecidableEq

structure DnsOptions where
  state : DnsState
  defaultOptions : DefaultDnsOptions
  customAddresses : List IpAddr
  deriving DecidableEq

/-- The bits the enabled content blockers set in the last byte of the resolver address. -/
def DefaultDnsOptions.lastByte (options : DefaultDnsOptions) : BitVec 8 :=
  (if options.blockAds then 1 <<< 0 else 0) |||
  (if options.blockTrackers then 1 <<< 1 else 0) |||
  (if options.blockMalware then 1 <<< 2 else 0) |||
  (if options.blockAdultContent then 1 <<< 3 else 0) |||
  (if options.blockGambling then 1 <<< 4 else 0) |||
  (if options.blockSocialMedia then 1 <<< 5 else 0)

def DefaultDnsOptions.blockingResolver (options : DefaultDnsOptions) : IpAddr :=
  .v4 (ipv4Addr 100 64 0 (0 ||| options.lastByte))

/-- The DNS resolvers to use. Private addresses are not tunneled. -/
def addressesFromOptions (options : DnsOptions) : DnsConfig :=
  match options.state with
  | .default =>
    if options.defaultOptions.lastByte ≠ 0 then
      .override [options.defaultOptions.blockingResolver] []
    else
      .default
  | .custom =>
    if options.customAddresses.isEmpty then
      .default
    else
      let (nonTunnelConfig, tunnelConfig) := options.customAddresses.partition isLocalAddress
      .override tunnelConfig nonTunnelConfig

end MullvadVpn.Net
