import MullvadVpn.Net.Address

/-!
What a tunnel is started with (`talpid_types::net::TunnelParameters`), the endpoints it connects to
and the tunnel endpoint that state transitions announce. Credentials, MTUs and interface addresses
are left out: nothing modelled here reads them.
-/

namespace MullvadVpn.Net

inductive TunnelType where
  | openVpn
  | wireguard
  deriving DecidableEq

inductive ProxyType where
  | shadowsocks
  | custom
  deriving DecidableEq

structure ProxyEndpoint where
  endpoint : Endpoint
  proxyType : ProxyType
  deriving DecidableEq

structure Socks5Local where
  remoteEndpoint : Endpoint
  localPort : BitVec 16
  deriving DecidableEq

inductive CustomProxy where
  | shadowsocks (endpoint : SocketAddr)
  | socks5Local (settings : Socks5Local)
  | socks5Remote (endpoint : SocketAddr)
  deriving DecidableEq

def CustomProxy.getRemoteEndpoint : CustomProxy → ProxyEndpoint
  | socks5Local settings => ⟨settings.remoteEndpoint, .custom⟩
  | socks5Remote endpoint => ⟨⟨endpoint, .tcp⟩, .custom⟩
  | shadowsocks endpoint => ⟨⟨endpoint, .tcp⟩, .shadowsocks⟩

inductive ObfuscatorConfig where
  | udp2Tcp (endpoint : SocketAddr)
  | shadowsocks (endpoint : SocketAddr)
  | quic (hostname : String) (endpoint : SocketAddr) (authToken : String)
  | lwo (endpoint : SocketAddr)
  deriving DecidableEq

inductive ObfuscationType where
  | udp2Tcp
  | shadowsocks
  | quic
  | lwo
  deriving DecidableEq

namespace ObfuscatorConfig

/-- The first remote hop that will be connected to. -/
def endpoint : ObfuscatorConfig → Endpoint
  | udp2Tcp endpoint => ⟨endpoint, .tcp⟩
  | shadowsocks endpoint => ⟨endpoint, .udp⟩
  | quic _ endpoint _ => ⟨endpoint, .udp⟩
  | lwo endpoint => ⟨endpoint, .udp⟩

def obfuscationType : ObfuscatorConfig → ObfuscationType
  | udp2Tcp _ => .udp2Tcp
  | shadowsocks _ => .shadowsocks
  | quic _ _ _ => .quic
  | lwo _ => .lwo

end ObfuscatorConfig

inductive Obfuscators where
  | single (config : ObfuscatorConfig)
  | multiplexer (direct : Option SocketAddr) (first : ObfuscatorConfig) (remaining : List ObfuscatorConfig)
  deriving DecidableEq

def Obfuscators.endpoints : Obfuscators → List Endpoint
  | single config => [config.endpoint]
  | multiplexer direct first remaining =>
    Endpoint.sortDedup ((direct.toList.map fun address => ⟨address, .udp⟩) ++
      first.endpoint :: remaining.map ObfuscatorConfig.endpoint)

structure ObfuscationEndpoint where
  endpoint : Endpoint
  obfuscationType : ObfuscationType
  deriving DecidableEq

def ObfuscationEndpoint.ofConfig (config : ObfuscatorConfig) : ObfuscationEndpoint :=
  ⟨config.endpoint, config.obfuscationType⟩

inductive ObfuscationInfo where
  | single (obfuscation : ObfuscationEndpoint)
  | multiplexer (direct : Option Endpoint) (obfuscators : List ObfuscationEndpoint)
  deriving DecidableEq

def ObfuscationInfo.ofObfuscators : Obfuscators → ObfuscationInfo
  | .single config => single (.ofConfig config)
  | .multiplexer direct first remaining =>
    multiplexer (direct.map fun address => ⟨address, .udp⟩)
      ((first :: remaining).map ObfuscationEndpoint.ofConfig)

structure PublicKey where
  bytes : BitVec 256
  deriving DecidableEq

structure PeerConfig where
  publicKey : PublicKey
  allowedIps : List IpNetwork
  endpoint : SocketAddr
  deriving DecidableEq

/-- `wireguard::TunnelParameters`. -/
structure WireguardParameters where
  peer : PeerConfig
  exitPeer : Option PeerConfig
  quantumResistant : Bool
  daita : Bool
  obfuscation : Option Obfuscators
  deriving DecidableEq

namespace WireguardParameters

variable (params : WireguardParameters)

def getEndpoint : Endpoint :=
  ⟨params.peer.endpoint, .udp⟩

def getExitEndpoint : Option Endpoint :=
  params.exitPeer.map fun peer => ⟨peer.endpoint, .udp⟩

def getNextHopEndpoints : List Endpoint :=
  (params.obfuscation.map Obfuscators.endpoints).getD [params.getEndpoint]

end WireguardParameters

/-- `openvpn::TunnelParameters`. -/
structure OpenVpnParameters where
  endpoint : Endpoint
  proxy : Option CustomProxy
  deriving DecidableEq

inductive TunnelParameters where
  | openVpn (params : OpenVpnParameters)
  | wireguard (params : WireguardParameters)
  deriving DecidableEq

/-- What the connecting and connected states announce. -/
structure TunnelEndpoint where
  endpoint : Endpoint
  tunnelType : TunnelType
  quantumResistant : Bool
  proxy : Option ProxyEndpoint
  obfuscation : Option ObfuscationInfo
  entryEndpoint : Option Endpoint
  tunnelInterface : Option String
  daita : Bool
  deriving DecidableEq

namespace TunnelParameters

def getTunnelEndpoint : TunnelParameters → TunnelEndpoint
  | openVpn params =>
    { endpoint := params.endpoint
      tunnelType := .openVpn
      quantumResistant := false
      proxy := params.proxy.map CustomProxy.getRemoteEndpoint
      obfuscation := none
      entryEndpoint := none
      tunnelInterface := none
      daita := false }
  | wireguard params =>
    { endpoint := params.getExitEndpoint.getD params.getEndpoint
      tunnelType := .wireguard
      quantumResistant := params.quantumResistant
      proxy := none
      obfuscation := params.obfuscation.map ObfuscationInfo.ofObfuscators
      entryEndpoint := params.getExitEndpoint.map fun _ => params.getEndpoint
      tunnelInterface := none
      daita := params.daita }

def getNextHopEndpoints : TunnelParameters → List Endpoint
  | openVpn params =>
    (params.proxy.map fun proxy => [proxy.getRemoteEndpoint.endpoint]).getD [params.endpoint]
  | wireguard params => params.getNextHopEndpoints

/-- The exit endpoint, if it differs from the next hop. -/
def getExitHopEndpoint : TunnelParameters → Option Endpoint
  | openVpn _ => none
  | wireguard params => params.getExitEndpoint

def getOpenvpnLocalProxySettings : TunnelParameters → Option Socks5Local
  | openVpn ⟨_, some (.socks5Local settings)⟩ => some settings
  | _ => none

end TunnelParameters

structure TunnelMetadata where
  interface : String
  ips : List IpAddr
  ipv4Gateway : BitVec 32
  ipv6Gateway : Option (BitVec 128)
  deriving DecidableEq

def TunnelMetadata.gateways (metadata : TunnelMetadata) : List IpAddr :=
  .v4 metadata.ipv4Gateway :: (metadata.ipv6Gateway.toList.map .v6)

inductive IpAvailability where
  | ipv4
  | ipv6
  | ipv4AndIpv6
  deriving DecidableEq

namespace IpAvailability

def hasIpv4 : IpAvailability → Bool
  | ipv4 | ipv4AndIpv6 => true
  | ipv6 => false

def hasIpv6 : IpAvailability → Bool
  | ipv6 | ipv4AndIpv6 => true
  | ipv4 => false

end IpAvailability

inductive Connectivity where
  | offline
  | presumeOnline
  | online (availability : IpAvailability)
  deriving DecidableEq

namespace Connectivity

def isOffline (connectivity : Connectivity) : Bool :=
  connectivity == .offline

/-- Unknown connectivity counts as IPv4 only. -/
def availability : Connectivity → Option IpAvailability
  | online availability => some availability
  | presumeOnline => some .ipv4
  | offline => none

def hasFamily (connectivity : Connectivity) : IpVersion → Bool
  | .v4 => (connectivity.availability.map IpAvailability.hasIpv4).getD false
  | .v6 => (connectivity.availability.map IpAvailability.hasIpv6).getD false

end Connectivity

end MullvadVpn.Net
