import MullvadVpn.Net.DnsConfig
import MullvadVpn.Net.TunnelParameters

/-!
The firewall policies of `talpid_core::firewall` and the accessors every backend uses. Fields that
exist on one platform only are optional and empty elsewhere: `exitEndpointIp` on Windows,
`redirectInterface` on macOS.
-/

namespace MullvadVpn.Firewall

open Net

inductive FirewallPolicy where
  /-- Allow traffic only to the server. -/
  | connecting (peerEndpoints : List AllowedEndpoint) (exitEndpointIp : Option IpAddr)
      (tunnel : Option TunnelMetadata) (allowLan : Bool) (allowedEndpoint : AllowedEndpoint)
      (allowedTunnelTraffic : AllowedTunnelTraffic) (redirectInterface : Option String)
  /-- Allow traffic only to the server and over the tunnel interface. -/
  | connected (peerEndpoints : List AllowedEndpoint) (exitEndpointIp : Option IpAddr)
      (tunnel : TunnelMetadata) (allowLan : Bool) (dnsConfig : ResolvedDnsConfig)
      (redirectInterface : Option String)
  /-- Block all network traffic. -/
  | blocked (allowLan : Bool) (allowedEndpoint : Option AllowedEndpoint)
  deriving DecidableEq

namespace FirewallPolicy

def peerEndpoints : FirewallPolicy → Option (List AllowedEndpoint)
  | connecting peerEndpoints _ _ _ _ _ _ => some peerEndpoints
  | connected peerEndpoints _ _ _ _ _ => some peerEndpoints
  | blocked _ _ => none

def allowedEndpoint : FirewallPolicy → Option AllowedEndpoint
  | connecting _ _ _ _ allowedEndpoint _ _ => some allowedEndpoint
  | connected _ _ _ _ _ _ => none
  | blocked _ allowedEndpoint => allowedEndpoint

def tunnel : FirewallPolicy → Option TunnelMetadata
  | connecting _ _ tunnel _ _ _ _ => tunnel
  | connected _ _ tunnel _ _ _ => some tunnel
  | blocked _ _ => none

def allowedTunnelTraffic : FirewallPolicy → AllowedTunnelTraffic
  | connecting _ _ _ _ _ allowedTunnelTraffic _ => allowedTunnelTraffic
  | connected _ _ _ _ _ _ => .all
  | blocked _ _ => .none

def allowLan : FirewallPolicy → Bool
  | connecting _ _ _ allowLan _ _ _ => allowLan
  | connected _ _ _ allowLan _ _ => allowLan
  | blocked allowLan _ => allowLan

/-- The DNS servers a connected policy lets through. -/
def dnsConfig : FirewallPolicy → Option ResolvedDnsConfig
  | connected _ _ _ _ dnsConfig _ => some dnsConfig
  | _ => none

def isConnecting : FirewallPolicy → Bool
  | connecting _ _ _ _ _ _ _ => true
  | _ => false

def isConnected : FirewallPolicy → Bool
  | connected _ _ _ _ _ _ => true
  | _ => false

def isBlocked : FirewallPolicy → Bool
  | blocked _ _ => true
  | _ => false

end FirewallPolicy

end MullvadVpn.Firewall
