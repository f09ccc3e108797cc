import MullvadVpn.Relays.Helpers

/-!
Endpoints for the relays that have been picked (`relay_selector/detailer.rs`): the peers of a WireGuard
connection, the endpoint of an OpenVPN connection and the proxy of a bridge.
-/

namespace MullvadVpn.Relays

open Net Systems Draw Attempt

variable (query : WireguardRelayQuery) (data : WireguardEndpointData)
  (portConstraint : Constraint TransportPort) (relay : Relay)

def getPublicKey : Except DetailerError PublicKey :=
  match relay.endpointData with
  | .wireguard data => .ok data.publicKey
  | .openvpn | .bridge => .error .missingPublicKey

def getAddressForWireguardRelay : Except DetailerError IpAddr :=
  match resolveIpVersion query.ipVersion with
  | .v4 => .ok (.v4 relay.ipv4AddrIn)
  | .v6 =>
    match relay.ipv6AddrIn with
    | some addr => .ok (.v6 addr)
    | none => .error (.noIPv6 relay)

def getPortForWireguardRelay : Attempt DetailerError (BitVec 16) :=
  mapErr (fun _ => .portSelectionError) (desiredOrRandomPortFromRange data.portRanges query.port)

/-- What the last peer of a connection may route: the networks the user has chosen, or all. -/
def exitAllowedIps : List IpNetwork :=
  AllowedIps.resolveFromConstraint query.allowedIps (some data.ipv4Gateway) (some data.ipv6Gateway)

def wireguardSinglehopEndpoint (exit : Relay) : Attempt DetailerError MullvadWireguardEndpoint := do
  let host ← liftM (getAddressForWireguardRelay query exit)
  let port ← getPortForWireguardRelay query data
  let publicKey ← liftM (getPublicKey exit)
  return {
    peer := { publicKey, endpoint := ⟨host, port⟩, allowedIps := exitAllowedIps query data }
    exitPeer := none
    ipv4Gateway := data.ipv4Gateway
    ipv6Gateway := data.ipv6Gateway }

/-- The port on which exit relays accept connections from entry relays. -/
def wireguardExitPort : BitVec 16 := 51820

/-- The entry peer may route nothing but traffic to the exit peer. -/
def wireguardMultihopEndpoint (exit entry : Relay) : Attempt DetailerError MullvadWireguardEndpoint := do
  let exitEndpoint := ⟨.v4 exit.ipv4AddrIn, wireguardExitPort⟩
  let exitPublicKey ← liftM (getPublicKey exit)
  let exitPeer :=
    { publicKey := exitPublicKey, endpoint := exitEndpoint, allowedIps := exitAllowedIps query data }
  let host ← liftM (getAddressForWireguardRelay query entry)
  let port ← getPortForWireguardRelay query data
  let entryPublicKey ← liftM (getPublicKey entry)
  return {
    peer :=
      { publicKey := entryPublicKey
        endpoint := ⟨host, port⟩
        allowedIps := [.ofIpAddr exitPeer.endpoint.ip] }
    exitPeer := some exitPeer
    ipv4Gateway := data.ipv4Gateway
    ipv6Gateway := data.ipv6Gateway }

def wireguardEndpoint (config : WireguardConfig) : Attempt DetailerError MullvadWireguardEndpoint :=
  match config with
  | .singlehop exit => wireguardSinglehopEndpoint query data exit
  | .multihop exit entry => wireguardMultihopEndpoint query data exit entry

def Relay.HasKey (key : PublicKey) : Prop :=
  relay.wireguard.map WireguardRelayEndpointData.publicKey = some key

def Relay.HasAddress : IpAddr → Prop
  | .v4 bits => relay.ipv4AddrIn = bits
  | .v6 bits => relay.ipv6AddrIn = some bits

/-- The peer is the relay, addressed as the query asks for. -/
structure IsFirstHop (query : WireguardRelayQuery) (relay : Relay) (peer : PeerConfig) : Prop where
  publicKey : relay.HasKey peer.publicKey
  address : relay.HasAddress peer.endpoint.ip
  version : peer.endpoint.ip.version = resolveIpVersion query.ipVersion
  port : query.port.satisfiedBy (fun port => port == peer.endpoint.port) = true

theorem hasKey_of_getPublicKey {relay : Relay} {key : PublicKey} (h : getPublicKey relay = .ok key) :
    relay.HasKey key := by
  unfold getPublicKey at h
  unfold Relay.HasKey Relay.wireguard
  cases hdata : relay.endpointData with
  | wireguard data =>
    rw [hdata] at h
    cases h
    rfl
  | openvpn | bridge =>
    rw [hdata] at h
    cases h

theorem hasAddress_of_getAddress {query : WireguardRelayQuery} {relay : Relay} {ip : IpAddr}
    (h : getAddressForWireguardRelay query relay = .ok ip) :
    relay.HasAddress ip ∧ ip.version = resolveIpVersion query.ipVersion := by
  unfold getAddressForWireguardRelay at h
  cases hversion : resolveIpVersion query.ipVersion with
  | v4 =>
    rw [hversion] at h
    cases h
    exact ⟨rfl, rfl⟩
  | v6 =>
    cases haddr : relay.ipv6AddrIn with
    | none =>
      rw [hversion, haddr] at h
      cases h
    | some addr =>
      rw [hversion, haddr] at h
      cases h
      exact ⟨haddr, rfl⟩

/-- The endpoint leads to the relays of the configuration, the first hop being addressed as the query
asks for. -/
inductive LeadsTo (query : WireguardRelayQuery) (endpoint : MullvadWireguardEndpoint) :
    WireguardConfig → Prop
  | singlehop {exit} (hfirst : IsFirstHop query exit endpoint.peer)
      (hexit : endpoint.exitPeer = none) : LeadsTo query endpoint (.singlehop exit)
  | multihop {exit entry exitPeer}
      (hfirst : IsFirstHop query entry endpoint.peer) (hexit : endpoint.exitPeer = some exitPeer)
      (hkey : exit.HasKey exitPeer.publicKey) (haddress : exit.HasAddress exitPeer.endpoint.ip)
      (hallowed : endpoint.peer.allowedIps = [.ofIpAddr exitPeer.endpoint.ip]) :
      LeadsTo query endpoint (.multihop exit entry)

def compatibleOpenvpnPortCombo (endpoint : OpenVpnEndpoint) : Bool :=
  match portConstraint with
  | .any => true
  | .only transportPort =>
    match transportPort.port with
    | .any => transportPort.protocol == endpoint.protocol
    | .only port => port == endpoint.port && transportPort.protocol == endpoint.protocol

/-- One of the given ports, on the exit relay. -/
def chooseOpenvpnEndpoint (ports : List OpenVpnEndpoint) (exit : Relay) (error : DetailerError) :
    Attempt DetailerError Endpoint := do
  let endpoint ← okOr (choose ports) error
  return { address := ⟨.v4 exit.ipv4AddrIn, endpoint.port⟩, protocol := endpoint.protocol }

def openvpnSinglehopEndpoint (data : OpenVpnEndpointData) (exit : Relay) : Attempt DetailerError Endpoint :=
  chooseOpenvpnEndpoint (data.ports.filter (compatibleOpenvpnPortCombo portConstraint)) exit .noOpenVpnEndpoint

/-- Bridges can be used over TCP only. -/
def openvpnBridgeEndpoint (data : OpenVpnEndpointData) (exit : Relay) : Attempt DetailerError Endpoint :=
  chooseOpenvpnEndpoint ((data.ports.filter fun endpoint => endpoint.protocol == .tcp).filter
      (compatibleOpenvpnPortCombo portConstraint)) exit .noBridgeEndpoint

def openvpnEndpoint (query : OpenVpnRelayQuery) (data : OpenVpnEndpointData) (relay : Relay) :
    Attempt DetailerError Endpoint :=
  if query.bridgeSettings.shouldUseBridge then openvpnBridgeEndpoint query.port data relay
  else openvpnSinglehopEndpoint query.port data relay

def bridgeEndpoint (data : BridgeEndpointData) (relay : Relay) : Draw (Option Shadowsocks) :=
  if relay.endpointData = .bridge then do
    let shadowsocks ← choose data.shadowsocks
    return shadowsocks.map fun shadowsocks => shadowsocks.toProxySettings (.v4 relay.ipv4AddrIn)
  else return none

end MullvadVpn.Relays
