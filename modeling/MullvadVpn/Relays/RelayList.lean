import MullvadVpn.Net.TunnelParameters

/-!
The relay list (`mullvad_types::relay_list`) and what the selector makes of a list it is given: every
relay gets the location of the city it is listed in, and the overrides of the user replace addresses.
Display names and the entity tag of the list are left out: selection does not read them. Sets of
addresses are lists here, since only membership and a random choice are asked of them.
-/

namespace MullvadVpn.Relays

open Net

/-- A point on the map. The coordinates are `f64` values, given by their bits: they are compared and
computed with only to tell distances. -/
structure Coordinates where
  latitude : BitVec 64
  longitude : BitVec 64

structure Location where
  countryCode : String
  cityCode : String
  coordinates : Coordinates

/-- Where the masque proxy of a relay is reached. -/
structure Quic where
  addrIn : List IpAddr
  token : String
  domain : String
  deriving DecidableEq

namespace Quic

def inIpv4 (quic : Quic) : List IpAddr :=
  quic.addrIn.filter IpAddr.isIpv4

def inIpv6 (quic : Quic) : List IpAddr :=
  quic.addrIn.filter IpAddr.isIpv6

def port : BitVec 16 := 443

end Quic

structure WireguardRelayEndpointData where
  publicKey : PublicKey
  daita : Bool
  quic : Option Quic
  lwo : Bool
  shadowsocksExtraAddrIn : List IpAddr
  deriving DecidableEq

inductive RelayEndpointData where
  | openvpn
  | bridge
  | wireguard (data : WireguardRelayEndpointData)
  deriving DecidableEq

structure Relay where
  hostname : String
  ipv4AddrIn : BitVec 32
  ipv6AddrIn : Option (BitVec 128)
  includeInCountry : Bool
  active : Bool
  owned : Bool
  provider : String
  weight : BitVec 64
  endpointData : RelayEndpointData
  location : Location

/-- Relays are told apart by their hostnames alone. -/
instance : BEq Relay where
  beq a b := a.hostname == b.hostname

namespace Relay

theorem beq_iff {a b : Relay} : (a == b) = true ↔ a.hostname = b.hostname := by
  change (a.hostname == b.hostname) = true ↔ _
  exact beq_iff_eq

def wireguard (relay : Relay) : Option WireguardRelayEndpointData :=
  match relay.endpointData with
  | .wireguard data => some data
  | .openvpn | .bridge => none

theorem endpointData_of_wireguard {relay : Relay} {data : WireguardRelayEndpointData}
    (h : relay.wireguard = some data) : relay.endpointData = .wireguard data := by
  unfold wireguard at h
  cases hdata : relay.endpointData with
  | wireguard data' =>
    rw [hdata] at h
    cases h
    rfl
  | openvpn | bridge =>
    rw [hdata] at h
    cases h

def isWireguard (relay : Relay) : Bool :=
  relay.wireguard.isSome

def isOpenvpn (relay : Relay) : Bool :=
  relay.endpointData == .openvpn

end Relay

/-- `RangeInclusive<u16>`. -/
structure PortRange where
  first : BitVec 16
  last : BitVec 16

namespace PortRange

def contains (range : PortRange) (port : BitVec 16) : Bool :=
  range.first ≤ port && port ≤ range.last

def ports (range : PortRange) : List (BitVec 16) :=
  (List.range' range.first.toNat (range.last.toNat + 1 - range.first.toNat)).map (BitVec.ofNat 16)

end PortRange

/-- What all WireGuard relays share. -/
structure WireguardEndpointData where
  portRanges : List PortRange
  ipv4Gateway : BitVec 32
  ipv6Gateway : BitVec 128
  shadowsocksPortRanges : List PortRange
  udp2tcpPorts : List (BitVec 16)

structure OpenVpnEndpoint where
  port : BitVec 16
  protocol : TransportProtocol

structure OpenVpnEndpointData where
  ports : List OpenVpnEndpoint

structure Shadowsocks where
  endpoint : SocketAddr
  password : String
  cipher : String

structure ShadowsocksEndpointData where
  port : BitVec 16
  cipher : String
  password : String
  protocol : TransportProtocol

def ShadowsocksEndpointData.toProxySettings (data : ShadowsocksEndpointData) (addr : IpAddr) :
    Shadowsocks :=
  { endpoint := ⟨addr, data.port⟩, password := data.password, cipher := data.cipher }

structure BridgeEndpointData where
  shadowsocks : List ShadowsocksEndpointData

structure RelayListCity where
  code : String
  coordinates : Coordinates
  relays : List Relay

structure RelayListCountry where
  code : String
  cities : List RelayListCity

structure RelayList where
  countries : List RelayListCountry
  openvpn : OpenVpnEndpointData
  bridge : BridgeEndpointData
  wireguard : WireguardEndpointData

def RelayList.relays (list : RelayList) : List Relay :=
  (list.countries.flatMap RelayListCountry.cities).flatMap RelayListCity.relays

/-- Addresses to use for a relay instead of the listed ones. -/
structure RelayOverride where
  hostname : String
  ipv4AddrIn : Option (BitVec 32)
  ipv6AddrIn : Option (BitVec 128)
  deriving DecidableEq

namespace RelayOverride

def empty (hostname : String) : RelayOverride := ⟨hostname, none, none⟩

variable (override : RelayOverride)

def isEmpty : Bool := override == empty override.hostname

/-- Whether an additional address is kept: only those of a family that is not overridden are. -/
def keepsExtra (addr : IpAddr) : Bool :=
  (override.ipv4AddrIn.isNone && addr.isIpv4) || (override.ipv6AddrIn.isNone && addr.isIpv6)

def applyToRelay (relay : Relay) : Relay :=
  { relay with
    ipv4AddrIn := override.ipv4AddrIn.getD relay.ipv4AddrIn
    ipv6AddrIn := override.ipv6AddrIn.or relay.ipv6AddrIn
    endpointData :=
      match relay.endpointData with
      | .wireguard data =>
        .wireguard { data with
          shadowsocksExtraAddrIn := data.shadowsocksExtraAddrIn.filter override.keepsExtra }
      | other => other }

/-- Insertion into the map from hostnames to overrides: a later override replaces an earlier one. -/
def insert (remaining : List RelayOverride) (override : RelayOverride) : List RelayOverride :=
  override :: remaining.filter fun other => other.hostname != override.hostname

end RelayOverride

/-- The TCP ports of the UDP-over-TCP obfuscation, for lists that come without any. -/
def udp2tcpPorts : List (BitVec 16) := [80, 5001]

/-- One relay of the list: it gets its location, and the override for its hostname if that has not
been used up by an earlier relay of the same name. -/
def parseRelay (location : Location) (relay : Relay) : StateM (List RelayOverride) Relay := do
  let remaining ← get
  let relay := { relay with location }
  match remaining.find? fun override => override.hostname == relay.hostname with
  | some override =>
    set (remaining.filter fun other => other.hostname != relay.hostname)
    return override.applyToRelay relay
  | none => return relay

def parseCity (countryCode : String) (city : RelayListCity) :
    StateM (List RelayOverride) RelayListCity := do
  let location := { countryCode, cityCode := city.code, coordinates := city.coordinates }
  return { city with relays := ← city.relays.mapM (parseRelay location) }

def parseCountry (country : RelayListCountry) : StateM (List RelayOverride) RelayListCountry := do
  return { country with cities := ← country.cities.mapM (parseCity country.code) }

/-- The list with locations and overrides filled in. -/
def parseRelayList (list : RelayList) (overrides : List RelayOverride) : RelayList :=
  { list with
    countries := (list.countries.mapM parseCountry).run' (overrides.foldl RelayOverride.insert [])
    wireguard := { list.wireguard with
      udp2tcpPorts :=
        if list.wireguard.udp2tcpPorts.isEmpty then udp2tcpPorts
        else list.wireguard.udp2tcpPorts } }

/-- The list as it was received, and as it is used. -/
structure ParsedRelays where
  parsedList : RelayList
  originalList : RelayList
  overrides : List RelayOverride

def ParsedRelays.fromRelayList (list : RelayList) (overrides : List RelayOverride) : ParsedRelays :=
  { parsedList := parseRelayList list overrides, originalList := list, overrides }

end MullvadVpn.Relays
