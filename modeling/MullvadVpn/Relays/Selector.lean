import MullvadVpn.Relays.UserQuery
import MullvadVpn.Relays.Matcher
import MullvadVpn.Relays.Detailer

/-!
The relay selector (`relay_selector/mod.rs`): from a query to relays, endpoints, obfuscators and
bridges, and from settings and the number of a connection attempt to a query. The assertions of the
source that a relay is of the tunnel type it was picked for are left out: they follow from the filters.
This is the selector of the desktop platforms; on Android it only ever looks for WireGuard relays.
-/

namespace MullvadVpn.Relays

open Net Systems Draw Attempt Intersection

/-- What selection takes from elsewhere: the arithmetic on distances, which are `f64` values in the
source, and whether the selector is built to try all obfuscation methods at once. -/
structure Platform (δ : Type) where
  distanceFrom : Coordinates → Coordinates → δ
  /-- The cast of a distance to an integer. -/
  asUsize : δ → Nat
  /-- The weight `1 + (greatest - distance) as u64` of a bridge. -/
  bridgeWeight : (greatest distance : δ) → BitVec 64
  staggeredObfuscation : Bool

structure SelectedObfuscator where
  config : Obfuscators
  relay : Relay

inductive SelectedBridge where
  | normal (settings : Shadowsocks) (relay : Relay)
  | custom (proxy : CustomProxy)

inductive GetRelay where
  | wireguard (endpoint : MullvadWireguardEndpoint) (obfuscator : Option SelectedObfuscator)
      (inner : WireguardConfig)
  | openVpn (endpoint : Endpoint) (exit : Relay) (bridge : Option SelectedBridge)
  | custom (endpoint : CustomTunnelEndpoint)

variable {δ : Type} [LinearOrder δ] (platform : Platform δ)
variable (query : RelayQuery) (customLists : List CustomList) (list : RelayList)

def getWireguardSinglehopConfig : Draw (Option Relay) := do
  let candidates ← filterMatchingRelayList query list customLists
  pickRandomRelay candidates

/-- The query for exits of a multihop connection: DAITA and obfuscation are for the entry alone. -/
def exitRelayQuery : Except Error RelayQuery :=
  query.setWireguardConstraints { query.wireguardConstraints with daita := .only false, obfuscation := .off }

variable (relays : List Relay) (place : Coordinates) (relay : Relay)

def withDistanceFrom : List (δ × Relay) :=
  relays.map fun relay => (platform.distanceFrom relay.location.coordinates place, relay)

def closestRelays : List Relay :=
  match (withDistanceFrom platform relays place).insertionSort fun a b => a.1 ≤ b.1 with
  | [] => []
  | first :: others => ((first :: others).takeWhile fun relay => relay.1 ≤ first.1).map Prod.snd

/-- An exit that matches the query, and an entry close to it, whatever its location. -/
def getWireguardAutoMultihopConfig : Attempt Error WireguardConfig := do
  let exitQuery ← liftM (exitRelayQuery query)
  let exitCandidates ← liftM (filterMatchingRelayList exitQuery list customLists)
  let exit ← okOr (pickRandomRelay exitCandidates) (.noRelay exitQuery)
  let entryQuery ← liftM (query.setLocation .any)
  let entryCandidates ← liftM (filterMatchingRelayList entryQuery list customLists)
  let entryCandidates := closestRelays platform entryCandidates exit.location.coordinates
  let entry ← okOr (pickRandomRelayExcluding entryCandidates exit) (.noRelay entryQuery)
  return .multihop exit entry

def pickExitThenEntry (exits entries : List Relay) : Draw (Option (Relay × Relay)) := do
  match ← pickRandomRelay exits with
  | none => return none
  | some exit => return (← pickRandomRelayExcluding entries exit).map fun entry => (exit, entry)

/-- An exit and an entry, where the only candidate for one of them is not taken for the other. -/
def pickWorkingEntryExitCombo (exits entries : List Relay) : Draw (Option (Relay × Relay)) :=
  match exits, entries with
  | exits, [entry] =>
    if exits.contains entry then
      return (← pickRandomRelayExcluding exits entry).map fun exit => (exit, entry)
    else pickExitThenEntry exits [entry]
  | [exit], entries =>
    if entries.contains exit then
      return (← pickRandomRelayExcluding entries exit).map fun entry => (exit, entry)
    else pickExitThenEntry [exit] entries
  | exits, entries => pickExitThenEntry exits entries

def getWireguardMultihopConfig : Attempt Error WireguardConfig := do
  let entryQuery ← liftM (query.setLocation query.wireguardConstraints.entryLocation)
  let exitQuery ← liftM (exitRelayQuery query)
  let exitCandidates ← liftM (filterMatchingRelayList exitQuery list customLists)
  let entryCandidates ← liftM (filterMatchingRelayList entryQuery list customLists)
  match ← liftM (pickWorkingEntryExitCombo exitCandidates entryCandidates) with
  | some (exit, entry) => return .multihop exit entry
  | none =>
    -- The preference within countries may have left too few relays.
    let (exit, entry) ← okOr
      (pickWorkingEntryExitCombo (filterMatchingRelayListIncludeAll exitQuery list customLists)
        (filterMatchingRelayListIncludeAll entryQuery list customLists)) (.noRelay query)
    return .multihop exit entry

def getWireguardRelayConfig : Attempt Error WireguardConfig :=
  let automatic := query.usingDaita && query.useMultihopIfNecessary
  if query.singlehop then do
    match ← liftM (getWireguardSinglehopConfig query customLists list) with
    | some exit => return .singlehop exit
    | none =>
      if automatic then getWireguardAutoMultihopConfig platform query customLists list
      else throw (.noRelay query)
  else if automatic then getWireguardAutoMultihopConfig platform query customLists list
  else getWireguardMultihopConfig query customLists list

def getWireguardEndpoint (config : WireguardConfig) : Attempt Error MullvadWireguardEndpoint :=
  mapErr (fun internal => .noEndpoint internal (.wireguard config))
    (wireguardEndpoint query.wireguardConstraints list.wireguard config)

def WireguardConfig.firstHop : WireguardConfig → Relay
  | singlehop exit => exit
  | multihop _ entry => entry

def obfuscatorsFor (endpoint : MullvadWireguardEndpoint) :
    Attempt HelperError (Option Obfuscators) :=
  match query.wireguardConstraints.obfuscation with
  | .off => return none
  | .auto =>
    if platform.staggeredObfuscation then
      some <$> getMultiplexerObfuscator list.wireguard.udp2tcpPorts
        list.wireguard.shadowsocksPortRanges relay endpoint
    else return none
  | .udp2tcp settings => do
    let config ← getUdp2tcpObfuscator settings list.wireguard.udp2tcpPorts endpoint
    return some (.single config)
  | .shadowsocks settings => do
    let config ← getShadowsocksObfuscator settings list.wireguard.shadowsocksPortRanges relay endpoint
    return some (.single config)
  | .quic => do
    let ipVersion := resolveIpVersion query.wireguardConstraints.ipVersion
    let config ← liftM (getQuicObfuscator relay ipVersion)
    return config.map .single
  | .lwo => return (getLwoObfuscator relay endpoint).map .single

def getWireguardObfuscator (config : WireguardConfig) (endpoint : MullvadWireguardEndpoint) :
    Attempt Error (Option SelectedObfuscator) := do
  let obfuscators ← mapErr .noObfuscator (obfuscatorsFor platform query list config.firstHop endpoint)
  return obfuscators.map fun config' => { config := config', relay := config.firstHop }

def getWireguardRelayInner : Attempt Error GetRelay := do
  let inner ← getWireguardRelayConfig platform query customLists list
  let endpoint ← getWireguardEndpoint query list inner
  let obfuscator ← getWireguardObfuscator platform query list inner endpoint
  return .wireguard endpoint obfuscator inner

/-- Number of bridges to keep for selection by distance. -/
def minBridgeCount : Nat := 5

def getProximateBridge : Attempt Error Relay := do
  let bridges := ((withDistanceFrom platform relays place).insertionSort fun a b =>
    platform.asUsize a.1 ≤ platform.asUsize b.1).take minBridgeCount
  match (bridges.map Prod.fst).max? with
  | none => throw .noBridge
  | some greatest =>
    let weight := fun bridge : δ × Relay => platform.bridgeWeight greatest bridge.1
    let bridge ← okOr (pickRandomRelayWeighted weight bridges) .noBridge
    return bridge.2

def getProxySettings (constraints : InternalBridgeConstraints) (place : Option Coordinates) :
    Attempt Error (Shadowsocks × Relay) := do
  let bridges := filterMatchingBridges constraints list.relays customLists
  let bridge ← match place with
    | some place => getProximateBridge platform bridges place
    | none => okOr (pickRandomRelay bridges) .noBridge
  let settings ← okOr (bridgeEndpoint list.bridge bridge) .noBridge
  return (settings, bridge)

def getBridgeFor (bridgeQuery : BridgeQuery) (place : Coordinates)
    (transportProtocol : TransportProtocol) : Attempt Error (Option SelectedBridge) :=
  match bridgeQuery with
  | .normal settings => do
    let constraints :=
      { location := settings.location
        providers := settings.providers
        ownership := settings.ownership
        transportProtocol := .only transportProtocol }
    let (settings, relay) ← getProxySettings platform customLists list constraints (some place)
    return some (.normal settings relay)
  | .custom settings => return settings.map .custom
  | .off | .auto => return none

def getOpenvpnBridge (protocol : TransportProtocol) : Attempt Error (Option SelectedBridge) :=
  let bridgeQuery := query.openvpnConstraints.bridgeSettings
  if bridgeQuery.shouldUseBridge then
    match protocol with
    | .udp => throw .noBridge
    | .tcp => getBridgeFor platform customLists list bridgeQuery relay.location.coordinates .tcp
  else return none

def getOpenvpnEndpoint : Attempt Error Endpoint :=
  mapErr (fun internal => .noEndpoint internal (.openVpn relay))
    (openvpnEndpoint query.openvpnConstraints list.openvpn relay)

def chooseOpenvpnRelay : Draw (Option Relay) := do
  let candidates ← filterMatchingRelayList query list customLists
  pickRandomRelay candidates

def getOpenvpnRelay : Attempt Error GetRelay := do
  let exit ← okOr (chooseOpenvpnRelay query customLists list) (.noRelay query)
  let endpoint ← getOpenvpnEndpoint query list exit
  let bridge ← getOpenvpnBridge platform query customLists list exit endpoint.protocol
  return .openVpn endpoint exit bridge

def getRelayInner : Attempt Error GetRelay :=
  match query.tunnelProtocol with
  | .wireguard => getWireguardRelayInner platform query customLists list
  | .openVpn => getOpenvpnRelay platform query customLists list

/-- The attempts that a retry order stands for: its queries, merged into the user's. -/
def retryAttempts (retryOrder : List RelayQuery) (userQuery : RelayQuery) :
    List (Draw (Option GetRelay)) :=
  (retryOrder.filterMap fun query => intersection query userQuery).map fun query =>
    (getRelayInner platform query customLists list).ok

/-- The successful attempt of the given number, or else what the user's query alone gives. -/
def getRelayByRetryOrder (retryAttempt : Nat) (retryOrder : List RelayQuery)
    (userQuery : RelayQuery) : Draw (Option GetRelay) := do
  let attempts := retryAttempts platform customLists list retryOrder userQuery
  match ← cycleNth attempts retryAttempt attempts with
  | some relay => return some relay
  | none => (getRelayInner platform userQuery customLists list).ok

structure RelaySelector where
  config : SelectorConfig
  parsedRelays : ParsedRelays

namespace RelaySelector

def fromList (config : SelectorConfig) (list : RelayList) : RelaySelector :=
  { config, parsedRelays := .fromRelayList list config.relayOverrides }

def getRelayWithCustomParams (selector : RelaySelector) (retryAttempt : Nat)
    (retryOrder : List RelayQuery) (availability : IpAvailability) : Attempt Error GetRelay :=
  match selector.config.specialize with
  | .custom endpoint => return .custom endpoint
  | .normal config => do
    let userQuery ← liftM config.toQuery
    let userQuery ← liftM (applyIpAvailability availability userQuery)
    okOr (getRelayByRetryOrder platform config.customLists selector.parsedRelays.parsedList
      retryAttempt retryOrder userQuery) (.noRelay userQuery)

def getRelay (selector : RelaySelector) (retryAttempt : Nat) (availability : IpAvailability) :
    Attempt Error GetRelay :=
  match selector.config.specialize with
  | .custom endpoint => return .custom endpoint
  | .normal config =>
    match config.userPreferences.tunnelProtocol with
    | .wireguard =>
      selector.getRelayWithCustomParams platform retryAttempt wireguardRetryOrder availability
    | .openVpn =>
      selector.getRelayWithCustomParams platform retryAttempt openvpnRetryOrder availability

end RelaySelector

end MullvadVpn.Relays
