import MullvadVpn.Relays.Query

/-!
From settings to queries (`relay_selector/mod.rs`): the query that a configuration of the selector
stands for, its restriction to the IP versions that are available, and the queries that successive
connection attempts merge into it.
-/

namespace MullvadVpn.Relays

open Net Systems Intersection LawfulIntersection

structure AdditionalWireguardConstraints where
  daita : Bool
  daitaUseMultihopIfNecessary : Bool
  quantumResistant : QuantumResistantState

structure AdditionalRelayConstraints where
  wireguard : AdditionalWireguardConstraints

structure SelectorConfig where
  relaySettings : RelaySettings
  additionalConstraints : AdditionalRelayConstraints
  customLists : List CustomList
  relayOverrides : List RelayOverride
  obfuscationSettings : ObfuscationSettings
  bridgeState : BridgeState
  bridgeSettings : BridgeSettings

structure NormalSelectorConfig where
  userPreferences : RelayConstraints
  additionalPreferences : AdditionalRelayConstraints
  customLists : List CustomList
  obfuscationSettings : ObfuscationSettings
  bridgeState : BridgeState
  bridgeSettings : BridgeSettings

inductive SpecializedSelectorConfig where
  | normal (config : NormalSelectorConfig)
  | custom (endpoint : CustomTunnelEndpoint)

def SelectorConfig.specialize (config : SelectorConfig) : SpecializedSelectorConfig :=
  match config.relaySettings with
  | .customTunnelEndpoint endpoint => .custom endpoint
  | .normal userPreferences =>
    .normal {
      userPreferences
      additionalPreferences := config.additionalConstraints
      customLists := config.customLists
      obfuscationSettings := config.obfuscationSettings
      bridgeState := config.bridgeState
      bridgeSettings := config.bridgeSettings }

namespace NormalSelectorConfig

variable (config : NormalSelectorConfig)

def wireguardConstraints : WireguardRelayQuery :=
  let constraints := config.userPreferences.wireguardConstraints
  let additional := config.additionalPreferences.wireguard
  { port := constraints.port
    ipVersion := constraints.ipVersion
    allowedIps := constraints.allowedIps
    useMultihop := .only constraints.useMultihop
    entryLocation := constraints.entryLocation
    obfuscation := .ofSettings config.obfuscationSettings
    daita := .only additional.daita
    daitaUseMultihopIfNecessary := .only additional.daitaUseMultihopIfNecessary
    quantumResistant := additional.quantumResistant }

def openvpnConstraints : OpenVpnRelayQuery :=
  { port := config.userPreferences.openvpnConstraints.port
    bridgeSettings :=
      match config.bridgeState, config.bridgeSettings.bridgeType with
      | .on, .normal => .normal config.bridgeSettings.normal
      | .on, .custom => .custom config.bridgeSettings.custom
      | .auto, _ => .auto
      | .off, _ => .off }

/-- The constraints of the configuration as a query, before it is validated. -/
def constraints : RelayQuery :=
  { location := config.userPreferences.location
    providers := config.userPreferences.providers
    ownership := config.userPreferences.ownership
    tunnelProtocol := config.userPreferences.tunnelProtocol
    wireguardConstraints := config.wireguardConstraints
    openvpnConstraints := config.openvpnConstraints }

/-- `RelayQuery::try_from`. -/
def toQuery : Except Error RelayQuery :=
  config.constraints.validate

end NormalSelectorConfig

def availableVersion : IpAvailability → Constraint IpVersion
  | .ipv4 => .only .v4
  | .ipv6 => .only .v6
  | .ipv4AndIpv6 => .any

/-- The query that asks for nothing but an available IP version. -/
def availableQuery (availability : IpAvailability) : WireguardRelayQuery :=
  { WireguardRelayQuery.new with ipVersion := availableVersion availability }

def applyIpAvailability (availability : IpAvailability) (user : RelayQuery) :
    Except Error RelayQuery :=
  if user.tunnelProtocol = .openVpn then .ok user
  else
    match intersection user.wireguardConstraints (availableQuery availability) with
    | some wireguardConstraints => user.setWireguardConstraints wireguardConstraints
    -- The source unwraps the constraint: an intersection fails only if there is one.
    | none => .error (.ipVersionUnavailable (resolveIpVersion user.wireguardConstraints.ipVersion))

/-- A query to which the available IP versions have been applied asks for what it asked for before,
and for nothing that is not available. -/
theorem applyIpAvailability_ok {availability : IpAvailability} {user result : RelayQuery}
    (h : applyIpAvailability availability user = .ok result) :
    result.Honours user ∧ (user.tunnelProtocol = .wireguard →
      Refines result.wireguardConstraints.ipVersion (availableVersion availability)) := by
  unfold applyIpAvailability at h
  split_ifs at h with hopenVpn
  · cases h
    refine ⟨.refl _, fun hwireguard => ?_⟩
    rw [hopenVpn] at hwireguard
    cases hwireguard
  · split at h
    next wireguardConstraints hmerged =>
      have hresult := RelayQuery.eq_of_validate h
      subst hresult
      have havailable : wireguardConstraints.Honours _ := refines_right hmerged
      exact ⟨⟨refl _, refl _, refl _, refl _, refines_left hmerged⟩, fun _ => havailable.ipVersion⟩
    next => cases h

namespace RelayQueryBuilder

def wireguard : RelayQuery :=
  { location := .any
    providers := .any
    ownership := .any
    tunnelProtocol := .wireguard
    wireguardConstraints := .new
    openvpnConstraints := .new }

def openvpn : RelayQuery :=
  { wireguard with tunnelProtocol := .openVpn }

def ipVersion (query : RelayQuery) (version : IpVersion) : RelayQuery :=
  { query with wireguardConstraints :=
    { query.wireguardConstraints with ipVersion := .only version } }

def obfuscation (query : RelayQuery) (obfuscation : ObfuscationQuery) : RelayQuery :=
  { query with wireguardConstraints := { query.wireguardConstraints with obfuscation } }

variable (query : RelayQuery)

def shadowsocks : RelayQuery :=
  obfuscation query (.shadowsocks ⟨.any⟩)

def udp2tcp : RelayQuery :=
  obfuscation query (.udp2tcp ⟨.any⟩)

def quic : RelayQuery :=
  obfuscation query .quic

def lwo : RelayQuery :=
  obfuscation query .lwo

def transportPort (protocol : TransportProtocol) (port : Constraint (BitVec 16)) : RelayQuery :=
  { query with openvpnConstraints :=
    { query.openvpnConstraints with port := .only { protocol, port } } }

/-- Bridges need TCP; a port that was set before is dropped. -/
def bridge : RelayQuery :=
  transportPort { query with openvpnConstraints :=
    { query.openvpnConstraints with bridgeSettings := .normal ⟨.any, .any, .any⟩ } } .tcp .any

end RelayQueryBuilder

open RelayQueryBuilder in
def wireguardRetryOrder : List RelayQuery :=
  [wireguard, ipVersion wireguard .v6, shadowsocks wireguard, quic wireguard, udp2tcp wireguard,
    ipVersion (udp2tcp wireguard) .v6,
    lwo wireguard]

open RelayQueryBuilder in
def openvpnRetryOrder : List RelayQuery :=
  [openvpn, transportPort openvpn .tcp (.only 443), bridge (transportPort openvpn .tcp .any)]

end MullvadVpn.Relays
