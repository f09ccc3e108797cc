import MullvadVpn.Relays.Preferences

/-!
Whether a requested bridge is used. A search for OpenVPN relays that has to use a bridge gives a TCP
endpoint and either a bridge of the list that is what the query asks for or the user's own proxy. The
exception is a query for a custom bridge that has not been configured: it counts as a query that has
to use a bridge, and the search succeeds without one. The transport protocol that bridges are asked for
is looked at nowhere.
-/

namespace MullvadVpn.Relays

open Net Systems Draw Attempt List Sample

section Search

variable {δ : Type} [LinearOrder δ] (platform : Platform δ)
variable (query : RelayQuery) (customLists : List CustomList) (list : RelayList)

inductive IsBridgeFor : BridgeQuery → SelectedBridge → Prop
  | normal {constraints settings relay}
      (hmem : relay ∈ list.relays) (hbridge : relay.endpointData = .bridge)
      (hactive : relay.active = true)
      (hlocation : filterOnLocation (resolveLocation constraints.location customLists) relay = true)
      (hproviders : filterOnProviders constraints.providers relay = true)
      (hownership : filterOnOwnership constraints.ownership relay = true) :
      IsBridgeFor (.normal constraints) (.normal settings relay)
  | custom {proxy} : IsBridgeFor (.custom (some proxy)) (.custom proxy)

/-- The connection goes through a bridge that is what the query asks for. -/
def UsesBridge : GetRelay → Prop
  | .openVpn endpoint _ bridge => endpoint.protocol = .tcp ∧ ∃ selected, bridge = some selected ∧
        IsBridgeFor customLists list query.openvpnConstraints.bridgeSettings selected
  | .wireguard _ _ _ | .custom _ => False

/-- The user's own bridge is asked for, there is none, and nothing else keeps the search from
succeeding. -/
structure BridgeMissing : Prop where
  custom : query.openvpnConstraints.bridgeSettings = .custom none
  relay : ∃ relay, Matches query list customLists relay
  port : ∃ endpoint ∈ list.openvpn.ports, endpoint.protocol = .tcp ∧
    compatibleOpenvpnPortCombo query.openvpnConstraints.port endpoint = true

variable {platform query customLists list}

theorem exact_openvpnEndpoint (hbridge : query.openvpnConstraints.bridgeSettings.shouldUseBridge = true)
    (relay : Relay) :
    Exact (openvpnEndpoint query.openvpnConstraints list.openvpn relay)
      (fun endpoint => ∃ offered, (offered ∈ list.openvpn.ports ∧ offered.protocol = .tcp ∧
          compatibleOpenvpnPortCombo query.openvpnConstraints.port offered = true) ∧
        endpoint = { address := ⟨.v4 relay.ipv4AddrIn, offered.port⟩, protocol := offered.protocol })
      (¬ ∃ offered ∈ list.openvpn.ports, offered.protocol = .tcp ∧
        compatibleOpenvpnPortCombo query.openvpnConstraints.port offered = true) := by
  unfold openvpnEndpoint
  rw [if_pos hbridge]
  exact .congr ((exact_okOr _ (outcomes_choose _)).bind fun offered _ => exact_pure _)
    (fun endpoint => by simp only [IsChoice, mem_filter, beq_iff_eq, and_assoc])
    (by simp only [IsChoice, eq_nil_iff_forall_not_mem, mem_filter, beq_iff_eq, and_assoc,
      not_exists, and_false, exists_false, or_false])

/-- A bridge near a place is one of the candidates, and some are found if there are any. -/
theorem exists_exact_getProximateBridge (platform : Platform δ) (bridges : List Relay)
    (place : Coordinates) :
    ∃ P, Exact (getProximateBridge platform bridges place) P (bridges = []) ∧
      ∀ relay, P relay → relay ∈ bridges := by
  unfold getProximateBridge
  dsimp only
  generalize hclosest : take minBridgeCount _ = closest
  have hmem : ∀ bridge ∈ closest, bridge.2 ∈ bridges := by
    intro bridge hbridge
    rw [← hclosest] at hbridge
    have hbridge := mem_of_mem_take hbridge
    rw [mem_insertionSort] at hbridge
    obtain ⟨relay, hrelay, rfl⟩ := mem_map.mp hbridge
    exact hrelay
  have hempty : closest = [] ↔ bridges = [] := by
    have hlength := congrArg length hclosest
    rw [length_take, length_insertionSort, withDistanceFrom, length_map, minBridgeCount] at hlength
    rw [← length_eq_zero_iff, ← length_eq_zero_iff]
    omega
  split
  next hnone =>
    have hnil := map_eq_nil_iff.mp (max?_eq_none_iff.mp hnone)
    exact ⟨_, (exact_throw _).congr (fun _ => .rfl) (iff_of_true trivial (hempty.mp hnil)), fun _ => False.elim⟩
  next greatest _ =>
    refine ⟨_, .congr ((exact_okOr _ (outcomes_pickRandomRelayWeighted _ closest)).bind
      fun bridge _ => exact_pure _) (fun _ => .rfl) (by simpa [MaySpin] using hempty), ?_⟩
    rintro relay ⟨bridge, hbridge, rfl⟩
    exact hmem bridge (mem_of_maySpin _ hbridge)

theorem isBridgeFor_of_mem {constraints settings}
    {relay} (h : relay ∈ filterMatchingBridges constraints list.relays customLists) :
    IsBridgeFor customLists list (.normal ⟨constraints.location, constraints.providers, constraints.ownership⟩)
      (.normal settings relay) := by
  simp only [filterMatchingBridges, mem_filter, filterOnActive, filterBridge] at h
  obtain ⟨⟨⟨⟨⟨hmem, hactive⟩, hbridge⟩, hlocation⟩, hownership⟩, hproviders⟩ := h
  exact .normal hmem (beq_iff_eq.mp hbridge) hactive hlocation hproviders hownership

variable (platform) in
/-- The first step of `getProxySettings`: a bridge near the place, if one is given. -/
def pickBridge (bridges : List Relay) (place : Option Coordinates) : Attempt Error Relay :=
  match place with
  | some place => getProximateBridge platform bridges place
  | none => okOr (pickRandomRelay bridges) .noBridge

theorem getProxySettings_eq (constraints : InternalBridgeConstraints) (place : Option Coordinates) :
    getProxySettings platform customLists list constraints place = do
      let bridge ← pickBridge platform (filterMatchingBridges constraints list.relays customLists) place
      let settings ← okOr (bridgeEndpoint list.bridge bridge) .noBridge
      return (settings, bridge) := by
  cases place <;> rfl

theorem exists_exact_pickBridge (platform : Platform δ) (bridges : List Relay)
    (place : Option Coordinates) :
    ∃ P, Exact (pickBridge platform bridges place) P (bridges = []) ∧ ∀ relay, P relay → relay ∈ bridges := by
  cases place with
  | some place => exact exists_exact_getProximateBridge platform bridges place
  | none => exact ⟨_, exact_okOr _ (outcomes_pickRandomRelay bridges), fun _ => mem_of_mayPick⟩

theorem returns_getBridgeFor {bridgeQuery} (place : Coordinates)
    (protocol : TransportProtocol) (hbridge : bridgeQuery.shouldUseBridge = true)
    (hconfigured : bridgeQuery ≠ .custom none) :
    Returns (getBridgeFor platform customLists list bridgeQuery place protocol) fun bridge =>
      ∃ selected, bridge = some selected ∧ IsBridgeFor customLists list bridgeQuery selected := by
  cases bridgeQuery with
  | off | auto => cases hbridge
  | custom proxy =>
    cases proxy with
    | none => exact absurd rfl hconfigured
    | some proxy => exact returns_pure ⟨_, rfl, .custom⟩
  | normal constraints =>
    refine .bind ?_ fun proxy hproxy => returns_pure ⟨_, rfl, hproxy⟩
    obtain ⟨P, hpick, hmem⟩ := exists_exact_getProximateBridge platform
      (filterMatchingBridges ⟨constraints.location, constraints.providers, constraints.ownership,
        .only protocol⟩ list.relays customLists) place
    refine hpick.returns.bind fun relay hrelay => ?_
    exact (returns_true _).bind fun settings _ => returns_pure (isBridgeFor_of_mem (hmem relay hrelay))

theorem returns_getOpenvpnRelay (hbridge : query.openvpnConstraints.bridgeSettings.shouldUseBridge = true)
    (hpresent : ¬ BridgeMissing query customLists list) :
    Returns (getOpenvpnRelay platform query customLists list) (UsesBridge query customLists list) := by
  refine (exact_okOr _ (outcomes_pickMatching query customLists list)).returns.bind fun exit hexit => ?_
  refine (exact_openvpnEndpoint hbridge exit).returns.mapErr.bind fun endpoint hendpoint => ?_
  obtain ⟨offered, ⟨hmem, htcp, hcompatible⟩, rfl⟩ := hendpoint
  have hconfigured : query.openvpnConstraints.bridgeSettings ≠ .custom none :=
    fun hcustom => hpresent ⟨hcustom, ⟨exit, hexit.matching⟩, offered, hmem, htcp, hcompatible⟩
  refine .bind ?_ fun bridge hselected => returns_pure ⟨htcp, hselected⟩
  unfold getOpenvpnBridge
  dsimp only
  rw [if_pos hbridge, htcp]
  exact returns_getBridgeFor exit.location.coordinates .tcp hbridge hconfigured

/-- A bridge that has to be used is used, whatever is drawn, except if it is a custom one that has not
been configured and the search can succeed. -/
theorem bridge_used_iff (platform : Platform δ) (query : RelayQuery) (customLists : List CustomList)
    (list : RelayList)
    (hbridge : query.openvpnConstraints.bridgeSettings.shouldUseBridge = true) :
    (∀ draws found, ((getOpenvpnRelay platform query customLists list).run draws).1 = .ok found →
      UsesBridge query customLists list found) ↔ ¬ BridgeMissing query customLists list := by
  constructor
  · rintro huses ⟨hcustom, ⟨relay, hrelay⟩, offered, hmem, htcp, hcompatible⟩
    have hnone (exit : Relay) : Exact (getOpenvpnBridge platform query customLists list exit .tcp)
        (· = none) False := by
      unfold getOpenvpnBridge
      rw [hcustom]
      exact exact_pure none
    have hchoose := exact_okOr (Error.noRelay query) (outcomes_pickMatching query customLists list)
    have hexact : Exact (getOpenvpnRelay platform query customLists list) _ _ :=
      hchoose.bind fun exit _ => ((exact_openvpnEndpoint hbridge exit).mapErr _).bind
        fun endpoint ⟨offered, ⟨_, htcp, _⟩, hendpoint⟩ =>
          (show Exact _ (· = none) False by
            rw [hendpoint, htcp]
            exact hnone exit).bind fun bridge _ => exact_pure (GetRelay.openVpn endpoint exit bridge)
    obtain ⟨exit, hexit⟩ := hchoose.exists_of_not_miss fun hmiss =>
      (mayPickMatching_none.mp hmiss).ne_nil hrelay rfl
    obtain ⟨draws, hdraws⟩ := (hexact.exists_ok_iff _).mpr
      ⟨exit, hexit, _, ⟨offered, ⟨hmem, htcp, hcompatible⟩, rfl⟩, none, rfl, rfl⟩
    obtain ⟨_, selected, hselected, _⟩ := huses draws _ hdraws
    cases hselected
  · exact fun hpresent draws found => returns_getOpenvpnRelay hbridge hpresent draws found

variable (customLists list) in
/-- The bridge is what the constraints ask for, and its proxy is offered with a protocol that they
permit. -/
def BridgeSatisfies (constraints : InternalBridgeConstraints) (found : Shadowsocks × Relay) : Prop :=
  IsBridgeFor customLists list (.normal ⟨constraints.location, constraints.providers, constraints.ownership⟩)
      (.normal found.1 found.2) ∧
    ∃ offered ∈ list.bridge.shadowsocks, found.1 = offered.toProxySettings (.v4 found.2.ipv4AddrIn) ∧
      constraints.transportProtocol.satisfiedBy (fun protocol => protocol == offered.protocol) = true

theorem outcomes_bridgeEndpoint (data : BridgeEndpointData) {relay}
    (hbridge : relay.endpointData = .bridge) :
    Outcomes (bridgeEndpoint data relay) fun settings => ∃ offered, IsChoice data.shadowsocks offered ∧
      settings = offered.map fun offered => offered.toProxySettings (.v4 relay.ipv4AddrIn) := by
  unfold bridgeEndpoint
  rw [if_pos hbridge]
  exact (outcomes_choose data.shadowsocks).bind fun offered _ => outcomes_pure _

/-- The protocol is satisfied, whatever is drawn, exactly if there is no bridge for the other constraints
or every proxy of the list is offered with a permitted protocol. -/
theorem transport_satisfied_iff (platform : Platform δ) (customLists : List CustomList)
    (list : RelayList) (constraints : InternalBridgeConstraints) (place : Option Coordinates) :
    (∀ draws found, ((getProxySettings platform customLists list constraints place).run draws).1 =
        .ok found → BridgeSatisfies customLists list constraints found) ↔
      (filterMatchingBridges constraints list.relays customLists ≠ [] →
        ∀ offered ∈ list.bridge.shadowsocks, ∃ other ∈ list.bridge.shadowsocks,
          other = { offered with protocol := other.protocol } ∧
          constraints.transportProtocol.satisfiedBy (fun protocol => protocol == other.protocol) = true) := by
  obtain ⟨P, hpick, hmem⟩ := exists_exact_pickBridge platform
    (filterMatchingBridges constraints list.relays customLists) place
  have hbridge (relay : Relay) (hrelay : P relay) : relay.endpointData = .bridge :=
    beq_iff_eq.mp (mem_filter.mp (mem_of_mem_filter (mem_of_mem_filter
      (mem_of_mem_filter (hmem relay hrelay))))).2
  have hexact := hpick.bind fun relay hrelay => (exact_okOr Error.noBridge
    (outcomes_bridgeEndpoint list.bridge (hbridge relay hrelay))).bind fun settings _ =>
      exact_pure (settings, relay)
  rw [getProxySettings_eq]
  constructor
  · intro hsatisfies hbridges offered hoffered
    obtain ⟨relay, hrelay⟩ := hpick.exists_of_not_miss hbridges
    obtain ⟨draws, hdraws⟩ := (hexact.exists_ok_iff _).mpr
      ⟨relay, hrelay, _, ⟨some offered, hoffered, rfl⟩, rfl⟩
    obtain ⟨-, other, hother, hsettings, hprotocol⟩ := hsatisfies draws _ hdraws
    refine ⟨other, hother, ?_, hprotocol⟩
    cases other
    cases offered
    cases hsettings
    rfl
  · intro hoffers draws found hfound
    obtain ⟨relay, hrelay, settings, ⟨choice, hchoice, hsettings⟩, rfl⟩ := hexact.returns draws found hfound
    obtain ⟨offered, rfl, rfl⟩ := Option.map_eq_some_iff.mp hsettings.symm
    obtain ⟨other, hother, heq, hprotocol⟩ :=
      hoffers (ne_nil_of_mem (hmem relay hrelay)) offered hchoice
    refine ⟨isBridgeFor_of_mem (hmem relay hrelay), other, hother, ?_, hprotocol⟩
    rw [heq]
    rfl

end Search

namespace Sample

def openvpnList : RelayList :=
  { relayList with
    countries := [⟨"se", [⟨"got", ⟨0, 0⟩,
      [{ relay "se-got-001" (ipv4Addr 185 213 154 131) 0 false with endpointData := .openvpn },
        { relay "se-got-br-001" (ipv4Addr 185 213 154 117) 0 false with endpointData := .bridge }]⟩]⟩]
    openvpn := ⟨[⟨443, .tcp⟩, ⟨1194, .udp⟩]⟩
    bridge := ⟨[⟨443, "aes-256-gcm", "mullvad", .tcp⟩]⟩ }

def customBridgeQuery : RelayQuery :=
  { RelayQueryBuilder.openvpn with openvpnConstraints := ⟨.any, .custom none⟩ }

end Sample

open RelayQueryBuilder in
theorem bridge_used_normal :
    ∃ found, ((getOpenvpnRelay platform (bridge openvpn) []
        (parseRelayList openvpnList [])).run id).1 = .ok found ∧
      UsesBridge (bridge openvpn) [] (parseRelayList openvpnList []) found := by
  have hpresent : ¬ BridgeMissing (bridge openvpn) [] (parseRelayList openvpnList []) :=
    fun h => by cases h.custom
  exact ⟨_, rfl, (bridge_used_iff platform (bridge openvpn) []
    (parseRelayList openvpnList []) rfl).mpr hpresent id _ rfl⟩

/-- A search that has to use a bridge and ends without one. -/
theorem bridge_missing :
    ∃ endpoint exit, customBridgeQuery.openvpnConstraints.bridgeSettings.shouldUseBridge = true ∧
      ((getOpenvpnRelay platform customBridgeQuery []
        (parseRelayList openvpnList [])).run id).1 = .ok (.openVpn endpoint exit none) ∧
      ¬ UsesBridge customBridgeQuery [] (parseRelayList openvpnList []) (.openVpn endpoint exit none) := by
  refine ⟨_, _, rfl, rfl, ?_⟩
  rintro ⟨_, selected, hselected, _⟩
  cases hselected

/-- A proxy over TCP is given for a constraint that asks for UDP. -/
theorem tcp_bridge_for_udp :
    ∃ found, ((getProxySettings platform [] (parseRelayList openvpnList [])
        ⟨.any, .any, .any, .only .udp⟩ none).run id).1 = .ok found ∧
      ¬ BridgeSatisfies [] (parseRelayList openvpnList []) ⟨.any, .any, .any, .only .udp⟩ found := by
  refine ⟨_, rfl, ?_⟩
  rintro ⟨-, offered, hoffered, -, hprotocol⟩
  obtain rfl := mem_singleton.mp hoffered
  cases hprotocol

end MullvadVpn.Relays
