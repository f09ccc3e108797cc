import MullvadVpn.Relays.Preferences

/-!
Whether a requested obfuscation is used. Relays are filtered by what the query asks for, and the
obfuscator is made from the relay later, by other functions. Both agree on everything but one thing:
without a constraint on the IP version, the filter for QUIC lets relays with addresses of any version
pass, and the obfuscator is made for IPv4. A relay without IPv4 addresses for QUIC is then connected to
without obfuscation.
-/

namespace MullvadVpn.Relays

open Net Systems Attempt RelayQuery Sample

variable {data : WireguardRelayEndpointData}

def ObfuscationQuery.isRequest : ObfuscationQuery → Bool
  | off | auto => false
  | udp2tcp _ | shadowsocks _ | quic | lwo => true

def Relay.shadowsocksExtraAddrIn (relay : Relay) : List IpAddr :=
  (relay.wireguard.map WireguardRelayEndpointData.shadowsocksExtraAddrIn).getD []

/-- An obfuscator of the kind that is asked for, at an address of the relay. -/
inductive Obfuscates (relay : Relay) : ObfuscationQuery → ObfuscatorConfig → Prop
  | udp2tcp {settings endpoint} (haddress : relay.HasAddress endpoint.ip) :
      Obfuscates relay (.udp2tcp settings) (.udp2Tcp endpoint)
  | shadowsocks {settings endpoint}
      (haddress : relay.HasAddress endpoint.ip ∨ endpoint.ip ∈ relay.shadowsocksExtraAddrIn) :
      Obfuscates relay (.shadowsocks settings) (.shadowsocks endpoint)
  | quic {quic : Quic} {endpoint} (hquic : relay.quic = some quic) (haddress : endpoint.ip ∈ quic.addrIn) :
      Obfuscates relay .quic (.quic quic.domain endpoint quic.token)
  | lwo {endpoint} (haddress : relay.HasAddress endpoint.ip) : Obfuscates relay .lwo (.lwo endpoint)

/-- The connection is obfuscated as the query asks for, on the way to its first hop. -/
def KeepsObfuscation (query : RelayQuery) : GetRelay → Prop
  | .wireguard _ obfuscator inner => ∃ config, obfuscator = some ⟨.single config, inner.firstHop⟩ ∧
      Obfuscates inner.firstHop query.wireguardConstraints.obfuscation config
  | .openVpn _ _ _ | .custom _ => False

section Search

variable {δ : Type} [LinearOrder δ] (platform : Platform δ)
variable (query : RelayQuery) (customLists : List CustomList) (list : RelayList)

/-- The search can end at a relay that is not reached over QUIC with IPv4, although the query asks for
QUIC and leaves the IP version open. -/
structure QuicDropped : Prop where
  protocol : query.tunnelProtocol = .wireguard
  obfuscation : query.wireguardConstraints.obfuscation = .quic
  ipVersion : query.wireguardConstraints.ipVersion = .any
  port : ∃ port, MayPort list.wireguard.portRanges query.wireguardConstraints.port port
  relay : ∃ inner, MaySelect platform query customLists list inner ∧ inner.firstHop.quicAddrs .v4 = []

variable {platform query customLists list} {relay : Relay}

theorem Relay.HasKey.wireguard {key} (h : relay.HasKey key) :
    ∃ data, relay.wireguard = some data := by
  obtain ⟨data, hdata, _⟩ := Option.map_eq_some_iff.mp h
  exact ⟨data, hdata⟩

variable {endpoint : MullvadWireguardEndpoint}

theorem getLwoObfuscator_of_lwo (hdata : relay.wireguard = some data) (hlwo : data.lwo = true)
    (haddress : relay.HasAddress endpoint.peer.endpoint.ip) :
    getLwoObfuscator relay endpoint = some (.lwo endpoint.peer.endpoint) := by
  unfold getLwoObfuscator
  rcases hpeer : endpoint.peer.endpoint with ⟨ip, port⟩
  rw [hpeer] at haddress
  rw [hdata]
  cases ip with
  | v4 bits =>
    obtain rfl : relay.ipv4AddrIn = bits := haddress
    simp [hlwo]
  | v6 bits =>
    have hbits : relay.ipv6AddrIn = some bits := haddress
    simp [hlwo, hbits]

/-- A query for QUIC with an IP version leads to relays that have addresses of that version. -/
theorem quicAddrs_ne_nil {version} (hdata : relay.wireguard = some data)
    (hfilter : filterOnQuic (.only version) data = true) : relay.quicAddrs version ≠ [] := by
  cases hquic : data.quic with
  | none =>
    unfold filterOnQuic at hfilter
    rw [hquic] at hfilter
    cases hfilter
  | some quic =>
    have hrelay : relay.quic = some quic := by
      rw [Relay.quic, hdata]
      exact hquic
    unfold filterOnQuic at hfilter
    rw [hquic] at hfilter
    rw [Relay.quicAddrs, hrelay]
    intro hnil
    cases version with
    | v4 =>
      have hempty : quic.inIpv4 = [] := hnil
      simp [hempty] at hfilter
    | v6 =>
      have hempty : quic.inIpv6 = [] := hnil
      simp [hempty] at hfilter

variable {inner : WireguardConfig}

theorem Selected.tunnelType (h : Selected query customLists list inner) :
    filterTunnelType query.tunnelProtocol inner.firstHop = true := by
  cases h with
  | singlehop _ hexit => exact hexit.tunnelType
  | automatic _ _ _ hentry _ | multihop _ hentry _ => exact hentry.tunnelType

theorem protocol_of_wireguard {protocol : TunnelType} (hdata : relay.wireguard = some data)
    (htype : filterTunnelType protocol relay = true) : protocol = .wireguard := by
  cases protocol with
  | wireguard => rfl
  | openVpn =>
    have hopenvpn : relay.endpointData = .openvpn := beq_iff_eq.mp htype
    rw [Relay.endpointData_of_wireguard hdata] at hopenvpn
    cases hopenvpn

theorem MayFind.keepsObfuscation {obfuscator}
    (hrequest : query.wireguardConstraints.obfuscation.isRequest = true)
    (hkept : ¬ QuicDropped platform query customLists list)
    (h : MayFind platform query customLists list endpoint obfuscator inner) :
    KeepsObfuscation query (.wireguard endpoint obfuscator inner) := by
  obtain ⟨obfuscators, hobfuscators, rfl⟩ := h.obfuscator
  have hfirst := h.leads.isFirstHop
  obtain ⟨data, hdata⟩ := hfirst.publicKey.wireguard
  have hfilter := h.selected.filterOnObfuscation
  unfold Relays.filterOnObfuscation at hfilter
  rw [hdata] at hfilter
  cases hobfuscators with
  | off hoff => rw [hoff] at hrequest; cases hrequest
  | auto hauto _ | multiplexer hauto _ _ _ _ => rw [hauto] at hrequest; cases hrequest
  | udp2tcp hquery hconfig =>
    obtain ⟨port, _, _, rfl⟩ := hconfig
    exact ⟨_, rfl, hquery ▸ .udp2tcp hfirst.address⟩
  | shadowsocks hquery hconfig =>
    cases hconfig with
    | own _ _ => exact ⟨_, rfl, hquery ▸ .shadowsocks (.inl hfirst.address)⟩
    | extra haddr _ => exact ⟨_, rfl, hquery ▸ .shadowsocks (.inr (List.mem_filter.mp haddr).1)⟩
  | quic hquery hconfig =>
    cases hconfig with
    | some hquic hip =>
      rw [Relay.quicAddrs, hquic] at hip
      refine ⟨_, rfl, hquery ▸ .quic hquic ?_⟩
      cases hversion : resolveIpVersion query.wireguardConstraints.ipVersion with
      | v4 | v6 =>
        rw [hversion] at hip
        exact (List.mem_filter.mp hip).1
    | none hnone =>
      rw [hquery] at hfilter
      cases hversion : query.wireguardConstraints.ipVersion with
      | only version =>
        -- The filter has made sure that there is an address of this version.
        rw [hversion] at hfilter hnone
        have hne := quicAddrs_ne_nil hdata hfilter
        cases version with
        | v4 | v6 => exact absurd hnone hne
      | any =>
        rw [hversion] at hnone
        have hprotocol := protocol_of_wireguard hdata h.selected.tunnelType
        exact absurd ⟨hprotocol, hquery, hversion, ⟨_, h.port⟩, inner, h.select, hnone⟩ hkept
  | lwo hquery =>
    rw [hquery] at hfilter
    rw [getLwoObfuscator_of_lwo hdata hfilter hfirst.address]
    exact ⟨_, rfl, hquery ▸ .lwo hfirst.address⟩

section OpenVpn

variable (hopenVpn : query.tunnelProtocol = .openVpn)

include hopenVpn

theorem returns_setLocation_of_openVpn (hfeature : query.corePrivacyFeatureEnabled = true)
    (location : Constraint LocationConstraint) :
    Returns (liftM (query.setLocation location) : Attempt Error RelayQuery) fun _ => False :=
  returns_liftExcept fun result (hvalid : validate { query with location } = .ok result) => by
    have hwireguard := tunnelProtocol_of_validate hvalid hfeature
    rw [eq_of_validate hvalid] at hwireguard
    cases hopenVpn.symm.trans hwireguard

theorem returns_config_of_openVpn :
    Returns (getWireguardRelayConfig platform query customLists list) fun inner =>
      ∃ exit, inner = .singlehop exit ∧ Matches query list customLists exit := by
  have hauto (hautomatic : (query.usingDaita && query.useMultihopIfNecessary) = true) :
      Returns (getWireguardAutoMultihopConfig platform query customLists list) fun inner =>
        ∃ exit, inner = .singlehop exit ∧ Matches query list customLists exit := by
    have hfeature : query.corePrivacyFeatureEnabled = true := by
      have hdaita : query.usingDaita = true := (Bool.and_eq_true_iff.mp hautomatic).1
      unfold corePrivacyFeatureEnabled
      unfold usingDaita at hdaita
      cases hconstraint : query.wireguardConstraints.daita with
      | any => rw [hconstraint] at hdaita; cases hdaita
      | only daita => rw [hconstraint] at hdaita; simp [show daita = true from hdaita]
    rw [getWireguardAutoMultihopConfig_eq]
    exact (returns_true _).bind fun exit _ =>
      (returns_setLocation_of_openVpn hopenVpn hfeature .any).bind fun _ => False.elim
  unfold getWireguardRelayConfig
  dsimp only
  split_ifs with hsinglehop hautomatic hautomatic
  · refine (exact_lift (outcomes_pickMatching query customLists list)).returns.bind fun exit hexit => ?_
    cases exit with
    | some exit => exact returns_pure ⟨exit, rfl, hexit.matching⟩
    | none => exact hauto hautomatic
  · refine (exact_lift (outcomes_pickMatching query customLists list)).returns.bind fun exit hexit => ?_
    cases exit with
    | some exit => exact returns_pure ⟨exit, rfl, hexit.matching⟩
    | none => exact returns_throw
  · exact hauto hautomatic
  · have hfeature : query.corePrivacyFeatureEnabled = true := by
      simp_all [corePrivacyFeatureEnabled, singlehop]
    exact (returns_setLocation_of_openVpn hopenVpn hfeature _).bind fun _ => False.elim

/-- A search for WireGuard relays gives nothing for a query that asks for OpenVPN. -/
theorem returns_false_of_openVpn :
    Returns (getWireguardRelayInner platform query customLists list) fun _ => False := by
  refine (returns_config_of_openVpn hopenVpn).bind ?_
  rintro _ ⟨exit, rfl, hexit⟩
  refine .bind (.mapErr (P := fun _ => False) ?_) fun _ => False.elim
  refine (returns_true _).bind fun host _ => (returns_true _).bind fun port _ => ?_
  refine (returns_liftExcept fun key hkey => ?_).bind fun _ => False.elim
  obtain ⟨data, hdata⟩ := (hasKey_of_getPublicKey hkey).wireguard
  cases hopenVpn.symm.trans (protocol_of_wireguard hdata hexit.tunnelType)

end OpenVpn

/-- A requested obfuscation is used, whatever is drawn, exactly if the search cannot end at a relay that
has no IPv4 address for QUIC while QUIC is asked for and the IP version is left open. -/
theorem obfuscation_kept_iff (platform : Platform δ) (query : RelayQuery)
    (customLists : List CustomList) (list : RelayList)
    (hrequest : query.wireguardConstraints.obfuscation.isRequest = true) :
    (∀ draws found, ((getWireguardRelayInner platform query customLists list).run draws).1 = .ok found →
      KeepsObfuscation query found) ↔ ¬ QuicDropped platform query customLists list := by
  constructor
  · rintro hkeeps ⟨hprotocol, hquic, hversion, ⟨port, hport⟩, inner, hselect, hnone⟩
    have haddress : getAddressForWireguardRelay query.wireguardConstraints inner.firstHop =
        .ok (.v4 inner.firstHop.ipv4AddrIn) := by
      rw [getAddressForWireguardRelay, hversion]
      rfl
    obtain ⟨endpoint, _, hfind⟩ := exists_find hprotocol hselect haddress hport
    have hnone' : MayQuic inner.firstHop (resolveIpVersion query.wireguardConstraints.ipVersion) none := by
      rw [hversion]
      exact .none hnone
    obtain ⟨draws, hdraws⟩ := hfind _ (.quic hquic hnone')
    obtain ⟨config, hconfig, _⟩ := hkeeps draws _ hdraws
    cases hconfig
  · intro hkept draws found hfound
    cases hprotocol : query.tunnelProtocol with
    | wireguard =>
      obtain ⟨endpoint, obfuscator, inner, rfl, hfind⟩ := returns_mayFind hprotocol draws found hfound
      exact hfind.keepsObfuscation hrequest hkept
    | openVpn => exact (returns_false_of_openVpn hprotocol draws found hfound).elim

end Search

open RelayQueryBuilder in
theorem obfuscation_kept_udp2tcp :
    ∃ found, ((getWireguardRelayInner platform (udp2tcp wireguard) []
        (parseRelayList relayList [])).run id).1 = .ok found ∧
      KeepsObfuscation (udp2tcp wireguard) found := by
  have hkept : ¬ QuicDropped platform (udp2tcp wireguard) []
      (parseRelayList relayList []) := fun h => by cases h.obfuscation
  exact ⟨_, rfl, (obfuscation_kept_iff platform (udp2tcp wireguard) []
    (parseRelayList relayList []) rfl).mpr hkept id _ rfl⟩

namespace Sample

/-- One relay, whose masque proxy is reached at an IPv6 address only. -/
def quicList : RelayList :=
  { relayList with countries :=
    [⟨"se", [⟨"got", ⟨0, 0⟩, [{ relay "se-got-wg-001" (ipv4Addr 185 213 154 68) 1 true with
          endpointData := .wireguard
            { publicKey := ⟨1⟩
              daita := true
              quic := some ⟨[.v6 (ipv6Addr 0x2a03 0x1b20 5 0xf011 0 0 0 2)], "token", "se-got-wg-001"⟩
              lwo := false
              shadowsocksExtraAddrIn := [] } }]⟩]⟩] }

end Sample

open RelayQueryBuilder in
/-- A search for QUIC that ends without an obfuscator. -/
theorem quic_dropped :
    ∃ endpoint inner, ((getWireguardRelayInner platform (quic wireguard) []
        (parseRelayList quicList [])).run id).1 = .ok (.wireguard endpoint none inner) ∧
      ¬ KeepsObfuscation (quic wireguard) (.wireguard endpoint none inner) := by
  refine ⟨_, _, rfl, ?_⟩
  rintro ⟨config, hconfig, _⟩
  cases hconfig

end MullvadVpn.Relays
