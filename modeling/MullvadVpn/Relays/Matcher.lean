import MullvadVpn.Systems.Draws
import MullvadVpn.Relays.Query

/-!
Filtering the relay list by a query (`relay_selector/matcher.rs`). The filters are predicates on single
relays, except for the last one, which prefers relays flagged for their country over the others. That
one collects relays in hash sets, so the order of its result is drawn.
-/

namespace MullvadVpn.Relays

open Net Systems List

/-- The locations a constraint stands for, custom lists being looked up. A list that does not exist
stands for no location. -/
def resolveLocation (constraint : Constraint LocationConstraint) (customLists : List CustomList) :
    Constraint (List GeographicLocationConstraint) :=
  match constraint with
  | .any => .any
  | .only (.location location) => .only [location]
  | .only (.customList listId) =>
    .only (((customLists.find? fun list => list.id == listId).map CustomList.locations).getD [])

def filterOnLocation (filter : Constraint (List GeographicLocationConstraint)) (relay : Relay) :
    Bool :=
  filter.satisfiedBy fun locations => locations.any fun location => location.matchesRelay relay

def filterOnActive (relay : Relay) : Bool :=
  relay.active

def filterOnOwnership (filter : Constraint Ownership) (relay : Relay) : Bool :=
  filter.satisfiedBy fun ownership => ownership.matchesRelay relay

def filterOnProviders (filter : Constraint Providers) (relay : Relay) : Bool :=
  filter.satisfiedBy fun providers => providers.matchesRelay relay

def filterTunnelType (filter : TunnelType) (relay : Relay) : Bool :=
  match filter with
  | .openVpn => relay.isOpenvpn
  | .wireguard => relay.isWireguard

def filterBridge (relay : Relay) : Bool :=
  relay.endpointData == .bridge

/-- Only WireGuard relays are asked for DAITA. -/
def filterOnDaita (filter : Constraint Bool) (relay : Relay) : Bool :=
  match filter, relay.endpointData with
  | .only true, .wireguard data => data.daita
  | _, _ => true

/-- A port that the user asks for has to be offered, unless there are extra addresses: those accept
every port. -/
def filterOnShadowsocks (portRanges : List PortRange) (ipVersion : Constraint IpVersion)
    (settings : ShadowsocksSettings) (data : WireguardRelayEndpointData) : Bool :=
  match settings.port with
  | .only port =>
    (data.shadowsocksExtraAddrIn.any fun addr => addr.version == resolveIpVersion ipVersion) ||
      portRanges.any fun range => range.contains port
  | .any => true

def filterOnQuic (ipVersion : Constraint IpVersion) (data : WireguardRelayEndpointData) : Bool :=
  match data.quic with
  | some quic =>
    match ipVersion with
    | .any => true
    | .only .v4 => !quic.inIpv4.isEmpty
    | .only .v6 => !quic.inIpv6.isEmpty
  | none => false

def filterOnObfuscation (query : WireguardRelayQuery) (list : RelayList) (relay : Relay) : Bool :=
  match relay.wireguard with
  | none => true
  | some data =>
    match query.obfuscation with
    | .shadowsocks settings =>
      filterOnShadowsocks list.wireguard.shadowsocksPortRanges query.ipVersion settings data
    | .quic => filterOnQuic query.ipVersion data
    | .lwo => data.lwo
    | .off | .auto | .udp2tcp _ => true

section Matching

variable (query : RelayQuery) (list : RelayList) (customLists : List CustomList)

def filterMatchingRelayListIncludeAll : List Relay :=
  let locations := resolveLocation query.location customLists
  list.relays
    |>.filter (filterTunnelType query.tunnelProtocol)
    |>.filter filterOnActive
    |>.filter (filterOnLocation locations)
    |>.filter (filterOnOwnership query.ownership)
    |>.filter (filterOnProviders query.providers)
    |>.filter (filterOnDaita query.wireguardConstraints.daita)
    |>.filter (filterOnObfuscation query.wireguardConstraints list)

/-- What it is for a relay to match a query. -/
structure Matches (relay : Relay) : Prop where
  mem : relay ∈ list.relays
  tunnelType : filterTunnelType query.tunnelProtocol relay = true
  active : relay.active = true
  location : filterOnLocation (resolveLocation query.location customLists) relay = true
  ownership : filterOnOwnership query.ownership relay = true
  providers : filterOnProviders query.providers relay = true
  daita : filterOnDaita query.wireguardConstraints.daita relay = true
  obfuscation : filterOnObfuscation query.wireguardConstraints list relay = true

variable {query list customLists}

theorem mem_filterMatchingRelayListIncludeAll {relay : Relay} :
    relay ∈ filterMatchingRelayListIncludeAll query list customLists ↔
      Matches query list customLists relay := by
  simp only [filterMatchingRelayListIncludeAll, mem_filter, filterOnActive]
  constructor
  · rintro ⟨⟨⟨⟨⟨⟨⟨hmem, htunnel⟩, hactive⟩, hlocation⟩, hownership⟩, hproviders⟩, hdaita⟩,
      hobfuscation⟩
    exact ⟨hmem, htunnel, hactive, hlocation, hownership, hproviders, hdaita, hobfuscation⟩
  · intro h
    exact ⟨⟨⟨⟨⟨⟨⟨h.mem, h.tunnelType⟩, h.active⟩, h.location⟩, h.ownership⟩, h.providers⟩, h.daita⟩,
      h.obfuscation⟩

end Matching

structure InternalBridgeConstraints where
  location : Constraint LocationConstraint
  providers : Constraint Providers
  ownership : Constraint Ownership
  transportProtocol : Constraint TransportProtocol

/-- All bridges that match the constraints. The transport protocol is not one of the filters. -/
def filterMatchingBridges (constraints : InternalBridgeConstraints) (relays : List Relay)
    (customLists : List CustomList) : List Relay :=
  let locations := resolveLocation constraints.location customLists
  relays
    |>.filter filterOnActive
    |>.filter filterBridge
    |>.filter (filterOnLocation locations)
    |>.filter (filterOnOwnership constraints.ownership)
    |>.filter (filterOnProviders constraints.providers)

/-- Insertion of relays into a hash set. Relays are equal if their hostnames are, and a relay does not
replace an equal one. -/
def insertRelays (set relays : List Relay) : List Relay :=
  relays.foldl (fun set relay => if set.contains relay then set else set ++ [relay]) set

/-- Insertion of what each location selects. -/
def collectRelays (select : GeographicLocationConstraint → Relay → Bool)
    (locations : List GeographicLocationConstraint) (relays : List Relay) : List Relay :=
  locations.foldl (fun set location => insertRelays set (relays.filter (select location))) []

/-- Whether a relay is to be preferred for a location. -/
def includedInCountry (location : GeographicLocationConstraint) (relay : Relay) : Bool :=
  location.isCountry && relay.includeInCountry

/-- Relays that are not preferred for any of the locations are considered only if there are no
others. -/
def filterOnIncludeInCountry (locations : Constraint (List GeographicLocationConstraint))
    (relays : List Relay) : Draw (List Relay) :=
  match locations with
  | .any => return relays
  | .only locations =>
    let included := collectRelays includedInCountry locations relays
    let excluded := collectRelays (fun location relay => !includedInCountry location relay) locations relays
    Draw.shuffle (if included.isEmpty then excluded else included)

def filterMatchingRelayList (query : RelayQuery) (list : RelayList) (customLists : List CustomList) :
    Draw (List Relay) :=
  filterOnIncludeInCountry (resolveLocation query.location customLists)
    (filterMatchingRelayListIncludeAll query list customLists)

variable {relays : List Relay} {set : List Relay} {relay : Relay}

theorem mem_insertRelays (h : relay ∈ insertRelays set relays) : relay ∈ set ∨ relay ∈ relays := by
  induction relays generalizing set with
  | nil => exact .inl h
  | cons other relays ih =>
    rw [insertRelays, foldl_cons] at h
    rcases ih h with hset | hrelays
    · split_ifs at hset with hcontains
      · exact .inl hset
      · rcases mem_append.mp hset with hset | hother
        · exact .inl hset
        · exact .inr (mem_cons.mpr (.inl (mem_singleton.mp hother)))
    · exact .inr (mem_cons_of_mem _ hrelays)

variable {select : GeographicLocationConstraint → Relay → Bool}
  {locations : List GeographicLocationConstraint}

theorem mem_foldl_insertRelays (h : relay ∈ locations.foldl
      (fun set location => insertRelays set (relays.filter (select location))) set) :
    relay ∈ set ∨ relay ∈ relays ∧ ∃ location ∈ locations, select location relay = true := by
  induction locations generalizing set with
  | nil => exact .inl h
  | cons location locations ih =>
    rcases ih h with hset | ⟨hrelay, other, hother, hselect⟩
    · rcases mem_insertRelays hset with hmem | hmem
      · exact .inl hmem
      · obtain ⟨hrelay, hselect⟩ := mem_filter.mp hmem
        exact .inr ⟨hrelay, location, mem_cons_self .., hselect⟩
    · exact .inr ⟨hrelay, other, mem_cons_of_mem _ hother, hselect⟩

theorem mem_collectRelays (h : relay ∈ collectRelays select locations relays) :
    relay ∈ relays ∧ ∃ location ∈ locations, select location relay = true :=
  (mem_foldl_insertRelays h).resolve_left not_mem_nil

theorem contains_iff : relays.contains relay = true ↔ relay.hostname ∈ relays.map Relay.hostname := by
  simp only [contains_eq_any_beq, any_eq_true, Relay.beq_iff, mem_map]
  exact exists_congr fun other => and_congr_right fun _ => eq_comm

variable {hostname : String}

theorem mem_hostname_insertRelays : hostname ∈ (insertRelays set relays).map Relay.hostname ↔
      hostname ∈ set.map Relay.hostname ∨ hostname ∈ relays.map Relay.hostname := by
  induction relays generalizing set with
  | nil => simp [insertRelays]
  | cons relay relays ih =>
    rw [insertRelays, foldl_cons, ← insertRelays, ih, map_cons, mem_cons, ← or_assoc]
    refine or_congr_left ?_
    split_ifs with hcontains
    · -- The relay is not inserted, but one with its hostname is there.
      refine ⟨.inl, fun h => h.elim id ?_⟩
      rintro rfl
      exact contains_iff.mp hcontains
    · rw [map_append, mem_append, map_singleton, mem_singleton]

theorem mem_hostname_collectRelays :
    hostname ∈ (collectRelays select locations relays).map Relay.hostname ↔
      ∃ location ∈ locations, hostname ∈ (relays.filter (select location)).map Relay.hostname := by
  suffices hfold : ∀ set, hostname ∈ (locations.foldl (fun set location =>
      insertRelays set (relays.filter (select location))) set).map Relay.hostname ↔
      hostname ∈ set.map Relay.hostname ∨
        ∃ location ∈ locations, hostname ∈ (relays.filter (select location)).map Relay.hostname from
    (hfold []).trans (or_iff_right List.not_mem_nil)
  induction locations with
  | nil => simp
  | cons location locations ih =>
    intro set
    rw [List.foldl_cons, ih, mem_hostname_insertRelays, or_assoc, List.exists_mem_cons_iff]

end MullvadVpn.Relays
