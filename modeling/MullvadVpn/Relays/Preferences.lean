import MullvadVpn.Relays.Endpoints

/-!
Relay selection never overrides the preferences of the user. Whatever relays a list offers, whatever is
drawn and whatever the number of the connection attempt, a result of the selector is one that the
settings allow: merging the query of an attempt into the user's only refines it, every relay is picked
from those that match the merged query, and the endpoints are derived from the relays and the query.
-/

namespace MullvadVpn.Relays

open Net Systems Draw Attempt Intersection LawfulIntersection Constraint RelayQuery

variable {hopQuery : RelayQuery} {list : RelayList}

def allowsVersion (availability : IpAvailability) : IpVersion → Bool
  | .v4 => availability.hasIpv4
  | .v6 => availability.hasIpv6

/-- The relay satisfies the location constraint, custom lists being looked up. -/
def LocatedIn (customLists : List CustomList) (constraint : Constraint LocationConstraint)
    (relay : Relay) : Prop :=
  filterOnLocation (resolveLocation constraint customLists) relay = true

section Preferences

variable (config : NormalSelectorConfig)

/-- What the user asks of every relay of a tunnel. -/
structure Suits (list : RelayList) (relay : Relay) : Prop where
  mem : relay ∈ list.relays
  active : relay.active = true
  tunnelType : filterTunnelType config.userPreferences.tunnelProtocol relay = true
  providers :
    config.userPreferences.providers.satisfiedBy (fun providers => providers.matchesRelay relay) = true
  ownership :
    config.userPreferences.ownership.satisfiedBy (fun ownership => ownership.matchesRelay relay) = true

/-- What the user asks of the first hop of a WireGuard tunnel, and that it is the given peer. -/
structure SuitsAsFirstHop (availability : IpAvailability) (relay : Relay) (peer : PeerConfig) :
    Prop where
  publicKey : relay.HasKey peer.publicKey
  address : relay.HasAddress peer.endpoint.ip
  ipVersion : config.userPreferences.wireguardConstraints.ipVersion.satisfiedBy
    (fun version => version == peer.endpoint.ip.version) = true
  available : allowsVersion availability peer.endpoint.ip.version = true
  port : config.userPreferences.wireguardConstraints.port.satisfiedBy
    (fun port => port == peer.endpoint.port) = true
  daita : config.additionalPreferences.wireguard.daita = true →
    ∃ data, relay.wireguard = some data ∧ data.daita = true

/-- DAITA is enabled and allowed to choose an entry relay by itself. -/
def ChoosesEntry : Prop :=
  config.additionalPreferences.wireguard.daita = true ∧
    config.additionalPreferences.wireguard.daitaUseMultihopIfNecessary = true

/-- The result of a selection is one that the settings allow. -/
inductive Respects (list : RelayList) (availability : IpAvailability) : GetRelay → Prop
  | singlehop {endpoint obfuscator} {exit}
      (hmultihop : config.userPreferences.wireguardConstraints.useMultihop = false)
      (hexit : Suits config list exit)
      (hlocation : LocatedIn config.customLists config.userPreferences.location exit)
      (hfirst : SuitsAsFirstHop config availability exit endpoint.peer)
      (hexitPeer : endpoint.exitPeer = none)
      (hobfuscator : config.obfuscationSettings.selectedObfuscation = .off → obfuscator = none) :
      Respects list availability (.wireguard endpoint obfuscator (.singlehop exit))
  | multihop {endpoint obfuscator} {exit entry exitPeer}
      (hexit : Suits config list exit) (hentry : Suits config list entry)
      (hne : entry.hostname ≠ exit.hostname)
      (hlocation : LocatedIn config.customLists config.userPreferences.location exit)
      (hentryLocation : ¬ChoosesEntry config →
        LocatedIn config.customLists config.userPreferences.wireguardConstraints.entryLocation entry)
      (hfirst : SuitsAsFirstHop config availability entry endpoint.peer)
      (hexitPeer : endpoint.exitPeer = some exitPeer)
      (hkey : exit.HasKey exitPeer.publicKey) (haddress : exit.HasAddress exitPeer.endpoint.ip)
      (hallowedIps : endpoint.peer.allowedIps = [.ofIpAddr exitPeer.endpoint.ip])
      (hobfuscator : config.obfuscationSettings.selectedObfuscation = .off → obfuscator = none) :
      Respects list availability (.wireguard endpoint obfuscator (.multihop exit entry))
  | openVpn {endpoint exit bridge} (hmultihop : config.userPreferences.wireguardConstraints.useMultihop = false)
      (hdaita : config.additionalPreferences.wireguard.daita = false)
      (hexit : Suits config list exit)
      (hlocation : LocatedIn config.customLists config.userPreferences.location exit) :
      Respects list availability (.openVpn endpoint exit bridge)

end Preferences

/-- The query asks for everything that the settings and the available IP versions ask for. -/
structure Serves (config : NormalSelectorConfig) (availability : IpAvailability)
    (query : RelayQuery) : Prop where
  honours : query.Honours config.constraints
  available : query.tunnelProtocol = .wireguard →
    Refines query.wireguardConstraints.ipVersion (availableVersion availability)
  valid : config.constraints.corePrivacyFeatureEnabled = true → query.tunnelProtocol = .wireguard

section Serves

variable {config : NormalSelectorConfig} {availability : IpAvailability} {query : RelayQuery}

/-- The user's own query serves the user, once the available IP versions are applied to it. -/
theorem serves_userQuery {userQuery} (hquery : config.toQuery = .ok userQuery)
    (havailable : applyIpAvailability availability userQuery = .ok query) :
    Serves config availability query := by
  have huser : userQuery = config.constraints := eq_of_validate hquery
  have hcore := tunnelProtocol_of_validate hquery
  obtain ⟨hhonours, hversion⟩ := applyIpAvailability_ok havailable
  have hprotocol : query.tunnelProtocol = userQuery.tunnelProtocol := hhonours.tunnelProtocol
  exact {
    honours := huser ▸ hhonours
    available := fun hwireguard => hversion (hprotocol ▸ hwireguard)
    valid := fun hcorePrivacy => hprotocol.trans (hcore hcorePrivacy) }

variable {relay : Relay}

theorem locatedIn_of_matches {customLists}
    {constraint} (h : Matches hopQuery list customLists relay)
    (hrefines : Refines hopQuery.location constraint) : LocatedIn customLists constraint relay := by
  cases constraint with
  | any => rfl
  | only location =>
    have hlocation := h.location
    rw [eq_only_of_refines hrefines] at hlocation
    exact hlocation

/-- The version that is used for a constraint satisfies every constraint it refines. -/
theorem satisfiedBy_resolveIpVersion {constraint user : Constraint IpVersion}
    (h : Refines constraint user) :
    user.satisfiedBy (fun version => version == resolveIpVersion constraint) = true := by
  cases user with
  | any => rfl
  | only version =>
    rw [eq_only_of_refines h]
    cases version <;> rfl

theorem allowsVersion_of_available {version}
    (h : (availableVersion availability).satisfiedBy (fun allowed => allowed == version) = true) :
    allowsVersion availability version = true := by
  cases availability <;> cases version <;> first | rfl | cases h

variable (hserves : Serves config availability query)

include hserves

theorem Serves.merge {retryQuery merged}
    (h : intersection retryQuery query = some merged) : Serves config availability merged := by
  have hmerged := honours_of_intersect h
  have hprotocol : merged.tunnelProtocol = query.tunnelProtocol := hmerged.tunnelProtocol
  exact {
    honours := hmerged.trans hserves.honours
    available := fun hwireguard => LawfulIntersection.trans hmerged.wireguard.ipVersion
      (hserves.available (hprotocol ▸ hwireguard))
    valid := fun hcore => hprotocol.trans (hserves.valid hcore) }

theorem Serves.suits (h : Matches hopQuery list config.customLists relay)
    (hprotocol : hopQuery.tunnelProtocol = query.tunnelProtocol)
    (hproviders : hopQuery.providers = query.providers)
    (hownership : hopQuery.ownership = query.ownership) : Suits config list relay where
  mem := h.mem
  active := h.active
  tunnelType := by
    have hsame : query.tunnelProtocol = config.userPreferences.tunnelProtocol :=
      hserves.honours.tunnelProtocol
    rw [← hsame, ← hprotocol]
    exact h.tunnelType
  providers := satisfiedBy_of_refines (hproviders ▸ hserves.honours.providers) h.providers
  ownership := satisfiedBy_of_refines (hownership ▸ hserves.honours.ownership) h.ownership

/-- The first hop of a connection, given a query for it that differs from the merged one in its
location alone. -/
theorem Serves.suitsAsFirstHop
    {peer} (h : Matches hopQuery list config.customLists relay)
    (hprotocol : query.tunnelProtocol = .wireguard)
    (hhopProtocol : hopQuery.tunnelProtocol = query.tunnelProtocol)
    (hhop : hopQuery.wireguardConstraints = query.wireguardConstraints)
    (hfirst : IsFirstHop query.wireguardConstraints relay peer) :
    SuitsAsFirstHop config availability relay peer where
  publicKey := hfirst.publicKey
  address := hfirst.address
  ipVersion := by
    rw [hfirst.version]
    exact satisfiedBy_resolveIpVersion hserves.honours.wireguard.ipVersion
  available := by
    rw [hfirst.version]
    exact allowsVersion_of_available (satisfiedBy_resolveIpVersion (hserves.available hprotocol))
  port := satisfiedBy_of_refines hserves.honours.wireguard.port hfirst.port
  daita := by
    intro hdaita
    have hasked : hopQuery.wireguardConstraints.daita = .only true := by
      rw [hhop, eq_only_of_refines hserves.honours.wireguard.daita]
      exact congrArg _ hdaita
    have htunnel := h.tunnelType
    have hsupports := h.daita
    rw [hhopProtocol, hprotocol] at htunnel
    obtain ⟨data, hdata⟩ := Option.isSome_iff_exists.mp htunnel
    unfold filterOnDaita at hsupports
    rw [hasked, Relay.endpointData_of_wireguard hdata] at hsupports
    exact ⟨data, hdata, hsupports⟩

theorem Serves.multihop_eq :
    query.wireguardConstraints.multihop = config.userPreferences.wireguardConstraints.useMultihop := by
  unfold WireguardRelayQuery.multihop
  rw [eq_only_of_refines hserves.honours.wireguard.useMultihop]
  exact only_beq_true _

theorem Serves.choosesEntry (hdaita : query.usingDaita = true)
    (hnecessary : query.useMultihopIfNecessary = true) : ChoosesEntry config := by
  unfold usingDaita at hdaita
  unfold useMultihopIfNecessary at hnecessary
  rw [eq_only_of_refines hserves.honours.wireguard.daita] at hdaita
  rw [eq_only_of_refines hserves.honours.wireguard.daitaUseMultihopIfNecessary] at hnecessary
  exact ⟨hdaita, (isSome_intersection_true _).symm.trans hnecessary⟩

theorem Serves.noPrivacyFeature (hprotocol : query.tunnelProtocol = .openVpn) :
    config.userPreferences.wireguardConstraints.useMultihop = false ∧
      config.additionalPreferences.wireguard.daita = false := by
  have hcore : config.constraints.corePrivacyFeatureEnabled = false := by
    by_contra hcore
    have hwireguard := hserves.valid (Bool.eq_true_of_not_eq_false hcore)
    rw [hprotocol] at hwireguard
    cases hwireguard
  unfold corePrivacyFeatureEnabled at hcore
  obtain ⟨hfeatures, _⟩ := Bool.or_eq_false_iff.mp hcore
  obtain ⟨hdaita, hmultihop⟩ := Bool.or_eq_false_iff.mp hfeatures
  exact ⟨(only_beq_true _).symm.trans hmultihop, (only_beq_true _).symm.trans hdaita⟩

theorem Serves.respects {relay}
    (hfound : Found query config.customLists list relay) : Respects config list availability relay := by
  cases hfound with
  | openVpn hprotocol hexit =>
    obtain ⟨hmultihop, hdaita⟩ := hserves.noPrivacyFeature hprotocol
    exact .openVpn hmultihop hdaita (hserves.suits hexit rfl rfl rfl)
      (locatedIn_of_matches hexit hserves.honours.location)
  | wireguard hprotocol hselected hleads hobfuscator =>
    have hoff (h : config.obfuscationSettings.selectedObfuscation = .off) := by
      have hbelow : query.wireguardConstraints.obfuscation.Below (.ofSettings config.obfuscationSettings) :=
        hserves.honours.wireguard.obfuscation
      rw [ObfuscationQuery.ofSettings, h] at hbelow
      exact hobfuscator hbelow.eq_off
    cases hselected with
    | singlehop hsinglehop hexit =>
      obtain ⟨hfirst, hexitPeer⟩ := hleads
      have hmultihop : query.wireguardConstraints.multihop = false := by
        simpa [singlehop] using hsinglehop
      exact .singlehop (hserves.multihop_eq ▸ hmultihop) (hserves.suits hexit rfl rfl rfl)
        (locatedIn_of_matches hexit hserves.honours.location)
        (hserves.suitsAsFirstHop hexit hprotocol rfl rfl hfirst) hexitPeer hoff
    | automatic hdaita hnecessary hexit hentry hne =>
      obtain _ | ⟨hfirst, hexitPeer, hkey, haddress, hallowed⟩ := hleads
      exact .multihop (hserves.suits hexit rfl rfl rfl) (hserves.suits hentry rfl rfl rfl) hne
        (locatedIn_of_matches hexit hserves.honours.location)
        (fun hnot => absurd (hserves.choosesEntry hdaita hnecessary) hnot)
        (hserves.suitsAsFirstHop hentry hprotocol rfl rfl hfirst) hexitPeer hkey haddress hallowed hoff
    | multihop hexit hentry hne =>
      obtain _ | ⟨hfirst, hexitPeer, hkey, haddress, hallowed⟩ := hleads
      exact .multihop (hserves.suits hexit rfl rfl rfl) (hserves.suits hentry rfl rfl rfl) hne
        (locatedIn_of_matches hexit hserves.honours.location)
        (fun _ => locatedIn_of_matches hentry hserves.honours.wireguard.entryLocation)
        (hserves.suitsAsFirstHop hentry hprotocol rfl rfl hfirst) hexitPeer hkey haddress hallowed hoff

end Serves

section Selection

variable {δ : Type} [LinearOrder δ] (platform : Platform δ)
variable {config : NormalSelectorConfig} {availability : IpAvailability}

theorem always_getRelayByRetryOrder (list : RelayList) (retryAttempt : Nat)
    (retryOrder : List RelayQuery) {userQuery}
    (hserves : Serves config availability userQuery) :
    Always (getRelayByRetryOrder platform config.customLists list retryAttempt retryOrder userQuery)
      fun result => ∀ relay ∈ result, Respects config list availability relay := by
  have hattempt (query : RelayQuery) (hquery : Serves config availability query) :
      Always (getRelayInner platform query config.customLists list).ok
        fun result => ∀ relay ∈ result, Respects config list availability relay :=
    ((returns_getRelayInner platform query config.customLists list).mono
      fun _ hfound => hquery.respects hfound).ok
  have hattempts : AllGive (retryAttempts platform config.customLists list retryOrder userQuery)
      (Respects config list availability) := by
    intro attempt hmem
    obtain ⟨query, hquery, rfl⟩ := List.mem_map.mp hmem
    obtain ⟨retryQuery, _, hmerged⟩ := List.mem_filterMap.mp hquery
    exact hattempt query (hserves.merge hmerged)
  refine (always_cycleNth retryAttempt hattempts hattempts).bind fun result hresult => ?_
  cases result with
  | some relay => exact always_pure hresult
  | none => exact hattempt userQuery hserves

theorem returns_getRelayWithCustomParams (selector : RelaySelector) (retryAttempt : Nat)
    (retryOrder : List RelayQuery) (availability : IpAvailability)
    (hnormal : selector.config.specialize = .normal config) :
    Returns (selector.getRelayWithCustomParams platform retryAttempt retryOrder availability)
      (Respects config selector.parsedRelays.parsedList availability) := by
  unfold RelaySelector.getRelayWithCustomParams
  rw [hnormal]
  refine (returns_liftExcept fun _ h => h).bind fun userQuery hquery => ?_
  refine (returns_liftExcept fun _ h => h).bind fun available havailable => ?_
  exact returns_okOr (always_getRelayByRetryOrder platform _ retryAttempt retryOrder
    (serves_userQuery hquery havailable))

/-- Selection never overrides the preferences of the user: for every configuration, relay list,
connection attempt, availability and sequence of draws. -/
theorem getRelay_respects_preferences (selector : RelaySelector) (retryAttempt : Nat)
    (availability : IpAvailability) (draws : Nat → Nat) {relay : GetRelay}
    (hnormal : selector.config.specialize = .normal config)
    (hrelay : ((selector.getRelay platform retryAttempt availability).run draws).1 = .ok relay) :
    Respects config selector.parsedRelays.parsedList availability relay := by
  suffices h : Returns (selector.getRelay platform retryAttempt availability)
      (Respects config selector.parsedRelays.parsedList availability) from h draws relay hrelay
  unfold RelaySelector.getRelay
  rw [hnormal]
  dsimp only
  cases config.userPreferences.tunnelProtocol with
  | wireguard | openVpn =>
    exact returns_getRelayWithCustomParams platform selector retryAttempt _ availability hnormal

end Selection

namespace Sample

/-- An active, rented WireGuard relay. The location is filled in when the list is parsed. -/
def relay (hostname : String) (ipv4AddrIn : BitVec 32) (key : BitVec 256) (daita : Bool) : Relay :=
  { hostname
    ipv4AddrIn
    ipv6AddrIn := none
    includeInCountry := true
    active := true
    owned := false
    provider := "provider"
    weight := 100
    endpointData := .wireguard
      { publicKey := ⟨key⟩, daita, quic := none, lwo := false, shadowsocksExtraAddrIn := [] }
    location := ⟨"", "", ⟨0, 0⟩⟩ }

/-- One city with a relay that supports DAITA, and one with a relay that does not. -/
def relayList : RelayList :=
  { countries :=
      [⟨"se", [⟨"got", ⟨0, 0⟩, [relay "se-got-wg-001" (ipv4Addr 185 213 154 68) 1 true]⟩]⟩,
        ⟨"no", [⟨"osl", ⟨1, 1⟩, [relay "no-osl-wg-001" (ipv4Addr 91 90 44 10) 2 false]⟩]⟩]
    openvpn := ⟨[]⟩
    bridge := ⟨[]⟩
    wireguard :=
      { portRanges := [⟨51820, 51821⟩]
        ipv4Gateway := ipv4Addr 10 64 0 1
        ipv6Gateway := 1
        shadowsocksPortRanges := []
        udp2tcpPorts := [] } }

/-- Multihop from Sweden to Norway with DAITA, on port 51821, without obfuscation. -/
def config : SelectorConfig :=
  { relaySettings := .normal
      { location := .only (.location (.country "no"))
        providers := .only ⟨{"provider"}⟩
        ownership := .only .rented
        tunnelProtocol := .wireguard
        wireguardConstraints :=
          { port := .only 51821
            ipVersion := .any
            allowedIps := .any
            useMultihop := true
            entryLocation := .only (.location (.country "se")) }
        openvpnConstraints := ⟨.any⟩ }
    additionalConstraints := ⟨⟨true, false, .auto⟩⟩
    customLists := []
    relayOverrides := []
    obfuscationSettings := ⟨.off, ⟨.any⟩, ⟨.any⟩⟩
    bridgeState := .auto
    bridgeSettings := ⟨.normal, ⟨.any, .any, .any⟩, none⟩ }

def platform : Platform Nat :=
  { distanceFrom := fun a b => a.latitude.toNat + b.latitude.toNat
    asUsize := id
    bridgeWeight := fun greatest distance => BitVec.ofNat 64 (1 + (greatest - distance))
    staggeredObfuscation := false }

end Sample

theorem getRelay_respects_preferences_multihop :
    ∃ config endpoint exit entry, Sample.config.specialize = .normal config ∧
      (((RelaySelector.fromList Sample.config Sample.relayList).getRelay Sample.platform 0
        .ipv4AndIpv6).run id).1 = .ok (.wireguard endpoint none (.multihop exit entry)) ∧
      entry.hostname = "se-got-wg-001" ∧ exit.hostname = "no-osl-wg-001" ∧
      Respects config (parseRelayList Sample.relayList []) .ipv4AndIpv6
        (.wireguard endpoint none (.multihop exit entry)) := by
  refine ⟨_, _, _, _, rfl, rfl, rfl, rfl, ?_⟩
  exact getRelay_respects_preferences Sample.platform
    (RelaySelector.fromList Sample.config Sample.relayList) 0 .ipv4AndIpv6 id rfl rfl

end MullvadVpn.Relays
