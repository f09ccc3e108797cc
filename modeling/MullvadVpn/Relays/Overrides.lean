import MullvadVpn.Relays.Obfuscation

/-!
Whether the addresses that the user has set for a relay are the ones that are contacted. Overrides are
applied when the list is parsed, and the addresses are chosen later, by the functions for each kind of
obfuscation. An override replaces the address of the relay and removes the extra addresses for
Shadowsocks, but not those for QUIC. It is also applied once only: hostnames are assumed to be unique,
and a second relay of the same hostname keeps its addresses.
-/

namespace MullvadVpn.Relays

open Net List Sample IpAddr
open RelayOverride (applyToRelay hostname insert keepsExtra)

variable {override : RelayOverride} {ip addr own : IpAddr} {config : ObfuscatorConfig}
  {obfuscation : ObfuscationQuery}

/-- The overrides that the relays leave for the next ones. -/
def remainingAfter (remaining : List RelayOverride) (relays : List Relay) : List RelayOverride :=
  remaining.filter fun override => relays.all fun relay => override.hostname != relay.hostname

/-- The relay under the override for its hostname, if there is one. -/
def overridden (remaining : List RelayOverride) (relay : Relay) : Relay :=
  (remaining.find? fun override => override.hostname == relay.hostname).elim relay
    fun override => override.applyToRelay relay

theorem remainingAfter_append (remaining : List RelayOverride) (first second : List Relay) :
    remainingAfter remaining (first ++ second) = remainingAfter (remainingAfter remaining first) second := by
  simp [remainingAfter, List.filter_filter, Bool.and_comm]

theorem overridden_hostname (remaining : List RelayOverride) (relay : Relay) :
    (overridden remaining relay).hostname = relay.hostname := by
  unfold overridden
  cases remaining.find? fun override => override.hostname == relay.hostname <;> rfl

theorem parseRelay_run (location : Location) (relay : Relay) (remaining : List RelayOverride) :
    (parseRelay location relay).run remaining =
      (overridden remaining { relay with location }, remainingAfter remaining [relay]) := by
  unfold parseRelay overridden remainingAfter
  simp only [StateT.run_bind, StateT.run_get, pure_bind, all_cons, all_nil, Bool.and_true]
  cases hfind : remaining.find? fun override => override.hostname == relay.hostname with
  | some override => rfl
  | none =>
    have hall : remaining.filter (fun override => override.hostname != relay.hostname) = remaining := by
      refine filter_eq_self.mpr fun override hmem => ?_
      simpa using find?_eq_none.mp hfind override hmem
    rw [hall]
    rfl

/-- What parsing relays comes to: each of them is overridden by what the relays before it leave. -/
structure ParsesTo (remaining : List RelayOverride) (relays parsed : List Relay)
    (left : List RelayOverride) : Prop where
  left_eq : left = remainingAfter remaining relays
  mem : ∀ relay' ∈ parsed, ∃ before relay after location, relays = before ++ relay :: after ∧
    relay' = overridden (remainingAfter remaining before) { relay with location }

variable {remaining : List RelayOverride}

theorem ParsesTo.append {left left' relays parsed relays' parsed'}
    (h : ParsesTo remaining relays parsed left) (h' : ParsesTo left relays' parsed' left') :
    ParsesTo remaining (relays ++ relays') (parsed ++ parsed') left' := by
  refine ⟨?_, fun relay' hmem => ?_⟩
  · rw [h'.left_eq, h.left_eq, remainingAfter_append]
  · rcases mem_append.mp hmem with hmem | hmem
    · obtain ⟨before, relay, after, location, rfl, rfl⟩ := h.mem relay' hmem
      exact ⟨before, relay, after ++ relays', location, by simp, rfl⟩
    · obtain ⟨before, relay, after, location, rfl, rfl⟩ := h'.mem relay' hmem
      refine ⟨relays ++ before, relay, after, location, by simp, ?_⟩
      rw [h.left_eq, remainingAfter_append]

/-- A list is parsed element by element, each with the overrides that the ones before have left. -/
theorem mapM_parsesTo {α β : Type} {parse : α → StateM (List RelayOverride) β}
    (relays : α → List Relay) (parsed : β → List Relay)
    (h : ∀ a remaining, ParsesTo remaining (relays a) (parsed ((parse a).run remaining).1)
      ((parse a).run remaining).2) (as : List α) (remaining : List RelayOverride) :
    ParsesTo remaining (as.flatMap relays) (((as.mapM parse).run remaining).1.flatMap parsed)
      ((as.mapM parse).run remaining).2 := by
  induction as generalizing remaining with
  | nil => exact ⟨by simp [remainingAfter, StateT.run, pure, StateT.pure], fun _ hmem => by cases hmem⟩
  | cons a as ih =>
    rw [mapM_cons]
    exact (h a remaining).append (ih _)

theorem parseRelay_parsesTo (location : Location) (relay : Relay) (remaining : List RelayOverride) :
    ParsesTo remaining [relay] [((parseRelay location relay).run remaining).1]
      ((parseRelay location relay).run remaining).2 := by
  rw [parseRelay_run]
  refine ⟨rfl, fun relay' hmem => ⟨[], relay, [], location, rfl, ?_⟩⟩
  rw [mem_singleton.mp hmem]
  simp [remainingAfter]

theorem parseCity_parsesTo (countryCode : String) (city : RelayListCity) (remaining : List RelayOverride) :
    ParsesTo remaining city.relays ((parseCity countryCode city).run remaining).1.relays
      ((parseCity countryCode city).run remaining).2 := by
  have hrelays := mapM_parsesTo (fun relay => [relay]) (fun relay => [relay])
    (parseRelay_parsesTo ⟨countryCode, city.code, city.coordinates⟩) city.relays remaining
  rw [flatMap_singleton', flatMap_singleton'] at hrelays
  exact hrelays

def RelayListCountry.relays (country : RelayListCountry) : List Relay :=
  country.cities.flatMap RelayListCity.relays

theorem parseCountry_parsesTo (country : RelayListCountry) (remaining : List RelayOverride) :
    ParsesTo remaining country.relays ((parseCountry country).run remaining).1.relays
      ((parseCountry country).run remaining).2 :=
  mapM_parsesTo RelayListCity.relays RelayListCity.relays (parseCity_parsesTo country.code)
    country.cities remaining

variable {relay' : Relay} {overrides : List RelayOverride} {list : RelayList}

theorem mem_parseRelayList (h : relay' ∈ (parseRelayList list overrides).relays) :
    ∃ before relay after location, list.relays = before ++ relay :: after ∧
      relay' = overridden (remainingAfter (overrides.foldl insert []) before) { relay with location } := by
  have hlist := mapM_parsesTo RelayListCountry.relays RelayListCountry.relays parseCountry_parsesTo
    list.countries (overrides.foldl insert [])
  unfold RelayList.relays at h ⊢
  rw [flatMap_assoc] at h ⊢
  exact hlist.mem relay' h

theorem mem_foldl_insert (hunique : (overrides.map hostname).Nodup)
    (hnew : ∀ other ∈ remaining, other.hostname ∉ overrides.map hostname) :
    override ∈ overrides.foldl insert remaining ↔ override ∈ remaining ∨ override ∈ overrides := by
  induction overrides generalizing remaining with
  | nil => simp
  | cons first overrides ih =>
    obtain ⟨hfirst, hunique⟩ := nodup_cons.mp hunique
    have hinsert : insert remaining first = first :: remaining := by
      refine congrArg (first :: ·) (filter_eq_self.mpr fun other hmem => ?_)
      have hne : other.hostname ≠ first.hostname := fun h =>
        hnew other hmem (mem_cons.mpr (.inl h))
      exact bne_iff_ne.mpr hne
    rw [foldl_cons, hinsert, ih hunique]
    · simp only [mem_cons]
      tauto
    · intro other hmem
      rcases mem_cons.mp hmem with rfl | hmem
      · exact hfirst
      · exact fun h => hnew other hmem (mem_cons_of_mem _ h)

/-- Several relays of the list have the hostname of the relay. -/
def RelayList.SharesHostname (list : RelayList) (relay : Relay) : Prop :=
  2 ≤ list.relays.countP fun other => other.hostname == relay.hostname

theorem applied_of_not_sharesHostname (hunique : (overrides.map hostname).Nodup)
    (hrelay : relay' ∈ (parseRelayList list overrides).relays) (hoverride : override ∈ overrides)
    (hhostname : override.hostname = relay'.hostname) (hshared : ¬ list.SharesHostname relay') :
    ∃ relay, relay' = override.applyToRelay relay := by
  obtain ⟨before, relay, after, location, hlist, rfl⟩ := mem_parseRelayList hrelay
  rw [overridden_hostname] at hhostname
  -- No relay before this one has used up the override.
  have hbefore : ∀ other ∈ before, override.hostname ≠ other.hostname := by
    intro other hmem heq
    refine hshared ?_
    unfold RelayList.SharesHostname
    rw [hlist, overridden_hostname, countP_append, countP_cons_of_pos (by simp)]
    dsimp only
    have hpos : 0 < before.countP fun other => other.hostname == relay.hostname :=
      countP_pos_iff.mpr ⟨other, hmem, by simp [← heq, hhostname]⟩
    omega
  have hmem : override ∈ remainingAfter (overrides.foldl insert []) before := by
    refine mem_filter.mpr ⟨(mem_foldl_insert hunique (by simp)).mpr (.inr hoverride), ?_⟩
    simpa using hbefore
  refine ⟨{ relay with location }, ?_⟩
  unfold overridden
  cases hfind : (remainingAfter (overrides.foldl insert []) before).find?
      fun override => override.hostname == relay.hostname with
  | none => exact absurd (beq_iff_eq.mpr hhostname) (find?_eq_none.mp hfind override hmem)
  | some other =>
    have hother : other ∈ overrides := by
      have hleft := (mem_filter.mp (mem_of_find?_eq_some hfind)).1
      simpa using (mem_foldl_insert hunique (by simp)).mp hleft
    have heq := find?_some hfind
    obtain rfl := inj_on_of_nodup_map hunique hother hoverride ((beq_iff_eq.mp heq).trans hhostname.symm)
    rfl

theorem not_sharesHostname_of_nodup (h : (list.relays.map Relay.hostname).Nodup)
    (relay : Relay) : ¬ list.SharesHostname relay := by
  have hcount := nodup_iff_count_le_one.mp h relay.hostname
  rw [count, countP_map] at hcount
  exact Nat.not_le_of_lt (Nat.lt_succ_of_le hcount)

/-- The override sets the address. -/
def RelayOverride.HasAddress (override : RelayOverride) : IpAddr → Prop
  | .v4 bits => override.ipv4AddrIn = some bits
  | .v6 bits => override.ipv6AddrIn = some bits

theorem applyToRelay_hasAddress (h : override.HasAddress ip) (relay : Relay) :
    (override.applyToRelay relay).HasAddress ip := by
  cases ip with
  | v4 bits =>
    have hbits : override.ipv4AddrIn = some bits := h
    change override.ipv4AddrIn.getD relay.ipv4AddrIn = bits
    rw [hbits, Option.getD_some]
  | v6 bits =>
    have hbits : override.ipv6AddrIn = some bits := h
    change override.ipv6AddrIn.or relay.ipv6AddrIn = some bits
    rw [hbits, Option.some_or]

theorem applyToRelay_shadowsocksAddrs (h : override.HasAddress ip) (relay : Relay) :
    (override.applyToRelay relay).shadowsocksAddrs ip = [] := by
  have hkeeps : ∀ addr : IpAddr, addr.isIpv4 = ip.isIpv4 → override.keepsExtra addr = false := by
    intro addr hversion
    cases ip with
    | v4 bits =>
      have hbits : override.ipv4AddrIn = some bits := h
      cases addr <;> simp_all [keepsExtra, isIpv4, isIpv6]
    | v6 bits =>
      have hbits : override.ipv6AddrIn = some bits := h
      cases addr <;> simp_all [keepsExtra, isIpv4, isIpv6]
  unfold Relay.shadowsocksAddrs Relay.wireguard applyToRelay
  refine filter_eq_nil_iff.mpr fun addr hmem hversion => ?_
  cases hdata : relay.endpointData with
  | wireguard data =>
    rw [hdata] at hmem
    have hkept := (mem_filter.mp hmem).2
    rw [hkeeps addr (beq_iff_eq.mp hversion)] at hkept
    cases hkept
  | openvpn | bridge =>
    rw [hdata] at hmem
    cases hmem

variable {ip' : IpAddr}

theorem Relay.HasAddress.eq {relay : Relay} (h : relay.HasAddress ip)
    (h' : relay.HasAddress ip') (hversion : ip.version = ip'.version) : ip = ip' := by
  cases ip with
  | v4 bits =>
    cases ip' with
    | v4 bits' => exact congrArg IpAddr.v4 (Eq.trans (Eq.symm h) h')
    | v6 bits' => cases hversion
  | v6 bits =>
    cases ip' with
    | v4 bits' => cases hversion
    | v6 bits' => exact congrArg IpAddr.v6 (Option.some.inj (Eq.trans (Eq.symm h) h'))

def contacted (endpoint : MullvadWireguardEndpoint) (obfuscators : Option Obfuscators) : List IpAddr :=
  endpoint.peer.endpoint.ip ::
    (obfuscators.toList.flatMap Obfuscators.endpoints).map fun endpoint => endpoint.address.ip

/-- Obfuscation may use the addresses for QUIC. Without a preference all kinds are tried, on the
platforms that stagger them. -/
def ObfuscationQuery.usesQuic (staggered : Bool) : ObfuscationQuery → Bool
  | quic => true
  | auto => staggered
  | off | udp2tcp _ | shadowsocks _ | lwo => false

/-- Obfuscation may use the extra addresses for Shadowsocks. -/
def ObfuscationQuery.usesShadowsocks (staggered : Bool) : ObfuscationQuery → Bool
  | shadowsocks _ => true
  | auto => staggered
  | off | udp2tcp _ | quic | lwo => false

/-- There are ports for the obfuscation that the query asks for. -/
def CanObfuscate (staggered : Bool) (query : WireguardRelayQuery) (data : WireguardEndpointData)
    (relay : Relay) (ip : IpAddr) : Prop :=
  match query.obfuscation with
  | .udp2tcp settings => ∃ config, MayUdp2tcp settings data.udp2tcpPorts ip config
  | .shadowsocks settings => ∃ config, MayShadowsocks settings data.shadowsocksPortRanges relay ip config
  | .auto => staggered = true → (∃ config, MayUdp2tcp ⟨.any⟩ data.udp2tcpPorts ip config) ∧
      ∃ config, MayShadowsocks ⟨.any⟩ data.shadowsocksPortRanges relay ip config
  | .off | .quic | .lwo => True

section Contacts

variable {staggered : Bool} {query : WireguardRelayQuery} {data : WireguardEndpointData} {relay : Relay}
  {endpoint : MullvadWireguardEndpoint} {obfuscators : Option Obfuscators}

theorem MayObfuscate.canObfuscate (h : MayObfuscate staggered query data relay endpoint obfuscators) :
    CanObfuscate staggered query data relay endpoint.peer.endpoint.ip := by
  unfold CanObfuscate
  cases h with
  | off h | lwo h | quic h _ => rw [h]; trivial
  | auto h hstaggered => rw [h, hstaggered]; exact fun h => by cases h
  | multiplexer h _ hudp2tcp hshadowsocks _ => rw [h]; exact fun _ => ⟨⟨_, hudp2tcp⟩, _, hshadowsocks⟩
  | udp2tcp h hconfig | shadowsocks h hconfig => rw [h]; exact ⟨_, hconfig⟩

/-- An address that is contacted is the relay's own, or one that the kind of obfuscation has. -/
inductive MayContact (staggered : Bool) (obfuscation : ObfuscationQuery) (relay : Relay) (ip : IpAddr) :
    IpAddr → Prop
  | own : MayContact staggered obfuscation relay ip ip
  | shadowsocks {addr : IpAddr} (huses : obfuscation.usesShadowsocks staggered = true)
      (haddr : addr ∈ relay.shadowsocksAddrs ip) : MayContact staggered obfuscation relay ip addr
  | quic {addr : IpAddr} (huses : obfuscation.usesQuic staggered = true)
      (haddr : addr ∈ relay.quicAddrs ip.version) : MayContact staggered obfuscation relay ip addr

variable {settings : ShadowsocksSettings} {portRanges : List PortRange}

theorem MayShadowsocks.mayContact (huses : obfuscation.usesShadowsocks staggered = true)
    (h : MayShadowsocks settings portRanges relay ip config) :
    MayContact staggered obfuscation relay ip config.endpoint.address.ip := by
  cases h with
  | own _ _ => exact .own
  | extra haddr _ => exact .shadowsocks huses haddr

theorem MayQuic.mayContact (huses : obfuscation.usesQuic staggered = true)
    (h : MayQuic relay ip.version (Option.some config)) :
    MayContact staggered obfuscation relay ip config.endpoint.address.ip := by
  cases h with
  | some _ hip => exact .quic huses hip

theorem getLwoObfuscator_eq (haddress : relay.HasAddress endpoint.peer.endpoint.ip)
    (h : getLwoObfuscator relay endpoint = some config) : config = .lwo endpoint.peer.endpoint := by
  cases hdata : relay.wireguard with
  | none => simp [getLwoObfuscator, hdata] at h
  | some data =>
    cases hlwo : data.lwo with
    | false => simp [getLwoObfuscator, hdata, hlwo, guard] at h
    | true =>
      rw [getLwoObfuscator_of_lwo hdata hlwo haddress] at h
      exact (Option.some.inj h).symm

theorem MayObfuscate.mayContact (h : MayObfuscate staggered query data relay endpoint obfuscators)
    (hfirst : IsFirstHop query relay endpoint.peer) (haddr : addr ∈ contacted endpoint obfuscators) :
    MayContact staggered query.obfuscation relay endpoint.peer.endpoint.ip addr := by
  rcases mem_cons.mp haddr with rfl | haddr
  · exact .own
  obtain ⟨contact, hcontact, rfl⟩ := mem_map.mp haddr
  cases h with
  | off _ | auto _ _ => cases hcontact
  | multiplexer h hstaggered hudp2tcp hshadowsocks hquic =>
    have huses : query.obfuscation.usesShadowsocks staggered = true := by rw [h]; exact hstaggered
    have husesQuic : query.obfuscation.usesQuic staggered = true := by rw [h]; exact hstaggered
    obtain ⟨port, _, _, rfl⟩ := hudp2tcp
    simp only [Option.toList_some, flatMap_singleton, Obfuscators.endpoints,
      Endpoint.mem_sortDedup, map_cons, map_nil, singleton_append, mem_cons,
      List.mem_map, Option.mem_toList] at hcontact
    rcases hcontact with rfl | rfl | rfl | ⟨config, hconfig, rfl⟩
    · exact .own
    · exact .own
    · exact hshadowsocks.mayContact huses
    · obtain rfl := hconfig
      exact hquic.mayContact husesQuic
  | udp2tcp _ hconfig =>
    obtain ⟨port, _, _, rfl⟩ := hconfig
    obtain rfl := mem_singleton.mp hcontact
    exact .own
  | shadowsocks h hconfig =>
    obtain rfl := mem_singleton.mp hcontact
    exact hconfig.mayContact (by rw [h]; rfl)
  | @quic config h hconfig =>
    rw [← hfirst.version] at hconfig
    cases config with
    | none => cases hcontact
    | some config =>
      obtain rfl := mem_singleton.mp hcontact
      exact hconfig.mayContact (by rw [h]; rfl)
  | lwo h =>
    cases hlwo : getLwoObfuscator relay endpoint with
    | none =>
      rw [hlwo] at hcontact
      cases hcontact
    | some config =>
      rw [hlwo] at hcontact
      obtain rfl := mem_singleton.mp hcontact
      rw [getLwoObfuscator_eq hfirst.address hlwo]
      exact .own

/-- Every extra address for Shadowsocks can be drawn. -/
theorem MayShadowsocks.exists_at (h : MayShadowsocks settings portRanges relay ip config) (addr : IpAddr) :
    ∃ config', MayShadowsocks settings portRanges relay ip config' ∧
      (addr ∈ relay.shadowsocksAddrs ip → config'.endpoint.address.ip = addr) := by
  by_cases haddr : addr ∈ relay.shadowsocksAddrs ip
  · cases h with
    | own hnone _ => exact absurd (hnone ▸ haddr) not_mem_nil
    | extra _ hport => exact ⟨_, .extra haddr hport, fun _ => rfl⟩
  · exact ⟨config, h, fun hmem => absurd hmem haddr⟩

theorem exists_mayQuic_at (relay : Relay) (version : IpVersion) (addr : IpAddr) :
    ∃ quic, MayQuic relay version quic ∧
      (addr ∈ relay.quicAddrs version → ∃ config, quic = some config ∧ config.endpoint.address.ip = addr) := by
  have hsome : ∀ addr ∈ relay.quicAddrs version,
      ∃ config, MayQuic relay version (some config) ∧ config.endpoint.address.ip = addr := by
    intro addr haddr
    cases hquic : relay.quic with
    | none =>
      rw [Relay.quicAddrs, hquic] at haddr
      cases haddr
    | some quic => exact ⟨_, .some hquic haddr, rfl⟩
  by_cases haddr : addr ∈ relay.quicAddrs version
  · obtain ⟨config, hconfig, hip⟩ := hsome addr haddr
    exact ⟨_, hconfig, fun _ => ⟨config, rfl, hip⟩⟩
  cases haddrs : relay.quicAddrs version with
  | nil => exact ⟨none, .none haddrs, fun h => by cases h⟩
  | cons first addrs =>
    obtain ⟨config, hconfig, -⟩ := hsome first (haddrs ▸ mem_cons_self ..)
    exact ⟨_, hconfig, fun hmem => absurd (haddrs ▸ hmem) haddr⟩

theorem mem_contacted_single : config.endpoint.address.ip ∈ contacted endpoint (some (.single config)) := by
  simp [contacted, Obfuscators.endpoints]

theorem mem_contacted_multiplexer {direct first}
    {remaining} (h : config ∈ remaining) :
    config.endpoint.address.ip ∈ contacted endpoint (some (.multiplexer direct first remaining)) := by
  refine mem_cons_of_mem _ (mem_map_of_mem ?_)
  simp only [Option.toList_some, flatMap_singleton, Obfuscators.endpoints, Endpoint.mem_sortDedup]
  exact mem_append_right _ (mem_cons_of_mem _ (mem_map_of_mem h))

theorem MayContact.eq_own (h : MayContact staggered obfuscation relay ip addr)
    (hshadowsocks : obfuscation.usesShadowsocks staggered = false)
    (hquic : obfuscation.usesQuic staggered = false) : addr = ip := by
  cases h with
  | own => rfl
  | shadowsocks huses _ => cases hshadowsocks.symm.trans huses
  | quic huses _ => cases hquic.symm.trans huses

/-- Whatever may be contacted is contacted on some draws. -/
theorem exists_contact (hversion : endpoint.peer.endpoint.ip.version = resolveIpVersion query.ipVersion)
    (hcan : CanObfuscate staggered query data relay endpoint.peer.endpoint.ip)
    (hcontact : MayContact staggered query.obfuscation relay endpoint.peer.endpoint.ip addr) :
    ∃ obfuscators, MayObfuscate staggered query data relay endpoint obfuscators ∧
      addr ∈ contacted endpoint obfuscators := by
  obtain ⟨quic, hquic, hquicAddr⟩ := exists_mayQuic_at relay endpoint.peer.endpoint.ip.version addr
  unfold CanObfuscate at hcan
  cases h : query.obfuscation <;> rw [h] at hcan hcontact
  case off =>
    obtain rfl := hcontact.eq_own rfl rfl
    exact ⟨none, .off h, mem_cons_self ..⟩
  case lwo =>
    obtain rfl := hcontact.eq_own rfl rfl
    exact ⟨_, .lwo h, mem_cons_self ..⟩
  case udp2tcp settings =>
    obtain rfl := hcontact.eq_own rfl rfl
    obtain ⟨config, hconfig⟩ := hcan
    exact ⟨_, .udp2tcp h hconfig, mem_cons_self ..⟩
  case shadowsocks settings =>
    obtain ⟨_, hsome⟩ := hcan
    obtain ⟨config, hconfig, haddr⟩ := hsome.exists_at addr
    refine ⟨_, .shadowsocks h hconfig, ?_⟩
    cases hcontact with
    | own => exact mem_cons_self ..
    | shadowsocks _ hmem => exact haddr hmem ▸ mem_contacted_single
    | quic huses _ => cases huses
  case quic =>
    refine ⟨_, .quic h (hversion ▸ hquic), ?_⟩
    cases hcontact with
    | own => exact mem_cons_self ..
    | shadowsocks huses _ => cases huses
    | quic _ hmem =>
      obtain ⟨config, rfl, rfl⟩ := hquicAddr hmem
      exact mem_contacted_single
  case auto =>
    cases hstaggered : staggered with
    | false =>
      obtain rfl := hcontact.eq_own hstaggered hstaggered
      exact ⟨none, .auto h rfl, mem_cons_self ..⟩
    | true =>
      obtain ⟨⟨udp2tcp, hudp2tcp⟩, _, hsome⟩ := hcan hstaggered
      obtain ⟨config, hconfig, haddr⟩ := hsome.exists_at addr
      refine ⟨_, .multiplexer h rfl hudp2tcp hconfig hquic, ?_⟩
      cases hcontact with
      | own => exact mem_cons_self ..
      | shadowsocks _ hmem => exact haddr hmem ▸ mem_contacted_multiplexer (mem_cons_self ..)
      | quic _ hmem =>
        obtain ⟨config, rfl, rfl⟩ := hquicAddr hmem
        exact mem_contacted_multiplexer (mem_cons_of_mem _ (mem_singleton_self _))

end Contacts

/-- If the first hop has an override, then all addresses of that version that are contacted are the
overriding one. -/
def HonoursOverrides (overrides : List RelayOverride) : GetRelay → Prop
  | .wireguard endpoint obfuscator inner => ∀ override ∈ overrides,
      override.hostname = inner.firstHop.hostname → ∀ ip, override.HasAddress ip →
        ∀ addr ∈ contacted endpoint (obfuscator.map SelectedObfuscator.config),
          addr.version = ip.version → addr = ip
  | .openVpn _ _ _ | .custom _ => True

/-- How another address than the overriding one can come to be contacted. -/
inductive Bypasses (staggered : Bool) (obfuscation : ObfuscationQuery) (list : RelayList) (relay : Relay)
    (ip : IpAddr) : Prop
  | quic {addr : IpAddr} (huses : obfuscation.usesQuic staggered = true)
      (haddr : addr ∈ relay.quicAddrs ip.version) (hne : addr ≠ ip)
  | own (hshared : list.SharesHostname relay) (hne : ¬ relay.HasAddress ip)
  | shadowsocks {addr : IpAddr} (hshared : list.SharesHostname relay)
      (huses : obfuscation.usesShadowsocks staggered = true) (haddr : addr ∈ relay.shadowsocksAddrs ip)
      (hne : addr ≠ ip)

section Search

variable {δ : Type} [LinearOrder δ] (platform : Platform δ)
variable (query : RelayQuery) (customLists : List CustomList) (list : RelayList)
variable (overrides : List RelayOverride)

/-- The search can end at a first hop that has an override, and addresses that bypass it. -/
inductive OverrideMissed : Prop
  | mk {inner : WireguardConfig} {override : RelayOverride} {own ip : IpAddr} {port : BitVec 16}
      (hprotocol : query.tunnelProtocol = .wireguard)
      (hselect : MaySelect platform query customLists (parseRelayList list overrides) inner)
      (haddress : getAddressForWireguardRelay query.wireguardConstraints inner.firstHop = .ok own)
      (hport : MayPort list.wireguard.portRanges query.wireguardConstraints.port port)
      (hobfuscation : CanObfuscate platform.staggeredObfuscation query.wireguardConstraints
        (parseRelayList list overrides).wireguard inner.firstHop own)
      (hoverride : override ∈ overrides) (hhostname : override.hostname = inner.firstHop.hostname)
      (hip : override.HasAddress ip) (hversion : own.version = ip.version)
      (hbypass : Bypasses platform.staggeredObfuscation query.wireguardConstraints.obfuscation list
        inner.firstHop ip)

variable {platform query customLists list overrides}

theorem isIpv4_eq_of_version_eq {a b : IpAddr} (h : a.version = b.version) : a.isIpv4 = b.isIpv4 := by
  cases a <;> cases b <;> first | rfl | cases h

theorem shadowsocksAddrs_congr (relay : Relay) (h : ip.version = ip'.version) :
    relay.shadowsocksAddrs ip = relay.shadowsocksAddrs ip' := by
  unfold Relay.shadowsocksAddrs
  rw [isIpv4_eq_of_version_eq h]

variable {relay : Relay}

theorem version_of_mem_shadowsocksAddrs (h : addr ∈ relay.shadowsocksAddrs ip) :
    addr.version = ip.version := by
  have heq := beq_iff_eq.mp (mem_filter.mp h).2
  cases addr <;> cases ip <;> first | rfl | cases heq

theorem version_of_mem_quicAddrs {version}
    (h : addr ∈ relay.quicAddrs version) : addr.version = version := by
  unfold Relay.quicAddrs at h
  cases hquic : relay.quic with
  | none =>
    rw [hquic] at h
    cases h
  | some quic =>
    rw [hquic] at h
    cases version with
    | v4 =>
      have hv4 := (mem_filter.mp h).2
      cases addr <;> first | rfl | cases hv4
    | v6 =>
      have hv6 := (mem_filter.mp h).2
      cases addr <;> first | rfl | cases hv6

theorem Selected.mem {inner} (h : Selected query customLists list inner) :
    inner.firstHop ∈ list.relays := by
  cases h with
  | singlehop _ hexit => exact hexit.mem
  | automatic _ _ _ hentry _ | multihop _ hentry _ => exact hentry.mem

variable {staggered : Bool}

theorem MayContact.version
    (h : MayContact staggered obfuscation relay own addr) : addr.version = own.version := by
  cases h with
  | own => rfl
  | shadowsocks _ haddr => exact version_of_mem_shadowsocksAddrs haddr
  | quic _ haddr => exact version_of_mem_quicAddrs haddr

theorem IsFirstHop.getAddress {query peer}
    (h : IsFirstHop query relay peer) : getAddressForWireguardRelay query relay = .ok peer.endpoint.ip := by
  have haddress := h.address
  unfold getAddressForWireguardRelay
  rw [← h.version]
  cases hip : peer.endpoint.ip with
  | v4 bits =>
    rw [hip] at haddress
    have hbits : relay.ipv4AddrIn = bits := haddress
    simp only [IpAddr.version, hbits]
  | v6 bits =>
    rw [hip] at haddress
    have hbits : relay.ipv6AddrIn = some bits := haddress
    simp only [IpAddr.version, hbits]

theorem map_config (obfuscators : Option Obfuscators) (relay : Relay) :
    (obfuscators.map fun config => (⟨config, relay⟩ : SelectedObfuscator)).map
      SelectedObfuscator.config = obfuscators := by
  cases obfuscators <;> rfl

theorem Bypasses.exists_mayContact (h : Bypasses staggered obfuscation list relay ip)
    (hown : relay.HasAddress own) (hversion : own.version = ip.version) :
    ∃ addr, MayContact staggered obfuscation relay own addr ∧ addr.version = ip.version ∧ addr ≠ ip := by
  cases h with
  | @quic addr huses haddr hne =>
    exact ⟨addr, .quic huses (hversion ▸ haddr), version_of_mem_quicAddrs haddr, hne⟩
  | own _ hne => exact ⟨own, .own, hversion, fun heq => hne (heq ▸ hown)⟩
  | @shadowsocks addr _ huses haddr hne =>
    exact ⟨addr, .shadowsocks huses (shadowsocksAddrs_congr relay hversion ▸ haddr),
      version_of_mem_shadowsocksAddrs haddr, hne⟩

/-- What may be contacted and is not the overriding address bypasses the override. -/
theorem MayContact.bypasses (hunique : (overrides.map hostname).Nodup)
    (hrelay : relay ∈ (parseRelayList list overrides).relays) (hoverride : override ∈ overrides)
    (hhostname : override.hostname = relay.hostname) (hip : override.HasAddress ip)
    (hown : relay.HasAddress own) (hversion : own.version = ip.version) (hne : addr ≠ ip)
    (h : MayContact staggered obfuscation relay own addr) : Bypasses staggered obfuscation list relay ip := by
  have happlied : ¬ list.SharesHostname relay → relay.HasAddress ip ∧ relay.shadowsocksAddrs ip = [] := by
    intro hshared
    obtain ⟨relay, rfl⟩ := applied_of_not_sharesHostname hunique hrelay hoverride hhostname hshared
    exact ⟨applyToRelay_hasAddress hip relay, applyToRelay_shadowsocksAddrs hip relay⟩
  cases h with
  | quic huses haddr => exact .quic huses (hversion ▸ haddr) hne
  | own =>
    have hother : ¬ relay.HasAddress ip := fun h => hne (hown.eq h hversion)
    exact .own (by_contra fun hshared => hother (happlied hshared).1) hother
  | shadowsocks huses haddr =>
    rw [shadowsocksAddrs_congr relay hversion] at haddr
    refine .shadowsocks (by_contra fun hshared => ?_) huses haddr hne
    rw [(happlied hshared).2] at haddr
    cases haddr

/-- Overrides are honoured, whatever is drawn, exactly if no first hop that the search can pick has an
override that its addresses for QUIC bypass, or shares its hostname with another relay and bypasses
the override with an address that was left as listed. -/
theorem overrides_honoured_iff (platform : Platform δ) (query : RelayQuery)
    (customLists : List CustomList) (list : RelayList) (overrides : List RelayOverride)
    (hunique : (overrides.map hostname).Nodup) :
    (∀ draws found, ((getRelayInner platform query customLists
        (parseRelayList list overrides)).run draws).1 = .ok found → HonoursOverrides overrides found) ↔
      ¬ OverrideMissed platform query customLists list overrides := by
  constructor
  · rintro hhonours @⟨inner, override, own, ip, port, hprotocol, hselect, haddress, hport, hobfuscation,
      hoverride, hhostname, hip, hversion, hbypass⟩
    obtain ⟨hown, hresolved⟩ := hasAddress_of_getAddress haddress
    obtain ⟨addr, hcontact, haddr, hne⟩ := hbypass.exists_mayContact hown hversion
    obtain ⟨endpoint, hendpoint, hfind⟩ := exists_find hprotocol hselect haddress hport
    obtain rfl : endpoint.peer.endpoint.ip = own := congrArg SocketAddr.ip hendpoint
    obtain ⟨obfuscators, hobfuscators, hcontacted⟩ := exists_contact hresolved hobfuscation hcontact
    obtain ⟨draws, hdraws⟩ := hfind obfuscators hobfuscators
    have hfound := hhonours draws _ (by rw [getRelayInner, hprotocol]; exact hdraws)
    refine hne (hfound override hoverride hhostname ip hip addr ?_ haddr)
    rwa [map_config]
  · intro hmissed draws found hfound
    have hspec := returns_getRelayInner platform query customLists _ draws found hfound
    cases hspec with
    | openVpn _ _ => trivial
    | wireguard hprotocol _ _ _ =>
      rw [getRelayInner, hprotocol] at hfound
      obtain ⟨endpoint, obfuscator, inner, heq, hfind⟩ :=
        returns_mayFind hprotocol draws _ hfound
      cases heq
      obtain ⟨obfuscators, hobfuscators, rfl⟩ := hfind.obfuscator
      have hfirst := hfind.leads.isFirstHop
      intro override hoverride hhostname ip hip addr haddr hversion
      rw [map_config] at haddr
      have hcontact := hobfuscators.mayContact hfirst haddr
      have hversion' := hcontact.version.symm.trans hversion
      by_contra hne
      exact hmissed ⟨hprotocol, hfind.select, hfirst.getAddress, hfind.port, hobfuscators.canObfuscate,
        hoverride, hhostname, hip, hversion', hcontact.bypasses hunique hfind.selected.mem hoverride
          hhostname hip hfirst.address hversion' hne⟩

end Search

namespace Sample

/-- The user reaches the relay in Gothenburg at an address of their own. -/
def relayOverride : RelayOverride :=
  ⟨"se-got-wg-001", some (ipv4Addr 10 0 0 1), none⟩

/-- One relay, whose masque proxy is reached at the address of the relay. -/
def quicIpv4List : RelayList :=
  { relayList with countries :=
    [⟨"se", [⟨"got", ⟨0, 0⟩, [{ relay "se-got-wg-001" (ipv4Addr 185 213 154 68) 1 true with
          endpointData := .wireguard
            { publicKey := ⟨1⟩
              daita := true
              quic := some ⟨[.v4 (ipv4Addr 185 213 154 68)], "token", "se-got-wg-001"⟩
              lwo := false
              shadowsocksExtraAddrIn := [] } }]⟩]⟩] }

end Sample

open RelayQueryBuilder in
theorem overrides_honoured_udp2tcp :
    ∃ endpoint obfuscator inner, ((getRelayInner platform (udp2tcp wireguard) []
        (parseRelayList quicIpv4List [relayOverride])).run id).1 = .ok (.wireguard endpoint obfuscator inner) ∧
      endpoint.peer.endpoint.ip = .v4 (ipv4Addr 10 0 0 1) ∧
      HonoursOverrides [relayOverride] (.wireguard endpoint obfuscator inner) := by
  have hmissed : ¬ OverrideMissed platform (udp2tcp wireguard) [] quicIpv4List [relayOverride] := by
    rintro ⟨_, _, _, _, _, _, _, _, _, hbypass⟩
    have hunshared : ∀ relay, ¬ quicIpv4List.SharesHostname relay :=
      not_sharesHostname_of_nodup (by decide)
    rcases hbypass with ⟨huses, _, _⟩ | ⟨hshared, _⟩ | ⟨hshared, _, _, _⟩
    · cases huses
    all_goals exact hunshared _ hshared
  exact ⟨_, _, _, rfl, rfl, (overrides_honoured_iff platform (udp2tcp wireguard) []
    quicIpv4List [relayOverride] (by decide)).mpr hmissed id _ rfl⟩

open RelayQueryBuilder in
/-- With QUIC, the listed address is contacted although the user has replaced it. -/
theorem override_bypassed :
    ∃ endpoint obfuscator inner, ((getRelayInner platform (quic wireguard) []
        (parseRelayList quicIpv4List [relayOverride])).run id).1 = .ok (.wireguard endpoint obfuscator inner) ∧
      contacted endpoint (obfuscator.map SelectedObfuscator.config) =
        [.v4 (ipv4Addr 10 0 0 1), .v4 (ipv4Addr 185 213 154 68)] ∧
      ¬ HonoursOverrides [relayOverride] (.wireguard endpoint obfuscator inner) := by
  refine ⟨_, _, _, rfl, rfl, fun h => ?_⟩
  have heq := h relayOverride (mem_singleton_self _) rfl (.v4 (ipv4Addr 10 0 0 1)) rfl
    (.v4 (ipv4Addr 185 213 154 68)) (mem_cons_of_mem _ (mem_singleton_self _)) rfl
  exact absurd heq (by decide)

end MullvadVpn.Relays
