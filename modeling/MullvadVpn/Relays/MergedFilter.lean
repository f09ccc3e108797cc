import MullvadVpn.Relays.Preferences
import MullvadVpn.Relays.QueryLaws

/-!
What merging two queries means for the relays that match. A merged query asks for at least what each of
the two does, so it should only match relays that match both. The exception is the obfuscation: merging
with `off` drops what the other query asks of a relay, and an IP version that only one of the queries
asks for changes which extra addresses the Shadowsocks port of the other is looked up on.
-/

namespace MullvadVpn.Relays

open Net Systems Intersection LawfulIntersection Constraint

variable {list : RelayList} {customLists : List CustomList} {relay : Relay}

theorem Constraint.any_or_eq_of_refines {α : Type} [DecidableEq α] [PartialEqIntersection α]
    {constraint user : Constraint α} (h : Refines constraint user) : user = .any ∨ constraint = user := by
  cases user with
  | any => exact .inl rfl
  | only value => exact .inr (eq_only_of_refines h)

/-- How what the first query asks of the obfuscation can be lost on a relay when it is merged with the
second. -/
inductive ObfuscationLost (query other : WireguardRelayQuery) (list : RelayList) (relay : Relay) : Prop
  | off (hoff : other.obfuscation = .off) (hlacks : filterOnObfuscation query list relay = false)
  | version {port data}
      (hquery : query.obfuscation = .shadowsocks ⟨.only port⟩) (hany : query.ipVersion = .any)
      (hv6 : other.ipVersion = .only .v6) (hdata : relay.wireguard = some data)
      (hranges : ∀ range ∈ list.wireguard.shadowsocksPortRanges, range.contains port = false)
      (hextra : ∀ addr ∈ data.shadowsocksExtraAddrIn, addr.version ≠ .v4)

variable {data : WireguardRelayEndpointData}

theorem filterOnQuic_of_refines {ipVersion user : Constraint IpVersion} (h : Refines ipVersion user)
    (hpasses : filterOnQuic ipVersion data = true) : filterOnQuic user data = true := by
  rcases any_or_eq_of_refines h with rfl | rfl
  · unfold filterOnQuic at hpasses ⊢
    cases hquic : data.quic with
    | none => simp [hquic] at hpasses
    | some quic => rfl
  · exact hpasses

theorem ObfuscationQuery.off_of_intersection {a b : ObfuscationQuery}
    (h : intersection a b = some .off) : a = .off ∨ b = .off := by
  cases a with
  | off => exact .inl rfl
  | auto => exact .inr (Option.some.inj ((auto_intersection b).symm.trans h))
  | udp2tcp a | shadowsocks a =>
    cases b with
    | off => exact .inr rfl
    | udp2tcp b | shadowsocks b => simp [intersection] at h
    | _ => cases h
  | quic | lwo =>
    cases b with
    | off => exact .inr rfl
    | _ => cases h

theorem WireguardRelayQuery.ipVersion_obfuscation_of_intersect {a b merged : WireguardRelayQuery}
    (h : a.intersect b = some merged) :
    intersection a.ipVersion b.ipVersion = some merged.ipVersion ∧
      intersection a.obfuscation b.obfuscation = some merged.obfuscation := by
  simp only [intersect, Option.bind_eq_bind, Option.bind_eq_some_iff] at h
  obtain ⟨_, -, _, hversion, _, -, _, -, _, -, _, hobfuscation, _, -, _, -, _, -, ⟨⟩⟩ := h
  exact ⟨hversion, hobfuscation⟩

/-- The port of a Shadowsocks query is looked up on addresses of another IP version only if that version
was merged in. -/
theorem shadowsocksLost_of_not_passes {query other merged : Constraint IpVersion}
    {portRanges : List PortRange} {settings refined : ShadowsocksSettings}
    (hversion : intersection query other = some merged) (hsettings : Refines refined settings)
    (hpasses : filterOnShadowsocks portRanges merged refined data = true)
    (hfails : filterOnShadowsocks portRanges query settings data = false) :
    ∃ port, settings = ⟨.only port⟩ ∧ query = .any ∧ other = .only .v6 ∧
      (∀ range ∈ portRanges, range.contains port = false) ∧
      ∀ addr ∈ data.shadowsocksExtraAddrIn, addr.version ≠ .v4 := by
  obtain ⟨port | port⟩ := settings
  · cases hfails
  have hrefined : refined = ⟨.only port⟩ := by
    obtain ⟨refined⟩ := refined
    exact congrArg _ (eq_only_of_refines hsettings)
  simp only [filterOnShadowsocks, hrefined] at hpasses hfails
  obtain ⟨hextra, hranges⟩ := (Bool.or_eq_false_iff ..).mp hfails
  rw [hranges, Bool.or_false] at hpasses
  have hresolve : resolveIpVersion merged ≠ resolveIpVersion query := by
    intro heq
    rw [heq, hextra] at hpasses
    cases hpasses
  rcases any_or_eq_of_refines (refines_left hversion) with rfl | rfl
  · rw [any_intersection, Option.some.injEq] at hversion
    subst hversion
    refine ⟨port, rfl, rfl, ?_, ?_, ?_⟩
    · rcases other with _ | _ | _
      · exact absurd rfl hresolve
      · exact absurd rfl hresolve
      · rfl
    · simpa using hranges
    · simpa [resolveIpVersion] using hextra
  · exact absurd rfl hresolve

theorem obfuscationLost_of_not_passes {query other merged : WireguardRelayQuery}
    (h : query.intersect other = some merged) (hpasses : filterOnObfuscation merged list relay = true)
    (hfails : filterOnObfuscation query list relay = false) : ObfuscationLost query other list relay := by
  obtain ⟨hversion, hobfuscation⟩ := WireguardRelayQuery.ipVersion_obfuscation_of_intersect h
  by_cases hoff : merged.obfuscation = .off
  · rw [hoff] at hobfuscation
    rcases ObfuscationQuery.off_of_intersection hobfuscation with hquery | hother
    · simp only [filterOnObfuscation, hquery] at hfails
      split at hfails <;> cases hfails
    · exact .off hother hfails
  unfold filterOnObfuscation at hpasses hfails
  cases hdata : relay.wireguard with
  | none => simp [hdata] at hfails
  | some data =>
    simp only [hdata] at hpasses hfails
    have hbelow : ObfuscationQuery.Below merged.obfuscation query.obfuscation :=
      refines_left hobfuscation
    generalize hmerged : merged.obfuscation = refined at hpasses hbelow hoff
    generalize hquery : query.obfuscation = asked at hfails hbelow
    cases hbelow with
    | off => exact absurd rfl hoff
    | auto | udp2tcp hrefines => cases hfails
    | shadowsocks hrefines =>
      obtain ⟨port, rfl, hany, hv6, hranges, hextra⟩ :=
        shadowsocksLost_of_not_passes hversion hrefines hpasses hfails
      exact .version hquery hany hv6 hdata hranges hextra
    | quic =>
      have hpasses := filterOnQuic_of_refines (refines_left hversion) hpasses
      exact absurd (hpasses.symm.trans hfails) Bool.noConfusion
    | lwo => exact absurd (hpasses.symm.trans hfails) Bool.noConfusion

/-- A relay that matches a merged query matches the first of the two, unless what that one asks of the
obfuscation was lost. -/
theorem matches_iff_of_intersect {query other merged : RelayQuery}
    (h : query.intersect other = some merged) (hmatch : Matches merged list customLists relay) :
    Matches query list customLists relay ↔
      ¬ObfuscationLost query.wireguardConstraints other.wireguardConstraints list relay := by
  have hhonours : merged.Honours query :=
    RelayQuery.honours_of_intersect ((RelayQuery.intersection_comm other query).trans h)
  have hwireguard : query.wireguardConstraints.intersect other.wireguardConstraints =
      some merged.wireguardConstraints := by
    simp only [RelayQuery.intersect, Option.bind_eq_bind, Option.bind_eq_some_iff] at h
    obtain ⟨_, -, _, -, _, -, _, -, _, hwireguard, _, -, ⟨⟩⟩ := h
    exact hwireguard
  constructor
  · intro hquery hlost
    refine absurd hquery.obfuscation (Bool.eq_false_iff.mp ?_)
    cases hlost with
    | off hoff hlacks => exact hlacks
    | version hquery hany hv6 hdata hranges hextra =>
      simp only [filterOnObfuscation, hdata, hquery, filterOnShadowsocks, hany, resolveIpVersion,
        Bool.or_eq_false_iff, List.any_eq_false, beq_iff_eq]
      exact ⟨hextra, fun range hrange => by simp [hranges range hrange]⟩
  · intro hkept
    have hprotocol : merged.tunnelProtocol = query.tunnelProtocol := hhonours.tunnelProtocol
    exact
      { mem := hmatch.mem
        tunnelType := hprotocol ▸ hmatch.tunnelType
        active := hmatch.active
        location := by
          rcases any_or_eq_of_refines hhonours.location with h | h
          · rw [h]; rfl
          · exact h ▸ hmatch.location
        ownership := satisfiedBy_of_refines hhonours.ownership hmatch.ownership
        providers := satisfiedBy_of_refines hhonours.providers hmatch.providers
        daita := by
          rcases any_or_eq_of_refines hhonours.wireguard.daita with h | h
          · rw [h]; rfl
          · exact h ▸ hmatch.daita
        obfuscation := Bool.of_not_eq_false fun hfails =>
          hkept (obfuscationLost_of_not_passes hwireguard hmatch.obfuscation hfails) }

/-- The relays that match a merged query match both queries, except for those on which the obfuscation
that one of the queries asks for was lost. -/
theorem merged_filter_sound_iff {a b merged : RelayQuery} (h : a.intersect b = some merged)
    (list : RelayList) (customLists : List CustomList) (relay : Relay) :
    (relay ∈ filterMatchingRelayListIncludeAll merged list customLists →
        relay ∈ filterMatchingRelayListIncludeAll a list customLists ∧
          relay ∈ filterMatchingRelayListIncludeAll b list customLists) ↔
      (relay ∈ filterMatchingRelayListIncludeAll merged list customLists →
        ¬ObfuscationLost a.wireguardConstraints b.wireguardConstraints list relay ∧
          ¬ObfuscationLost b.wireguardConstraints a.wireguardConstraints list relay) := by
  simp only [mem_filterMatchingRelayListIncludeAll]
  refine imp_congr_right fun hmatch => and_congr ?_ ?_
  · exact matches_iff_of_intersect h hmatch
  · exact matches_iff_of_intersect ((RelayQuery.intersection_comm b a).trans h) hmatch

open RelayQueryBuilder in
/-- The relay of the first city, for a user who asks for IPv6 and an attempt over TCP. -/
theorem merged_filter_sound_udp2tcp :
    ∃ merged relay, (udp2tcp wireguard).intersect (ipVersion wireguard .v6) = some merged ∧
      relay.hostname = "se-got-wg-001" ∧
      relay ∈ filterMatchingRelayListIncludeAll merged Sample.relayList [] ∧
      relay ∈ filterMatchingRelayListIncludeAll (udp2tcp wireguard) Sample.relayList [] ∧
        relay ∈ filterMatchingRelayListIncludeAll (ipVersion wireguard .v6) Sample.relayList [] := by
  refine ⟨_, _, rfl, rfl, .head _, ?_⟩
  refine (merged_filter_sound_iff (a := udp2tcp wireguard) (b := ipVersion wireguard .v6) rfl
    Sample.relayList [] _).mpr ?_ (.head _)
  intro _
  constructor
  all_goals
    rintro (⟨hoff, _⟩ | ⟨hquery, _⟩)
    · cases hoff
    · cases hquery

open RelayQueryBuilder in
/-- Merged with `off`, a query for QUIC matches a relay that does not offer QUIC. -/
theorem quic_filter_lost :
    ∃ merged relay, (quic wireguard).intersect (obfuscation wireguard .off) = some merged ∧
      relay ∈ filterMatchingRelayListIncludeAll merged Sample.relayList [] ∧
      filterMatchingRelayListIncludeAll (quic wireguard) Sample.relayList [] = [] :=
  ⟨_, _, rfl, .head _, rfl⟩

end MullvadVpn.Relays
