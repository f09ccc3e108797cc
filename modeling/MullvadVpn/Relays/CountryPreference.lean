import MullvadVpn.Relays.Preferences

/-!
The preference for relays that are flagged `include_in_country` (`relay_selector/matcher.rs`). It leaves
some of the candidates, and which ones depends on the sets of relays and locations only. It is meant for
countries, but one country among the locations brings it into effect for all candidates, also for those
of cities and hostnames. Relays are compared as the source compares them: by hostname.
-/

namespace MullvadVpn.Relays

open Net List

variable {query : RelayQuery} {list list' : RelayList} {customLists customLists' : List CustomList}
  {locations : List GeographicLocationConstraint} {relays candidates : List Relay} {hostname : String}

/-- A country is asked for, and one of the relays is flagged. -/
def Preferring (locations : List GeographicLocationConstraint) (relays : List Relay) : Prop :=
  (∃ location ∈ locations, location.isCountry = true) ∧ ∃ relay ∈ relays, relay.includeInCountry = true

theorem mem_hostname_included :
    hostname ∈ (collectRelays includedInCountry locations relays).map Relay.hostname ↔
      (∃ location ∈ locations, location.isCountry = true) ∧
        ∃ relay ∈ relays, relay.includeInCountry = true ∧ relay.hostname = hostname := by
  rw [mem_hostname_collectRelays]
  simp only [includedInCountry, mem_map, mem_filter, Bool.and_eq_true]
  constructor
  · rintro ⟨location, hlocation, relay, ⟨hrelay, hcountry, hflag⟩, rfl⟩
    exact ⟨⟨location, hlocation, hcountry⟩, relay, hrelay, hflag, rfl⟩
  · rintro ⟨⟨location, hlocation, hcountry⟩, relay, hrelay, hflag, rfl⟩
    exact ⟨location, hlocation, relay, ⟨hrelay, hcountry, hflag⟩, rfl⟩

theorem included_isEmpty_iff :
    (collectRelays includedInCountry locations relays).isEmpty = true ↔ ¬ Preferring locations relays := by
  rw [List.isEmpty_iff, ← List.map_eq_nil_iff (f := Relay.hostname), List.eq_nil_iff_forall_not_mem]
  simp only [mem_hostname_included, Preferring]
  grind

theorem mem_hostname_preferredRelays :
    hostname ∈ (preferredRelays locations relays).map Relay.hostname ↔ locations ≠ [] ∧ ∃ relay ∈ relays,
        (Preferring locations relays → relay.includeInCountry = true) ∧ relay.hostname = hostname := by
  unfold preferredRelays
  dsimp only
  by_cases hprefer : Preferring locations relays
  · rw [if_neg (mt included_isEmpty_iff.mp (not_not.mpr hprefer)), mem_hostname_included]
    have hne : locations ≠ [] := by
      obtain ⟨⟨location, hlocation, _⟩, _⟩ := hprefer
      exact ne_nil_of_mem hlocation
    simp only [hprefer, hprefer.1, hne, true_and, forall_const, ne_eq, not_false_eq_true]
  · rw [if_pos (included_isEmpty_iff.mpr hprefer), mem_hostname_collectRelays]
    simp only [includedInCountry, mem_map, mem_filter]
    constructor
    · rintro ⟨location, hlocation, relay, ⟨hrelay, _⟩, rfl⟩
      exact ⟨ne_nil_of_mem hlocation, relay, hrelay, fun h => absurd h hprefer, rfl⟩
    · rintro ⟨hne, relay, hrelay, _, rfl⟩
      obtain ⟨location, hlocation⟩ := exists_mem_of_ne_nil _ hne
      refine ⟨location, hlocation, relay, ⟨hrelay, ?_⟩, rfl⟩
      by_contra hincluded
      have hboth : location.isCountry = true ∧ relay.includeInCountry = true := by simpa using hincluded
      exact hprefer ⟨⟨location, hlocation, hboth.1⟩, relay, hrelay, hboth.2⟩

variable (query list customLists) in
def Prefers : Prop :=
  ∃ locations, resolveLocation query.location customLists = .only locations ∧
    (∃ location ∈ locations, location.isCountry = true) ∧
      ∃ relay, Matches query list customLists relay ∧ relay.includeInCountry = true

theorem MayMatch.mem_hostname_iff (h : MayMatch query customLists list candidates) :
    hostname ∈ candidates.map Relay.hostname ↔ ∃ relay, Matches query list customLists relay ∧
        (Prefers query list customLists → relay.includeInCountry = true) ∧ relay.hostname = hostname := by
  unfold MayMatch at h
  unfold Prefers
  cases hresolve : resolveLocation query.location customLists with
  | any =>
    rw [hresolve] at h
    simp [h, mem_filterMatchingRelayListIncludeAll]
  | only locations =>
    rw [hresolve] at h
    rw [(h.map _).mem_iff, mem_hostname_preferredRelays]
    simp only [Preferring, mem_filterMatchingRelayListIncludeAll, Constraint.only.injEq, exists_eq_left']
    refine and_iff_right_of_imp fun ⟨relay, hrelay, _⟩ => ?_
    have hlocation := hrelay.location
    rw [hresolve] at hlocation
    obtain ⟨location, hmem, _⟩ := any_eq_true.mp hlocation
    exact ne_nil_of_mem hmem

/-- The same relays in another order, and the same custom lists up to the order of their locations and
up to repeated ones. -/
structure Rearranged (list list' : RelayList) (customLists customLists' : List CustomList) : Prop where
  relays : list'.relays.Perm list.relays
  wireguard : list'.wireguard = list.wireguard
  customLists : Forall₂ (fun a b : CustomList => b.id = a.id ∧
    ∀ location, location ∈ b.locations ↔ location ∈ a.locations) customLists customLists'

section

variable (h : Rearranged list list' customLists customLists')

include h

theorem Rearranged.resolve (constraint : Constraint LocationConstraint) :
    resolveLocation constraint customLists' = resolveLocation constraint customLists ∨
      ∃ locations locations', resolveLocation constraint customLists = .only locations ∧
        resolveLocation constraint customLists' = .only locations' ∧
          ∀ location, location ∈ locations' ↔ location ∈ locations := by
  rcases constraint with _ | ⟨location | listId⟩
  · exact .inl rfl
  · exact .inl rfl
  · refine .inr ⟨_, _, rfl, rfl, fun location => ?_⟩
    have hlists := h.customLists
    clear h
    induction hlists with
    | nil => exact Iff.rfl
    | @cons a b _ _ hhead _ ih =>
      obtain ⟨hid, hmem⟩ := hhead
      rw [find?_cons, find?_cons, hid]
      cases a.id == listId with
      | true => exact hmem location
      | false => exact ih

theorem Rearranged.matches_iff {relay : Relay} :
    Matches query list' customLists' relay ↔ Matches query list customLists relay := by
  have hlocation : filterOnLocation (resolveLocation query.location customLists') relay =
      filterOnLocation (resolveLocation query.location customLists) relay := by
    rcases h.resolve query.location with heq | ⟨locations, locations', heq, heq', hmem⟩
    · rw [heq]
    · rw [heq, heq', Bool.eq_iff_iff]
      simp [filterOnLocation, Constraint.satisfiedBy, hmem]
  have hobfuscation : filterOnObfuscation query.wireguardConstraints list' relay =
      filterOnObfuscation query.wireguardConstraints list relay := by
    unfold filterOnObfuscation
    rw [h.wireguard]
  constructor
  · rintro ⟨hmem, htunnel, hactive, hloc, hownership, hproviders, hdaita, hobf⟩
    exact ⟨h.relays.mem_iff.mp hmem, htunnel, hactive, hlocation ▸ hloc, hownership, hproviders, hdaita,
      hobfuscation ▸ hobf⟩
  · rintro ⟨hmem, htunnel, hactive, hloc, hownership, hproviders, hdaita, hobf⟩
    exact ⟨h.relays.mem_iff.mpr hmem, htunnel, hactive, hlocation.symm ▸ hloc, hownership, hproviders,
      hdaita, hobfuscation.symm ▸ hobf⟩

theorem Rearranged.prefers_iff : Prefers query list' customLists' ↔ Prefers query list customLists := by
  unfold Prefers
  simp only [h.matches_iff]
  rcases h.resolve query.location with heq | ⟨locations, locations', heq, heq', hmem⟩
  · rw [heq]
  · simp [heq, heq', hmem]

end

theorem MayMatch.includeInCountry (h : MayMatch query customLists list candidates)
    (hprefers : Prefers query list customLists) {relay : Relay} (hrelay : relay ∈ candidates) :
    relay.includeInCountry = true := by
  obtain ⟨locations, hresolve, hcountry, other, hother, hflag⟩ := hprefers
  unfold MayMatch preferredRelays at h
  rw [hresolve] at h
  have hprefer : Preferring locations (filterMatchingRelayListIncludeAll query list customLists) :=
    ⟨hcountry, other, mem_filterMatchingRelayListIncludeAll.mpr hother, hflag⟩
  dsimp only at h
  rw [if_neg (mt included_isEmpty_iff.mp (not_not.mpr hprefer))] at h
  obtain ⟨_, location, _, hselect⟩ := mem_collectRelays (h.mem_iff.mp hrelay)
  exact (Bool.and_eq_true_iff.mp hselect).2

/-- What the preference for flagged relays leaves, whatever is drawn: some of the candidates, the same
ones for rearranged relays and locations, and flagged ones where there are any in a country. -/
theorem country_preference (query : RelayQuery) (list : RelayList) (customLists : List CustomList)
    (draws : Nat → Nat) :
    (filterMatchingRelayList query list customLists draws).1 ⊆
        filterMatchingRelayListIncludeAll query list customLists ∧
      ((filterMatchingRelayList query list customLists draws).1 = [] →
        filterMatchingRelayListIncludeAll query list customLists = []) ∧
      (∀ list' customLists' draws', Rearranged list list' customLists customLists' →
        ∀ relay, (filterMatchingRelayList query list' customLists' draws').1.contains relay =
          (filterMatchingRelayList query list customLists draws).1.contains relay) ∧
      ∀ locations, resolveLocation query.location customLists = .only locations →
        (∃ location ∈ locations, location.isCountry = true) →
        (∃ relay ∈ filterMatchingRelayListIncludeAll query list customLists, relay.includeInCountry = true) →
        ∀ relay ∈ (filterMatchingRelayList query list customLists draws).1, relay.includeInCountry = true := by
  have hmatch := (outcomes_filterMatchingRelayList query customLists list).always draws
  refine ⟨fun relay hrelay => ?_, fun hnil => ?_, fun list' customLists' draws' h relay => ?_,
    fun locations hresolve hcountry ⟨relay, hrelay, hflag⟩ => ?_⟩
  · exact mem_filterMatchingRelayListIncludeAll.mpr (hmatch.matching hrelay)
  · refine eq_nil_iff_forall_not_mem.mpr fun relay hrelay => ?_
    exact hmatch.ne_nil (mem_filterMatchingRelayListIncludeAll.mp hrelay) hnil
  · have hmatch' := (outcomes_filterMatchingRelayList query customLists' list').always draws'
    rw [Bool.eq_iff_iff, contains_iff, contains_iff, hmatch.mem_hostname_iff, hmatch'.mem_hostname_iff]
    simp only [h.matches_iff, h.prefers_iff]
  · exact fun _ => hmatch.includeInCountry
      ⟨locations, hresolve, hcountry, relay, mem_filterMatchingRelayListIncludeAll.mp hrelay, hflag⟩

/-- A city or hostname among the locations of the query matches the relay. -/
def MatchedOutsideCountries (query : RelayQuery) (customLists : List CustomList) (relay : Relay) : Prop :=
  ∃ locations, resolveLocation query.location customLists = .only locations ∧
    ∃ location ∈ locations, location.isCountry = false ∧ location.matchesRelay relay = true

/-- The preference is in effect, and a city or hostname matches a candidate that is not flagged. -/
def DropsOutsideCountries (query : RelayQuery) (list : RelayList) (customLists : List CustomList) : Prop :=
  Prefers query list customLists ∧
    ∃ relay, Matches query list customLists relay ∧ MatchedOutsideCountries query customLists relay ∧
      ∀ flagged, Matches query list customLists flagged → flagged.includeInCountry = true →
        flagged.hostname ≠ relay.hostname

/-- Candidates are left out only if nothing but countries matches them, and only for flagged ones, exactly
if no country among the locations makes a candidate of a city or hostname be left out. -/
theorem only_countries_preferred_iff (query : RelayQuery) (list : RelayList)
    (customLists : List CustomList) :
    (∀ draws relay, relay ∈ filterMatchingRelayListIncludeAll query list customLists →
      (filterMatchingRelayList query list customLists draws).1.contains relay = false →
        ¬ MatchedOutsideCountries query customLists relay ∧
          ∃ flagged ∈ (filterMatchingRelayList query list customLists draws).1,
            flagged.includeInCountry = true) ↔ ¬ DropsOutsideCountries query list customLists := by
  have hmatch (draws) := (outcomes_filterMatchingRelayList query customLists list).always draws
  have hcontains (draws) (relay : Relay) :=
    (@contains_iff _ relay).trans (hmatch draws).mem_hostname_iff
  simp only [← Bool.not_eq_true, hcontains, mem_filterMatchingRelayListIncludeAll]
  constructor
  · rintro hkept ⟨hprefers, relay, hrelay, houtside, hother⟩
    refine (hkept id relay hrelay ?_).1 houtside
    rintro ⟨flagged, hflagged, hflag, heq⟩
    exact hother flagged hflagged (hflag hprefers) heq
  · intro hnone draws relay hrelay hleft
    have hprefers : Prefers query list customLists := by
      by_contra hall
      exact hleft ⟨relay, hrelay, fun h => absurd h hall, rfl⟩
    refine ⟨fun houtside => hnone ⟨hprefers, relay, hrelay, houtside, ?_⟩, ?_⟩
    · exact fun flagged hflagged hflag heq => hleft ⟨flagged, hflagged, fun _ => hflag, heq⟩
    · obtain ⟨_, _, _, flagged, hflagged, _⟩ := id hprefers
      obtain ⟨other, hother⟩ := exists_mem_of_ne_nil _ ((hmatch draws).ne_nil hflagged)
      exact ⟨other, hother, (hmatch draws).includeInCountry hprefers hother⟩

namespace Sample

def mixedList : CustomList :=
  ⟨0, [.country "se", .city "no" "osl"]⟩

/-- The relay in Oslo is not flagged. -/
def mixedRelays : RelayList :=
  { relayList with countries :=
      [⟨"se", [⟨"got", ⟨0, 0⟩, [relay "se-got-wg-001" (ipv4Addr 185 213 154 68) 1 true]⟩]⟩,
        ⟨"no", [⟨"osl", ⟨1, 1⟩,
          [{ relay "no-osl-wg-001" (ipv4Addr 91 90 44 10) 2 false with includeInCountry := false }]⟩]⟩] }

end Sample

open RelayQueryBuilder in
/-- The city asks for a relay that is left out because of the country. -/
theorem city_left_out :
    ∃ relay ∈ filterMatchingRelayListIncludeAll
        { wireguard with location := .only (.customList Sample.mixedList.id) }
        (parseRelayList Sample.mixedRelays []) [Sample.mixedList],
      (GeographicLocationConstraint.city "no" "osl").matchesRelay relay = true ∧
        (filterMatchingRelayList { wireguard with location := .only (.customList Sample.mixedList.id) }
          (parseRelayList Sample.mixedRelays []) [Sample.mixedList] id).1.contains relay = false :=
  ⟨_, .tail _ (.head _), rfl, rfl⟩

end MullvadVpn.Relays
