import MullvadVpn.Relays.Preferences

/-!
When a search for two relays succeeds, in a list whose relays have different hostnames. With locations
chosen by the user, it does whenever there are an exit and another relay for the entry, whatever is
drawn. An automatic entry is looked for among the candidates closest to the exit only, and the exit
itself may be the closest: then nothing is left once it is excluded.
-/

namespace MullvadVpn.Relays

open Net Systems Attempt Sample List

variable {relays : List Relay}
  {query : RelayQuery} {customLists : List CustomList} {list : RelayList}

def RelayList.UniqueHostnames (list : RelayList) : Prop :=
  (list.relays.map Relay.hostname).Nodup

theorem RelayList.UniqueHostnames.matching (h : list.UniqueHostnames) (query : RelayQuery)
    (customLists : List CustomList) :
    ((filterMatchingRelayListIncludeAll query list customLists).map Relay.hostname).Nodup := by
  refine List.Nodup.sublist (List.Sublist.map _ ?_) h
  unfold filterMatchingRelayListIncludeAll
  dsimp only
  repeat' refine filter_sublist.trans ?_
  exact List.Sublist.refl _

theorem eq_singleton_of_hostname {relay : Relay} (hunique : (relays.map Relay.hostname).Nodup)
    (hrelay : relay ∈ relays) (hsame : ∀ other ∈ relays, other.hostname = relay.hostname) :
    relays = [relay] := by
  have hreplicate : relays.map Relay.hostname = replicate relays.length relay.hostname := by
    rw [← length_map Relay.hostname]
    refine eq_replicate_of_mem fun hostname hhostname => ?_
    obtain ⟨other, hother, rfl⟩ := mem_map.mp hhostname
    exact hsame other hother
  have hle : relays.length ≤ 1 := by
    rw [hreplicate] at hunique
    exact nodup_replicate.mp hunique
  have hpos := length_pos_of_mem hrelay
  obtain ⟨single, rfl⟩ := length_eq_one_iff.mp (le_antisymm hle hpos)
  rw [mem_singleton.mp hrelay]

/-- Where an exit and another relay for the entry are among the candidates, two relays are found: a
candidate that has to be the entry is not taken for the exit. -/
theorem MayCombine.ne_none {exits entries : List Relay} {exit entry : Relay}
    (hentries : (entries.map Relay.hostname).Nodup) (hexit : exit ∈ exits) (hentry : entry ∈ entries)
    (hne : entry.hostname ≠ exit.hostname) : ¬MayCombine exits entries none := by
  intro h
  generalize hresult : (none : Option (Relay × Relay)) = result at h
  cases h with
  | @onlyEntry only picked honly _ hpicked =>
    obtain rfl : picked = none := Option.map_eq_none_iff.mp hresult.symm
    obtain rfl : entry = only := mem_singleton.mp (honly ▸ hentry)
    exact ne_nil_of_mem (mem_excluding.mpr ⟨hexit, hne.symm⟩) hpicked
  | @onlyExit only picked _ honly _ hpicked =>
    obtain rfl : picked = none := Option.map_eq_none_iff.mp hresult.symm
    obtain rfl : exit = only := mem_singleton.mp (honly ▸ hexit)
    exact ne_nil_of_mem (mem_excluding.mpr ⟨hentry, hne⟩) hpicked
  | follow honly _ hfollow =>
    subst hresult
    generalize hresult : (none : Option (Relay × Relay)) = result at hfollow
    cases hfollow with
    | noExit hnil => exact ne_nil_of_mem hexit hnil
    | @exit picked follower hpicked hfollower =>
      obtain rfl : follower = none := Option.map_eq_none_iff.mp hresult.symm
      -- All entries are the picked exit, so there is only one, and it was seen before.
      have hsame : ∀ relay ∈ entries, relay.hostname = picked.hostname := by
        intro relay hrelay
        by_contra hother
        exact ne_nil_of_mem (mem_excluding.mpr ⟨hrelay, hother⟩) hfollower
      have hsingle : entries = [entry] := eq_singleton_of_hostname hentries hentry fun relay hrelay =>
        (hsame relay hrelay).trans (hsame entry hentry).symm
      refine honly entry hsingle ?_
      rw [contains_eq_any_beq, any_eq_true]
      exact ⟨picked, mem_of_mayPick hpicked, Relay.beq_iff.mpr (hsame entry hentry)⟩

/-- There are an exit and another relay for the entry, the preference within countries aside. -/
def HasCombo (query : RelayQuery) (customLists : List CustomList) (list : RelayList) : Prop :=
  ∃ exit entry, exit ∈ filterMatchingRelayListIncludeAll query.forExit list customLists ∧
    entry ∈ filterMatchingRelayListIncludeAll query.forEntry list customLists ∧ entry.hostname ≠ exit.hostname

/-- With locations chosen by the user, two relays are found exactly if there are two, and the two that
are found are different and match what is asked of them. -/
theorem multihop_complete (hunique : list.UniqueHostnames) (hprotocol : query.tunnelProtocol = .wireguard)
    (customLists : List CustomList) (draws : Nat → Nat) :
    ((∃ config, ((getWireguardMultihopConfig query customLists list).run draws).1 = .ok config) ↔
        HasCombo query customLists list) ∧
      ∀ config, ((getWireguardMultihopConfig query customLists list).run draws).1 = .ok config →
        ∃ exit entry, config = .multihop exit entry ∧
          exit ∈ filterMatchingRelayListIncludeAll query.forExit list customLists ∧
          entry ∈ filterMatchingRelayListIncludeAll query.forEntry list customLists ∧
            entry.hostname ≠ exit.hostname := by
  have hexact := exact_getWireguardMultihopConfig customLists list hprotocol
  refine ⟨⟨?_, ?_⟩, fun config hconfig => ?_⟩
  · rintro ⟨config, hconfig⟩
    obtain ⟨⟨exit, entry⟩, hpair, -⟩ := hexact.returns draws config hconfig
    exact ⟨exit, entry, hpair.isCombo exit entry rfl⟩
  · rintro ⟨exit, entry, hexit, hentry, hne⟩
    by_contra hfails
    cases hexact.exists_error_iff.mp ⟨draws, hfails⟩ with
    | fallback _ _ _ hall =>
      exact MayCombine.ne_none (hunique.matching _ customLists) hexit hentry hne hall
  · obtain ⟨⟨exit, entry⟩, hpair, rfl⟩ := hexact.returns draws config hconfig
    exact ⟨exit, entry, rfl, hpair.isCombo exit entry rfl⟩

open RelayQueryBuilder in
/-- From either of the two relays to the other. -/
theorem multihop_complete_two :
    relayList.UniqueHostnames ∧ HasCombo wireguard [] relayList ∧ ∀ draws, ∃ config,
        ((getWireguardMultihopConfig wireguard [] relayList).run draws).1 = .ok config := by
  have hunique : relayList.UniqueHostnames := by
    unfold RelayList.UniqueHostnames
    decide
  have hcombo : HasCombo wireguard [] relayList :=
    ⟨_, _, .head _, .tail _ (.head _), by decide⟩
  exact ⟨hunique, hcombo, fun draws => (multihop_complete hunique rfl [] draws).1.mpr hcombo⟩

section Closest

variable {δ : Type} [LinearOrder δ] {platform : Platform δ}

/-- A relay that is at the place of the exit is left, or else the closest relay to an exit that is no
candidate itself. -/
theorem exists_entryFor [Zero δ] (hunique : list.UniqueHostnames)
    (hnonneg : ∀ a b, 0 ≤ platform.distanceFrom a b) {exit : Relay} (hexit : exit ∈ list.relays)
    (hother : ∃ relay ∈ filterMatchingRelayListIncludeAll query.forAnyEntry list customLists,
      relay.hostname ≠ exit.hostname)
    (hnear : exit ∈ filterMatchingRelayListIncludeAll query.forAnyEntry list customLists →
      ∃ relay ∈ filterMatchingRelayListIncludeAll query.forAnyEntry list customLists,
        relay.hostname ≠ exit.hostname ∧ platform.distance relay exit.location.coordinates = 0) :
    entriesFor platform query customLists list exit ≠ [] := by
  by_cases hcandidate : exit ∈ filterMatchingRelayListIncludeAll query.forAnyEntry list customLists
  · obtain ⟨relay, hrelay, hne, hzero⟩ := hnear hcandidate
    refine ne_nil_of_mem (mem_excluding.mpr ⟨mem_closestRelays_iff.mpr ⟨hrelay, ?_⟩, hne⟩)
    intro other _
    rw [hzero]
    exact hnonneg _ _
  · obtain ⟨relay, hrelay, -⟩ := hother
    obtain ⟨nearest, hnearest⟩ := exists_mem_of_ne_nil _ (closestRelays_ne_nil platform
      exit.location.coordinates (ne_nil_of_mem hrelay))
    refine ne_nil_of_mem (mem_excluding.mpr ⟨hnearest, fun hhostname => hcandidate ?_⟩)
    have hmem := (mem_closestRelays_iff.mp hnearest).1
    have hlisted := (mem_filterMatchingRelayListIncludeAll.mp hmem).mem
    exact inj_on_of_nodup_map hunique hlisted hexit hhostname ▸ hmem

/-- The search has found an entry for the exit: another relay, as close to it as any. -/
def FindsNearestEntry (platform : Platform δ) (query : RelayQuery) (customLists : List CustomList)
    (list : RelayList) (exit : Relay) (result : Except Error WireguardConfig) : Prop :=
  ∃ entry, result = .ok (.multihop exit entry) ∧
    entry ∈ filterMatchingRelayListIncludeAll query.forAnyEntry list customLists ∧
    entry.hostname ≠ exit.hostname ∧
    ∀ relay ∈ filterMatchingRelayListIncludeAll query.forAnyEntry list customLists,
      relay.hostname ≠ exit.hostname → platform.distance entry exit.location.coordinates ≤
          platform.distance relay exit.location.coordinates

/-- For an exit that has been drawn and for which there are other relays to enter by, an entry is found
exactly if the exit is no candidate for the entry, or another candidate is at its place. -/
theorem auto_multihop_complete_iff [Zero δ] (hunique : list.UniqueHostnames)
    (hprotocol : query.tunnelProtocol = .wireguard) (hnonneg : ∀ a b, 0 ≤ platform.distanceFrom a b)
    (hself : ∀ a, platform.distanceFrom a a = 0) (draws : Nat → Nat) {exit : Relay}
    (hexit : ((pickAutoExit query customLists list).run draws).1 = .ok exit)
    (hother : ∃ relay ∈ filterMatchingRelayListIncludeAll query.forAnyEntry list customLists,
      relay.hostname ≠ exit.hostname) :
    FindsNearestEntry platform query customLists list exit
        ((getWireguardAutoMultihopConfig platform query customLists list).run draws).1 ↔
      (exit ∈ filterMatchingRelayListIncludeAll query.forAnyEntry list customLists →
        ∃ relay ∈ filterMatchingRelayListIncludeAll query.forAnyEntry list customLists,
          relay.hostname ≠ exit.hostname ∧ platform.distance relay exit.location.coordinates = 0) := by
  rw [getWireguardAutoMultihopConfig_eq, run_bind_of_ok hexit]
  have hlisted := ((exact_pickAutoExit customLists list hprotocol).returns draws exit hexit).matching.mem
  have hentry := exact_pickAutoEntry platform customLists list hprotocol exit
  generalize ((pickAutoExit query customLists list).run draws).2 = draws
  constructor
  · rintro ⟨entry, hok, hmem, hne, -⟩ hcandidate
    obtain ⟨_, hpick, ⟨⟩⟩ := hentry.returns draws _ hok
    obtain ⟨-, hleast⟩ := mem_closestRelays_iff.mp (mem_excluding.mp (mem_of_mayPick hpick)).1
    have hle : platform.distance entry exit.location.coordinates ≤ 0 :=
      (hleast exit hcandidate).trans_eq (hself _)
    exact ⟨entry, hmem, hne, le_antisymm hle (hnonneg _ _)⟩
  · intro hnear
    have hleft := exists_entryFor hunique hnonneg hlisted hother hnear
    obtain ⟨config, hok⟩ := not_exists_not.mp (mt hentry.exists_error_iff.mp hleft) draws
    obtain ⟨entry, hpick, rfl⟩ := hentry.returns draws config hok
    obtain ⟨hclosest, hne⟩ := mem_excluding.mp (mem_of_mayPick hpick)
    obtain ⟨hmem, hleast⟩ := mem_closestRelays_iff.mp hclosest
    exact ⟨entry, hok, hmem, hne, fun relay hrelay _ => hleast relay hrelay⟩

end Closest

namespace Sample

def meridian : Platform Nat :=
  { platform with distanceFrom := fun a b =>
      (a.latitude.toNat - b.latitude.toNat) + (b.latitude.toNat - a.latitude.toNat) }

open RelayQueryBuilder in
def daitaQuery : RelayQuery :=
  { wireguard with
    location := .only (.location (.country "no"))
    wireguardConstraints :=
      { wireguard.wireguardConstraints with useMultihop := .only true, daita := .only true } }

def daitaList : RelayList :=
  { relayList with countries :=
      [⟨"se", [⟨"got", ⟨0, 0⟩, [relay "se-got-wg-001" (ipv4Addr 185 213 154 68) 1 true]⟩]⟩,
        ⟨"no", [⟨"osl", ⟨1, 1⟩, [relay "no-osl-wg-001" (ipv4Addr 91 90 44 10) 2 true]⟩]⟩] }

end Sample

/-- The exit does not support DAITA, so the only relay that does is the entry. -/
theorem auto_multihop_complete_sweden :
    ∃ exit, exit.hostname = "no-osl-wg-001" ∧
      FindsNearestEntry meridian daitaQuery [] (parseRelayList relayList []) exit
        ((getWireguardAutoMultihopConfig meridian daitaQuery [] (parseRelayList relayList [])).run id).1 := by
  have hunique : (parseRelayList relayList []).UniqueHostnames := by
    unfold RelayList.UniqueHostnames
    decide
  refine ⟨_, ?_, (auto_multihop_complete_iff hunique rfl (fun _ _ => Nat.zero_le _)
    (fun a => by simp [meridian]) id rfl ⟨_, .head _, by decide⟩).mpr fun hcandidate => ?_⟩
  · rfl
  · have hentry := mem_singleton.mp (show _ ∈ [_] from hcandidate)
    exact absurd (congrArg Relay.hostname hentry) (by decide)

/-- The exit supports DAITA itself, and is closest to itself: no entry is found, although there is
another relay that supports DAITA. -/
theorem entry_missed :
    ∃ exit error, ((pickAutoExit daitaQuery [] (parseRelayList daitaList [])).run id).1 = .ok exit ∧
      (∃ relay ∈ filterMatchingRelayListIncludeAll daitaQuery.forAnyEntry
        (parseRelayList daitaList []) [], relay.hostname ≠ exit.hostname) ∧
      ((getWireguardAutoMultihopConfig meridian daitaQuery []
        (parseRelayList daitaList [])).run id).1 = .error error :=
  ⟨_, _, rfl, ⟨_, .head _, by decide⟩, rfl⟩

end MullvadVpn.Relays
