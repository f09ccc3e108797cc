import MullvadVpn.Relays.Preferences

/-!
What successive connection attempts select. The retry order is merged into the user's query and
filtered lazily, by making each selection when the iterator comes to it, and the result is cycled
through. If it does not depend on the draws whether a query leads to relays, the attempts go round the
usable queries of the retry order, and the user's query alone counts only if there are none.
-/

namespace MullvadVpn.Relays

open Net Systems Draw Attempt Intersection Sample List

/-- The queries of a retry order that can be merged into the user's query and then lead to relays. -/
def usableQueries (succeeds : RelayQuery → Bool) (retryOrder : List RelayQuery)
    (userQuery : RelayQuery) : List RelayQuery :=
  retryOrder.filter fun query => (intersection query userQuery).any succeeds

theorem usableQueries_merged (succeeds : RelayQuery → Bool) (retryOrder : List RelayQuery)
    (userQuery : RelayQuery) :
    Forall₂ (fun query merged => intersection query userQuery = some merged)
      (usableQueries succeeds retryOrder userQuery)
      ((retryOrder.filterMap fun query => intersection query userQuery).filter succeeds) := by
  induction retryOrder with
  | nil => exact .nil
  | cons query retryOrder ih =>
    unfold usableQueries at ih ⊢
    rw [filterMap_cons]
    cases hmerged : intersection query userQuery with
    | none =>
      rw [filter_cons_of_neg (by simp [hmerged])]
      exact ih
    | some merged =>
      dsimp only
      by_cases hsucceeds : succeeds merged = true
      · rw [filter_cons_of_pos (by simp [hmerged, hsucceeds]), filter_cons_of_pos hsucceeds]
        exact .cons hmerged ih
      · rw [filter_cons_of_neg (by simp [hmerged, hsucceeds]), filter_cons_of_neg hsucceeds]
        exact ih

section Attempts

variable {δ : Type} [LinearOrder δ] {platform : Platform δ}
variable {customLists : List CustomList} {list : RelayList} {userQuery : RelayQuery}
variable {succeeds : RelayQuery → Bool} {retryOrder : List RelayQuery}

/-- Whether the query leads to relays does not depend on what is drawn. -/
def SuccessSettled (platform : Platform δ) (customLists : List CustomList) (list : RelayList)
    (succeeds : RelayQuery → Bool) (query : RelayQuery) : Prop :=
  ∀ draws, ((getRelayInner platform query customLists list).run draws).1.isOk = succeeds query

theorem SuccessSettled.isSome {query}
    (h : SuccessSettled platform customLists list succeeds query) :
    Always (getRelayInner platform query customLists list).ok fun result => result.isSome = succeeds query := by
  intro draws
  rw [ok_fst, ← h draws]
  cases ((getRelayInner platform query customLists list).run draws).1 <;> rfl

theorem always_getRelayByRetryOrder_usable (retryAttempt : Nat)
    (hsettled : ∀ query ∈ retryOrder.filterMap fun query => intersection query userQuery,
      SuccessSettled platform customLists list succeeds query)
    (hne : usableQueries succeeds retryOrder userQuery ≠ []) :
    Always (getRelayByRetryOrder platform customLists list retryAttempt retryOrder userQuery)
      fun result => ∃ relay query merged, result = some relay ∧ (usableQueries succeeds retryOrder userQuery)[
          retryAttempt % (usableQueries succeeds retryOrder userQuery).length]? = some query ∧
        intersection query userQuery = some merged ∧
        Gives (getRelayInner platform merged customLists list).ok relay := by
  -- The loop goes over the merged queries, which correspond to the usable ones one by one.
  have hmerged := usableQueries_merged succeeds retryOrder userQuery
  rw [hmerged.length_eq]
  have hpos : 0 < ((retryOrder.filterMap fun query => intersection query userQuery).filter
      succeeds).length := hmerged.length_eq ▸ length_pos_of_ne_nil hne
  have hitems : Settled (fun query => (getRelayInner platform query customLists list).ok) succeeds
      (retryOrder.filterMap fun query => intersection query userQuery) :=
    fun query hquery => (hsettled query hquery).isSome
  refine (always_cycleNth_settled hitems hpos retryAttempt hitems (Nat.zero_le _)
    drop_zero.symm).bind fun result hresult => ?_
  obtain ⟨relay, merged, rfl, hindex, hgives⟩ := hresult
  refine always_pure ⟨relay, ?_⟩
  rw [Nat.zero_add] at hindex
  obtain ⟨hlt, hget⟩ := List.getElem?_eq_some_iff.mp hindex
  refine ⟨_, merged, rfl, getElem?_eq_getElem (hmerged.length_eq ▸ hlt), ?_, hgives⟩
  rw [← hget]
  exact hmerged.get _ hlt

theorem always_getRelayByRetryOrder_unusable (retryAttempt : Nat)
    (hsettled : ∀ query ∈ retryOrder.filterMap fun query => intersection query userQuery,
      SuccessSettled platform customLists list succeeds query)
    (hnone : usableQueries succeeds retryOrder userQuery = []) :
    Always (getRelayByRetryOrder platform customLists list retryAttempt retryOrder userQuery)
      fun result => ∃ draws, result =
        ((getRelayInner platform userQuery customLists list).run draws).1.toOption := by
  have hmerged := usableQueries_merged succeeds retryOrder userQuery
  rw [hnone, forall₂_nil_left_iff] at hmerged
  have hitems : Settled (fun query => (getRelayInner platform query customLists list).ok) succeeds
      (retryOrder.filterMap fun query => intersection query userQuery) :=
    fun query hquery => (hsettled query hquery).isSome
  refine (always_cycleNth_none hitems hitems hmerged hmerged retryAttempt).bind fun result hresult => ?_
  subst hresult
  exact fun draws => ⟨draws, ok_fst _ draws⟩

theorem getRelayWithCustomParams_fst (selector : RelaySelector) (retryAttempt : Nat)
    (availability : IpAvailability) (draws : Nat → Nat) {config query}
    (hnormal : selector.config.specialize = .normal config) (hquery : config.toQuery = .ok query)
    (havailable : applyIpAvailability availability query = .ok userQuery) :
    ((selector.getRelayWithCustomParams platform retryAttempt retryOrder availability).run draws).1 =
      (getRelayByRetryOrder platform config.customLists selector.parsedRelays.parsedList retryAttempt
        retryOrder userQuery draws).1.elim (.error (.noRelay userQuery)) .ok := by
  unfold RelaySelector.getRelayWithCustomParams
  rw [hnormal]
  dsimp only
  rw [hquery]
  change (((liftM (applyIpAvailability availability query) : Attempt Error RelayQuery) >>= _).run draws).1 = _
  rw [havailable]
  exact okOr_fst _ _ draws

/-- **Retries.** Attempt `n` selects with query `n % |Q|` of the usable queries `Q` of the retry order,
merged into the user's query, or with the user's query alone if there are none, and it fails exactly
if that fails too. -/
theorem retry_selects (selector : RelaySelector) (retryAttempt : Nat) (retryOrder : List RelayQuery)
    (availability : IpAvailability) (draws : Nat → Nat) {config : NormalSelectorConfig}
    {query userQuery : RelayQuery} (hnormal : selector.config.specialize = .normal config)
    (hquery : config.toQuery = .ok query)
    (havailable : applyIpAvailability availability query = .ok userQuery)
    (hsettled : ∀ query ∈ userQuery :: retryOrder.filterMap fun query => intersection query userQuery,
      SuccessSettled platform config.customLists selector.parsedRelays.parsedList succeeds query) :
    let select (query : RelayQuery) :=
      getRelayInner platform query config.customLists selector.parsedRelays.parsedList
    let usable := usableQueries succeeds retryOrder userQuery
    let result :=
      ((selector.getRelayWithCustomParams platform retryAttempt retryOrder availability).run draws).1
    (usable ≠ [] → ∃ query merged draws', usable[retryAttempt % usable.length]? = some query ∧
      intersection query userQuery = some merged ∧ ((select merged).run draws').1 = result) ∧
    (usable = [] → ∃ draws',
      ((mapErr (fun _ => .noRelay userQuery) (select userQuery)).run draws').1 = result) ∧
    (result.isOk = false ↔ usable = [] ∧ succeeds userQuery = false) := by
  intro select usable result
  have hresult : result = _ := getRelayWithCustomParams_fst selector retryAttempt availability draws
    hnormal hquery havailable
  obtain ⟨huser, hmerged⟩ := forall_mem_cons.mp hsettled
  by_cases hnone : usable = []
  · obtain ⟨draws', hdraws'⟩ :=
      always_getRelayByRetryOrder_unusable retryAttempt hmerged hnone draws
    have halone : ((mapErr (fun _ => .noRelay userQuery) (select userQuery)).run draws').1 =
        result := by
      rw [hresult, hdraws', mapErr_fst]
      cases ((select userQuery).run draws').1 <;> rfl
    refine ⟨fun hne => absurd hnone hne, fun _ => ⟨draws', halone⟩, ?_⟩
    rw [← halone, mapErr_fst, ← huser draws', and_iff_right hnone]
    cases ((select userQuery).run draws').1 <;> rfl
  · obtain ⟨relay, query', merged, hfound, hindex, hintersection, hgives⟩ :=
      always_getRelayByRetryOrder_usable retryAttempt hmerged hnone draws
    obtain ⟨draws', hdraws'⟩ := exists_run_of_gives hgives
    have hok : result = .ok relay := by
      rw [hresult, hfound]
      rfl
    refine ⟨fun _ => ⟨query', merged, draws', hindex, hintersection, hdraws'.trans hok.symm⟩,
      fun hnone' => absurd hnone' hnone, ?_⟩
    rw [hok]
    constructor
    · rintro ⟨⟩
    · exact fun hfails => absurd hfails.1 hnone

end Attempts

variable (ipVersion : Constraint IpVersion)

namespace Sample

/-- Any of the two relays, on port 51820 and without obfuscation. -/
def singlehopConfig : SelectorConfig :=
  { config with
    relaySettings := .normal
      { location := .any
        providers := .any
        ownership := .any
        tunnelProtocol := .wireguard
        wireguardConstraints :=
          { port := .only 51820
            ipVersion := .any
            allowedIps := .any
            useMultihop := false
            entryLocation := .any }
        openvpnConstraints := ⟨.any⟩ }
    additionalConstraints := ⟨⟨false, false, .auto⟩⟩ }

/-- The query of the configuration, and what the retry order makes of it: the user's choice not to
obfuscate wins, so only the IP version can differ. -/
def singlehopQuery (ipVersion : Constraint IpVersion) : RelayQuery :=
  { location := .any
    providers := .any
    ownership := .any
    tunnelProtocol := .wireguard
    wireguardConstraints :=
      { port := .only 51820
        ipVersion
        allowedIps := .any
        useMultihop := .only false
        entryLocation := .any
        obfuscation := .off
        daita := .only false
        daitaUseMultihopIfNecessary := .only false
        quantumResistant := .auto }
    openvpnConstraints := .new }

def parsedList : RelayList :=
  parseRelayList relayList []

theorem getWireguardSinglehopConfig_eq :
    getWireguardSinglehopConfig (singlehopQuery ipVersion) [] parsedList = pickRandomRelay parsedList.relays :=
  rfl

theorem always_singlehopConfig :
    Always (getWireguardRelayConfig platform (singlehopQuery ipVersion) [] parsedList).run fun result =>
      ∃ relay ∈ parsedList.relays, result = .ok (.singlehop relay) := by
  have hsinglehop : (singlehopQuery ipVersion).singlehop = true := rfl
  unfold getWireguardRelayConfig
  rw [if_pos hsinglehop, getWireguardSinglehopConfig_eq]
  refine always_run_bind (exact_lift (outcomes_pickRandomRelayWeighted Relay.weight parsedList.relays)).always
    (fun picked hpicked => ?_) (fun _ => False.elim)
  cases picked with
  | none => exact absurd hpicked (cons_ne_nil _ _)
  | some relay => exact always_pure ⟨relay, mem_of_maySpin Relay.weight hpicked, rfl⟩

/-- No relay of the list has an IPv6 address, so selection fails exactly if one is asked for. -/
theorem always_singlehopRelay :
    Always (getWireguardRelayInner platform (singlehopQuery ipVersion) [] parsedList).run fun result =>
      result.isOk = (ipVersion != .only .v6) := by
  unfold getWireguardRelayInner
  refine always_run_bind (always_singlehopConfig ipVersion) ?_ ?_
  · rintro inner ⟨relay, hmem, hinner⟩
    obtain rfl := Except.ok.inj hinner
    rcases mem_pair.mp hmem with rfl | rfl
    all_goals
      intro draws
      rcases ipVersion with _ | _ | _ <;> rfl
  · rintro error ⟨_, _, herror⟩
    cases herror

end Sample

/-- With the retry order of WireGuard, the second attempt skips the query for IPv6 and uses the one for
Shadowsocks. -/
theorem retry_selects_second :
    ∃ query merged draws, wireguardRetryOrder[2]? = some query ∧
      intersection query (singlehopQuery .any) = some merged ∧
      ((getRelayInner platform merged [] parsedList).run draws).1 =
        (((RelaySelector.fromList singlehopConfig relayList).getRelayWithCustomParams
          platform 1 wireguardRetryOrder .ipv4AndIpv6).run id).1 := by
  have hmerged : (wireguardRetryOrder.filterMap fun query =>
      intersection query (singlehopQuery .any)) =
        [.any, .only .v6, .any, .any, .any, .only .v6, .any].map singlehopQuery := rfl
  have hsettled : ∀ query ∈ singlehopQuery .any :: wireguardRetryOrder.filterMap
      fun query => intersection query (singlehopQuery .any),
      SuccessSettled platform [] parsedList
        (fun query => query.wireguardConstraints.ipVersion != .only .v6) query := by
    rw [hmerged, ← map_cons]
    intro query hquery
    obtain ⟨ipVersion, _, rfl⟩ := mem_map.mp hquery
    exact always_singlehopRelay ipVersion
  obtain ⟨query, merged, draws, hquery, hintersection, hrun⟩ :=
    (retry_selects (RelaySelector.fromList singlehopConfig relayList) 1
      wireguardRetryOrder .ipv4AndIpv6 id rfl rfl rfl hsettled).1 (cons_ne_nil _ _)
  exact ⟨query, merged, draws, hquery, hintersection, hrun⟩

end MullvadVpn.Relays
