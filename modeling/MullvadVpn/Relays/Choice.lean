import MullvadVpn.Relays.Selected

/-!
Which relays a search for WireGuard relays can pick. The relation `MaySelect` follows the search
without its draws: the orders that hash sets can have, the shares of the wheel that a number can fall
into, and the fallbacks for lists of candidates that are too short. It is exact: whatever is drawn, a
search picks relays of the relation, and for all relays of the relation there are draws that pick them.
-/

namespace MullvadVpn.Relays

open Net Systems Draw Attempt RelayQuery

variable {relays exits entries : List Relay} {relay : Relay}

/-- Some number of the wheel falls into the share of the relay. -/
@[irreducible]
def MayPick (relays : List Relay) (relay : Relay) : Prop :=
  if totalWeight Relay.weight relays = 0 then relay ∈ relays
  else ∃ i, 0 < i ∧ i ≤ (totalWeight Relay.weight relays).toNat ∧ spin Relay.weight relays i = some relay

/-- What picking from the list may give: nothing only if there is nothing. -/
def MayPickFrom (relays : List Relay) : Option Relay → Prop
  | some relay => MayPick relays relay
  | none => relays = []

theorem mayPickFrom_iff {result} :
    MayPickFrom relays result ↔ MaySpin Relay.weight relays result := by
  cases result with
  | none => exact .rfl
  | some relay => rw [MayPickFrom, MayPick, MaySpin]

theorem outcomes_pickRandomRelay (relays : List Relay) :
    Outcomes (pickRandomRelay relays) (MayPickFrom relays) :=
  (outcomes_pickRandomRelayWeighted Relay.weight relays).congr fun _ => mayPickFrom_iff.symm

theorem mem_of_mayPick (h : MayPick relays relay) : relay ∈ relays :=
  mem_of_maySpin Relay.weight (mayPickFrom_iff.mp (show MayPickFrom relays (some relay) from h))

def excluding (relays : List Relay) (exclude : Relay) : List Relay :=
  relays.filter fun relay => relay != exclude

theorem mem_excluding {exclude relay} :
    relay ∈ excluding relays exclude ↔ relay ∈ relays ∧ relay.hostname ≠ exclude.hostname := by
  rw [excluding, List.mem_filter, bne, Bool.not_eq_true', ← Bool.not_eq_true, Relay.beq_iff]

theorem outcomes_pickRandomRelayExcluding (relays : List Relay) (exclude : Relay) :
    Outcomes (pickRandomRelayExcluding relays exclude) (MayPickFrom (excluding relays exclude)) :=
  outcomes_pickRandomRelay (excluding relays exclude)

/-- The relays that are preferred for the locations, or all if none is. -/
def preferredRelays (locations : List GeographicLocationConstraint) (relays : List Relay) : List Relay :=
  let included := collectRelays includedInCountry locations relays
  let excluded := collectRelays (fun location relay => !includedInCountry location relay) locations relays
  if included.isEmpty then excluded else included

section Select

variable {δ : Type} [LinearOrder δ] (platform : Platform δ)
variable (query : RelayQuery) (customLists : List CustomList) (list : RelayList)

/-- The lists of candidates that a query may lead to. -/
def MayMatch (candidates : List Relay) : Prop :=
  match resolveLocation query.location customLists with
  | .any => candidates = filterMatchingRelayListIncludeAll query list customLists
  | .only locations =>
    candidates.Perm (preferredRelays locations (filterMatchingRelayListIncludeAll query list customLists))

theorem outcomes_filterMatchingRelayList :
    Outcomes (filterMatchingRelayList query list customLists) (MayMatch query customLists list) := by
  unfold filterMatchingRelayList filterOnIncludeInCountry MayMatch
  cases resolveLocation query.location customLists with
  | any => exact outcomes_pure _
  | only locations => exact outcomes_shuffle _

def MayPickMatching (result : Option Relay) : Prop :=
  ∃ candidates, MayMatch query customLists list candidates ∧ MayPickFrom candidates result

theorem outcomes_pickMatching :
    Outcomes (getWireguardSinglehopConfig query customLists list) (MayPickMatching query customLists list) :=
  (outcomes_filterMatchingRelayList query customLists list).bind fun candidates _ =>
    outcomes_pickRandomRelay candidates

variable {locations : List GeographicLocationConstraint} {location : GeographicLocationConstraint}

theorem collectRelays_ne_nil {select}
    (hlocation : location ∈ locations) (hrelay : relay ∈ relays)
    (hselect : select location relay = true) : collectRelays select locations relays ≠ [] := by
  have hmem := List.mem_map_of_mem (f := Relay.hostname) (List.mem_filter.mpr ⟨hrelay, hselect⟩)
  have hcollected := mem_hostname_collectRelays.mpr ⟨location, hlocation, hmem⟩
  rintro hnil
  rw [hnil] at hcollected
  cases hcollected

variable {query customLists list} {candidates : List Relay}

theorem MayMatch.matching (h : MayMatch query customLists list candidates)
    (hrelay : relay ∈ candidates) : Matches query list customLists relay := by
  rw [← mem_filterMatchingRelayListIncludeAll]
  unfold MayMatch at h
  cases hlocations : resolveLocation query.location customLists with
  | any =>
    rw [hlocations] at h
    exact h ▸ hrelay
  | only locations =>
    rw [hlocations] at h
    have hmem := h.mem_iff.mp hrelay
    unfold preferredRelays at hmem
    dsimp only at hmem
    split_ifs at hmem <;> exact (mem_collectRelays hmem).1

theorem MayPickMatching.matching (h : MayPickMatching query customLists list (some relay)) :
    Matches query list customLists relay := by
  obtain ⟨candidates, hcandidates, hpick⟩ := h
  exact hcandidates.matching (mem_of_mayPick hpick)

theorem MayMatch.ne_nil (h : MayMatch query customLists list candidates)
    (hrelay : Matches query list customLists relay) : candidates ≠ [] := by
  have hmem := mem_filterMatchingRelayListIncludeAll.mpr hrelay
  have hlocation := hrelay.location
  unfold MayMatch at h
  cases hlocations : resolveLocation query.location customLists with
  | any =>
    rw [hlocations] at h
    rw [h]
    exact List.ne_nil_of_mem hmem
  | only locations =>
    rw [hlocations] at h hlocation
    obtain ⟨location, hmem', _⟩ := List.any_eq_true.mp hlocation
    intro hnil
    have hpreferred : preferredRelays locations _ = [] := List.Perm.eq_nil (hnil ▸ h).symm
    unfold preferredRelays at hpreferred
    dsimp only at hpreferred
    split_ifs at hpreferred with hempty
    · refine collectRelays_ne_nil hmem' hmem ?_ hpreferred
      by_contra hincluded
      have hselect : includedInCountry location relay = true := by simpa using hincluded
      exact collectRelays_ne_nil hmem' hmem hselect (List.isEmpty_iff.mp hempty)
    · exact hempty (List.isEmpty_iff.mpr hpreferred)

inductive MayFollow (exits entries : List Relay) : Option (Relay × Relay) → Prop
  | noExit (h : exits = []) : MayFollow exits entries none
  | exit {exit entry} (hexit : MayPick exits exit) (hentry : MayPickFrom (excluding entries exit) entry) :
      MayFollow exits entries (entry.map fun entry => (exit, entry))

theorem outcomes_pickExitThenEntry (exits entries : List Relay) :
    Outcomes (pickExitThenEntry exits entries) (MayFollow exits entries) := by
  refine .congr ((outcomes_pickRandomRelay exits).bindOption (outcomes_pure none) fun exit _ =>
    (outcomes_pickRandomRelayExcluding entries exit).bind fun entry _ => outcomes_pure _) fun result => ?_
  constructor
  · rintro (⟨hexits, rfl⟩ | ⟨exit, hexit, entry, hentry, rfl⟩)
    · exact .noExit hexits
    · exact .exit hexit hentry
  · rintro (hexits | ⟨hexit, hentry⟩)
    · exact .inl ⟨hexits, rfl⟩
    · exact .inr ⟨_, hexit, _, hentry, rfl⟩

/-- An exit and an entry, where the only candidate for one of them is not taken for the other. A
single entry is looked at first. -/
inductive MayCombine (exits entries : List Relay) : Option (Relay × Relay) → Prop
  | onlyEntry {entry exit} (hentries : entries = [entry])
      (hcontains : exits.contains entry = true) (hexit : MayPickFrom (excluding exits entry) exit) :
      MayCombine exits entries (exit.map fun exit => (exit, entry))
  | onlyExit {exit entry} (hentries : ∀ entry, entries ≠ [entry])
      (hexits : exits = [exit]) (hcontains : entries.contains exit = true)
      (hentry : MayPickFrom (excluding entries exit) entry) :
      MayCombine exits entries (entry.map fun entry => (exit, entry))
  | follow {result} (hentry : ∀ entry, entries = [entry] → ¬ exits.contains entry = true)
      (hexit : ∀ exit, (∀ entry, entries ≠ [entry]) → exits = [exit] → ¬ entries.contains exit = true)
      (h : MayFollow exits entries result) : MayCombine exits entries result

theorem outcomes_pickWorkingEntryExitCombo (exits entries : List Relay) :
    Outcomes (pickWorkingEntryExitCombo exits entries) (MayCombine exits entries) := by
  unfold pickWorkingEntryExitCombo
  split
  next entry =>
    split_ifs with hcontains
    · refine ((outcomes_pickRandomRelayExcluding exits entry).bind fun exit _ => outcomes_pure _).congr
        fun result => ⟨?_, fun h => ?_⟩
      · rintro ⟨exit, hexit, rfl⟩
        exact .onlyEntry rfl hcontains hexit
      · cases h with
        | onlyEntry hentries _ hexit =>
          cases hentries
          exact ⟨_, hexit, rfl⟩
        | onlyExit hentries _ _ _ => exact absurd rfl (hentries entry)
        | follow hentry _ _ => exact absurd hcontains (hentry entry rfl)
    · refine (outcomes_pickExitThenEntry exits [entry]).congr fun result => ⟨.follow ?_ ?_, fun h => ?_⟩
      · rintro _ ⟨⟩
        exact hcontains
      · exact fun _ hentries => absurd rfl (hentries entry)
      · cases h with
        | onlyEntry hentries hcontains' _ =>
          cases hentries
          exact absurd hcontains' hcontains
        | onlyExit hentries _ _ _ => exact absurd rfl (hentries entry)
        | follow _ _ hfollow => exact hfollow
  next exit hentries =>
    split_ifs with hcontains
    · refine ((outcomes_pickRandomRelayExcluding entries exit).bind fun entry _ => outcomes_pure _).congr
        fun result => ⟨?_, fun h => ?_⟩
      · rintro ⟨entry, hentry, rfl⟩
        exact .onlyExit hentries rfl hcontains hentry
      · cases h with
        | onlyEntry hentry _ _ => exact absurd hentry (hentries _)
        | onlyExit _ hexits _ hentry =>
          cases hexits
          exact ⟨_, hentry, rfl⟩
        | follow _ hexit _ => exact absurd hcontains (hexit exit hentries rfl)
    · refine (outcomes_pickExitThenEntry [exit] entries).congr fun result => ⟨.follow ?_ ?_, fun h => ?_⟩
      · exact fun entry hentry => absurd hentry (hentries entry)
      · rintro _ _ ⟨⟩
        exact hcontains
      · cases h with
        | onlyEntry hentry _ _ => exact absurd hentry (hentries _)
        | onlyExit _ hexits hcontains' _ =>
          cases hexits
          exact absurd hcontains' hcontains
        | follow _ _ hfollow => exact hfollow
  next hexits hentries =>
    refine (outcomes_pickExitThenEntry exits entries).congr fun result => ⟨.follow ?_ ?_, fun h => ?_⟩
    · exact fun entry hentry => absurd hentry (hentries entry)
    · exact fun exit _ hexit => absurd hexit (hexits exit)
    · cases h with
      | onlyEntry hentry _ _ => exact absurd hentry (hentries _)
      | onlyExit _ hexit _ _ => exact absurd hexit (hexits _)
      | follow _ _ hfollow => exact hfollow

variable {result : Option (Relay × Relay)}

theorem MayFollow.isCombo (h : MayFollow exits entries result) : IsCombo exits entries result := by
  rintro exit entry rfl
  generalize hresult : some (exit, entry) = result at h
  cases h with
  | noExit _ => cases hresult
  | @exit _ picked hexit hentry =>
    obtain ⟨_, rfl, ⟨⟩⟩ := Option.map_eq_some_iff.mp hresult.symm
    exact ⟨mem_of_mayPick hexit, mem_excluding.mp (mem_of_mayPick hentry)⟩

theorem MayCombine.isCombo (h : MayCombine exits entries result) : IsCombo exits entries result := by
  cases h with
  | onlyEntry hentries _ hexit =>
    intro exit entry hresult
    obtain ⟨_, rfl, ⟨⟩⟩ := Option.map_eq_some_iff.mp hresult
    obtain ⟨hmem, hne⟩ := mem_excluding.mp (mem_of_mayPick hexit)
    exact ⟨hmem, hentries ▸ List.mem_singleton_self _, hne.symm⟩
  | onlyExit _ hexits _ hentry =>
    intro exit entry hresult
    obtain ⟨_, rfl, ⟨⟩⟩ := Option.map_eq_some_iff.mp hresult
    exact ⟨hexits ▸ List.mem_singleton_self _, mem_excluding.mp (mem_of_mayPick hentry)⟩
  | follow _ _ hfollow => exact hfollow.isCombo

variable (query customLists list)

/-- The entry of a multihop connection is looked for where the user wants it. -/
def RelayQuery.forEntry : RelayQuery :=
  { query with location := query.wireguardConstraints.entryLocation }

/-- The entry of an automatic multihop connection may be anywhere. -/
def RelayQuery.forAnyEntry : RelayQuery :=
  { query with location := .any }

/-- An entry is chosen for the user. -/
def RelayQuery.automatic : Bool :=
  query.usingDaita && query.useMultihopIfNecessary

def pickAutoExit (query : RelayQuery) (customLists : List CustomList) (list : RelayList) :
    Attempt Error Relay := do
  let exitQuery ← liftM (exitRelayQuery query)
  let exitCandidates ← liftM (filterMatchingRelayList exitQuery list customLists)
  okOr (pickRandomRelay exitCandidates) (.noRelay exitQuery)

/-- The entry that an automatic search draws for an exit. -/
def pickAutoEntry (platform : Platform δ) (query : RelayQuery) (customLists : List CustomList)
    (list : RelayList) (exit : Relay) : Attempt Error WireguardConfig := do
  let entryQuery ← liftM (query.setLocation .any)
  let entryCandidates ← liftM (filterMatchingRelayList entryQuery list customLists)
  let entryCandidates := closestRelays platform entryCandidates exit.location.coordinates
  let entry ← okOr (pickRandomRelayExcluding entryCandidates exit) (.noRelay entryQuery)
  return .multihop exit entry

/-- The candidates for the entry that are left for an exit. -/
def entriesFor (platform : Platform δ) (query : RelayQuery) (customLists : List CustomList)
    (list : RelayList) (exit : Relay) : List Relay :=
  excluding (closestRelays platform (filterMatchingRelayListIncludeAll query.forAnyEntry list customLists)
    exit.location.coordinates) exit

/-- The relays that a search can pick. -/
inductive MaySelect : WireguardConfig → Prop
  | singlehop {candidates exit} (hsinglehop : query.singlehop = true)
      (hcandidates : MayMatch query customLists list candidates) (hexit : MayPick candidates exit) :
      MaySelect (.singlehop exit)
  | automatic {exits entries exit entry} (hautomatic : query.automatic = true)
      (hnone : query.singlehop = true → MayMatch query customLists list [])
      (hexits : MayMatch query.forExit customLists list exits) (hexit : MayPick exits exit)
      (hentries : MayMatch query.forAnyEntry customLists list entries)
      (hentry : MayPick (excluding (closestRelays platform entries exit.location.coordinates) exit) entry) :
      MaySelect (.multihop exit entry)
  | multihop {exits entries exit entry} (hmultihop : query.singlehop = false)
      (hmanual : query.automatic = false) (hexits : MayMatch query.forExit customLists list exits)
      (hentries : MayMatch query.forEntry customLists list entries)
      (hcombo : MayCombine exits entries (some (exit, entry))) : MaySelect (.multihop exit entry)
  -- the preference within countries may leave too few candidates
  | fallback {exits entries exit entry} (hmultihop : query.singlehop = false)
      (hmanual : query.automatic = false) (hexits : MayMatch query.forExit customLists list exits)
      (hentries : MayMatch query.forEntry customLists list entries)
      (hnone : MayCombine exits entries none)
      (hcombo : MayCombine (filterMatchingRelayListIncludeAll query.forExit list customLists)
        (filterMatchingRelayListIncludeAll query.forEntry list customLists) (some (exit, entry))) :
      MaySelect (.multihop exit entry)

/-- A search may find no relays. -/
inductive MayMiss : Prop
  | singlehop (hsinglehop : query.singlehop = true) (hmanual : query.automatic = false)
      (hnone : MayMatch query customLists list [])
  | noExit (hautomatic : query.automatic = true)
      (hnone : query.singlehop = true → MayMatch query customLists list [])
      (hexits : MayMatch query.forExit customLists list [])
  -- of the entries closest to the exit, nothing is left without the exit
  | noEntry {exits entries : List Relay} {exit : Relay} (hautomatic : query.automatic = true)
      (hnone : query.singlehop = true → MayMatch query customLists list [])
      (hexits : MayMatch query.forExit customLists list exits) (hexit : MayPick exits exit)
      (hentries : MayMatch query.forAnyEntry customLists list entries)
      (hentry : excluding (closestRelays platform entries exit.location.coordinates) exit = [])
  | noCombo {exits entries : List Relay} (hmultihop : query.singlehop = false)
      (hmanual : query.automatic = false) (hexits : MayMatch query.forExit customLists list exits)
      (hentries : MayMatch query.forEntry customLists list entries)
      (hnone : MayCombine exits entries none)
      (hall : MayCombine (filterMatchingRelayListIncludeAll query.forExit list customLists)
        (filterMatchingRelayListIncludeAll query.forEntry list customLists) none)

/-- Two relays at the locations of the user, or none if all candidates taken together are too few. -/
inductive MayPair : Option (Relay × Relay) → Prop
  | first {exits entries combo} (hexits : MayMatch query.forExit customLists list exits)
      (hentries : MayMatch query.forEntry customLists list entries)
      (hcombo : MayCombine exits entries (some combo)) : MayPair (some combo)
  | fallback {exits entries combo} (hexits : MayMatch query.forExit customLists list exits)
      (hentries : MayMatch query.forEntry customLists list entries)
      (hnone : MayCombine exits entries none)
      (hcombo : MayCombine (filterMatchingRelayListIncludeAll query.forExit list customLists)
        (filterMatchingRelayListIncludeAll query.forEntry list customLists) combo) : MayPair combo

variable {platform query customLists list}

theorem MayPair.isCombo {combo} (h : MayPair query customLists list combo) :
    IsCombo (filterMatchingRelayListIncludeAll query.forExit list customLists)
      (filterMatchingRelayListIncludeAll query.forEntry list customLists) combo := by
  cases h with
  | first hexits hentries hcombo =>
    intro exit entry hresult
    obtain ⟨hexit, hentry, hne⟩ := hcombo.isCombo exit entry hresult
    exact ⟨mem_filterMatchingRelayListIncludeAll.mpr (hexits.matching hexit),
      mem_filterMatchingRelayListIncludeAll.mpr (hentries.matching hentry), hne⟩
  | fallback _ _ _ hcombo => exact hcombo.isCombo

theorem mayPickMatching_none :
    MayPickMatching query customLists list none ↔ MayMatch query customLists list [] :=
  exists_eq_right

theorem mayMatch_forAnyEntry : MayMatch query.forAnyEntry customLists list entries ↔
      entries = filterMatchingRelayListIncludeAll query.forAnyEntry list customLists :=
  .rfl

theorem mayMatch_allEntries (query : RelayQuery) (customLists : List CustomList) (list : RelayList) :
    MayMatch query.forAnyEntry customLists list
      (filterMatchingRelayListIncludeAll query.forAnyEntry list customLists) :=
  mayMatch_forAnyEntry.mpr rfl

theorem maySelect_iff {config} :
    MaySelect platform query customLists list config ↔ (query.singlehop = true ∧
        ∃ exit, MayPickMatching query customLists list (some exit) ∧ config = .singlehop exit) ∨
      (query.automatic = true ∧ (query.singlehop = true → MayMatch query customLists list []) ∧
        ∃ exit, MayPickMatching query.forExit customLists list (some exit) ∧
          ∃ entry, MayPick (entriesFor platform query customLists list exit) entry ∧
            config = .multihop exit entry) ∨
      (query.singlehop = false ∧ query.automatic = false ∧
        ∃ combo, MayPair query customLists list (some combo) ∧ config = .multihop combo.1 combo.2) := by
  constructor
  · intro h
    cases h with
    | singlehop hsinglehop hcandidates hexit =>
      exact .inl ⟨hsinglehop, _, ⟨_, hcandidates, hexit⟩, rfl⟩
    | automatic hautomatic hnone hexits hexit hentries hentry =>
      rw [mayMatch_forAnyEntry.mp hentries, ← entriesFor] at hentry
      exact .inr (.inl ⟨hautomatic, hnone, _, ⟨_, hexits, hexit⟩, _, hentry, rfl⟩)
    | multihop hmultihop hmanual hexits hentries hcombo =>
      exact .inr (.inr ⟨hmultihop, hmanual, _, .first hexits hentries hcombo, rfl⟩)
    | fallback hmultihop hmanual hexits hentries hnone hcombo =>
      exact .inr (.inr ⟨hmultihop, hmanual, _, .fallback hexits hentries hnone hcombo, rfl⟩)
  · rintro (⟨hsinglehop, exit, ⟨candidates, hcandidates, hexit⟩, rfl⟩ |
      ⟨hautomatic, hnone, exit, ⟨exits, hexits, hexit⟩, entry, hentry, rfl⟩ |
      ⟨hmultihop, hmanual, combo, ⟨hexits, hentries, hcombo⟩ | ⟨hexits, hentries, hnone, hcombo⟩, rfl⟩)
    · exact .singlehop hsinglehop hcandidates hexit
    · rw [entriesFor] at hentry
      exact .automatic hautomatic hnone hexits hexit (mayMatch_allEntries query customLists list) hentry
    · exact .multihop hmultihop hmanual hexits hentries hcombo
    · exact .fallback hmultihop hmanual hexits hentries hnone hcombo

theorem mayMiss_iff : MayMiss platform query customLists list ↔
      (query.singlehop = true ∧ query.automatic = false ∧ MayMatch query customLists list []) ∨
      (query.automatic = true ∧ (query.singlehop = true → MayMatch query customLists list []) ∧
        (MayMatch query.forExit customLists list [] ∨
          ∃ exit, MayPickMatching query.forExit customLists list (some exit) ∧
            entriesFor platform query customLists list exit = [])) ∨
      (query.singlehop = false ∧ query.automatic = false ∧ MayPair query customLists list none) := by
  constructor
  · rintro (⟨hsinglehop, hmanual, hnone⟩ | ⟨hautomatic, hnone, hexits⟩ |
      ⟨hautomatic, hnone, hexits, hexit, hentries, hentry⟩ |
      ⟨hmultihop, hmanual, hexits, hentries, hnone, hall⟩)
    · exact .inl ⟨hsinglehop, hmanual, hnone⟩
    · exact .inr (.inl ⟨hautomatic, hnone, .inl hexits⟩)
    · rw [mayMatch_forAnyEntry.mp hentries, ← entriesFor] at hentry
      exact .inr (.inl ⟨hautomatic, hnone, .inr ⟨_, ⟨_, hexits, hexit⟩, hentry⟩⟩)
    · exact .inr (.inr ⟨hmultihop, hmanual, .fallback hexits hentries hnone hall⟩)
  · rintro (⟨hsinglehop, hmanual, hnone⟩ |
      ⟨hautomatic, hnone, hexits | ⟨exit, ⟨exits, hexits, hexit⟩, hentry⟩⟩ | ⟨hmultihop, hmanual, hpair⟩)
    · exact .singlehop hsinglehop hmanual hnone
    · exact .noExit hautomatic hnone hexits
    · rw [entriesFor] at hentry
      exact .noEntry hautomatic hnone hexits hexit (mayMatch_allEntries query customLists list) hentry
    · cases hpair with
      | fallback hexits hentries hnone hall => exact .noCombo hmultihop hmanual hexits hentries hnone hall

theorem RelayQuery.validate_of_wireguard {query : RelayQuery} (h : query.tunnelProtocol = .wireguard) :
    query.validate = .ok query := by
  unfold validate
  rw [h, if_neg (by decide : ¬ TunnelType.wireguard = .openVpn), ← h]
  split_ifs <;> rfl

theorem getWireguardAutoMultihopConfig_eq :
    getWireguardAutoMultihopConfig platform query customLists list =
      pickAutoExit query customLists list >>= pickAutoEntry platform query customLists list := by
  unfold getWireguardAutoMultihopConfig pickAutoExit
  simp only [bind_assoc]
  rfl

section Wireguard

variable (platform customLists list) (hprotocol : query.tunnelProtocol = .wireguard)

include hprotocol

theorem exitRelayQuery_eq : exitRelayQuery query = .ok query.forExit :=
  validate_of_wireguard hprotocol

theorem setLocation_eq (location : Constraint LocationConstraint) :
    query.setLocation location = .ok { query with location } :=
  validate_of_wireguard hprotocol

theorem exact_pickAutoExit : Exact (pickAutoExit query customLists list)
      (fun exit => MayPickMatching query.forExit customLists list (some exit))
      (MayMatch query.forExit customLists list []) := by
  unfold pickAutoExit
  rw [exitRelayQuery_eq hprotocol, run_ok_bind]
  exact ((exact_lift (outcomes_filterMatchingRelayList query.forExit customLists list)).bind
    fun exits _ => exact_okOr _ (outcomes_pickRandomRelay exits)).congr (fun _ => .rfl) (by simp [MayPickFrom])

theorem exact_pickAutoEntry (exit : Relay) :
    Exact (pickAutoEntry platform query customLists list exit)
      (fun config => ∃ entry, MayPick (entriesFor platform query customLists list exit) entry ∧
        config = .multihop exit entry) (entriesFor platform query customLists list exit = []) := by
  unfold pickAutoEntry
  rw [setLocation_eq hprotocol, run_ok_bind]
  refine .congr ((exact_lift (outcomes_filterMatchingRelayList query.forAnyEntry customLists list)).bind
    fun entries _ => (exact_okOr _ (outcomes_pickRandomRelayExcluding _ exit)).bind
      fun entry _ => exact_pure _) (fun config => ?_) ?_
  · simp only [MayMatch, forAnyEntry, resolveLocation, exists_eq_left, MayPickFrom, entriesFor]
  · simp only [MayMatch, forAnyEntry, resolveLocation, false_or, exists_eq_left, MayPickFrom,
      and_false, exists_false, or_false, entriesFor]

theorem exact_getWireguardMultihopConfig : Exact (getWireguardMultihopConfig query customLists list)
      (fun config => ∃ combo, MayPair query customLists list (some combo) ∧
        config = .multihop combo.1 combo.2) (MayPair query customLists list none) := by
  unfold getWireguardMultihopConfig
  rw [setLocation_eq hprotocol, run_ok_bind, exitRelayQuery_eq hprotocol, run_ok_bind]
  refine .congr ((exact_lift (outcomes_filterMatchingRelayList query.forExit customLists list)).bind
    fun exits _ => (exact_lift (outcomes_filterMatchingRelayList query.forEntry customLists list)).bind
      fun entries _ => exact_bindOption (outcomes_pickWorkingEntryExitCombo exits entries)
        ((exact_okOr _ (outcomes_pickWorkingEntryExitCombo _ _)).bind fun combo _ =>
          exact_pure (WireguardConfig.multihop combo.1 combo.2)) fun combo _ => exact_pure _) (fun config => ?_) ?_
  · constructor
    · rintro ⟨exits, hexits, entries, hentries, ⟨hnone, combo, hcombo, rfl⟩ | ⟨combo, hcombo, rfl⟩⟩
      · exact ⟨combo, .fallback hexits hentries hnone hcombo, rfl⟩
      · exact ⟨combo, .first hexits hentries hcombo, rfl⟩
    · rintro ⟨combo, ⟨hexits, hentries, hcombo⟩ | ⟨hexits, hentries, hnone, hcombo⟩, rfl⟩
      · exact ⟨_, hexits, _, hentries, .inr ⟨combo, hcombo, rfl⟩⟩
      · exact ⟨_, hexits, _, hentries, .inl ⟨hnone, combo, hcombo, rfl⟩⟩
  · simp only [false_or, and_false, exists_false, or_false]
    constructor
    · rintro ⟨exits, hexits, entries, hentries, hnone, hall⟩
      exact .fallback hexits hentries hnone hall
    · intro h
      cases h with
      | fallback hexits hentries hnone hall => exact ⟨_, hexits, _, hentries, hnone, hall⟩

/-- A search picks exactly the relays of the relation, and fails exactly where it may miss them. The
queries that it derives are valid if the query asks for WireGuard, as the source asserts. -/
theorem exact_getWireguardRelayConfig :
    Exact (getWireguardRelayConfig platform query customLists list)
      (MaySelect platform query customLists list) (MayMiss platform query customLists list) := by
  have hauto := (exact_pickAutoExit customLists list hprotocol).bind fun exit _ =>
    exact_pickAutoEntry platform customLists list hprotocol exit
  rw [← getWireguardAutoMultihopConfig_eq] at hauto
  have hsingle := outcomes_pickMatching query customLists list
  unfold getWireguardRelayConfig
  rw [← automatic]
  cases hsinglehop : query.singlehop with
  | true =>
    rw [if_pos rfl]
    cases hautomatic : query.automatic with
    | true =>
      exact .congr (exact_bindOption hsingle hauto fun exit _ => exact_pure _)
        (fun config => by simp [maySelect_iff, hsinglehop, hautomatic, mayPickMatching_none, or_comm])
        (by simp [mayMiss_iff, hsinglehop, hautomatic, mayPickMatching_none])
    | false =>
      exact .congr (exact_bindOption hsingle (exact_throw _) fun exit _ => exact_pure _)
        (fun config => by simp [maySelect_iff, hsinglehop, hautomatic])
        (by simp [mayMiss_iff, hsinglehop, hautomatic, mayPickMatching_none])
  | false =>
    rw [if_neg Bool.false_ne_true]
    cases hautomatic : query.automatic with
    | true =>
      exact .congr hauto (fun config => by simp [maySelect_iff, hsinglehop, hautomatic])
        (by simp [mayMiss_iff, hsinglehop, hautomatic])
    | false =>
      exact .congr (exact_getWireguardMultihopConfig customLists list hprotocol)
        (fun config => by simp [maySelect_iff, hsinglehop, hautomatic])
        (by simp [mayMiss_iff, hsinglehop, hautomatic])

end Wireguard

end Select

end MullvadVpn.Relays
