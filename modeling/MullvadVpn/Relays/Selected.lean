import MullvadVpn.Relays.Selector

/-!
What the relay selector picks, as a relation between a query and its result: the relays match the
query in the role they are picked for, the hops of a multihop connection differ, and the endpoint leads
to the relays. Everything that is claimed about the result of a search is derived from this relation.
-/

namespace MullvadVpn.Relays

open Net Systems Draw List

section Relation

variable (query : RelayQuery) (customLists : List CustomList) (list : RelayList)

/-- The query without what only an entry has to provide. -/
def RelayQuery.forExit : RelayQuery :=
  { query with wireguardConstraints :=
    { query.wireguardConstraints with daita := .only false, obfuscation := .off } }

/-- The relays of a WireGuard connection are what the query asks for. -/
inductive Selected : WireguardConfig → Prop
  | singlehop {exit : Relay} (hsinglehop : query.singlehop = true)
      (hexit : Matches query list customLists exit) : Selected (.singlehop exit)
  | automatic {exit entry : Relay} (hdaita : query.usingDaita = true)
      (hnecessary : query.useMultihopIfNecessary = true)
      (hexit : Matches query.forExit list customLists exit)
      (hentry : Matches { query with location := .any } list customLists entry)
      (hne : entry.hostname ≠ exit.hostname) : Selected (.multihop exit entry)
  | multihop {exit entry : Relay} (hexit : Matches query.forExit list customLists exit)
      (hentry : Matches { query with location := query.wireguardConstraints.entryLocation }
        list customLists entry)
      (hne : entry.hostname ≠ exit.hostname) : Selected (.multihop exit entry)

/-- The whole result of a search. -/
inductive Found : GetRelay → Prop
  | wireguard {endpoint obfuscator} {inner} (hprotocol : query.tunnelProtocol = .wireguard)
      (hselected : Selected query customLists list inner)
      (hleads : LeadsTo query.wireguardConstraints endpoint inner)
      (hobfuscator : query.wireguardConstraints.obfuscation = .off → obfuscator = none) :
      Found (.wireguard endpoint obfuscator inner)
  | openVpn {endpoint exit bridge}
      (hprotocol : query.tunnelProtocol = .openVpn) (hexit : Matches query list customLists exit) :
      Found (.openVpn endpoint exit bridge)

end Relation

variable {δ : Type} [LinearOrder δ] {platform : Platform δ}
variable {relays : List Relay}

theorem mem_takeWhile_le {α : Type} {key : α → δ} {bound : δ} {xs : List α}
    (hsorted : xs.Pairwise fun a b => key a ≤ key b) {x : α} :
    (x ∈ xs.takeWhile fun a => key a ≤ bound) ↔ x ∈ xs ∧ key x ≤ bound := by
  induction xs with
  | nil => simp
  | cons y ys ih =>
    obtain ⟨hhead, htail⟩ := pairwise_cons.mp hsorted
    by_cases hy : key y ≤ bound
    · rw [takeWhile_cons_of_pos (by simpa using hy), mem_cons, mem_cons, ih htail]
      constructor
      · rintro (rfl | ⟨hmem, hle⟩)
        · exact ⟨.inl rfl, hy⟩
        · exact ⟨.inr hmem, hle⟩
      · rintro ⟨rfl | hmem, hle⟩
        · exact .inl rfl
        · exact .inr ⟨hmem, hle⟩
    · rw [takeWhile_cons_of_neg (by simpa using hy)]
      constructor
      · intro hmem
        cases hmem
      · rintro ⟨hmem, hle⟩
        rcases mem_cons.mp hmem with rfl | hmem
        · exact absurd hle hy
        · exact absurd ((hhead x hmem).trans hle) hy

def Platform.distance (platform : Platform δ) (relay : Relay) (place : Coordinates) : δ :=
  platform.distanceFrom relay.location.coordinates place

theorem mem_closestRelays_iff {place : Coordinates} {relay : Relay} :
    relay ∈ closestRelays platform relays place ↔
      relay ∈ relays ∧ ∀ other ∈ relays, platform.distance relay place ≤ platform.distance other place := by
  have : Std.Total fun a b : δ × Relay => a.1 ≤ b.1 := ⟨fun a b => le_total a.1 b.1⟩
  have : IsTrans (δ × Relay) fun a b => a.1 ≤ b.1 := ⟨fun _ _ _ => le_trans⟩
  have hsorted := pairwise_insertionSort (fun a b => a.1 ≤ b.1) (withDistanceFrom platform relays place)
  have hmem (pair : δ × Relay) :
      (pair ∈ (withDistanceFrom platform relays place).insertionSort fun a b => a.1 ≤ b.1) ↔
        ∃ relay ∈ relays, (platform.distance relay place, relay) = pair := by
    rw [mem_insertionSort]
    exact mem_map
  unfold closestRelays
  revert hsorted hmem
  generalize (withDistanceFrom platform relays place).insertionSort (fun a b => a.1 ≤ b.1) = sorted
  intro hsorted hmem
  cases sorted with
  | nil =>
    have hnone : relay ∉ relays := fun hrelay => by simpa using (hmem _).mpr ⟨relay, hrelay, rfl⟩
    simp [hnone]
  | cons first others =>
    have hfirst : ∀ other ∈ relays, first.1 ≤ platform.distance other place := by
      intro other hother
      have hpair := (hmem _).mpr ⟨other, hother, rfl⟩
      rcases mem_cons.mp hpair with heq | htail
      · rw [← heq]
      · exact (pairwise_cons.mp hsorted).1 _ htail
    rw [mem_map]
    constructor
    · rintro ⟨pair, hpair, rfl⟩
      obtain ⟨hpair, hle⟩ := (mem_takeWhile_le hsorted).mp hpair
      obtain ⟨relay, hrelay, rfl⟩ := (hmem pair).mp hpair
      exact ⟨hrelay, fun other hother => hle.trans (hfirst other hother)⟩
    · rintro ⟨hrelay, hleast⟩
      obtain ⟨nearest, hnearest, rfl⟩ := (hmem first).mp (mem_cons_self ..)
      exact ⟨_, (mem_takeWhile_le hsorted).mpr ⟨(hmem _).mpr ⟨relay, hrelay, rfl⟩, hleast nearest hnearest⟩,
        rfl⟩

theorem closestRelays_ne_nil (platform : Platform δ) (place : Coordinates) (h : relays ≠ []) :
    closestRelays platform relays place ≠ [] := by
  unfold closestRelays
  split
  next hsorted =>
    have hlength := congrArg length hsorted
    rw [length_insertionSort, withDistanceFrom, length_map] at hlength
    exact absurd (length_eq_zero_iff.mp hlength) h
  next => simp

/-- An exit and an entry from given candidates that are not the same relay. -/
def IsCombo (exits entries : List Relay) (result : Option (Relay × Relay)) : Prop :=
  ∀ exit entry, result = some (exit, entry) → exit ∈ exits ∧ entry ∈ entries ∧ entry.hostname ≠ exit.hostname

end MullvadVpn.Relays
