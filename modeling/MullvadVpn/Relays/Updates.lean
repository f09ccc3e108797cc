import MullvadVpn.Relays.Preferences
import MullvadVpn.Systems.TransitionSystem

/-!
The life of a selector (`relay_selector/mod.rs`, `relay_selector/parsed_relays.rs`): how it is built
from the relay files on disk or from a list, and how new configurations and new lists replace what
it holds. The parsed list is derived from the original one and the overrides of the configuration,
and it stays so unless the selector starts without any relay file.
-/

namespace MullvadVpn.Relays

open Net Systems ParsedRelays

variable {selector : RelaySelector}

/-- A relay file that can be opened and parsed. Times are counted from the epoch. -/
structure RelayFile where
  lastModified : Nat
  list : RelayList

def RelayList.empty : RelayList :=
  { countries := []
    openvpn := ⟨[]⟩
    bridge := ⟨[]⟩
    wireguard :=
      { portRanges := []
        ipv4Gateway := 0
        ipv6Gateway := 0
        shadowsocksPortRanges := []
        udp2tcpPorts := [] } }

namespace ParsedRelays

def empty : ParsedRelays :=
  { parsedList := .empty, originalList := .empty, overrides := [] }

/-- The newer of the two files; the bundled one unless the cached one is strictly newer. -/
def fromFile (cached bundled : Option RelayFile) (overrides : List RelayOverride) :
    Option ParsedRelays :=
  match cached, bundled with
  | cached, none => cached.map fun file => fromRelayList file.list overrides
  | none, some bundled => some (fromRelayList bundled.list overrides)
  | some cached, some bundled =>
    if cached.lastModified > bundled.lastModified then some (fromRelayList cached.list overrides)
    else some (fromRelayList bundled.list overrides)

def update (relays : ParsedRelays) (list : RelayList) : ParsedRelays :=
  fromRelayList list relays.overrides

def setOverrides (relays : ParsedRelays) (overrides : List RelayOverride) : ParsedRelays :=
  { relays with parsedList := parseRelayList relays.originalList overrides, overrides }

end ParsedRelays

namespace RelaySelector

def new (config : SelectorConfig) (cached bundled : Option RelayFile) : RelaySelector :=
  -- Without relay files, the overrides of the configuration are not stored.
  { config
    parsedRelays := (fromFile cached bundled config.relayOverrides).getD .empty }

def setConfig (selector : RelaySelector) (config : SelectorConfig) : RelaySelector :=
  { config, parsedRelays := selector.parsedRelays.setOverrides config.relayOverrides }

def setRelays (selector : RelaySelector) (list : RelayList) : RelaySelector :=
  { selector with parsedRelays := selector.parsedRelays.update list }

/-- How a selector comes to be. A file that is missing or cannot be parsed is `none`. -/
inductive Construction where
  | files (config : SelectorConfig) (cached bundled : Option RelayFile)
  | list (config : SelectorConfig) (relays : RelayList)

namespace Construction

def build : Construction → RelaySelector
  | files config cached bundled => new config cached bundled
  | list config relays => fromList config relays

/-- There are relays to start from: a list, or at least one relay file. -/
def hasRelays : Construction → Bool
  | files _ cached bundled => cached.isSome || bundled.isSome
  | list _ _ => true

end Construction

inductive Call where
  | setConfig (config : SelectorConfig)
  | setRelays (list : RelayList)

def call (selector : RelaySelector) : Call → RelaySelector
  | .setConfig config => selector.setConfig config
  | .setRelays list => selector.setRelays list

def system (construction : Construction) : TransitionSystem RelaySelector Call where
  Init selector := selector = construction.build
  step selector call := some (selector.call call)

/-- The parsed list is the original one under the overrides of the configuration. -/
def OverridesApplied (selector : RelaySelector) : Prop :=
  selector.parsedRelays.parsedList =
    parseRelayList selector.parsedRelays.originalList selector.config.relayOverrides

/-- The stored overrides are those of the configuration, too, so that the next list gets them. -/
def Synced (selector : RelaySelector) : Prop :=
  selector.parsedRelays = .fromRelayList selector.parsedRelays.originalList selector.config.relayOverrides

theorem Synced.overrides_eq (h : selector.Synced) :
    selector.parsedRelays.overrides = selector.config.relayOverrides :=
  congrArg overrides h

theorem setRelays_synced (h : selector.Synced) (list : RelayList) : (selector.setRelays list).Synced := by
  unfold Synced setRelays update
  rw [h.overrides_eq]
  rfl

theorem fromFile_of_isSome {cached bundled : Option RelayFile} (overrides : List RelayOverride)
    (h : (cached.isSome || bundled.isSome) = true) :
    ∃ list, fromFile cached bundled overrides = some (.fromRelayList list overrides) := by
  rcases cached with _ | cached <;> rcases bundled with _ | bundled
  · cases h
  · exact ⟨bundled.list, rfl⟩
  · exact ⟨cached.list, rfl⟩
  · by_cases hnewer : cached.lastModified > bundled.lastModified
    · exact ⟨cached.list, if_pos hnewer⟩
    · exact ⟨bundled.list, if_neg hnewer⟩

/-- Overrides stay applied in every state that calls lead to, exactly if the selector has relays to
start from. -/
theorem overridesApplied_iff (construction : Construction) :
    (∀ calls selector, (system construction).Run calls selector → selector.OverridesApplied) ↔
      construction.hasRelays = true := by
  constructor
  · intro h
    by_contra hrelays
    have happlied := h [] construction.build (.init rfl)
    cases construction with
    | files config cached bundled =>
      obtain ⟨rfl, rfl⟩ : cached = none ∧ bundled = none := by
        simpa [Construction.hasRelays] using hrelays
      cases congrArg (fun list : RelayList => list.wireguard.udp2tcpPorts) happlied
    | list config relays => exact hrelays rfl
  · intro hrelays calls selector hrun
    have hsynced : selector.Synced := by
      refine hrun.invariant (I := fun _ selector => selector.Synced) ?_ ?_
      · rintro selector rfl
        cases construction with
        | files config cached bundled =>
          obtain ⟨list, hlist⟩ := fromFile_of_isSome config.relayOverrides hrelays
          simp only [Construction.build, new, hlist, Option.getD_some]
          rfl
        | list config relays => rfl
      · intro _ selector call selector' _ hsynced hstep
        cases hstep
        cases call with
        | setConfig config => rfl
        | setRelays list => exact setRelays_synced hsynced list
    exact congrArg parsedList hsynced

/-- Without relay files the overrides of the configuration are lost: the first list that is fetched
comes to be used with the listed addresses. -/
theorem overrides_lost :
    ∃ selector, (system (.files { Sample.config with
          relayOverrides := [⟨"no-osl-wg-001", some (ipv4Addr 10 0 0 1), none⟩] } none none)).Run
        [.setRelays Sample.relayList] selector ∧
      selector.config.relayOverrides.map RelayOverride.ipv4AddrIn = [some (ipv4Addr 10 0 0 1)] ∧
      selector.parsedRelays.parsedList.relays.map Relay.ipv4AddrIn =
        [ipv4Addr 185 213 154 68, ipv4Addr 91 90 44 10] ∧
      ¬ selector.OverridesApplied := by
  refine ⟨_, (TransitionSystem.Run.init rfl).step rfl, rfl, rfl, ?_⟩
  intro h
  have haddrs : [ipv4Addr 185 213 154 68, ipv4Addr 91 90 44 10] =
      [ipv4Addr 185 213 154 68, ipv4Addr 10 0 0 1] :=
    congrArg (fun list => list.relays.map Relay.ipv4AddrIn) h
  exact absurd haddrs (by decide)

end RelaySelector

end MullvadVpn.Relays
