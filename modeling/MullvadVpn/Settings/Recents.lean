import MullvadVpn.Settings.Bridging
import MullvadVpn.Systems.MoveToFront

/-!
The recent selections (`mullvad-types/src/settings/mod.rs`). A selection moves to the front when it is used,
and the list is cut off after fifty. It is at any time the beginning of the list of all selections so far.
-/

namespace MullvadVpn.Recents

open Systems Relays

inductive Recent where
  | singlehop (location : LocationConstraint)
  | multihop (entry exit : LocationConstraint)
  deriving DecidableEq

def isHostname : LocationConstraint → Bool
  | .location (.hostname ..) => true
  | _ => false

def Recent.tryFrom : RelaySettings → Except String Recent
  | .customTunnelEndpoint _ => .error "Cannot convert CustomTunnelEndpoint to Recent"
  | .normal constraints =>
    match constraints.location with
    | .any => .error "Location must be Constraint::Only"
    | .only location =>
      if constraints.wireguardConstraints.useMultihop then
        match constraints.wireguardConstraints.entryLocation with
        | .any => .error "Location must be Constraint::Only"
        | .only entry =>
          if isHostname entry && isHostname location && entry == location then
            .error "Multihop recent cannot have identical (country, city, host) triple."
          else .ok (.multihop entry location)
      else .ok (.singlehop location)

/-- The settings up to the fields at issue. Without a list of recents they are disabled. -/
structure Settings (Secrets : Type) extends Bridging.Fields Secrets where
  recents : Option (List Recent)

namespace Settings

def RECENTS_MAX_COUNT : Nat := 50

variable {Secrets : Type} [DecidableEq Secrets] (self : Settings Secrets)

def setRelaySettings (newSettings : RelaySettings) (newSecrets : Secrets) : Settings Secrets :=
  { self with toFields := self.toFields.setRelaySettings newSettings newSecrets }

def updateRecents : Settings Secrets :=
  match self.recents with
  | some recents =>
    match Recent.tryFrom self.relaySettings with
    | .ok newRecent =>
      let recents := newRecent :: recents.filter (· != newRecent)
      { self with recents := some (recents.take RECENTS_MAX_COUNT) }
    | .error _ => self
  | none => self

/-- A change of the relay settings, as the daemon makes it. -/
def change (update : RelaySettings × Secrets) : Settings Secrets :=
  (self.setRelaySettings update.1 update.2).updateRecents

/-- What the relay settings were converted to, in order. -/
def selections (changes : List (RelaySettings × Secrets)) : List Recent :=
  changes.filterMap fun update => (Recent.tryFrom update.1).toOption

@[simp] theorem relaySettings_setRelaySettings (settings : Settings Secrets)
    (newSettings : RelaySettings) (newSecrets : Secrets) :
    (settings.setRelaySettings newSettings newSecrets).relaySettings = newSettings := by
  unfold setRelaySettings Bridging.Fields.setRelaySettings
  split
  next => rfl
  next h => exact (not_not.mp (not_or.mp h).1)

theorem recents_change {settings : Settings Secrets} {used : List Recent}
    (h : settings.recents = some (used.dedup.reverse.take RECENTS_MAX_COUNT))
    (update : RelaySettings × Secrets) :
    (settings.change update).recents =
      some ((used ++ selections [update]).dedup.reverse.take RECENTS_MAX_COUNT) := by
  have hrecents : (settings.setRelaySettings update.1 update.2).recents = _ := h
  unfold change updateRecents
  simp only [hrecents, relaySettings_setRelaySettings]
  cases hrecent : Recent.tryFrom update.1 with
  | error => simpa [selections, hrecent, Except.toOption] using hrecents
  | ok newRecent =>
    have hnew : selections [update] = [newRecent] := by simp [selections, hrecent, Except.toOption]
    rw [hnew]
    exact congrArg some (take_moveToFront used newRecent 49)

/-- The stored recents are the first of all selections so far, each of them once, the one that was used last
first. -/
theorem recents_most_recent {settings : Settings Secrets} (h : settings.recents = some [])
    (changes : List (RelaySettings × Secrets)) :
    (changes.foldl change settings).recents =
      some ((selections changes).dedup.reverse.take RECENTS_MAX_COUNT) := by
  induction changes using List.reverseRecOn with
  | nil => simpa [selections] using h
  | append_singleton changes update ih =>
    rw [List.foldl_append, selections, List.filterMap_append]
    exact recents_change ih update

/-- Sweden, Germany, any location, Germany behind an entry in Sweden, and Sweden again. -/
theorem recents_most_recent_repeated :
    let country (code : String) := LocationConstraint.location (.country code)
    let select (location : Constraint LocationConstraint) (useMultihop : Bool) : RelaySettings × Unit :=
      (.normal ⟨location, .any, .any, .wireguard,
        ⟨.any, .any, .any, useMultihop, .only (country "se")⟩, ⟨.any⟩⟩, ())
    ([select (.only (country "se")) false, select (.only (country "de")) false, select .any false,
        select (.only (country "de")) true, select (.only (country "se")) false].foldl change
          { Bridging.Fields.default () with recents := some [] }).recents =
      some [.singlehop (country "se"), .multihop (country "se") (country "de"), .singlehop (country "de")] :=
  recents_most_recent rfl _

end Settings

end MullvadVpn.Recents
