import MullvadVpn.Relays.Constraints
import MullvadVpn.Settings.Store

/-!
The bridge state against the relay settings (`mullvad-types/src/settings/mod.rs`, `relay_constraints.rs` and
the two handlers in `mullvad-daemon/src/lib.rs`), up to these two fields of the settings. New relay settings
that do not allow for a bridge turn `On` into `Auto`. The other way round nothing is checked: the bridge state
can be set to `On` whatever the relay settings are, and then they stay as they are.
-/

namespace MullvadVpn.Bridging

open Systems Net Relays Persister
open Persister (Store Format Io)

deriving instance DecidableEq for OpenVpnConstraints, WireguardConstraints, RelayConstraints,
  ConnectionConfig, CustomTunnelEndpoint, RelaySettings, BridgeState

def endpoint (customEndpoint : CustomTunnelEndpoint) : Endpoint :=
  match customEndpoint.config with
  | .openVpn endpoint => endpoint
  | .wireguard peer _ => ⟨peer.endpoint, .udp⟩

/-- `false` if the relay settings explicitly do not allow for a bridge. -/
def supportsBridge : RelaySettings → Bool
  | .customTunnelEndpoint customEndpoint => (endpoint customEndpoint).protocol == .tcp
  | .normal constraints =>
    match constraints.openvpnConstraints.port with
    | .only ⟨.udp, _⟩ => false
    | _ => true

/-- The two fields. `secrets` are the keys and credentials of a custom endpoint, which count when relay
settings are compared. -/
structure Fields (Secrets : Type) where
  relaySettings : RelaySettings
  secrets : Secrets
  bridgeState : BridgeState
  deriving DecidableEq

variable {Secrets : Type}

namespace Fields

/-- Any relay in Sweden. -/
def default (secrets : Secrets) : Fields Secrets where
  relaySettings := .normal
    { location := .only (.location (.country "se"))
      providers := .any
      ownership := .any
      tunnelProtocol := .wireguard
      wireguardConstraints :=
        { port := .any
          ipVersion := .any
          allowedIps := .any
          useMultihop := false
          entryLocation := .only (.location (.country "se")) }
      openvpnConstraints := { port := .any } }
  secrets
  bridgeState := .auto

variable [DecidableEq Secrets]

def setRelaySettings (self : Fields Secrets) (newSettings : RelaySettings) (newSecrets : Secrets) :
    Fields Secrets :=
  if self.relaySettings ≠ newSettings ∨ self.secrets ≠ newSecrets then
    let bridgeState :=
      if !supportsBridge newSettings && self.bridgeState == .on then .auto else self.bridgeState
    { relaySettings := newSettings, secrets := newSecrets, bridgeState }
  else self

end Fields

inductive Request (Secrets : Type) where
  | setRelaySettings (update : RelaySettings) (secrets : Secrets)
  | setBridgeState (bridgeState : BridgeState)

section

variable [DecidableEq Secrets] {Rest Bytes : Type} [DecidableEq Rest]
  (format : Format Rest Bytes) (path : String)
  (fields : Lens (Settings Rest) (Fields Secrets)) (io : Io)
  (store : Store Rest Bytes)

def onSetRelaySettings (update : RelaySettings) (secrets : Secrets) :
    Except (Error Empty) Unit × Store Rest Bytes :=
  match store.update format path fields (·.setRelaySettings update secrets) io with
  | (.ok _, store) => (.ok (), store)
  | (.error error, store) => (.error error, store)

def onSetBridgeState (bridgeState : BridgeState) :
    Except (Error Empty) Unit × Store Rest Bytes :=
  match store.update format path fields (fun self => { self with bridgeState }) io with
  | (.ok _, store) => (.ok (), store)
  | (.error error, store) => (.error error, store)

/-- One request, under the given answers of the file system. -/
def handle (input : Request Secrets × Io) :
    Except (Error Empty) Unit × Store Rest Bytes :=
  match input.1 with
  | .setRelaySettings update secrets =>
    onSetRelaySettings format path fields input.2 store update secrets
  | .setBridgeState bridgeState => onSetBridgeState format path fields input.2 store bridgeState

def system : TransitionSystem (Store Rest Bytes) (Request Secrets × Io) where
  Init store := ∃ secrets, fields.get store.settings = .default secrets
  step store input := some (handle format path fields store input).2

end

/-- A bridge is only demanded where the relay settings allow for one. -/
def Fields.Agree (self : Fields Secrets) : Prop :=
  self.bridgeState = .on → supportsBridge self.relaySettings = true

variable [DecidableEq Secrets]

def Request.apply (fields : Fields Secrets) : Request Secrets → Fields Secrets
  | setRelaySettings update secrets => fields.setRelaySettings update secrets
  | setBridgeState bridgeState => { fields with bridgeState }

/-- A request for a bridge comes while the relay settings allow for one. -/
def Request.Supported (fields : Fields Secrets) : Request Secrets → Prop
  | setRelaySettings _ _ => True
  | setBridgeState bridgeState => bridgeState = .on → supportsBridge fields.relaySettings = true

theorem Fields.Agree.setRelaySettings {fields : Fields Secrets} (h : fields.Agree)
    (update : RelaySettings) (secrets : Secrets) : (fields.setRelaySettings update secrets).Agree := by
  unfold Fields.setRelaySettings
  split
  · intro hon
    by_contra hunsupported
    -- Without support, `On` became `Auto`.
    rw [Bool.not_eq_true] at hunsupported
    cases hstate : fields.bridgeState <;> simp_all
  · exact h

theorem Fields.Agree.apply_iff {fields : Fields Secrets} (h : fields.Agree)
    (request : Request Secrets) : (request.apply fields).Agree ↔ request.Supported fields := by
  cases request with
  | setRelaySettings update secrets => exact iff_of_true (h.setRelaySettings update secrets) trivial
  | setBridgeState bridgeState => exact .rfl

section

variable {Rest Bytes : Type} [DecidableEq Rest] (format : Format Rest Bytes) (path : String)
  (fields : Lens (Settings Rest) (Fields Secrets)) (store : Store Rest Bytes)

theorem handle_cases (request : Request Secrets) (io : Io) :
    (∃ error after, handle format path fields store (request, io) = (.error error, after) ∧
      after.settings = store.settings) ∨
    ∃ after, handle format path fields store (request, io) = (.ok (), after) ∧
      after.settings = fields.set (request.apply (fields.get store.settings)) store.settings := by
  cases request with
  | setRelaySettings update secrets =>
    simp only [handle, onSetRelaySettings]
    rcases store.update_cases (E := Empty) format path fields (·.setRelaySettings update secrets) io with
      ⟨error, after, heq, hsame⟩ | ⟨changed, after, heq, hset⟩
    · exact .inl ⟨error, after, by rw [heq], hsame⟩
    · exact .inr ⟨after, by rw [heq], hset⟩
  | setBridgeState bridgeState =>
    simp only [handle, onSetBridgeState]
    rcases store.update_cases (E := Empty) format path fields (fun self => { self with bridgeState }) io with
      ⟨error, after, heq, hsame⟩ | ⟨changed, after, heq, hset⟩
    · exact .inl ⟨error, after, by rw [heq], hsame⟩
    · exact .inr ⟨after, by rw [heq], hset⟩

def KeepsAgreement (input : Request Secrets × Io) : Prop :=
  (fields.get (handle format path fields store input).2.settings).Agree

/-- If the request is accepted, the relay settings support it. -/
def AcceptsSupported (input : Request Secrets × Io) : Prop :=
  (handle format path fields store input).1 = .ok () → input.1.Supported (fields.get store.settings)

variable {format path fields}

/-- In a run the bridge state is `On` only with relay settings that support bridges, exactly if it is only
set to `On` then. -/
theorem run_agree_iff (history : List (Request Secrets × Io))
    (store : Store Rest Bytes) :
    (system format path fields).RunWhere
        (fun _ before input => KeepsAgreement format path fields before input) history store ↔
      (system format path fields).RunWhere
        (fun _ before input => AcceptsSupported format path fields before input) history store := by
  refine TransitionSystem.runWhere_congr
    (I := fun _ store => (fields.get store.settings).Agree) ?_ ?_ ?_ history store
  · rintro store ⟨secrets, hdefault⟩
    rw [hdefault]
    exact nofun
  · rintro _ store ⟨request, io⟩ _ hagree -
    unfold KeepsAgreement AcceptsSupported
    rcases handle_cases format path fields store request io with
      ⟨error, after, heq, hsame⟩ | ⟨after, heq, hset⟩
    · rw [heq, hsame]
      exact iff_of_true hagree nofun
    · rw [heq, hset, fields.get_set, hagree.apply_iff]
      exact ⟨fun hsupported _ => hsupported, fun hsupported => hsupported rfl⟩
  · rintro _ store input _ - hkeeps ⟨⟩
    exact hkeeps

end

namespace Sample

def store : Store (Fields Unit) (Settings (Fields Unit)) :=
  Persister.Sample.store (.default ())

def system : TransitionSystem (Store (Fields Unit) (Settings (Fields Unit)))
    (Request Unit × Io) :=
  Bridging.system (Persister.Sample.plain (.default ())) "settings.json" Persister.Sample.field

def openVpnUdp : RelaySettings := .normal
  { location := .any
    providers := .any
    ownership := .any
    tunnelProtocol := .openVpn
    wireguardConstraints :=
      { port := .any
        ipVersion := .any
        allowedIps := .any
        useMultihop := false
        entryLocation := .any }
    openvpnConstraints := { port := .only ⟨.udp, .any⟩ } }

end Sample

/-- OpenVPN over UDP is selected, and then the bridge state is set to `On`. -/
theorem bridge_on_over_udp :
    ∃ history store, Sample.system.Run history store ∧
      store.settings.rest.bridgeState = .on ∧ supportsBridge store.settings.rest.relaySettings = false := by
  have hrun := ((TransitionSystem.Run.init (S := Sample.system) (s := Sample.store) ⟨(), rfl⟩).step
    (e := (.setRelaySettings Sample.openVpnUdp (), {})) rfl).step
    (e := (.setBridgeState .on, {})) rfl
  exact ⟨_, _, hrun, rfl, rfl⟩

end MullvadVpn.Bridging
