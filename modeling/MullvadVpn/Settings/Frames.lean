import MullvadVpn.Settings.Chain
import MullvadVpn.Systems.JsonFrame

/-!
What each migration may change in the settings, as the list of the paths at which they can be different
afterwards. What later migrations need to know about the rest of the settings follows from these lists.
-/

namespace MullvadVpn.Settings

open Systems Json SameExcept
open Fallible

variable {constraints constraints' : Json} {ext : Externals} {settings settings' : Json}

theorem eq_of_asObjectMut {value value' : Json} (h : asObjectMut value = .ok value') : value' = value :=
  (expectObject_eq_ok.mp h).2

theorem sameExcept_update {keys : List String} {f : Json → Result Json}
    (h : settings.update keys f = .ok settings') : SameExcept [keys] settings settings' := by
  have hsame : SameExcept ([[]].map (keys ++ ·)) settings settings' :=
    .update h fun _ _ _ path hpath =>
      absurd (hpath [] (List.mem_singleton_self _)) (by cases path <;> simp [apart])
  simpa using hsame

/-- The parts of a migration for one version: how it recognises the version, and a conversion that
changes only what is listed, which the version is not part of. -/
structure IsStep (n : Nat) (isVersion : Json → Bool) (convert : Json → Result Json)
    (changed : List (List String)) : Prop where
  two_le : 2 ≤ n
  version : ∀ settings, isVersion settings = true ↔ stage settings = n
  sameExcept : ∀ settings settings', convert settings = .ok settings' → SameExcept changed settings settings'
  apart : ∀ p ∈ changed, apart p ["settings_version"] = true

theorem IsStep.sameExcept_migrate {n : Nat} {isVersion convert}
    {changed} (step : IsStep n isVersion convert changed) {next : Nat}
    (h : migrateIf isVersion convert next settings = .ok settings') :
    SameExcept (changed ++ [["settings_version"]]) settings settings' := by
  unfold migrateIf at h
  split at h
  · obtain ⟨converted, hconverted, hset⟩ := bind_eq_ok.mp h
    exact (step.sameExcept settings converted hconverted).trans (.setIndex hset)
  · cases h
    exact .refl _ _

theorem V1.sameExcept_migrateNormal {openvpn wireguard} {normal normal' : Json}
    (h : migrateNormal openvpn wireguard normal = .ok normal') :
    SameExcept [["openvpn_constraints"], ["wireguard_constraints"], ["tunnel_protocol"], ["tunnel"]]
      normal normal' := by
  unfold migrateNormal at h
  split at h
  · simp only [bind_eq_ok] at h
    obtain ⟨next, hnext, stored, hlast, heq⟩ := h
    cases heq
    exact (((setIndex hnext).trans (.setIndex hlast)).trans (.remove stored "tunnel")).mono (by decide)
  · simp only [bind_eq_ok] at h
    obtain ⟨next, hnext, stored, hlast, heq⟩ := h
    cases heq
    exact (((setIndex hnext).trans (.setIndex hlast)).trans (.remove stored "tunnel")).mono (by decide)
  · obtain ⟨stored, hstored, heq⟩ := bind_eq_ok.mp h
    cases heq
    exact ((setIndex hstored).trans (.remove stored "tunnel")).mono (by decide)

namespace V2

theorem sameExcept_migrateBeta (h : migrateBeta settings = .ok settings') :
    SameExcept [["show_beta_releases"]] settings settings' := by
  unfold migrateBeta at h
  split at h
  · obtain ⟨object, hobject, heq⟩ := bind_eq_ok.mp h
    cases heq
    rw [eq_of_asObjectMut hobject]
    exact .remove _ _
  · cases h
    exact .refl _ _

theorem sameExcept_migrateRotation {wireguard wireguard' : Json}
    (h : migrateRotation wireguard = .ok wireguard') :
    SameExcept [["rotation_interval"], ["automatic_rotation"]] wireguard wireguard' := by
  unfold migrateRotation at h
  split at h
  · obtain ⟨stored, hstored, hrest⟩ := bind_eq_ok.mp h
    obtain ⟨object, hobject, heq⟩ := bind_eq_ok.mp hrest
    cases heq
    rw [eq_of_asObjectMut hobject]
    exact (setIndex hstored).trans (.remove _ _)
  · cases h
    exact .refl _ _

theorem isStep : IsStep 2 (versionMatches 2) convert
    [["show_beta_releases"], ["tunnel_options", "wireguard", "rotation_interval"],
      ["tunnel_options", "wireguard", "automatic_rotation"]] where
  two_le := by decide
  version _ := versionMatches_iff (by decide)
  sameExcept settings settings' h := by
    obtain ⟨beta, hbeta, hupdate⟩ := bind_eq_ok.mp h
    exact (sameExcept_migrateBeta hbeta).trans (.update hupdate fun _ _ => sameExcept_migrateRotation)
  apart := by decide

end V2

theorem V3.isStep (ext : Externals) : IsStep 3 (versionMatches 3) (convert ext)
    [["tunnel_options", "dns_options"]] where
  two_le := by decide
  version _ := versionMatches_iff (by decide)
  sameExcept _ _ h := sameExcept_update h
  apart := by decide

namespace V4

theorem sameExcept_storePort {port}
    (h : storePort port constraints = .ok constraints') :
    SameExcept [["port"], ["protocol"]] constraints constraints' := by
  obtain ⟨stored, hstored, hrest⟩ := bind_eq_ok.mp h
  obtain ⟨object, hobject, heq⟩ := bind_eq_ok.mp hrest
  cases heq
  rw [eq_of_asObjectMut hobject]
  exact (setIndex hstored).trans (.remove _ _)

theorem isStep : IsStep 4 (versionMatches 4) convert
    [["relay_settings", "normal", "wireguard_constraints", "port"],
      ["relay_settings", "normal", "wireguard_constraints", "protocol"],
      ["relay_settings", "normal", "openvpn_constraints", "port"],
      ["relay_settings", "normal", "openvpn_constraints", "protocol"]] where
  two_le := by decide
  version _ := versionMatches_iff (by decide)
  sameExcept settings settings' h := by
    obtain ⟨wireguard, hwireguard, hopenvpn⟩ := bind_eq_ok.mp h
    refine (update hwireguard fun _ _ h => (?_ : SameExcept [["port"], ["protocol"]] _ _)).trans
      (.update hopenvpn fun _ _ h => (?_ : SameExcept [["port"], ["protocol"]] _ _))
    · obtain ⟨port, -, hstore⟩ := bind_eq_ok.mp h
      exact sameExcept_storePort hstore
    · obtain ⟨port, -, hrest⟩ := bind_eq_ok.mp h
      obtain ⟨transport, -, hstore⟩ := bind_eq_ok.mp hrest
      exact sameExcept_storePort hstore
  apart := by decide

end V4

theorem sameExcept_migrateFormats {history history'}
    (h : migrateFormats ext settings history = .ok (settings', history')) :
    SameExcept [["wireguard"]] settings settings' :=
  .of_get fun _ hkey => get_migrateFormats h hkey

namespace V5

theorem sameExcept_migrateMultihop (h : migrateMultihop constraints = .ok constraints') :
    SameExcept [["entry_location"], ["use_multihop"]] constraints constraints' := by
  unfold migrateMultihop at h
  split at h
  · split at h
    · obtain ⟨object, hobject, heq⟩ := bind_eq_ok.mp h
      cases heq
      rw [eq_of_asObjectMut hobject]
      exact (SameExcept.remove constraints "entry_location").mono (by decide)
    · exact (setIndex h).mono (by decide)
  · cases h
    exact .refl _ _

theorem sameExcept_migratePortConstraint {obfuscation}
    (h : migratePortConstraint constraints = .ok (constraints', obfuscation)) :
    SameExcept [["port"]] constraints constraints' := by
  unfold migratePortConstraint at h
  split at h
  · cases h
    exact .refl _ _
  · obtain ⟨port, -, hrest⟩ := bind_eq_ok.mp h
    split at hrest
    · cases hrest
      exact .refl _ _
    · obtain ⟨stored, hstored, heq⟩ := bind_eq_ok.mp hrest
      cases heq
      exact .setIndex hstored

theorem migrateConstraints_eq_ok (h : migrateConstraints settings = .ok settings') :
    settings.getPath ["relay_settings", "normal", "wireguard_constraints"] = none ∧ settings' = settings ∨
    ∃ constraints multihop constraints' obfuscation,
      settings.getPath ["relay_settings", "normal", "wireguard_constraints"] = some constraints ∧
      migrateMultihop constraints = .ok multihop ∧
      migratePortConstraint multihop = .ok (constraints', obfuscation) ∧
      let inserted := settings.insertPath ["relay_settings", "normal", "wireguard_constraints"] constraints'
      obfuscation = none ∧ settings' = inserted ∨ ∃ selected, obfuscation = some selected ∧
        inserted.setIndex "obfuscation_settings" selected = (.ok settings' : Result Json) := by
  unfold migrateConstraints at h
  split at h
  · cases h
    exact .inl ⟨by assumption, rfl⟩
  · rename_i constraints hconstraints
    simp only [bind_eq_ok] at h
    obtain ⟨multihop, hmultihop, ⟨constraints', obfuscation⟩, hport, hrest⟩ := h
    refine .inr ⟨constraints, multihop, constraints', obfuscation, hconstraints, hmultihop, hport, ?_⟩
    dsimp only at hrest
    split at hrest
    · exact .inr ⟨_, rfl, hrest⟩
    · cases hrest
      exact .inl ⟨rfl, rfl⟩

theorem sameExcept_migrateConstraints (h : migrateConstraints settings = .ok settings') :
    SameExcept [["relay_settings", "normal", "wireguard_constraints", "entry_location"],
      ["relay_settings", "normal", "wireguard_constraints", "use_multihop"],
      ["relay_settings", "normal", "wireguard_constraints", "port"],
      ["obfuscation_settings"]] settings settings' := by
  rcases migrateConstraints_eq_ok h with
    ⟨-, rfl⟩ | ⟨constraints, multihop, constraints', _, hconstraints, hmultihop, hport, hrest⟩
  · exact .refl _ _
  · have hsame := insertPath hconstraints
      ((sameExcept_migrateMultihop hmultihop).trans (sameExcept_migratePortConstraint hport))
    rcases hrest with ⟨-, rfl⟩ | ⟨selected, -, hset⟩
    · exact hsame.mono (by decide)
    · exact hsame.trans (.setIndex hset)

variable {data : Option MigrationData}

theorem sameExcept_migrateAccount (h : migrateAccount settings = .ok (settings', data)) :
    SameExcept [["account_token"], ["wireguard"]] settings settings' := by
  unfold migrateAccount at h
  split at h
  · obtain ⟨token, -, hrest⟩ := bind_eq_ok.mp h
    obtain ⟨object, hobject, heq⟩ := bind_eq_ok.mp hrest
    cases heq
    rw [eq_of_asObjectMut hobject]
    exact (SameExcept.remove settings "account_token").trans (.remove _ _)
  · cases h
    exact .refl _ _

theorem migrate_eq_ok (h : migrate settings = .ok (settings', data)) :
    settings' = settings ∨ ∃ constrained removed, migrateConstraints settings = .ok constrained ∧
      migrateAccount constrained = .ok (removed, data) ∧ setVersion 6 removed = .ok settings' := by
  unfold migrate at h
  split at h
  · simp only [bind_eq_ok] at h
    obtain ⟨constrained, hconstrained, ⟨removed, data'⟩, hremoved, versioned, hset, heq⟩ := h
    cases heq
    exact .inr ⟨constrained, removed, hconstrained, hremoved, hset⟩
  · cases h
    exact .inl rfl

theorem sameExcept_migrate (h : migrate settings = .ok (settings', data)) :
    SameExcept [["relay_settings", "normal", "wireguard_constraints", "entry_location"],
      ["relay_settings", "normal", "wireguard_constraints", "use_multihop"],
      ["relay_settings", "normal", "wireguard_constraints", "port"], ["obfuscation_settings"],
      ["account_token"], ["wireguard"], ["settings_version"]] settings settings' := by
  rcases migrate_eq_ok h with rfl | ⟨constrained, removed, hconstrained, hremoved, hset⟩
  · exact .refl _ _
  · exact ((sameExcept_migrateConstraints hconstrained).trans
      (sameExcept_migrateAccount hremoved)).trans (.setIndex hset)

end V5

namespace V6

theorem sameExcept_wrapLocation {location location' : Json}
    (h : wrapLocation location = .ok location') : SameExcept [["only"]] location location' :=
  sameExcept_update h

theorem convert_cases (h : convert settings = .ok settings') :
    ∃ before, SameExcept [["tunnel_options"], ["obfuscation_settings"], ["relay_settings"]] settings before ∧
      before.update ["bridge_settings", "normal", "location"] wrapLocation = .ok settings' := by
  simp only [convert, migrateLocationConstraint, bind_eq_ok] at h
  obtain ⟨s₁, h₁, s₂, h₂, s₃, h₃, s₄, h₄, h₅⟩ := h
  have hsame := ((sameExcept_update h₁).trans (sameExcept_update h₂)).trans
    ((sameExcept_update h₃).trans (sameExcept_update h₄))
  exact ⟨s₄, hsame.mono (by decide), h₅⟩

theorem sameExcept_migratePq {options options' : Json} (h : migratePq options = .ok options') :
    SameExcept [["use_pq_safe_psk"], ["quantum_resistant"]] options options' := by
  obtain ⟨object, hobject, hrest⟩ := bind_eq_ok.mp h
  cases eq_of_asObjectMut hobject
  split at hrest
  · cases hrest
    exact .refl _ _
  · exact (SameExcept.remove options "use_pq_safe_psk").trans (.setIndex hrest)

theorem isStep : IsStep 6 (versionMatches 6) convert
    [["tunnel_options", "wireguard", "use_pq_safe_psk"], ["tunnel_options", "wireguard", "quantum_resistant"],
      ["obfuscation_settings", "udp2tcp", "port"],
      ["relay_settings", "normal", "location", "only"],
      ["relay_settings", "normal", "wireguard_constraints", "entry_location", "only"],
      ["bridge_settings", "normal", "location", "only"]] where
  two_le := by decide
  version _ := versionMatches_iff (by decide)
  sameExcept settings settings' h := by
    simp only [convert, migrateLocationConstraint, bind_eq_ok] at h
    obtain ⟨s₁, h₁, s₂, h₂, s₃, h₃, s₄, h₄, h₅⟩ := h
    exact ((update h₁ fun _ _ => sameExcept_migratePq).trans (sameExcept_update h₂)).trans
      (((update h₃ fun _ _ => sameExcept_wrapLocation).trans
        (.update h₄ fun _ _ => sameExcept_wrapLocation)).trans
        (.update h₅ fun _ _ => sameExcept_wrapLocation))
  apart := by decide

end V6

namespace V7

theorem sameExcept_migrateBridgeSettings (h : migrateBridgeSettings ext settings = .ok settings') :
    SameExcept [["bridge_settings"]] settings settings' := by
  unfold migrateBridgeSettings at h
  split at h
  · obtain ⟨proxy, -, hset⟩ := bind_eq_ok.mp h
    exact .setIndex hset
  · obtain ⟨normal, -, hset⟩ := bind_eq_ok.mp h
    exact .setIndex hset
  · cases h
    exact .refl _ _

theorem sameExcept_migrateApiAccessSettings (h : migrateApiAccessSettings settings = .ok settings') :
    SameExcept [["api_access_methods"]] settings settings' := by
  obtain ⟨methods, hmethods, hseparate⟩ := bind_eq_ok.mp h
  exact .of_get fun key hkey => by
    rw [get_update_of_ne hkey hseparate, get_update_of_ne hkey hmethods]

theorem isStep (ext : Externals) : IsStep 7 (versionMatches 7) (convert ext)
    [["bridge_settings"], ["api_access_methods"]] where
  two_le := by decide
  version _ := versionMatches_iff (by decide)
  sameExcept settings settings' h := by
    obtain ⟨bridge, hbridge, hmethods⟩ := bind_eq_ok.mp h
    exact (sameExcept_migrateBridgeSettings hbridge).trans (sameExcept_migrateApiAccessSettings hmethods)
  apart := by decide

end V7

theorem V8.isStep : IsStep 8 (versionMatches 8) migrateSelectedObfuscation
    [["obfuscation_settings", "selected_obfuscation"]] where
  two_le := by decide
  version _ := versionMatches_iff (by decide)
  sameExcept _ _ h := sameExcept_update h
  apart := by decide

namespace V9

theorem sameExcept_addSplitTunnel (files : Option SplitTunnel) (settings : Json) :
    SameExcept [["split_tunnel"]] settings (addSplitTunnel files settings) := by
  unfold addSplitTunnel
  split
  · exact .insert _ _ _
  · exact .refl _ _

variable {files : Option SplitTunnel}

theorem migrate_cases (h : migrate files settings = .ok settings') : settings' = settings ∨
      settings' = (addSplitTunnel files settings).insert "settings_version" (.ofNat 10) := by
  unfold migrate at h
  split at h
  · obtain ⟨object, hobject, hrest⟩ := bind_eq_ok.mp h
    cases eq_of_asObjectMut hobject
    dsimp only at hrest
    split at hrest
    · cases hrest
      exact .inr rfl
    · cases hrest
  · cases h
    exact .inl rfl

theorem sameExcept_migrate (h : migrate files settings = .ok settings') :
    SameExcept [["split_tunnel"], ["settings_version"]] settings settings' := by
  rcases migrate_cases h with rfl | rfl
  · exact .refl _ _
  · exact (sameExcept_addSplitTunnel files settings).trans (.insert _ _ _)

end V9

namespace V10

theorem sameExcept_migrateTunnelTypeInner {normal normal' : Json}
    (h : migrateTunnelTypeInner normal = .ok normal') : SameExcept [["tunnel_protocol"]] normal normal' := by
  unfold migrateTunnelTypeInner at h
  split at h
  · exact .setIndex h
  · simp only [bind_eq_ok] at h
    obtain ⟨chosen, -, read, -, hset⟩ := h
    exact .setIndex hset
  · cases h
  · cases h
    exact .refl _ _

theorem isStep : IsStep 10 (fun settings => settingsVersion settings == some 10) migrateTunnelType
    [["relay_settings", "normal", "tunnel_protocol"]] where
  two_le := by decide
  version _ := by rw [beq_iff_eq, settingsVersion_iff (by decide) (by decide)]
  sameExcept _ _ h := .update h fun _ _ => sameExcept_migrateTunnelTypeInner
  apart := by decide

end V10

namespace V11

theorem convert_cases (h : convert settings = .ok settings') :
    ∃ value, settings.get "block_when_disconnected" = some value ∧ migrateDuplicatedNames
        ((settings.insert "lockdown_mode" value).remove "block_when_disconnected") = .ok settings' := by
  simp only [convert, migrateBlockWhenDisconnected, bind_eq_ok] at h
  obtain ⟨renamed, ⟨object, hobject, value, hvalue, heq⟩, hnames⟩ := h
  cases eq_of_asObjectMut hobject
  cases heq
  exact ⟨value, okOr_eq_ok.mp hvalue, hnames⟩

theorem sameExcept_migrateDuplicatedNames (h : migrateDuplicatedNames settings = .ok settings') :
    SameExcept [["api_access_methods", "custom"]] settings settings' := by
  obtain ⟨object, hobject, hnames⟩ := bind_eq_ok.mp h
  cases eq_of_asObjectMut hobject
  exact sameExcept_update hnames

theorem isStep : IsStep 11 (fun settings => settingsVersion settings == some 11) convert
    [["lockdown_mode"], ["block_when_disconnected"], ["api_access_methods", "custom"]] where
  two_le := by decide
  version _ := by rw [beq_iff_eq, settingsVersion_iff (by decide) (by decide)]
  sameExcept settings settings' h := by
    obtain ⟨value, -, hnames⟩ := convert_cases h
    exact ((SameExcept.insert settings "lockdown_mode" value).trans (.remove _ _)).trans
      (sameExcept_migrateDuplicatedNames hnames)
  apart := by decide

end V11

end MullvadVpn.Settings
