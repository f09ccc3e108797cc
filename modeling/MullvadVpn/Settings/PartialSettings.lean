import MullvadVpn.Settings.CarriedFields
import MullvadVpn.Settings.LaterAcceptance

/-!
Settings in which fields are missing, as far as they are there written as their version writes them. They
are migrated if three things are there: `block_when_disconnected`, the list of access methods next to
other access method settings, and the `authentication` of remote proxies. Everything else may be missing,
and what is there is carried over.
-/

namespace MullvadVpn.Settings

open Relays Systems Json

variable {history' : History} {data : Option V5.MigrationData}
  {ext : Externals} {files : Option V9.SplitTunnel} {history : History}
  {settings settings' : Json}

/-- What is there of the fields that the migrations from the version of the settings on look at is as
that version writes it. -/
structure Shaped (ext : Externals) (settings : Json) : Prop where
  relayConstraints : stage settings = 1 → ∀ normal,
    settings.getPath ["relay_settings", "normal"] = some normal → normal.isObject = true
  dnsOptions : stage settings ≤ 3 → ∀ options,
    settings.getPath ["tunnel_options", "dns_options"] = some options → options.get "state" = none →
    WrittenBy (Serde.list ext.ipAddr.serde) (options.get "addresses")
  wireguard : stage settings ≤ 4 → ∀ constraints, wireguardConstraints settings = some constraints →
    constraints.isObject = true ∧ WrittenBy (constraint port) (constraints.get "port")
  openvpn : stage settings ≤ 4 → ∀ constraints, openvpnConstraints settings = some constraints →
    constraints.isObject = true ∧ WrittenBy (constraint port) (constraints.get "port") ∧
    WrittenBy (constraint transportProtocol) (constraints.get "protocol")
  wireguardPort : stage settings = 5 → ∀ constraints, wireguardConstraints settings = some constraints →
    WrittenBy (constraint transportPort) (constraints.get "port")
  token : stage settings ≤ 5 → ∀ token, settings.get "account_token" = some token →
    token = .null ∨ ∃ number, token = .string number
  tunnelOptions : stage settings ≤ 6 → V6.TunnelOptionsShaped settings
  location : stage settings ≤ 6 → WrittenBy (constraint geographicLocationConstraint)
    (settings.getPath ["relay_settings", "normal", "location"])
  entryLocation : stage settings ≤ 6 → ∀ constraints location,
    wireguardConstraints settings = some constraints →
    constraints.get "entry_location" = some location →
    location = .null ∨ ∃ l, location = (constraint geographicLocationConstraint).toJson l
  bridgeLocation : stage settings ≤ 6 → WrittenBy (constraint geographicLocationConstraint)
    (settings.getPath ["bridge_settings", "normal", "location"])
  newBridgeLocation : stage settings = 7 → WrittenBy (constraint (locationConstraint ext))
    (settings.getPath ["bridge_settings", "normal", "location"])
  bridgeConstraints : stage settings ≤ 7 → ∀ normal,
    settings.getPath ["bridge_settings", "normal"] = some normal → normal.isObject = true ∧
    WrittenBy (constraint providers) (normal.get "providers") ∧
    WrittenBy (constraint ownership) (normal.get "ownership")
  customBridge : stage settings ≤ 7 → ∀ custom, settings.getPath ["bridge_settings", "custom"] = some custom →
    ∃ bridge, V7.HasBridge ext settings bridge
  accessMethods : stage settings ≤ 7 → V7.MethodsShaped settings
  tunnelProtocol : 2 ≤ stage settings → stage settings ≤ 10 → WrittenBy (constraint tunnelType)
    (settings.getPath ["relay_settings", "normal", "tunnel_protocol"])

/-- What may not be missing, besides an account history that can be converted. -/
structure Complete (ext : Externals) (history : History) (settings : Json) : Prop where
  history : history.Convertible ext
  accessMethods : stage settings ≤ 7 → V7.MethodsComplete settings
  blockWhenDisconnected : settings.get "block_when_disconnected" ≠ none

theorem Shaped.reachesLocations (h : Shaped ext settings) (hhistory : history.Convertible ext) :
    ReachesLocations ext history settings where
  relayConstraints hstage normal hnormal :=
    indexable_of_isObject (h.relayConstraints hstage normal hnormal)
  dnsOptions hstage options hoptions hstate :=
    (h.dnsOptions hstage options hoptions hstate).readable
  tunnelConstraints hstage := by
    constructor
    · intro constraints hconstraints
      obtain ⟨hobject, hport⟩ := h.wireguard hstage constraints hconstraints
      exact ⟨indexable_of_isObject hobject, hport.readable⟩
    · intro constraints hconstraints
      obtain ⟨hobject, hport, hprotocol⟩ := h.openvpn hstage constraints hconstraints
      exact ⟨indexable_of_isObject hobject, hport.readable, hprotocol.readable⟩
  history := hhistory
  port hstage constraints hconstraints := (h.wireguardPort hstage constraints hconstraints).readable
  token hstage token htoken hnull := by
    rcases h.token hstage token htoken with rfl | ⟨number, rfl⟩
    · cases hnull
    · exact ⟨number, rfl⟩

theorem not_misshapen_of_written {value : Json} (c : Constraint GeographicLocationConstraint)
    (h : value = (constraint geographicLocationConstraint).toJson c) : ¬V6.Misshapen value ["only"] := by
  rintro ⟨only, honly, hindexable⟩
  subst h
  cases c with
  | any => cases honly
  | only location =>
    cases honly
    cases location <;> cases hindexable

theorem Shaped.not_locationMisshapen (h : Shaped ext settings) (hstage : stage settings ≤ 6) :
    ¬LocationMisshapen settings := by
  have hsplit : ∀ keys : List String,
      WrittenBy (constraint geographicLocationConstraint) (settings.getPath keys) →
      ¬V6.Misshapen settings (keys ++ ["only"]) := by
    rintro keys hwritten ⟨only, honly, hindexable⟩
    rw [getPath_append, Option.bind_eq_some_iff] at honly
    obtain ⟨location, hlocation, honly⟩ := honly
    obtain ⟨c, hc⟩ := hwritten location hlocation
    exact not_misshapen_of_written c hc ⟨only, honly, hindexable⟩
  rintro (hmisshapen | ⟨constraints, hconstraints, only, honly, hindexable⟩ | hmisshapen)
  · exact hsplit ["relay_settings", "normal", "location"] (h.location hstage) hmisshapen
  · obtain ⟨location, hlocation, honly⟩ := Option.bind_eq_some_iff.mp honly
    rcases h.entryLocation hstage constraints location hconstraints hlocation with rfl | ⟨c, hc⟩
    · cases honly
    · exact not_misshapen_of_written c hc ⟨only, honly, hindexable⟩
  · exact hsplit ["bridge_settings", "normal", "location"] (h.bridgeLocation hstage) hmisshapen

theorem exists_firstSix (hobject : settings.isObject = true) (hshaped : Shaped ext settings)
    (hhistory : history.Convertible ext) :
    ∃ s₇ history' data, FirstSix ext history settings s₇ history' data := by
  have hreaches := hshaped.reachesLocations hhistory
  obtain ⟨⟨⟨s₇, data⟩, history'⟩, hsix⟩ := (firstSix_ends history hobject).exists_ok.mpr
    ⟨hreaches.relayConstraints, fun _ => hreaches.dnsOptions, fun h => hreaches.tunnelConstraints h.2,
      hhistory, ⟨hreaches.port, fun _ => hreaches.token⟩,
      fun h => ⟨hshaped.tunnelOptions h.2, hshaped.not_locationMisshapen h.2⟩⟩
  simp only [firstSix, Fallible.bind_eq_ok] at hsix
  obtain ⟨s₁, h₁, s₂, h₂, s₃, h₃, s₄, h₄, ⟨s₅, history''⟩, h₅, ⟨s₆, data'⟩, h₆, s₇', h₇,
    heq⟩ := hsix
  cases heq
  exact ⟨_, _, _, s₆, ⟨s₁, s₂, s₃, s₄, s₅, ⟨h₁, h₂, h₃⟩, h₄, h₅, h₆⟩, h₇⟩

theorem wrapLocation_written (ext : Externals) (c : Constraint GeographicLocationConstraint) :
    ∃ l, V6.wrapLocation ((constraint geographicLocationConstraint).toJson c) =
      .ok ((constraint (locationConstraint ext)).toJson l) := by
  cases c with
  | any => exact ⟨.any, rfl⟩
  | only location =>
    refine ⟨.only (.location location), ?_⟩
    cases location <;> rfl

/-- The sixth migration writes the location of the bridge as the seventh reads it. -/
theorem V6.writtenBy_bridgeLocation (h : migrate settings = .ok settings') (hstage : stage settings = 6)
    (hwritten : WrittenBy (constraint geographicLocationConstraint)
      (settings.getPath ["bridge_settings", "normal", "location"])) :
    WrittenBy (constraint (locationConstraint ext))
      (settings'.getPath ["bridge_settings", "normal", "location"]) := by
  rw [migrate, migrateIf, if_pos ((versionMatches_iff (by decide)).mpr hstage)] at h
  obtain ⟨converted, hconverted, hset⟩ := Fallible.bind_eq_ok.mp h
  obtain ⟨before, hsame, hupdate⟩ := convert_cases hconverted
  rw [SameExcept.setIndex hset _ (by decide)]
  rcases update_eq_ok.mp hupdate with ⟨hnone, rfl⟩ | ⟨location, location', hlocation, hwrap, rfl⟩
  · rw [hnone]
    exact fun _ h => by cases h
  · rw [getPath_insertPath_self hlocation]
    rw [hsame _ (by decide)] at hlocation
    obtain ⟨c, rfl⟩ := hwritten location hlocation
    obtain ⟨l, hl⟩ := wrapLocation_written ext c
    cases hl.symm.trans hwrap
    rintro value ⟨⟩
    exact ⟨l, rfl⟩

theorem V6.isObject_bridge (h : migrate settings = .ok settings') :
    (settings'.getPath ["bridge_settings", "normal"]).map isObject =
      (settings.getPath ["bridge_settings", "normal"]).map isObject := by
  unfold migrate migrateIf at h
  split at h
  · obtain ⟨converted, hconverted, hset⟩ := Fallible.bind_eq_ok.mp h
    obtain ⟨before, hsame, hupdate⟩ := convert_cases hconverted
    rw [SameExcept.setIndex hset _ (by decide), ← hsame _ (by decide)]
    rcases update_eq_ok.mp hupdate with ⟨-, rfl⟩ | ⟨inner, new, -, -, rfl⟩
    · rfl
    · exact map_isObject_getPath_insertPath before ["bridge_settings", "normal"] "location" [] new
  · cases h
    rfl

theorem exists_bridgeConstraints {normal : Json} (hobject : normal.isObject = true)
    (hlocation : Readable (constraint (locationConstraint ext)) (normal.get "location"))
    (hproviders : Readable (constraint providers) (normal.get "providers"))
    (hownership : Readable (constraint ownership) (normal.get "ownership")) :
    ∃ constraints, bridgeConstraintsOfJson ext normal = some constraints := by
  have hfield : ∀ {α : Type} (s : Serde (Constraint α)) {found : Option Json}, Readable s found →
      ∃ c, fieldOrAny s found = some c := by
    intro α s found hreadable
    cases found with
    | none => exact ⟨.any, rfl⟩
    | some value => exact hreadable value rfl
  obtain ⟨location, hlocation⟩ := hfield _ hlocation
  obtain ⟨providers', hproviders⟩ := hfield _ hproviders
  obtain ⟨ownership', hownership⟩ := hfield _ hownership
  obtain ⟨fields, rfl⟩ := isObject_iff.mp hobject
  exact ⟨⟨location, providers', ownership'⟩, by
    simp [bridgeConstraintsOfJson, hlocation, hproviders, hownership]⟩

theorem FirstSix.bridgeShaped (h : FirstSix ext history settings settings' history' data)
    (hlow : 1 ≤ stage settings) (hhigh : stage settings ≤ 7) (hshaped : Shaped ext settings) :
    V7.BridgeShaped ext settings' := by
  have hsame := h.sameExcept
  obtain ⟨s₆, hfive, h₆⟩ := h
  have hstage := hfive.stage_eq hlow
  have hpath : ∀ keys, s₆.getPath ("bridge_settings" :: keys) =
      settings.getPath ("bridge_settings" :: keys) := fun keys =>
    hfive.sameExcept _ (by simp [apart])
  have hlocation : WrittenBy (constraint (locationConstraint ext))
      (settings'.getPath ["bridge_settings", "normal", "location"]) := by
    by_cases hseven : stage settings = 7
    · have hskipped := (V6.advances s₆).1 (by omega)
      cases hskipped.symm.trans h₆
      rw [hpath]
      exact hshaped.newBridgeLocation hseven
    · refine V6.writtenBy_bridgeLocation h₆ (by omega) ?_
      rw [hpath]
      exact hshaped.bridgeLocation (by omega)
  constructor
  · intro custom hcustom
    rw [hsame _ (by decide)] at hcustom
    obtain ⟨bridge, hbridge⟩ := hshaped.customBridge hhigh custom hcustom
    have hcustom (key) : settings'.getPath ["bridge_settings", "custom", key] =
        settings.getPath ["bridge_settings", "custom", key] := hsame _ (by simp [apart])
    refine ⟨bridge, ?_⟩
    cases bridge <;> simpa only [V7.HasBridge, hcustom] using hbridge
  · intro normal hnormal
    have hobject := V6.isObject_bridge h₆
    rw [hpath, hnormal] at hobject
    obtain ⟨old, hold, hold'⟩ := Option.map_eq_some_iff.mp hobject.symm
    obtain ⟨hobject, hproviders, hownership⟩ := hshaped.bridgeConstraints hhigh old hold
    have hfield : ∀ key, settings'.getPath ["bridge_settings", "normal", key] = normal.get key :=
      fun key => getPath_field hnormal key
    have hfield' : ∀ key, settings.getPath ["bridge_settings", "normal", key] = old.get key :=
      fun key => getPath_field hold key
    rw [hfield] at hlocation
    refine exists_bridgeConstraints (hold' ▸ hobject) hlocation.readable ?_ ?_
    · rw [← hfield, hsame _ (by decide), hfield']
      exact hproviders.readable
    · rw [← hfield, hsame _ (by decide), hfield']
      exact hownership.readable

theorem V1.writtenBy_tunnelProtocol (h : migrate settings = .ok settings')
    (hstage : stage settings = 1) : WrittenBy (constraint tunnelType)
      (settings'.getPath ["relay_settings", "normal", "tunnel_protocol"]) := by
  rcases normal_cases h hstage with hnone | ⟨normal, normal', -, hmigrate, hfield⟩
  · rw [(hnone _ []).2]
    exact nofun
  · obtain ⟨-, -, protocol, hprotocol⟩ := get_migrateNormal hmigrate
    rw [hfield, hprotocol]
    rintro value ⟨⟩
    exact ⟨protocol, rfl⟩

theorem FirstSix.writtenBy_tunnelProtocol (h : FirstSix ext history settings settings' history' data)
    (hlow : 1 ≤ stage settings) (hhigh : stage settings ≤ 10) (hshaped : Shaped ext settings) :
    WrittenBy (constraint tunnelType) (settings'.getPath ["relay_settings", "normal", "tunnel_protocol"]) := by
  obtain ⟨s₆, ⟨s₁, s₂, s₃, s₄, s₅, ⟨h₁, h₂, h₃⟩, h₄, h₅, h₆⟩, h₇⟩ := h
  have hsame := ((((V2.isStep.sameExcept_migrate h₂).trans ((V3.isStep ext).sameExcept_migrate h₃)).trans
    (V4.isStep.sameExcept_migrate h₄)).trans (sameExcept_migrateFormats h₅)).trans
    ((V5.sameExcept_migrate h₆).trans (V6.isStep.sameExcept_migrate h₇))
  rw [hsame _ (by decide)]
  by_cases hone : stage settings = 1
  · exact V1.writtenBy_tunnelProtocol h₁ hone
  · cases ((V1.advances settings).1 hone).symm.trans h₁
    exact hshaped.tunnelProtocol (by omega) hhigh

/-- After the first six migrations, which fields are missing decides about the last five. -/
theorem exists_lastFive_iff {s₇ : Json} (h : FirstSix ext history settings s₇ history' data)
    (hlow : 1 ≤ stage settings) (hhigh : stage settings ≤ 11) (hshaped : Shaped ext settings) :
    (∃ settings', LastFive ext files s₇ settings') ↔
      (stage settings ≤ 7 → V7.MethodsComplete settings) ∧ settings.get "block_when_disconnected" ≠ none := by
  have hsame := h.sameExcept
  have hstage := h.stage_eq hlow
  have hseven : (∃ s₈, V7.migrate ext s₇ = .ok s₈) ↔ (stage settings ≤ 7 → V7.MethodsComplete settings) := by
    have hiff : stage s₇ = 7 ↔ stage settings ≤ 7 := by omega
    refine ((V7.isStep ext).ends fun hseven =>
      V7.convert_ends (h.bridgeShaped hlow (hiff.mp hseven) hshaped)).exists_ok.trans ?_
    rw [hiff, V7.methodsShaped_congr (hsame.get (by decide)), V7.methodsComplete_congr (hsame.get (by decide))]
    exact imp_congr_right fun hle => and_iff_right (hshaped.accessMethods hle)
  have hkept : ∀ {s₈ s₉ s₁₀ : Json}, V7.migrate ext s₇ = .ok s₈ → V8.migrate s₈ = .ok s₉ →
      V9.migrate files s₉ = .ok s₁₀ → SameExcept [["bridge_settings"], ["api_access_methods"],
        ["settings_version"], ["obfuscation_settings"], ["split_tunnel"]] s₇ s₁₀ := by
    intro s₈ s₉ s₁₀ h₈ h₉ h₁₀
    exact ((((V7.isStep ext).sameExcept_migrate h₈).trans (V8.isStep.sameExcept_migrate h₉)).trans
      (V9.sameExcept_migrate h₁₀)).mono (by decide)
  have hblock : ∀ {s₈ s₉ s₁₀ s₁₁ : Json}, V7.migrate ext s₇ = .ok s₈ → V8.migrate s₈ = .ok s₉ →
      V9.migrate files s₉ = .ok s₁₀ → V10.migrate s₁₀ = .ok s₁₁ →
      ((∃ settings', V11.migrate s₁₁ = .ok settings') ↔ settings.get "block_when_disconnected" ≠ none) := by
    intro s₈ s₉ s₁₀ s₁₁ h₈ h₉ h₁₀ h₁₁
    have heleven : stage s₁₁ = 11 := by
      rw [V10.advances.stage h₁₁, (V9.advances files).stage h₁₀, V8.advances.stage h₉,
        (V7.advances ext).stage h₈, hstage]
      unfold advance
      split_ifs <;> omega
    have hget : s₁₁.get "block_when_disconnected" = settings.get "block_when_disconnected" :=
      (hsame.trans ((hkept h₈ h₉ h₁₀).trans (V10.isStep.sameExcept_migrate h₁₁))).get (by decide)
    rw [V11.migrate_ends.exists_ok, hget]
    exact ⟨fun h => h heleven, fun h _ => h⟩
  constructor
  · rintro ⟨s₁₂, s₈, s₉, s₁₀, s₁₁, h₈, h₉, h₁₀, h₁₁, h₁₂⟩
    exact ⟨hseven.mp ⟨s₈, h₈⟩, (hblock h₈ h₉ h₁₀ h₁₁).mp ⟨s₁₂, h₁₂⟩⟩
  · rintro ⟨hmethods, hpresent⟩
    obtain ⟨s₈, h₈⟩ := hseven.mpr hmethods
    obtain ⟨s₉, h₉⟩ := (V8.migrate_ends s₈).exists_ok.mpr trivial
    obtain ⟨s₁₀, h₁₀⟩ := (V9.migrate_ends files s₉).exists_ok.mpr trivial
    obtain ⟨s₁₁, h₁₁⟩ : ∃ s₁₁, V10.migrate s₁₀ = .ok s₁₁ := by
      refine (V10.migrate_ends fun hten => ?_).exists_ok.mpr trivial
      rw [hkept h₈ h₉ h₁₀ _ (by decide)]
      refine h.writtenBy_tunnelProtocol hlow ?_ hshaped
      rw [(V9.advances files).stage h₁₀, V8.advances.stage h₉, (V7.advances ext).stage h₈, hstage] at hten
      unfold advance at hten
      split_ifs at hten <;> omega
    obtain ⟨s₁₂, h₁₂⟩ := (hblock h₈ h₉ h₁₀ h₁₁).mpr hpresent
    exact ⟨s₁₂, s₈, s₉, s₁₀, s₁₁, h₈, h₉, h₁₀, h₁₁, h₁₂⟩

theorem exists_migrateSettings_iff (files : Option V9.SplitTunnel) (history : History)
    (hobject : settings.isObject = true) (hold : Outdated settings) (hshaped : Shaped ext settings) :
    (∃ migrated, migrateSettings ext files history settings = .ok migrated) ↔
      Complete ext history settings := by
  obtain ⟨hlow, hhigh⟩ := hold
  simp only [migrateSettings_eq_ok_iff hobject]
  constructor
  · rintro ⟨migrated, s₇, hsix, hfive⟩
    obtain ⟨hmethods, hblock⟩ :=
      (exists_lastFive_iff hsix hlow hhigh hshaped).mp ⟨migrated.settings, hfive⟩
    refine ⟨?_, hmethods, hblock⟩
    obtain ⟨s₆, ⟨s₁, s₂, s₃, s₄, s₅, ⟨h₁, h₂, h₃⟩, h₄, h₅, h₆⟩, -⟩ := hsix
    have hobject₄ := isObject_migrateIf (afterThree hobject h₁ h₂ h₃).isObject h₄
    exact (migrateFormats_ends _ hobject₄).exists_ok.mp ⟨_, h₅⟩
  · intro hcomplete
    obtain ⟨s₇, history', data, hsix⟩ := exists_firstSix hobject hshaped hcomplete.history
    obtain ⟨settings', hfive⟩ := (exists_lastFive_iff hsix hlow hhigh hshaped).mpr
      ⟨hcomplete.accessMethods, hcomplete.blockWhenDisconnected⟩
    exact ⟨⟨settings', data, history'⟩, s₇, hsix, hfive⟩

/-- Partial settings are migrated, and all of their fields are carried over, if and only if nothing is
missing that two of the migrations insist on. -/
theorem migrateSettings_partial_iff (ext : Externals) (files : Option V9.SplitTunnel)
    (history : History) (settings : Json) (hobject : settings.isObject = true)
    (hold : Outdated settings) (hshaped : Shaped ext settings) :
    (∃ migrated, migrateSettings ext files history settings = .ok migrated ∧
      ∀ key value, settings.get key = some value → Carried history migrated key value) ↔
    Complete ext history settings := by
  rw [← exists_migrateSettings_iff files history hobject hold hshaped]
  constructor
  · rintro ⟨migrated, hmigrated, -⟩
    exact ⟨migrated, hmigrated⟩
  · rintro ⟨migrated, hmigrated⟩
    exact ⟨migrated, hmigrated, fun key value =>
      carried_of_migrateSettings hobject hold hmigrated⟩

namespace Sample

def onlyVersion : Json :=
  .object [("settings_version", .ofNat 11)]

theorem shaped_of_stage_eleven {settings : Json} (h : stage settings = 11) : Shaped ext settings := by
  constructor <;> intros <;> omega

theorem shaped_version4 : Shaped ext version4 where
  relayConstraints h := absurd h (by decide)
  dnsOptions h := absurd h (by decide)
  wireguard _ _ h := by
    cases h
    exact ⟨rfl, fun _ h => by cases h; exact ⟨.only 51820, rfl⟩⟩
  openvpn _ _ h := by cases h
  wireguardPort h := absurd h (by decide)
  token _ _ h := by cases h
  tunnelOptions _ _ h := by
    cases h
    rfl
  location _ _ h := by
    cases h
    exact ⟨.only (.country "se"), rfl⟩
  entryLocation _ _ _ h h' := by
    cases h
    cases h'
  bridgeLocation _ _ h := by cases h
  newBridgeLocation h := absurd h (by decide)
  bridgeConstraints _ _ h := by cases h
  customBridge _ _ h := by cases h
  accessMethods _ _ h := by cases h
  tunnelProtocol _ _ _ h := by cases h

end Sample

theorem migrateSettings_partial_version4 : ∃ migrated,
    migrateSettings Sample.ext none .absent Sample.version4 = .ok migrated ∧
      Carried .absent migrated "block_when_disconnected" (.bool true) := by
  obtain ⟨migrated, hmigrated, hcarried⟩ := (migrateSettings_partial_iff Sample.ext none .absent
    Sample.version4 rfl (by constructor <;> decide) Sample.shaped_version4).mpr
    ⟨trivial, fun _ => ⟨fun _ h => (by cases h), fun _ h => by cases h⟩, fun h => by cases h⟩
  exact ⟨migrated, hmigrated, hcarried _ _ rfl⟩

/-- Settings with nothing but their version are not migrated. -/
theorem migrateSettings_rejects_partial_settings :
    Shaped Sample.ext Sample.onlyVersion ∧
    migrateSettings Sample.ext none .absent Sample.onlyVersion = .error (.error .invalidSettingsContent) :=
  ⟨Sample.shaped_of_stage_eleven rfl, rfl⟩

end MullvadVpn.Settings
