import MullvadVpn.Settings.MiddleAcceptance

/-!
What the first five migrations accept, and what they leave for the sixth, in terms of the settings the
chain starts with. They hand on the constraints of the tunnel types, the account number and the
locations; the first one may move the constraints, and the fifth takes a null entry location away.
-/

namespace MullvadVpn.Settings

open Systems Json V6 SameExcept V5 V4
open Fallible

variable {ext : Externals} {settings settings' : Json}

theorem isObject_migrateIf {isVersion convert} {next : Nat}
    (hobject : settings.isObject = true)
    (h : migrateIf isVersion convert next settings = .ok settings') : settings'.isObject = true := by
  unfold migrateIf at h
  split at h
  · obtain ⟨converted, -, hset⟩ := bind_eq_ok.mp h
    exact isObject_setIndex hset
  · cases h
    exact hobject

/-- Where the first migration takes the WireGuard constraints from: from the tunnel constraints, unless
these are OpenVPN constraints. -/
def V1.chooseWireguard : Option Json → Option Json → Option Json → Option Json
  | none, some constraints, _ => some constraints
  | _, _, old => old

/-- The WireGuard constraints as the first migration leaves them. -/
def wireguardConstraints (settings : Json) : Option Json :=
  if stage settings = 1 then
    V1.chooseWireguard (settings.getPath ["relay_settings", "normal", "tunnel", "only", "openvpn"])
      (settings.getPath ["relay_settings", "normal", "tunnel", "only", "wireguard"])
      (settings.getPath ["relay_settings", "normal", "wireguard_constraints"])
  else settings.getPath ["relay_settings", "normal", "wireguard_constraints"]

/-- The OpenVPN constraints as the first migration leaves them. -/
def openvpnConstraints (settings : Json) : Option Json :=
  if stage settings = 1 then
    (settings.getPath ["relay_settings", "normal", "tunnel", "only", "openvpn"]).or
      (settings.getPath ["relay_settings", "normal", "openvpn_constraints"])
  else settings.getPath ["relay_settings", "normal", "openvpn_constraints"]

namespace V1

theorem get_migrateNormal {openvpn wireguard} {normal normal' : Json}
    (h : migrateNormal openvpn wireguard normal = .ok normal') :
    normal'.get "wireguard_constraints" =
      chooseWireguard openvpn wireguard (normal.get "wireguard_constraints") ∧
    normal'.get "openvpn_constraints" = openvpn.or (normal.get "openvpn_constraints") ∧
    ∃ protocol, normal'.get "tunnel_protocol" = some ((constraint tunnelType).toJson protocol) := by
  unfold migrateNormal at h
  split at h
  · simp only [bind_eq_ok] at h
    obtain ⟨next, hnext, stored, hlast, heq⟩ := h
    cases heq
    refine ⟨?_, ?_, .any, ?_⟩ <;> simp [get_remove, get_setIndex hlast, get_setIndex hnext, chooseWireguard]
  · simp only [bind_eq_ok] at h
    obtain ⟨next, hnext, stored, hlast, heq⟩ := h
    cases heq
    refine ⟨?_, ?_, .only .wireguard, ?_⟩ <;>
      simp [get_remove, get_setIndex hlast, get_setIndex hnext, chooseWireguard]
  · obtain ⟨stored, hstored, heq⟩ := bind_eq_ok.mp h
    cases heq
    refine ⟨?_, ?_, .any, ?_⟩ <;> simp [get_remove, get_setIndex hstored, chooseWireguard]

theorem normal_cases (h : migrate settings = .ok settings') (hstage : stage settings = 1) :
    (∀ key keys, settings.getPath ("relay_settings" :: "normal" :: key :: keys) = none ∧
      settings'.getPath ["relay_settings", "normal", key] = none) ∨
    ∃ normal normal', settings.getPath ["relay_settings", "normal"] = some normal ∧
      migrateNormal (settings.getPath ["relay_settings", "normal", "tunnel", "only", "openvpn"])
        (settings.getPath ["relay_settings", "normal", "tunnel", "only", "wireguard"]) normal =
          .ok normal' ∧ ∀ key, settings'.getPath ["relay_settings", "normal", key] = normal'.get key := by
  rw [migrate, migrateIf, if_pos (version_isNone_iff.mpr hstage)] at h
  simp only [convert, bind_eq_ok] at h
  obtain ⟨converted, ⟨updated, hupdated, hbeta⟩, hset⟩ := h
  have hsame : ∀ key, settings'.getPath ["relay_settings", "normal", key] =
      updated.getPath ["relay_settings", "normal", key] := fun key =>
    ((setIndex hbeta).trans (.setIndex hset)) _ (by simp [apart])
  rcases update_eq_ok.mp hupdated with ⟨hnone, rfl⟩ | ⟨normal, normal', hnormal, hmigrate, rfl⟩
  · have hnowhere : ∀ key keys, updated.getPath ("relay_settings" :: "normal" :: key :: keys) = none :=
      fun key keys => getPath_append_of_none hnone (key :: keys)
    exact .inl fun key keys => ⟨hnowhere key keys, (hsame key).trans (hnowhere key [])⟩
  · exact .inr ⟨normal, normal', hnormal, hmigrate, fun key =>
      (hsame key).trans (getPath_field (getPath_insertPath_self hnormal _) key)⟩

theorem getPath_constraints (h : migrate settings = .ok settings') :
    settings'.getPath ["relay_settings", "normal", "wireguard_constraints"] = wireguardConstraints settings ∧
    settings'.getPath ["relay_settings", "normal", "openvpn_constraints"] = openvpnConstraints settings := by
  by_cases hstage : stage settings = 1
  · rw [wireguardConstraints, openvpnConstraints, if_pos hstage, if_pos hstage]
    rcases normal_cases h hstage with hnone | ⟨normal, normal', hnormal, hmigrate, hfield⟩
    · simp [(hnone _ _).1, (hnone _ []).2, chooseWireguard]
    · obtain ⟨hwireguard, hopenvpn, -⟩ := get_migrateNormal hmigrate
      have hold : ∀ key, settings.getPath ["relay_settings", "normal", key] = normal.get key :=
        fun key => getPath_field hnormal key
      rw [hfield, hfield, hold, hold]
      exact ⟨hwireguard, hopenvpn⟩
  · have hsame := (advances settings).1 hstage
    rw [h] at hsame
    cases hsame
    rw [wireguardConstraints, openvpnConstraints, if_neg hstage, if_neg hstage]
    exact ⟨rfl, rfl⟩

end V1

theorem V2.isObject_options (h : migrate settings = .ok settings') :
    (settings'.getPath ["tunnel_options", "wireguard"]).map isObject =
      (settings.getPath ["tunnel_options", "wireguard"]).map isObject := by
  unfold migrate migrateIf at h
  split at h
  · simp only [convert, bind_eq_ok] at h
    obtain ⟨converted, ⟨beta, hbeta, hupdate⟩, hset⟩ := h
    rw [setIndex hset _ (by decide), ← sameExcept_migrateBeta hbeta _ (by decide)]
    rcases update_eq_ok.mp hupdate with ⟨-, rfl⟩ | ⟨options, options', hoptions, hrotation, rfl⟩
    · rfl
    · rw [getPath_insertPath_self hoptions, hoptions]
      unfold migrateRotation at hrotation
      split at hrotation
      · rename_i interval hinterval
        obtain ⟨value, hvalue, -⟩ := Option.bind_eq_some_iff.mp hinterval
        simp only [bind_eq_ok] at hrotation
        obtain ⟨stored, hstored, object, hobject, heq⟩ := hrotation
        cases heq
        cases eq_of_asObjectMut hobject
        simp [isObject_setIndex hstored, isObject_of_get hvalue]
      · cases hrotation
        rfl
  · cases h
    rfl

theorem tunnelOptionsShaped_congr
    (h : (settings'.getPath ["tunnel_options", "wireguard"]).map isObject =
      (settings.getPath ["tunnel_options", "wireguard"]).map isObject) :
    TunnelOptionsShaped settings' ↔ TunnelOptionsShaped settings := by
  have hcases : ∀ value : Json, TunnelOptionsShaped value ↔
      (value.getPath ["tunnel_options", "wireguard"]).map isObject ≠ some false := by
    intro value
    unfold TunnelOptionsShaped
    cases value.getPath ["tunnel_options", "wireguard"] <;> simp
  rw [hcases, hcases, h]

/-- What the first three migrations leave for those that can panic. -/
structure AfterThree (settings settings' : Json) : Prop where
  isObject : settings'.isObject = true
  stage_eq : stage settings' = advance 3 (advance 2 (advance 1 (stage settings)))
  wireguard : settings'.getPath ["relay_settings", "normal", "wireguard_constraints"] =
    wireguardConstraints settings
  openvpn : settings'.getPath ["relay_settings", "normal", "openvpn_constraints"] = openvpnConstraints settings
  options : TunnelOptionsShaped settings' ↔ TunnelOptionsShaped settings
  token : settings'.get "account_token" = settings.get "account_token"
  location : settings'.getPath ["relay_settings", "normal", "location", "only"] =
    settings.getPath ["relay_settings", "normal", "location", "only"]
  bridgeLocation : settings'.getPath ["bridge_settings", "normal", "location", "only"] =
    settings.getPath ["bridge_settings", "normal", "location", "only"]

theorem V1.sameExcept_migrate (h : migrate settings = .ok settings') :
    SameExcept [["relay_settings", "normal", "openvpn_constraints"],
      ["relay_settings", "normal", "wireguard_constraints"],
      ["relay_settings", "normal", "tunnel_protocol"], ["relay_settings", "normal", "tunnel"],
      ["show_beta_releases"], ["settings_version"]] settings settings' := by
  unfold migrate migrateIf at h
  split at h
  · obtain ⟨converted, hconverted, hset⟩ := bind_eq_ok.mp h
    obtain ⟨updated, hupdated, hbeta⟩ := bind_eq_ok.mp hconverted
    exact ((update hupdated fun _ _ => sameExcept_migrateNormal).trans (.setIndex hbeta)).trans (.setIndex hset)
  · cases h
    exact .refl _ _

variable {s₁ s₂ s₃ : Json}

theorem afterThree (hobject : settings.isObject = true) (h₁ : V1.migrate settings = .ok s₁)
    (h₂ : V2.migrate s₁ = .ok s₂) (h₃ : V3.migrate ext s₂ = .ok s₃) : AfterThree settings s₃ := by
  have hsame := (V2.isStep.sameExcept_migrate h₂).trans ((V3.isStep ext).sameExcept_migrate h₃)
  have hsame' := (V1.sameExcept_migrate h₁).trans hsame
  refine ⟨isObject_migrateIf (isObject_migrateIf (isObject_migrateIf hobject h₁) h₂) h₃, ?_, ?_, ?_, ?_,
    hsame'.get (by decide), hsame' _ (by decide), hsame' _ (by decide)⟩
  · rw [(V3.advances ext).stage h₃, V2.advances.stage h₂, V1.advances.stage h₁]
  · rw [hsame _ (by decide), (V1.getPath_constraints h₁).1]
  · rw [hsame _ (by decide), (V1.getPath_constraints h₁).2]
  · rw [tunnelOptionsShaped_congr (congrArg _ ((V3.isStep ext).sameExcept_migrate h₃ _ (by decide))),
      tunnelOptionsShaped_congr (V2.isObject_options h₂),
      tunnelOptionsShaped_congr (congrArg _ (V1.sameExcept_migrate h₁ _ (by decide)))]

theorem V3.accepts_congr (h : settings'.getPath ["tunnel_options", "dns_options"] =
    settings.getPath ["tunnel_options", "dns_options"]) : Accepts ext settings' ↔ Accepts ext settings := by
  simp only [Accepts, h]

namespace V5

theorem getPath_entryLocation_migrateMultihop {constraints constraints' : Json}
    (h : migrateMultihop constraints = .ok constraints') :
    constraints'.getPath ["entry_location", "only"] = constraints.getPath ["entry_location", "only"] := by
  unfold migrateMultihop at h
  split at h
  · rename_i location hlocation _
    split at h
    · rename_i hnull
      obtain ⟨object, hobject, heq⟩ := bind_eq_ok.mp h
      cases heq
      cases eq_of_asObjectMut hobject
      cases location with
      | null =>
        rw [getPath_cons, getPath_cons, get_remove, if_pos rfl, hlocation]
        rfl
      | bool | number | string | array | object => cases hnull
    · exact setIndex h _ (by decide)
  · cases h
    rfl

theorem getPath_entryLocation {data}
    (h : migrate settings = .ok (settings', data)) :
    settings'.getPath ["relay_settings", "normal", "wireguard_constraints", "entry_location", "only"] =
      settings.getPath ["relay_settings", "normal", "wireguard_constraints", "entry_location", "only"] := by
  rcases migrate_eq_ok h with rfl | ⟨constrained, removed, hconstrained, hremoved, hset⟩
  · rfl
  rw [setIndex hset _ (by decide), sameExcept_migrateAccount hremoved _ (by decide)]
  rcases migrateConstraints_eq_ok hconstrained with
    ⟨-, rfl⟩ | ⟨constraints, multihop, constraints', _, hconstraints, hmultihop, hport, hrest⟩
  · rfl
  have hinner : constraints'.getPath ["entry_location", "only"] =
      constraints.getPath ["entry_location", "only"] := by
    rw [sameExcept_migratePortConstraint hport _ (by decide), getPath_entryLocation_migrateMultihop hmultihop]
  have hinserted : (settings.insertPath ["relay_settings", "normal", "wireguard_constraints"]
      constraints').getPath ["relay_settings", "normal", "wireguard_constraints", "entry_location", "only"] =
      settings.getPath ["relay_settings", "normal", "wireguard_constraints", "entry_location", "only"] :=
    calc _ = constraints'.getPath ["entry_location", "only"] :=
          getPath_append_of_some (getPath_insertPath_self hconstraints _) _
      _ = constraints.getPath ["entry_location", "only"] := hinner
      _ = _ := (getPath_append_of_some hconstraints ["entry_location", "only"]).symm
  rcases hrest with ⟨-, rfl⟩ | ⟨selected, -, hobfuscation⟩
  · exact hinserted
  · rw [setIndex hobfuscation _ (by decide), hinserted]

end V5

theorem V4.readable_port (h : migrate settings = .ok settings') (hstage : stage settings = 4)
    {constraints : Json}
    (hconstraints : settings'.getPath ["relay_settings", "normal", "wireguard_constraints"] =
      some constraints) : Readable (constraint transportPort) (constraints.get "port") := by
  rw [migrate, migrateIf, if_pos ((versionMatches_iff (by decide)).mpr hstage)] at h
  simp only [convert, bind_eq_ok] at h
  obtain ⟨converted, ⟨wireguard, hwireguard, hopenvpn⟩, hset⟩ := h
  rw [setIndex hset _ (by decide), sameExcept_update hopenvpn _ (by decide)] at hconstraints
  rcases update_eq_ok.mp hwireguard with ⟨hnone, rfl⟩ | ⟨old, new, hold, hmigrate, rfl⟩
  · rw [hnone] at hconstraints
    cases hconstraints
  · cases (getPath_insertPath_self hold new).symm.trans hconstraints
    simp only [migrateWireguard, storePort, bind_eq_ok] at hmigrate
    obtain ⟨port, -, stored, hstored, object, hobject, heq⟩ := hmigrate
    cases heq
    cases eq_of_asObjectMut hobject
    intro value hvalue
    rw [get_remove, if_neg (by decide), get_setIndex hstored, if_pos rfl] at hvalue
    cases hvalue
    exact ⟨_, Serde.ofJson_toJson _ _⟩

/-- From the fourth migration to the sixth: which settings reach it, and what it finds. -/
structure AfterFive (settings settings' : Json) : Prop where
  stage_eq : stage settings' = advance 5 (advance 4 (stage settings))
  options : settings'.getPath ["tunnel_options", "wireguard"] = settings.getPath ["tunnel_options", "wireguard"]
  locations : ∀ path ∈ locationPaths, settings'.getPath path = settings.getPath path

variable {history history' : History} {s₄ s₅ s₆ : Json}

theorem afterFive {data}
    (h₄ : V4.migrate settings = .ok s₄) (h₅ : migrateFormats ext s₄ history = .ok (s₅, history'))
    (h₆ : V5.migrate s₅ = .ok (s₆, data)) : AfterFive settings s₆ := by
  have hsame := ((V4.isStep.sameExcept_migrate h₄).trans (sameExcept_migrateFormats h₅)).trans
    (V5.sameExcept_migrate h₆)
  have hsame' := (V4.isStep.sameExcept_migrate h₄).trans (sameExcept_migrateFormats h₅)
  refine ⟨?_, hsame _ (by decide), ?_⟩
  · rw [V5.stage_eq h₆, stage_congr (get_migrateFormats h₅ (by decide)), V4.advances.stage h₄]
  · simp only [locationPaths, List.forall_mem_cons]
    refine ⟨hsame _ (by decide), ?_, hsame _ (by decide), fun _ h => by cases h⟩
    rw [V5.getPath_entryLocation h₆, hsame' _ (by decide)]

/-- A location that the sixth migration finds and cannot index. -/
def LocationMisshapen (settings : Json) : Prop :=
  Misshapen settings ["relay_settings", "normal", "location", "only"] ∨
  (∃ constraints, wireguardConstraints settings = some constraints ∧
    Misshapen constraints ["entry_location", "only"]) ∨
  Misshapen settings ["bridge_settings", "normal", "location", "only"]

/-- No migration before the sixth fails. -/
structure ReachesLocations (ext : Externals) (history : History) (settings : Json) : Prop where
  relayConstraints : stage settings = 1 → V1.Accepts settings
  dnsOptions : stage settings ≤ 3 → V3.Accepts ext settings
  tunnelConstraints : stage settings ≤ 4 → V4.Accepts (wireguardConstraints settings) (openvpnConstraints settings)
  history : history.Convertible ext
  port : stage settings = 5 → PortReadable (wireguardConstraints settings)
  token : stage settings ≤ 5 → TokenReadable settings

theorem AfterThree.locationMisshapen_iff (h : AfterThree settings settings') :
    (∃ path ∈ locationPaths, Misshapen settings' path) ↔ LocationMisshapen settings := by
  have hentry : Misshapen settings'
      ["relay_settings", "normal", "wireguard_constraints", "entry_location", "only"] ↔
      ∃ constraints, wireguardConstraints settings = some constraints ∧
        Misshapen constraints ["entry_location", "only"] := by
    have hsplit := getPath_append settings' ["relay_settings", "normal", "wireguard_constraints"]
      ["entry_location", "only"]
    rw [h.wireguard] at hsplit
    unfold Misshapen
    simp only [List.cons_append, List.nil_append] at hsplit
    rw [hsplit]
    cases wireguardConstraints settings <;> simp
  simp only [locationPaths, List.exists_mem_cons_iff, List.not_mem_nil, false_and, exists_false,
    or_false, LocationMisshapen, ← hentry, misshapen_congr h.location,
    misshapen_congr h.bridgeLocation]

theorem AfterThree.stage_eq_four_iff (h : AfterThree settings settings') :
    stage settings' = 4 ↔ 1 ≤ stage settings ∧ stage settings ≤ 4 := by
  rw [h.stage_eq]
  unfold advance
  split_ifs <;> omega

def firstSix (ext : Externals) (history : History) (settings : Json) :
    Result ((Json × Option MigrationData) × History) := do
  let settings ← V1.migrate settings
  let settings ← V2.migrate settings
  let settings ← V3.migrate ext settings
  let settings ← V4.migrate settings
  let (settings, history) ← migrateFormats ext settings history
  let (settings, migrationData) ← V5.migrate settings
  let settings ← V6.migrate settings
  return ((settings, migrationData), history)

theorem V3.migrate_ends_of_first (h₁ : V1.migrate settings = .ok s₁)
    (h₂ : V2.migrate s₁ = .ok s₂) : Ends (migrate ext s₂)
      (1 ≤ stage settings → stage settings ≤ 3 → Accepts ext settings) False := by
  have hsame := (V1.sameExcept_migrate h₁).trans (V2.isStep.sameExcept_migrate h₂)
  refine migrate_ends.congr ?_ Iff.rfl
  rw [accepts_congr (hsame _ (by decide)), V2.advances.stage h₂, V1.advances.stage h₁, ← and_imp]
  refine imp_congr_left ?_
  unfold advance
  split <;> split <;> omega

theorem AfterThree.migrate_ends (h : AfterThree settings settings') : Ends (V4.migrate settings')
    (1 ≤ stage settings ∧ stage settings ≤ 4 →
      V4.Accepts (wireguardConstraints settings) (openvpnConstraints settings))
    ((1 ≤ stage settings ∧ stage settings ≤ 4) ∧
      V4.Unindexable (wireguardConstraints settings) (openvpnConstraints settings)) := by
  rw [← h.stage_eq_four_iff, ← h.wireguard, ← h.openvpn]
  exact V4.migrate_ends

/-- What the fifth migration needs, in terms of the settings the chain starts with. -/
theorem AfterThree.migrate_ends_of_fourth (h : AfterThree settings s₃) (h₄ : V4.migrate s₃ = .ok s₄)
    (h₅ : migrateFormats ext s₄ history = .ok (s₅, history')) : Ends (V5.migrate s₅)
      ((stage settings = 5 → V5.PortReadable (wireguardConstraints settings)) ∧
        (1 ≤ stage settings → stage settings ≤ 5 → V5.TokenReadable settings)) False := by
  have hformats := sameExcept_migrateFormats h₅
  have htoken : V5.TokenReadable s₅ ↔ V5.TokenReadable settings :=
    V5.tokenReadable_congr ((((V4.isStep.sameExcept_migrate h₄).trans hformats).get (by decide)).trans h.token)
  have hconstraints := hformats ["relay_settings", "normal", "wireguard_constraints"] (by decide)
  have hstage : stage s₅ = 5 ↔ 1 ≤ stage settings ∧ stage settings ≤ 5 := by
    rw [stage_congr (get_migrateFormats h₅ (by decide)), V4.advances.stage h₄, h.stage_eq]
    unfold advance
    split_ifs <;> omega
  have hport : stage settings = 5 →
      (V5.PortReadable (s₅.getPath ["relay_settings", "normal", "wireguard_constraints"]) ↔
        V5.PortReadable (wireguardConstraints settings)) := by
    intro hfive
    have hskipped := (V4.advances s₃).1 (by rw [h.stage_eq, hfive]; decide)
    cases hskipped.symm.trans h₄
    rw [hconstraints, h.wireguard]
  refine V5.migrate_ends.congr ?_ .rfl
  rw [hstage]
  constructor
  · intro haccepts
    exact ⟨fun hfive => (hport hfive).mp (haccepts (by omega)).port,
      fun hlow hhigh => htoken.mp (haccepts ⟨hlow, hhigh⟩).token⟩
  · rintro ⟨hreadable, haccepts⟩ ⟨hlow, hhigh⟩
    refine ⟨?_, htoken.mpr (haccepts hlow hhigh)⟩
    by_cases hfive : stage settings = 5
    · exact (hport hfive).mpr (hreadable hfive)
    · intro constraints
      rw [hconstraints]
      exact V4.readable_port h₄ (h.stage_eq_four_iff.mpr (by omega))

theorem AfterFive.migrate_ends (hthree : AfterThree settings s₃)
    (hfive : AfterFive s₃ s₆) : Ends (V6.migrate s₆)
      (1 ≤ stage settings ∧ stage settings ≤ 6 → V6.TunnelOptionsShaped settings ∧ ¬LocationMisshapen settings)
      ((1 ≤ stage settings ∧ stage settings ≤ 6) ∧ V6.TunnelOptionsShaped settings ∧
        LocationMisshapen settings) := by
  have hstage : stage s₆ = 6 ↔ 1 ≤ stage settings ∧ stage settings ≤ 6 := by
    rw [hfive.stage_eq, hthree.stage_eq]
    unfold advance
    split_ifs <;> omega
  have hlocations : (∃ path ∈ V6.locationPaths, V6.Misshapen s₆ path) ↔ LocationMisshapen settings := by
    rw [← hthree.locationMisshapen_iff]
    exact exists_congr fun path => and_congr_right fun hpath =>
      V6.misshapen_congr (hfive.locations path hpath)
  have hoptions : V6.TunnelOptionsShaped s₆ ↔ V6.TunnelOptionsShaped settings :=
    (tunnelOptionsShaped_congr (congrArg _ hfive.options)).trans hthree.options
  rw [← hstage, ← hlocations, ← hoptions]
  refine V6.migrate_ends.congr (imp_congr_right fun _ => ?_) (and_congr_right fun _ => ?_)
  · push Not
    exact ⟨fun h => ⟨h.options, h.locations⟩, fun h => ⟨h.1, h.2⟩⟩
  · exact ⟨fun h => ⟨h.options, h.locations⟩, fun h => ⟨h.1, h.2⟩⟩

/-- The first migrations may panic in the first one, in the fourth, or in the sixth. -/
theorem firstSix_ends (history : History) (hobject : settings.isObject = true) :
    Ends (firstSix ext history settings) ((stage settings = 1 → V1.Accepts settings) ∧
        (1 ≤ stage settings → stage settings ≤ 3 → V3.Accepts ext settings) ∧
        (1 ≤ stage settings ∧ stage settings ≤ 4 →
          V4.Accepts (wireguardConstraints settings) (openvpnConstraints settings)) ∧
        history.Convertible ext ∧
        ((stage settings = 5 → PortReadable (wireguardConstraints settings)) ∧
          (1 ≤ stage settings → stage settings ≤ 5 → TokenReadable settings)) ∧
        (1 ≤ stage settings ∧ stage settings ≤ 6 → TunnelOptionsShaped settings ∧ ¬LocationMisshapen settings))
      (stage settings = 1 ∧ ¬V1.Accepts settings ∨ (stage settings = 1 → V1.Accepts settings) ∧
        (1 ≤ stage settings → stage settings ≤ 3 → V3.Accepts ext settings) ∧
        ((1 ≤ stage settings ∧ stage settings ≤ 4) ∧
            V4.Unindexable (wireguardConstraints settings) (openvpnConstraints settings) ∨
          (1 ≤ stage settings ∧ stage settings ≤ 4 →
            V4.Accepts (wireguardConstraints settings) (openvpnConstraints settings)) ∧
          history.Convertible ext ∧
          ((stage settings = 5 → PortReadable (wireguardConstraints settings)) ∧
            (1 ≤ stage settings → stage settings ≤ 5 → TokenReadable settings)) ∧
          (1 ≤ stage settings ∧ stage settings ≤ 6) ∧ TunnelOptionsShaped settings ∧
            LocationMisshapen settings)) := by
  refine (V1.migrate_ends hobject).bind fun s₁ h₁ => (V2.migrate_ends s₁).after fun s₂ h₂ =>
    (V3.migrate_ends_of_first h₁ h₂).seq fun s₃ h₃ => ?_
  have hthree := afterThree hobject h₁ h₂ h₃
  refine hthree.migrate_ends.bind fun s₄ h₄ =>
    (migrateFormats_ends history (isObject_migrateIf hthree.isObject h₄)).seq ?_
  rintro ⟨s₅, history'⟩ h₅
  refine (hthree.migrate_ends_of_fourth h₄ h₅).seq ?_
  rintro ⟨s₆, data⟩ h₆
  exact (AfterFive.migrate_ends hthree (afterFive h₄ h₅ h₆)).before fun _ _ => .ok _

end MullvadVpn.Settings
