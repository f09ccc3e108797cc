import MullvadVpn.Settings.EarlyMigrations
import MullvadVpn.Settings.WireguardMigration

/-!
What becomes of the fields of settings that are migrated. The chain is cut after the sixth migration;
both parts have a list of the paths they may change and a list of the fields they may drop, from which
follows that every field is kept, converted, renamed or handed over.
-/

namespace MullvadVpn.Settings

open Systems Json Keeps
open Fallible

variable {value : Json} {ext : Externals} {files : Option V9.SplitTunnel} {history : History}
  {settings settings' : Json}

def FirstFive (ext : Externals) (history : History) (settings settings' : Json) (history' : History)
    (data : Option V5.MigrationData) : Prop :=
  ∃ s₁ s₂ s₃ s₄ s₅,
    (V1.migrate settings = .ok s₁ ∧ V2.migrate s₁ = .ok s₂ ∧ V3.migrate ext s₂ = .ok s₃) ∧
    V4.migrate s₃ = .ok s₄ ∧ migrateFormats ext s₄ history = .ok (s₅, history') ∧
      V5.migrate s₅ = .ok (settings', data)

def FirstSix (ext : Externals) (history : History) (settings settings' : Json) (history' : History)
    (data : Option V5.MigrationData) : Prop :=
  ∃ s₆, FirstFive ext history settings s₆ history' data ∧ V6.migrate s₆ = .ok settings'

def LastFive (ext : Externals) (files : Option V9.SplitTunnel) (settings settings' : Json) : Prop :=
  ∃ s₈ s₉ s₁₀ s₁₁, V7.migrate ext settings = .ok s₈ ∧ V8.migrate s₈ = .ok s₉ ∧
    V9.migrate files s₉ = .ok s₁₀ ∧ V10.migrate s₁₀ = .ok s₁₁ ∧ V11.migrate s₁₁ = .ok settings'

theorem migrateSettings_eq_ok_iff {migrated} (hobject : settings.isObject = true) :
    migrateSettings ext files history settings = .ok migrated ↔
      ∃ s₇, FirstSix ext history settings s₇ migrated.history migrated.migrationData ∧
        LastFive ext files s₇ migrated.settings := by
  simp only [migrateSettings, bind_eq_ok]
  constructor
  · rintro ⟨s₀, h₀, s₁, h₁, s₂, h₂, s₃, h₃, s₄, h₄, ⟨s₅, history'⟩, h₅,
      ⟨s₆, data⟩, h₆, s₇, h₇, s₈, h₈, s₉, h₉, s₁₀, h₁₀, s₁₁, h₁₁, s₁₂, h₁₂, heq⟩
    cases heq
    cases eq_of_asObjectMut h₀
    exact ⟨s₇, ⟨s₆, ⟨s₁, s₂, s₃, s₄, s₅, ⟨h₁, h₂, h₃⟩, h₄, h₅, h₆⟩, h₇⟩,
      s₈, s₉, s₁₀, s₁₁, h₈, h₉, h₁₀, h₁₁, h₁₂⟩
  · rintro ⟨s₇, ⟨s₆, ⟨s₁, s₂, s₃, s₄, s₅, ⟨h₁, h₂, h₃⟩, h₄, h₅, h₆⟩, h₇⟩,
      s₈, s₉, s₁₀, s₁₁, h₈, h₉, h₁₀, h₁₁, h₁₂⟩
    exact ⟨settings, asObjectMut_of_isObject hobject, s₁, h₁, s₂, h₂, s₃, h₃, s₄, h₄, _, h₅, _, h₆, s₇,
      h₇, s₈, h₈, s₉, h₉, s₁₀, h₁₀, s₁₁, h₁₁, _, h₁₂, rfl⟩

section FirstFive

variable {history' : History} {data : Option V5.MigrationData}

section

variable (h : FirstFive ext history settings settings' history' data)

include h

theorem FirstFive.stage_eq (hlow : 1 ≤ stage settings) : stage settings' = max 6 (stage settings) := by
  obtain ⟨s₁, s₂, s₃, s₄, s₅, ⟨h₁, h₂, h₃⟩, h₄, h₅, h₆⟩ := h
  rw [V5.stage_eq h₆, stage_congr (get_migrateFormats h₅ (by decide)), V4.advances.stage h₄,
    (V3.advances ext).stage h₃, V2.advances.stage h₂, V1.advances.stage h₁]
  unfold advance
  split_ifs <;> omega

theorem FirstFive.sameExcept :
    SameExcept [["relay_settings"], ["tunnel_options"], ["show_beta_releases"], ["wireguard"],
      ["obfuscation_settings"], ["account_token"], ["settings_version"]] settings settings' := by
  obtain ⟨s₁, s₂, s₃, s₄, s₅, ⟨h₁, h₂, h₃⟩, h₄, h₅, h₆⟩ := h
  have hthree := ((V1.sameExcept_migrate h₁).trans (V2.isStep.sameExcept_migrate h₂)).trans
    ((V3.isStep ext).sameExcept_migrate h₃)
  have hfive := ((V4.isStep.sameExcept_migrate h₄).trans (sameExcept_migrateFormats h₅)).trans
    (V5.sameExcept_migrate h₆)
  exact (hthree.trans hfive).mono (by decide)

end

section

variable (h : FirstSix ext history settings settings' history' data)

include h

theorem FirstSix.stage_eq (hlow : 1 ≤ stage settings) : stage settings' = max 7 (stage settings) := by
  obtain ⟨s₆, hfive, h₇⟩ := h
  rw [V6.advances.stage h₇, hfive.stage_eq hlow]
  unfold advance
  split_ifs <;> omega

theorem FirstSix.sameExcept :
    SameExcept [["relay_settings"], ["tunnel_options"], ["show_beta_releases"], ["wireguard"],
      ["obfuscation_settings"], ["account_token"], ["bridge_settings", "normal", "location", "only"],
      ["settings_version"]] settings settings' := by
  obtain ⟨s₆, hfive, h₇⟩ := h
  exact (hfive.sameExcept.trans (V6.isStep.sameExcept_migrate h₇)).mono (by decide)

end

end FirstFive

/-- The fields that some migration converts, or fills from elsewhere. -/
def convertedKeys : List String :=
  ["relay_settings", "bridge_settings", "tunnel_options", "obfuscation_settings",
    "api_access_methods", "show_beta_releases", "wireguard", "lockdown_mode", "settings_version"]

/-- A field is kept, or converted, or renamed, or handed over with the account, or it was there without a
value. -/
inductive Carried (history : History) (migrated : Migrated) (key : String) (value : Json) : Prop
  | kept (h : migrated.settings.get key = some value)
  | converted (hkey : key ∈ convertedKeys) (h : migrated.settings.get key ≠ none)
  | renamed (hkey : key = "block_when_disconnected") (h : migrated.settings.get "lockdown_mode" = some value)
  | token (hkey : key = "account_token") {returned}
      (h : migrated.migrationData = some returned) (hvalue : value = .string returned.token)
  | wireguard (hkey : key = "wireguard") {returned}
      (h : migrated.migrationData = some returned)
      (hvalue : history.UpToDate → returned.wgData = (some value).filter (!·.isNull))
  | unset (hkey : key = "show_beta_releases") (hvalue : value = .null)

theorem keeps_migrateIf {isVersion convert} {next : Nat} {dropped}
    (hconvert : ∀ converted, convert settings = .ok converted → Keeps dropped settings converted)
    (h : migrateIf isVersion convert next settings = .ok settings') : Keeps dropped settings settings' := by
  unfold migrateIf at h
  split at h
  · obtain ⟨converted, hconverted, hset⟩ := bind_eq_ok.mp h
    simpa using (hconvert converted hconverted).trans (.setIndex hset)
  · cases h
    exact .refl _ _

theorem V1.keeps (h : migrate settings = .ok settings') : Keeps [] settings settings' := by
  refine keeps_migrateIf (fun converted hconverted => ?_) h
  obtain ⟨updated, hupdated, hbeta⟩ := bind_eq_ok.mp hconverted
  exact (update hupdated).trans (.setIndex hbeta)

theorem V2.keeps (h : migrate settings = .ok settings') :
    Keeps ["show_beta_releases"] settings settings' := by
  refine keeps_migrateIf (fun converted hconverted => ?_) h
  obtain ⟨beta, hbeta, hupdate⟩ := bind_eq_ok.mp hconverted
  exact (of_sameExcept (sameExcept_migrateBeta hbeta)).trans (.update hupdate)

theorem V3.keeps (h : migrate ext settings = .ok settings') : Keeps [] settings settings' :=
  keeps_migrateIf (fun _ hconverted => .update hconverted) h

theorem V4.keeps (h : migrate settings = .ok settings') : Keeps [] settings settings' := by
  refine keeps_migrateIf (fun converted hconverted => ?_) h
  obtain ⟨wireguard, hwireguard, hopenvpn⟩ := bind_eq_ok.mp hconverted
  exact (update hwireguard).trans (.update hopenvpn)

variable {history' : History}

theorem keeps_migrateFormats
    (h : migrateFormats ext settings history = .ok (settings', history')) : Keeps [] settings settings' := by
  cases history with
  | absent =>
    cases h
    exact .refl _ _
  | unreadable => cases h
  | found text writable =>
    simp only [migrateFormats] at h
    split at h
    · cases h
      exact .refl _ _
    · obtain ⟨⟨converted, token⟩, hinner, hrest⟩ := bind_eq_ok.mp h
      have hconverted : Keeps [] settings converted := by
        unfold migrateFormatsInner at hinner
        split at hinner
        · obtain ⟨stored, hstored, heq⟩ := bind_eq_ok.mp hinner
          cases heq
          exact .setIndex hstored
        · cases hinner
          exact .refl _ _
        · cases hinner
          exact .refl _ _
        · cases hinner
      dsimp only at hrest
      split at hrest
      · cases hrest
        exact hconverted
      · cases hrest

theorem V5.keeps {data} (h : migrate settings = .ok (settings', data)) :
    Keeps ["account_token", "wireguard"] settings settings' := by
  rcases migrate_eq_ok h with rfl | ⟨constrained, removed, hconstrained, hremoved, hset⟩
  · exact .refl _ _
  have hconstraints : Keeps [] settings constrained := by
    rcases migrateConstraints_eq_ok hconstrained with
      ⟨-, rfl⟩ | ⟨_, _, constraints', _, hget, -, -, hrest⟩
    · exact .refl _ _
    · have hinserted := insertPath hget constraints'
      rcases hrest with ⟨-, rfl⟩ | ⟨selected, -, hobfuscation⟩
      · exact hinserted
      · exact hinserted.trans (.setIndex hobfuscation)
  have haccount : Keeps ["account_token", "wireguard"] constrained removed := by
    rcases migrateAccount_cases hremoved with ⟨token, -, rfl, -⟩ | ⟨-, rfl, -⟩
    · exact (Keeps.remove constrained "account_token").trans (.remove _ _)
    · exact .refl _ _
  exact (hconstraints.trans haccount).trans (.setIndex hset)

theorem V6.keeps (h : migrate settings = .ok settings') : Keeps [] settings settings' := by
  refine keeps_migrateIf (fun converted hconverted => ?_) h
  simp only [convert, migrateLocationConstraint, bind_eq_ok] at hconverted
  obtain ⟨s₁, h₁, s₂, h₂, s₃, h₃, s₄, h₄, h₅⟩ := hconverted
  exact (((update h₁).trans (.update h₂)).trans (.update h₃)).trans ((update h₄).trans (.update h₅))

theorem V7.keeps (h : migrate ext settings = .ok settings') : Keeps [] settings settings' := by
  refine keeps_migrateIf (fun converted hconverted => ?_) h
  simp only [convert, migrateApiAccessSettings, bind_eq_ok] at hconverted
  obtain ⟨bridged, hbridged, methods, hmethods, hseparate⟩ := hconverted
  have hbridge : Keeps [] settings bridged := by
    unfold migrateBridgeSettings at hbridged
    split at hbridged
    · obtain ⟨proxy, -, hset⟩ := bind_eq_ok.mp hbridged
      exact .setIndex hset
    · obtain ⟨normal, -, hset⟩ := bind_eq_ok.mp hbridged
      exact .setIndex hset
    · cases hbridged
      exact .refl _ _
  exact hbridge.trans ((update hmethods).trans (.update hseparate))

theorem V8.keeps (h : migrate settings = .ok settings') : Keeps [] settings settings' :=
  keeps_migrateIf (fun _ hconverted => .update hconverted) h

theorem V9.keeps (h : migrate files settings = .ok settings') : Keeps [] settings settings' := by
  have hadded : Keeps [] settings (addSplitTunnel files settings) := by
    unfold addSplitTunnel
    split
    · exact .insert _ _ _
    · exact .refl _ _
  rcases migrate_cases h with rfl | rfl
  · exact .refl _ _
  · exact hadded.trans (.insert _ _ _)

theorem V10.keeps (h : migrate settings = .ok settings') : Keeps [] settings settings' :=
  keeps_migrateIf (fun _ hconverted => .update hconverted) h

theorem V11.keeps (h : migrate settings = .ok settings') :
    Keeps ["block_when_disconnected"] settings settings' := by
  refine keeps_migrateIf (fun converted hconverted => ?_) h
  obtain ⟨value, -, hnames⟩ := convert_cases hconverted
  obtain ⟨object, hobject, hupdate⟩ := bind_eq_ok.mp hnames
  cases eq_of_asObjectMut hobject
  exact ((Keeps.insert settings "lockdown_mode" value).trans (.remove _ _)).trans (.update hupdate)

variable {data : Option V5.MigrationData}

theorem FirstSix.keeps (h : FirstSix ext history settings settings' history' data) :
    Keeps ["show_beta_releases", "account_token", "wireguard"] settings settings' := by
  obtain ⟨s₆, ⟨s₁, s₂, s₃, s₄, s₅, ⟨h₁, h₂, h₃⟩, h₄, h₅, h₆⟩, h₇⟩ := h
  exact ((((V1.keeps h₁).trans (V2.keeps h₂)).trans (V3.keeps h₃)).trans ((V4.keeps h₄).trans
    ((keeps_migrateFormats h₅).trans (V5.keeps h₆)))).trans (V6.keeps h₇)

theorem LastFive.keeps (h : LastFive ext files settings settings') :
    Keeps ["block_when_disconnected"] settings settings' := by
  obtain ⟨s₈, s₉, s₁₀, s₁₁, h₈, h₉, h₁₀, h₁₁, h₁₂⟩ := h
  exact (((V7.keeps h₈).trans (V8.keeps h₉)).trans ((V9.keeps h₁₀).trans (V10.keeps h₁₁))).trans (V11.keeps h₁₂)

theorem LastFive.sameExcept (h : LastFive ext files settings settings') :
    SameExcept [["bridge_settings"], ["api_access_methods"], ["obfuscation_settings"],
      ["split_tunnel"], ["relay_settings"], ["lockdown_mode"], ["block_when_disconnected"],
      ["settings_version"]] settings settings' := by
  obtain ⟨s₈, s₉, s₁₀, s₁₁, h₈, h₉, h₁₀, h₁₁, h₁₂⟩ := h
  exact (((((V7.isStep ext).sameExcept_migrate h₈).trans (V8.isStep.sameExcept_migrate h₉)).trans
    (V9.sameExcept_migrate h₁₀)).trans ((V10.isStep.sameExcept_migrate h₁₁).trans
    (V11.isStep.sameExcept_migrate h₁₂))).mono (by decide)

theorem V2.get_showBetaReleases (h : migrate settings = .ok settings')
    (hnull : settings.get "show_beta_releases" ≠ some .null) :
    settings'.get "show_beta_releases" = settings.get "show_beta_releases" := by
  unfold migrate migrateIf at h
  split at h
  · simp only [convert, bind_eq_ok] at h
    obtain ⟨converted, ⟨beta, hbeta, hupdate⟩, hset⟩ := h
    rw [get_setIndex hset, if_neg (by decide), get_update_of_ne (by decide) hupdate]
    unfold migrateBeta at hbeta
    split at hbeta
    · rename_i hisNull
      cases hget : settings.get "show_beta_releases" with
      | none => simp [hget] at hisNull
      | some value =>
        have hvalue : value = .null := V5.isNull_iff.mp (by simpa [hget] using hisNull)
        exact absurd (hvalue ▸ hget) hnull
    · cases hbeta
      rfl
  · cases h
    rfl

theorem FirstSix.get_showBetaReleases (h : FirstSix ext history settings settings' history' data)
    (hget : settings.get "show_beta_releases" = some value) (hnull : value ≠ .null) :
    settings'.get "show_beta_releases" ≠ none := by
  obtain ⟨s₆, ⟨s₁, s₂, s₃, s₄, s₅, ⟨h₁, h₂, h₃⟩, h₄, h₅, h₆⟩, h₇⟩ := h
  have hfirst : ∃ value₁, s₁.get "show_beta_releases" = some value₁ ∧ value₁ ≠ .null := by
    by_cases hone : stage settings = 1
    · rw [V1.migrate, migrateIf, if_pos (version_isNone_iff.mpr hone)] at h₁
      simp only [V1.convert, bind_eq_ok] at h₁
      obtain ⟨converted, ⟨updated, -, hbeta⟩, hset⟩ := h₁
      refine ⟨.bool false, ?_, fun h => by cases h⟩
      rw [get_setIndex hset, if_neg (by decide), get_setIndex hbeta, if_pos rfl]
    · cases ((V1.advances settings).1 hone).symm.trans h₁
      exact ⟨value, hget, hnull⟩
  obtain ⟨value₁, hget₁, hnull₁⟩ := hfirst
  have hsecond := V2.get_showBetaReleases h₂ (by rw [hget₁]; simpa using hnull₁)
  have hsame := (((V3.isStep ext).sameExcept_migrate h₃).trans ((V4.isStep.sameExcept_migrate h₄).trans
    (sameExcept_migrateFormats h₅))).trans ((V5.sameExcept_migrate h₆).trans
    (V6.isStep.sameExcept_migrate h₇))
  rw [hsame.get (by decide), hsecond, hget₁]
  exact fun h => by cases h

theorem V5.account_cases {data}
    (h : migrate settings = .ok (settings', data)) :
    (∃ returned, data = some returned ∧ settings.get "account_token" = some (.string returned.token) ∧
      returned.wgData = (settings.get "wireguard").filter (!·.isNull)) ∨
    data = none ∧ settings'.get "account_token" = settings.get "account_token" ∧
      settings'.get "wireguard" = settings.get "wireguard" := by
  by_cases hstage : stage settings = 5
  · obtain ⟨constrained, removed, hconstrained, hremoved, -, hsame⟩ :=
      migrate_cases ((versionMatches_iff (by decide)).mpr hstage) h
    have hbefore := sameExcept_migrateConstraints hconstrained
    have htoken : constrained.get "account_token" = settings.get "account_token" :=
      hbefore.get (by decide)
    have hkey : constrained.get "wireguard" = settings.get "wireguard" := hbefore.get (by decide)
    rcases migrateAccount_cases hremoved with ⟨token, hget, -, rfl⟩ | ⟨-, rfl, rfl⟩
    · exact .inl ⟨_, rfl, htoken ▸ hget, by rw [hkey]⟩
    · refine .inr ⟨rfl, ?_, ?_⟩
      · rw [hsame.get (by decide), htoken]
      · rw [hsame.get (by decide), hkey]
  · cases (migrate_of_ne hstage).symm.trans h
    exact .inr ⟨rfl, rfl, rfl⟩

theorem FirstSix.account_cases (h : FirstSix ext history settings settings' history' data) :
    (∃ returned, data = some returned ∧ settings.get "account_token" = some (.string returned.token) ∧
      (history.UpToDate → returned.wgData = (settings.get "wireguard").filter (!·.isNull))) ∨
    data = none ∧ settings'.get "account_token" = settings.get "account_token" ∧
      (settings.get "wireguard" ≠ none → settings'.get "wireguard" ≠ none) := by
  obtain ⟨s₆, ⟨s₁, s₂, s₃, s₄, s₅, ⟨h₁, h₂, h₃⟩, h₄, h₅, h₆⟩, h₇⟩ := h
  have hfour := (((V1.sameExcept_migrate h₁).trans (V2.isStep.sameExcept_migrate h₂)).trans
    ((V3.isStep ext).sameExcept_migrate h₃)).trans (V4.isStep.sameExcept_migrate h₄)
  have htoken : s₅.get "account_token" = settings.get "account_token" :=
    (hfour.trans (sameExcept_migrateFormats h₅)).get (by decide)
  have hkey : s₄.get "wireguard" = settings.get "wireguard" := hfour.get (by decide)
  have hsix := V6.isStep.sameExcept_migrate h₇
  rcases V5.account_cases h₆ with ⟨returned, rfl, hget, hdata⟩ | ⟨rfl, htoken', hkey'⟩
  · refine Or.inl ⟨returned, rfl, htoken ▸ hget, fun hhistory => ?_⟩
    cases (migrateFormats_of_upToDate hhistory s₄).symm.trans h₅
    rw [hdata, hkey]
  · refine Or.inr ⟨rfl, ?_, fun hpresent => ?_⟩
    · rw [hsix.get (by decide), htoken', htoken]
    · rw [hsix.get (by decide), hkey']
      exact keeps_migrateFormats h₅ _ (by decide) (by rw [hkey]; exact hpresent)

theorem V9.get_splitTunnel (h : migrate files settings = .ok settings')
    (hget : settings.get "split_tunnel" = some value) : settings'.get "split_tunnel" = some value := by
  have hadded : addSplitTunnel files settings = settings := by simp only [addSplitTunnel, hget]
  rcases migrate_cases h with rfl | rfl
  · exact hget
  · rw [hadded, get_insert (isObject_of_get hget), if_neg (by decide), hget]

theorem V11.get_lockdownMode (h : migrate settings = .ok settings') (hstage : stage settings = 11)
    (hget : settings.get "block_when_disconnected" = some value) :
    settings'.get "lockdown_mode" = some value := by
  rw [migrate, migrateIf, if_pos ((isStep.version settings).mpr hstage)] at h
  obtain ⟨converted, hconverted, hset⟩ := bind_eq_ok.mp h
  obtain ⟨found, hfound, hnames⟩ := convert_cases hconverted
  cases hget.symm.trans hfound
  rw [get_setIndex hset, if_neg (by decide),
    (sameExcept_migrateDuplicatedNames hnames).get (by decide), get_remove, if_neg (by decide),
    get_insert (isObject_of_get hget), if_pos rfl]

theorem LastFive.get_lockdownMode (h : LastFive ext files settings settings')
    (hlow : 7 ≤ stage settings) (hhigh : stage settings ≤ 11)
    (hget : settings.get "block_when_disconnected" = some value) :
    settings'.get "lockdown_mode" = some value := by
  obtain ⟨s₈, s₉, s₁₀, s₁₁, h₈, h₉, h₁₀, h₁₁, h₁₂⟩ := h
  have hsame := ((((V7.isStep ext).sameExcept_migrate h₈).trans (V8.isStep.sameExcept_migrate h₉)).trans
    (V9.sameExcept_migrate h₁₀)).trans (V10.isStep.sameExcept_migrate h₁₁)
  refine V11.get_lockdownMode h₁₂ ?_ ((hsame.get (by decide)).trans hget)
  rw [V10.advances.stage h₁₁, (V9.advances files).stage h₁₀, V8.advances.stage h₉, (V7.advances ext).stage h₈]
  unfold advance
  split_ifs <;> omega

theorem LastFive.get_splitTunnel (h : LastFive ext files settings settings')
    (hget : settings.get "split_tunnel" = some value) : settings'.get "split_tunnel" = some value := by
  obtain ⟨s₈, s₉, s₁₀, s₁₁, h₈, h₉, h₁₀, h₁₁, h₁₂⟩ := h
  have hbefore := ((V7.isStep ext).sameExcept_migrate h₈).trans (V8.isStep.sameExcept_migrate h₉)
  have hafter := (V10.isStep.sameExcept_migrate h₁₁).trans (V11.isStep.sameExcept_migrate h₁₂)
  rw [hafter.get (by decide)]
  exact V9.get_splitTunnel h₁₀ ((hbefore.get (by decide)).trans hget)

theorem carried_of_migrateSettings {migrated} (hobject : settings.isObject = true)
    (hold : Outdated settings) (h : migrateSettings ext files history settings = .ok migrated)
    {key} (hget : settings.get key = some value) : Carried history migrated key value := by
  obtain ⟨s₇, hsix, hfive⟩ := (migrateSettings_eq_ok_iff hobject).mp h
  obtain ⟨hlow, hhigh⟩ := hold
  have hpresent : settings.get key ≠ none := by
    rw [hget]
    exact nofun
  by_cases hblock : key = "block_when_disconnected"
  · subst hblock
    refine .renamed rfl (hfive.get_lockdownMode ?_ ?_ ((hsix.sameExcept.get (by decide)).trans hget))
    · rw [hsix.stage_eq hlow]
      exact le_max_left _ _
    · rw [hsix.stage_eq hlow]
      omega
  by_cases htoken : key = "account_token"
  · subst htoken
    rcases hsix.account_cases with ⟨returned, hdata, hreturned, -⟩ | ⟨-, hkept, -⟩
    · exact .token rfl hdata (Option.some.inj (hget.symm.trans hreturned))
    · exact .kept (by rw [hfive.sameExcept.get (by decide), hkept, hget])
  by_cases hwireguard : key = "wireguard"
  · subst hwireguard
    rcases hsix.account_cases with ⟨returned, hdata, -, hreturned⟩ | ⟨-, -, hkept⟩
    · exact .wireguard rfl hdata fun hhistory => hget ▸ hreturned hhistory
    · refine .converted (by decide) ?_
      rw [hfive.sameExcept.get (by decide)]
      exact hkept hpresent
  by_cases hbeta : key = "show_beta_releases"
  · subst hbeta
    by_cases hnull : value = .null
    · exact .unset rfl hnull
    · refine .converted (by decide) ?_
      rw [hfive.sameExcept.get (by decide)]
      exact hsix.get_showBetaReleases hget hnull
  by_cases hsplit : key = "split_tunnel"
  · subst hsplit
    exact .kept (hfive.get_splitTunnel ((hsix.sameExcept.get (by decide)).trans hget))
  by_cases hconverted : key ∈ convertedKeys
  · exact .converted hconverted (hfive.keeps key (by simpa using hblock)
      (hsix.keeps key (by simp [hbeta, htoken, hwireguard]) hpresent))
  · simp only [convertedKeys, List.mem_cons, List.not_mem_nil, or_false, not_or] at hconverted
    obtain ⟨h₁, h₂, h₃, h₄, h₅, -, -, h₈, h₉⟩ := hconverted
    refine .kept ?_
    rw [hfive.sameExcept.get, hsix.sameExcept.get, hget]
    · simp [apart, Ne.symm h₁, Ne.symm h₂, Ne.symm h₃, Ne.symm h₄, Ne.symm h₉, Ne.symm htoken,
        Ne.symm hwireguard, Ne.symm hbeta]
    · simp [apart, Ne.symm h₁, Ne.symm h₂, Ne.symm h₄, Ne.symm h₅, Ne.symm h₈, Ne.symm h₉,
        Ne.symm hblock, Ne.symm hsplit]

end MullvadVpn.Settings
