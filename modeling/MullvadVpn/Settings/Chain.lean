import MullvadVpn.Settings.Migrations

/-!
The chain of migrations (`migrations/mod.rs`), with the migration of the account history in the middle of
it (`migrations/account_history.rs`). Each migration either is not for the version of the settings and
leaves them alone, or hands over the version that the next one is for. The account history is another
matter: one of an old format is converted whatever the version of the settings is, and the key it holds
is put into them.
-/

namespace MullvadVpn.Settings

open Systems Fallible

variable {settings settings' : Json} {n : Nat}

/-- The file that is looked for, once it has been moved to where the settings are: there is none, or no
directory is given to look in; or it cannot be read; or it holds some text, if that is UTF-8, and may be
written or not. -/
inductive History where
  | absent
  | unreadable
  | found (text : Option String) (writable : Bool)

def isFormatV3 : Option String → Bool
  | some text => text.isEmpty || text.toList.all Char.isDigit
  | none => false

section

variable (ext : Externals) (files : Option V9.SplitTunnel)

/-- The account number of an old history. The key that comes with it goes into the settings. -/
def migrateFormatsInner (text : Option String) (settings : Json) : Result (Json × Option String) :=
  match text.bind ext.historyV2, text.bind ext.historyV1 with
  | some ((token, wgData) :: _), _ => do
    let settings ← settings.setIndex "wireguard" wgData
    return (settings, some token)
  | some [], _ => return (settings, none)
  | none, some accounts => return (settings, accounts.head?)
  | none, none => .error (.error .parseHistory)

def migrateFormats (settings : Json) : History → Result (Json × History)
  | .absent => .ok (settings, .absent)
  | .unreadable => .error (.error .readHistory)
  | .found text writable =>
    if isFormatV3 text then .ok (settings, .found text writable)
    else do
      let (settings, token) ← migrateFormatsInner ext text settings
      if writable then return (settings, .found (some (token.getD "")) writable)
      else .error (.error .writeHistory)

/-- No file, or one of the current format. -/
def History.UpToDate : History → Prop
  | .absent => True
  | .unreadable => False
  | .found text _ => isFormatV3 text = true

structure Migrated where
  settings : Json
  migrationData : Option V5.MigrationData
  history : History

/-- `migrate_settings`. The files are those that the ninth migration reads on Android. -/
def migrateSettings (history : History) (settings : Json) : Result Migrated := do
  let settings ← asObjectMut settings
  let settings ← V1.migrate settings
  let settings ← V2.migrate settings
  let settings ← V3.migrate ext settings
  let settings ← V4.migrate settings
  let (settings, history) ← migrateFormats ext settings history
  let (settings, migrationData) ← V5.migrate settings
  let settings ← V6.migrate settings
  let settings ← V7.migrate ext settings
  let settings ← V8.migrate settings
  let settings ← V9.migrate files settings
  let settings ← V10.migrate settings
  let settings ← V11.migrate settings
  return { settings, migrationData, history }

end

/-- The version by which the migrations recognise settings: 1 if there is none, and 0 if it is not one
that could follow. -/
def stage (settings : Json) : Nat :=
  match settings.get "settings_version" with
  | none => 1
  | some version =>
    match version.asU64 with
    | some n => if 2 ≤ n then n else 0
    | none => 0

theorem stage_congr (h : settings'.get "settings_version" = settings.get "settings_version") :
    stage settings' = stage settings := by
  unfold stage
  rw [h]

theorem version_isNone_iff : (settings.get "settings_version").isNone = true ↔ stage settings = 1 := by
  unfold stage
  cases settings.get "settings_version" with
  | none => simp
  | some version =>
    cases h : version.asU64 with
    | none => simp [h]
    | some n =>
      by_cases hn : 2 ≤ n
      · simp [h, hn]
        omega
      · simp [h, hn]

theorem versionNumber_eq_iff (hn : 2 ≤ n) : versionNumber settings = some n ↔ stage settings = n := by
  unfold versionNumber stage
  cases settings.get "settings_version" with
  | none =>
    simp
    omega
  | some version =>
    simp only [Option.bind_some]
    cases version.asU64 with
    | none =>
      simp
      omega
    | some m =>
      dsimp only
      split
      · simp
      · simp
        omega

theorem versionMatches_iff (hn : 2 ≤ n) : versionMatches n settings = true ↔ stage settings = n := by
  simp [versionMatches, versionNumber_eq_iff hn]

theorem settingsVersion_iff (hn : 2 ≤ n) (hn' : n ≤ 12) :
    settingsVersion settings = some n ↔ stage settings = n := by
  rw [← versionNumber_eq_iff hn, settingsVersion, Option.filter_eq_some_iff]
  constructor
  · exact fun h => h.1
  · exact fun h => ⟨h, by simp [hn, hn']⟩

theorem stage_setVersion (hn : 2 ≤ n) (h : setVersion n settings = .ok settings') : stage settings' = n := by
  have hget := Json.get_setIndex h "settings_version"
  rw [if_pos rfl] at hget
  unfold stage
  rw [hget]
  simp [Json.ofNat, Json.asU64, hn]

/-- A migration for one version: settings of another are left alone, and those of its own, if it
succeeds, are of the next one. -/
def Advances (n : Nat) (migrate : Json → Result Json) : Prop :=
  ∀ settings, (stage settings ≠ n → migrate settings = .ok settings) ∧
    ∀ settings', migrate settings = .ok settings' → stage settings = n → stage settings' = n + 1

theorem advances_migrateIf {isVersion convert} (hn : 1 ≤ n)
    (hversion : ∀ settings, isVersion settings = true ↔ stage settings = n) :
    Advances n (migrateIf isVersion convert (n + 1)) := by
  refine fun settings => ⟨fun h => ?_, fun settings' h hstage => ?_⟩
  · rw [migrateIf, if_neg fun hmatch => h ((hversion settings).mp hmatch)]
  · rw [migrateIf, if_pos ((hversion settings).mpr hstage), bind_eq_ok] at h
    obtain ⟨converted, -, hset⟩ := h
    exact stage_setVersion (by omega) hset

theorem V1.advances : Advances 1 migrate := advances_migrateIf le_rfl fun _ => version_isNone_iff

theorem V2.advances : Advances 2 migrate :=
  advances_migrateIf (by decide) fun _ => versionMatches_iff (by decide)

theorem V3.advances (ext : Externals) : Advances 3 (migrate ext) :=
  advances_migrateIf (by decide) fun _ => versionMatches_iff (by decide)

theorem V4.advances : Advances 4 migrate :=
  advances_migrateIf (by decide) fun _ => versionMatches_iff (by decide)

theorem V5.migrate_of_ne (h : stage settings ≠ 5) : migrate settings = .ok (settings, none) := by
  rw [migrate, if_neg fun hmatch => h ((versionMatches_iff (by decide)).mp hmatch)]

variable {data : Option MigrationData}

theorem V6.advances : Advances 6 migrate :=
  advances_migrateIf (by decide) fun _ => versionMatches_iff (by decide)

theorem V7.advances (ext : Externals) : Advances 7 (migrate ext) :=
  advances_migrateIf (by decide) fun _ => versionMatches_iff (by decide)

theorem V8.advances : Advances 8 migrate :=
  advances_migrateIf (by decide) fun _ => versionMatches_iff (by decide)

theorem V9.advances (files : Option SplitTunnel) : Advances 9 (migrate files) := by
  refine fun settings => ⟨fun h => ?_, fun settings' h hstage => ?_⟩
  · rw [migrate, if_neg fun hmatch => h ((versionMatches_iff (by decide)).mp hmatch)]
  · rw [migrate, if_pos ((versionMatches_iff (by decide)).mpr hstage)] at h
    simp only [bind_eq_ok] at h
    obtain ⟨object, hobject, h⟩ := h
    split at h
    · rename_i version hversion
      cases h
      unfold stage
      rw [Json.get_insert (Json.isObject_of_get hversion), if_pos rfl]
      rfl
    · cases h

theorem V10.advances : Advances 10 migrate :=
  advances_migrateIf (by decide) fun _ => by
    rw [beq_iff_eq, settingsVersion_iff (by decide) (by decide)]

theorem V11.advances : Advances 11 migrate :=
  advances_migrateIf (by decide) fun _ => by
    rw [beq_iff_eq, settingsVersion_iff (by decide) (by decide)]

/-- The stage after the migration for version `n`. -/
def advance (n : Nat) (before : Nat) : Nat :=
  if before = n then n + 1 else before

theorem Advances.stage {migrate} (h : Advances n migrate)
    (hmigrate : migrate settings = .ok settings') : stage settings' = advance n (stage settings) := by
  unfold advance
  split
  · rename_i hstage
    exact (h settings).2 settings' hmigrate hstage
  · rename_i hstage
    have hsame := (h settings).1 hstage
    rw [hmigrate] at hsame
    cases hsame
    rfl

theorem V5.stage_eq (h : migrate settings = .ok (settings', data)) :
    stage settings' = advance 5 (stage settings) := by
  unfold advance
  split
  · rename_i hstage
    rw [migrate, if_pos ((versionMatches_iff (by decide)).mpr hstage)] at h
    simp only [bind_eq_ok] at h
    obtain ⟨constrained, -, ⟨removed, data'⟩, -, versioned, hset, heq⟩ := h
    cases heq
    exact stage_setVersion (by decide) hset
  · rename_i hstage
    rw [migrate_of_ne hstage] at h
    cases h
    rfl

variable {ext : Externals} {files : Option V9.SplitTunnel} {history : History}

theorem get_migrateFormats {history'}
    (h : migrateFormats ext settings history = .ok (settings', history')) {key}
    (hkey : key ≠ "wireguard") : settings'.get key = settings.get key := by
  cases history with
  | absent =>
    cases h
    rfl
  | unreadable => cases h
  | found text writable =>
    simp only [migrateFormats] at h
    split at h
    · cases h
      rfl
    · simp only [bind_eq_ok] at h
      obtain ⟨⟨converted, token⟩, hinner, h⟩ := h
      have hget : converted.get key = settings.get key := by
        unfold migrateFormatsInner at hinner
        split at hinner
        · simp only [bind_eq_ok] at hinner
          obtain ⟨stored, hstored, heq⟩ := hinner
          cases heq
          rw [Json.get_setIndex hstored, if_neg hkey]
        · cases hinner
          rfl
        · cases hinner
          rfl
        · cases hinner
      dsimp only at h
      split at h
      · cases h
        exact hget
      · cases h

theorem migrateFormats_of_upToDate (h : history.UpToDate) (settings : Json) :
    migrateFormats ext settings history = .ok (settings, history) := by
  cases history with
  | absent => rfl
  | unreadable => exact h.elim
  | found text writable => exact if_pos h

/-- Settings whose version is missing, or an older known one. -/
def Outdated (settings : Json) : Prop :=
  1 ≤ stage settings ∧ stage settings ≤ 11

/-- Settings whose version is the current one, or not a known one. -/
def NotOutdated (settings : Json) : Prop :=
  stage settings = 0 ∨ 12 ≤ stage settings

theorem stage_migrateSettings {migrated}
    (h : migrateSettings ext files history settings = .ok migrated) (hold : Outdated settings) :
    stage migrated.settings = 12 := by
  simp only [migrateSettings, bind_eq_ok, asObjectMut] at h
  obtain ⟨s₀, h₀, s₁, h₁, s₂, h₂, s₃, h₃, s₄, h₄, ⟨s₅, history'⟩, h₅,
    ⟨s₆, data⟩, h₆, s₇, h₇, s₈, h₈, s₉, h₉, s₁₀, h₁₀, s₁₁, h₁₁, s₁₂, h₁₂, heq⟩ := h
  cases heq
  obtain ⟨-, rfl⟩ := Json.expectObject_eq_ok.mp h₀
  have hhistory : stage s₅ = stage s₄ := stage_congr (get_migrateFormats h₅ (by decide))
  show stage s₁₂ = 12
  rw [V11.advances.stage h₁₂, V10.advances.stage h₁₁, (V9.advances files).stage h₁₀,
    V8.advances.stage h₉, (V7.advances ext).stage h₈, V6.advances.stage h₇, V5.stage_eq h₆, hhistory,
    V4.advances.stage h₄, (V3.advances ext).stage h₃, V2.advances.stage h₂, V1.advances.stage h₁]
  obtain ⟨hlow, hhigh⟩ := hold
  generalize stage s₀ = n at hlow hhigh
  interval_cases n <;> rfl

theorem NotOutdated.migrates (h : NotOutdated settings) (ext : Externals) :
    V1.migrate settings = .ok settings ∧ V2.migrate settings = .ok settings ∧
      V3.migrate ext settings = .ok settings ∧ V4.migrate settings = .ok settings ∧
      V5.migrate settings = .ok (settings, none) ∧ V6.migrate settings = .ok settings ∧
      V7.migrate ext settings = .ok settings ∧ V8.migrate settings = .ok settings ∧
      (∀ files, V9.migrate files settings = .ok settings) ∧ V10.migrate settings = .ok settings ∧
      V11.migrate settings = .ok settings := by
  have hne : ∀ n, 1 ≤ n ∧ n ≤ 11 → stage settings ≠ n := by
    intro n hn
    rcases h with h | h <;> omega
  exact ⟨(V1.advances settings).1 (hne 1 (by decide)), (V2.advances settings).1 (hne 2 (by decide)),
    (V3.advances ext settings).1 (hne 3 (by decide)), (V4.advances settings).1 (hne 4 (by decide)),
    V5.migrate_of_ne (hne 5 (by decide)), (V6.advances settings).1 (hne 6 (by decide)),
    (V7.advances ext settings).1 (hne 7 (by decide)), (V8.advances settings).1 (hne 8 (by decide)),
    fun files => (V9.advances files settings).1 (hne 9 (by decide)),
    (V10.advances settings).1 (hne 10 (by decide)), (V11.advances settings).1 (hne 11 (by decide))⟩

theorem migrateSettings_of_notOutdated (hhistory : history.UpToDate)
    (hobject : settings.isObject = true) (h : NotOutdated settings) :
    migrateSettings ext files history settings = .ok { settings, migrationData := none, history } := by
  obtain ⟨h1, h2, h3, h4, h5, h6, h7, h8, h9, h10, h11⟩ := h.migrates ext
  have hobject' : asObjectMut settings = .ok settings := Json.expectObject_eq_ok.mpr ⟨hobject, rfl⟩
  simp only [migrateSettings, bind_eq_ok]
  exact ⟨_, hobject', _, h1, _, h2, _, h3, _, h4, _, migrateFormats_of_upToDate hhistory settings,
    _, h5, _, h6, _, h7, _, h8, _, h9 files, _, h10, _, h11, rfl⟩

/-- Settings of an older version that are migrated are of the current one, and migrating them again
changes nothing, unless an account history of an old format is found then. Settings of the current
version, or of an unknown one, are left alone by every migration. -/
theorem migrateSettings_chain (ext : Externals) (settings : Json) :
    (Outdated settings → ∀ files history migrated, migrateSettings ext files history settings = .ok migrated →
      versionNumber migrated.settings = some 12 ∧
      ∀ files' history', history'.UpToDate → migrateSettings ext files' history' migrated.settings =
          .ok { settings := migrated.settings, migrationData := none, history := history' }) ∧
    (NotOutdated settings → (V1.migrate settings = .ok settings ∧ V2.migrate settings = .ok settings ∧
        V3.migrate ext settings = .ok settings ∧ V4.migrate settings = .ok settings ∧
        V5.migrate settings = .ok (settings, none) ∧ V6.migrate settings = .ok settings ∧
        V7.migrate ext settings = .ok settings ∧ V8.migrate settings = .ok settings ∧
        (∀ files, V9.migrate files settings = .ok settings) ∧ V10.migrate settings = .ok settings ∧
        V11.migrate settings = .ok settings) ∧
      (settings.isObject = true → ∀ files history, history.UpToDate →
        migrateSettings ext files history settings = .ok { settings, migrationData := none, history })) := by
  constructor
  · intro hold files history migrated hmigrated
    have hstage := stage_migrateSettings hmigrated hold
    have hversion := (versionNumber_eq_iff (by decide)).mpr hstage
    refine ⟨hversion, fun files' history' hhistory => ?_⟩
    obtain ⟨version, hget, -⟩ := Option.bind_eq_some_iff.mp hversion
    exact migrateSettings_of_notOutdated hhistory (Json.isObject_of_get hget) (Or.inr hstage.ge)
  · intro h
    exact ⟨h.migrates ext,
      fun hobject files history hhistory => migrateSettings_of_notOutdated hhistory hobject h⟩

namespace Sample

def version4 : Json :=
  .object [("relay_settings", .object [("normal", .object [
      ("location", .object [("only", .object [("country", .string "se")])]),
      ("wireguard_constraints", .object [("port", .object [("only", .ofNat 51820)])])])]),
    ("tunnel_options", .object [("wireguard", .object [])]),
    ("block_when_disconnected", .bool true), ("settings_version", .ofNat 4)]

def version12 : Json :=
  .object [("settings_version", .ofNat 12)]

end Sample

theorem migrateSettings_chain_version4 :
    ∃ migrated, migrateSettings Sample.ext none .absent Sample.version4 = .ok migrated ∧
      versionNumber migrated.settings = some 12 ∧
      migrateSettings Sample.ext none .absent migrated.settings =
        .ok { settings := migrated.settings, migrationData := none, history := .absent } := by
  obtain ⟨hversion, hagain⟩ := (migrateSettings_chain Sample.ext Sample.version4).1
    (by constructor <;> decide) none .absent _ rfl
  exact ⟨_, rfl, hversion, hagain none .absent trivial⟩

/-- Current settings are changed when an account history of the second format is found. -/
theorem migrateSettings_changes_current_settings :
    ∃ migrated, migrateSettings Sample.ext none (.found (some Sample.historyText) true)
        Sample.version12 = .ok migrated ∧
      migrated.settings.get "wireguard" = some (.object []) ∧ migrated.settings ≠ Sample.version12 := by
  refine ⟨_, rfl, rfl, ?_⟩
  decide

end MullvadVpn.Settings
