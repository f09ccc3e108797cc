import MullvadVpn.Settings.EarlyMigrations
import MullvadVpn.Settings.LaterAcceptance

/-!
Which settings make a migration panic. The later migrations never do. The first, the fourth and the sixth
do, on values that are neither an object nor null where they expect an object. Whether one of them is
reached depends on what the migrations before it accept.
-/

namespace MullvadVpn.Settings

open Systems Json

variable {ext : Externals} {settings : Json}

theorem bind_ne_panicked {α β : Type} {x : Result α} {f : α → Result β} (hx : x ≠ .error .panicked)
    (hf : ∀ a, x = .ok a → f a ≠ .error .panicked) : x >>= f ≠ .error .panicked := by
  intro h
  rcases Fallible.bind_eq_error.mp h with h | ⟨a, ha, h⟩
  · exact hx h
  · exact hf a ha h

namespace V7

theorem extractStr_ne_panicked (found : Option Json) : extractStr found ≠ .error .panicked :=
  bind_ne_panicked (orInvalid_ends _).ne_panicked fun _ _ => (orInvalid_ends _).ne_panicked

theorem extractSocketAddr_ne_panicked (found : Option Json) :
    extractSocketAddr ext found ≠ .error .panicked :=
  bind_ne_panicked (extractStr_ne_panicked _) fun _ _ => (orInvalid_ends _).ne_panicked

theorem customBridge_ne_panicked {proxy : Result CustomProxy}
    (h : customBridge ext settings = some proxy) : settings.isObject = true ∧ proxy ≠ .error .panicked := by
  unfold customBridge at h
  split at h
  · rename_i hbridge
    cases h
    refine ⟨isObject_of_getPath hbridge, bind_ne_panicked (extractSocketAddr_ne_panicked _) fun _ _ => ?_⟩
    refine bind_ne_panicked (orInvalid_ends _).ne_panicked fun _ _ => ?_
    exact bind_ne_panicked (orInvalid_ends _).ne_panicked fun _ _ => nofun
  · rename_i hbridge
    cases h
    exact ⟨isObject_of_getPath hbridge, bind_ne_panicked (extractSocketAddr_ne_panicked _) fun _ _ => nofun⟩
  · rename_i hbridge
    cases h
    refine ⟨isObject_of_getPath hbridge, bind_ne_panicked (extractSocketAddr_ne_panicked _) fun _ _ => ?_⟩
    refine bind_ne_panicked (extractStr_ne_panicked _) fun _ _ => ?_
    exact bind_ne_panicked (extractStr_ne_panicked _) fun _ _ => nofun
  · cases h

theorem migrateBridgeSettings_ne_panicked : migrateBridgeSettings ext settings ≠ .error .panicked := by
  unfold migrateBridgeSettings
  split
  · rename_i proxy _ hproxy
    obtain ⟨hobject, hproxy⟩ := customBridge_ne_panicked hproxy
    exact bind_ne_panicked hproxy fun _ _ => (Ends.setIndex_of_object hobject _ _).ne_panicked
  · rename_i normal _ hnormal
    exact bind_ne_panicked (Ends.okOr _ _).ne_panicked fun _ _ =>
      (Ends.setIndex_of_object (isObject_of_getPath hnormal) _ _).ne_panicked
  · exact nofun

theorem migrate_ne_panicked : migrate ext settings ≠ .error .panicked :=
  (((isStep ext).ends fun _ => .of_ne_panicked (bind_ne_panicked migrateBridgeSettings_ne_panicked
    fun bridged _ => (migrateApiAccessSettings_ends bridged).ne_panicked)).congr .rfl (by simp)).ne_panicked

end V7

theorem V10.migrateTunnelTypeInner_ne_panicked (normal : Json) :
    V10.migrateTunnelTypeInner normal ≠ .error .panicked := by
  unfold V10.migrateTunnelTypeInner
  split
  · rename_i hget
    exact (Ends.setIndex_of_object (isObject_of_get hget) _ _).ne_panicked
  · rename_i hget
    refine bind_ne_panicked (orInvalid_ends _).ne_panicked fun _ _ => ?_
    exact bind_ne_panicked (orInvalid_ends _).ne_panicked fun _ _ =>
      (Ends.setIndex_of_object (isObject_of_get hget) _ _).ne_panicked
  · exact nofun
  · exact nofun

theorem V10.migrate_ne_panicked : V10.migrate settings ≠ .error .panicked :=
  ((V10.isStep.ends fun _ => .update_safe fun normal _ =>
    .of_ne_panicked (V10.migrateTunnelTypeInner_ne_panicked normal)).congr .rfl (by simp)).ne_panicked

/-- The values that the migrations index are objects or null, as far as they are reached. -/
structure Indexable (ext : Externals) (history : History) (settings : Json) : Prop where
  relayConstraints : stage settings = 1 → V1.Accepts settings
  tunnelConstraints : 1 ≤ stage settings → stage settings ≤ 4 → (stage settings ≤ 3 → V3.Accepts ext settings) →
    ¬V4.Unindexable (wireguardConstraints settings) (openvpnConstraints settings)
  locations : 1 ≤ stage settings → stage settings ≤ 6 → ReachesLocations ext history settings →
    V6.TunnelOptionsShaped settings → ¬LocationMisshapen settings

theorem migrateSettings_eq_panicked_iff {files : Option V9.SplitTunnel} {history : History}
    (hobject : settings.isObject = true) :
    migrateSettings ext files history settings = .error .panicked ↔
      firstSix ext history settings = .error .panicked := by
  have hchain : migrateSettings ext files history settings = firstSix ext history settings >>= fun result => do
        let settings ← V7.migrate ext result.1.1
        let settings ← V8.migrate settings
        let settings ← V9.migrate files settings
        let settings ← V10.migrate settings
        let settings ← V11.migrate settings
        return { settings, migrationData := result.1.2, history := result.2 } := by
    simp only [migrateSettings, asObjectMut_of_isObject hobject, firstSix, bind_assoc, pure_bind,
      Fallible.ok_bind]
  rw [hchain, Fallible.bind_eq_error]
  refine or_iff_left ?_
  rintro ⟨result, -, h⟩
  refine absurd h (bind_ne_panicked V7.migrate_ne_panicked fun s₈ _ => ?_)
  refine bind_ne_panicked (V8.migrate_ends s₈).ne_panicked fun s₉ _ => ?_
  refine bind_ne_panicked (V9.migrate_ends files s₉).ne_panicked fun s₁₀ _ => ?_
  refine bind_ne_panicked V10.migrate_ne_panicked fun s₁₁ _ => ?_
  exact bind_ne_panicked V11.migrate_ends.ne_panicked fun _ _ h => by cases h

/-- The chain does not panic if and only if what it indexes, as far as it gets, is an object or null. -/
theorem migrateSettings_ne_panicked_iff (ext : Externals) (files : Option V9.SplitTunnel)
    (history : History) (settings : Json) (hobject : settings.isObject = true) :
    migrateSettings ext files history settings ≠ .error .panicked ↔ Indexable ext history settings := by
  rw [Ne, migrateSettings_eq_panicked_iff hobject, (firstSix_ends history hobject).panicked]
  constructor
  · intro hsafe
    push Not at hsafe
    obtain ⟨hrelay, hrest⟩ := hsafe
    refine ⟨hrelay, fun hlow hhigh hdns => ?_, fun hlow hhigh hreaches hoptions => ?_⟩
    · exact (hrest hrelay fun _ => hdns).1 ⟨hlow, hhigh⟩
    · exact (hrest hrelay fun _ => hreaches.dnsOptions).2 (fun h => hreaches.tunnelConstraints h.2)
        hreaches.history ⟨hreaches.port, fun _ => hreaches.token⟩ ⟨hlow, hhigh⟩ hoptions
  · rintro hindexable (⟨hstage, haccepts⟩ | ⟨hrelay, hdns, ⟨⟨hlow, hhigh⟩, hpanics⟩ |
      ⟨haccepts, hhistory, ⟨hport, htoken⟩, ⟨hlow, hhigh⟩, hoptions, hlocations⟩⟩)
    · exact haccepts (hindexable.relayConstraints hstage)
    · exact hindexable.tunnelConstraints hlow hhigh (hdns hlow) hpanics
    · exact hindexable.locations hlow hhigh ⟨hrelay, hdns hlow, fun hhigh => haccepts ⟨hlow, hhigh⟩,
        hhistory, hport, htoken hlow⟩ hoptions hlocations

theorem migrateSettings_ne_panicked_version4 : Indexable Sample.ext .absent Sample.version4 :=
  (migrateSettings_ne_panicked_iff Sample.ext none .absent Sample.version4 rfl).mp (by
    rw [show migrateSettings Sample.ext none .absent Sample.version4 = .ok _ from rfl]
    exact nofun)

/-- Relay constraints that are a number make the first migration panic, and a location that is text
makes the sixth panic. -/
theorem migrateSettings_panics :
    migrateSettings Sample.ext none .absent
      (.object [("relay_settings", .object [("normal", .ofNat 5)])]) = .error .panicked ∧
    migrateSettings Sample.ext none .absent
      (.object [("bridge_settings", .object [("normal", .object [("location",
        .object [("only", .string "se")])])]), ("settings_version", .ofNat 6)]) = .error .panicked :=
  ⟨rfl, rfl⟩

end MullvadVpn.Settings
