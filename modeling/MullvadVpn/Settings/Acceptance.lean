import MullvadVpn.Settings.Frames
import MullvadVpn.Systems.Ends

/-!
Which settings the migrations accept, and on which they panic, here for the first four (`v1.rs` to
`v4.rs`). Only three of all can panic: the first and the fourth, which store new fields in relay
constraints, and the sixth, which stores one in locations.
-/

namespace MullvadVpn.Settings

open Systems Json Ends

variable {ext : Externals} {settings settings' : Json} {α : Type}

theorem orInvalid_ends (found : Option α) : Ends (orInvalid found) (found ≠ none) False :=
  .okOr found _

variable {value : Json}

theorem asObjectMut_of_isObject (h : value.isObject = true) : asObjectMut value = .ok value :=
  expectObject_eq_ok.mpr ⟨h, rfl⟩

theorem asObjectMut_ends (h : value.isObject = true) : Ends (asObjectMut value) True False :=
  .of_eq (asObjectMut_of_isObject h)

theorem setIndex_asObjectMut_ends (value : Json) (key : String) (new : Json) (f : Json → Json) :
    Ends (do let stored ← value.setIndex key new; let object ← asObjectMut stored; return f object)
      (value.indexable = true) (value.indexable = false) :=
  (Ends.setIndex value key new).before fun _ hstored =>
    (asObjectMut_ends (isObject_setIndex hstored)).before fun _ _ => .ok _

/-- What is found, if anything is, can be read. -/
def Readable (s : Serde α) (found : Option Json) : Prop :=
  ∀ value, found = some value → ∃ a, s.ofJson value = some a

variable {changed : List (List String)} {n : Nat}

theorem setVersion_ends (hsame : SameExcept changed settings settings')
    (hn : 2 ≤ n) (hstage : stage settings = n)
    (hapart : ∀ p ∈ changed, apart p ["settings_version"] = true) (next : Nat) :
    Ends (setVersion next settings') True False := by
  obtain ⟨version, hversion, -⟩ := Option.bind_eq_some_iff.mp ((versionNumber_eq_iff hn).mpr hstage)
  exact .setIndex_of_object (isObject_of_get ((hsame.get hapart).trans hversion)) _ _

theorem IsStep.ends {next : Nat} {isVersion convert}
    (step : IsStep n isVersion convert changed) {P Q : Prop}
    (h : stage settings = n → Ends (convert settings) P Q) :
    Ends (migrateIf isVersion convert next settings) (stage settings = n → P) (stage settings = n ∧ Q) := by
  unfold migrateIf
  by_cases hstage : stage settings = n
  · rw [if_pos ((step.version settings).mpr hstage)]
    refine ((h hstage).before fun converted hconverted => ?_).congr (by simp [hstage]) (by simp [hstage])
    exact setVersion_ends (step.sameExcept _ _ hconverted) step.two_le hstage step.apart next
  · rw [if_neg fun h => hstage ((step.version settings).mp h)]
    exact (ok settings).congr (by simp [hstage]) (by simp [hstage])

namespace V1

theorem migrateNormal_ends (openvpn wireguard : Option Json) (normal : Json) :
    Ends (migrateNormal openvpn wireguard normal) (normal.indexable = true) (normal.indexable = false) := by
  unfold migrateNormal
  split
  · exact (Ends.setIndex _ _ _).before fun _ hnext =>
      (Ends.setIndex_of_object (isObject_setIndex hnext) _ _).before fun _ _ => .ok _
  · exact (Ends.setIndex _ _ _).before fun _ hnext =>
      (Ends.setIndex_of_object (isObject_setIndex hnext) _ _).before fun _ _ => .ok _
  · exact (Ends.setIndex _ _ _).before fun _ _ => .ok _

/-- The relay constraints can be indexed. -/
def Accepts (settings : Json) : Prop :=
  ∀ normal, settings.getPath ["relay_settings", "normal"] = some normal → normal.indexable = true

theorem isObject_convert (h : convert settings = .ok settings') : settings'.isObject = true := by
  obtain ⟨updated, -, hset⟩ := Fallible.bind_eq_ok.mp h
  exact isObject_setIndex hset

theorem convert_ends (hobject : settings.isObject = true) :
    Ends (convert settings) (Accepts settings) (¬Accepts settings) := by
  refine ((update fun normal _ => migrateNormal_ends _ _ normal).before
    fun updated hupdated => ?_).congr Iff.rfl (by simp [Accepts])
  exact .setIndex_of_object ((isObject_update hupdated).trans hobject) _ _

theorem migrate_ends (hobject : settings.isObject = true) :
    Ends (migrate settings) (stage settings = 1 → Accepts settings)
      (stage settings = 1 ∧ ¬Accepts settings) := by
  by_cases hstage : stage settings = 1
  · rw [migrate, migrateIf, if_pos (version_isNone_iff.mpr hstage)]
    refine ((convert_ends hobject).before fun _ hconverted => ?_).congr (by simp [hstage]) (by simp [hstage])
    exact .setIndex_of_object (isObject_convert hconverted) _ _
  · exact (of_eq ((advances settings).1 hstage)).congr (by simp [hstage]) (by simp [hstage])

end V1

namespace V2

theorem migrateBeta_ends (settings : Json) : Ends (migrateBeta settings) True False := by
  unfold migrateBeta
  cases hget : settings.get "show_beta_releases" with
  | none => exact .ok settings
  | some value =>
    split
    · exact (asObjectMut_ends (isObject_of_get hget)).before fun _ _ => .ok _
    · exact .ok settings

theorem migrateRotation_ends (wireguard : Json) : Ends (migrateRotation wireguard) True False := by
  unfold migrateRotation
  split
  · rename_i interval hinterval
    obtain ⟨value, hvalue, -⟩ := Option.bind_eq_some_iff.mp hinterval
    have hindexable := indexable_of_isObject (isObject_of_get hvalue)
    exact (setIndex_asObjectMut_ends wireguard _ _ _).congr (by simp [hindexable]) (by simp [hindexable])
  · exact .ok wireguard

theorem migrate_ends (settings : Json) : Ends (migrate settings) True False := by
  have hconvert : Ends (convert settings) True False :=
    (migrateBeta_ends settings).after fun _ _ =>
      .update_total fun wireguard _ => migrateRotation_ends wireguard
  exact (isStep.ends fun _ => hconvert).congr (by simp) (by simp)

end V2

namespace V3

/-- The addresses of options in the old format can be read. -/
def Accepts (ext : Externals) (settings : Json) : Prop :=
  ∀ options, settings.getPath ["tunnel_options", "dns_options"] = some options →
    options.get "state" = none → Readable (Serde.list ext.ipAddr.serde) (options.get "addresses")

theorem migrateDnsOptions_ends (options : Json) : Ends (migrateDnsOptions ext options)
    (options.get "state" = none → Readable (Serde.list ext.ipAddr.serde) (options.get "addresses"))
    False := by
  unfold migrateDnsOptions
  cases options.get "state" with
  | some state => exact (ok options).congr (by simp) Iff.rfl
  | none =>
    cases options.get "addresses" with
    | none => exact ((ok _).before fun _ _ => .ok _).congr (by simp [Readable]) Iff.rfl
    | some addresses =>
      refine ((orInvalid_ends _).before fun _ _ => .ok _).congr ?_ .rfl
      simp [Readable, Option.ne_none_iff_exists']

theorem migrate_ends : Ends (migrate ext settings) (stage settings = 3 → Accepts ext settings) False :=
  ((isStep ext).ends fun _ => .update_safe fun options _ => migrateDnsOptions_ends options).congr .rfl (by simp)

end V3

namespace V4

theorem readConstraint_ends (s : Serde α) (found : Option Json) :
    Ends (readConstraint s found) (Readable (constraint s) found) False := by
  cases found with
  | none => exact (ok _).congr (by simp [Readable]) Iff.rfl
  | some value =>
    refine (orInvalid_ends _).congr ?_ .rfl
    simp [Readable, Option.ne_none_iff_exists']

theorem storePort_ends (port : Relays.Constraint Relays.TransportPort) (constraints : Json) :
    Ends (storePort port constraints) (constraints.indexable = true) (constraints.indexable = false) :=
  setIndex_asObjectMut_ends constraints _ _ _

/-- Constraints that can be indexed, with a port that can be read. -/
structure WireguardReadable (constraints : Json) : Prop where
  indexable : constraints.indexable = true
  port : Readable (constraint port) (constraints.get "port")

structure OpenvpnReadable (constraints : Json) : Prop where
  indexable : constraints.indexable = true
  port : Readable (constraint port) (constraints.get "port")
  protocol : Readable (constraint transportProtocol) (constraints.get "protocol")

theorem readable_of_not_indexable {s : Serde α} (h : value.indexable = false)
    (key : String) : Readable s (value.get key) := by
  intro found hfound
  rw [indexable_of_isObject (isObject_of_get hfound)] at h
  cases h

theorem migrateWireguard_ends (constraints : Json) : Ends (migrateWireguard constraints)
    (WireguardReadable constraints) (constraints.indexable = false) := by
  refine ((readConstraint_ends _ _).seq fun _ _ => storePort_ends _ _).congr ?_ ?_
  · exact ⟨fun h => ⟨h.2, h.1⟩, fun h => ⟨h.port, h.indexable⟩⟩
  · exact and_iff_right_of_imp fun h => readable_of_not_indexable h _

theorem migrateOpenvpn_ends (constraints : Json) : Ends (migrateOpenvpn constraints)
    (OpenvpnReadable constraints) (constraints.indexable = false) := by
  refine ((readConstraint_ends _ _).seq fun _ _ => (readConstraint_ends _ _).seq fun _ _ =>
    storePort_ends _ _).congr ?_ ?_
  · exact ⟨fun h => ⟨h.2.2, h.1, h.2.1⟩, fun h => ⟨h.port, h.protocol, h.indexable⟩⟩
  · rw [and_iff_right_of_imp fun h => readable_of_not_indexable h.2 _]
    exact and_iff_right_of_imp fun h => readable_of_not_indexable h _

/-- Both constraints, if they are there, can be indexed and read. -/
structure Accepts (wireguard openvpn : Option Json) : Prop where
  wireguard : ∀ constraints, wireguard = some constraints → WireguardReadable constraints
  openvpn : ∀ constraints, openvpn = some constraints → OpenvpnReadable constraints

/-- Constraints that cannot be indexed, and nothing unreadable before they are reached. -/
def Unindexable (wireguard openvpn : Option Json) : Prop :=
  (∃ constraints, wireguard = some constraints ∧ constraints.indexable = false) ∨
  (∀ constraints, wireguard = some constraints → WireguardReadable constraints) ∧
  ∃ constraints, openvpn = some constraints ∧ constraints.indexable = false

theorem convert_ends : Ends (convert settings)
    (Accepts (settings.getPath ["relay_settings", "normal", "wireguard_constraints"])
      (settings.getPath ["relay_settings", "normal", "openvpn_constraints"]))
    (Unindexable (settings.getPath ["relay_settings", "normal", "wireguard_constraints"])
      (settings.getPath ["relay_settings", "normal", "openvpn_constraints"])) := by
  refine ((update fun constraints _ => migrateWireguard_ends constraints).bind
    fun wireguard hwireguard => ?_).congr ⟨fun h => ⟨h.1, h.2⟩, fun h => ⟨h.1, h.2⟩⟩ Iff.rfl
  rw [← sameExcept_update hwireguard _ (by decide)]
  exact .update fun constraints _ => migrateOpenvpn_ends constraints

theorem migrate_ends : Ends (migrate settings) (stage settings = 4 →
      Accepts (settings.getPath ["relay_settings", "normal", "wireguard_constraints"])
        (settings.getPath ["relay_settings", "normal", "openvpn_constraints"]))
    (stage settings = 4 ∧ Unindexable (settings.getPath ["relay_settings", "normal", "wireguard_constraints"])
        (settings.getPath ["relay_settings", "normal", "openvpn_constraints"])) :=
  isStep.ends fun _ => convert_ends

end V4

end MullvadVpn.Settings
