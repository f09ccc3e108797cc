import MullvadVpn.Settings.Acceptance
import MullvadVpn.Settings.AccessMethodNames
import MullvadVpn.Settings.BridgeMigration

/-!
Which settings the later migrations (`v7.rs` to `v11.rs`) accept. Two of them take a missing field for an
error: the seventh needs the list of access methods and the `authentication` of remote proxies, and the
eleventh needs `block_when_disconnected`.
-/

namespace MullvadVpn.Settings

open Systems Json Ends

variable {ext : Externals} {settings settings' : Json} {α : Type}

/-- What is found, if anything is, is as the codec writes it. -/
def WrittenBy (s : Serde α) (found : Option Json) : Prop :=
  ∀ value, found = some value → ∃ a, value = s.toJson a

theorem WrittenBy.readable {s : Serde α} {found : Option Json} (h : WrittenBy s found) :
    Readable s found := by
  intro value hvalue
  obtain ⟨a, rfl⟩ := h value hvalue
  exact ⟨a, s.ofJson_toJson a⟩

namespace V7

theorem renameMapField_ends (object : Json) (oldName newName : String) :
    Ends (renameMapField object oldName newName) (object.get oldName ≠ none) False :=
  (orInvalid_ends _).before fun _ _ => .ok _

theorem renameField_ends (value : Json) (oldName newName : String) :
    Ends (renameField value oldName newName) (value.get oldName ≠ none) False := by
  refine ((Ends.expectObject value _).both fun object hobject => ?_).congr
    (and_iff_right_of_imp fun h => ?_) Iff.rfl
  · cases eq_of_asObjectMut hobject
    exact renameMapField_ends value oldName newName
  · obtain ⟨inner, hinner⟩ := Option.ne_none_iff_exists'.mp h
    exact isObject_of_get hinner

theorem get_renameField {value value' : Json} {oldName newName : String}
    (h : renameField value oldName newName = .ok value') {key : String} (hold : key ≠ oldName)
    (hnew : key ≠ newName) : value'.get key = value.get key := by
  simp only [renameField, renameMapField, Fallible.bind_eq_ok] at h
  obtain ⟨object, hobject, inner, -, heq⟩ := h
  obtain ⟨hobject, rfl⟩ := expectObject_eq_ok.mp hobject
  cases heq
  rw [get_remove, if_neg hold, get_insert hobject, if_neg hnew]

/-- A custom access method: one of the three kinds of proxies, with the address of the peer. -/
inductive CustomShaped (custom : Json) : Prop
  | shadowsocks {proxy : Json} (h : custom.get "shadowsocks" = some proxy) (hpeer : proxy.get "peer" ≠ none)
  | socks5Local {proxy : Json} (hnone : custom.get "shadowsocks" = none)
      (h : custom.getPath ["socks5", "local"] = some proxy)
  | socks5Remote {proxy : Json} (hnone : custom.get "shadowsocks" = none)
      (hnone' : custom.getPath ["socks5", "local"] = none)
      (h : custom.getPath ["socks5", "remote"] = some proxy) (hpeer : proxy.get "peer" ≠ none)

/-- A remote proxy says something about authentication. -/
def HasAuthentication (custom : Json) : Prop :=
  custom.get "shadowsocks" = none → custom.getPath ["socks5", "local"] = none →
    ∀ proxy, custom.getPath ["socks5", "remote"] = some proxy → proxy.get "authentication" ≠ none

theorem replaceSocks5_ends {custom : Json} (h : custom.isObject = true) (name : String)
    (proxy : Json) : Ends (replaceSocks5 custom name proxy) True False :=
  (setIndex_asObjectMut_ends custom name proxy _).congr (by simp [indexable, h]) (by simp [indexable, h])

theorem migrateCustomMethod_ends (custom : Json) : Ends (migrateCustomMethod custom)
    (CustomShaped custom ∧ HasAuthentication custom) False := by
  unfold migrateCustomMethod
  split
  · rename_i proxy h
    refine ((renameField_ends proxy _ _).before fun _ _ => .ok _).congr ⟨fun hpeer => ?_, ?_⟩ .rfl
    · exact ⟨.shadowsocks h hpeer, fun hnone => nomatch h.symm.trans hnone⟩
    · rintro ⟨hshaped, -⟩
      cases hshaped <;> simp_all
  · rename_i proxy hnone h
    refine (replaceSocks5_ends (isObject_of_getPath h) _ _).congr (iff_of_true trivial ?_) .rfl
    exact ⟨.socks5Local hnone h, fun _ hnone' => nomatch h.symm.trans hnone'⟩
  · rename_i proxy hnone hnone' h
    have hrename : ∀ renamed, renameField proxy "authentication" "auth" = .ok renamed →
        Ends (renameField renamed "peer" "endpoint" >>= replaceSocks5 custom "socks5_remote")
          (proxy.get "peer" ≠ none) False := by
      intro renamed hrenamed
      rw [← get_renameField hrenamed (by decide) (by decide)]
      exact (renameField_ends renamed _ _).before fun _ _ =>
        replaceSocks5_ends (isObject_of_getPath h) _ _
    refine ((renameField_ends proxy _ _).both hrename).congr ⟨fun ⟨hauth, hpeer⟩ => ?_, ?_⟩ .rfl
    · exact ⟨.socks5Remote hnone hnone' h hpeer, fun _ _ proxy' h' => by cases h.symm.trans h'; exact hauth⟩
    · rintro ⟨hshaped, hauth⟩
      refine ⟨hauth hnone hnone' proxy h, ?_⟩
      cases hshaped <;> simp_all
  · refine (error _).congr (iff_of_false not_false fun ⟨hshaped, _⟩ => ?_) Iff.rfl
    cases hshaped <;> simp_all

/-- An access method of the list: a built-in one, or a custom one of a known kind. -/
def MethodShaped (setting : Json) : Prop :=
  ∃ accessMethod, setting.get "access_method" = some accessMethod ∧
    ∀ custom, accessMethod.get "custom" = some custom → CustomShaped custom

def MethodComplete (setting : Json) : Prop :=
  ∀ custom, setting.getPath ["access_method", "custom"] = some custom → HasAuthentication custom

theorem migrateAccessMethod_ends (setting : Json) : Ends (migrateAccessMethod setting)
    (MethodShaped setting ∧ MethodComplete setting) False := by
  unfold migrateAccessMethod MethodShaped MethodComplete
  cases haccess : setting.get "access_method" with
  | none => exact (error _).congr (by simp) Iff.rfl
  | some accessMethod =>
    have hpath : setting.getPath ["access_method", "custom"] = accessMethod.get "custom" := by
      rw [getPath_cons, haccess, Option.bind_some, getPath_singleton]
    refine (ok accessMethod).after fun found hfound => ?_
    cases hfound
    rw [hpath]
    cases hcustom : accessMethod.get "custom" with
    | none => exact (ok setting).congr (by simp [hcustom]) Iff.rfl
    | some custom =>
      exact ((migrateCustomMethod_ends custom).before fun _ _ => .ok _).congr (by simp [hcustom]) .rfl

def MethodsShaped (settings : Json) : Prop :=
  ∀ items, settings.getPath ["api_access_methods", "access_method_settings"] = some (.array items) →
    ∀ item ∈ items, MethodShaped item

/-- There is a list of access methods, and none of the methods lacks a field. -/
structure MethodsComplete (settings : Json) : Prop where
  methods : ∀ items, settings.getPath ["api_access_methods", "access_method_settings"] = some (.array items) →
    ∀ item ∈ items, MethodComplete item
  list : ∀ methods, settings.get "api_access_methods" = some methods → methods.isObject = true →
    methods.get "access_method_settings" ≠ none

theorem migrateAccessMethods_ends (settings : Json) : Ends (migrateAccessMethods settings)
    (∀ items, settings.getPath ["api_access_methods", "access_method_settings"] = some (.array items) →
      ∀ item ∈ items, MethodShaped item ∧ MethodComplete item) False := by
  refine (update_safe (P := fun list => ∀ items, list = .array items →
    ∀ item ∈ items, MethodShaped item ∧ MethodComplete item) fun list _ => ?_).congr ?_ Iff.rfl
  · cases list with
    | array items =>
      refine ((tryCollect fun item _ => migrateAccessMethod_ends item).before
        fun _ _ => .ok _).congr (by simp) .rfl
    | null | bool | number | string | object => exact (ok _).congr (by simp) Iff.rfl
  · exact ⟨fun h items hitems => h _ hitems items rfl, fun h list hlist items hitems => h items (hitems ▸ hlist)⟩

theorem separateBuiltIns_ends (settings : Json) : Ends (separateBuiltIns settings)
    (∀ methods, settings.get "api_access_methods" = some methods → methods.isObject = true →
      methods.get "access_method_settings" ≠ none) False := by
  rw [← getPath_singleton]
  refine .update_safe fun methods _ => ?_
  cases hobject : methods.isObject with
  | false => exact (ok methods).congr (by simp) Iff.rfl
  | true =>
    refine ((renameMapField_ends methods _ _).before fun _ _ => ?_).congr (by simp) .rfl
    split <;> exact .ok _

theorem list_migrateAccessMethods (h : migrateAccessMethods settings = .ok settings') :
    (∀ methods, settings'.get "api_access_methods" = some methods → methods.isObject = true →
        methods.get "access_method_settings" ≠ none) ↔
      ∀ methods, settings.get "api_access_methods" = some methods → methods.isObject = true →
        methods.get "access_method_settings" ≠ none := by
  rcases update_eq_ok.mp h with ⟨-, rfl⟩ | ⟨list, list', hlist, -, rfl⟩
  · rfl
  · obtain ⟨methods, hmethods, hget⟩ := Option.bind_eq_some_iff.mp hlist
    rw [getPath_singleton] at hget
    refine iff_of_true (fun methods' hmethods' _ => ?_) fun methods' hmethods' _ => ?_
    · rw [get_insertPath_self hmethods] at hmethods'
      cases hmethods'
      rw [get_insertPath_self hget]
      exact nofun
    · cases hmethods.symm.trans hmethods'
      rw [hget]
      exact nofun

theorem migrateApiAccessSettings_ends (settings : Json) : Ends (migrateApiAccessSettings settings)
    (MethodsShaped settings ∧ MethodsComplete settings) False := by
  refine ((migrateAccessMethods_ends settings).both fun migrated hmigrated =>
    (separateBuiltIns_ends migrated).congr (list_migrateAccessMethods hmigrated) .rfl).congr
    ⟨fun h => ?_, fun h => ?_⟩ .rfl
  · exact ⟨fun items hitems item hitem => (h.1 items hitems item hitem).1,
      fun items hitems item hitem => (h.1 items hitems item hitem).2, h.2⟩
  · exact ⟨fun items hitems item hitem =>
      ⟨h.1 items hitems item hitem, h.2.methods items hitems item hitem⟩, h.2.list⟩

/-- A custom bridge is one of the known ones, and the constraints of a normal bridge can be read. -/
structure BridgeShaped (ext : Externals) (settings : Json) : Prop where
  custom : ∀ custom, settings.getPath ["bridge_settings", "custom"] = some custom →
    ∃ bridge, HasBridge ext settings bridge
  normal : ∀ normal, settings.getPath ["bridge_settings", "normal"] = some normal →
    ∃ constraints, bridgeConstraintsOfJson ext normal = some constraints

theorem migrateBridgeSettings_ends (hshaped : BridgeShaped ext settings) :
    Ends (migrateBridgeSettings ext settings) True False := by
  unfold migrateBridgeSettings
  cases hcustom : settings.getPath ["bridge_settings", "custom"] with
  | some custom =>
    obtain ⟨bridge, hbridge⟩ := hshaped.custom custom hcustom
    rw [customBridge_eq hbridge]
    exact .setIndex_of_object (isObject_of_getPath hcustom) _ _
  | none =>
    have hnone (key : String) : settings.getPath ["bridge_settings", "custom", key] = none :=
      getPath_append_of_none hcustom [key]
    simp only [customBridge, hnone]
    cases hnormal : settings.getPath ["bridge_settings", "normal"] with
    | none => exact .ok settings
    | some normal =>
      obtain ⟨constraints, hconstraints⟩ := hshaped.normal normal hnormal
      exact (of_eq (Fallible.okOr_eq_ok.mpr hconstraints)).after fun _ _ =>
        .setIndex_of_object (isObject_of_getPath hnormal) _ _

section

variable (h : settings'.get "api_access_methods" = settings.get "api_access_methods")

include h

theorem methodsShaped_congr : MethodsShaped settings' ↔ MethodsShaped settings := by
  simp only [MethodsShaped, getPath_cons, h]

theorem methodsComplete_congr : MethodsComplete settings' ↔ MethodsComplete settings := by
  have hiff : ∀ value : Json, MethodsComplete value ↔ (∀ items,
      value.getPath ["api_access_methods", "access_method_settings"] = some (.array items) →
        ∀ item ∈ items, MethodComplete item) ∧
      ∀ methods, value.get "api_access_methods" = some methods → methods.isObject = true →
        methods.get "access_method_settings" ≠ none :=
    fun _ => ⟨fun h => ⟨h.1, h.2⟩, fun h => ⟨h.1, h.2⟩⟩
  simp only [hiff, getPath_cons, h]

end

theorem convert_ends (hbridge : BridgeShaped ext settings) : Ends (convert ext settings)
    (MethodsShaped settings ∧ MethodsComplete settings) False := by
  refine (migrateBridgeSettings_ends hbridge).after fun bridged hbridged => ?_
  have hget : bridged.get "api_access_methods" = settings.get "api_access_methods" :=
    (sameExcept_migrateBridgeSettings hbridged).get (by decide)
  rw [← methodsComplete_congr hget, ← methodsShaped_congr hget]
  exact migrateApiAccessSettings_ends bridged

end V7

theorem V8.migrate_ends (settings : Json) : Ends (migrate settings) True False := by
  refine (isStep.ends fun _ => .update_total fun selected _ => ?_).congr (by simp) (by simp)
  split <;> exact .ok _

theorem V9.migrate_ends (files : Option SplitTunnel) (settings : Json) :
    Ends (migrate files settings) True False := by
  unfold migrate
  split
  · rename_i hversion
    obtain ⟨version, hget, -⟩ := Option.bind_eq_some_iff.mp (beq_iff_eq.mp hversion)
    have hkept : (addSplitTunnel files settings).get "settings_version" = some version :=
      ((sameExcept_addSplitTunnel files settings).get (by decide)).trans hget
    refine .after (asObjectMut_ends (isObject_of_get hget)) fun object hobject => ?_
    cases eq_of_asObjectMut hobject
    simp only [hkept]
    exact .ok _
  · exact .ok settings

theorem V10.migrate_ends (h : stage settings = 10 → WrittenBy (constraint tunnelType)
      (settings.getPath ["relay_settings", "normal", "tunnel_protocol"])) :
    Ends (migrate settings) True False := by
  refine (isStep.ends fun hstage => .update_total fun normal hnormal => ?_).congr (by simp) (by simp)
  have hprotocol : settings.getPath ["relay_settings", "normal", "tunnel_protocol"] =
      normal.get "tunnel_protocol" := getPath_field hnormal _
  have hwritten := h hstage
  rw [hprotocol] at hwritten
  unfold migrateTunnelTypeInner
  cases hget : normal.get "tunnel_protocol" with
  | none => exact .ok normal
  | some value =>
    have hobject := isObject_of_get hget
    obtain ⟨chosen, rfl⟩ := hwritten value hget
    cases chosen with
    | any => exact .setIndex_of_object hobject _ _
    | only chosen =>
      exact (ok _).after fun _ h => by
        cases h
        exact (of_eq (Fallible.okOr_eq_ok.mpr (tunnelType.ofJson_toJson chosen))).after
          fun _ _ => .setIndex_of_object hobject _ _

theorem V11.migrate_ends : Ends (migrate settings)
    (stage settings = 11 → settings.get "block_when_disconnected" ≠ none) False := by
  refine (isStep.ends fun _ => .before (Q := False) ?_ fun renamed hrenamed => ?_).congr .rfl (by simp)
  · refine ((Ends.expectObject settings _).both fun object hobject => ?_).congr
      (and_iff_right_of_imp fun h => ?_) Iff.rfl
    · cases eq_of_asObjectMut hobject
      exact (orInvalid_ends _).before fun _ _ => .ok _
    · obtain ⟨value, hvalue⟩ := Option.ne_none_iff_exists'.mp h
      exact isObject_of_get hvalue
  · simp only [migrateBlockWhenDisconnected, Fallible.bind_eq_ok] at hrenamed
    obtain ⟨object, hobject, value, -, heq⟩ := hrenamed
    obtain ⟨hobject, rfl⟩ := expectObject_eq_ok.mp hobject
    cases heq
    refine (asObjectMut_ends (by rw [isObject_remove, isObject_insert, hobject])).after
      fun _ _ => .update_total fun custom _ => ?_
    split
    · exact .ok _
    · rename_i methods _
      obtain ⟨names, hnames, -⟩ := uniqueNames_eq (methods.filterMap nameOf)
      exact (Ends.of_eq hnames).before fun _ _ => .ok _

end MullvadVpn.Settings
