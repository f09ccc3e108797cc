import MullvadVpn.Settings.Frames

/-!
What the migration from version 5 to 6 (`migrations/v5.rs`) does to the WireGuard constraints, and to the
account number and the key. It says that a null entry location and the key are removed, but it looks at
the entry location only if there is no `use_multihop`, and at the key only if there is an account number.
-/

namespace MullvadVpn.Settings.V5

open Relays Systems Json
open Fallible

variable {constraints constraints' : Json} {obfuscation : Option Json}
  {settings settings' : Json} {data : Option MigrationData}

def wireguardField (key : String) : List String :=
  ["relay_settings", "normal", "wireguard_constraints", key]

/-- The comment on the migration: null entry locations are removed, and multihop is used if there is
another one and it was not said before whether to use it. -/
structure MultihopMigrated (settings settings' : Json) : Prop where
  entryLocation : settings'.getPath (wireguardField "entry_location") ≠ some .null
  used : ∀ location, settings.getPath (wireguardField "entry_location") = some location →
    location ≠ .null → settings.getPath (wireguardField "use_multihop") = none →
    settings'.getPath (wireguardField "use_multihop") = some (.bool true)
  kept : (settings.getPath (wireguardField "entry_location") = none ∨
      settings.getPath (wireguardField "entry_location") = some .null ∨
      settings.getPath (wireguardField "use_multihop") ≠ none) →
    settings'.getPath (wireguardField "use_multihop") = settings.getPath (wireguardField "use_multihop")

/-- A TCP port becomes the port of an obfuscation, and a UDP port stays the port. -/
structure PortMigrated (settings settings' : Json) : Prop where
  tcp : ∀ value port, settings.getPath (wireguardField "port") = some value →
    (constraint transportPort).ofJson value = some (.only ⟨.tcp, port⟩) →
    settings'.getPath (wireguardField "port") = some ((constraint Settings.port).toJson .any) ∧
    settings'.getPath ["obfuscation_settings", "selected_obfuscation"] = some (.string "udp2_tcp") ∧
    settings'.getPath ["obfuscation_settings", "udp2tcp", "port"] =
      some ((constraint Settings.port).toJson port)
  udp : ∀ value port, settings.getPath (wireguardField "port") = some value →
    (constraint transportPort).ofJson value = some (.only ⟨.udp, port⟩) →
    settings'.getPath (wireguardField "port") = some ((constraint Settings.port).toJson port) ∧
    settings'.get "obfuscation_settings" = settings.get "obfuscation_settings"

/-- The account number and the key are not in the settings any more, but in the migration data. -/
structure AccountMigrated (settings settings' : Json) (data : Option MigrationData) : Prop where
  tokenRemoved : ∀ token, settings'.get "account_token" = some token → token = .null
  keyRemoved : ∀ key, settings'.get "wireguard" = some key → key = .null
  tokenReturned : ∀ token, settings.get "account_token" = some (.string token) →
    ∃ returned, data = some returned ∧ returned.token = token
  keyReturned : ∀ key, settings.get "wireguard" = some key → key ≠ .null →
    ∃ returned, data = some returned ∧ returned.wgData = some key

/-- A null entry location does not come with a choice about multihop. -/
def EntryLocationHandled (settings : Json) : Prop :=
  settings.getPath (wireguardField "entry_location") = some .null →
    settings.getPath (wireguardField "use_multihop") = none

/-- A key does not come without an account number. -/
def KeyHandled (settings : Json) : Prop :=
  ∀ key, settings.get "wireguard" = some key → key ≠ .null →
    ∃ token, settings.get "account_token" = some token ∧ token ≠ .null

theorem isNull_iff {value : Json} : value.isNull = true ↔ value = .null := by
  cases value <;> simp [isNull]

theorem migrateMultihop_cases (h : migrateMultihop constraints = .ok constraints') :
    (constraints.get "entry_location" = some .null ∧ constraints.get "use_multihop" = none ∧
      constraints' = constraints.remove "entry_location") ∨
    (∃ location, constraints.get "entry_location" = some location ∧ location ≠ .null ∧
      constraints.get "use_multihop" = none ∧
      constraints' = constraints.insert "use_multihop" (.bool true)) ∨
    ((constraints.get "entry_location" = none ∨ constraints.get "use_multihop" ≠ none) ∧
      constraints' = constraints) := by
  unfold migrateMultihop at h
  split at h
  · rename_i location hlocation hmultihop
    have hobject := isObject_of_get hlocation
    split at h
    · rename_i hnull
      rw [isNull_iff] at hnull
      obtain ⟨object, hobject, heq⟩ := bind_eq_ok.mp h
      cases heq
      cases eq_of_asObjectMut hobject
      exact .inl ⟨hnull ▸ hlocation, hmultihop, rfl⟩
    · rename_i hnull
      rw [isNull_iff] at hnull
      rw [setIndex_of_object hobject] at h
      cases h
      exact .inr (.inl ⟨location, hlocation, hnull, hmultihop, rfl⟩)
  · rename_i hother
    cases h
    refine .inr (.inr ⟨?_, rfl⟩)
    cases hlocation : constraints.get "entry_location" with
    | none => exact .inl rfl
    | some location => exact .inr fun hmultihop => hother location hlocation hmultihop

theorem migratePortConstraint_cases
    (h : migratePortConstraint constraints = .ok (constraints', obfuscation)) :
    (constraints' = constraints ∧ obfuscation = none ∧ ∀ value, constraints.get "port" = some value →
      (constraint transportPort).ofJson value = some .any) ∨
    ∃ value port, constraints.get "port" = some value ∧
      (constraint transportPort).ofJson value = some (.only port) ∧
      constraints' = constraints.insert "port" (migratePort port).1 ∧ obfuscation = (migratePort port).2 := by
  unfold migratePortConstraint at h
  split at h
  · rename_i hnone
    cases h
    exact .inl ⟨rfl, rfl, fun value hvalue => by rw [hnone] at hvalue; cases hvalue⟩
  · rename_i value hvalue
    obtain ⟨port, hport, hrest⟩ := bind_eq_ok.mp h
    have hread := okOr_eq_ok.mp hport
    cases port with
    | any =>
      cases hrest
      refine .inl ⟨rfl, rfl, fun value' hvalue' => ?_⟩
      cases hvalue.symm.trans hvalue'
      exact hread
    | only port =>
      obtain ⟨stored, hstored, heq⟩ := bind_eq_ok.mp hrest
      rw [setIndex_of_object (isObject_of_get hvalue)] at hstored
      cases hstored
      cases heq
      exact .inr ⟨value, port, hvalue, hread, rfl, rfl⟩

/-- The constraints before and after, and the obfuscation settings. -/
structure ConstraintsMigrated (settings settings' constraints multihop constraints' : Json)
    (obfuscation : Option Json) : Prop where
  before : ∀ key, settings.getPath (wireguardField key) = constraints.get key
  multihop_eq : migrateMultihop constraints = .ok multihop
  port_eq : migratePortConstraint multihop = .ok (constraints', obfuscation)
  after : ∀ key, settings'.getPath (wireguardField key) = constraints'.get key
  obfuscation_eq : settings'.get "obfuscation_settings" = obfuscation.or (settings.get "obfuscation_settings")

theorem getPath_wireguardField
    (h : settings.getPath ["relay_settings", "normal", "wireguard_constraints"] = some constraints)
    (key : String) : settings.getPath (wireguardField key) = constraints.get key := by
  rw [← getPath_singleton, ← getPath_append_of_some h]
  rfl

theorem migrateConstraints_cases (h : migrateConstraints settings = .ok settings') :
    (settings' = settings ∧ ∀ key, settings.getPath (wireguardField key) = none) ∨
    ∃ constraints multihop constraints' obfuscation,
      ConstraintsMigrated settings settings' constraints multihop constraints' obfuscation := by
  rcases migrateConstraints_eq_ok h with
    ⟨hnone, rfl⟩ | ⟨constraints, multihop, constraints', obfuscation, hconstraints, hmultihop, hport, hrest⟩
  · refine .inl ⟨rfl, fun key => ?_⟩
    rw [show wireguardField key = ["relay_settings", "normal", "wireguard_constraints"] ++ [key] from rfl,
      getPath_append, hnone, Option.bind_none]
  · have hinserted := getPath_insertPath_self hconstraints constraints'
    refine .inr ⟨constraints, multihop, constraints', obfuscation,
      getPath_wireguardField hconstraints, hmultihop, hport, fun key => ?_, ?_⟩
    · rw [← getPath_wireguardField hinserted]
      rcases hrest with ⟨-, rfl⟩ | ⟨selected, -, hset⟩
      · rfl
      · exact SameExcept.setIndex hset _ (by simp [wireguardField, apart])
    · rcases hrest with ⟨rfl, rfl⟩ | ⟨selected, rfl, hset⟩
      · exact get_insertPath_of_ne (by decide) _ _ _
      · rw [get_setIndex hset, if_pos rfl]
        rfl

theorem multihopMigrated_iff_of_constraints {multihop : Json}
    (h : ConstraintsMigrated settings settings' constraints multihop constraints' obfuscation) :
    MultihopMigrated settings settings' ↔ EntryLocationHandled settings := by
  have hport := sameExcept_migratePortConstraint h.port_eq
  have hentry : constraints'.get "entry_location" = multihop.get "entry_location" :=
    hport.get (by decide)
  have huse : constraints'.get "use_multihop" = multihop.get "use_multihop" := hport.get (by decide)
  constructor
  · intro hmigrated hnull
    by_contra huse'
    refine hmigrated.entryLocation ?_
    rw [h.before] at hnull huse'
    rw [h.after, hentry]
    rcases migrateMultihop_cases h.multihop_eq with ⟨-, hnone, -⟩ | ⟨location, -, -, hnone, -⟩ | ⟨-, rfl⟩
    · exact absurd hnone huse'
    · exact absurd hnone huse'
    · exact hnull
  · intro hhandled
    unfold EntryLocationHandled at hhandled
    rw [h.before, h.before] at hhandled
    refine ⟨?_, ?_, ?_⟩
    · rw [h.after, hentry]
      rcases migrateMultihop_cases h.multihop_eq with ⟨-, -, rfl⟩ | ⟨location, hlocation, hne, -, rfl⟩ |
        ⟨hkept, rfl⟩
      · rw [get_remove, if_pos rfl]
        exact nofun
      · rw [get_insert (isObject_of_get hlocation), if_neg (by decide), hlocation]
        exact fun heq => hne (Option.some.inj heq)
      · intro hnull
        rcases hkept with hnone | hsome
        · rw [hnone] at hnull
          cases hnull
        · exact hsome (hhandled hnull)
    · intro location hlocation hne hnone
      rw [h.before] at hlocation hnone
      rw [h.after, huse]
      rcases migrateMultihop_cases h.multihop_eq with ⟨hnull, -, -⟩ | ⟨location', hlocation', -, -, rfl⟩ |
        ⟨hkept | hkept, -⟩
      · rw [hlocation] at hnull
        exact absurd (Option.some.inj hnull) hne
      · rw [get_insert (isObject_of_get hlocation'), if_pos rfl]
      · rw [hlocation] at hkept
        cases hkept
      · exact absurd hnone hkept
    · intro hcases
      rw [h.before, h.before] at hcases
      rw [h.after, huse, h.before]
      rcases migrateMultihop_cases h.multihop_eq with ⟨-, -, rfl⟩ | ⟨location, hlocation, hne, hnone, -⟩ |
        ⟨-, rfl⟩
      · rw [get_remove, if_neg (by decide)]
      · rcases hcases with hcase | hcase | hcase
        · rw [hlocation] at hcase
          cases hcase
        · rw [hlocation] at hcase
          exact absurd (Option.some.inj hcase) hne
        · exact absurd hnone hcase
      · rfl

theorem portMigrated_of_constraints {multihop : Json}
    (h : ConstraintsMigrated settings settings' constraints multihop constraints' obfuscation) :
    PortMigrated settings settings' := by
  have hsame : multihop.get "port" = constraints.get "port" :=
    (sameExcept_migrateMultihop h.multihop_eq).get (by decide)
  have hread : ∀ {value : Json} {port : TransportPort}, settings.getPath (wireguardField "port") = some value →
      (constraint transportPort).ofJson value = some (.only port) →
      settings'.getPath (wireguardField "port") = some (migratePort port).1 ∧
        obfuscation = (migratePort port).2 := by
    intro value port hvalue hport
    rw [h.before, ← hsame] at hvalue
    rw [h.after]
    rcases migratePortConstraint_cases h.port_eq with ⟨-, -, hany⟩ | ⟨value', port', hvalue', hport', rfl, hobf⟩
    · rw [hany value hvalue] at hport
      cases hport
    · cases hvalue.symm.trans hvalue'
      cases hport.symm.trans hport'
      rw [get_insert (isObject_of_get hvalue), if_pos rfl]
      exact ⟨rfl, hobf⟩
  refine ⟨fun value port hvalue hport => ?_, fun value port hvalue hport => ?_⟩
  · obtain ⟨hfield, hobf⟩ := hread hvalue hport
    have hget := h.obfuscation_eq
    rw [hobf] at hget
    refine ⟨hfield, ?_, ?_⟩
    all_goals
      rw [getPath_cons, hget]
      rfl
  · obtain ⟨hfield, hobf⟩ := hread hvalue hport
    have hget := h.obfuscation_eq
    rw [hobf] at hget
    exact ⟨hfield, hget⟩

theorem migrateAccount_cases (h : migrateAccount settings = .ok (settings', data)) :
    (∃ token, settings.get "account_token" = some (.string token) ∧
      settings' = (settings.remove "account_token").remove "wireguard" ∧
      data = some { token, wgData := (settings.get "wireguard").filter (!·.isNull) }) ∨
    (∀ token, settings.get "account_token" = some token → token = .null) ∧ settings' = settings ∧
      data = none := by
  unfold migrateAccount at h
  split at h
  · rename_i token htoken
    obtain ⟨hget, -⟩ := Option.filter_eq_some_iff.mp htoken
    obtain ⟨number, hnumber, hrest⟩ := bind_eq_ok.mp h
    obtain ⟨object, hobject, heq⟩ := bind_eq_ok.mp hrest
    cases heq
    cases eq_of_asObjectMut hobject
    have hstring : token = .string number := by
      have hread := okOr_eq_ok.mp hnumber
      cases token <;> cases hread
      rfl
    exact .inl ⟨number, hstring ▸ hget, rfl, rfl⟩
  · rename_i hnone
    cases h
    refine .inr ⟨fun token htoken => ?_, rfl, rfl⟩
    have hnull := Option.filter_eq_none_iff.mp hnone token htoken
    simpa [isNull_iff] using hnull

theorem accountMigrated_iff_of_account {constrained removed : Json}
    (h : migrateAccount constrained = .ok (removed, data))
    (htoken : constrained.get "account_token" = settings.get "account_token")
    (hkey : constrained.get "wireguard" = settings.get "wireguard")
    (htoken' : settings'.get "account_token" = removed.get "account_token")
    (hkey' : settings'.get "wireguard" = removed.get "wireguard") :
    AccountMigrated settings settings' data ↔ KeyHandled settings := by
  rcases migrateAccount_cases h with ⟨token, hget, rfl, rfl⟩ | ⟨hnull, rfl, rfl⟩
  · rw [htoken] at hget
    rw [get_remove, if_neg (by decide), get_remove, if_pos rfl] at htoken'
    rw [get_remove, if_pos rfl] at hkey'
    refine iff_of_true ⟨?_, ?_, ?_, ?_⟩ fun key _ _ => ⟨_, hget, nofun⟩
    · exact fun token' hremains => nomatch htoken'.symm.trans hremains
    · exact fun key hremains => nomatch hkey'.symm.trans hremains
    · intro token' hget'
      cases hget.symm.trans hget'
      exact ⟨_, rfl, rfl⟩
    · intro key hpresent hne
      refine ⟨_, rfl, Option.filter_eq_some_iff.mpr ⟨hkey.trans hpresent, ?_⟩⟩
      simpa [← isNull_iff] using hne
  · rw [htoken] at hnull htoken'
    rw [hkey] at hkey'
    constructor
    · intro hmigrated key hpresent hne
      exact absurd (hmigrated.keyRemoved key (hkey'.trans hpresent)) hne
    · intro hhandled
      have hnone : ∀ key, settings.get "wireguard" = some key → key = .null := by
        intro key hpresent
        by_contra hne
        obtain ⟨token, hget, hne'⟩ := hhandled key hpresent hne
        exact hne' (hnull token hget)
      refine ⟨?_, ?_, fun token hget => ?_, fun key hpresent hne => absurd (hnone key hpresent) hne⟩
      · rw [htoken']
        exact hnull
      · rw [hkey']
        exact hnone
      · cases hnull _ hget

theorem migrate_cases (hversion : versionMatches 5 settings = true)
    (h : migrate settings = .ok (settings', data)) :
    ∃ constrained removed, migrateConstraints settings = .ok constrained ∧
      migrateAccount constrained = .ok (removed, data) ∧
      SameExcept [["account_token"], ["wireguard"], ["settings_version"]] constrained settings' ∧
      SameExcept [["settings_version"]] removed settings' := by
  rw [migrate, if_pos hversion] at h
  simp only [bind_eq_ok] at h
  obtain ⟨constrained, hconstrained, ⟨removed, data'⟩, hremoved, versioned, hset, heq⟩ := h
  cases heq
  exact ⟨constrained, removed, hconstrained, hremoved,
    (sameExcept_migrateAccount hremoved).trans (.setIndex hset), .setIndex hset⟩

/-- The migration does what its comment says if and only if a null entry location does not come with a
choice about multihop and a key does not come without an account number. -/
theorem migrate_as_documented_iff (settings settings' : Json) (data : Option MigrationData)
    (hversion : versionMatches 5 settings = true) (h : migrate settings = .ok (settings', data)) :
    (MultihopMigrated settings settings' ∧ PortMigrated settings settings' ∧
      AccountMigrated settings settings' data) ↔ EntryLocationHandled settings ∧ KeyHandled settings := by
  obtain ⟨constrained, removed, hconstrained, hremoved, hsame, hsame'⟩ := migrate_cases hversion h
  have hbefore := sameExcept_migrateConstraints hconstrained
  rw [accountMigrated_iff_of_account hremoved (hbefore.get (by decide)) (hbefore.get (by decide))
    (hsame'.get (by decide)) (hsame'.get (by decide))]
  rcases migrateConstraints_cases hconstrained with ⟨rfl, hnone⟩ | ⟨c, m, c', o, hmigrated⟩
  · -- Without constraints there is nothing that could be wrong about them.
    have hnone' : ∀ key, settings'.getPath (wireguardField key) = none := fun key => by
      rw [hsame _ (by simp [wireguardField, apart]), hnone]
    have hmultihop : MultihopMigrated constrained settings' :=
      ⟨by rw [hnone']; exact (fun h => by cases h), fun _ h => (by cases (hnone _).symm.trans h),
        fun _ => by rw [hnone', hnone]⟩
    have hport : PortMigrated constrained settings' :=
      ⟨fun _ _ h => (by cases (hnone _).symm.trans h), fun _ _ h => (by cases (hnone _).symm.trans h)⟩
    have hhandled : EntryLocationHandled constrained := fun h => (by cases (hnone _).symm.trans h)
    exact ⟨fun h => ⟨hhandled, h.2.2⟩, fun h => ⟨hmultihop, hport, h.2⟩⟩
  · have hmigrated' := { hmigrated with
      after := fun key => by rw [hsame _ (by simp [wireguardField, apart]), hmigrated.after]
      obfuscation_eq := by rw [hsame.get (by decide), hmigrated.obfuscation_eq] }
    rw [multihopMigrated_iff_of_constraints hmigrated']
    exact ⟨fun h => ⟨h.1, h.2.2⟩, fun h => ⟨h.1, portMigrated_of_constraints hmigrated', h.2⟩⟩

namespace Sample

/-- A TCP port, an entry location, an account number and a key. -/
def multihop : Json :=
  .object [("account_token", .string "1234"),
    ("relay_settings", .object [("normal", .object [("wireguard_constraints", .object
      [("entry_location", .string "any"),
        ("port", (constraint transportPort).toJson (.only ⟨.tcp, .only 443⟩))])])]),
    ("settings_version", .ofNat 5), ("wireguard", .object [])]

/-- A null entry location, with a choice about multihop. -/
def nullEntryLocation : Json :=
  .object [("relay_settings", .object [("normal", .object [("wireguard_constraints", .object
      [("entry_location", .null), ("use_multihop", .bool false)])])]),
    ("settings_version", .ofNat 5)]

def keyOnly : Json :=
  .object [("settings_version", .ofNat 5), ("wireguard", .object [])]

end Sample

theorem migrate_as_documented_multihop : ∃ settings' data,
    migrate Sample.multihop = .ok (settings', data) ∧ MultihopMigrated Sample.multihop settings' ∧
      PortMigrated Sample.multihop settings' ∧ AccountMigrated Sample.multihop settings' data := by
  refine ⟨_, _, rfl, (migrate_as_documented_iff Sample.multihop _ _ rfl rfl).mpr ⟨?_, ?_⟩⟩
  · intro h
    rfl
  · exact fun _ _ _ => ⟨_, rfl, nofun⟩

/-- The null entry location stays, and so does the key. -/
theorem migrate_leaves_null_and_key :
    (∃ settings' data, migrate Sample.nullEntryLocation = .ok (settings', data) ∧
      settings'.getPath (wireguardField "entry_location") = some .null) ∧
    ∃ settings', migrate Sample.keyOnly = .ok (settings', none) ∧
      settings'.get "wireguard" = some (.object []) :=
  ⟨⟨_, _, rfl, rfl⟩, _, rfl, rfl⟩

end MullvadVpn.Settings.V5
