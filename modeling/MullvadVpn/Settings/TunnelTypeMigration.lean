import MullvadVpn.Settings.Frames

/-!
The tunnel type that the migration from version 10 to 11 (`migrations/v10.rs`) chooses when any was
allowed, for relay settings as the application writes them. The migration looks for a host name that is
text, but a specific relay is written as the array of its country, its city and its host name.
-/

namespace MullvadVpn.Settings.V10

open Net Relays Systems Json

variable {location : Constraint LocationConstraint} {ext : Externals} {settings : Json}

/-- A specific relay whose host name says that it is an OpenVPN relay. -/
def isOpenVpnRelay : Constraint LocationConstraint → Bool
  | .only (.location (.hostname _ _ hostname)) => hasOvpnToken hostname
  | _ => false

/-- The comment on the migration: an explicit choice is kept, and otherwise it is WireGuard unless the
location is an OpenVPN relay. -/
def documentedTunnelType (location : Constraint LocationConstraint) : Constraint TunnelType → TunnelType
  | .only chosen => chosen
  | .any => if isOpenVpnRelay location then .openVpn else .wireguard

/-- Relay settings as they are written: with a location and a tunnel protocol, next to other fields. -/
structure Written (ext : Externals) (settings : Json) (location : Constraint LocationConstraint)
    (tunnelProtocol : Constraint TunnelType) : Prop where
  location : settings.getPath ["relay_settings", "normal", "location"] =
    some ((constraint (locationConstraint ext)).toJson location)
  tunnelProtocol : settings.getPath ["relay_settings", "normal", "tunnel_protocol"] =
    some ((constraint tunnelType).toJson tunnelProtocol)

/-- What the migration chooses on such settings. -/
def migratedTunnelType : Constraint TunnelType → TunnelType
  | .any => .wireguard
  | .only chosen => chosen

variable {tunnelProtocol : Constraint TunnelType}

theorem documentedTunnelType_eq_iff :
    documentedTunnelType location tunnelProtocol = migratedTunnelType tunnelProtocol ↔
      ¬(tunnelProtocol = .any ∧ isOpenVpnRelay location = true) := by
  cases tunnelProtocol with
  | any => cases h : isOpenVpnRelay location <;> simp [documentedTunnelType, migratedTunnelType, h]
  | only chosen => simp [documentedTunnelType, migratedTunnelType]

theorem migrateTunnelTypeInner_written {normal : Json}
    (hlocation : normal.get "location" = some ((constraint (locationConstraint ext)).toJson location))
    (hprotocol : normal.get "tunnel_protocol" = some ((constraint tunnelType).toJson tunnelProtocol)) :
    migrateTunnelTypeInner normal =
      .ok (normal.insert "tunnel_protocol" (tunnelType.toJson (migratedTunnelType tunnelProtocol))) := by
  have hobject := isObject_of_get hlocation
  cases tunnelProtocol with
  | any =>
    have htype : tunnelTypeOf (normal.getPath ["location", "only", "location", "hostname"]) =
        .wireguard := by
      rw [getPath_cons, hlocation, Option.bind_some]
      rcases location with _ | (location | _)
      · rfl
      · cases location <;> rfl
      · rfl
    simp only [constraint] at hprotocol
    simp only [migrateTunnelTypeInner, hprotocol, htype]
    exact setIndex_of_object hobject _ _
  | only chosen =>
    simp only [constraint] at hprotocol
    have hchosen : (Json.object [("only", tunnelType.toJson chosen)]).get "only" =
        some (tunnelType.toJson chosen) := rfl
    simp only [migrateTunnelTypeInner, hprotocol, Fallible.bind_eq_ok]
    exact ⟨_, Fallible.okOr_eq_ok.mpr hchosen, chosen,
      Fallible.okOr_eq_ok.mpr (tunnelType.ofJson_toJson chosen), setIndex_of_object hobject _ _⟩

theorem migrate_written (hversion : settingsVersion settings = some 10)
    (hwritten : Written ext settings location tunnelProtocol) :
    ∃ settings', migrate settings = .ok settings' ∧
      settings'.getPath ["relay_settings", "normal", "tunnel_protocol"] =
        some (tunnelType.toJson (migratedTunnelType tunnelProtocol)) := by
  obtain ⟨normal, hnormal, hlocation⟩ := Option.bind_eq_some_iff.mp
    ((getPath_append settings ["relay_settings", "normal"] ["location"]).symm.trans hwritten.location)
  have hprotocol := (getPath_field hnormal "tunnel_protocol").symm.trans hwritten.tunnelProtocol
  rw [getPath_singleton] at hlocation
  have hinner := migrateTunnelTypeInner_written hlocation hprotocol
  obtain ⟨converted, hconverted⟩ : ∃ converted, converted = settings.insertPath ["relay_settings", "normal"]
      (normal.insert "tunnel_protocol" (tunnelType.toJson (migratedTunnelType tunnelProtocol))) :=
    ⟨_, rfl⟩
  have hset : setVersion 11 converted = .ok (converted.insert "settings_version" (.ofNat 11)) :=
    setIndex_of_object (by rw [hconverted, isObject_insertPath, isObject_of_getPath hnormal]) _ _
  refine ⟨converted.insert "settings_version" (.ofNat 11), ?_, ?_⟩
  · rw [migrate, migrateIf, if_pos (by rw [hversion]; rfl)]
    exact Fallible.bind_eq_ok.mpr ⟨converted, hconverted ▸ update_of_ok hnormal hinner, hset⟩
  · rw [SameExcept.insert converted "settings_version" _ _ (by decide), hconverted]
    refine (getPath_field (getPath_insertPath_self hnormal _) "tunnel_protocol").trans ?_
    rw [get_insert (isObject_of_get hlocation), if_pos rfl]

/-- On settings as they are written, the migration does what its comment says, and changes nothing else,
if and only if it is not the case that any tunnel type is allowed and the location is an OpenVPN
relay. -/
theorem migrate_tunnelType_iff (ext : Externals) (settings : Json)
    (location : Constraint LocationConstraint) (tunnelProtocol : Constraint TunnelType)
    (hversion : settingsVersion settings = some 10)
    (hwritten : Written ext settings location tunnelProtocol) :
    (∃ settings', migrate settings = .ok settings' ∧
      settings'.getPath ["relay_settings", "normal", "tunnel_protocol"] =
        some (tunnelType.toJson (documentedTunnelType location tunnelProtocol)) ∧
      SameExcept [["relay_settings", "normal", "tunnel_protocol"], ["settings_version"]]
        settings settings') ↔ ¬(tunnelProtocol = .any ∧ isOpenVpnRelay location = true) := by
  obtain ⟨settings', hmigrate, htype⟩ := migrate_written hversion hwritten
  rw [← documentedTunnelType_eq_iff]
  constructor
  · rintro ⟨settings'', hmigrate', htype', -⟩
    cases hmigrate.symm.trans hmigrate'
    exact tunnelType.toJson_injective (Option.some.inj (htype'.symm.trans htype))
  · intro heq
    exact ⟨settings', hmigrate, heq ▸ htype, isStep.sameExcept_migrate hmigrate⟩

namespace Sample

/-- Any tunnel type, and an OpenVPN relay as the location. -/
def anyTunnelType (location : Constraint LocationConstraint) : Json :=
  .object [("relay_settings", .object [("normal", .object
      [("location", (constraint (locationConstraint Settings.Sample.ext)).toJson location),
        ("tunnel_protocol", (constraint tunnelType).toJson .any)])]),
    ("settings_version", .ofNat 10)]

def openVpnRelay : Constraint LocationConstraint :=
  .only (.location (.hostname "se" "got" "se-got-ovpn-001"))

def wireguardRelay : Constraint LocationConstraint :=
  .only (.location (.hostname "se" "got" "se-got-wg-001"))

end Sample

theorem migrate_tunnelType_relay : ∃ settings',
    migrate (Sample.anyTunnelType Sample.wireguardRelay) = .ok settings' ∧
      settings'.getPath ["relay_settings", "normal", "tunnel_protocol"] =
        some (tunnelType.toJson .wireguard) := by
  obtain ⟨settings', hmigrate, htype, -⟩ := (migrate_tunnelType_iff Settings.Sample.ext
    (Sample.anyTunnelType Sample.wireguardRelay) Sample.wireguardRelay .any rfl ⟨rfl, rfl⟩).mpr
    fun h => absurd h.2 (by decide)
  exact ⟨settings', hmigrate, htype⟩

/-- An OpenVPN relay is migrated to WireGuard. -/
theorem migrate_ignores_openVpn_relay :
    documentedTunnelType Sample.openVpnRelay .any = .openVpn ∧
    ∃ settings', migrate (Sample.anyTunnelType Sample.openVpnRelay) = .ok settings' ∧
      settings'.getPath ["relay_settings", "normal", "tunnel_protocol"] =
        some (tunnelType.toJson .wireguard) := by
  refine ⟨?_, _, rfl, rfl⟩
  decide

end MullvadVpn.Settings.V10
