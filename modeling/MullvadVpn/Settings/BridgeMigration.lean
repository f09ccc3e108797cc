import MullvadVpn.Settings.Frames

/-!
What the migration from version 7 to 8 (`migrations/v7.rs`) makes of a custom bridge. The credentials of a
remote SOCKS5 proxy are taken as the text of the JSON values that hold them, so they are in quotes
afterwards.
-/

namespace MullvadVpn.Settings.V7

open Net Systems Json Fallible

variable {ext : Externals} {settings settings' : Json}

/-- A custom bridge of the old settings. -/
inductive Bridge where
  | localSocks5 (peer : SocketAddr) (port : BitVec 16)
  | remoteSocks5 (address : SocketAddr) (auth : Option (String × String))
  | shadowsocks (peer : SocketAddr) (password cipher : String)

def Bridge.credentials : Bridge → Option (String × String)
  | .remoteSocks5 _ auth => auth
  | _ => none

def IsAddress (ext : Externals) (found : Option Json) (address : SocketAddr) : Prop :=
  ∃ text, found = some (.string text) ∧ ext.socketAddr.parse text = some address

/-- The credentials of a remote proxy. There are none if the field is missing or null. -/
def HasAuth (bridge : Json) : Option (String × String) → Prop
  | none => bridge.get "auth" = none ∨ bridge.get "auth" = some .null
  | some (username, password) => ∃ auth, bridge.get "auth" = some auth ∧
      auth.get "username" = some (.string username) ∧ auth.get "password" = some (.string password)

/-- The custom bridge that the settings hold. -/
def HasBridge (ext : Externals) (settings : Json) : Bridge → Prop
  | .localSocks5 peer localPort => ∃ bridge value,
      settings.getPath ["bridge_settings", "custom", "local"] = some bridge ∧
      IsAddress ext (bridge.get "peer") peer ∧ bridge.get "port" = some value ∧
      port.ofJson value = some localPort
  | .remoteSocks5 address auth => ∃ bridge, settings.getPath ["bridge_settings", "custom", "local"] = none ∧
      settings.getPath ["bridge_settings", "custom", "remote"] = some bridge ∧
      IsAddress ext (bridge.get "address") address ∧ HasAuth bridge auth
  | .shadowsocks peer password cipher => ∃ bridge,
      settings.getPath ["bridge_settings", "custom", "local"] = none ∧
      settings.getPath ["bridge_settings", "custom", "remote"] = none ∧
      settings.getPath ["bridge_settings", "custom", "shadowsocks"] = some bridge ∧
      IsAddress ext (bridge.get "peer") peer ∧ bridge.get "password" = some (.string password) ∧
      bridge.get "cipher" = some (.string cipher)

/-- The credentials as the new settings hold them. -/
def StoresAuth (proxy : Json) : Option (String × String) → Prop
  | none => proxy.get "auth" = some .null
  | some (username, password) =>
    proxy.getPath ["auth", "username"] = some (.string username) ∧
    proxy.getPath ["auth", "password"] = some (.string password)

/-- The bridge as the new settings hold it, with everything that it had. -/
def StoresBridge (ext : Externals) (custom : Json) : Bridge → Prop
  | .localSocks5 peer localPort =>
    custom.getPath ["socks5_local", "remote_endpoint", "address"] = some (ext.socketAddr.serde.toJson peer) ∧
    custom.getPath ["socks5_local", "local_port"] = some (port.toJson localPort)
  | .remoteSocks5 address auth => ∃ proxy, custom.get "socks5_remote" = some proxy ∧
      proxy.get "endpoint" = some (ext.socketAddr.serde.toJson address) ∧ StoresAuth proxy auth
  | .shadowsocks peer password cipher =>
    custom.getPath ["shadowsocks", "endpoint"] = some (ext.socketAddr.serde.toJson peer) ∧
    custom.getPath ["shadowsocks", "password"] = some (.string password) ∧
    custom.getPath ["shadowsocks", "cipher"] = some (.string cipher)

/-- The new settings use a custom bridge, which is the old one. -/
def Preserved (ext : Externals) (settings : Json) (bridge : Bridge) : Prop :=
  settings.getPath ["bridge_settings", "bridge_type"] = some (.string "custom") ∧
  ∃ custom, settings.getPath ["bridge_settings", "custom"] = some custom ∧ StoresBridge ext custom bridge

theorem length_le_sum_escape (escape : Char → String) (h : ∀ c, escape c ≠ "") (chars : List Char) :
    chars.length ≤ (chars.map (String.length ∘ escape)).sum := by
  induction chars with
  | nil => exact le_rfl
  | cons c chars ih =>
    have hpos : 0 < (escape c).length := by
      rw [Nat.pos_iff_ne_zero, Ne, String.length_eq_zero_iff]
      exact h c
    rw [List.length_cons, List.map_cons, List.sum_cons, Function.comp_apply]
    omega

theorem quote_ne (escape : Char → String) (h : ∀ c, escape c ≠ "") (text : String) :
    quote escape text ≠ text := by
  intro heq
  have hlength := congrArg String.length heq
  have hescape := length_le_sum_escape escape h text.toList
  have hquote : "\"".length = 1 := rfl
  rw [String.length_toList] at hescape
  simp only [quote, String.length_append, String.length_join, List.map_map, hquote] at hlength
  omega

def migratedProxy (ext : Externals) : Bridge → CustomProxy
  | .localSocks5 peer localPort =>
    .socks5Local { remoteEndpoint := { address := peer, protocol := .tcp }, localPort }
  | .remoteSocks5 address auth =>
    .socks5Remote address (auth.bind fun credentials =>
      SocksAuth.new (quote ext.escape credentials.1) (quote ext.escape credentials.2))
  | .shadowsocks peer password cipher => .shadowsocks peer password cipher

theorem extractStr_eq_ok {found text} (h : found = some (.string text)) :
    extractStr found = .ok text := by
  rw [h]
  rfl

theorem extractSocketAddr_eq_ok {found address}
    (h : IsAddress ext found address) : extractSocketAddr ext found = .ok address := by
  obtain ⟨text, htext, hparse⟩ := h
  exact bind_eq_ok.mpr ⟨text, extractStr_eq_ok htext, okOr_eq_ok.mpr hparse⟩

theorem customBridge_eq {bridge} (h : HasBridge ext settings bridge) :
    customBridge ext settings = some (.ok (migratedProxy ext bridge)) := by
  cases bridge with
  | localSocks5 peer localPort =>
    obtain ⟨old, value, hold, hpeer, hvalue, hport⟩ := h
    simp only [customBridge, hold, Option.some.injEq, migrateLocal, bind_eq_ok]
    exact ⟨peer, extractSocketAddr_eq_ok hpeer, value, okOr_eq_ok.mpr hvalue, localPort,
      okOr_eq_ok.mpr hport, rfl⟩
  | remoteSocks5 address auth =>
    obtain ⟨old, hnone, hold, haddress, hauth⟩ := h
    simp only [customBridge, hnone, hold, Option.some.injEq, migrateRemote, bind_eq_ok]
    refine ⟨address, extractSocketAddr_eq_ok haddress, ?_⟩
    cases auth with
    | none =>
      rcases hauth with hauth | hauth
      · rw [hauth]
        rfl
      · rw [hauth]
        rfl
    | some credentials =>
      obtain ⟨auth, hauth, husername, hpassword⟩ := hauth
      simp [hauth, migrateAuth, husername, hpassword, ext.jsonText_string]
      rfl
  | shadowsocks peer password cipher =>
    obtain ⟨old, hnone, hnone', hold, hpeer, hpassword, hcipher⟩ := h
    simp only [customBridge, hnone, hnone', hold, Option.some.injEq, migrateShadowsocks, bind_eq_ok]
    exact ⟨peer, extractSocketAddr_eq_ok hpeer, password, extractStr_eq_ok hpassword, cipher,
      extractStr_eq_ok hcipher, rfl⟩

theorem getPath_bridgeSettings {bridge} (hversion : versionMatches 7 settings = true)
    (hbridge : HasBridge ext settings bridge) (h : migrate ext settings = .ok settings')
    (keys : List String) :
    settings'.getPath ("bridge_settings" :: keys) = (BridgeSettings.toJson ext
      { bridgeType := .custom, normal := defaultBridgeConstraints
        custom := some (migratedProxy ext bridge) }).getPath keys := by
  rw [migrate, migrateIf, if_pos hversion] at h
  simp only [convert, migrateBridgeSettings, customBridge_eq hbridge, bind_eq_ok] at h
  obtain ⟨converted, ⟨bridged, ⟨proxy, hproxy, hstored⟩, hmethods⟩, hset⟩ := h
  cases hproxy
  have hsame := (sameExcept_migrateApiAccessSettings hmethods).trans (.setIndex hset)
  rw [getPath_cons, hsame.get (by decide), get_setIndex hstored, if_pos rfl, Option.bind_some]

theorem username_of_new {username password auth}
    (h : SocksAuth.new username password = some auth) : auth.username = username := by
  unfold SocksAuth.new at h
  split at h
  · split at h
    · cases h
      rfl
    · cases h
  · cases h

/-- What the new proxy has of the old bridge: everything, unless there were credentials. -/
theorem storesBridge_migratedProxy_iff (bridge : Bridge) :
    StoresBridge ext ((migratedProxy ext bridge).toJson ext) bridge ↔ bridge.credentials = none := by
  cases bridge with
  | localSocks5 peer localPort => exact iff_of_true ⟨rfl, rfl⟩ rfl
  | shadowsocks peer password cipher => exact iff_of_true ⟨rfl, rfl, rfl⟩ rfl
  | remoteSocks5 address auth =>
    cases auth with
    | none => exact iff_of_true ⟨_, rfl, rfl, rfl⟩ rfl
    | some credentials =>
      obtain ⟨username, password⟩ := credentials
      refine iff_of_false ?_ nofun
      rintro ⟨proxy, hproxy, -, husername, -⟩
      cases hproxy
      simp only [Option.bind_some] at husername
      cases hnew : SocksAuth.new (quote ext.escape username) (quote ext.escape password) with
      | none =>
        rw [hnew] at husername
        cases husername
      | some auth =>
        rw [hnew] at husername
        have hquoted : auth.username = username := string.inj (Option.some.inj husername)
        rw [username_of_new hnew] at hquoted
        exact quote_ne ext.escape ext.escape_ne_empty username hquoted

/-- The custom bridge is the same after a successful migration if and only if it has no credentials. -/
theorem migrate_preserves_bridge_iff (ext : Externals) (settings settings' : Json) (bridge : Bridge)
    (hversion : versionMatches 7 settings = true) (hbridge : HasBridge ext settings bridge)
    (hmigrate : migrate ext settings = .ok settings') :
    Preserved ext settings' bridge ↔ bridge.credentials = none := by
  have hget := getPath_bridgeSettings hversion hbridge hmigrate
  rw [← storesBridge_migratedProxy_iff, Preserved, hget, hget]
  constructor
  · rintro ⟨-, custom, hcustom, hstores⟩
    cases hcustom
    exact hstores
  · exact fun hstores => ⟨rfl, _, rfl, hstores⟩

namespace Sample

def address : SocketAddr := ⟨.v4 0, 1⟩

def remoteBridge (auth : Json) : Json :=
  .object [("bridge_settings", .object [("custom", .object [("remote", .object
      [("address", Settings.Sample.ext.socketAddr.serde.toJson address), ("auth", auth)])])]),
    ("settings_version", .ofNat 7)]

def credentials : Json :=
  .object [("password", .string "secret"), ("username", .string "user")]

end Sample

theorem migrate_preserves_bridge_without_auth : ∃ settings',
    migrate Settings.Sample.ext (Sample.remoteBridge .null) = .ok settings' ∧
      Preserved Settings.Sample.ext settings' (.remoteSocks5 Sample.address none) := by
  refine ⟨_, rfl, (migrate_preserves_bridge_iff Settings.Sample.ext (Sample.remoteBridge .null) _
    (.remoteSocks5 Sample.address none) rfl ?_ rfl).mpr rfl⟩
  exact ⟨_, rfl, rfl, ⟨_, rfl, Settings.Sample.ext.socketAddr.parse_display _⟩, Or.inr rfl⟩

/-- The user name is in quotes after the migration. -/
theorem migrate_quotes_credentials :
    HasBridge Settings.Sample.ext (Sample.remoteBridge Sample.credentials)
      (.remoteSocks5 Sample.address (some ("user", "secret"))) ∧
    ∃ settings', migrate Settings.Sample.ext (Sample.remoteBridge Sample.credentials) = .ok settings' ∧
      settings'.getPath ["bridge_settings", "custom", "socks5_remote", "auth", "username"] =
        some (.string "\"user\"") := by
  refine ⟨⟨_, rfl, rfl, ⟨_, rfl, Settings.Sample.ext.socketAddr.parse_display _⟩, _, rfl, rfl, rfl⟩,
    _, rfl, rfl⟩

end MullvadVpn.Settings.V7
