import MullvadVpn.Settings.Types

/-!
The migrations of the settings file (`migrations/v1.rs` to `migrations/v11.rs`). Each works on the JSON
value that was read, whatever it is: it returns it unchanged unless its version is the one the migration
is for, and otherwise a value of the next version, an error or a panic.

An index expression that follows a path which has just been found is modelled as an update at the end of
that path. Integer arithmetic wraps, as it does in release builds.
-/

namespace MullvadVpn.Settings

open Net Relays Systems Json

inductive Error where
  | invalidSettingsContent
  | serialize
  | readHistory
  | writeHistory
  | parseHistory

abbrev Result (α : Type) := Except (Failure Error) α

/-- A value that was found, or the error for settings of an unexpected format. -/
def orInvalid {α : Type} (found : Option α) : Result α :=
  Fallible.okOr found (.error .invalidSettingsContent)

def asObjectMut (value : Json) : Result Json :=
  value.expectObject .invalidSettingsContent

def versionNumber (settings : Json) : Option Nat :=
  (settings.get "settings_version").bind asU64

def versionMatches (version : Nat) (settings : Json) : Bool :=
  versionNumber settings == some version

/-- `SettingsVersion`, as the later migrations read it: the known versions only. -/
def settingsVersion (settings : Json) : Option Nat :=
  (versionNumber settings).filter fun version => 2 ≤ version && version ≤ 12

def setVersion (version : Nat) (settings : Json) : Result Json :=
  settings.setIndex "settings_version" (.ofNat version)

/-- What most migrations are: settings of another version are left alone, those of the right one are
converted and get the next version. -/
def migrateIf (isVersion : Json → Bool) (convert : Json → Result Json) (next : Nat)
    (settings : Json) : Result Json :=
  if isVersion settings then do
    let settings ← convert settings
    setVersion next settings
  else .ok settings

namespace V1

def migrateNormal (openvpnConstraints wireguardConstraints : Option Json) (normal : Json) :
    Result Json := do
  let normal ← match openvpnConstraints, wireguardConstraints with
    | some constraints, _ => do
      let normal ← normal.setIndex "openvpn_constraints" constraints
      normal.setIndex "tunnel_protocol" ((constraint tunnelType).toJson .any)
    | none, some constraints => do
      let normal ← normal.setIndex "wireguard_constraints" constraints
      normal.setIndex "tunnel_protocol" ((constraint tunnelType).toJson (.only .wireguard))
    | none, none => normal.setIndex "tunnel_protocol" ((constraint tunnelType).toJson .any)
  return normal.remove "tunnel"

def convert (settings : Json) : Result Json := do
  let settings ← settings.update ["relay_settings", "normal"] (migrateNormal
    (settings.getPath ["relay_settings", "normal", "tunnel", "only", "openvpn"])
    (settings.getPath ["relay_settings", "normal", "tunnel", "only", "wireguard"]))
  settings.setIndex "show_beta_releases" (.bool false)

def migrate : Json → Result Json :=
  migrateIf (fun settings => (settings.get "settings_version").isNone) convert 2

end V1

namespace V2

def minRotationInterval : Nat := 1 * 24 * 60 * 60
def maxRotationInterval : Nat := 7 * 24 * 60 * 60

/-- A duration of whole seconds. -/
def durationToJson (seconds : Nat) : Json :=
  ((object []).insert "secs" (.ofNat seconds)).insert "nanos" (.ofNat 0)

def clampInterval (interval : Nat) : Nat :=
  if interval < minRotationInterval then minRotationInterval
  else if maxRotationInterval < interval then maxRotationInterval
  else interval

def migrateBeta (settings : Json) : Result Json :=
  if ((settings.get "show_beta_releases").map isNull).getD false then do
    let settings ← asObjectMut settings
    return settings.remove "show_beta_releases"
  else .ok settings

def migrateRotation (wireguard : Json) : Result Json :=
  match (wireguard.get "automatic_rotation").bind asU64 with
  | some interval => do
    let interval := clampInterval (60 * 60 * interval % 2 ^ 64)
    let wireguard ← wireguard.setIndex "rotation_interval" (durationToJson interval)
    let wireguard ← asObjectMut wireguard
    return wireguard.remove "automatic_rotation"
  | none => .ok wireguard

def convert (settings : Json) : Result Json := do
  let settings ← migrateBeta settings
  settings.update ["tunnel_options", "wireguard"] migrateRotation

def migrate : Json → Result Json := migrateIf (versionMatches 2) convert 3

end V2

namespace V3

variable (ext : Externals)

def dnsOptionsToJson (state : String) (addresses : List IpAddr) : Json :=
  (((object []).insert "state" (.string state)).insert "default_options"
    (((object []).insert "block_ads" (.bool false)).insert "block_trackers"
      (.bool false))).insert "custom_options"
    ((object []).insert "addresses" ((Serde.list ext.ipAddr.serde).toJson addresses))

def migrateDnsOptions (options : Json) : Result Json :=
  match options.get "state" with
  | some _ => .ok options
  | none => do
    let custom := ((options.get "custom").bind asBool).getD false
    let addresses ← match options.get "addresses" with
      | some addresses => orInvalid ((Serde.list ext.ipAddr.serde).ofJson addresses)
      | none => .ok []
    return dnsOptionsToJson ext (if custom then "custom" else "default") addresses

def convert (settings : Json) : Result Json :=
  settings.update ["tunnel_options", "dns_options"] (migrateDnsOptions ext)

def migrate : Json → Result Json :=
  migrateIf (versionMatches 3) (convert ext) 4

end V3

namespace V4

def wireguardTcpPorts : List (BitVec 16) := [80, 443, 5001]
def openvpnTcpPorts : List (BitVec 16) := [80, 443]

def protocolFromPort (tcpPorts : List (BitVec 16)) (port : BitVec 16) : TransportProtocol :=
  if port ∈ tcpPorts then .tcp else .udp

def wgProtocolFromPort : BitVec 16 → TransportProtocol := protocolFromPort wireguardTcpPorts
def openvpnProtocolFromPort : BitVec 16 → TransportProtocol := protocolFromPort openvpnTcpPorts

/-- A constraint, which is `any` if the field is missing. -/
def readConstraint {α : Type} (s : Serde α) : Option Json → Result (Constraint α)
  | some value => orInvalid ((constraint s).ofJson value)
  | none => .ok .any

/-- Store the new port, and drop the protocol that is now part of it. -/
def storePort (port : Constraint TransportPort) (constraints : Json) : Result Json := do
  let constraints ← constraints.setIndex "port" ((constraint transportPort).toJson port)
  let constraints ← asObjectMut constraints
  return constraints.remove "protocol"

def migrateWireguard (constraints : Json) : Result Json := do
  let port ← readConstraint port (constraints.get "port")
  storePort (match port with
      | .any => .any
      | .only port => .only ⟨wgProtocolFromPort port, .only port⟩)
    constraints

def migrateOpenvpn (constraints : Json) : Result Json := do
  let port ← readConstraint port (constraints.get "port")
  let transport ← readConstraint transportProtocol (constraints.get "protocol")
  storePort (match port, transport with
      | .only port, .any => .only ⟨openvpnProtocolFromPort port, .only port⟩
      | port, .only protocol => .only ⟨protocol, port⟩
      | .any, .any => .any)
    constraints

def convert (settings : Json) : Result Json := do
  let settings ← settings.update ["relay_settings", "normal", "wireguard_constraints"] migrateWireguard
  settings.update ["relay_settings", "normal", "openvpn_constraints"] migrateOpenvpn

def migrate : Json → Result Json := migrateIf (versionMatches 4) convert 5

end V4

namespace V5

structure MigrationData where
  token : String
  wgData : Option Json

variable (settings constraints : Json)

def migrateMultihop : Result Json :=
  match constraints.get "entry_location", constraints.get "use_multihop" with
  | some location, none =>
    if location.isNull then do
      let constraints ← asObjectMut constraints
      return constraints.remove "entry_location"
    else constraints.setIndex "use_multihop" (.bool true)
  | _, _ => .ok constraints

/-- The port that replaces a port with a protocol, and the obfuscation that replaces TCP. -/
def migratePort (port : TransportPort) : Json × Option Json :=
  match port.protocol with
  | .udp => ((constraint Settings.port).toJson port.port, none)
  | .tcp => ((constraint Settings.port).toJson .any,
      some (((object []).insert "selected_obfuscation" (.string "udp2_tcp")).insert "udp2tcp"
        ((object []).insert "port" ((constraint Settings.port).toJson port.port))))

/-- The constraints with the new port, and the obfuscation settings if there are new ones. -/
def migratePortConstraint : Result (Json × Option Json) :=
  match constraints.get "port" with
  | none => .ok (constraints, none)
  | some port => do
    let port ← orInvalid ((constraint transportPort).ofJson port)
    match port with
    | .any => return (constraints, none)
    | .only transportPort => do
      let constraints ← constraints.setIndex "port" (migratePort transportPort).1
      return (constraints, (migratePort transportPort).2)

def migrateConstraints : Result Json :=
  match settings.getPath ["relay_settings", "normal", "wireguard_constraints"] with
  | none => .ok settings
  | some constraints => do
    let constraints ← migrateMultihop constraints
    let (constraints, obfuscation) ← migratePortConstraint constraints
    let settings := settings.insertPath ["relay_settings", "normal", "wireguard_constraints"] constraints
    match obfuscation with
    | some obfuscation => settings.setIndex "obfuscation_settings" obfuscation
    | none => return settings

def migrateAccount : Result (Json × Option MigrationData) :=
  match (settings.get "account_token").filter (!·.isNull) with
  | some token => do
    let token ← orInvalid (Serde.string.ofJson token)
    let wgData := (settings.get "wireguard").filter (!·.isNull)
    let settings ← asObjectMut settings
    return ((settings.remove "account_token").remove "wireguard", some { token, wgData })
  | none => .ok (settings, none)

def migrate : Result (Json × Option MigrationData) :=
  if versionMatches 5 settings then do
    let settings ← migrateConstraints settings
    let (settings, migrationData) ← migrateAccount settings
    let settings ← setVersion 6 settings
    return (settings, migrationData)
  else .ok (settings, none)

end V5

namespace V6

def wrapOnly (only : Json) : Result Json := do
  let only ← only.setIndex "location" only
  let only ← asObjectMut only
  return ((only.remove "country").remove "city").remove "hostname"

def wrapLocation (location : Json) : Result Json :=
  location.update ["only"] wrapOnly

variable (settings : Json)

def migrateLocationConstraint : Result Json := do
  let settings ← settings.update ["relay_settings", "normal", "location"] wrapLocation
  let settings ←
    settings.update ["relay_settings", "normal", "wireguard_constraints", "entry_location"] wrapLocation
  settings.update ["bridge_settings", "normal", "location"] wrapLocation

def migratePq (tunnelOptions : Json) : Result Json := do
  let tunnelOptions ← asObjectMut tunnelOptions
  match tunnelOptions.get "use_pq_safe_psk" with
  | none => return tunnelOptions
  | some pskSetting =>
    let state := if pskSetting.asBool = some true then "on" else "auto"
    (tunnelOptions.remove "use_pq_safe_psk").setIndex "quantum_resistant" (.string state)

def migratePqSetting : Result Json :=
  settings.update ["tunnel_options", "wireguard"] migratePq

def migrateUdp2tcpPort443 : Result Json :=
  settings.update ["obfuscation_settings", "udp2tcp", "port"] fun constraint' =>
    if constraint' = (constraint port).toJson (.only 443) then
      .ok ((constraint port).toJson .any)
    else .ok constraint'

def convert : Result Json := do
  let settings ← migratePqSetting settings
  let settings ← migrateUdp2tcpPort443 settings
  migrateLocationConstraint settings

def migrate : Json → Result Json := migrateIf (versionMatches 6) convert 7

end V6

namespace V7

def extractStr (found : Option Json) : Result String := do
  let value ← orInvalid found
  orInvalid value.asStr

variable (ext : Externals) (settings bridge : Json)

def extractSocketAddr (found : Option Json) : Result SocketAddr := do
  let address ← extractStr found
  orInvalid (ext.socketAddr.parse address)

def migrateLocal : Result CustomProxy := do
  let address ← extractSocketAddr ext (bridge.get "peer")
  let localPort ← orInvalid (bridge.get "port")
  let localPort ← orInvalid (port.ofJson localPort)
  return .socks5Local { remoteEndpoint := { address, protocol := .tcp }, localPort }

/-- The credentials are the texts of the two JSON values. -/
def migrateAuth (auth : Json) : Option SocksAuth := do
  let username ← auth.get "username"
  let password ← auth.get "password"
  SocksAuth.new (ext.jsonText username) (ext.jsonText password)

def migrateRemote : Result CustomProxy := do
  let endpoint ← extractSocketAddr ext (bridge.get "address")
  return .socks5Remote endpoint ((bridge.get "auth").bind (migrateAuth ext))

def migrateShadowsocks : Result CustomProxy := do
  let endpoint ← extractSocketAddr ext (bridge.get "peer")
  let password ← extractStr (bridge.get "password")
  let cipher ← extractStr (bridge.get "cipher")
  return .shadowsocks endpoint password cipher

/-- The custom bridge of the old settings, if there is one. -/
def customBridge : Option (Result CustomProxy) :=
  match settings.getPath ["bridge_settings", "custom", "local"],
      settings.getPath ["bridge_settings", "custom", "remote"],
      settings.getPath ["bridge_settings", "custom", "shadowsocks"] with
  | some bridge, _, _ => some (migrateLocal ext bridge)
  | none, some bridge, _ => some (migrateRemote ext bridge)
  | none, none, some bridge => some (migrateShadowsocks ext bridge)
  | none, none, none => none

def migrateBridgeSettings : Result Json :=
  match customBridge ext settings, settings.getPath ["bridge_settings", "normal"] with
  | some proxy, _ => do
    let proxy ← proxy
    settings.setIndex "bridge_settings" (BridgeSettings.toJson ext
      { bridgeType := .custom, normal := defaultBridgeConstraints, custom := some proxy })
  | none, some normalBridge => do
    let normal ← Fallible.okOr (bridgeConstraintsOfJson ext normalBridge) (.error .serialize)
    settings.setIndex "bridge_settings"
      (BridgeSettings.toJson ext { bridgeType := .normal, normal, custom := none })
  | none, none => .ok settings

def renameMapField (object : Json) (oldName newName : String) : Result Json := do
  let oldValue ← orInvalid (object.get oldName)
  return (object.insert newName oldValue).remove oldName

def renameField (value : Json) (oldName newName : String) : Result Json := do
  let object ← asObjectMut value
  renameMapField object oldName newName

/-- Replace the `socks5` variant of an access method. -/
def replaceSocks5 (custom : Json) (name : String) (proxy : Json) : Result Json := do
  let custom ← custom.setIndex name proxy
  let custom ← asObjectMut custom
  return custom.remove "socks5"

def migrateCustomMethod (custom : Json) : Result Json :=
  match custom.get "shadowsocks", custom.getPath ["socks5", "local"], custom.getPath ["socks5", "remote"] with
  | some shadowsocks, _, _ => do
    let shadowsocks ← renameField shadowsocks "peer" "endpoint"
    return custom.insert "shadowsocks" shadowsocks
  | none, some proxy, _ => replaceSocks5 custom "socks5_local" proxy
  | none, none, some proxy => do
    let proxy ← renameField proxy "authentication" "auth"
    let proxy ← renameField proxy "peer" "endpoint"
    replaceSocks5 custom "socks5_remote" proxy
  | none, none, none => .error (.error .invalidSettingsContent)

def migrateAccessMethod (setting : Json) : Result Json := do
  let accessMethod ← orInvalid (setting.get "access_method")
  match accessMethod.get "custom" with
  | none => return setting
  | some custom => do
    let custom ← migrateCustomMethod custom
    return setting.insertPath ["access_method", "custom"] custom

def migrateAccessMethods : Result Json :=
  settings.update ["api_access_methods", "access_method_settings"] fun list =>
    match list.asArray with
    | none => .ok list
    | some items => do
      let items ← Fallible.tryCollect (items.map migrateAccessMethod)
      return .array items

def isBuiltIn (method : Json) : Bool :=
  (method.getPath ["access_method", "built_in"]).isSome

/-- The key under which a built-in method is stored from now on. -/
def builtInKey (method : Json) : Option String :=
  match (method.getPath ["access_method", "built_in"]).bind asStr with
  | some "direct" => some "direct"
  | some "bridge" => some "mullvad_bridges"
  | _ => none

def moveBuiltIns (methods : Json) (list : List Json) : Json :=
  let builtIns := list.filter isBuiltIn
  let rest := builtIns.foldl
    (fun rest builtIn => rest.filter fun method => method.get "id" ≠ builtIn.get "id") list
  let named := builtIns.filterMap fun method => (builtInKey method).map fun key => (key, method)
  named.foldl (fun methods method => methods.insert method.1 method.2) (methods.insert "custom" (.array rest))

def separateBuiltIns : Result Json :=
  settings.update ["api_access_methods"] fun methods =>
    if methods.isObject then do
      let methods ← renameMapField methods "access_method_settings" "custom"
      match (methods.get "custom").bind asArray with
      | some list => return moveBuiltIns methods list
      | none => return methods
    else .ok methods

def migrateApiAccessSettings : Result Json := do
  let settings ← migrateAccessMethods settings
  separateBuiltIns settings

def convert : Result Json := do
  let settings ← migrateBridgeSettings ext settings
  migrateApiAccessSettings settings

def migrate : Json → Result Json :=
  migrateIf (versionMatches 7) (convert ext) 8

end V7

namespace V8

def migrateSelectedObfuscation (settings : Json) : Result Json :=
  settings.update ["obfuscation_settings", "selected_obfuscation"] fun selected =>
    if selected.asStr = some "off" then .ok (.string "auto") else .ok selected

def migrate : Json → Result Json :=
  migrateIf (versionMatches 8) migrateSelectedObfuscation 9

end V8

namespace V9

/-- The split tunnelling settings that were kept in files. -/
structure SplitTunnel where
  enabled : Bool
  apps : List String

/-- The files are there on Android only. What they hold is added unless the settings have it. -/
def addSplitTunnel (files : Option SplitTunnel) (settings : Json) : Json :=
  match settings.get "split_tunnel", files with
  | none, some files =>
    settings.insert "split_tunnel" (((object []).insert "enable_exclusions"
      (.bool files.enabled)).insert "apps" ((Serde.list .string).toJson files.apps))
  | _, _ => settings

/-- Indexing the fields of an object by a missing key panics. -/
def migrate (files : Option SplitTunnel) (settings : Json) : Result Json :=
  if versionMatches 9 settings then do
    let settings ← asObjectMut settings
    let settings := addSplitTunnel files settings
    match settings.get "settings_version" with
    | some _ => return settings.insert "settings_version" (.ofNat 10)
    | none => .error .panicked
  else .ok settings

end V9

namespace V10

def hasOvpnToken (hostname : String) : Bool :=
  (hostname.toList.splitOn '-').any fun token => token == "ovpn".toList

def tunnelTypeOf (hostname : Option Json) : TunnelType :=
  match hostname with
  | some (.string hostname) => if hasOvpnToken hostname then .openVpn else .wireguard
  | _ => .wireguard

def migrateTunnelTypeInner (normal : Json) : Result Json :=
  match normal.get "tunnel_protocol" with
  | some (.string "any") =>
    normal.setIndex "tunnel_protocol" (tunnelType.toJson
      (tunnelTypeOf (normal.getPath ["location", "only", "location", "hostname"])))
  | some (.object fields) => do
    let chosen ← orInvalid ((object fields).get "only")
    let chosen ← orInvalid (tunnelType.ofJson chosen)
    normal.setIndex "tunnel_protocol" (tunnelType.toJson chosen)
  | some _ => .error (.error .invalidSettingsContent)
  | none => .ok normal

def migrateTunnelType (settings : Json) : Result Json :=
  settings.update ["relay_settings", "normal"] migrateTunnelTypeInner

def migrate : Json → Result Json :=
  migrateIf (fun settings => settingsVersion settings == some 10) migrateTunnelType 11

end V10

namespace V11

variable (names : List String) (settings : Json)

def migrateBlockWhenDisconnected : Result Json := do
  let settings ← asObjectMut settings
  let value ← orInvalid (settings.get "block_when_disconnected")
  return (settings.insert "lockdown_mode" value).remove "block_when_disconnected"

def initialSuffix (name : String) : Nat :=
  let count := (names.filter (· == name)).length
  if count > 1 then count - 1 else 1

/-- Whether a name is taken at a lower position. -/
def shouldRename (name : String) (index : Nat) : Bool :=
  names.zipIdx.any fun entry => index > entry.2 && entry.1 == name

/-- The first generated name that is not taken at a lower position, if it is found in the given number
of attempts. -/
def generateAccessMethodName (names : List String) (name : String) (index : Nat) :
    Nat → Nat → Option String
  | 0, _ => none
  | attempts + 1, suffix =>
    let generated := name ++ "_" ++ toString suffix
    if shouldRename names generated index then
      generateAccessMethodName names name index attempts (suffix + 1)
    else some generated

/-- One round of the loop. The recursion of the source is not bounded. Here it may take one attempt
more than there are lower positions, and a panic stands for not ending. -/
def renameAt (index : Nat) : Result (List String) :=
  match names[index]? with
  | none => .ok names
  | some name =>
    if shouldRename names name index then
      match generateAccessMethodName names name index (index + 1) (initialSuffix names name) with
      | some generated => .ok (names.set index generated)
      | none => .error .panicked
    else .ok names

def renameFrom (names : List String) (index : Nat) : Nat → Result (List String)
  | 0 => .ok names
  | rounds + 1 => do
    let names ← renameAt names index
    renameFrom names (index + 1) rounds

def uniqueNames : Result (List String) :=
  renameFrom names 0 names.length

def nameOf (method : Json) : Option String :=
  (method.get "name").bind asStr

/-- Store new names in the methods that have one, in order. -/
def storeNames : List Json → List String → List Json
  | method :: methods, name :: names =>
    if (nameOf method).isSome then method.insert "name" (.string name) :: storeNames methods names
    else method :: storeNames methods (name :: names)
  | methods, [] => methods
  | [], _ => []

def migrateDuplicatedNames : Result Json := do
  let settings ← asObjectMut settings
  settings.update ["api_access_methods", "custom"] fun custom =>
    match custom.asArray with
    | none => .ok custom
    | some methods => do
      let names ← uniqueNames (methods.filterMap nameOf)
      return .array (storeNames methods names)

def convert : Result Json := do
  let settings ← migrateBlockWhenDisconnected settings
  migrateDuplicatedNames settings

def migrate : Json → Result Json :=
  migrateIf (fun settings => settingsVersion settings == some 11) convert 12

end V11

end MullvadVpn.Settings
