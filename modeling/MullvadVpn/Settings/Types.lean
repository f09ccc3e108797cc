import MullvadVpn.Relays.Constraints
import MullvadVpn.Systems.Serde

/-!
The types that occur in the settings file, and how they are written in it: constraints, ports and
protocols, locations, and the proxies of custom bridges. The textual forms of addresses and identifiers
are those of the libraries that define them. All that is assumed about them is that what they write is
read as the same value.
-/

namespace MullvadVpn.Settings

open Net Relays Systems Json

structure TextFormat (α : Type) where
  display : α → String
  parse : String → Option α
  parse_display : ∀ a, parse (display a) = some a

def TextFormat.serde {α : Type} (format : TextFormat α) : Serde α :=
  .text format.display format.parse format.parse_display

/-- A string as JSON text: in quotes, with the characters escaped that have to be. -/
def quote (escape : Char → String) (s : String) : String :=
  "\"" ++ String.join (s.toList.map escape) ++ "\""

structure Externals where
  ipAddr : TextFormat IpAddr
  socketAddr : TextFormat SocketAddr
  uuid : TextFormat ListId
  /-- The text of a JSON value. -/
  jsonText : Json → String
  escape : Char → String
  /-- An escaped character does not vanish. -/
  escape_ne_empty : ∀ c, escape c ≠ ""
  jsonText_string : ∀ s, jsonText (.string s) = quote escape s
  /-- The entries of an account history of the second format: account numbers with their keys. -/
  historyV2 : String → Option (List (String × Json))
  /-- The account numbers of an account history of the first format. -/
  historyV1 : String → Option (List String)

def constraint {α : Type} (s : Serde α) : Serde (Constraint α) where
  toJson
    | .any => .string "any"
    | .only a => .object [("only", s.toJson a)]
  ofJson value := value.variant.bind fun
    | ("any", none) | ("any", some .null) => some .any
    | ("only", some content) => (s.ofJson content).map .only
    | _ => none
  ofJson_toJson c := by
    cases c with
    | any => rfl
    | only a => simp [variant, s.ofJson_toJson]

def port : Serde (BitVec 16) := .unsigned 16

def transportProtocol : Serde TransportProtocol :=
  .enumeration [.udp, .tcp] (fun
      | .udp => "udp"
      | .tcp => "tcp")
    (by intro protocol; cases protocol <;> decide)

def tunnelType : Serde TunnelType :=
  .enumeration [.openVpn, .wireguard] (fun
      | .openVpn => "openvpn"
      | .wireguard => "wireguard")
    (by intro tunnelType; cases tunnelType <;> decide)

theorem protocol_ne_port : "protocol" ≠ "port" := by decide

theorem transportPort_eta (p : TransportPort) : (⟨p.protocol, p.port⟩ : TransportPort) = p := rfl

def transportPort : Serde TransportPort :=
  (Serde.record "protocol" "port" protocol_ne_port transportProtocol (constraint port)).iso
    (fun p => (p.protocol, p.port)) (fun p => ⟨p.1, p.2⟩) transportPort_eta

def geographicLocationConstraint : Serde GeographicLocationConstraint where
  toJson
    | .country country => .object [("country", .string country)]
    | .city country city => .object [("city", .array [.string country, .string city])]
    | .hostname country city hostname =>
      .object [("hostname", .array [.string country, .string city, .string hostname])]
  ofJson value := value.variant.bind fun
    | ("country", some (.string country)) => some (.country country)
    | ("city", some (.array [.string country, .string city])) => some (.city country city)
    | ("hostname", some (.array [.string country, .string city, .string hostname])) =>
      some (.hostname country city hostname)
    | _ => none
  ofJson_toJson location := by cases location <;> rfl

def locationConstraint (ext : Externals) : Serde LocationConstraint where
  toJson
    | .location location => .object [("location", geographicLocationConstraint.toJson location)]
    | .customList listId =>
      .object [("custom_list", .object [("list_id", ext.uuid.serde.toJson listId)])]
  ofJson value := value.variant.bind fun
    | ("location", some content) => (geographicLocationConstraint.ofJson content).map .location
    | ("custom_list", some (.array [listId])) => (ext.uuid.serde.ofJson listId).map .customList
    | ("custom_list", some content) =>
      (content.get "list_id").bind fun listId => (ext.uuid.serde.ofJson listId).map .customList
    | _ => none
  ofJson_toJson location := by
    cases location with
    | location location =>
      simp [variant, geographicLocationConstraint.ofJson_toJson]
    | customList listId =>
      simp [Json.variant, Json.get, ext.uuid.serde.ofJson_toJson]

def ownership : Serde Ownership :=
  .enumeration [.mullvadOwned, .rented] (fun
      | .mullvadOwned => "MullvadOwned"
      | .rented => "Rented")
    (by intro ownership; cases ownership <;> decide)

/-- A set is written in some order; here in that of its elements. -/
def providers : Serde Providers where
  toJson p := .object [("providers", (Serde.list .string).toJson (p.providers.sort (· ≤ ·)))]
  ofJson
    | .array [names] => ((Serde.list .string).ofJson names).map fun names => ⟨names.toFinset⟩
    | value => (value.get "providers").bind fun names =>
      ((Serde.list .string).ofJson names).map fun names => ⟨names.toFinset⟩
  ofJson_toJson p := by
    simp [Json.get, (Serde.list .string).ofJson_toJson]

/-- The constraints that a missing field stands for: none. -/
def defaultBridgeConstraints : BridgeConstraints := ⟨.any, .any, .any⟩

def bridgeConstraintsToJson (ext : Externals) (constraints : BridgeConstraints) : Json :=
  (((object []).insert "location"
    ((constraint (locationConstraint ext)).toJson constraints.location)).insert "providers"
    ((constraint providers).toJson constraints.providers)).insert "ownership"
    ((constraint ownership).toJson constraints.ownership)

def fieldOrAny {α : Type} (s : Serde (Constraint α)) : Option Json → Option (Constraint α)
  | some value => s.ofJson value
  | none => some .any

/-- Every field may be missing, and so may the last items where the fields are in an array. -/
def bridgeConstraintsOfJson (ext : Externals) (value : Json) : Option BridgeConstraints :=
  let read (location providers' ownership' : Option Json) : Option BridgeConstraints := do
    let location ← fieldOrAny (constraint (locationConstraint ext)) location
    let providers ← fieldOrAny (constraint providers) providers'
    let ownership ← fieldOrAny (constraint ownership) ownership'
    return ⟨location, providers, ownership⟩
  match value with
  | .object _ => read (value.get "location") (value.get "providers") (value.get "ownership")
  | .array [] => read none none none
  | .array [location] => read (some location) none none
  | .array [location, providers] => read (some location) (some providers) none
  | .array [location, providers, ownership] => read (some location) (some providers) (some ownership)
  | _ => none

/-- Credentials of a SOCKS5 proxy. They cannot be empty or longer than 255 bytes. -/
structure SocksAuth where
  username : String
  password : String
  passwordLength : 1 ≤ password.utf8ByteSize ∧ password.utf8ByteSize ≤ 255
  usernameLength : 1 ≤ username.utf8ByteSize ∧ username.utf8ByteSize ≤ 255

/-- `SocksAuth::new`, for callers that do not look at the error. -/
def SocksAuth.new (username password : String) : Option SocksAuth :=
  if hpassword : 1 ≤ password.utf8ByteSize ∧ password.utf8ByteSize ≤ 255 then
    if husername : 1 ≤ username.utf8ByteSize ∧ username.utf8ByteSize ≤ 255 then
      some ⟨username, password, hpassword, husername⟩
    else none
  else none

inductive CustomProxy where
  | shadowsocks (endpoint : SocketAddr) (password cipher : String)
  | socks5Local (settings : Socks5Local)
  | socks5Remote (endpoint : SocketAddr) (auth : Option SocksAuth)

def endpointToJson (ext : Externals) (endpoint : Endpoint) : Json :=
  ((object []).insert "address" (ext.socketAddr.serde.toJson endpoint.address)).insert "protocol"
    (transportProtocol.toJson endpoint.protocol)

def SocksAuth.toJson (auth : SocksAuth) : Json :=
  ((object []).insert "username" (.string auth.username)).insert "password" (.string auth.password)

def CustomProxy.toJson (ext : Externals) : CustomProxy → Json
  | .shadowsocks endpoint password cipher =>
    .object [("shadowsocks", (((object []).insert "endpoint"
      (ext.socketAddr.serde.toJson endpoint)).insert "password" (.string password)).insert "cipher"
      (.string cipher))]
  | .socks5Local settings =>
    .object [("socks5_local", ((object []).insert "remote_endpoint"
      (endpointToJson ext settings.remoteEndpoint)).insert "local_port"
      (port.toJson settings.localPort))]
  | .socks5Remote endpoint auth =>
    .object [("socks5_remote", ((object []).insert "endpoint"
      (ext.socketAddr.serde.toJson endpoint)).insert "auth"
      (match auth with
        | some auth => auth.toJson
        | none => .null))]

structure BridgeSettings where
  bridgeType : BridgeType
  normal : BridgeConstraints
  custom : Option CustomProxy

def BridgeSettings.toJson (ext : Externals) (settings : BridgeSettings) : Json :=
  (((object []).insert "bridge_type" (.string (match settings.bridgeType with
      | .normal => "normal"
      | .custom => "custom"))).insert "normal"
    (bridgeConstraintsToJson ext settings.normal)).insert "custom"
    (match settings.custom with
      | some proxy => proxy.toJson ext
      | none => .null)

namespace Sample

def unary {α : Type} (encode : α → Nat) (decode : Nat → α) (h : ∀ a, decode (encode a) = a) :
    TextFormat α where
  display a := String.ofList (List.replicate (encode a) '1')
  parse text := some (decode text.length)
  parse_display a := by simp [h]

def encodeIpAddr : IpAddr → Nat
  | .v4 bits => 2 * bits.toNat
  | .v6 bits => 2 * bits.toNat + 1

def decodeIpAddr (n : Nat) : IpAddr :=
  if n % 2 = 0 then .v4 (BitVec.ofNat 32 (n / 2)) else .v6 (BitVec.ofNat 128 (n / 2))

theorem decode_encodeIpAddr (address : IpAddr) : decodeIpAddr (encodeIpAddr address) = address := by
  cases address with
  | v4 bits => simp [encodeIpAddr, decodeIpAddr]
  | v6 bits =>
    have hhalf : (2 * bits.toNat + 1) / 2 = bits.toNat := by omega
    simp [encodeIpAddr, decodeIpAddr, hhalf]

def encodeSocketAddr (address : SocketAddr) : Nat :=
  encodeIpAddr address.ip * 2 ^ 16 + address.port.toNat

def decodeSocketAddr (n : Nat) : SocketAddr :=
  ⟨decodeIpAddr (n / 2 ^ 16), BitVec.ofNat 16 n⟩

theorem decode_encodeSocketAddr (address : SocketAddr) :
    decodeSocketAddr (encodeSocketAddr address) = address := by
  obtain ⟨ip, port⟩ := address
  have hport := port.isLt
  have hdiv : (encodeIpAddr ip * 2 ^ 16 + port.toNat) / 2 ^ 16 = encodeIpAddr ip := by omega
  have hmod : BitVec.ofNat 16 (encodeIpAddr ip * 2 ^ 16 + port.toNat) = port := by
    apply BitVec.eq_of_toNat_eq
    simp only [BitVec.toNat_ofNat]
    omega
  simp only [encodeSocketAddr, decodeSocketAddr, hdiv, hmod, decode_encodeIpAddr]

/-- An account history of the second format, with one account. -/
def historyText : String := "[\x7b\"account\":\"1\",\"wireguard\":\x7b\x7d\x7d]"

def ext : Externals where
  ipAddr := unary encodeIpAddr decodeIpAddr decode_encodeIpAddr
  socketAddr := unary encodeSocketAddr decodeSocketAddr decode_encodeSocketAddr
  uuid := unary BitVec.toNat (BitVec.ofNat 128) fun _ => by simp
  jsonText
    | .string s => quote String.singleton s
    | _ => ""
  escape := String.singleton
  escape_ne_empty c := by simp
  jsonText_string _ := rfl
  historyV2 text := if text = historyText then some [("1", .object [])] else none
  historyV1 _ := none

end Sample

end MullvadVpn.Settings
