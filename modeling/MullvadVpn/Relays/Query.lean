import MullvadVpn.Relays.Constraints

/-!
Relay queries (`relay_selector/query.rs`): what one search for relays asks for, how two queries are
merged, and which combinations of constraints are valid. Merging is field by field, so it refines each
field of both queries.
-/

namespace MullvadVpn.Relays

open Net Systems Intersection LawfulIntersection

inductive ObfuscationQuery where
  | off
  | auto
  | udp2tcp (settings : Udp2TcpObfuscationSettings)
  | shadowsocks (settings : ShadowsocksSettings)
  | quic
  | lwo
  deriving DecidableEq

instance : Intersection Udp2TcpObfuscationSettings where
  intersection a b := (intersection a.port b.port).map Udp2TcpObfuscationSettings.mk

instance : Intersection ShadowsocksSettings where
  intersection a b := (intersection a.port b.port).map ShadowsocksSettings.mk

instance : LawfulIntersection Udp2TcpObfuscationSettings where
  Refines a b := Refines a.port b.port
  refl a := refl a.port
  trans hab hbc := trans hab hbc
  refines_left h := (intersection_ofField (fun _ => rfl) h).1
  refines_right h := (intersection_ofField (fun _ => rfl) h).2

instance : LawfulIntersection ShadowsocksSettings where
  Refines a b := Refines a.port b.port
  refl a := refl a.port
  trans hab hbc := trans hab hbc
  refines_left h := (intersection_ofField (fun _ => rfl) h).1
  refines_right h := (intersection_ofField (fun _ => rfl) h).2

namespace ObfuscationQuery

def ofSettings (settings : ObfuscationSettings) : ObfuscationQuery :=
  match settings.selectedObfuscation with
  | .off => off
  | .auto => auto
  | .udp2Tcp => udp2tcp settings.udp2tcp
  | .shadowsocks => shadowsocks settings.shadowsocks
  | .quic => quic
  | .lwo => lwo

/-- `off` absorbs everything and `auto` leaves the other query as it is. Two requests for QUIC, or for
LWO, do not intersect. -/
instance : Intersection ObfuscationQuery where
  intersection
    | off, _ | _, off => some off
    | auto, other | other, auto => some other
    | udp2tcp a, udp2tcp b => (intersection a b).map udp2tcp
    | shadowsocks a, shadowsocks b => (intersection a b).map shadowsocks
    | _, _ => none

@[simp]
theorem auto_intersection (query : ObfuscationQuery) : intersection auto query = some query := by
  cases query <;> rfl

@[simp]
theorem intersection_auto (query : ObfuscationQuery) : intersection query auto = some query := by
  cases query <;> rfl

/-- The order by which an intersection refines: `off` is below and `auto` above everything. -/
inductive Below : ObfuscationQuery → ObfuscationQuery → Prop
  | off (b : ObfuscationQuery) : Below off b
  | auto (a : ObfuscationQuery) : Below a auto
  | udp2tcp {a b} (h : Refines a b) : Below (udp2tcp a) (udp2tcp b)
  | shadowsocks {a b} (h : Refines a b) : Below (shadowsocks a) (shadowsocks b)
  | quic : Below quic quic
  | lwo : Below lwo lwo

theorem Below.refl : (a : ObfuscationQuery) → Below a a
  | .off => .off _
  | .auto => .auto _
  | .udp2tcp settings => .udp2tcp (LawfulIntersection.refl settings)
  | .shadowsocks settings => .shadowsocks (LawfulIntersection.refl settings)
  | .quic => .quic
  | .lwo => .lwo

theorem Below.eq_off {a} (h : Below a .off) : a = .off := by
  cases h
  rfl

theorem Below.trans {a b c} (hab : Below a b) (hbc : Below b c) : Below a c := by
  cases hbc with
  | off => exact hab.eq_off ▸ .off _
  | auto => exact .auto _
  | udp2tcp hbc =>
    cases hab with
    | off => exact .off _
    | udp2tcp hab => exact .udp2tcp (LawfulIntersection.trans hab hbc)
  | shadowsocks hbc =>
    cases hab with
    | off => exact .off _
    | shadowsocks hab => exact .shadowsocks (LawfulIntersection.trans hab hbc)
  | quic | lwo => exact hab

theorem below_of_intersection {a b c} (h : intersection a b = some c) :
    Below c a ∧ Below c b := by
  cases a with
  | off =>
    cases h
    exact ⟨.off _, .off _⟩
  | auto =>
    have hc : c = b := by cases b <;> exact (Option.some.inj h).symm
    exact ⟨.auto _, hc ▸ .refl c⟩
  | udp2tcp a =>
    cases b with
    | off =>
      cases h
      exact ⟨.off _, .off _⟩
    | auto =>
      cases h
      exact ⟨.refl _, .auto _⟩
    | udp2tcp b =>
      obtain ⟨settings, hsettings, rfl⟩ := Option.map_eq_some_iff.mp h
      exact ⟨.udp2tcp (refines_left hsettings), .udp2tcp (refines_right hsettings)⟩
    | _ => cases h
  | shadowsocks a =>
    cases b with
    | off =>
      cases h
      exact ⟨.off _, .off _⟩
    | auto =>
      cases h
      exact ⟨.refl _, .auto _⟩
    | shadowsocks b =>
      obtain ⟨settings, hsettings, rfl⟩ := Option.map_eq_some_iff.mp h
      exact ⟨.shadowsocks (refines_left hsettings), .shadowsocks (refines_right hsettings)⟩
    | _ => cases h
  | quic | lwo =>
    cases b with
    | off =>
      cases h
      exact ⟨.off _, .off _⟩
    | auto =>
      cases h
      exact ⟨.refl _, .auto _⟩
    | _ => cases h

instance : LawfulIntersection ObfuscationQuery where
  Refines := Below
  refl := Below.refl
  trans := Below.trans
  refines_left h := (below_of_intersection h).1
  refines_right h := (below_of_intersection h).2

end ObfuscationQuery

namespace QuantumResistantState

instance : Intersection QuantumResistantState where
  intersection
    | auto, other | other, auto => some other
    | a, b => if a = b then some a else none

@[simp]
theorem auto_intersection (state : QuantumResistantState) : intersection auto state = some state := by
  cases state <;> rfl

theorem eq_of_intersection {a b c} (h : intersection a b = some c) :
    (a = auto ∨ c = a) ∧ (b = auto ∨ c = b) := by
  cases a <;> cases b <;> cases h <;> decide

instance : LawfulIntersection QuantumResistantState where
  Refines a b := b = auto ∨ a = b
  refl _ := .inr rfl
  trans {a b c} hab hbc := by
    rcases hbc with rfl | rfl
    · exact .inl rfl
    · exact hab
  refines_left h := (eq_of_intersection h).1
  refines_right h := (eq_of_intersection h).2

end QuantumResistantState

structure WireguardRelayQuery where
  port : Constraint (BitVec 16)
  ipVersion : Constraint IpVersion
  allowedIps : Constraint AllowedIps
  useMultihop : Constraint Bool
  entryLocation : Constraint LocationConstraint
  obfuscation : ObfuscationQuery
  daita : Constraint Bool
  daitaUseMultihopIfNecessary : Constraint Bool
  quantumResistant : QuantumResistantState

namespace WireguardRelayQuery

def new : WireguardRelayQuery :=
  { port := .any
    ipVersion := .any
    allowedIps := .any
    useMultihop := .any
    entryLocation := .any
    obfuscation := .auto
    daita := .any
    daitaUseMultihopIfNecessary := .any
    quantumResistant := .auto }

def multihop (query : WireguardRelayQuery) : Bool :=
  query.useMultihop == .only true

def intersect (a b : WireguardRelayQuery) : Option WireguardRelayQuery := do
  return {
    port := ← intersection a.port b.port
    ipVersion := ← intersection a.ipVersion b.ipVersion
    allowedIps := ← intersection a.allowedIps b.allowedIps
    useMultihop := ← intersection a.useMultihop b.useMultihop
    entryLocation := ← intersection a.entryLocation b.entryLocation
    obfuscation := ← intersection a.obfuscation b.obfuscation
    daita := ← intersection a.daita b.daita
    daitaUseMultihopIfNecessary :=
      ← intersection a.daitaUseMultihopIfNecessary b.daitaUseMultihopIfNecessary
    quantumResistant := ← intersection a.quantumResistant b.quantumResistant }

instance : Intersection WireguardRelayQuery where
  intersection := intersect

/-- Every field of the first query refines the same field of the second. -/
structure Honours (query user : WireguardRelayQuery) : Prop where
  port : Refines query.port user.port
  ipVersion : Refines query.ipVersion user.ipVersion
  allowedIps : Refines query.allowedIps user.allowedIps
  useMultihop : Refines query.useMultihop user.useMultihop
  entryLocation : Refines query.entryLocation user.entryLocation
  obfuscation : Refines query.obfuscation user.obfuscation
  daita : Refines query.daita user.daita
  daitaUseMultihopIfNecessary : Refines query.daitaUseMultihopIfNecessary user.daitaUseMultihopIfNecessary
  quantumResistant : Refines query.quantumResistant user.quantumResistant

theorem honours_of_intersect {a b c} (h : intersect a b = some c) :
    Honours c a ∧ Honours c b := by
  simp only [intersect, Option.bind_eq_bind, Option.bind_eq_some_iff] at h
  obtain ⟨_, h1, _, h2, _, h3, _, h4, _, h5, _, h6, _, h7, _, h8, _, h9, ⟨⟩⟩ := h
  constructor
  · exact ⟨refines_left h1, refines_left h2, refines_left h3, refines_left h4, refines_left h5,
      refines_left h6, refines_left h7, refines_left h8, refines_left h9⟩
  · exact ⟨refines_right h1, refines_right h2, refines_right h3, refines_right h4, refines_right h5,
      refines_right h6, refines_right h7, refines_right h8, refines_right h9⟩

instance : LawfulIntersection WireguardRelayQuery where
  Refines := Honours
  refl _ := ⟨refl _, refl _, refl _, refl _, refl _, refl _, refl _, refl _, refl _⟩
  trans hab hbc :=
    { port := trans hab.port hbc.port
      ipVersion := trans hab.ipVersion hbc.ipVersion
      allowedIps := trans hab.allowedIps hbc.allowedIps
      useMultihop := trans hab.useMultihop hbc.useMultihop
      entryLocation := trans hab.entryLocation hbc.entryLocation
      obfuscation := trans hab.obfuscation hbc.obfuscation
      daita := trans hab.daita hbc.daita
      daitaUseMultihopIfNecessary :=
        trans hab.daitaUseMultihopIfNecessary hbc.daitaUseMultihopIfNecessary
      quantumResistant := trans hab.quantumResistant hbc.quantumResistant }
  refines_left h := (honours_of_intersect h).1
  refines_right h := (honours_of_intersect h).2

end WireguardRelayQuery

/-- Without a constraint, IPv4 is used. -/
def resolveIpVersion : Constraint IpVersion → IpVersion
  | .any | .only .v4 => .v4
  | .only .v6 => .v6

instance : Intersection TransportPort where
  intersection a b := do
    return { protocol := ← intersection a.protocol b.protocol, port := ← intersection a.port b.port }

instance : Intersection BridgeConstraints where
  intersection a b := do
    return {
      location := ← intersection a.location b.location
      providers := ← intersection a.providers b.providers
      ownership := ← intersection a.ownership b.ownership }

inductive BridgeQuery where
  | off
  | auto
  | normal (constraints : BridgeConstraints)
  | custom (proxy : Option CustomProxy)
  deriving DecidableEq

namespace BridgeQuery

def shouldUseBridge : BridgeQuery → Bool
  | normal _ | custom _ => true
  | off | auto => false

instance : Intersection BridgeQuery where
  intersection
    | normal left, normal right => (intersection left right).map normal
    | auto, right => some right
    | left, auto => some left
    | left, right => if left = right then some left else none

@[simp]
theorem auto_intersection (query : BridgeQuery) : intersection auto query = some query := by
  cases query <;> rfl

end BridgeQuery

structure OpenVpnRelayQuery where
  port : Constraint TransportPort
  bridgeSettings : BridgeQuery

def OpenVpnRelayQuery.new : OpenVpnRelayQuery :=
  { port := .any, bridgeSettings := .auto }

instance : Intersection OpenVpnRelayQuery where
  intersection a b := do
    return {
      port := ← intersection a.port b.port
      bridgeSettings := ← intersection a.bridgeSettings b.bridgeSettings }

structure RelayQuery where
  location : Constraint LocationConstraint
  providers : Constraint Providers
  ownership : Constraint Ownership
  tunnelProtocol : TunnelType
  wireguardConstraints : WireguardRelayQuery
  openvpnConstraints : OpenVpnRelayQuery

inductive WireguardConfig where
  | singlehop (exit : Relay)
  | multihop (exit entry : Relay)

inductive DetailerError where
  | noOpenVpnEndpoint
  | noBridgeEndpoint
  | missingPublicKey
  | noIPv6 (relay : Relay)
  | portSelectionError

inductive EndpointErrorDetails where
  | wireguard (config : WireguardConfig)
  | openVpn (relay : Relay)

inductive HelperError where
  | noMatchingPort

/-- The errors of relay selection. Errors of reading and writing the relay cache are left out. -/
inductive Error where
  | invalidConstraints
  | noRelay (query : RelayQuery)
  | noBridge
  | noObfuscator (error : HelperError)
  | noEndpoint (internal : DetailerError) (relay : EndpointErrorDetails)
  | ipVersionUnavailable (family : IpVersion)

namespace RelayQuery

def intersect (a b : RelayQuery) : Option RelayQuery := do
  return {
    location := ← intersection a.location b.location
    providers := ← intersection a.providers b.providers
    ownership := ← intersection a.ownership b.ownership
    tunnelProtocol := ← intersection a.tunnelProtocol b.tunnelProtocol
    wireguardConstraints := ← intersection a.wireguardConstraints b.wireguardConstraints
    openvpnConstraints := ← intersection a.openvpnConstraints b.openvpnConstraints }

instance : Intersection RelayQuery where
  intersection := intersect

variable (query : RelayQuery)

def corePrivacyFeatureEnabled : Bool :=
  query.wireguardConstraints.daita == .only true || query.wireguardConstraints.multihop ||
    query.wireguardConstraints.quantumResistant == .on

/-- A core privacy feature needs WireGuard. -/
def validate : Except Error RelayQuery :=
  if query.corePrivacyFeatureEnabled then
    if query.tunnelProtocol = .openVpn then .error .invalidConstraints
    else .ok { query with tunnelProtocol := .wireguard }
  else .ok query

/-- Setters change a copy of the query and keep it only if it is valid. -/
def setIfValid (set : RelayQuery → RelayQuery) : Except Error RelayQuery :=
  (set query).validate

def setLocation (location : Constraint LocationConstraint) : Except Error RelayQuery :=
  query.setIfValid fun query => { query with location }

def setWireguardConstraints (wireguardConstraints : WireguardRelayQuery) :
    Except Error RelayQuery :=
  query.setIfValid fun query => { query with wireguardConstraints }

def usingDaita : Bool :=
  query.wireguardConstraints.daita.isOnlyAnd id

/-- The default, `any`, counts as enabled. -/
def useMultihopIfNecessary : Bool :=
  (intersection query.wireguardConstraints.daitaUseMultihopIfNecessary (.only true)).isSome

def singlehop : Bool :=
  !query.wireguardConstraints.multihop

/-- Validation changes nothing in a query that it accepts: the only field it sets already has the
value it is set to. -/
theorem eq_of_validate {query result : RelayQuery} (h : query.validate = .ok result) : result = query := by
  unfold validate at h
  split_ifs at h with hcore hopenVpn
  · cases h
    cases hprotocol : query.tunnelProtocol with
    | openVpn => exact absurd hprotocol hopenVpn
    | wireguard => rw [← hprotocol]
  · cases h
    rfl

theorem tunnelProtocol_of_validate {query result : RelayQuery} (h : query.validate = .ok result)
    (hcore : query.corePrivacyFeatureEnabled = true) : result.tunnelProtocol = .wireguard := by
  unfold validate at h
  rw [if_pos hcore] at h
  split_ifs at h
  cases h
  rfl

/-- Whatever relay and endpoint the first query accepts as a tunnel, the second accepts too. -/
structure Honours (query user : RelayQuery) : Prop where
  location : Refines query.location user.location
  providers : Refines query.providers user.providers
  ownership : Refines query.ownership user.ownership
  tunnelProtocol : Refines query.tunnelProtocol user.tunnelProtocol
  wireguard : Refines query.wireguardConstraints user.wireguardConstraints

theorem Honours.refl : Honours query query :=
  ⟨LawfulIntersection.refl _, LawfulIntersection.refl _, LawfulIntersection.refl _,
    LawfulIntersection.refl _, LawfulIntersection.refl _⟩

theorem Honours.trans {a b c} (hab : Honours a b) (hbc : Honours b c) : Honours a c where
  location := LawfulIntersection.trans hab.location hbc.location
  providers := LawfulIntersection.trans hab.providers hbc.providers
  ownership := LawfulIntersection.trans hab.ownership hbc.ownership
  tunnelProtocol := LawfulIntersection.trans hab.tunnelProtocol hbc.tunnelProtocol
  wireguard := LawfulIntersection.trans hab.wireguard hbc.wireguard

theorem honours_of_intersect {query user merged}
    (h : intersect query user = some merged) : Honours merged user := by
  simp only [intersect, Option.bind_eq_bind, Option.bind_eq_some_iff] at h
  obtain ⟨_, h1, _, h2, _, h3, _, h4, _, h5, _, _, ⟨⟩⟩ := h
  exact ⟨refines_right h1, refines_right h2, refines_right h3, refines_right h4, refines_right h5⟩

end RelayQuery

end MullvadVpn.Relays
