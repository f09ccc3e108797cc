import MullvadVpn.Relays.UserQuery

/-!
Whether the order matters in which relay queries are merged. The documentation of `Intersection` asks
its implementations to be idempotent, commutative and associative. All fields of a query but one are
merged that way. The obfuscation is not: two requests for QUIC or for LWO clash, and a request for no
obfuscation hides any clash of the others.
-/

namespace MullvadVpn.Relays

open Net Systems Intersection RelayQueryBuilder SemilatticeIntersection Option

instance {α : Type} [Intersection α] [SemilatticeIntersection α] :
    SemilatticeIntersection (Constraint α) where
  comm a b := by
    cases a <;> cases b <;> simp [SemilatticeIntersection.comm]
  idem a := by
    cases a <;> simp [idem]
  assoc a b c := by
    cases a with
    | any => simp [leftFirst, rightFirst]
    | only x =>
      cases b with
      | any => simp [leftFirst, rightFirst]
      | only y =>
        cases c with
        | any => simp [leftFirst, rightFirst]
        | only z => exact assoc_of_map Constraint.intersection_only (assoc x y z)

def Udp2TcpObfuscationSettings.parts : Udp2TcpObfuscationSettings ≃ Constraint (BitVec 16) where
  toFun settings := settings.port
  invFun := .mk
  left_inv _ := rfl
  right_inv _ := rfl

def ShadowsocksSettings.parts : ShadowsocksSettings ≃ Constraint (BitVec 16) where
  toFun settings := settings.port
  invFun := .mk
  left_inv _ := rfl
  right_inv _ := rfl

instance : SemilatticeIntersection Udp2TcpObfuscationSettings :=
  (show Partwise Udp2TcpObfuscationSettings.parts from fun _ _ => rfl).semilattice

instance : SemilatticeIntersection ShadowsocksSettings :=
  (show Partwise ShadowsocksSettings.parts from fun _ _ => rfl).semilattice

instance : SemilatticeIntersection QuantumResistantState where
  comm a b := by cases a <;> cases b <;> rfl
  idem a := by cases a <;> rfl
  assoc a b c := by cases a <;> cases b <;> cases c <;> rfl

def TransportPort.parts : TransportPort ≃ TransportProtocol × Constraint (BitVec 16) where
  toFun port := (port.protocol, port.port)
  invFun parts := ⟨parts.1, parts.2⟩
  left_inv _ := rfl
  right_inv _ := rfl

theorem TransportPort.partwise : Partwise parts := by
  intro a b
  rw [intersection_prod]
  change (intersection a.protocol b.protocol).bind _ = Option.map _ (map₂ _
    (intersection a.protocol b.protocol) (intersection a.port b.port))
  cases intersection a.protocol b.protocol <;> cases intersection a.port b.port <;> rfl

instance : SemilatticeIntersection TransportPort :=
  TransportPort.partwise.semilattice

def BridgeConstraints.parts :
    BridgeConstraints ≃ Constraint LocationConstraint × Constraint Providers × Constraint Ownership where
  toFun constraints := (constraints.location, constraints.providers, constraints.ownership)
  invFun parts := ⟨parts.1, parts.2.1, parts.2.2⟩
  left_inv _ := rfl
  right_inv _ := rfl

theorem BridgeConstraints.partwise : Partwise parts := by
  intro a b
  rw [intersection_prod, intersection_prod]
  change (intersection a.location b.location).bind _ = Option.map _ (map₂ _
    (intersection a.location b.location) (map₂ _
      (intersection a.providers b.providers) (intersection a.ownership b.ownership)))
  cases intersection a.location b.location with
  | none => rfl
  | some location =>
    change (intersection a.providers b.providers).bind _ = _
    cases intersection a.providers b.providers <;> cases intersection a.ownership b.ownership <;> rfl

instance : SemilatticeIntersection BridgeConstraints :=
  BridgeConstraints.partwise.semilattice

instance : PartialEqIntersection Unit where

instance : PartialEqIntersection (Option CustomProxy) where

/-- Apart from `auto`, which leaves the choice, there are three kinds of bridge queries. -/
def BridgeQuery.parts : BridgeQuery ≃ Constraint (Unit ⊕ BridgeConstraints ⊕ Option CustomProxy) where
  toFun
    | .auto => .any
    | .off => .only (.inl ())
    | .normal constraints => .only (.inr (.inl constraints))
    | .custom proxy => .only (.inr (.inr proxy))
  invFun
    | .any => .auto
    | .only (.inl ()) => .off
    | .only (.inr (.inl constraints)) => .normal constraints
    | .only (.inr (.inr proxy)) => .custom proxy
  left_inv query := by cases query <;> rfl
  right_inv parts := by
    rcases parts with _ | _ | _ | _ <;> rfl

theorem BridgeQuery.partwise : Partwise parts := by
  intro a b
  cases a <;> cases b
  case normal.normal a b =>
    change (intersection a b).map _ = Option.map _ (Option.map _ (Option.map _ (Option.map _ (intersection a b))))
    cases intersection a b <;> rfl
  case custom.custom a b =>
    by_cases hab : a = b <;> simp [intersection, parts, hab]
  all_goals rfl

instance : SemilatticeIntersection BridgeQuery :=
  BridgeQuery.partwise.semilattice

def OpenVpnRelayQuery.parts : OpenVpnRelayQuery ≃ Constraint TransportPort × BridgeQuery where
  toFun query := (query.port, query.bridgeSettings)
  invFun parts := ⟨parts.1, parts.2⟩
  left_inv _ := rfl
  right_inv _ := rfl

theorem OpenVpnRelayQuery.partwise : Partwise parts := by
  intro a b
  rw [intersection_prod]
  change (intersection a.port b.port).bind _ = Option.map _ (map₂ _
    (intersection a.port b.port) (intersection a.bridgeSettings b.bridgeSettings))
  cases intersection a.port b.port <;> cases intersection a.bridgeSettings b.bridgeSettings <;> rfl

instance : SemilatticeIntersection OpenVpnRelayQuery :=
  OpenVpnRelayQuery.partwise.semilattice

namespace ObfuscationQuery

variable (a b : ObfuscationQuery) (settings : Udp2TcpObfuscationSettings) (query c : ObfuscationQuery)

@[simp]
theorem off_intersection : intersection off query = some off := rfl

@[simp]
theorem intersection_off : intersection query off = some off := by
  cases query <;> rfl

@[simp]
theorem intersection_udp2tcp (a b : Udp2TcpObfuscationSettings) :
    intersection (udp2tcp a) (udp2tcp b) = (intersection a b).map udp2tcp :=
  rfl

@[simp]
theorem intersection_shadowsocks (a b : ShadowsocksSettings) :
    intersection (shadowsocks a) (shadowsocks b) = (intersection a b).map shadowsocks :=
  rfl

theorem udp2tcp_clash {b} (hoff : b ≠ off)
    (hauto : b ≠ auto) (hkind : ∀ other, b ≠ udp2tcp other) : intersection (udp2tcp settings) b = none := by
  cases b with
  | off => exact absurd rfl hoff
  | auto => exact absurd rfl hauto
  | udp2tcp other => exact absurd rfl (hkind other)
  | _ => rfl

theorem shadowsocks_clash (settings : ShadowsocksSettings) {b} (hoff : b ≠ off)
    (hauto : b ≠ auto) (hkind : ∀ other, b ≠ shadowsocks other) :
    intersection (shadowsocks settings) b = none := by
  cases b with
  | off => exact absurd rfl hoff
  | auto => exact absurd rfl hauto
  | shadowsocks other => exact absurd rfl (hkind other)
  | _ => rfl

theorem intersection_comm : intersection a b = intersection b a := by
  cases a with
  | off | auto => simp
  | udp2tcp a =>
    cases b with
    | udp2tcp b => rw [intersection_udp2tcp, intersection_udp2tcp, SemilatticeIntersection.comm]
    | _ => rfl
  | shadowsocks a =>
    cases b with
    | shadowsocks b =>
      rw [intersection_shadowsocks, intersection_shadowsocks, SemilatticeIntersection.comm]
    | _ => rfl
  | quic | lwo => cases b <;> rfl

theorem clash_udp2tcp {a} (hoff : a ≠ off)
    (hauto : a ≠ auto) (hkind : ∀ other, a ≠ udp2tcp other) : intersection a (udp2tcp settings) = none := by
  rw [intersection_comm, udp2tcp_clash settings hoff hauto hkind]

theorem clash_shadowsocks (settings : ShadowsocksSettings) {a} (hoff : a ≠ off)
    (hauto : a ≠ auto) (hkind : ∀ other, a ≠ shadowsocks other) :
    intersection a (shadowsocks settings) = none := by
  rw [intersection_comm, shadowsocks_clash settings hoff hauto hkind]

theorem intersection_self_iff : intersection a a = some a ↔ a ≠ quic ∧ a ≠ lwo := by
  cases a <;> simp [idem]

/-- One of the outer queries asks for no obfuscation and the other two clash: what is merged with `off`
first does not clash any more. -/
def OffHidesClash : Prop :=
  (c = off ∧ intersection a b = none) ∨ (a = off ∧ intersection b c = none)

theorem assoc_iff : leftFirst a b c = rightFirst a b c ↔ ¬OffHidesClash a b c := by
  by_cases ha : a = off
  · subst ha
    cases hbc : intersection b c <;> simp [leftFirst, rightFirst, OffHidesClash, hbc]
  by_cases hc : c = off
  · subst hc
    cases hab : intersection a b <;> simp [leftFirst, rightFirst, OffHidesClash, hab, ha]
  have hhides : ¬OffHidesClash a b c := by simp [OffHidesClash, ha, hc]
  simp only [hhides, not_false_eq_true, iff_true]
  -- Without `off` at an end, `b` decides what can be merged at all.
  cases b with
  | off | auto => simp [leftFirst, rightFirst]
  | udp2tcp y =>
    cases a <;> cases c
    case udp2tcp.udp2tcp x z =>
      exact assoc_of_map intersection_udp2tcp (SemilatticeIntersection.assoc x y z)
    all_goals simp_all [leftFirst, rightFirst, udp2tcp_clash, clash_udp2tcp, Option.bind_map]
  | shadowsocks y =>
    cases a <;> cases c
    case shadowsocks.shadowsocks x z =>
      exact assoc_of_map intersection_shadowsocks (SemilatticeIntersection.assoc x y z)
    all_goals simp_all [leftFirst, rightFirst, shadowsocks_clash, clash_shadowsocks, Option.bind_map]
  | quic | lwo => cases a <;> cases c <;> simp_all [leftFirst, rightFirst] <;> rfl

end ObfuscationQuery

/-- What a WireGuard query asks for besides the obfuscation. -/
abbrev WireguardRelayQuery.Rest : Type :=
  Constraint (BitVec 16) × Constraint IpVersion × Constraint AllowedIps × Constraint Bool ×
    Constraint LocationConstraint × Constraint Bool × Constraint Bool × QuantumResistantState

def WireguardRelayQuery.parts : WireguardRelayQuery ≃ Rest × ObfuscationQuery where
  toFun query :=
    ((query.port, query.ipVersion, query.allowedIps, query.useMultihop, query.entryLocation,
      query.daita, query.daitaUseMultihopIfNecessary, query.quantumResistant), query.obfuscation)
  invFun := fun ((port, ipVersion, allowedIps, useMultihop, entryLocation, daita,
      daitaUseMultihopIfNecessary, quantumResistant), obfuscation) =>
    { port, ipVersion, allowedIps, useMultihop, entryLocation, obfuscation, daita,
      daitaUseMultihopIfNecessary, quantumResistant }
  left_inv _ := rfl
  right_inv _ := rfl

theorem WireguardRelayQuery.partwise : Partwise parts := by
  intro a b
  change a.intersect b = _
  simp only [intersect, intersection_prod, parts, Equiv.coe_fn_mk]
  cases intersection a.port b.port with
  | none => rfl
  | some _ =>
  cases intersection a.ipVersion b.ipVersion with
  | none => rfl
  | some _ =>
  cases intersection a.allowedIps b.allowedIps with
  | none => rfl
  | some _ =>
  cases intersection a.useMultihop b.useMultihop with
  | none => rfl
  | some _ =>
  cases intersection a.entryLocation b.entryLocation with
  | none => rfl
  | some _ =>
  cases intersection a.obfuscation b.obfuscation with
  | none => simp
  | some _ =>
  cases intersection a.daita b.daita with
  | none => rfl
  | some _ =>
  cases intersection a.daitaUseMultihopIfNecessary b.daitaUseMultihopIfNecessary with
  | none => rfl
  | some _ => cases intersection a.quantumResistant b.quantumResistant <;> rfl

namespace RelayQuery

/-- What a query asks for besides the obfuscation. -/
abbrev Rest : Type :=
  Constraint LocationConstraint × Constraint Providers × Constraint Ownership × TunnelType ×
    OpenVpnRelayQuery × WireguardRelayQuery.Rest

def parts : RelayQuery ≃ Rest × ObfuscationQuery where
  toFun query :=
    ((query.location, query.providers, query.ownership, query.tunnelProtocol, query.openvpnConstraints,
      query.wireguardConstraints.parts.1), query.wireguardConstraints.obfuscation)
  invFun := fun ((location, providers, ownership, tunnelProtocol, openvpnConstraints, wireguard),
      obfuscation) =>
    { location, providers, ownership, tunnelProtocol, openvpnConstraints
      wireguardConstraints := WireguardRelayQuery.parts.symm (wireguard, obfuscation) }
  left_inv _ := rfl
  right_inv _ := rfl

theorem partwise : Partwise parts := by
  intro a b
  change a.intersect b = Option.map _ (Option.map₂ _ (Option.map₂ _
    (intersection a.location b.location) (Option.map₂ _ (intersection a.providers b.providers) (Option.map₂ _
        (intersection a.ownership b.ownership) (Option.map₂ _
          (intersection a.tunnelProtocol b.tunnelProtocol) (Option.map₂ _
            (intersection a.openvpnConstraints b.openvpnConstraints)
            (intersection a.wireguardConstraints.parts.1 b.wireguardConstraints.parts.1))))))
    (intersection a.wireguardConstraints.parts.2 b.wireguardConstraints.parts.2))
  rw [intersect, WireguardRelayQuery.partwise, intersection_prod]
  cases intersection a.location b.location with
  | none => rfl
  | some _ =>
  cases intersection a.providers b.providers with
  | none => rfl
  | some _ =>
  cases intersection a.ownership b.ownership with
  | none => rfl
  | some _ =>
  cases intersection a.tunnelProtocol b.tunnelProtocol with
  | none => rfl
  | some _ =>
  cases intersection a.openvpnConstraints b.openvpnConstraints with
  | none => simp
  | some _ =>
  cases intersection a.wireguardConstraints.parts.1 b.wireguardConstraints.parts.1 with
  | none => rfl
  | some _ => cases intersection a.wireguardConstraints.parts.2 b.wireguardConstraints.parts.2 <;> rfl

/-- The query that asks for nothing (`RelayQuery::default`). -/
def default : RelayQuery :=
  { location := .any
    providers := .any
    ownership := .any
    tunnelProtocol := .wireguard
    wireguardConstraints := .new
    openvpnConstraints := .new }

def ofTunnelType (tunnelProtocol : TunnelType) : RelayQuery :=
  { default with tunnelProtocol }

theorem ofTunnelType_intersect (query : RelayQuery) :
    (ofTunnelType query.tunnelProtocol).intersect query = some query := by
  have hwireguard : intersection .new query.wireguardConstraints = some query.wireguardConstraints := by
    change WireguardRelayQuery.intersect _ _ = _
    simp [WireguardRelayQuery.intersect, WireguardRelayQuery.new]
  have hopenvpn : intersection .new query.openvpnConstraints = some query.openvpnConstraints := by
    rw [OpenVpnRelayQuery.partwise.eq_some_iff, intersection_prod]
    simp [OpenVpnRelayQuery.new, OpenVpnRelayQuery.parts]
  simp [intersect, ofTunnelType, default, hwireguard, hopenvpn, SemilatticeIntersection.idem]

variable (a b : RelayQuery)

theorem intersection_comm : intersection a b = intersection b a :=
  partwise.comm_of (comm_prod (comm _ _) (ObfuscationQuery.intersection_comm _ _))

theorem intersection_self_iff : intersection a a = some a ↔
      a.wireguardConstraints.obfuscation ≠ .quic ∧ a.wireguardConstraints.obfuscation ≠ .lwo := by
  rw [partwise.eq_some_iff, idem_prod, and_iff_right (SemilatticeIntersection.idem _)]
  exact ObfuscationQuery.intersection_self_iff _

theorem leftFirst_rest_eq_none_iff (c : RelayQuery) :
    leftFirst (parts a).1 (parts b).1 (parts c).1 = none ↔
      leftFirst (obfuscation a .auto) (obfuscation b .auto) (obfuscation c .auto) = none := by
  have hauto (query : RelayQuery) : parts (obfuscation query .auto) = ((parts query).1, .auto) := rfl
  rw [partwise.leftFirst_eq, Option.map_eq_none_iff, hauto, hauto, hauto]
  conv_rhs => rw [leftFirst_prod, Option.map₂_eq_none_iff]
  exact (or_iff_left (Option.some_ne_none ObfuscationQuery.auto)).symm

/-- Merging depends on the order exactly if `off` hides a clash of obfuscations that nothing else in the
queries makes up for. -/
theorem assoc_iff (c : RelayQuery) : leftFirst a b c = rightFirst a b c ↔
      (ObfuscationQuery.OffHidesClash a.wireguardConstraints.obfuscation
          b.wireguardConstraints.obfuscation c.wireguardConstraints.obfuscation →
        leftFirst (obfuscation a .auto) (obfuscation b .auto) (obfuscation c .auto) = none) := by
  rw [partwise.assoc_iff, assoc_prod_iff, leftFirst_rest_eq_none_iff, ObfuscationQuery.assoc_iff, or_comm]
  exact imp_iff_not_or.symm

/-- The laws of a semilattice at three queries, an intersection that does not exist being its least
element. -/
structure MergeLaws (a b c : RelayQuery) : Prop where
  comm : a.intersect b = b.intersect a
  idem : a.intersect a = some a
  assoc : leftFirst a b c = rightFirst a b c
  default_left : (ofTunnelType a.tunnelProtocol).intersect a = some a
  default_right : a.intersect (ofTunnelType a.tunnelProtocol) = some a

theorem mergeLaws_iff (a b c : RelayQuery) :
    MergeLaws a b c ↔ (a.wireguardConstraints.obfuscation ≠ .quic ∧ a.wireguardConstraints.obfuscation ≠ .lwo) ∧
        (ObfuscationQuery.OffHidesClash a.wireguardConstraints.obfuscation
            b.wireguardConstraints.obfuscation c.wireguardConstraints.obfuscation →
          leftFirst (obfuscation a .auto) (obfuscation b .auto) (obfuscation c .auto) = none) := by
  constructor
  · intro h
    exact ⟨(intersection_self_iff a).mp h.idem, (assoc_iff a b c).mp h.assoc⟩
  · rintro ⟨hidem, hassoc⟩
    have hdefault := ofTunnelType_intersect a
    exact
      { comm := intersection_comm a b
        idem := (intersection_self_iff a).mpr hidem
        assoc := (assoc_iff a b c).mpr hassoc
        default_left := hdefault
        default_right := (intersection_comm _ _).trans hdefault }

/-- The query for QUIC clashes with itself, unless the second copy is merged with `off` first. -/
theorem quic_breaks_mergeLaws :
    (quic default).intersect (quic default) = none ∧ leftFirst (quic default) (quic default)
        (obfuscation default .off) = none ∧
      rightFirst (quic default) (quic default) (obfuscation default .off) = some (obfuscation default .off) :=
  ⟨rfl, rfl, rfl⟩

end RelayQuery

end MullvadVpn.Relays
