import MullvadVpn.Relays.QueryLaws
import MullvadVpn.Relays.Selector

/-!
Valid queries (`relay_selector/query.rs`). A query that requires a core privacy feature is valid only
with WireGuard. Merging checks nothing, but a feature that the merged query requires is required by one
of the two queries, and both have the tunnel protocol of the result; so all queries that can be
obtained are valid. A valid query can be turned into settings and back, unless it asks for a custom
bridge: the settings for one have the type of normal bridges.
-/

namespace MullvadVpn.Relays

open Net Systems Intersection LawfulIntersection ObfuscationSettings

variable {query : RelayQuery}

namespace RelayQuery

/-- The query requires DAITA, multihop or quantum resistance. -/
def RequiresPrivacyFeature (query : RelayQuery) : Prop :=
  query.wireguardConstraints.daita = .only true ∨ query.wireguardConstraints.useMultihop = .only true ∨
      query.wireguardConstraints.quantumResistant = .on

def Valid (query : RelayQuery) : Prop :=
  query.RequiresPrivacyFeature → query.tunnelProtocol = .wireguard

theorem corePrivacyFeatureEnabled_iff (query : RelayQuery) :
    query.corePrivacyFeatureEnabled = true ↔ query.RequiresPrivacyFeature := by
  simp [corePrivacyFeatureEnabled, RequiresPrivacyFeature, WireguardRelayQuery.multihop, or_assoc]

theorem valid_of_validate {result} (h : query.validate = .ok result) : result.Valid := by
  intro hfeature
  apply tunnelProtocol_of_validate h
  rw [corePrivacyFeatureEnabled_iff]
  rwa [eq_of_validate h] at hfeature

theorem validate_of_valid (hvalid : query.Valid) : query.validate = .ok query := by
  unfold validate
  split_ifs with hfeature hopenVpn
  · have hwireguard := hvalid (query.corePrivacyFeatureEnabled_iff.mp hfeature)
    rw [hopenVpn] at hwireguard
    cases hwireguard
  · rw [← hvalid (query.corePrivacyFeatureEnabled_iff.mp hfeature)]
  · rfl

theorem eq_only_true_of_intersection {a b : Constraint Bool}
    (h : intersection a b = some (.only true)) : a = .only true ∨ b = .only true := by
  cases a with
  | any =>
    rw [Constraint.any_intersection] at h
    exact .inr (Option.some.inj h)
  | only value =>
    have hvalue := Constraint.eq_only_of_refines (refines_left h)
    exact .inl hvalue.symm

theorem eq_on_of_intersection {a b : QuantumResistantState}
    (h : intersection a b = some .on) : a = .on ∨ b = .on := by
  cases a <;> cases b <;> cases h <;> decide

theorem requires_of_intersect {a b c}
    (h : WireguardRelayQuery.intersect a b = some c) :
    (c.daita = .only true → a.daita = .only true ∨ b.daita = .only true) ∧
      (c.useMultihop = .only true → a.useMultihop = .only true ∨ b.useMultihop = .only true) ∧
        (c.quantumResistant = .on → a.quantumResistant = .on ∨ b.quantumResistant = .on) := by
  simp only [WireguardRelayQuery.intersect, Option.bind_eq_bind, Option.bind_eq_some_iff] at h
  obtain ⟨_, _, _, _, _, _, multihop, hmultihop, _, _, _, _, daita, hdaita, _, _, state, hstate, ⟨⟩⟩ := h
  refine ⟨?_, ?_, ?_⟩
  · rintro rfl
    exact eq_only_true_of_intersection hdaita
  · rintro rfl
    exact eq_only_true_of_intersection hmultihop
  · rintro rfl
    exact eq_on_of_intersection hstate

theorem valid_of_intersection {a b c : RelayQuery} (ha : a.Valid) (hb : b.Valid)
    (h : intersection a b = some c) : c.Valid := by
  change intersect a b = some c at h
  simp only [intersect, Option.bind_eq_bind, Option.bind_eq_some_iff] at h
  obtain ⟨_, _, _, _, _, _, protocol, hprotocol, wireguard, hwireguard, _, _, ⟨⟩⟩ := h
  have hleft : protocol = a.tunnelProtocol := refines_left hprotocol
  have hright : protocol = b.tunnelProtocol := refines_right hprotocol
  obtain ⟨hdaita, hmultihop, hquantum⟩ := requires_of_intersect hwireguard
  -- Whichever query requires the feature, it has the tunnel protocol of the result.
  have hboth : a.RequiresPrivacyFeature ∨ b.RequiresPrivacyFeature → protocol = .wireguard := by
    rintro (hfeature | hfeature)
    · rw [hleft, ha hfeature]
    · rw [hright, hb hfeature]
  rintro (hfeature | hfeature | hfeature)
  · exact hboth ((hdaita hfeature).imp .inl .inl)
  · exact hboth ((hmultihop hfeature).imp (.inr ∘ .inl) (.inr ∘ .inl))
  · exact hboth ((hquantum hfeature).imp (.inr ∘ .inr) (.inr ∘ .inr))

def new (location : Constraint LocationConstraint) (providers : Constraint Providers)
    (ownership : Constraint Ownership) (tunnelProtocol : TunnelType)
    (wireguardConstraints : WireguardRelayQuery) (openvpnConstraints : OpenVpnRelayQuery) :
    Except Error RelayQuery :=
  validate {
    location, providers, ownership, tunnelProtocol, wireguardConstraints, openvpnConstraints }

namespace InPlace

/-- Setters as the source has them, with the query as a state that survives an error. -/
abbrev Setter := ExceptT Error (StateM RelayQuery) Unit

def setIfValid (setFn : RelayQuery → RelayQuery) : Setter := do
  let query ← get
  let new ← ExceptT.mk (pure (setFn query).validate)
  set new

def setLocation (location : Constraint LocationConstraint) : Setter :=
  setIfValid fun query => { query with location }

def setTunnelProtocol (tunnelProtocol : TunnelType) : Setter :=
  setIfValid fun query => { query with tunnelProtocol }

def setOpenvpnConstraints (openvpnConstraints : OpenVpnRelayQuery) : Setter :=
  setIfValid fun query => { query with openvpnConstraints }

def setWireguardConstraints (wireguardConstraints : WireguardRelayQuery) : Setter :=
  setIfValid fun query => { query with wireguardConstraints }

/-- A setter either changes the query to what the setter on values returns, or fails like it and
leaves the query as it is. -/
theorem run_setIfValid (setFn : RelayQuery → RelayQuery) (query : RelayQuery) :
    StateT.run (ExceptT.run (setIfValid setFn)) query = match query.setIfValid setFn with
      | .ok new => (.ok (), new)
      | .error error => (.error error, query) := by
  have hread : StateT.run (ExceptT.run (setIfValid setFn)) query =
      StateT.run (ExceptT.run ((ExceptT.mk (pure (setFn query).validate) :
        ExceptT Error (StateM RelayQuery) RelayQuery) >>= set)) query := rfl
  rw [hread, RelayQuery.setIfValid]
  cases (setFn query).validate <;> rfl

inductive IsSetter : Setter → Prop
  | location (location : Constraint LocationConstraint) : IsSetter (setLocation location)
  | tunnelProtocol (tunnelProtocol : TunnelType) : IsSetter (setTunnelProtocol tunnelProtocol)
  | openvpnConstraints (constraints : OpenVpnRelayQuery) : IsSetter (setOpenvpnConstraints constraints)
  | wireguardConstraints (constraints : WireguardRelayQuery) : IsSetter (setWireguardConstraints constraints)

theorem IsSetter.exists_eq {setter} (h : IsSetter setter) : ∃ setFn, setter = setIfValid setFn := by
  cases h <;> exact ⟨_, rfl⟩

end InPlace

/-- The queries that can be built. A query that a failed setter leaves behind is one of them. -/
inductive Obtained : RelayQuery → Prop
  | new {location providers ownership tunnelProtocol wireguardConstraints openvpnConstraints query}
      (h : new location providers ownership tunnelProtocol wireguardConstraints
        openvpnConstraints = .ok query) : Obtained query
  | default : Obtained .default
  | setter {query : RelayQuery} {setter : InPlace.Setter} (hsetter : InPlace.IsSetter setter)
      (hquery : Obtained query) : Obtained (StateT.run (ExceptT.run setter) query).2
  | ofSettings {config : NormalSelectorConfig} {query : RelayQuery} (h : config.toQuery = .ok query) :
      Obtained query
  | intersection {a b query : RelayQuery} (ha : Obtained a) (hb : Obtained b)
      (h : intersection a b = some query) : Obtained query

theorem valid_default : default.Valid := fun _ => rfl

theorem valid_of_obtained (h : Obtained query) : query.Valid := by
  induction h with
  | new h | ofSettings h => exact valid_of_validate h
  | default => exact valid_default
  | @setter query setter hsetter hquery ih =>
    obtain ⟨setFn, rfl⟩ := hsetter.exists_eq
    rw [InPlace.run_setIfValid]
    split
    next new hnew => exact valid_of_validate hnew
    next => exact ih
  | intersection ha hb h iha ihb => exact valid_of_intersection iha ihb h

/-- Whatever query is obtained, core privacy features are only looked for among WireGuard relays, and
a setter that fails changes nothing. -/
theorem validity_closed {δ : Type} [LinearOrder δ] (platform : Platform δ)
    (customLists : List CustomList) (list : RelayList) :
    (∀ query, Obtained query → query.RequiresPrivacyFeature → query.tunnelProtocol = .wireguard ∧
      getRelayInner platform query customLists list = getWireguardRelayInner platform query customLists list) ∧
      ∀ setter, InPlace.IsSetter setter → ∀ query error, (StateT.run (ExceptT.run setter) query).1 = .error error →
          (StateT.run (ExceptT.run setter) query).2 = query := by
  refine ⟨fun query hquery hfeature => ?_, fun setter hsetter query error herror => ?_⟩
  · have hwireguard := valid_of_obtained hquery hfeature
    refine ⟨hwireguard, ?_⟩
    simp only [getRelayInner, hwireguard]
  · obtain ⟨setFn, rfl⟩ := hsetter.exists_eq
    rw [InPlace.run_setIfValid] at herror ⊢
    cases hset : query.setIfValid setFn with
    | ok new =>
      rw [hset] at herror
      cases herror
    | error error => rfl

/-- A query with DAITA is obtained by a setter, and does not become an OpenVPN query by one. -/
theorem validity_closed_daita : let daita : RelayQuery :=
      { default with wireguardConstraints := { WireguardRelayQuery.new with daita := .only true } }
    let platform : Platform Nat := ⟨fun _ _ => 0, id, fun _ _ => 0, false⟩
    let list : RelayList := ⟨[], ⟨[]⟩, ⟨[]⟩, ⟨[], 0, 0, [], []⟩⟩
    getRelayInner platform daita [] list = getWireguardRelayInner platform daita [] list ∧
      StateT.run (ExceptT.run (InPlace.setTunnelProtocol .openVpn)) daita = (.error .invalidConstraints, daita) := by
  intro daita platform list
  have hset : Obtained daita :=
    .setter (.wireguardConstraints { WireguardRelayQuery.new with daita := .only true }) .default
  obtain ⟨hwireguard, hunchanged⟩ := validity_closed platform [] list
  refine ⟨(hwireguard daita hset (.inl rfl)).2, Prod.ext rfl ?_⟩
  exact hunchanged _ (.tunnelProtocol .openVpn) daita .invalidConstraints rfl

end RelayQuery

def Udp2TcpObfuscationSettings.default : Udp2TcpObfuscationSettings := ⟨.any⟩

def ShadowsocksSettings.default : ShadowsocksSettings := ⟨.any⟩

def ObfuscationSettings.default : ObfuscationSettings :=
  { selectedObfuscation := .auto, udp2tcp := .default, shadowsocks := .default }

def BridgeConstraints.default : BridgeConstraints :=
  { location := .any, providers := .any, ownership := .any }

def BridgeSettings.default : BridgeSettings :=
  { bridgeType := .normal, normal := .default, custom := none }

def ObfuscationQuery.intoSettings : ObfuscationQuery → ObfuscationSettings
  | auto => { default with selectedObfuscation := .auto }
  | off => { default with selectedObfuscation := .off }
  | udp2tcp settings =>
    { default with selectedObfuscation := .udp2Tcp, udp2tcp := settings }
  | shadowsocks settings =>
    { default with selectedObfuscation := .shadowsocks, shadowsocks := settings }
  | quic => { default with selectedObfuscation := .quic }
  | lwo => { default with selectedObfuscation := .lwo }

@[simp]
theorem ObfuscationQuery.ofSettings_intoSettings (query : ObfuscationQuery) :
    ofSettings query.intoSettings = query := by
  cases query <;> rfl

def BridgeQuery.intoSettings : BridgeQuery → BridgeState × BridgeSettings
  | off => (.off, .default)
  | auto => (.auto, .default)
  | normal constraints => (.on, { bridgeType := .normal, normal := constraints, custom := none })
  | custom proxy => (.on, { bridgeType := .normal, normal := .default, custom := proxy })

/-- The value of a constraint on a switch, which is off by default (`unwrap_or(false)`). -/
def Constraint.orFalse : Constraint Bool → Bool
  | any => false
  | only value => value

def WireguardRelayQuery.intoConstraints (query : WireguardRelayQuery) : WireguardConstraints :=
  { port := query.port
    ipVersion := query.ipVersion
    allowedIps := query.allowedIps
    useMultihop := query.useMultihop.orFalse
    entryLocation := query.entryLocation }

def OpenVpnRelayQuery.intoConstraints (query : OpenVpnRelayQuery) : OpenVpnConstraints :=
  { port := query.port }

namespace RelayQuery

def intoSettings (query : RelayQuery) :
    RelayConstraints × BridgeState × BridgeSettings × ObfuscationSettings :=
  let (bridgeState, bridgeSettings) := query.openvpnConstraints.bridgeSettings.intoSettings
  let obfuscation := query.wireguardConstraints.obfuscation.intoSettings
  let constraints : RelayConstraints :=
    { location := query.location
      providers := query.providers
      ownership := query.ownership
      tunnelProtocol := query.tunnelProtocol
      wireguardConstraints := query.wireguardConstraints.intoConstraints
      openvpnConstraints := query.openvpnConstraints.intoConstraints }
  (constraints, bridgeState, bridgeSettings, obfuscation)

/-- The configuration that consists of the settings of a query and what they leave out of it. -/
def selectorConfig (query : RelayQuery) (customLists : List CustomList) : NormalSelectorConfig :=
  let (userPreferences, bridgeState, bridgeSettings, obfuscationSettings) := query.intoSettings
  { userPreferences, bridgeState, bridgeSettings, obfuscationSettings, customLists
    additionalPreferences.wireguard :=
      { daita := query.wireguardConstraints.daita.orFalse
        daitaUseMultihopIfNecessary := query.wireguardConstraints.daitaUseMultihopIfNecessary.orFalse
        quantumResistant := query.wireguardConstraints.quantumResistant } }

/-- The query with every switch that it leaves open turned off. -/
def settled (query : RelayQuery) : RelayQuery :=
  { query with
    wireguardConstraints := { query.wireguardConstraints with
      useMultihop := .only query.wireguardConstraints.useMultihop.orFalse
      daita := .only query.wireguardConstraints.daita.orFalse
      daitaUseMultihopIfNecessary :=
        .only query.wireguardConstraints.daitaUseMultihopIfNecessary.orFalse } }

/-- The queries ask for the same, up to switches that one leaves open and the other turns off. -/
def Agrees (a b : RelayQuery) : Prop := a.settled = b.settled

theorem eq_only_true_of_orFalse {constraint : Constraint Bool}
    (h : Constraint.only constraint.orFalse = .only true) : constraint = .only true := by
  cases constraint with
  | any => cases h
  | only value => exact h

theorem valid_settled (hvalid : query.Valid) : query.settled.Valid := by
  intro hfeature
  apply hvalid
  exact hfeature.imp eq_only_true_of_orFalse (.imp_left eq_only_true_of_orFalse)

theorem constraints_selectorConfig (customLists : List CustomList)
    (hcustom : ∀ proxy, query.openvpnConstraints.bridgeSettings ≠ .custom proxy) :
    (query.selectorConfig customLists).constraints = query.settled := by
  have hobfuscation := ObfuscationQuery.ofSettings_intoSettings query.wireguardConstraints.obfuscation
  have hbridge : (query.selectorConfig customLists).openvpnConstraints = query.openvpnConstraints := by
    obtain ⟨_, _, _, _, _, port, bridgeSettings⟩ := query
    cases bridgeSettings with
    | custom proxy => exact absurd rfl (hcustom proxy)
    | _ => rfl
  simp only [NormalSelectorConfig.constraints, hbridge, settled]
  simp only [selectorConfig, intoSettings, NormalSelectorConfig.wireguardConstraints,
    WireguardRelayQuery.intoConstraints, hobfuscation]

/-- The query of the settings of a query agrees with it exactly if no custom bridge is asked for. -/
theorem settings_round_trip_iff (query : RelayQuery) (customLists : List CustomList)
    (hvalid : query.Valid) :
    (∃ result, (query.selectorConfig customLists).toQuery = .ok result ∧ result.Agrees query) ↔
      ∀ proxy, query.openvpnConstraints.bridgeSettings ≠ .custom proxy := by
  constructor
  · rintro ⟨result, hresult, hagrees⟩ proxy hcustom
    have hbridge : (query.selectorConfig customLists).constraints.openvpnConstraints.bridgeSettings =
        .normal .default := by
      simp only [NormalSelectorConfig.constraints, NormalSelectorConfig.openvpnConstraints, selectorConfig,
        intoSettings, hcustom, BridgeQuery.intoSettings]
    rw [← eq_of_validate hresult] at hbridge
    have hsame := congrArg (fun query => query.openvpnConstraints.bridgeSettings) hagrees
    change result.openvpnConstraints.bridgeSettings = query.openvpnConstraints.bridgeSettings at hsame
    rw [hbridge, hcustom] at hsame
    cases hsame
  · intro hcustom
    refine ⟨query.settled, ?_, rfl⟩
    rw [NormalSelectorConfig.toQuery, constraints_selectorConfig customLists hcustom]
    exact validate_of_valid (valid_settled hvalid)

/-- Multihop with DAITA over Shadowsocks, and a bridge in Sweden. -/
theorem settings_round_trip_multihop :
    let query := { default with
      wireguardConstraints := { default.wireguardConstraints with
        useMultihop := .only true, daita := .only true, obfuscation := .shadowsocks ⟨.only 443⟩ }
      openvpnConstraints := ⟨.any, .normal ⟨.only (.location (.country "se")), .any, .any⟩⟩ }
    ∃ result, (query.selectorConfig []).toQuery = .ok result ∧ result.Agrees query := by
  intro query
  have hvalid : query.Valid := fun _ => rfl
  refine (settings_round_trip_iff query [] hvalid).mpr fun proxy hcustom => ?_
  cases hcustom

/-- The settings of a query for a custom bridge stand for a query for a normal bridge. -/
theorem custom_bridge_lost :
    let query := { default with openvpnConstraints := ⟨.any, .custom none⟩ }
    query.Valid ∧ ¬ ∃ result, (query.selectorConfig []).toQuery = .ok result ∧ result.Agrees query := by
  intro query
  refine ⟨fun _ => rfl, ?_⟩
  rintro ⟨result, hresult, hagrees⟩
  cases hresult
  cases congrArg (fun query => query.openvpnConstraints.bridgeSettings) hagrees

end RelayQuery

end MullvadVpn.Relays
