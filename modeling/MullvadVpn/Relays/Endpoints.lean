import MullvadVpn.Relays.Choice

/-!
Which endpoints and obfuscators can be derived from the relays of a WireGuard connection. As for the
relays themselves, relations follow the source without its draws, and each function gives exactly what
its relation says and fails exactly where something that it needs is not available.
-/

namespace MullvadVpn.Relays

open Net Systems Draw Attempt List WireguardRelayEndpointData Relay

variable {port : BitVec 16} {inner : WireguardConfig}
  (portRanges : List PortRange) (desired : Constraint (BitVec 16))

/-- The port can be selected: it is the desired one, if there is one, and it is in the ranges. -/
def MayPort (port : BitVec 16) : Prop :=
  match desired with
  | .any => port ∈ portRanges.flatMap PortRange.ports
  | .only desired => port = desired ∧ (portRanges.any fun range => range.contains desired) = true

/-- Some port can be selected. -/
def PortAvailable : Prop :=
  ∃ port, MayPort portRanges desired port

theorem exact_desiredOrRandomPortFromRange :
    Exact (desiredOrRandomPortFromRange portRanges desired) (MayPort portRanges desired)
      (¬ PortAvailable portRanges desired) := by
  cases desired with
  | any =>
    exact (exact_okOr _ (outcomes_choose _)).congr (fun _ => .rfl)
      (by simp only [IsChoice, PortAvailable, MayPort, not_exists, eq_nil_iff_forall_not_mem])
  | only desired =>
    refine .congr (exact_liftExcept (portIfInRange portRanges desired)) (fun port => ?_) ?_
    · unfold portIfInRange MayPort
      split_ifs with hrange <;> simp [hrange, eq_comm]
    · unfold portIfInRange PortAvailable MayPort
      split_ifs with hrange <;> simp [hrange]

theorem MayPort.satisfied {portRanges desired}
    (h : MayPort portRanges desired port) : desired.satisfiedBy (fun desired => desired == port) = true := by
  cases desired with
  | any => rfl
  | only desired => exact beq_iff_eq.mpr h.1.symm

def WireguardConfig.relays : WireguardConfig → List Relay
  | singlehop exit => [exit]
  | multihop exit entry => [exit, entry]

theorem getPublicKey_of_isWireguard {relay} (h : relay.isWireguard = true) :
    ∃ key, getPublicKey relay = .ok key := by
  obtain ⟨data, hdata⟩ := Option.isSome_iff_exists.mp h
  unfold getPublicKey
  rw [endpointData_of_wireguard hdata]
  exact ⟨_, rfl⟩

/-- The relay has an address of the IP version of the query. -/
def AddressAvailable (query : WireguardRelayQuery) (relay : Relay) : Prop :=
  ∃ ip, getAddressForWireguardRelay query relay = .ok ip

section Reach

variable {query : WireguardRelayQuery} {data : WireguardEndpointData} {config : WireguardConfig}
  {endpoint : MullvadWireguardEndpoint}

/-- The endpoints for the relays of a connection. -/
inductive MayReach (query : WireguardRelayQuery) (data : WireguardEndpointData) :
    WireguardConfig → MullvadWireguardEndpoint → Prop
  | singlehop {exit host port key} (hhost : getAddressForWireguardRelay query exit = .ok host)
      (hport : MayPort data.portRanges query.port port) (hkey : getPublicKey exit = .ok key) :
      MayReach query data (.singlehop exit)
        { peer := { publicKey := key, endpoint := ⟨host, port⟩, allowedIps := exitAllowedIps query data }
          exitPeer := none
          ipv4Gateway := data.ipv4Gateway
          ipv6Gateway := data.ipv6Gateway }
  | multihop {exit entry host port exitKey key} (hexitKey : getPublicKey exit = .ok exitKey)
      (hhost : getAddressForWireguardRelay query entry = .ok host)
      (hport : MayPort data.portRanges query.port port) (hkey : getPublicKey entry = .ok key) :
      MayReach query data (.multihop exit entry)
        { peer :=
            { publicKey := key
              endpoint := ⟨host, port⟩
              allowedIps := [.ofIpAddr (.v4 exit.ipv4AddrIn)] }
          exitPeer := some
            { publicKey := exitKey
              endpoint := ⟨.v4 exit.ipv4AddrIn, wireguardExitPort⟩
              allowedIps := exitAllowedIps query data }
          ipv4Gateway := data.ipv4Gateway
          ipv6Gateway := data.ipv6Gateway }

section

variable (h : MayReach query data config endpoint)

include h

theorem MayReach.mayPort : MayPort data.portRanges query.port endpoint.peer.endpoint.port := by
  cases h <;> assumption

theorem MayReach.address :
    getAddressForWireguardRelay query config.firstHop = .ok endpoint.peer.endpoint.ip := by
  cases h <;> assumption

/-- The endpoint leads to the relays, the first hop being addressed as the query asks for. -/
theorem MayReach.leadsTo : LeadsTo query endpoint config := by
  obtain ⟨haddress, hversion⟩ := hasAddress_of_getAddress h.address
  have hsatisfied := h.mayPort.satisfied
  cases h with
  | singlehop _ _ hkey =>
    exact .singlehop ⟨hasKey_of_getPublicKey hkey, haddress, hversion, hsatisfied⟩ rfl
  | multihop hexitKey _ _ hkey =>
    exact .multihop ⟨hasKey_of_getPublicKey hkey, haddress, hversion, hsatisfied⟩ rfl
      (hasKey_of_getPublicKey hexitKey) rfl rfl

end

theorem exists_mayReach {ip} (hwireguard : ∀ relay ∈ config.relays, relay.isWireguard = true)
    (haddress : getAddressForWireguardRelay query config.firstHop = .ok ip)
    (hport : MayPort data.portRanges query.port port) :
    ∃ endpoint, MayReach query data config endpoint ∧ endpoint.peer.endpoint = ⟨ip, port⟩ := by
  cases config with
  | singlehop exit =>
    obtain ⟨key, hkey⟩ := getPublicKey_of_isWireguard (hwireguard exit (mem_singleton_self _))
    exact ⟨_, .singlehop haddress hport hkey, rfl⟩
  | multihop exit entry =>
    obtain ⟨exitKey, hexitKey⟩ := getPublicKey_of_isWireguard (hwireguard exit (mem_cons_self ..))
    obtain ⟨key, hkey⟩ := getPublicKey_of_isWireguard
      (hwireguard entry (mem_cons_of_mem _ (mem_singleton_self _)))
    exact ⟨_, .multihop hexitKey haddress hport hkey, rfl⟩

theorem exact_wireguardEndpoint (hwireguard : ∀ relay ∈ config.relays, relay.isWireguard = true) :
    Exact (wireguardEndpoint query data config) (MayReach query data config)
      (¬ (AddressAvailable query config.firstHop ∧ PortAvailable data.portRanges query.port)) := by
  have hselect : Exact (getPortForWireguardRelay query data) (MayPort data.portRanges query.port)
      (¬ PortAvailable data.portRanges query.port) :=
    (exact_desiredOrRandomPortFromRange data.portRanges query.port).mapErr _
  cases config with
  | singlehop exit =>
    obtain ⟨key, hkey⟩ := getPublicKey_of_isWireguard (hwireguard exit (mem_singleton_self _))
    refine .congr ((exact_liftExcept (getAddressForWireguardRelay query exit)).bind fun host _ =>
      hselect.bind fun port _ => (exact_liftExcept (getPublicKey exit)).bind fun key _ => exact_pure _)
      (fun endpoint => ⟨?_, ?_⟩) ?_
    · rintro ⟨host, hhost, port, hport, key, hkey, rfl⟩
      exact .singlehop hhost hport hkey
    · rintro (⟨hhost, hport, hkey⟩)
      exact ⟨_, hhost, _, hport, _, hkey, rfl⟩
    · simp only [hkey, AddressAvailable, WireguardConfig.firstHop]
      grind
  | multihop exit entry =>
    obtain ⟨exitKey, hexitKey⟩ := getPublicKey_of_isWireguard (hwireguard exit (mem_cons_self ..))
    obtain ⟨key, hkey⟩ := getPublicKey_of_isWireguard
      (hwireguard entry (mem_cons_of_mem _ (mem_singleton_self _)))
    refine .congr ((exact_liftExcept (getPublicKey exit)).bind fun exitKey _ =>
      (exact_liftExcept (getAddressForWireguardRelay query entry)).bind fun host _ =>
        hselect.bind fun port _ => (exact_liftExcept (getPublicKey entry)).bind fun key _ => exact_pure _)
      (fun endpoint => ⟨?_, ?_⟩) ?_
    · rintro ⟨exitKey, hexitKey, host, hhost, port, hport, key, hkey, rfl⟩
      exact .multihop hexitKey hhost hport hkey
    · rintro (_ | ⟨hexitKey, hhost, hport, hkey⟩)
      exact ⟨_, hexitKey, _, hhost, _, hport, _, hkey, rfl⟩
    · simp only [hexitKey, hkey, AddressAvailable, WireguardConfig.firstHop]
      grind

end Reach

def MayUdp2tcp (settings : Udp2TcpObfuscationSettings) (ports : List (BitVec 16)) (ip : IpAddr)
    (config : ObfuscatorConfig) : Prop :=
  ∃ port ∈ ports, settings.port.satisfiedBy (fun desired => desired == port) = true ∧
    config = .udp2Tcp ⟨ip, port⟩

/-- The extra addresses of the relay that are of the version of its address. -/
def Relay.shadowsocksAddrs (relay : Relay) (ip : IpAddr) : List IpAddr :=
  ((relay.wireguard.map shadowsocksExtraAddrIn).getD []).filter fun addr => addr.isIpv4 == ip.isIpv4

/-- Shadowsocks to one of the extra addresses, or to the address of the relay if there are none. -/
inductive MayShadowsocks (settings : ShadowsocksSettings) (portRanges : List PortRange) (relay : Relay)
    (ip : IpAddr) : ObfuscatorConfig → Prop
  | own {port : BitVec 16} (hnone : relay.shadowsocksAddrs ip = [])
      (hport : MayPort portRanges settings.port port) :
      MayShadowsocks settings portRanges relay ip (.shadowsocks ⟨ip, port⟩)
  | extra {addr : IpAddr} {port : BitVec 16} (haddr : addr ∈ relay.shadowsocksAddrs ip)
      (hport : MayPort shadowsocksExtraPortRanges settings.port port) :
      MayShadowsocks settings portRanges relay ip (.shadowsocks ⟨addr, port⟩)

def Relay.quic (relay : Relay) : Option Quic :=
  relay.wireguard.bind WireguardRelayEndpointData.quic

def Quic.addrs (quic : Quic) : IpVersion → List IpAddr
  | .v4 => quic.inIpv4
  | .v6 => quic.inIpv6

def Relay.quicAddrs (relay : Relay) (version : IpVersion) : List IpAddr :=
  (relay.quic.map fun quic => quic.addrs version).getD []

/-- QUIC to one of the addresses, or none if there are none. -/
inductive MayQuic (relay : Relay) (version : IpVersion) : Option ObfuscatorConfig → Prop
  | none (hnone : relay.quicAddrs version = []) : MayQuic relay version none
  | some {quic : Quic} {ip : IpAddr} (hquic : relay.quic = some quic) (hip : ip ∈ relay.quicAddrs version) :
      MayQuic relay version (some (.quic quic.domain ⟨ip, Quic.port⟩ quic.token))

/-- The obfuscators that a query can lead to on a relay. -/
inductive MayObfuscate (staggered : Bool) (query : WireguardRelayQuery) (data : WireguardEndpointData)
    (relay : Relay) (endpoint : MullvadWireguardEndpoint) : Option Obfuscators → Prop
  | off (h : query.obfuscation = .off) : MayObfuscate staggered query data relay endpoint none
  | auto (h : query.obfuscation = .auto) (hstaggered : staggered = false) :
      MayObfuscate staggered query data relay endpoint none
  | multiplexer {udp2tcp shadowsocks quic} (h : query.obfuscation = .auto) (hstaggered : staggered = true)
      (hudp2tcp : MayUdp2tcp ⟨.any⟩ data.udp2tcpPorts endpoint.peer.endpoint.ip udp2tcp)
      (hshadowsocks : MayShadowsocks ⟨.any⟩ data.shadowsocksPortRanges relay endpoint.peer.endpoint.ip
        shadowsocks)
      (hquic : MayQuic relay endpoint.peer.endpoint.ip.version quic) :
      MayObfuscate staggered query data relay endpoint
        (some (.multiplexer (some endpoint.peer.endpoint) udp2tcp (shadowsocks :: quic.toList)))
  | udp2tcp {settings config} (h : query.obfuscation = .udp2tcp settings)
      (hconfig : MayUdp2tcp settings data.udp2tcpPorts endpoint.peer.endpoint.ip config) :
      MayObfuscate staggered query data relay endpoint (some (.single config))
  | shadowsocks {settings config} (h : query.obfuscation = .shadowsocks settings)
      (hconfig : MayShadowsocks settings data.shadowsocksPortRanges relay endpoint.peer.endpoint.ip config) :
      MayObfuscate staggered query data relay endpoint (some (.single config))
  | quic {config} (h : query.obfuscation = .quic)
      (hconfig : MayQuic relay (resolveIpVersion query.ipVersion) config) :
      MayObfuscate staggered query data relay endpoint (config.map .single)
  | lwo (h : query.obfuscation = .lwo) : MayObfuscate staggered query data relay endpoint
        ((getLwoObfuscator relay endpoint).map .single)

theorem exact_getUdp2tcpObfuscator (settings : Udp2TcpObfuscationSettings) (ports : List (BitVec 16))
    (endpoint : MullvadWireguardEndpoint) :
    Exact (getUdp2tcpObfuscator settings ports endpoint) (MayUdp2tcp settings ports endpoint.peer.endpoint.ip)
      (¬ ∃ port ∈ ports, settings.port.satisfiedBy (fun desired => desired == port) = true) := by
  have hport : Exact (getUdp2tcpObfuscatorPort settings ports)
      (fun port => port ∈ ports ∧ settings.port.satisfiedBy (fun desired => desired == port) = true)
      (¬ ∃ port ∈ ports, settings.port.satisfiedBy (fun desired => desired == port) = true) := by
    unfold getUdp2tcpObfuscatorPort
    cases settings.port with
    | any =>
      exact (exact_okOr _ (outcomes_choose ports)).congr (by simp [IsChoice, Constraint.satisfiedBy])
        (by simp [IsChoice, Constraint.satisfiedBy, eq_nil_iff_forall_not_mem])
    | only desired =>
      refine (exact_okOr _ (outcomes_pure _)).congr (fun port => ⟨fun h => ?_, fun h => ?_⟩)
        (by simp [Constraint.satisfiedBy, eq_comm (a := none), forall_mem_ne])
      · have hequal : (desired == port) = true := find?_some h.symm
        exact ⟨mem_of_find?_eq_some h.symm, hequal⟩
      · obtain ⟨hmem, h⟩ := h
        cases hfind : ports.find? fun port => desired == port with
        | none => exact absurd h (find?_eq_none.mp hfind port hmem)
        | some found =>
          have hequal : (desired == found) = true := find?_some hfind
          rw [← beq_iff_eq.mp hequal, ← beq_iff_eq.mp (show (desired == port) = true from h)]
  exact (hport.bind fun port _ => exact_pure _).congr
    (fun config => by simp only [MayUdp2tcp, and_assoc]) (by simp)

/-- The ports on which the relay accepts Shadowsocks at addresses of the version of the given one. -/
def Relay.shadowsocksRanges (relay : Relay) (portRanges : List PortRange) (ip : IpAddr) :
    List PortRange :=
  if (relay.shadowsocksAddrs ip).isEmpty then portRanges else shadowsocksExtraPortRanges

theorem exact_getShadowsocksObfuscator (settings : ShadowsocksSettings) (portRanges : List PortRange)
    (relay : Relay) (endpoint : MullvadWireguardEndpoint) :
    Exact (getShadowsocksObfuscator settings portRanges relay endpoint)
      (MayShadowsocks settings portRanges relay endpoint.peer.endpoint.ip)
      (¬ PortAvailable (relay.shadowsocksRanges portRanges endpoint.peer.endpoint.ip) settings.port) := by
  have haddress : Exact (getShadowsocksObfuscatorInner endpoint.peer.endpoint.ip portRanges
      ((relay.wireguard.map shadowsocksExtraAddrIn).getD []) settings.port) _ _ :=
    (exact_lift (outcomes_choose (relay.shadowsocksAddrs endpoint.peer.endpoint.ip))).bind fun inIp _ =>
      (exact_desiredOrRandomPortFromRange
        (relay.shadowsocksRanges portRanges endpoint.peer.endpoint.ip) settings.port).bind fun port _ =>
          exact_pure _
  refine Exact.congr (haddress.bind fun address _ => exact_pure _) (fun config => ⟨?_, ?_⟩) ?_
  · rintro ⟨_, ⟨inIp, hinIp, port, hport, rfl⟩, rfl⟩
    cases inIp with
    | none =>
      rw [shadowsocksRanges, hinIp] at hport
      exact .own hinIp hport
    | some addr =>
      rw [shadowsocksRanges, isEmpty_eq_false_iff.mpr (ne_nil_of_mem hinIp)] at hport
      exact .extra hinIp hport
  · rintro (⟨hnone, hport⟩ | ⟨haddr, hport⟩)
    · refine ⟨_, ⟨none, hnone, _, ?_, rfl⟩, rfl⟩
      rw [shadowsocksRanges, hnone]
      exact hport
    · refine ⟨_, ⟨some _, haddr, _, ?_, rfl⟩, rfl⟩
      rw [shadowsocksRanges, isEmpty_eq_false_iff.mpr (ne_nil_of_mem haddr)]
      exact hport
  · have hchoice := exists_isChoice (relay.shadowsocksAddrs endpoint.peer.endpoint.ip)
    simp [hchoice, exists_and_right]

theorem getQuicObfuscator_of_quic {relay} {quic : Quic} (hquic : relay.quic = some quic)
    (version : IpVersion) :
    getQuicObfuscator relay version = (do
      let inIp ← choose (relay.quicAddrs version)
      return inIp.map fun ip => .quic quic.domain ⟨ip, Quic.port⟩ quic.token) := by
  unfold getQuicObfuscator
  rw [← Relay.quic, Relay.quicAddrs, hquic]
  cases version <;> rfl

theorem outcomes_getQuicObfuscator (relay : Relay) (version : IpVersion) :
    Outcomes (getQuicObfuscator relay version) (MayQuic relay version) := by
  cases hquic : relay.quic with
  | none =>
    have hnone : relay.quicAddrs version = [] := by rw [quicAddrs, hquic]; rfl
    unfold getQuicObfuscator
    rw [← Relay.quic, hquic]
    refine (outcomes_pure _).congr fun config => ⟨?_, fun h => ?_⟩
    · rintro rfl
      exact .none hnone
    · cases h with
      | none _ => rfl
      | some hsome _ => cases hquic.symm.trans hsome
  | some quic =>
    rw [getQuicObfuscator_of_quic hquic]
    refine ((outcomes_choose _).bind fun inIp _ => outcomes_pure _).congr fun config => ⟨?_, fun h => ?_⟩
    · rintro ⟨inIp, hinIp, rfl⟩
      cases inIp with
      | none => exact .none hinIp
      | some ip => exact .some hquic hinIp
    · cases h with
      | none hnone => exact ⟨none, hnone, rfl⟩
      | some hsome hip =>
        cases hquic.symm.trans hsome
        exact ⟨some _, hip, rfl⟩

/-- An obfuscator of the kind of the query can be derived for the relay at the address. -/
def ObfuscatorAvailable (staggered : Bool) (query : WireguardRelayQuery) (data : WireguardEndpointData)
    (relay : Relay) (ip : IpAddr) : Prop :=
  match query.obfuscation with
  | .off | .quic | .lwo => True
  | .auto => staggered = true → data.udp2tcpPorts ≠ [] ∧
      PortAvailable (relay.shadowsocksRanges data.shadowsocksPortRanges ip) .any
  | .udp2tcp settings =>
    ∃ port ∈ data.udp2tcpPorts, settings.port.satisfiedBy (fun desired => desired == port) = true
  | .shadowsocks settings =>
    PortAvailable (relay.shadowsocksRanges data.shadowsocksPortRanges ip) settings.port

section Obfuscators

variable {δ : Type} (platform : Platform δ) (query : RelayQuery) (list : RelayList) (relay : Relay)
  (endpoint : MullvadWireguardEndpoint)

theorem exact_getMultiplexerObfuscator (udp2tcpPorts : List (BitVec 16))
    (shadowsocksPorts : List PortRange) :
    Exact (getMultiplexerObfuscator udp2tcpPorts shadowsocksPorts relay endpoint)
      (fun obfuscators => ∃ udp2tcp, MayUdp2tcp ⟨.any⟩ udp2tcpPorts endpoint.peer.endpoint.ip udp2tcp ∧
        ∃ shadowsocks, MayShadowsocks ⟨.any⟩ shadowsocksPorts relay endpoint.peer.endpoint.ip shadowsocks ∧
          ∃ quic, MayQuic relay endpoint.peer.endpoint.ip.version quic ∧ obfuscators =
              .multiplexer (some endpoint.peer.endpoint) udp2tcp (shadowsocks :: quic.toList))
      (¬ (udp2tcpPorts ≠ [] ∧
        PortAvailable (relay.shadowsocksRanges shadowsocksPorts endpoint.peer.endpoint.ip) .any)) := by
  refine .congr ((exact_getUdp2tcpObfuscator ⟨.any⟩ udp2tcpPorts endpoint).bind fun udp2tcp _ =>
    (exact_getShadowsocksObfuscator ⟨.any⟩ shadowsocksPorts relay endpoint).bind fun shadowsocks _ =>
      (exact_lift (outcomes_getQuicObfuscator relay _)).bind fun quic _ => exact_pure _)
    (fun obfuscators => .rfl) ?_
  cases udp2tcpPorts with
  | nil => simp
  | cons port ports => simp [MayUdp2tcp, Constraint.satisfiedBy]

theorem exact_obfuscatorsFor : Exact (obfuscatorsFor platform query list relay endpoint)
      (MayObfuscate platform.staggeredObfuscation query.wireguardConstraints list.wireguard relay endpoint)
      (¬ ObfuscatorAvailable platform.staggeredObfuscation query.wireguardConstraints list.wireguard relay
        endpoint.peer.endpoint.ip) := by
  unfold obfuscatorsFor ObfuscatorAvailable
  cases h : query.wireguardConstraints.obfuscation with
  | off =>
    refine .congr (exact_pure _) (fun obfuscators => ⟨?_, fun hmay => ?_⟩) (by simp)
    · rintro rfl
      exact .off h
    · cases hmay <;> first | rfl | simp_all
  | auto =>
    dsimp only
    split_ifs with hstaggered
    · refine .congr ((exact_getMultiplexerObfuscator relay endpoint _ _).map some)
        (fun obfuscators => ⟨?_, fun hmay => ?_⟩) (by simp [hstaggered])
      · rintro ⟨_, ⟨udp2tcp, hudp2tcp, shadowsocks, hshadowsocks, quic, hquic, rfl⟩, rfl⟩
        exact .multiplexer h hstaggered hudp2tcp hshadowsocks hquic
      · cases hmay with
        | multiplexer _ _ hudp2tcp hshadowsocks hquic =>
          exact ⟨_, ⟨_, hudp2tcp, _, hshadowsocks, _, hquic, rfl⟩, rfl⟩
        | _ => simp_all
    · refine .congr (exact_pure _) (fun obfuscators => ⟨?_, fun hmay => ?_⟩) (by simp [hstaggered])
      · rintro rfl
        exact .auto h (Bool.not_eq_true _ ▸ hstaggered)
      · cases hmay <;> first | rfl | simp_all
  | udp2tcp settings =>
    refine .congr ((exact_getUdp2tcpObfuscator settings _ endpoint).bind fun config _ => exact_pure _)
      (fun obfuscators => ⟨?_, fun hmay => ?_⟩) (by simp)
    · rintro ⟨config, hconfig, rfl⟩
      exact .udp2tcp h hconfig
    · cases hmay with
      | udp2tcp h' hconfig =>
        cases h.symm.trans h'
        exact ⟨_, hconfig, rfl⟩
      | _ => simp_all
  | shadowsocks settings =>
    refine .congr ((exact_getShadowsocksObfuscator settings _ relay endpoint).bind fun config _ =>
      exact_pure _) (fun obfuscators => ⟨?_, fun hmay => ?_⟩) (by simp)
    · rintro ⟨config, hconfig, rfl⟩
      exact .shadowsocks h hconfig
    · cases hmay with
      | shadowsocks h' hconfig =>
        cases h.symm.trans h'
        exact ⟨_, hconfig, rfl⟩
      | _ => simp_all
  | quic =>
    refine .congr ((exact_lift (outcomes_getQuicObfuscator relay _)).bind fun config _ => exact_pure _)
      (fun obfuscators => ⟨?_, fun hmay => ?_⟩) (by simp)
    · rintro ⟨config, hconfig, rfl⟩
      exact .quic h hconfig
    · cases hmay with
      | quic _ hconfig => exact ⟨_, hconfig, rfl⟩
      | _ => simp_all
  | lwo =>
    refine .congr (exact_pure _) (fun obfuscators => ⟨?_, fun hmay => ?_⟩) (by simp)
    · rintro rfl
      exact .lwo h
    · cases hmay <;> first | rfl | simp_all

end Obfuscators

section Search

variable {δ : Type} [LinearOrder δ] (platform : Platform δ)
variable (query : RelayQuery) (customLists : List CustomList) (list : RelayList)

/-- The relay can be connected to as the query asks for. -/
def FirstHopAvailable (staggered : Bool) (query : WireguardRelayQuery) (data : WireguardEndpointData)
    (relay : Relay) : Prop :=
  ∃ ip, getAddressForWireguardRelay query relay = .ok ip ∧ PortAvailable data.portRanges query.port ∧
    ObfuscatorAvailable staggered query data relay ip

/-- The first hop can be connected to as the query asks for. -/
def Connectable (inner : WireguardConfig) : Prop :=
  FirstHopAvailable platform.staggeredObfuscation query.wireguardConstraints list.wireguard inner.firstHop

/-- The endpoint and the obfuscator for relays that have been picked. -/
def connect (platform : Platform δ) (query : RelayQuery) (list : RelayList) (inner : WireguardConfig) :
    Attempt Error GetRelay := do
  let endpoint ← getWireguardEndpoint query list inner
  let obfuscator ← getWireguardObfuscator platform query list inner endpoint
  return .wireguard endpoint obfuscator inner

/-- What connecting to relays gives. -/
def MayConnect (inner : WireguardConfig) (found : GetRelay) : Prop :=
  ∃ endpoint, MayReach query.wireguardConstraints list.wireguard inner endpoint ∧
    ∃ obfuscators, MayObfuscate platform.staggeredObfuscation query.wireguardConstraints list.wireguard
      inner.firstHop endpoint obfuscators ∧
        found = .wireguard endpoint (obfuscators.map fun config => ⟨config, inner.firstHop⟩) inner

/-- What a search for WireGuard relays can give. -/
structure MayFind (endpoint : MullvadWireguardEndpoint) (obfuscator : Option SelectedObfuscator)
    (inner : WireguardConfig) : Prop where
  select : MaySelect platform query customLists list inner
  selected : Selected query customLists list inner
  leads : LeadsTo query.wireguardConstraints endpoint inner
  port : MayPort list.wireguard.portRanges query.wireguardConstraints.port endpoint.peer.endpoint.port
  obfuscator : ∃ obfuscators,
    MayObfuscate platform.staggeredObfuscation query.wireguardConstraints list.wireguard inner.firstHop
      endpoint obfuscators ∧ obfuscator = obfuscators.map fun config => ⟨config, inner.firstHop⟩

variable {platform query customLists list}

omit [LinearOrder δ] in
theorem exact_connect (hwireguard : ∀ relay ∈ inner.relays, relay.isWireguard = true) :
    Exact (connect platform query list inner) (MayConnect platform query list inner)
      (¬ Connectable platform query list inner) := by
  refine Exact.congr (((exact_wireguardEndpoint hwireguard).mapErr _).bind fun endpoint _ =>
    (((exact_obfuscatorsFor platform query list inner.firstHop endpoint).mapErr Error.noObfuscator).bind
      fun obfuscators _ => exact_pure _).bind fun obfuscator _ => exact_pure _) (fun found => ?_) ?_
  · constructor
    · rintro ⟨endpoint, hreach, _, ⟨obfuscators, hobfuscators, rfl⟩, rfl⟩
      exact ⟨endpoint, hreach, obfuscators, hobfuscators, rfl⟩
    · rintro ⟨endpoint, hreach, obfuscators, hobfuscators, rfl⟩
      exact ⟨endpoint, hreach, _, ⟨obfuscators, hobfuscators, rfl⟩, rfl⟩
  · unfold Connectable FirstHopAvailable
    constructor
    · rintro (hnone | ⟨endpoint, hreach, hobfuscator⟩) ⟨ip, hip, hport, havailable⟩
      · exact hnone ⟨⟨ip, hip⟩, hport⟩
      · cases hreach.address.symm.trans hip
        simp_all
    · intro hnone
      by_cases h : AddressAvailable query.wireguardConstraints inner.firstHop ∧
          PortAvailable list.wireguard.portRanges query.wireguardConstraints.port
      · obtain ⟨⟨ip, hip⟩, port, hport⟩ := h
        obtain ⟨endpoint, hreach, hendpoint⟩ := exists_mayReach hwireguard hip hport
        refine .inr ⟨endpoint, hreach, .inl (.inl fun havailable => hnone ⟨ip, hip, ⟨port, hport⟩, ?_⟩)⟩
        rw [hendpoint] at havailable
        exact havailable
      · exact .inl h

theorem Selected.isWireguard (h : Selected query customLists list inner)
    (hprotocol : query.tunnelProtocol = .wireguard) : ∀ relay ∈ inner.relays, relay.isWireguard = true := by
  have hmatches {query' : RelayQuery} {relay : Relay} (hrelay : Matches query' list customLists relay)
      (hprotocol' : query'.tunnelProtocol = .wireguard) : relay.isWireguard = true := by
    have htype := hrelay.tunnelType
    rw [hprotocol'] at htype
    exact htype
  intro relay hrelay
  cases h with
  | singlehop _ hexit =>
    obtain rfl := mem_singleton.mp hrelay
    exact hmatches hexit hprotocol
  | automatic _ _ hexit hentry _ | multihop hexit hentry _ =>
    rcases mem_pair.mp hrelay with rfl | rfl
    · exact hmatches hexit hprotocol
    · exact hmatches hentry hprotocol

theorem Selected.filterOnObfuscation (h : Selected query customLists list inner) :
    filterOnObfuscation query.wireguardConstraints list inner.firstHop = true := by
  cases h with
  | singlehop _ hexit => exact hexit.obfuscation
  | automatic _ _ _ hentry _ | multihop _ hentry _ => exact hentry.obfuscation

theorem LeadsTo.isFirstHop {endpoint}
    (h : LeadsTo query.wireguardConstraints endpoint inner) :
    IsFirstHop query.wireguardConstraints inner.firstHop endpoint.peer := by
  cases h with
  | singlehop hfirst _ | multihop hfirst _ _ _ _ => exact hfirst

theorem Selected.of_isCombo {exit entry}
    (h : IsCombo (filterMatchingRelayListIncludeAll query.forExit list customLists)
      (filterMatchingRelayListIncludeAll query.forEntry list customLists) (some (exit, entry))) :
    Selected query customLists list (.multihop exit entry) := by
  obtain ⟨hexit, hentry, hne⟩ := h exit entry rfl
  exact .multihop (mem_filterMatchingRelayListIncludeAll.mp hexit)
    (mem_filterMatchingRelayListIncludeAll.mp hentry) hne

theorem MaySelect.selected (h : MaySelect platform query customLists list inner) :
    Selected query customLists list inner := by
  cases h with
  | singlehop hsinglehop hcandidates hexit =>
    exact .singlehop hsinglehop (hcandidates.matching (mem_of_mayPick hexit))
  | automatic hautomatic _ hexits hexit hentries hentry =>
    obtain ⟨hdaita, hnecessary⟩ := Bool.and_eq_true_iff.mp hautomatic
    obtain ⟨hclosest, hne⟩ := mem_excluding.mp (mem_of_mayPick hentry)
    exact .automatic hdaita hnecessary (hexits.matching (mem_of_mayPick hexit))
      (hentries.matching (mem_closestRelays_iff.mp hclosest).1) hne
  | multihop _ _ hexits hentries hcombo => exact .of_isCombo (MayPair.first hexits hentries hcombo).isCombo
  | fallback _ _ _ _ _ hcombo => exact .of_isCombo hcombo.isCombo

section

variable (hprotocol : query.tunnelProtocol = .wireguard)

include hprotocol

/-- A search gives all that can be derived from the relays that it can pick, and fails where it may find
no relays or some that cannot be connected to. -/
theorem exact_getWireguardRelayInner :
    Exact (getWireguardRelayInner platform query customLists list)
      (fun found => ∃ inner, MaySelect platform query customLists list inner ∧
        MayConnect platform query list inner found)
      (MayMiss platform query customLists list ∨ ∃ inner, MaySelect platform query customLists list inner ∧
          ¬ Connectable platform query list inner) := by
  exact (exact_getWireguardRelayConfig platform customLists list hprotocol).bind fun inner hselect =>
    exact_connect (hselect.selected.isWireguard hprotocol)

theorem returns_mayFind :
    Returns (getWireguardRelayInner platform query customLists list) fun found =>
      ∃ endpoint obfuscator inner, found = .wireguard endpoint obfuscator inner ∧
        MayFind platform query customLists list endpoint obfuscator inner := by
  refine (exact_getWireguardRelayInner hprotocol).returns.mono ?_
  rintro found ⟨inner, hselect, endpoint, hreach, obfuscators, hobfuscators, rfl⟩
  exact ⟨endpoint, _, inner, rfl, hselect, hselect.selected, hreach.leadsTo, hreach.mayPort, obfuscators,
    hobfuscators, rfl⟩

theorem exists_find {ip} (hselect : MaySelect platform query customLists list inner)
    (haddress : getAddressForWireguardRelay query.wireguardConstraints inner.firstHop = .ok ip)
    (hport : MayPort list.wireguard.portRanges query.wireguardConstraints.port port) :
    ∃ endpoint : MullvadWireguardEndpoint, endpoint.peer.endpoint = ⟨ip, port⟩ ∧
      ∀ obfuscators, MayObfuscate platform.staggeredObfuscation query.wireguardConstraints
          list.wireguard inner.firstHop endpoint obfuscators →
        ∃ draws, ((getWireguardRelayInner platform query customLists list).run draws).1 =
          .ok (.wireguard endpoint (obfuscators.map fun config => ⟨config, inner.firstHop⟩) inner) := by
  obtain ⟨endpoint, hreach, hendpoint⟩ :=
    exists_mayReach (hselect.selected.isWireguard hprotocol) haddress hport
  refine ⟨endpoint, hendpoint, fun obfuscators hobfuscators => ?_⟩
  exact ((exact_getWireguardRelayInner hprotocol).exists_ok_iff _).mpr
    ⟨inner, hselect, endpoint, hreach, obfuscators, hobfuscators, rfl⟩

end

/-- Draws make a search for WireGuard relays give all that the relations allow, and nothing else. -/
theorem exists_found_iff (found : GetRelay) :
    let query := { query with tunnelProtocol := .wireguard }
    (∃ draws, ((getWireguardRelayInner platform query customLists list).run draws).1 = .ok found) ↔
      ∃ inner, MaySelect platform query customLists list inner ∧ MayConnect platform query list inner found :=
  (exact_getWireguardRelayInner rfl).exists_ok_iff found

theorem returns_getRelayInner (platform : Platform δ) (query : RelayQuery) (customLists : List CustomList)
    (list : RelayList) :
    Returns (getRelayInner platform query customLists list) (Found query customLists list) := by
  unfold getRelayInner
  cases hprotocol : query.tunnelProtocol with
  | wireguard =>
    refine (returns_mayFind hprotocol).mono ?_
    rintro _ ⟨endpoint, obfuscator, inner, rfl, hfind⟩
    obtain ⟨obfuscators, hobfuscators, rfl⟩ := hfind.obfuscator
    refine .wireguard hprotocol hfind.selected hfind.leads fun hoff => ?_
    cases hobfuscators <;> simp_all
  | openVpn =>
    refine (exact_okOr _ (outcomes_pickMatching query customLists list)).returns.bind fun exit hexit => ?_
    refine (returns_true _).bind fun endpoint _ => (returns_true _).bind fun bridge _ => ?_
    exact returns_pure (.openVpn hprotocol hexit.matching)

end Search

end MullvadVpn.Relays
