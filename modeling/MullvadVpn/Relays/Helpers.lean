import MullvadVpn.Systems.Draws
import MullvadVpn.Relays.Query

/-!
Random choices among relays and ports, and the obfuscators (`relay_selector/helpers.rs`).
-/

namespace MullvadVpn.Relays

open Net Systems Draw Attempt

section Weighted

variable {α : Type} (weight : α → BitVec 64)

/-- The element in whose share of the wheel the number `i` falls. -/
def spin : List α → Nat → Option α
  | [], _ => none
  | a :: as, i => if i - (weight a).toNat = 0 then some a else spin as (i - (weight a).toNat)

/-- The sum is a `u64`: it wraps around. -/
def totalWeight (relays : List α) : BitVec 64 :=
  (relays.map weight).sum

/-- One element at random, with the given weights, or without bias if they sum up to zero. -/
def pickRandomRelayWeighted (relays : List α) : Draw (Option α) :=
  if totalWeight weight relays = 0 then choose relays
  else do
    let n ← next
    -- `random_range(1..=total_weight)`. The source expects that the wheel stops at some element.
    return spin weight relays (1 + n % (totalWeight weight relays).toNat)

variable {as : List α} {i : Nat} {a : α}

theorem mem_of_spin (h : spin weight as i = some a) : a ∈ as := by
  induction as generalizing i with
  | nil => cases h
  | cons b as ih =>
    rw [spin] at h
    split_ifs at h with hzero
    · cases h
      exact List.mem_cons_self ..
    · exact List.mem_cons_of_mem _ (ih h)

theorem spin_isSome (hpos : 0 < i)
    (hle : i ≤ (as.map fun a => (weight a).toNat).sum) : (spin weight as i).isSome = true := by
  induction as generalizing i with
  | nil =>
    rw [List.map_nil, List.sum_nil] at hle
    omega
  | cons a as ih =>
    rw [List.map_cons, List.sum_cons] at hle
    rw [spin]
    split_ifs with hzero
    · rfl
    · exact ih (by omega) (by omega)

theorem totalWeight_le (relays : List α) :
    (totalWeight weight relays).toNat ≤ (relays.map fun a => (weight a).toNat).sum := by
  induction relays with
  | nil => exact le_rfl
  | cons a relays ih =>
    rw [totalWeight, List.map_cons, List.map_cons, List.sum_cons, List.sum_cons, BitVec.toNat_add]
    exact (Nat.mod_le _ _).trans (Nat.add_le_add_left ih _)

/-- What can be picked: an element into whose share some number of the wheel falls, and nothing only if
there is nothing. -/
def MaySpin (relays : List α) : Option α → Prop
  | some a =>
    if totalWeight weight relays = 0 then a ∈ relays
    else ∃ i, 0 < i ∧ i ≤ (totalWeight weight relays).toNat ∧ spin weight relays i = some a
  | none => relays = []

theorem outcomes_pickRandomRelayWeighted (relays : List α) :
    Outcomes (pickRandomRelayWeighted weight relays) (MaySpin weight relays) := by
  unfold pickRandomRelayWeighted
  split_ifs with hzero
  · refine (outcomes_choose relays).congr fun result => ?_
    cases result with
    | none => exact Iff.rfl
    | some a => simp only [IsChoice, MaySpin, hzero, if_true]
  · have hpos : 0 < (totalWeight weight relays).toNat :=
      Nat.pos_of_ne_zero fun h => hzero (BitVec.eq_of_toNat_eq h)
    refine (outcomes_next.bind fun n _ => outcomes_pure _).congr fun result => ?_
    cases result with
    | none =>
      constructor
      · rintro ⟨n, -, hspin⟩
        have hlt := Nat.mod_lt n hpos
        have hle := totalWeight_le weight relays
        have hsome := spin_isSome weight (i := 1 + n % (totalWeight weight relays).toNat)
          (by omega) (by omega : _ ≤ (relays.map fun a => (weight a).toNat).sum)
        rw [← hspin] at hsome
        cases hsome
      · rintro rfl
        exact absurd rfl hzero
    | some a =>
      simp only [MaySpin, hzero, if_false, true_and]
      constructor
      · rintro ⟨n, hspin⟩
        have hlt := Nat.mod_lt n hpos
        exact ⟨1 + n % (totalWeight weight relays).toNat, by omega, by omega, hspin.symm⟩
      · rintro ⟨i, hi, hle, hspin⟩
        refine ⟨i - 1, ?_⟩
        rw [Nat.mod_eq_of_lt (by omega), Nat.add_sub_cancel' hi, hspin]

variable {relays : List α}

theorem mem_of_maySpin (h : MaySpin weight relays (some a)) : a ∈ relays := by
  unfold MaySpin at h
  split_ifs at h
  · exact h
  · obtain ⟨_, _, _, hspin⟩ := h
    exact mem_of_spin weight hspin

theorem weight_ne_zero_of_spin (hpos : 0 < i) (h : spin weight as i = some a) : weight a ≠ 0 := by
  induction as generalizing i with
  | nil => cases h
  | cons b as ih =>
    rw [spin] at h
    split_ifs at h with hzero
    · cases h
      intro hweight
      rw [hweight] at hzero
      exact absurd (hzero : i = 0) hpos.ne'
    · exact ih (by omega) h

theorem toNat_totalWeight (hfits : (relays.map fun a => (weight a).toNat).sum < 2 ^ 64) :
    (totalWeight weight relays).toNat = (relays.map fun a => (weight a).toNat).sum := by
  induction relays with
  | nil => rfl
  | cons a relays ih =>
    rw [List.map_cons, List.sum_cons] at hfits ⊢
    rw [totalWeight] at ih ⊢
    rw [List.map_cons, List.sum_cons, BitVec.toNat_add, ih (by omega), Nat.mod_eq_of_lt hfits]

/-- The share of an element on the wheel is as large as its weight. -/
theorem count_spin [DecidableEq α] (relays : List α) (a : α) :
    Nat.count (fun n => spin weight relays (1 + n) = some a) (relays.map fun a => (weight a).toNat).sum =
      relays.count a * (weight a).toNat := by
  induction relays with
  | nil => simp
  | cons b relays ih =>
    have hrest : ∀ k, spin weight (b :: relays) (1 + ((weight b).toNat + k)) = spin weight relays (1 + k) := by
      intro k
      rw [spin, if_neg (by omega)]
      congr 1
      omega
    have hfirst : ∀ n < (weight b).toNat, spin weight (b :: relays) (1 + n) = some b := by
      intro n hn
      rw [spin, if_pos (by omega)]
    rw [List.map_cons, List.sum_cons, Nat.count_add]
    simp only [hrest, ih]
    by_cases heq : b = a
    · subst heq
      rw [Nat.count_iff_forall.mpr hfirst, List.count_cons_self, Nat.succ_mul, Nat.add_comm]
    · rw [Nat.count_iff_forall_not.mpr fun n hn h => heq (Option.some.inj ((hfirst n hn).symm.trans h)),
        List.count_cons_of_ne heq, Nat.zero_add]

/-- Something is picked exactly if there is something, nothing of weight zero unless all weights are
zero, and otherwise each element for as many draws as its weight says. -/
theorem pickRandomRelayWeighted_by_weight [DecidableEq α] (relays : List α)
    (hfits : (relays.map fun a => (weight a).toNat).sum < 2 ^ 64) :
    (∀ draws, (pickRandomRelayWeighted weight relays draws).1.isSome = true ↔ relays ≠ []) ∧
    (∀ draws a, (pickRandomRelayWeighted weight relays draws).1 = some a → weight a = 0 →
      ∀ b ∈ relays, weight b = 0) ∧
    (totalWeight weight relays ≠ 0 →
      (∀ i, 0 < i → i ≤ (totalWeight weight relays).toNat → (spin weight relays i).isSome = true) ∧
      ∀ a, Nat.count (fun n => (pickRandomRelayWeighted weight relays fun _ => n).1 = some a)
        (totalWeight weight relays).toNat = relays.count a * (weight a).toNat) := by
  have htotal := toNat_totalWeight weight hfits
  have hmay := (outcomes_pickRandomRelayWeighted weight relays).always
  refine ⟨fun draws => ?_, fun draws a hpick hzero => ?_, fun hpos => ⟨fun i hi hle => ?_, fun a => ?_⟩⟩
  · have hresult := hmay draws
    cases hpick : (pickRandomRelayWeighted weight relays draws).1 with
    | none =>
      rw [hpick] at hresult
      exact iff_of_false nofun fun hne => hne hresult
    | some a =>
      rw [hpick] at hresult
      exact iff_of_true rfl (List.ne_nil_of_mem (mem_of_maySpin weight hresult))
  · have hresult := hmay draws
    rw [hpick] at hresult
    unfold MaySpin at hresult
    split_ifs at hresult with hsum
    · rw [hsum] at htotal
      exact fun b hb => BitVec.eq_of_toNat_eq (List.sum_eq_zero_iff.mp htotal.symm _ (List.mem_map_of_mem hb))
    · obtain ⟨i, hi, -, hspin⟩ := hresult
      exact absurd hzero (weight_ne_zero_of_spin weight hi hspin)
  · exact spin_isSome weight hi (hle.trans (totalWeight_le weight relays))
  · rw [← count_spin, ← htotal, Nat.count_eq_card_filter_range, Nat.count_eq_card_filter_range]
    refine congrArg _ (Finset.filter_congr fun n hn => ?_)
    simp only [pickRandomRelayWeighted, hpos, if_false]
    change spin weight relays (1 + n % (totalWeight weight relays).toNat) = some a ↔ _
    rw [Nat.mod_eq_of_lt (Finset.mem_range.mp hn)]

/-- A relay of weight two is drawn twice as often as one of weight one. -/
theorem pickRandomRelayWeighted_twice :
    Nat.count (fun n => (pickRandomRelayWeighted (fun b : Bool => bif b then 2 else 1) [false, true] fun _ => n).1
      = some true) 3 = 2 :=
  ((pickRandomRelayWeighted_by_weight (fun b : Bool => bif b then 2 else 1) [false, true] (by decide)).2.2
    (by decide)).2 true

end Weighted

def pickRandomRelay (relays : List Relay) : Draw (Option Relay) :=
  pickRandomRelayWeighted Relay.weight relays

/-- One relay at random, but not `exclude`. -/
def pickRandomRelayExcluding (relays : List Relay) (exclude : Relay) : Draw (Option Relay) :=
  pickRandomRelayWeighted Relay.weight (relays.filter fun relay => relay != exclude)

variable (portRanges : List PortRange)

def portIfInRange (port : BitVec 16) : Except HelperError (BitVec 16) :=
  if portRanges.any fun range => range.contains port then .ok port else .error .noMatchingPort

def selectRandomPort : Attempt HelperError (BitVec 16) :=
  okOr (choose (portRanges.flatMap PortRange.ports)) .noMatchingPort

/-- The desired port, if it is in one of the ranges, or any port of them. -/
def desiredOrRandomPortFromRange (desiredPort : Constraint (BitVec 16)) :
    Attempt HelperError (BitVec 16) :=
  match desiredPort with
  | .only port => liftM (portIfInRange portRanges port)
  | .any => selectRandomPort portRanges

/-- What the selector says about a WireGuard connection. -/
structure MullvadWireguardEndpoint where
  peer : PeerConfig
  exitPeer : Option PeerConfig
  ipv4Gateway : BitVec 32
  ipv6Gateway : BitVec 128

/-- Relays with extra addresses accept Shadowsocks there on every port. -/
def shadowsocksExtraPortRanges : List PortRange := [⟨1, 65535⟩]

variable (settings : Udp2TcpObfuscationSettings) (ports : List (BitVec 16))

def getUdp2tcpObfuscatorPort : Attempt HelperError (BitVec 16) :=
  match settings.port with
  | .only desired => okOr (pure (ports.find? fun port => desired == port)) .noMatchingPort
  | .any => okOr (choose ports) .noMatchingPort

def getUdp2tcpObfuscator (endpoint : MullvadWireguardEndpoint) : Attempt HelperError ObfuscatorConfig := do
  let port ← getUdp2tcpObfuscatorPort settings ports
  return .udp2Tcp ⟨endpoint.peer.endpoint.ip, port⟩

def getShadowsocksObfuscatorInner (wgInAddr : IpAddr) (wgInAddrPortRanges : List PortRange)
    (extraInAddrs : List IpAddr) (desiredPort : Constraint (BitVec 16)) :
    Attempt HelperError SocketAddr := do
  let extraInAddrs := extraInAddrs.filter fun addr => addr.isIpv4 == wgInAddr.isIpv4
  let inIp ← liftM (choose extraInAddrs)
  let portRanges :=
    if extraInAddrs.isEmpty then wgInAddrPortRanges else shadowsocksExtraPortRanges
  let port ← desiredOrRandomPortFromRange portRanges desiredPort
  return ⟨inIp.getD wgInAddr, port⟩

/-- The source panics if the relay is not a WireGuard relay; here such a relay has no extra
addresses. -/
def getShadowsocksObfuscator (settings : ShadowsocksSettings) (nonExtraPortRanges : List PortRange)
    (relay : Relay) (endpoint : MullvadWireguardEndpoint) : Attempt HelperError ObfuscatorConfig := do
  let extraAddrs := (relay.wireguard.map WireguardRelayEndpointData.shadowsocksExtraAddrIn).getD []
  let address ← getShadowsocksObfuscatorInner endpoint.peer.endpoint.ip nonExtraPortRanges extraAddrs
    settings.port
  return .shadowsocks address

def getQuicObfuscator (relay : Relay) (ipVersion : IpVersion) : Draw (Option ObfuscatorConfig) :=
  match relay.wireguard.bind WireguardRelayEndpointData.quic with
  | none => return none
  | some quic => do
    let addrs :=
      match ipVersion with
      | .v4 => quic.inIpv4
      | .v6 => quic.inIpv6
    let inIp ← choose addrs
    return inIp.map fun ip => .quic quic.domain ⟨ip, Quic.port⟩ quic.token

def getLwoObfuscator (relay : Relay) (endpoint : MullvadWireguardEndpoint) :
    Option ObfuscatorConfig := do
  let data ← relay.wireguard
  guard data.lwo
  let ip ← match endpoint.peer.endpoint.ip with
    | .v4 _ => some (IpAddr.v4 relay.ipv4AddrIn)
    | .v6 _ => relay.ipv6AddrIn.map IpAddr.v6
  return .lwo ⟨ip, endpoint.peer.endpoint.port⟩

/-- All obfuscation methods at once, next to a direct connection. -/
def getMultiplexerObfuscator (udp2tcpPorts : List (BitVec 16)) (shadowsocksPorts : List PortRange)
    (relay : Relay) (endpoint : MullvadWireguardEndpoint) : Attempt HelperError Obfuscators := do
  let udp2tcp ← getUdp2tcpObfuscator ⟨.any⟩ udp2tcpPorts endpoint
  let shadowsocks ← getShadowsocksObfuscator ⟨.any⟩ shadowsocksPorts relay endpoint
  let quic ← liftM (getQuicObfuscator relay endpoint.peer.endpoint.ip.version)
  return .multiplexer (some endpoint.peer.endpoint) udp2tcp (shadowsocks :: quic.toList)

end MullvadVpn.Relays
