import MullvadVpn.Firewall.Linux.Batch

/-!
What the checks of the Linux rules mean: the packets that each of them lets through, in terms of
addresses, ports and interfaces.
-/

namespace MullvadVpn.Firewall.Linux

open Net Systems.Nftables Systems.Fallible Guards

variable {host : Host} {checks : List Expr} {chain : Chain} {chains : List Chain}
  (e : End) (protocol : TransportProtocol) (endpoint : Endpoint) (packet : Packet)

def address : IpAddr :=
  match packet.network, e with
  | .ipv4 saddr _, .src => .v4 saddr
  | .ipv4 _ daddr, .dst => .v4 daddr
  | .ipv6 saddr _, .src => .v6 saddr
  | .ipv6 _ daddr, .dst => .v6 daddr

def port (e : End) (packet : Packet) : Option (BitVec 16) :=
  match packet.transport, protocol, e with
  | .udp sport _, .udp, .src => some sport
  | .udp _ dport, .udp, .dst => some dport
  | .tcp sport _, .tcp, .src => some sport
  | .tcp _ dport, .tcp, .dst => some dport
  | _, _, _ => none

def interface (direction : Direction) (packet : Packet) : Nat :=
  match direction with
  | .incoming => packet.iif
  | .outgoing => packet.oif

def IsAt : Prop :=
  address e packet = endpoint.address.ip ∧ port endpoint.protocol e packet = some endpoint.address.port

def IsEstablished : Prop :=
  packet.ctState &&& established ≠ 0

/-- The masked address is the address of the network, which is what the rules compare. -/
def InNet : IpNetwork → IpAddr → Prop
  | .v4 net, .v4 bits => bits &&& net.mask = net.ip
  | .v6 net, .v6 bits => bits &&& net.mask = net.ip
  | _, _ => False

theorem InNet.contains {net ip} (h : InNet net ip) : net.contains ip = true := by
  have hmasked : ∀ {w : Nat} {net : Network w} {bits : BitVec w}, bits &&& net.mask = net.ip →
      net.contains bits = true := by
    intro w net bits h
    simp only [Network.contains, Network.network, beq_iff_eq]
    rw [← h, BitVec.and_assoc, BitVec.and_self]
  cases net <;> cases ip
  · exact hmasked h
  · cases h
  · cases h
  · exact hmasked h

theorem checkIp_guards (ip : IpAddr) : Guards (checkIp e ip) fun packet => address e packet = ip := by
  -- Both families are checked alike.
  cases ip
  all_goals
    refine ((load_eq _ _).append (load_eq _ _)).congr fun packet => ?_
    rcases hnetwork : packet.network with ⟨saddr, daddr⟩ | ⟨saddr, daddr⟩ <;> cases e <;>
      simp [address, hnetwork, addressSource, Packet.read, Packet.nfproto, nfprotoIpv4, nfprotoIpv6,
        BitVec.toNat_inj]

theorem checkNet_guards (net : IpNetwork) :
    Guards (checkNet e net) fun packet => InNet net (address e packet) := by
  cases net
  all_goals
    refine ((load_eq _ _).append (load_bitwise _ _ _ _ _)).congr fun packet => ?_
    rcases hnetwork : packet.network with ⟨saddr, daddr⟩ | ⟨saddr, daddr⟩ <;> cases e <;>
      simp [address, hnetwork, addressSource, Packet.read, Packet.nfproto, nfprotoIpv4, nfprotoIpv6,
        InNet, CmpOp.holds, ← BitVec.toNat_and, BitVec.toNat_inj]

theorem checkPort_guards (e : End) (number : BitVec 16) :
    Guards (checkPort protocol e number) fun packet => port protocol e packet = some number := by
  refine ((load_eq _ _).append (load_eq _ _)).congr fun packet => ?_
  rcases htransport : packet.transport with ⟨sport, dport⟩ | ⟨sport, dport⟩ | ⟨type, code⟩ | other <;>
    cases protocol <;> cases e <;>
    simp [port, htransport, portSource, l4proto, Packet.read, Packet.l4proto, ipprotoUdp, ipprotoTcp,
      ipprotoIcmpv6, BitVec.toNat_inj]

theorem checkEndpoint_guards : Guards (checkEndpoint e endpoint) (IsAt e endpoint) :=
  (checkIp_guards e _).append (checkPort_guards _ e _)

theorem checkIcmpv6_guards (type code : BitVec 8) :
    Guards (checkIcmpv6 type code) fun packet => packet.transport = .icmpv6 type code := by
  refine (((load_eq _ _).append (load_eq _ _)).append (load_eq _ _)).congr fun packet => ?_
  rcases htransport : packet.transport with ⟨sport, dport⟩ | ⟨sport, dport⟩ | ⟨type', code'⟩ | other <;>
    simp [htransport, Packet.read, Packet.l4proto, ipprotoUdp, ipprotoTcp, ipprotoIcmpv6, BitVec.toNat_inj]

theorem checkEstablished_guards : Guards checkEstablished IsEstablished := by
  refine (load_bitwise _ _ _ _ _).congr fun packet => ?_
  simp [Packet.read, CmpOp.holds, IsEstablished]

theorem checkSplitTunnelMark_guards :
    Guards checkSplitTunnelMark fun packet => packet.ctMark = some splitTunnelMark :=
  .load_eq _ _

theorem checkClients_guards (clients : AllowedClients) :
    Guards (checkClients clients) fun packet => packet.skuid = some rootUid ∨ clients.allowAll = true := by
  refine (load_eq _ _).ite.congr fun packet => ?_
  simp only [Packet.read, Bool.not_eq_true]
  cases clients.allowAll <;> simp

variable {direction : Direction} {iface : String} {check : List Expr}

theorem checkIface_guards (h : checkIface host direction iface = .ok check) :
    Guards check fun packet => host.ifaceIndex iface = some (interface direction packet) := by
  unfold checkIface lookupIfaceIndex at h
  cases hindex : host.ifaceIndex iface with
  | none =>
    rw [hindex] at h
    cases h
  | some index =>
    rw [hindex] at h
    cases h
    refine (load_eq _ _).congr fun packet => ?_
    cases direction <;> simp [interfaceSource, Packet.read, interface, eq_comm]

theorem checkNotIface_guards (h : checkNotIface host direction iface = .ok check) :
    Guards check fun packet => host.ifaceIndex iface ≠ some (interface direction packet) := by
  unfold checkNotIface lookupIfaceIndex at h
  cases hindex : host.ifaceIndex iface with
  | none =>
    rw [hindex] at h
    cases h
  | some index =>
    rw [hindex] at h
    cases h
    refine (load_neq _ _).congr fun packet => ?_
    cases direction <;> simp [interfaceSource, Packet.read, interface, eq_comm]

theorem counter_guards (host : Host) : Guards (counter host) fun _ => True :=
  Guards.counter.ite.congr fun _ => ⟨fun _ => trivial, fun _ _ => trivial⟩

variable {C : Packet → Prop}

theorem addVerdict_decides {packet} (host : Host) (verdict : Verdict)
    (h : Guards checks C) (hC : C packet) : (run (addVerdict host checks verdict) 0 packet).1 ≠ none := by
  rcases (h.append (counter_guards host)).run_verdict verdict packet with ⟨_, hrun⟩ | ⟨hnot, _⟩
  · rw [addVerdict, hrun]
    exact Option.some_ne_none verdict
  · exact absurd ⟨hC, trivial⟩ hnot

theorem onChains_accepts (h : Guards checks C) :
    Accepts chain (onChains chains (addVerdict host checks .accept))
      fun packet => chain ∈ chains ∧ C packet := by
  have hguards : Guards (checks ++ counter host) C :=
    (h.append (counter_guards host)).congr fun _ => and_iff_left trivial
  intro rule hrule hchain
  obtain ⟨chain', hmem, rfl⟩ := List.mem_map.mp hrule
  obtain rfl : chain' = chain := hchain
  exact ((Accepts.accept hguards chain').mono fun _ hC => ⟨hmem, hC⟩) _ (List.mem_singleton_self _) rfl

theorem onChain_accepts {chain' : Chain} {P : Packet → Chain → Prop}
    (h : Guards checks C) (hP : ∀ packet, C packet → P packet chain') :
    Accepts chain (onChains [chain'] (addVerdict host checks .accept)) fun packet => P packet chain := by
  refine (onChains_accepts h).mono ?_
  rintro packet ⟨hchain, hC⟩
  obtain rfl := List.mem_singleton.mp hchain
  exact hP packet hC

theorem onChains_refuses {D verdict} (h : Guards checks C)
    (hverdict : verdict ≠ .accept) : Permits chain (onChains chains (addVerdict host checks verdict)) D := by
  have hguards : Guards (checks ++ counter host) C :=
    (h.append (counter_guards host)).congr fun _ => and_iff_left trivial
  intro rule hrule hchain
  obtain ⟨chain', _, rfl⟩ := List.mem_map.mp hrule
  obtain rfl : chain' = chain := hchain
  exact ((Permits.refuse hguards chain' hverdict).mono fun _ => False.elim) _ (List.mem_singleton_self _) rfl

theorem onChains_others {exprs} (h : chain ∉ chains) :
    Accepts chain (onChains chains exprs) C := by
  refine Each.of_ne fun rule hrule hchain => ?_
  obtain ⟨chain', hmem, rfl⟩ := List.mem_map.mp hrule
  exact h (hchain ▸ hmem)

theorem concatEach_accepts {α : Type} {f : α → Except Error (List (Rule Chain))} {items : List α}
    {rules : List (Rule Chain)} (hrules : concatEach f items = .ok rules)
    (h : ∀ item ∈ items, ∀ round, f item = .ok round → Accepts chain round C) : Accepts chain rules C := by
  intro rule hrule
  obtain ⟨item, hitem, round, hround, hmem⟩ := mem_concatEach hrules hrule
  exact h item hitem round hround rule hmem

end MullvadVpn.Firewall.Linux
