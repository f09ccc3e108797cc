import MullvadVpn.Firewall.Linux.PolicyRules

/-!
What can leave a Linux host. Apart from split-tunneled traffic, the output and forward chains of every
policy accept only packets of a short list of kinds. The forward chain also lets through what the
input chain would accept of DHCP, neighbor discovery and local DNS.
-/

namespace MullvadVpn.Firewall.Linux

open Net Systems.Nftables

/-- What may leave through the tunnel interface. -/
def TunnelTrafficAllowed : AllowedTunnelTraffic → Packet → Prop
  | .all, _ => True
  | .none, _ => False
  | .one endpoint, packet => IsAt .dst endpoint packet
  | .two endpoint1 endpoint2, packet => IsAt .dst endpoint1 packet ∨ IsAt .dst endpoint2 packet

/-- What both the output and the forward chain may accept. -/
inductive AllowedEither (host : Host) (policy : FirewallPolicy) (packet : Packet) : Prop where
  | dhcpRequest (h : DhcpRequest packet)
  | ndp (h : NdpOut packet)
  | tunnel {tunnel} (htunnel : policy.tunnel = some tunnel)
      (hiface : host.ifaceIndex tunnel.interface = some packet.oif)
      (htraffic : TunnelTrafficAllowed policy.allowedTunnelTraffic packet)
  | tunnelDns {tunnel config protocol} (htunnel : policy.tunnel = some tunnel)
      (hconfig : policy.dnsConfig = some config) (hserver : address .dst packet ∈ config.tunnelConfig)
      (hport : port protocol .dst packet = some 53)
      (hiface : host.ifaceIndex tunnel.interface = some packet.oif)
  | localDns {tunnel config protocol} (htunnel : policy.tunnel = some tunnel)
      (hconfig : policy.dnsConfig = some config)
      (hserver : address .dst packet ∈ config.nonTunnelConfig)
      (hport : port protocol .dst packet = some 53)
      (hiface : host.ifaceIndex tunnel.interface ≠ some packet.oif)
  | lan {net} (hlan : policy.allowLan = true) (hnet : net ∈ allowedLanNets ++ allowedLanMulticastNets)
      (hdst : net.contains (address .dst packet) = true)

/-- What the output chain may accept. -/
inductive AllowedOut (host : Host) (fwmark : Nat) (policy : FirewallPolicy) (packet : Packet) : Prop where
  | loopback (h : host.ifaceIndex "lo" = some packet.oif)
  | either (h : AllowedEither host policy packet)
  | peer {peers endpoint} (hpeers : policy.peerEndpoints = some peers) (hmem : endpoint ∈ peers)
      (hdst : IsAt .dst endpoint.endpoint packet) (hmark : packet.mark = fwmark)
  | endpoint {endpoint} (hendpoint : policy.allowedEndpoint = some endpoint)
      (hdst : IsAt .dst endpoint.endpoint packet) (hclient : ClientAllowed endpoint packet)
  | dhcpReply (hlan : policy.allowLan = true) (hsport : port .udp .src packet = some dhcpv4ServerPort)
      (hdport : port .udp .dst packet = some dhcpv4ClientPort)

structure TunnelReply (host : Host) (policy : FirewallPolicy) (packet : Packet) : Prop where
  iface : ∃ tunnel, policy.tunnel = some tunnel ∧ host.ifaceIndex tunnel.interface = some packet.iif
  established : IsEstablished packet

/-- What the forward chain may accept. -/
inductive AllowedForward (host : Host) (policy : FirewallPolicy) (packet : Packet) : Prop where
  | either (h : AllowedEither host policy packet)
  | tunnelReply (h : TunnelReply host policy packet)
  | dhcpResponse (h : DhcpResponse packet)
  | ndpIn (h : NdpIn packet)
  | localDnsReply {tunnel config protocol} (htunnel : policy.tunnel = some tunnel)
      (hconfig : policy.dnsConfig = some config)
      (hserver : address .src packet ∈ config.nonTunnelConfig)
      (hport : port protocol .src packet = some 53)
      (hiface : host.ifaceIndex tunnel.interface ≠ some packet.iif)

variable {host : Host} {fwmark : Nat} {policy : FirewallPolicy} {batch : List (Rule Chain)}
  {packet : Packet}

theorem TunnelTrafficAllowed.of_mem {endpoint : Endpoint} {traffic : AllowedTunnelTraffic}
    (hmem : endpoint ∈ trafficEndpoints traffic) (hdst : IsAt .dst endpoint packet) :
    TunnelTrafficAllowed traffic packet := by
  cases traffic with
  | none | all => cases hmem
  | one endpoint' =>
    obtain rfl := List.mem_singleton.mp hmem
    exact hdst
  | two endpoint1 endpoint2 =>
    rcases List.mem_pair.mp hmem with rfl | rfl
    · exact Or.inl hdst
    · exact Or.inr hdst

theorem accepted_output (h : finalize host policy fwmark = .ok batch)
    (hmark : packet.ctMark ≠ some splitTunnelMark) (haccept : verdict batch .output packet = .accept) :
    AllowedOut host fwmark policy packet := by
  rcases (finalize_permits rfl h).of_accept (evaluate_of_accept rfl haccept) with
    halways | hbefore | hafter
  · cases halways with
    | loopback h => exact .loopback h
    | splitTunneled h => exact absurd h hmark
    | dhcpRequest _ h => exact .either (.dhcpRequest h)
    | ndpOut _ h => exact .either (.ndp h)
    | dhcpResponse hchain _ | ndpIn hchain _ => simp at hchain
  · cases hbefore with
    | peer hpeers hmem hdst hmark => exact .peer hpeers hmem hdst hmark
    | endpoint hendpoint hdst hclient => exact .endpoint hendpoint hdst hclient
    | tunnelDns _ htunnel hconfig hserver hport hiface =>
      exact .either (.tunnelDns htunnel hconfig hserver hport hiface)
    | localDns _ htunnel hconfig hserver hport hiface =>
      exact .either (.localDns htunnel hconfig hserver hport hiface)
    | localDnsReply hchain _ _ _ _ _ => simp at hchain
  · cases hafter with
    | tunnel _ htunnel hall hiface => exact .either (.tunnel htunnel hiface (by rw [hall]; trivial))
    | tunnelEndpoint htunnel hmem hiface hdst =>
      exact .either (.tunnel htunnel hiface (.of_mem hmem hdst))
    | lan _ hlan hnet hdst => exact .either (.lan hlan hnet hdst.contains)
    | dhcpReply hlan hsport hdport => exact .dhcpReply hlan hsport hdport

theorem accepted_forward (h : finalize host policy fwmark = .ok batch)
    (hmark : packet.ctMark ≠ some splitTunnelMark) (haccept : verdict batch .forward packet = .accept) :
    AllowedForward host policy packet := by
  rcases (finalize_permits rfl h).of_accept (evaluate_of_accept rfl haccept) with
    halways | hbefore | hafter
  · cases halways with
    | splitTunneled h => exact absurd h hmark
    | dhcpRequest _ h => exact .either (.dhcpRequest h)
    | dhcpResponse _ h => exact .dhcpResponse h
    | ndpOut _ h => exact .either (.ndp h)
    | ndpIn _ h => exact .ndpIn h
  · cases hbefore with
    | tunnelDns _ htunnel hconfig hserver hport hiface =>
      exact .either (.tunnelDns htunnel hconfig hserver hport hiface)
    | localDns _ htunnel hconfig hserver hport hiface =>
      exact .either (.localDns htunnel hconfig hserver hport hiface)
    | localDnsReply _ htunnel hconfig hserver hport hiface =>
      exact .localDnsReply htunnel hconfig hserver hport hiface
  · cases hafter with
    | tunnel _ htunnel hall hiface => exact .either (.tunnel htunnel hiface (by rw [hall]; trivial))
    | tunnelReply htunnel _ hiface hestablished =>
      exact .tunnelReply ⟨⟨_, htunnel, hiface⟩, hestablished⟩
    | lan _ hlan hnet hdst => exact .either (.lan hlan hnet hdst.contains)

/-- **No leaks.** Of all packets that are not split-tunneled, the output chain accepts only those of
`AllowedOut` and the forward chain only those of `AllowedForward`. -/
theorem no_leak (h : finalize host policy fwmark = .ok batch) :
    (∀ packet, (mangled batch packet).ctMark ≠ some splitTunnelMark →
      verdict batch .output (mangled batch packet) = .accept →
      AllowedOut host fwmark policy (mangled batch packet)) ∧
    ∀ packet : Packet, packet.ctMark ≠ some splitTunnelMark →
      verdict batch .forward packet = .accept → AllowedForward host policy packet :=
  ⟨fun _ => accepted_output h, fun _ => accepted_forward h⟩

def apiPacket : Packet where
  network := .ipv4 (ipv4Addr 192 168 1 2) (ipv4Addr 192 0 2 2)
  transport := .tcp 50000 443
  iif := 0
  oif := 3
  skuid := some 0
  cgroup := none
  mark := 0
  ctState := 8
  ctMark := some 0

def apiEndpoint : AllowedEndpoint := ⟨⟨⟨.v4 (ipv4Addr 192 0 2 2), 443⟩, .tcp⟩, .root⟩

theorem no_leak_api :
    ∃ batch, finalize sampleHost (.blocked false (some apiEndpoint)) 1 = .ok batch ∧
      verdict batch .output (mangled batch apiPacket) = .accept ∧
      AllowedOut sampleHost 1 (.blocked false (some apiEndpoint)) (mangled batch apiPacket) := by
  obtain ⟨batch, hbatch⟩ : ∃ batch,
      finalize sampleHost (.blocked false (some apiEndpoint)) 1 = .ok batch := ⟨_, rfl⟩
  have hleak := (no_leak hbatch).1 apiPacket
  cases hbatch
  exact ⟨_, rfl, by decide, hleak (by decide) (by decide)⟩

/-- The forwarded packets one might expect from the outgoing ones: the same without those to a peer or
to the allowed endpoint, and replies from the tunnel. -/
inductive ExpectedForward (host : Host) (policy : FirewallPolicy) (packet : Packet) : Prop where
  | loopback (h : host.ifaceIndex "lo" = some packet.oif)
  | either (h : AllowedEither host policy packet)
  | dhcpReply (hlan : policy.allowLan = true) (hsport : port .udp .src packet = some dhcpv4ServerPort)
      (hdport : port .udp .dst packet = some dhcpv4ClientPort)
  | tunnelReply (h : TunnelReply host policy packet)

/-- An answer of a DHCP server on its way to another host. -/
def dhcpResponsePacket : Packet where
  network := .ipv4 (ipv4Addr 203 0 113 1) (ipv4Addr 203 0 113 2)
  transport := .udp 67 68
  iif := 3
  oif := 4
  skuid := none
  cgroup := none
  mark := 0
  ctState := 8
  ctMark := some 0

/-- Without LAN access the forward chain still accepts answers of DHCP servers. -/
theorem forwards_dhcp_responses :
    ∃ batch, finalize sampleHost (.blocked false none) 1 = .ok batch ∧
      dhcpResponsePacket.ctMark ≠ some splitTunnelMark ∧
      verdict batch .forward dhcpResponsePacket = .accept ∧
      ¬ ExpectedForward sampleHost (.blocked false none) dhcpResponsePacket := by
  refine ⟨_, rfl, by decide, by decide, fun h => ?_⟩
  cases h with
  | loopback h => exact absurd h (by decide)
  | dhcpReply hlan _ _ => cases hlan
  | tunnelReply h =>
    obtain ⟨tunnel, htunnel, _⟩ := h.iface
    cases htunnel
  | either h =>
    cases h with
    | dhcpRequest h =>
      cases h with
      | v4 hsport _ _ => exact absurd hsport (by decide)
      | v6 hsrc _ _ _ => cases hsrc
    | ndp h =>
      cases h with
      | routerSolicitation _ htype => cases htype
      | neighborSolicitation _ htype | neighborAdvertisement _ htype => cases htype
    | tunnel htunnel _ _ | tunnelDns htunnel _ _ _ _ | localDns htunnel _ _ _ _ => cases htunnel
    | lan hlan _ _ => cases hlan

end MullvadVpn.Firewall.Linux
