import MullvadVpn.Firewall.Linux.Checks

/-!
What the rules of a policy accept at most, chain by chain, with one inductive predicate for each of
three parts of a batch: the rules every policy has, the rules before outgoing DNS is blocked, and the
rules after. The split matters because the rules after the block cannot let DNS through any more.
-/

namespace MullvadVpn.Firewall.Linux

open Net Systems.Nftables Systems.Fallible Chain

/-- The chains that accept and refuse packets. The others mark or rewrite them. -/
def Chain.filters : Chain → Bool
  | input | output | forward => true
  | prerouting | mangle | nat => false

inductive DhcpRequest (packet : Packet) : Prop where
  | v4 (hsport : port .udp .src packet = some dhcpv4ClientPort) (hdst : address .dst packet = broadcast)
      (hdport : port .udp .dst packet = some dhcpv4ServerPort)
  | v6 (hsrc : InNet ipv6LinkLocal (address .src packet))
      (hsport : port .udp .src packet = some dhcpv6ClientPort)
      (hdst : address .dst packet ∈ dhcpv6ServerAddrs)
      (hdport : port .udp .dst packet = some dhcpv6ServerPort)

inductive DhcpResponse (packet : Packet) : Prop where
  | v4 (hsport : port .udp .src packet = some dhcpv4ServerPort)
      (hdport : port .udp .dst packet = some dhcpv4ClientPort)
  | v6 (hsrc : InNet ipv6LinkLocal (address .src packet))
      (hsport : port .udp .src packet = some dhcpv6ServerPort)
      (hdst : InNet ipv6LinkLocal (address .dst packet))
      (hdport : port .udp .dst packet = some dhcpv6ClientPort)

inductive NdpOut (packet : Packet) : Prop where
  | routerSolicitation (hdst : address .dst packet = routerSolicitationOutDstAddr)
      (htype : packet.transport = .icmpv6 133 0)
  | neighborSolicitation (hdst : InNet solicitedNodeMulticast (address .dst packet) ∨
        InNet ipv6LinkLocal (address .dst packet))
      (htype : packet.transport = .icmpv6 135 0)
  | neighborAdvertisement (hdst : InNet ipv6LinkLocal (address .dst packet))
      (htype : packet.transport = .icmpv6 136 0)

inductive NdpIn (packet : Packet) : Prop where
  | fromLinkLocal (hsrc : InNet ipv6LinkLocal (address .src packet))
      (htype : packet.transport = .icmpv6 134 0 ∨ packet.transport = .icmpv6 137 0 ∨
        packet.transport = .icmpv6 135 0)
  | neighborAdvertisement (htype : packet.transport = .icmpv6 136 0)

inductive AllowedAlways (host : Host) (packet : Packet) : Chain → Prop where
  | loopback (h : host.ifaceIndex "lo" = some packet.oif) : AllowedAlways host packet .output
  | loopbackIn (h : host.ifaceIndex "lo" = some packet.iif) : AllowedAlways host packet .input
  | splitTunneled {chain} (h : packet.ctMark = some splitTunnelMark) : AllowedAlways host packet chain
  | dhcpRequest {chain} (hchain : chain ∈ [output, .forward]) (h : DhcpRequest packet) :
      AllowedAlways host packet chain
  | dhcpResponse {chain} (hchain : chain ∈ [input, .forward]) (h : DhcpResponse packet) :
      AllowedAlways host packet chain
  | ndpOut {chain} (hchain : chain ∈ [output, .forward]) (h : NdpOut packet) : AllowedAlways host packet chain
  | ndpIn {chain} (hchain : chain ∈ [input, .forward]) (h : NdpIn packet) : AllowedAlways host packet chain

/-- The clients of the endpoint may use the socket of the packet. -/
def ClientAllowed (endpoint : AllowedEndpoint) (packet : Packet) : Prop :=
  packet.skuid = some rootUid ∨ endpoint.clients.allowAll = true

/-- What the policy lets through also on port 53. -/
inductive AllowedBefore (host : Host) (fwmark : Nat) (policy : FirewallPolicy) (packet : Packet) :
    Chain → Prop where
  | peer {peers endpoint} (hpeers : policy.peerEndpoints = some peers) (hmem : endpoint ∈ peers)
      (hdst : IsAt .dst endpoint.endpoint packet) (hmark : packet.mark = fwmark) :
      AllowedBefore host fwmark policy packet .output
  | peerReply {peers endpoint} (hpeers : policy.peerEndpoints = some peers) (hmem : endpoint ∈ peers)
      (hsrc : IsAt .src endpoint.endpoint packet) (hestablished : IsEstablished packet) :
      AllowedBefore host fwmark policy packet .input
  | endpoint {endpoint} (hendpoint : policy.allowedEndpoint = some endpoint)
      (hdst : IsAt .dst endpoint.endpoint packet) (hclient : ClientAllowed endpoint packet) :
      AllowedBefore host fwmark policy packet .output
  | endpointReply {endpoint} (hendpoint : policy.allowedEndpoint = some endpoint)
      (hsrc : IsAt .src endpoint.endpoint packet) (hestablished : IsEstablished packet)
      (hclient : ClientAllowed endpoint packet) : AllowedBefore host fwmark policy packet .input
  | tunnelDns {chain tunnel config protocol} (hchain : chain ∈ [output, .forward])
      (htunnel : policy.tunnel = some tunnel) (hconfig : policy.dnsConfig = some config)
      (hserver : address .dst packet ∈ config.tunnelConfig)
      (hport : port protocol .dst packet = some 53)
      (hiface : host.ifaceIndex tunnel.interface = some packet.oif) :
      AllowedBefore host fwmark policy packet chain
  | localDns {chain tunnel config protocol} (hchain : chain ∈ [output, .forward])
      (htunnel : policy.tunnel = some tunnel) (hconfig : policy.dnsConfig = some config)
      (hserver : address .dst packet ∈ config.nonTunnelConfig)
      (hport : port protocol .dst packet = some 53)
      (hiface : host.ifaceIndex tunnel.interface ≠ some packet.oif) :
      AllowedBefore host fwmark policy packet chain
  | localDnsReply {chain tunnel config protocol} (hchain : chain ∈ [input, .forward])
      (htunnel : policy.tunnel = some tunnel) (hconfig : policy.dnsConfig = some config)
      (hserver : address .src packet ∈ config.nonTunnelConfig)
      (hport : port protocol .src packet = some 53)
      (hiface : host.ifaceIndex tunnel.interface ≠ some packet.iif) :
      AllowedBefore host fwmark policy packet chain

/-- The endpoints inside the tunnel that are let through one by one. -/
def trafficEndpoints : AllowedTunnelTraffic → List Endpoint
  | .none | .all => []
  | .one endpoint => [endpoint]
  | .two endpoint1 endpoint2 => [endpoint1, endpoint2]

/-- What the policy lets through except outgoing DNS. -/
inductive AllowedAfter (host : Host) (policy : FirewallPolicy) (packet : Packet) : Chain → Prop where
  | tunnel {chain tunnel} (hchain : chain ∈ [output, .forward])
      (htunnel : policy.tunnel = some tunnel) (hall : policy.allowedTunnelTraffic = .all)
      (hiface : host.ifaceIndex tunnel.interface = some packet.oif) :
      AllowedAfter host policy packet chain
  | tunnelIn {tunnel} (htunnel : policy.tunnel = some tunnel) (hall : policy.allowedTunnelTraffic = .all)
      (hiface : host.ifaceIndex tunnel.interface = some packet.iif) :
      AllowedAfter host policy packet .input
  | tunnelReply {tunnel} (htunnel : policy.tunnel = some tunnel) (hall : policy.allowedTunnelTraffic = .all)
      (hiface : host.ifaceIndex tunnel.interface = some packet.iif)
      (hestablished : IsEstablished packet) : AllowedAfter host policy packet .forward
  | tunnelEndpoint {tunnel endpoint} (htunnel : policy.tunnel = some tunnel)
      (hmem : endpoint ∈ trafficEndpoints policy.allowedTunnelTraffic)
      (hiface : host.ifaceIndex tunnel.interface = some packet.oif)
      (hdst : IsAt .dst endpoint packet) : AllowedAfter host policy packet .output
  | tunnelEndpointReply {tunnel endpoint} (htunnel : policy.tunnel = some tunnel)
      (hmem : endpoint ∈ trafficEndpoints policy.allowedTunnelTraffic)
      (hiface : host.ifaceIndex tunnel.interface = some packet.iif)
      (hsrc : IsAt .src endpoint packet) : AllowedAfter host policy packet .input
  | lan {chain net} (hchain : chain ∈ [output, .forward]) (hlan : policy.allowLan = true)
      (hnet : net ∈ allowedLanNets ++ allowedLanMulticastNets)
      (hdst : InNet net (address .dst packet)) : AllowedAfter host policy packet chain
  | lanIn {net} (hlan : policy.allowLan = true) (hnet : net ∈ allowedLanNets)
      (hsrc : InNet net (address .src packet)) : AllowedAfter host policy packet .input
  | dhcpReply (hlan : policy.allowLan = true) (hsport : port .udp .src packet = some dhcpv4ServerPort)
      (hdport : port .udp .dst packet = some dhcpv4ClientPort) :
      AllowedAfter host policy packet .output
  | dhcpRequestIn (hlan : policy.allowLan = true) (hsport : port .udp .src packet = some dhcpv4ClientPort)
      (hdst : IsAt .dst ⟨⟨broadcast, dhcpv4ServerPort⟩, .udp⟩ packet) :
      AllowedAfter host policy packet .input

variable {host : Host} {fwmark : Nat} {policy : FirewallPolicy} {chain : Chain}
  {rules : List (Rule Chain)} {chain' : Chain} {iface : String}

theorem allowInterfaceRule_accepts {direction : Direction}
    {P : Packet → Chain → Prop} (h : allowInterfaceRule host chain' direction iface = .ok rules)
    (hP : ∀ packet, host.ifaceIndex iface = some (interface direction packet) → P packet chain') :
    Accepts chain rules fun packet => P packet chain := by
  simp only [allowInterfaceRule, bind_eq_ok] at h
  obtain ⟨check, hcheck, hrules⟩ := h
  cases hrules
  exact onChain_accepts (checkIface_guards hcheck) hP

theorem addLoopbackRules_accepts (h : addLoopbackRules host = .ok rules) :
    Accepts chain rules fun packet => AllowedAlways host packet chain := by
  simp only [addLoopbackRules, bind_eq_ok] at h
  obtain ⟨outRule, hout, inRule, hin, hrules⟩ := h
  cases hrules
  exact (allowInterfaceRule_accepts hout fun _ => .loopback).append
    (allowInterfaceRule_accepts hin fun _ => .loopbackIn)

variable {C : Packet → Prop}

theorem onChains_marking {exprs} (hfilter : chain.filters = true)
    (hmarks : chain'.filters = false) : Accepts chain (onChains [chain'] exprs) C := by
  refine onChains_others fun hmem => ?_
  rw [List.mem_singleton.mp hmem, hmarks] at hfilter
  cases hfilter

theorem addDhcpClientRules_accepts :
    Accepts chain (addDhcpClientRules host) fun packet => AllowedAlways host packet chain := by
  refine .append (.append (.append ?_ ?_) ?_) ?_
  · refine (onChains_accepts (((checkPort_guards _ _ _).append (checkIp_guards _ _)).append
      (checkPort_guards _ _ _))).mono ?_
    rintro packet ⟨hchain, ⟨hsport, hdst⟩, hdport⟩
    exact .dhcpRequest hchain (.v4 hsport hdst hdport)
  · refine (onChains_accepts ((checkPort_guards _ _ _).append (checkPort_guards _ _ _))).mono ?_
    rintro packet ⟨hchain, hsport, hdport⟩
    exact .dhcpResponse hchain (.v4 hsport hdport)
  · refine .flatMap fun chain' hchain' => .flatMap fun server hserver => ?_
    refine onChain_accepts ((((checkNet_guards _ _).append (checkPort_guards _ _ _)).append
      (checkIp_guards _ _)).append (checkPort_guards _ _ _)) ?_
    rintro packet ⟨⟨⟨hsrc, hsport⟩, hdst⟩, hdport⟩
    exact .dhcpRequest hchain' (.v6 hsrc hsport (hdst ▸ hserver) hdport)
  · refine (onChains_accepts ((((checkNet_guards _ _).append (checkPort_guards _ _ _)).append
      (checkNet_guards _ _)).append (checkPort_guards _ _ _))).mono ?_
    rintro packet ⟨hchain, ⟨⟨hsrc, hsport⟩, hdst⟩, hdport⟩
    exact .dhcpResponse hchain (.v6 hsrc hsport hdst hdport)

theorem addNdpRules_accepts :
    Accepts chain (addNdpRules host) fun packet => AllowedAlways host packet chain := by
  refine .append (.append (.append (.append (.append (.append (.append ?_ ?_) ?_) ?_) ?_) ?_) ?_) ?_
  · refine (onChains_accepts ((checkIp_guards _ _).append (checkIcmpv6_guards _ _))).mono ?_
    exact fun packet h => .ndpOut h.1 (.routerSolicitation h.2.1 h.2.2)
  · refine (onChains_accepts ((checkNet_guards _ _).append (checkIcmpv6_guards _ _))).mono ?_
    exact fun packet h => .ndpIn h.1 (.fromLinkLocal h.2.1 (.inl h.2.2))
  · refine (onChains_accepts ((checkNet_guards _ _).append (checkIcmpv6_guards _ _))).mono ?_
    exact fun packet h => .ndpIn h.1 (.fromLinkLocal h.2.1 (.inr (.inl h.2.2)))
  · refine (onChains_accepts ((checkNet_guards _ _).append (checkIcmpv6_guards _ _))).mono ?_
    exact fun packet h => .ndpOut h.1 (.neighborSolicitation (.inl h.2.1) h.2.2)
  · refine (onChains_accepts ((checkNet_guards _ _).append (checkIcmpv6_guards _ _))).mono ?_
    exact fun packet h => .ndpOut h.1 (.neighborSolicitation (.inr h.2.1) h.2.2)
  · refine (onChains_accepts ((checkNet_guards _ _).append (checkIcmpv6_guards _ _))).mono ?_
    exact fun packet h => .ndpIn h.1 (.fromLinkLocal h.2.1 (.inr (.inr h.2.2)))
  · refine (onChains_accepts ((checkNet_guards _ _).append (checkIcmpv6_guards _ _))).mono ?_
    exact fun packet h => .ndpOut h.1 (.neighborAdvertisement h.2.1 h.2.2)
  · refine (onChains_accepts (checkIcmpv6_guards _ _)).mono ?_
    exact fun packet h => .ndpIn h.1 (.neighborAdvertisement h.2)

theorem forEachServer_accepts {add}
    {servers} (hrules : forEachServer add servers = .ok rules)
    (h : ∀ protocol, ∀ server ∈ servers, ∀ round, add protocol server = .ok round →
      Accepts chain round C) : Accepts chain rules C := by
  refine concatEach_accepts hrules fun server hserver round hround => ?_
  simp only [bind_eq_ok] at hround
  obtain ⟨udp, hudp, tcp, htcp, hround⟩ := hround
  cases hround
  exact (h .udp server hserver udp hudp).append (h .tcp server hserver tcp htcp)

theorem allowTunnelDnsRule_accepts {chains protocol server}
    (h : allowTunnelDnsRule host chains iface protocol server = .ok rules) :
    Accepts chain rules fun packet => chain ∈ chains ∧ host.ifaceIndex iface = some packet.oif ∧
      port protocol .dst packet = some 53 ∧ address .dst packet = server := by
  simp only [allowTunnelDnsRule, bind_eq_ok] at h
  obtain ⟨check, hcheck, hrules⟩ := h
  cases hrules
  refine (onChains_accepts (((checkIface_guards hcheck).append (checkPort_guards _ _ _)).append
    (checkIp_guards _ _))).mono ?_
  rintro packet ⟨hchain, ⟨hiface, hport⟩, hdst⟩
  exact ⟨hchain, hiface, hport, hdst⟩

theorem ifConnected_accepts {add}
    (hrules : ifConnected policy add = .ok rules)
    (h : ∀ tunnel dnsConfig added, add tunnel dnsConfig = .ok added → Accepts chain added C) :
    Accepts chain rules C := by
  cases policy with
  | connected _ _ tunnel _ dnsConfig _ => exact h tunnel dnsConfig rules hrules
  | connecting _ _ _ _ _ _ _ | blocked _ _ =>
    cases hrules
    exact .nil C

theorem addSplitTunnelingRules_accepts (hfilter : chain.filters = true)
    (h : addSplitTunnelingRules host policy fwmark = .ok rules) :
    Accepts chain rules fun packet => AllowedAlways host packet chain := by
  simp only [addSplitTunnelingRules, bind_eq_ok] at h
  obtain ⟨tunnelDns, htunnelDns, blockTunnel, hblockTunnel, notLoopback, _, prerouting, hprerouting,
    hrules⟩ := h
  cases hrules
  have hothers : ∀ {chain' : Chain} {exprs : List Expr}, chain'.filters = false →
      Accepts chain (onChains [chain'] exprs) fun packet => AllowedAlways host packet chain :=
    fun hmarks => onChains_marking hfilter hmarks
  refine .append (.append (.append (.append (.append ?_ (hothers rfl)) ?_) ?_) (hothers rfl)) ?_
  · refine ifConnected_accepts htunnelDns fun tunnel dnsConfig added hadded => ?_
    refine forEachServer_accepts hadded fun protocol server _ round hround => ?_
    refine (allowTunnelDnsRule_accepts hround).mono fun packet hpacket => ?_
    obtain rfl := List.mem_singleton.mp hpacket.1
    cases hfilter
  · exact (onChains_accepts checkSplitTunnelMark_guards).mono fun _ hpacket => .splitTunneled hpacket.2
  · refine ifConnected_accepts hblockTunnel fun tunnel dnsConfig added hadded => ?_
    simp only [bind_eq_ok] at hadded
    obtain ⟨check, _, hrules⟩ := hadded
    cases hrules
    exact hothers rfl
  · refine ifConnected_accepts hprerouting fun tunnel dnsConfig added hadded => ?_
    simp only [bind_eq_ok] at hadded
    obtain ⟨check, _, hrules⟩ := hadded
    cases hrules
    exact hothers rfl

end MullvadVpn.Firewall.Linux
