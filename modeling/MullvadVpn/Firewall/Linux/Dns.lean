import MullvadVpn.Firewall.Linux.PolicyRules

/-!
Where DNS can go on Linux. Everything that is accepted on port 53 is accepted before the rules that
block DNS. With the configuration that the daemon computes from the user's options, a query to a
public address leaves through the tunnel, and only to a resolver that the options ask for.
-/

namespace MullvadVpn.Firewall.Linux

open Net Systems.Nftables

def IsDns (packet : Packet) : Prop :=
  ∃ protocol, port protocol .dst packet = some 53

/-- The DNS servers that a policy lets through. -/
inductive DnsServerAllowed (host : Host) (policy : FirewallPolicy) (packet : Packet) : Prop where
  | inTunnel {tunnel config} (htunnel : policy.tunnel = some tunnel)
      (hconfig : policy.dnsConfig = some config) (hserver : address .dst packet ∈ config.tunnelConfig)
      (hiface : host.ifaceIndex tunnel.interface = some packet.oif)
  | outside {tunnel config} (htunnel : policy.tunnel = some tunnel) (hconfig : policy.dnsConfig = some config)
      (hserver : address .dst packet ∈ config.nonTunnelConfig)
      (hiface : host.ifaceIndex tunnel.interface ≠ some packet.oif)

/-- What may be sent to port 53. A connected policy has no allowed endpoint, and the others have no
DNS servers. -/
inductive DnsAllowed (host : Host) (fwmark : Nat) (policy : FirewallPolicy) (packet : Packet) : Prop where
  | peer {peers endpoint} (hpeers : policy.peerEndpoints = some peers) (hmem : endpoint ∈ peers)
      (hdst : IsAt .dst endpoint.endpoint packet) (hmark : packet.mark = fwmark)
  | endpoint {endpoint} (hendpoint : policy.allowedEndpoint = some endpoint)
      (hdst : IsAt .dst endpoint.endpoint packet) (hclient : ClientAllowed endpoint packet)
  | server (h : DnsServerAllowed host policy packet)

/-- A packet from port 53 of a DNS server outside the tunnel. -/
def IsLocalDnsReply (policy : FirewallPolicy) (packet : Packet) : Prop :=
  ∃ config protocol, policy.dnsConfig = some config ∧ address .src packet ∈ config.nonTunnelConfig ∧
    port protocol .src packet = some 53

variable {host : Host} {fwmark : Nat} {policy : FirewallPolicy} {batch : List (Rule Chain)}
  {packet : Packet} {chain : Chain}

section

variable (h : IsDns packet)

include h

theorem IsDns.ne_icmpv6 (type code : BitVec 8) : packet.transport ≠ .icmpv6 type code := by
  obtain ⟨protocol, hport⟩ := h
  intro htransport
  simp [port, htransport] at hport

theorem IsDns.udp_port {number : BitVec 16}
    (hport : port .udp .dst packet = some number) : number = 53 := by
  obtain ⟨protocol, hdns⟩ := h
  unfold port at hport hdns
  rcases htransport : packet.transport with ⟨sport, dport⟩ | ⟨sport, dport⟩ | ⟨type, code⟩ | other <;>
    rw [htransport] at hport hdns <;> cases protocol <;> simp at hport hdns
  exact hport.symm.trans hdns

/-- Of the rules every policy has, DNS matches only those for loopback and split tunneling. -/
theorem IsDns.allowedAlways (halways : AllowedAlways host packet chain)
    (hchain : chain ∈ [Chain.output, .forward]) :
    chain = .output ∧ host.ifaceIndex "lo" = some packet.oif ∨ packet.ctMark = some splitTunnelMark := by
  cases halways with
  | loopback hiface => exact Or.inl ⟨rfl, hiface⟩
  | loopbackIn _ => simp at hchain
  | splitTunneled hmark => exact Or.inr hmark
  | dhcpRequest _ hdhcp =>
    cases hdhcp with
    | v4 _ _ hdport | v6 _ _ _ hdport => exact absurd (h.udp_port hdport) (by decide)
  | dhcpResponse _ hdhcp =>
    cases hdhcp with
    | v4 _ hdport | v6 _ _ _ hdport => exact absurd (h.udp_port hdport) (by decide)
  | ndpOut _ hndp =>
    cases hndp with
    | routerSolicitation _ htype => exact absurd htype (h.ne_icmpv6 _ _)
    | neighborSolicitation _ htype | neighborAdvertisement _ htype => exact absurd htype (h.ne_icmpv6 _ _)
  | ndpIn _ hndp =>
    cases hndp with
    | fromLinkLocal _ htype =>
      rcases htype with htype | htype | htype <;> exact absurd htype (h.ne_icmpv6 _ _)
    | neighborAdvertisement htype => exact absurd htype (h.ne_icmpv6 _ _)

theorem IsDns.accepted (hchain : chain ∈ [Chain.output, .forward])
    (hfinalize : finalize host policy fwmark = .ok batch)
    (hloopback : chain = .output → host.ifaceIndex "lo" ≠ some packet.oif)
    (hmark : packet.ctMark ≠ some splitTunnelMark) (haccept : verdict batch chain packet = .accept) :
    AllowedBefore host fwmark policy packet chain := by
  have hfilter : chain.filters = true := by rcases List.mem_pair.mp hchain with rfl | rfl <;> rfl
  obtain ⟨before, tunnelRules, rfl, hbefore, _⟩ := finalize_shape hfilter hfinalize
  have haccepted := hbefore.permits.of_accept_before (addDropDnsRule_refuses hchain) h
    (evaluate_of_accept hfilter haccept)
  rcases haccepted with halways | hallowed
  · rcases h.allowedAlways halways hchain with ⟨hout, hiface⟩ | hsplit
    · exact absurd hiface (hloopback hout)
    · exact absurd hsplit hmark
  · exact hallowed

theorem dns_output (hfinalize : finalize host policy fwmark = .ok batch)
    (hloopback : host.ifaceIndex "lo" ≠ some packet.oif)
    (hmark : packet.ctMark ≠ some splitTunnelMark) (haccept : verdict batch .output packet = .accept) :
    DnsAllowed host fwmark policy packet := by
  cases h.accepted (by simp) hfinalize (fun _ => hloopback) hmark haccept with
  | peer hpeers hmem hdst hmark => exact .peer hpeers hmem hdst hmark
  | endpoint hendpoint hdst hclient => exact .endpoint hendpoint hdst hclient
  | tunnelDns _ htunnel hconfig hserver _ hiface => exact .server (.inTunnel htunnel hconfig hserver hiface)
  | localDns _ htunnel hconfig hserver _ hiface => exact .server (.outside htunnel hconfig hserver hiface)
  | localDnsReply hchain _ _ _ _ _ => simp at hchain

theorem dns_forward (hfinalize : finalize host policy fwmark = .ok batch)
    (hmark : packet.ctMark ≠ some splitTunnelMark) (hreply : ¬ IsLocalDnsReply policy packet)
    (haccept : verdict batch .forward packet = .accept) : DnsServerAllowed host policy packet := by
  cases h.accepted (by simp) hfinalize (by simp) hmark haccept with
  | tunnelDns _ htunnel hconfig hserver _ hiface => exact .inTunnel htunnel hconfig hserver hiface
  | localDns _ htunnel hconfig hserver _ hiface => exact .outside htunnel hconfig hserver hiface
  | localDnsReply _ _ hconfig hserver hport _ => exact absurd ⟨_, _, hconfig, hserver, hport⟩ hreply

end

/-- A resolver that the user's options ask for. -/
inductive ResolverOf (options : DnsOptions) (gateways : List IpAddr) (ip : IpAddr) : Prop where
  | custom (hstate : options.state = .custom) (hmem : ip ∈ options.customAddresses)
  | contentBlocking (hstate : options.state = .default) (hblocks : options.defaultOptions.lastByte ≠ 0)
      (hip : ip = options.defaultOptions.blockingResolver)
  | gateway (hmem : ip ∈ gateways)

theorem resolve_cases (options : DnsOptions) (gateways : List IpAddr) (number : BitVec 16) (ip : IpAddr) :
    (ip ∈ ((addressesFromOptions options).resolve gateways number).tunnelConfig →
      ResolverOf options gateways ip) ∧
    (ip ∈ ((addressesFromOptions options).resolve gateways number).nonTunnelConfig →
      isLocalAddress ip = true) := by
  unfold addressesFromOptions
  cases hstate : options.state with
  | default =>
    dsimp only
    split_ifs with hblocks
    · refine ⟨fun hmem => ?_, fun hmem => by cases hmem⟩
      exact .contentBlocking hstate hblocks (List.mem_singleton.mp hmem)
    · exact ⟨fun hmem => .gateway hmem, fun hmem => by cases hmem⟩
  | custom =>
    dsimp only
    split_ifs
    · exact ⟨fun hmem => .gateway hmem, fun hmem => by cases hmem⟩
    · simp only [List.partition_eq_filter_filter, DnsConfig.resolve]
      refine ⟨fun hmem => ?_, fun hmem => ?_⟩
      · exact .custom hstate (List.mem_filter.mp hmem).1
      · exact (List.mem_filter.mp hmem).2

/-- **No DNS leaks.** What a policy lets through on port 53, and what follows for a connected policy
with the daemon's DNS configuration. -/
theorem no_dns_leak (hfinalize : finalize host policy fwmark = .ok batch) :
    (∀ packet, IsDns (mangled batch packet) → host.ifaceIndex "lo" ≠ some (mangled batch packet).oif →
      (mangled batch packet).ctMark ≠ some splitTunnelMark →
      verdict batch .output (mangled batch packet) = .accept →
      DnsAllowed host fwmark policy (mangled batch packet)) ∧
    (∀ packet : Packet, IsDns packet → packet.ctMark ≠ some splitTunnelMark →
      ¬ IsLocalDnsReply policy packet → verdict batch .forward packet = .accept →
      DnsServerAllowed host policy packet) ∧
    ∀ options gateways, policy.dnsConfig = some ((addressesFromOptions options).resolve gateways 53) →
      ∀ packet, IsDns (mangled batch packet) → host.ifaceIndex "lo" ≠ some (mangled batch packet).oif →
        (mangled batch packet).ctMark ≠ some splitTunnelMark →
        verdict batch .output (mangled batch packet) = .accept →
        isLocalAddress (address .dst (mangled batch packet)) = false →
        (∀ peers, policy.peerEndpoints = some peers →
          ∀ peer ∈ peers, ¬ IsAt .dst peer.endpoint (mangled batch packet)) →
        (∃ tunnel, policy.tunnel = some tunnel ∧
          host.ifaceIndex tunnel.interface = some (mangled batch packet).oif) ∧
        ResolverOf options gateways (address .dst (mangled batch packet)) := by
  refine ⟨fun _ hdns => dns_output hdns hfinalize, fun _ hdns => dns_forward hdns hfinalize, ?_⟩
  intro options gateways hconfig packet hdns hloopback hmark haccept hpublic hpeers
  have hresolve := resolve_cases options gateways 53 (address .dst (mangled batch packet))
  cases dns_output hdns hfinalize hloopback hmark haccept with
  | peer hpeers' hmem hdst _ => exact absurd hdst (hpeers _ hpeers' _ hmem)
  | endpoint hendpoint _ _ =>
    -- a policy with DNS servers is a connected one
    cases policy with
    | connecting _ _ _ _ _ _ _ => cases hconfig
    | connected _ _ _ _ _ _ => cases hendpoint
    | blocked _ _ => cases hconfig
  | server hserver =>
    cases hserver with
    | inTunnel htunnel hconfig' hserver hiface =>
      obtain rfl := Option.some.inj (hconfig'.symm.trans hconfig)
      exact ⟨⟨_, htunnel, hiface⟩, hresolve.1 hserver⟩
    | outside _ hconfig' hserver _ =>
      obtain rfl := Option.some.inj (hconfig'.symm.trans hconfig)
      rw [hresolve.2 hserver] at hpublic
      cases hpublic

def dnsOptions : DnsOptions := ⟨.custom, ⟨true, false, false, false, false, false⟩,
  [.v4 (ipv4Addr 9 9 9 9), .v4 (ipv4Addr 192 168 1 1)]⟩

/-- A connected policy with one resolver in the tunnel and one outside. -/
def dnsPolicy : FirewallPolicy :=
  .connected [] none ⟨"wg0-mullvad", [.v4 (ipv4Addr 10 8 0 2)], ipv4Addr 10 64 0 1, none⟩ true
    ((addressesFromOptions dnsOptions).resolve [.v4 (ipv4Addr 10 64 0 1)] 53) none

def dnsQuery : Packet where
  network := .ipv4 (ipv4Addr 10 8 0 2) (ipv4Addr 9 9 9 9)
  transport := .udp 50000 53
  iif := 0
  oif := 2
  skuid := some 1000
  cgroup := none
  mark := 0
  ctState := 8
  ctMark := some 0

theorem no_dns_leak_custom :
    ∃ batch, finalize sampleHost dnsPolicy 1 = .ok batch ∧
      verdict batch .output (mangled batch dnsQuery) = .accept ∧
      ResolverOf dnsOptions [.v4 (ipv4Addr 10 64 0 1)] (address .dst (mangled batch dnsQuery)) := by
  obtain ⟨batch, hbatch⟩ : ∃ batch, finalize sampleHost dnsPolicy 1 = .ok batch := ⟨_, rfl⟩
  have hleak := (no_dns_leak hbatch).2.2 dnsOptions [.v4 (ipv4Addr 10 64 0 1)] rfl dnsQuery
  cases hbatch
  refine ⟨_, rfl, by decide, (hleak ⟨.udp, by decide⟩ (by decide) (by decide) (by decide) (by decide) ?_).2⟩
  rintro peers hpeers peer hmem
  obtain rfl := Option.some.inj hpeers
  cases hmem

end MullvadVpn.Firewall.Linux
