import MullvadVpn.Firewall.Linux.PolicyRules

/-!
What can enter a Linux host. Apart from split-tunneled traffic, the input chain of every policy
accepts only packets of a short list of kinds. The rules against CVE-2019-14899 come after everything
that may be sent to the addresses of the tunnel and before the rules of the local network, so a host on
the local network cannot reach those addresses. A connected policy takes all that the tunnel brings.
-/

namespace MullvadVpn.Firewall

/-- The same policy without access to the local network. -/
def FirewallPolicy.withoutLan : FirewallPolicy → FirewallPolicy
  | connecting peerEndpoints exitEndpointIp tunnel _ allowedEndpoint allowedTunnelTraffic redirectInterface =>
    connecting peerEndpoints exitEndpointIp tunnel false allowedEndpoint allowedTunnelTraffic redirectInterface
  | connected peerEndpoints exitEndpointIp tunnel _ dnsConfig redirectInterface =>
    connected peerEndpoints exitEndpointIp tunnel false dnsConfig redirectInterface
  | blocked _ allowedEndpoint => blocked false allowedEndpoint

namespace FirewallPolicy

variable (policy : FirewallPolicy)

@[simp] theorem allowLan_withoutLan : policy.withoutLan.allowLan = false := by
  cases policy <;> rfl

@[simp] theorem tunnel_withoutLan : policy.withoutLan.tunnel = policy.tunnel := by
  cases policy <;> rfl

@[simp] theorem allowedTunnelTraffic_withoutLan :
    policy.withoutLan.allowedTunnelTraffic = policy.allowedTunnelTraffic := by
  cases policy <;> rfl

end FirewallPolicy

namespace Linux

open Net Systems.Nftables Systems.Fallible

/-- What may come in through the tunnel interface. -/
def TunnelTrafficExpected (traffic : AllowedTunnelTraffic) (packet : Packet) : Prop :=
  traffic = .all ∨ ∃ endpoint ∈ trafficEndpoints traffic, IsAt .src endpoint packet

/-- What the input chain may accept whether or not the local network is allowed. -/
inductive AllowedIn (host : Host) (policy : FirewallPolicy) (packet : Packet) : Prop where
  | loopback (h : host.ifaceIndex "lo" = some packet.iif)
  | dhcpResponse (h : DhcpResponse packet)
  | ndp (h : NdpIn packet)
  | peerReply {peers endpoint} (hpeers : policy.peerEndpoints = some peers) (hmem : endpoint ∈ peers)
      (hsrc : IsAt .src endpoint.endpoint packet) (hestablished : IsEstablished packet)
  | endpointReply {endpoint} (hendpoint : policy.allowedEndpoint = some endpoint)
      (hsrc : IsAt .src endpoint.endpoint packet) (hestablished : IsEstablished packet)
      (hclient : ClientAllowed endpoint packet)
  | localDnsReply {tunnel config protocol} (htunnel : policy.tunnel = some tunnel)
      (hconfig : policy.dnsConfig = some config)
      (hserver : address .src packet ∈ config.nonTunnelConfig)
      (hport : port protocol .src packet = some 53)
      (hiface : host.ifaceIndex tunnel.interface ≠ some packet.iif)
  | tunnel {tunnel} (htunnel : policy.tunnel = some tunnel)
      (hiface : host.ifaceIndex tunnel.interface = some packet.iif)
      (htraffic : TunnelTrafficExpected policy.allowedTunnelTraffic packet)

/-- What the input chain may accept of the local network. -/
inductive AllowedInLan (policy : FirewallPolicy) (packet : Packet) : Prop where
  | lan {net} (hlan : policy.allowLan = true) (hnet : net ∈ allowedLanNets)
      (hsrc : net.contains (address .src packet) = true)
  | dhcpRequest (hlan : policy.allowLan = true) (hsport : port .udp .src packet = some dhcpv4ClientPort)
      (hdst : IsAt .dst ⟨⟨broadcast, dhcpv4ServerPort⟩, .udp⟩ packet)

variable {host : Host} {fwmark : Nat} {policy : FirewallPolicy} {batch : List (Rule Chain)}
  {packet : Packet} {tunnel : TunnelMetadata}

theorem AllowedIn.of_early (hmark : packet.ctMark ≠ some splitTunnelMark)
    (h : AllowedAlways host packet .input ∨ AllowedBefore host fwmark policy packet .input) :
    AllowedIn host policy packet := by
  rcases h with halways | hbefore
  · cases halways with
    | loopbackIn h => exact .loopback h
    | splitTunneled h => exact absurd h hmark
    | dhcpResponse _ h => exact .dhcpResponse h
    | ndpIn _ h => exact .ndp h
    | dhcpRequest hchain _ | ndpOut hchain _ => simp at hchain
  · cases hbefore with
    | peerReply hpeers hmem hsrc hestablished => exact .peerReply hpeers hmem hsrc hestablished
    | endpointReply hendpoint hsrc hestablished hclient =>
      exact .endpointReply hendpoint hsrc hestablished hclient
    | localDnsReply _ htunnel hconfig hserver hport hiface =>
      exact .localDnsReply htunnel hconfig hserver hport hiface
    | tunnelDns hchain _ _ _ _ _ | localDns hchain _ _ _ _ _ => simp at hchain

theorem accepted_input (h : finalize host policy fwmark = .ok batch)
    (hmark : packet.ctMark ≠ some splitTunnelMark) (haccept : verdict batch .input packet = .accept) :
    AllowedIn host policy packet ∨ AllowedInLan policy packet := by
  have hallowed := (finalize_permits rfl h).of_accept (evaluate_of_accept rfl haccept)
  rw [← or_assoc] at hallowed
  rcases hallowed with hearly | hafter
  · exact .inl (.of_early hmark hearly)
  · cases hafter with
    | tunnelIn htunnel hall hiface => exact .inl (.tunnel htunnel hiface (.inl hall))
    | tunnelEndpointReply htunnel hmem hiface hsrc =>
      exact .inl (.tunnel htunnel hiface (.inr ⟨_, hmem, hsrc⟩))
    | lanIn hlan hnet hsrc => exact .inr (.lan hlan hnet hsrc.contains)
    | dhcpRequestIn hlan hsport hdst => exact .inr (.dhcpRequest hlan hsport hdst)
    | tunnel hchain _ _ _ | lan hchain _ _ _ => simp at hchain

/-- The tunnel rules of a policy do not depend on whether it allows the local network. -/
theorem addTunnelTrafficRules_accepts_input {rules : List (Rule Chain)}
    (htunnel : policy.tunnel = some tunnel)
    (h : addTunnelTrafficRules host tunnel.interface policy.allowedTunnelTraffic = .ok rules) :
    Accepts .input rules fun packet => AllowedIn host policy packet := by
  have htunnel' : policy.withoutLan.tunnel = some tunnel := by rw [policy.tunnel_withoutLan, htunnel]
  rw [← policy.allowedTunnelTraffic_withoutLan] at h
  refine (addTunnelTrafficRules_accepts htunnel' h).mono fun packet hafter => ?_
  cases hafter with
  | tunnelIn htunnel hall hiface =>
    rw [policy.tunnel_withoutLan] at htunnel
    rw [policy.allowedTunnelTraffic_withoutLan] at hall
    exact .tunnel htunnel hiface (.inl hall)
  | tunnelEndpointReply htunnel hmem hiface hsrc =>
    rw [policy.tunnel_withoutLan] at htunnel
    rw [policy.allowedTunnelTraffic_withoutLan] at hmem
    exact .tunnel htunnel hiface (.inr ⟨_, hmem, hsrc⟩)
  | lanIn hlan _ _ | dhcpRequestIn hlan _ _ => simp at hlan
  | tunnel hchain _ _ _ | lan hchain _ _ _ => simp at hchain

theorem addDropDnsRule_accepts_input (C : Packet → Prop) : Accepts .input (addDropDnsRule host) C := by
  refine .flatMap fun chain hchain => ?_
  have hne : Chain.input ∉ [chain] := by
    rw [List.mem_singleton]
    rintro rfl
    simp at hchain
  exact (onChains_others hne).append (onChains_others hne)

/-- The rules of a policy with a tunnel, split where packets to the tunnel addresses are blocked. The
rules before do nothing but accept. -/
theorem finalize_tunnel (htunnel : policy.tunnel = some tunnel)
    (h : finalize host policy fwmark = .ok batch) :
    ∃ early traffic, batch = early ++ traffic ++
        ((if policy.allowLan then addBlockCve201914899 host tunnel else []) ++
          addFinalRules host policy.allowLan) ∧
      addTunnelTrafficRules host tunnel.interface policy.allowedTunnelTraffic = .ok traffic ∧
      Accepts .input (early ++ traffic)
        fun packet => packet.ctMark ≠ some splitTunnelMark → AllowedIn host policy packet := by
  obtain ⟨before, tunnelRules, rfl, hbefore, htunnelRules⟩ :=
    finalize_shape (show Chain.input.filters = true from rfl) h
  rw [htunnel] at htunnelRules
  simp only [addConnectingTunnelRules, bind_eq_ok] at htunnelRules
  obtain ⟨traffic, htraffic, hrules⟩ := htunnelRules
  cases hrules
  refine ⟨before ++ addDropDnsRule host, traffic, by simp only [List.append_assoc], htraffic, ?_⟩
  refine .append (.append ?_ (addDropDnsRule_accepts_input _)) ?_
  · exact hbefore.mono fun packet hearly hmark => .of_early hmark hearly
  · exact (addTunnelTrafficRules_accepts_input htunnel htraffic).mono fun packet hin _ => hin

theorem addBlockCve201914899_refuses :
    Refuses .input (addBlockCve201914899 host tunnel) fun packet => address .dst packet ∈ tunnel.ips := by
  have hpermits : Permits .input (addBlockCve201914899 host tunnel) fun _ => False :=
    .flatMap fun _ _ => onChains_refuses (checkIp_guards _ _) (by simp)
  refine hpermits.refuses fun packet hdst => ?_
  refine ⟨⟨.input, addVerdict host (checkIp .dst (address .dst packet)) .drop⟩, ?_, rfl, ?_⟩
  · exact List.mem_flatMap.mpr ⟨_, hdst, List.mem_singleton_self _⟩
  · exact addVerdict_decides host .drop (checkIp_guards _ _) rfl

theorem accepts_from_tunnel (h : finalize host policy fwmark = .ok batch)
    (hconnected : policy.isConnected = true) (htunnel : policy.tunnel = some tunnel)
    (hiface : host.ifaceIndex tunnel.interface = some packet.iif) :
    verdict batch .input packet = .accept := by
  obtain ⟨early, traffic, rfl, htraffic, haccepts⟩ := finalize_tunnel htunnel h
  have hall : policy.allowedTunnelTraffic = .all := by
    cases policy with
    | connected _ _ _ _ _ _ => rfl
    | connecting _ _ _ _ _ _ _ | blocked _ _ => cases hconnected
  rw [hall] at htraffic
  simp only [addTunnelTrafficRules, addAllowTunnelRules, allowInterfaceRule, bind_eq_ok] at htraffic
  obtain ⟨outRule, _, forwardRule, _, inRule, ⟨check, hcheck, hin⟩, _, _, hrules⟩ := htraffic
  cases hin
  cases hrules
  have haccept := haccepts.evaluate_of_decides ⟨⟨.input, addVerdict host check .accept⟩,
    List.mem_append_right early (by simp [onChains]), rfl,
    addVerdict_decides host .accept (checkIface_guards hcheck) hiface⟩
  rw [verdict, evaluate_append_of_some haccept]
  rfl

/-- **Incoming traffic.** What the input chain accepts of packets that are not split-tunneled; of
packets to an address of the tunnel it accepts none because of the local network; and it accepts all
that comes through the tunnel of a connected policy. -/
theorem incoming_filtered (h : finalize host policy fwmark = .ok batch) :
    (∀ packet : Packet, packet.ctMark ≠ some splitTunnelMark → verdict batch .input packet = .accept →
      AllowedIn host policy packet ∨ AllowedInLan policy packet) ∧
    (∀ tunnel, policy.allowLan = true → policy.tunnel = some tunnel →
      ∀ packet : Packet, packet.ctMark ≠ some splitTunnelMark → address .dst packet ∈ tunnel.ips →
        verdict batch .input packet = .accept → AllowedIn host policy packet) ∧
    (∀ tunnel, policy.isConnected = true → policy.tunnel = some tunnel →
      ∀ packet : Packet, host.ifaceIndex tunnel.interface = some packet.iif →
        verdict batch .input packet = .accept) := by
  refine ⟨fun _ => accepted_input h, fun tunnel hlan htunnel packet hmark hdst haccept => ?_,
    fun _ hconnected htunnel _ => accepts_from_tunnel h hconnected htunnel⟩
  obtain ⟨early, traffic, rfl, _, haccepts⟩ := finalize_tunnel htunnel h
  rw [hlan, if_pos rfl] at haccept
  exact haccepts.permits.of_accept_before addBlockCve201914899_refuses hdst
    (evaluate_of_accept rfl haccept) hmark

def incomingPolicy : FirewallPolicy :=
  .connected [] none ⟨"wg0-mullvad", [.v4 (ipv4Addr 10 8 0 2)], ipv4Addr 10 64 0 1, none⟩ true
    ⟨[.v4 (ipv4Addr 10 64 0 1)], [], 53⟩ none

/-- A packet from a relay to the tunnel address, as the tunnel delivers it. -/
def tunnelPacket : Packet where
  network := .ipv4 (ipv4Addr 192 168 1 9) (ipv4Addr 10 8 0 2)
  transport := .tcp 443 50000
  iif := 2
  oif := 0
  skuid := none
  cgroup := none
  mark := 0
  ctState := 2
  ctMark := some 0

theorem incoming_filtered_tunnel :
    ∃ batch, finalize sampleHost incomingPolicy 1 = .ok batch ∧
      verdict batch .input tunnelPacket = .accept ∧ AllowedIn sampleHost incomingPolicy tunnelPacket ∧
      verdict batch .input { tunnelPacket with iif := 3 } = .drop := by
  obtain ⟨batch, hbatch⟩ : ∃ batch, finalize sampleHost incomingPolicy 1 = .ok batch := ⟨_, rfl⟩
  obtain ⟨_, htunnelIps, hconnected⟩ := incoming_filtered hbatch
  have haccept := hconnected _ rfl rfl tunnelPacket (by decide)
  refine ⟨batch, hbatch, haccept, htunnelIps _ rfl rfl tunnelPacket (by decide) (by decide) haccept, ?_⟩
  cases hbatch
  decide

end Linux

end MullvadVpn.Firewall
