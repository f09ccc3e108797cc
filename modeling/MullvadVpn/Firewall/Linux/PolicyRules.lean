import MullvadVpn.Firewall.Linux.Permitted

/-!
The rules that depend on the policy, and the batch as a whole: it is a list of rules before outgoing
DNS is blocked, the block, the rules of the tunnel and the final rules. The rules before the block do
nothing but accept, and all of them accept what the specification says at most.
-/

namespace MullvadVpn.Firewall.Linux

open Net Systems.Nftables Systems.Fallible

variable {tunnel : TunnelMetadata}
  {host : Host} {fwmark : Nat} {policy : FirewallPolicy} {chain : Chain}
  {rules : List (Rule Chain)}

theorem addAllowTunnelEndpointRules_accepts (hfilter : chain.filters = true)
    {peers} (hpeers : policy.peerEndpoints = some peers) :
    Accepts chain (peers.flatMap (addAllowTunnelEndpointRules host fwmark))
      fun packet => AllowedBefore host fwmark policy packet chain := by
  refine .flatMap fun endpoint hmem => ?_
  refine .append (.append (.append (onChains_marking hfilter rfl) ?_) ?_) ?_
  · refine onChain_accepts ((checkEndpoint_guards _ _).append checkEstablished_guards) ?_
    rintro packet ⟨hsrc, hestablished⟩
    exact .peerReply hpeers hmem hsrc hestablished
  · refine onChain_accepts ((checkEndpoint_guards _ _).append (.load_eq _ _)) ?_
    rintro packet ⟨hdst, hmark⟩
    exact .peer hpeers hmem hdst (Option.some.inj hmark)
  · split_ifs
    · exact onChains_marking hfilter rfl
    · exact .nil _

theorem addAllowEndpointRules_accepts {endpoint}
    (hendpoint : policy.allowedEndpoint = some endpoint) :
    Accepts chain (addAllowEndpointRules host endpoint)
      fun packet => AllowedBefore host fwmark policy packet chain := by
  refine .append ?_ ?_
  · refine onChain_accepts (((checkEndpoint_guards _ _).append checkEstablished_guards).append
      (checkClients_guards _)) ?_
    rintro packet ⟨⟨hsrc, hestablished⟩, hclient⟩
    exact .endpointReply hendpoint hsrc hestablished hclient
  · refine onChain_accepts ((checkEndpoint_guards _ _).append (checkClients_guards _)) ?_
    rintro packet ⟨hdst, hclient⟩
    exact .endpoint hendpoint hdst hclient

variable {config : ResolvedDnsConfig}

theorem tunnelDns_accepts (htunnel : policy.tunnel = some tunnel) (hconfig : policy.dnsConfig = some config)
    (h : forEachServer (addAllowTunnelDnsRule host tunnel.interface) config.tunnelConfig = .ok rules) :
    Accepts chain rules fun packet => AllowedBefore host fwmark policy packet chain := by
  refine forEachServer_accepts h fun protocol server hserver round hround => ?_
  refine (allowTunnelDnsRule_accepts hround).mono ?_
  rintro packet ⟨hchain, hiface, hport, hdst⟩
  exact .tunnelDns hchain htunnel hconfig (hdst ▸ hserver) hport hiface

theorem localDns_accepts (htunnel : policy.tunnel = some tunnel) (hconfig : policy.dnsConfig = some config)
    (h : forEachServer (addAllowLocalDnsRule host tunnel.interface) config.nonTunnelConfig = .ok rules) :
    Accepts chain rules fun packet => AllowedBefore host fwmark policy packet chain := by
  refine forEachServer_accepts h fun protocol server hserver round hround => ?_
  refine concatEach_accepts hround fun item hitem added hadded => ?_
  obtain ⟨chain', direction⟩ := item
  simp only [bind_eq_ok] at hadded
  obtain ⟨check, hcheck, hrules⟩ := hadded
  cases hrules
  refine onChain_accepts (((checkNotIface_guards hcheck).append (checkPort_guards _ _ _)).append
    (checkIp_guards _ _)) ?_
  rintro packet ⟨⟨hiface, hport⟩, haddress⟩
  cases direction with
  | outgoing =>
    exact .localDns (by simpa using hitem) htunnel hconfig (haddress ▸ hserver) hport hiface
  | incoming =>
    exact .localDnsReply (by simpa using hitem) htunnel hconfig (haddress ▸ hserver) hport hiface

theorem addDropDnsRule_permits (C : Packet → Prop) : Permits chain (addDropDnsRule host) C :=
  .flatMap fun _ _ => (onChains_refuses (checkPort_guards _ _ _) (by simp)).append
    (onChains_refuses (checkPort_guards _ _ _) (by simp))

theorem addDropDnsRule_refuses (hchain : chain ∈ [Chain.output, .forward]) :
    Refuses chain (addDropDnsRule host) fun packet => ∃ protocol, port protocol .dst packet = some 53 := by
  refine (addDropDnsRule_permits _).refuses fun packet ⟨protocol, hport⟩ => ?_
  cases protocol with
  | udp =>
    refine ⟨⟨chain, _⟩, List.mem_flatMap.mpr ⟨chain, hchain, ?_⟩, rfl,
      addVerdict_decides host (.reject .icmpPortUnreach) (checkPort_guards _ _ _) hport⟩
    exact List.mem_append_left _ (List.mem_singleton_self _)
  | tcp =>
    refine ⟨⟨chain, _⟩, List.mem_flatMap.mpr ⟨chain, hchain, ?_⟩, rfl,
      addVerdict_decides host (.reject .tcpRst) (checkPort_guards _ _ _) hport⟩
    exact List.mem_append_right _ (List.mem_singleton_self _)

section

variable (htunnel : policy.tunnel = some tunnel)

include htunnel

theorem addAllowTunnelRules_accepts (hall : policy.allowedTunnelTraffic = .all)
    (h : addAllowTunnelRules host tunnel.interface = .ok rules) :
    Accepts chain rules fun packet => AllowedAfter host policy packet chain := by
  simp only [addAllowTunnelRules, bind_eq_ok] at h
  obtain ⟨outRule, hout, forwardRule, hforward, inRule, hin, check, hcheck, hrules⟩ := h
  cases hrules
  refine .append (.append (.append ?_ ?_) ?_) ?_
  · exact allowInterfaceRule_accepts hout fun _ => .tunnel (by simp) htunnel hall
  · exact allowInterfaceRule_accepts hforward fun _ => .tunnel (by simp) htunnel hall
  · exact allowInterfaceRule_accepts hin fun _ => .tunnelIn htunnel hall
  · refine onChain_accepts ((checkIface_guards hcheck).append checkEstablished_guards) ?_
    rintro packet ⟨hiface, hestablished⟩
    exact .tunnelReply htunnel hall hiface hestablished

theorem addAllowInTunnelEndpointRules_accepts {endpoint}
    (hmem : endpoint ∈ trafficEndpoints policy.allowedTunnelTraffic)
    (h : addAllowInTunnelEndpointRules host tunnel.interface endpoint = .ok rules) :
    Accepts chain rules fun packet => AllowedAfter host policy packet chain := by
  refine concatEach_accepts h fun item hitem added hadded => ?_
  obtain ⟨chain', direction, e⟩ := item
  simp only [bind_eq_ok] at hadded
  obtain ⟨check, hcheck, hrules⟩ := hadded
  cases hrules
  refine onChain_accepts (((checkIface_guards hcheck).append (checkIp_guards _ _)).append
    (checkPort_guards _ _ _)) ?_
  rintro packet ⟨⟨hiface, haddress⟩, hport⟩
  rcases List.mem_pair.mp hitem with heq | heq <;> cases heq
  · exact .tunnelEndpoint htunnel hmem hiface ⟨haddress, hport⟩
  · exact .tunnelEndpointReply htunnel hmem hiface ⟨haddress, hport⟩

theorem addTunnelTrafficRules_accepts
    (h : addTunnelTrafficRules host tunnel.interface policy.allowedTunnelTraffic = .ok rules) :
    Accepts chain rules fun packet => AllowedAfter host policy packet chain := by
  cases htraffic : policy.allowedTunnelTraffic with
  | all =>
    rw [htraffic] at h
    exact addAllowTunnelRules_accepts htunnel htraffic h
  | none =>
    rw [htraffic] at h
    cases h
    exact .nil _
  | one endpoint =>
    rw [htraffic] at h
    exact addAllowInTunnelEndpointRules_accepts htunnel (by simp [htraffic, trafficEndpoints]) h
  | two endpoint1 endpoint2 =>
    rw [htraffic] at h
    simp only [addTunnelTrafficRules, bind_eq_ok] at h
    obtain ⟨first, hfirst, second, hsecond, hrules⟩ := h
    cases hrules
    exact (addAllowInTunnelEndpointRules_accepts htunnel (by simp [htraffic, trafficEndpoints])
      hfirst).append (addAllowInTunnelEndpointRules_accepts htunnel
        (by simp [htraffic, trafficEndpoints]) hsecond)

end

theorem addAllowLanRules_accepts (hlan : policy.allowLan = true) :
    Accepts chain (addAllowLanRules host) fun packet => AllowedAfter host policy packet chain := by
  refine .append (.append ?_ ?_) (.append ?_ ?_)
  · refine .flatMap fun chain' hchain' => .flatMap fun net hnet => ?_
    exact onChain_accepts (checkNet_guards _ _) fun _ => .lan hchain' hlan hnet
  · exact .flatMap fun net hnet =>
      onChain_accepts (checkNet_guards _ _) fun _ => .lanIn hlan hnet
  · refine onChain_accepts ((checkPort_guards _ _ _).append (checkPort_guards _ _ _)) ?_
    rintro packet ⟨hsport, hdport⟩
    exact .dhcpReply hlan hsport hdport
  · refine onChain_accepts ((checkPort_guards _ _ _).append (checkEndpoint_guards _ _)) ?_
    rintro packet ⟨hsport, hdst⟩
    exact .dhcpRequestIn hlan hsport hdst

theorem addFinalRules_permits {allowLan : Bool} (hallow : policy.allowLan = allowLan) :
    Permits chain (addFinalRules host allowLan) fun packet => AllowedAfter host policy packet chain := by
  subst hallow
  refine .append ?_ (onChains_refuses .nil (by simp))
  split_ifs with hlan
  · exact (addAllowLanRules_accepts hlan).permits
  · exact .nil _

theorem addConnectingTunnelRules_permits
    (h : addConnectingTunnelRules host policy.allowLan policy.allowedTunnelTraffic policy.tunnel =
      .ok rules) : Permits chain rules fun packet => AllowedAfter host policy packet chain := by
  cases htunnel : policy.tunnel with
  | none =>
    rw [htunnel] at h
    cases h
    exact .nil _
  | some tunnel =>
    rw [htunnel] at h
    simp only [addConnectingTunnelRules, bind_eq_ok] at h
    obtain ⟨trafficRules, htraffic, hrules⟩ := h
    cases hrules
    refine (addTunnelTrafficRules_accepts htunnel htraffic).permits.append ?_
    split_ifs
    · exact .flatMap fun _ _ => onChains_refuses (checkIp_guards _ _) (by simp)
    · exact .nil _

section

variable (hfilter : chain.filters = true)

include hfilter

/-- The rules of a policy, split where outgoing DNS is blocked. After the block every policy has the
rules of its tunnel and the final rules. -/
theorem addPolicySpecificRules_shape (h : addPolicySpecificRules host policy fwmark = .ok rules) :
    ∃ before tunnelRules,
      rules = before ++ (addDropDnsRule host ++ (tunnelRules ++ addFinalRules host policy.allowLan)) ∧
      Accepts chain before (fun packet => AllowedBefore host fwmark policy packet chain) ∧
      addConnectingTunnelRules host policy.allowLan policy.allowedTunnelTraffic policy.tunnel =
        .ok tunnelRules := by
  cases policy with
  | connecting peers exitEndpointIp tunnel allowLan endpoint traffic redirect =>
    simp only [addPolicySpecificRules, bind_eq_ok] at h
    obtain ⟨tunnelRules, htunnelRules, hrules⟩ := h
    cases hrules
    exact ⟨_, tunnelRules, rfl, (addAllowTunnelEndpointRules_accepts hfilter rfl).append
      (addAllowEndpointRules_accepts rfl), htunnelRules⟩
  | connected peers exitEndpointIp tunnel allowLan dnsConfig redirect =>
    simp only [addPolicySpecificRules, bind_eq_ok] at h
    obtain ⟨tunnelDns, htunnelDns, localDns, hlocalDns, traffic, htraffic, hrules⟩ := h
    cases hrules
    refine ⟨_, _, rfl, ((addAllowTunnelEndpointRules_accepts hfilter rfl).append
      (tunnelDns_accepts rfl rfl htunnelDns)).append (localDns_accepts rfl rfl hlocalDns), ?_⟩
    exact bind_eq_ok.mpr ⟨traffic, htraffic, rfl⟩
  | blocked allowLan endpoint =>
    cases h
    refine ⟨_, [], rfl, .flatMap fun endpoint' hmem => ?_, rfl⟩
    exact addAllowEndpointRules_accepts (Option.mem_toList.mp hmem)

theorem finalize_shape (h : finalize host policy fwmark = .ok rules) : ∃ before tunnelRules,
      rules = before ++ (addDropDnsRule host ++ (tunnelRules ++ addFinalRules host policy.allowLan)) ∧
      Accepts chain before (fun packet =>
        AllowedAlways host packet chain ∨ AllowedBefore host fwmark policy packet chain) ∧
      addConnectingTunnelRules host policy.allowLan policy.allowedTunnelTraffic policy.tunnel =
        .ok tunnelRules := by
  simp only [finalize, bind_eq_ok] at h
  obtain ⟨loopback, hloopback, mounted, _, splitTunneling, hsplit, policySpecific, hspecific, hrules⟩ := h
  cases hrules
  obtain ⟨before, tunnelRules, rfl, hbefore, htunnelRules⟩ :=
    addPolicySpecificRules_shape hfilter hspecific
  refine ⟨_, tunnelRules, (List.append_assoc _ _ _).symm, .append (.append
    (.append (.append ?_ ?_) ?_) ?_) ?_, htunnelRules⟩
  · exact (addLoopbackRules_accepts hloopback).mono fun _ => .inl
  · split_ifs at hsplit with hmounted
    · exact (addSplitTunnelingRules_accepts hfilter hsplit).mono fun _ => .inl
    · cases hsplit
      exact .nil _
  · exact addDhcpClientRules_accepts.mono fun _ => .inl
  · exact addNdpRules_accepts.mono fun _ => .inl
  · exact hbefore.mono fun _ => .inr

theorem finalize_permits (h : finalize host policy fwmark = .ok rules) :
    Permits chain rules fun packet => AllowedAlways host packet chain ∨
      AllowedBefore host fwmark policy packet chain ∨ AllowedAfter host policy packet chain := by
  obtain ⟨before, tunnelRules, rfl, hbefore, htunnelRules⟩ := finalize_shape hfilter h
  have hafter : Permits chain (tunnelRules ++ addFinalRules host policy.allowLan)
      fun packet => AllowedAfter host policy packet chain :=
    (addConnectingTunnelRules_permits htunnelRules).append (addFinalRules_permits rfl)
  refine .append (hbefore.permits.mono ?_) (.append (addDropDnsRule_permits _) (hafter.mono ?_))
  · rintro packet (halways | hbefore)
    · exact .inl halways
    · exact .inr (.inl hbefore)
  · exact fun packet hafter => .inr (.inr hafter)

theorem evaluate_of_accept {packet}
    (h : verdict rules chain packet = .accept) : (evaluate chain rules packet).1 = some .accept := by
  unfold verdict at h
  cases hverdict : (evaluate chain rules packet).1 with
  | some verdict =>
    rw [hverdict] at h
    exact congrArg some h
  | none =>
    have hdrop : chain.policy = .drop := by cases chain <;> first | rfl | cases hfilter
    rw [hverdict, Option.getD_none, hdrop] at h
    cases h

end

def sampleHost : Host where
  ifaceIndex name := if name = "lo" then some 1 else if name = "wg0-mullvad" then some 2 else none
  findNetClsMount := some true
  addCounters := true

end MullvadVpn.Firewall.Linux
