import MullvadVpn.Firewall.Policy
import MullvadVpn.Systems.Fallible
import MullvadVpn.Systems.Nftables

/-!
The netfilter rules of a firewall policy on Linux (`talpid_core::firewall::linux::PolicyBatch`). A
function that adds rules returns them in the order it adds them. Of the table only the rules are
modelled; the chains and their default policies are those of `PolicyBatch::new`.
-/

namespace MullvadVpn.Firewall.Linux

open Net Systems.Nftables Systems.Fallible

inductive Chain where
  | input
  | output
  | forward
  | prerouting
  | mangle
  | nat
  deriving DecidableEq

/-- The verdict on a packet that no rule of the chain decides. -/
def Chain.policy : Chain → Verdict
  | input | output | forward => .drop
  | prerouting | mangle | nat => .accept

inductive Direction where
  | incoming
  | outgoing

inductive End where
  | src
  | dst

/-- What the host answers while the rules are built. -/
structure Host where
  ifaceIndex : String → Option Nat
  /-- Whether there is a `net_cls` mount, if that could be found out. -/
  findNetClsMount : Option Bool
  /-- `TALPID_FIREWALL_DEBUG` -/
  addCounters : Bool

inductive Error where
  | lookupIfaceIndexError (iface : String)
  | findNetClsMount

/-- `split_tunnel::MARK` -/
def splitTunnelMark : Nat := 0xf41
/-- `split_tunnel::NET_CLS_CLASSID` -/
def netClsClassid : Nat := 0x4d9f41
def rootUid : Nat := 0

def ipv6LinkLocal : IpNetwork := .v6 ⟨ipv6Addr 0xfe80 0 0 0 0 0 0 0, 10⟩
def dhcpv6ServerAddrs : List IpAddr :=
  [.v6 (ipv6Addr 0xff02 0 0 0 0 0 1 2), .v6 (ipv6Addr 0xff05 0 0 0 0 0 1 3)]
def routerSolicitationOutDstAddr : IpAddr := .v6 (ipv6Addr 0xff02 0 0 0 0 0 0 2)
def solicitedNodeMulticast : IpNetwork := .v6 ⟨ipv6Addr 0xff02 0 0 0 0 1 0xff00 0, 104⟩
def broadcast : IpAddr := .v4 (ipv4Addr 255 255 255 255)

def dhcpv4ServerPort : BitVec 16 := 67
def dhcpv4ClientPort : BitVec 16 := 68
def dhcpv6ServerPort : BitVec 16 := 547
def dhcpv6ClientPort : BitVec 16 := 546

def established : Nat := 2

def interfaceSource : Direction → Source
  | .incoming => .iif
  | .outgoing => .oif

variable (host : Host) (policy : FirewallPolicy) (tunnelInterface : String) (protocol : TransportProtocol)
  (fwmark : Nat) (e : End)

def lookupIfaceIndex (iface : String) : Except Error Nat :=
  match host.ifaceIndex iface with
  | some index => .ok index
  | none => .error (.lookupIfaceIndexError iface)

def checkIface (direction : Direction) (iface : String) : Except Error (List Expr) := do
  let index ← lookupIfaceIndex host iface
  return [.load (interfaceSource direction), .cmp .eq index]

def checkNotIface (direction : Direction) (iface : String) : Except Error (List Expr) := do
  let index ← lookupIfaceIndex host iface
  return [.load (interfaceSource direction), .cmp .neq index]

def checkL3proto : IpVersion → List Expr
  | .v4 => [.load .nfproto, .cmp .eq nfprotoIpv4]
  | .v6 => [.load .nfproto, .cmp .eq nfprotoIpv6]

def l4proto : TransportProtocol → Nat
  | .udp => ipprotoUdp
  | .tcp => ipprotoTcp

def checkL4proto : List Expr :=
  [.load .l4proto, .cmp .eq (l4proto protocol)]

def addressSource : IpVersion → End → Source
  | .v4, .src => .ipv4Saddr
  | .v4, .dst => .ipv4Daddr
  | .v6, .src => .ipv6Saddr
  | .v6, .dst => .ipv6Daddr

def checkNet : IpNetwork → List Expr
  | .v4 net => checkL3proto .v4 ++
    [.load (addressSource .v4 e), .bitwise net.mask.toNat 0, .cmp .eq net.ip.toNat]
  | .v6 net => checkL3proto .v6 ++
    [.load (addressSource .v6 e), .bitwise net.mask.toNat 0, .cmp .eq net.ip.toNat]

def checkIp : IpAddr → List Expr
  | .v4 bits => checkL3proto .v4 ++ [.load (addressSource .v4 e), .cmp .eq bits.toNat]
  | .v6 bits => checkL3proto .v6 ++ [.load (addressSource .v6 e), .cmp .eq bits.toNat]

def portSource : TransportProtocol → End → Source
  | .udp, .src => .udpSport
  | .udp, .dst => .udpDport
  | .tcp, .src => .tcpSport
  | .tcp, .dst => .tcpDport

def checkPort (port : BitVec 16) : List Expr :=
  checkL4proto protocol ++ [.load (portSource protocol e), .cmp .eq port.toNat]

def checkEndpoint (endpoint : Endpoint) : List Expr :=
  checkIp e endpoint.address.ip ++ checkPort endpoint.protocol e endpoint.address.port

def checkIcmpv6 (type code : BitVec 8) : List Expr :=
  [.load .l4proto, .cmp .eq ipprotoIcmpv6] ++ [.load .icmpv6Type, .cmp .eq type.toNat] ++
    [.load .icmpv6Code, .cmp .eq code.toNat]

def checkEstablished : List Expr :=
  [.load .ctState, .bitwise established 0, .cmp .neq 0]

def checkSplitTunnelMark : List Expr :=
  [.load .ctMark, .cmp .eq splitTunnelMark]

def counter : List Expr :=
  if host.addCounters then [.counter] else []

def addVerdict (checks : List Expr) (verdict : Verdict) : List Expr :=
  checks ++ counter host ++ [.verdict verdict]

/-- The same expressions as one rule for each of several chains. -/
def onChains (chains : List Chain) (exprs : List Expr) : List (Rule Chain) :=
  chains.map fun chain => ⟨chain, exprs⟩

def allowInterfaceRule (chain : Chain) (direction : Direction) (iface : String) :
    Except Error (List (Rule Chain)) := do
  let check ← checkIface host direction iface
  return onChains [chain] (addVerdict host check .accept)

def allowTunnelDnsRule (chains : List Chain) (iface : String)
    (protocol : TransportProtocol) (server : IpAddr) : Except Error (List (Rule Chain)) := do
  let check ← checkIface host .outgoing iface
  return onChains chains (addVerdict host (check ++ checkPort protocol .dst 53 ++ checkIp .dst server) .accept)

/-- Add rules for UDP and then for TCP, for one server after the other. -/
def forEachServer (add : TransportProtocol → IpAddr → Except Error (List (Rule Chain)))
    (servers : List IpAddr) : Except Error (List (Rule Chain)) :=
  concatEach (fun server => do
    let udp ← add .udp server
    let tcp ← add .tcp server
    return udp ++ tcp) servers

def addLoopbackRules : Except Error (List (Rule Chain)) := do
  let outRule ← allowInterfaceRule host .output .outgoing "lo"
  let inRule ← allowInterfaceRule host .input .incoming "lo"
  return outRule ++ inRule

def ifConnected (add : TunnelMetadata → ResolvedDnsConfig → Except Error (List (Rule Chain))) :
    Except Error (List (Rule Chain)) :=
  match policy with
  | .connected _ _ tunnel _ dnsConfig _ => add tunnel dnsConfig
  | _ => .ok []

def addSplitTunnelingRules : Except Error (List (Rule Chain)) := do
  -- send select DNS requests in the tunnel
  let tunnelDns ← ifConnected policy fun tunnel dnsConfig =>
    forEachServer (allowTunnelDnsRule host [.mangle] tunnel.interface) dnsConfig.tunnelConfig
  let mark := onChains [.mangle]
    [.load .cgroup, .cmp .eq netClsClassid, .immediate splitTunnelMark, .ctMarkSet, .immediate fwmark,
      .metaMarkSet]
  let allow := onChains [.input, .output, .forward] (addVerdict host checkSplitTunnelMark .accept)
  -- block remaining marked outgoing in-tunnel traffic
  let blockTunnel ← ifConnected policy fun tunnel _ => do
    let check ← checkIface host .outgoing tunnel.interface
    return onChains [.nat] (addVerdict host (check ++ checkSplitTunnelMark) .drop)
  let notLoopback ← checkNotIface host .outgoing "lo"
  let masquerade := onChains [.nat]
    (notLoopback ++ checkSplitTunnelMark ++ [.verdict .masquerade] ++ counter host)
  -- route incoming traffic so that strict reverse path filtering does not reject it
  let prerouting ← ifConnected policy fun tunnel _ => do
    let check ← checkNotIface host .incoming tunnel.interface
    return onChains [.prerouting]
      (check ++ checkSplitTunnelMark ++ [.immediate fwmark, .metaMarkSet] ++ counter host)
  return tunnelDns ++ mark ++ allow ++ blockTunnel ++ masquerade ++ prerouting

def addDhcpClientRules : List (Rule Chain) :=
  -- outgoing DHCPv4 request
  onChains [.output, .forward]
    (addVerdict host (checkPort .udp .src dhcpv4ClientPort ++ checkIp .dst broadcast ++
      checkPort .udp .dst dhcpv4ServerPort) .accept) ++
  -- incoming DHCPv4 response
  onChains [.input, .forward]
    (addVerdict host (checkPort .udp .src dhcpv4ServerPort ++ checkPort .udp .dst dhcpv4ClientPort) .accept) ++
  ([Chain.output, .forward].flatMap fun chain => dhcpv6ServerAddrs.flatMap fun server =>
    onChains [chain] (addVerdict host (checkNet .src ipv6LinkLocal ++ checkPort .udp .src dhcpv6ClientPort ++
        checkIp .dst server ++ checkPort .udp .dst dhcpv6ServerPort) .accept)) ++
  onChains [.input, .forward]
    (addVerdict host (checkNet .src ipv6LinkLocal ++ checkPort .udp .src dhcpv6ServerPort ++
      checkNet .dst ipv6LinkLocal ++ checkPort .udp .dst dhcpv6ClientPort) .accept)

def addNdpRules : List (Rule Chain) :=
  -- outgoing router solicitation
  onChains [.output, .forward]
    (addVerdict host (checkIp .dst routerSolicitationOutDstAddr ++ checkIcmpv6 133 0) .accept) ++
  -- incoming router advertisement
  onChains [.input, .forward] (addVerdict host (checkNet .src ipv6LinkLocal ++ checkIcmpv6 134 0) .accept) ++
  -- incoming redirect
  onChains [.input, .forward] (addVerdict host (checkNet .src ipv6LinkLocal ++ checkIcmpv6 137 0) .accept) ++
  -- outgoing neighbor solicitation
  onChains [.output, .forward]
    (addVerdict host (checkNet .dst solicitedNodeMulticast ++ checkIcmpv6 135 0) .accept) ++
  onChains [.output, .forward] (addVerdict host (checkNet .dst ipv6LinkLocal ++ checkIcmpv6 135 0) .accept) ++
  -- incoming neighbor solicitation
  onChains [.input, .forward] (addVerdict host (checkNet .src ipv6LinkLocal ++ checkIcmpv6 135 0) .accept) ++
  -- outgoing neighbor advertisement
  onChains [.output, .forward] (addVerdict host (checkNet .dst ipv6LinkLocal ++ checkIcmpv6 136 0) .accept) ++
  -- incoming neighbor advertisement
  onChains [.input, .forward] (addVerdict host (checkIcmpv6 136 0) .accept)

def addAllowTunnelEndpointRules (endpoint : AllowedEndpoint) : List (Rule Chain) :=
  onChains [.prerouting]
    (checkEndpoint .src endpoint.endpoint ++ [.immediate fwmark, .metaMarkSet] ++ counter host) ++
  onChains [.input] (addVerdict host (checkEndpoint .src endpoint.endpoint ++ checkEstablished) .accept) ++
  onChains [.output]
    (addVerdict host (checkEndpoint .dst endpoint.endpoint ++ [.load .metaMark, .cmp .eq fwmark]) .accept) ++
  -- lets a local proxy send traffic to the endpoint
  (if endpoint.clients.allowAll then
    onChains [.mangle] (checkEndpoint .dst endpoint.endpoint ++
        [.immediate splitTunnelMark, .ctMarkSet, .immediate fwmark, .metaMarkSet])
  else
    [])

def checkClients (clients : AllowedClients) : List Expr :=
  if ¬ clients.allowAll then [.load .skuid, .cmp .eq rootUid] else []

/-- Allow traffic to the API, also in blocked states. -/
def addAllowEndpointRules (endpoint : AllowedEndpoint) : List (Rule Chain) :=
  onChains [.input] (addVerdict host (checkEndpoint .src endpoint.endpoint ++ checkEstablished ++
      checkClients endpoint.clients) .accept) ++
  onChains [.output]
    (addVerdict host (checkEndpoint .dst endpoint.endpoint ++ checkClients endpoint.clients) .accept)

def addAllowTunnelDnsRule (interface : String) (protocol : TransportProtocol)
    (server : IpAddr) : Except Error (List (Rule Chain)) :=
  allowTunnelDnsRule host [.output, .forward] interface protocol server

def addAllowLocalDnsRule (server : IpAddr) : Except Error (List (Rule Chain)) :=
  concatEach (fun (chain, direction) => do
    let e := match direction with
      | Direction.incoming => End.src
      | .outgoing => .dst
    let check ← checkNotIface host direction tunnelInterface
    return onChains [chain] (addVerdict host (check ++ checkPort protocol e 53 ++ checkIp e server) .accept))
    [(Chain.output, Direction.outgoing), (.forward, .outgoing), (.input, .incoming), (.forward, .incoming)]

def addDropDnsRule : List (Rule Chain) :=
  [Chain.output, .forward].flatMap fun chain =>
    onChains [chain] (addVerdict host (checkPort .udp .dst 53) (.reject .icmpPortUnreach)) ++
    onChains [chain] (addVerdict host (checkPort .tcp .dst 53) (.reject .tcpRst))

def addAllowInTunnelEndpointRules (endpoint : Endpoint) : Except Error (List (Rule Chain)) :=
  concatEach (fun (chain, direction, e) => do
    let check ← checkIface host direction tunnelInterface
    return onChains [chain] (addVerdict host (check ++ checkIp e endpoint.address.ip ++
        checkPort endpoint.protocol e endpoint.address.port) .accept))
    [(Chain.output, Direction.outgoing, End.dst), (.input, .incoming, .src)]

def addAllowTunnelRules : Except Error (List (Rule Chain)) := do
  let outRule ← allowInterfaceRule host .output .outgoing tunnelInterface
  let forwardRule ← allowInterfaceRule host .forward .outgoing tunnelInterface
  let inRule ← allowInterfaceRule host .input .incoming tunnelInterface
  -- only established connections are forwarded from the tunnel
  let check ← checkIface host .incoming tunnelInterface
  let interfaceRule := onChains [.forward] (addVerdict host (check ++ checkEstablished) .accept)
  return outRule ++ forwardRule ++ inRule ++ interfaceRule

/-- Stop packets to the tunnel addresses that did not come through the tunnel. -/
def addBlockCve201914899 (tunnel : TunnelMetadata) : List (Rule Chain) :=
  tunnel.ips.flatMap fun ip => onChains [.input] (addVerdict host (checkIp .dst ip) .drop)

def addDhcpServerRules : List (Rule Chain) :=
  onChains [.output]
    (addVerdict host (checkPort .udp .src dhcpv4ServerPort ++ checkPort .udp .dst dhcpv4ClientPort) .accept) ++
  onChains [.input] (addVerdict host (checkPort .udp .src dhcpv4ClientPort ++
      checkEndpoint .dst ⟨⟨broadcast, dhcpv4ServerPort⟩, .udp⟩) .accept)

def addAllowLanRules : List (Rule Chain) :=
  ([Chain.output, .forward].flatMap fun chain =>
    (allowedLanNets ++ allowedLanMulticastNets).flatMap fun net =>
      onChains [chain] (addVerdict host (checkNet .dst net) .accept)) ++
  (allowedLanNets.flatMap fun net =>
    onChains [.input] (addVerdict host (checkNet .src net) .accept)) ++
  addDhcpServerRules host

/-- What a connecting policy lets through inside the tunnel. -/
def addTunnelTrafficRules (interface : String) :
    AllowedTunnelTraffic → Except Error (List (Rule Chain))
  | .all => addAllowTunnelRules host interface
  | .none => pure []
  | .one endpoint => addAllowInTunnelEndpointRules host interface endpoint
  | .two endpoint1 endpoint2 => do
    let first ← addAllowInTunnelEndpointRules host interface endpoint1
    let second ← addAllowInTunnelEndpointRules host interface endpoint2
    return first ++ second

/-- What a connecting policy lets through the tunnel, if there is one already. -/
def addConnectingTunnelRules (allowLan : Bool) (traffic : AllowedTunnelTraffic) :
    Option TunnelMetadata → Except Error (List (Rule Chain))
  | some tunnel => do
    let trafficRules ← addTunnelTrafficRules host tunnel.interface traffic
    return trafficRules ++ if allowLan then addBlockCve201914899 host tunnel else []
  | none => .ok []

def addFinalRules (allowLan : Bool) : List (Rule Chain) :=
  (if allowLan then addAllowLanRules host else []) ++
    onChains [.output, .forward] (addVerdict host [] (.reject .icmpPortUnreach))

def addPolicySpecificRules : Except Error (List (Rule Chain)) :=
  match policy with
  | .connecting peerEndpoints _ tunnel allowLan allowedEndpoint allowedTunnelTraffic _ => do
    let tunnelRules ← addConnectingTunnelRules host allowLan allowedTunnelTraffic tunnel
    return peerEndpoints.flatMap (addAllowTunnelEndpointRules host fwmark) ++
      addAllowEndpointRules host allowedEndpoint ++ (addDropDnsRule host ++ (tunnelRules ++
        addFinalRules host allowLan))
  | .connected peerEndpoints _ tunnel allowLan dnsConfig _ => do
    let tunnelDns ← forEachServer (addAllowTunnelDnsRule host tunnel.interface) dnsConfig.tunnelConfig
    let localDns ← forEachServer (addAllowLocalDnsRule host tunnel.interface) dnsConfig.nonTunnelConfig
    let traffic ← addAllowTunnelRules host tunnel.interface
    return peerEndpoints.flatMap (addAllowTunnelEndpointRules host fwmark) ++ tunnelDns ++ localDns ++
      (addDropDnsRule host ++ (traffic ++
        (if allowLan then addBlockCve201914899 host tunnel else []) ++ addFinalRules host allowLan))
  | .blocked allowLan allowedEndpoint =>
    .ok (allowedEndpoint.toList.flatMap (addAllowEndpointRules host) ++
      (addDropDnsRule host ++ addFinalRules host allowLan))

def findNetClsMount : Except Error Bool :=
  match host.findNetClsMount with
  | some mounted => .ok mounted
  | none => .error .findNetClsMount

def finalize : Except Error (List (Rule Chain)) := do
  let loopback ← addLoopbackRules host
  let mounted ← findNetClsMount host
  -- without the mount split tunneling does not work anyway
  let splitTunneling ← (if mounted then addSplitTunnelingRules host policy fwmark else .ok [])
  let policySpecific ← addPolicySpecificRules host policy fwmark
  return loopback ++ splitTunneling ++ addDhcpClientRules host ++ addNdpRules host ++ policySpecific

def verdict (batch : List (Rule Chain)) (chain : Chain) (packet : Packet) : Verdict :=
  (evaluate chain batch packet).1.getD chain.policy

/-- An outgoing packet after the mangle chain, which runs before the output chain. -/
def mangled (batch : List (Rule Chain)) (packet : Packet) : Packet :=
  (evaluate .mangle batch packet).2

end MullvadVpn.Firewall.Linux
