import MullvadVpn.Relays.Constraints
import MullvadVpn.Wireguard.Config

/-!
The allowed IPs while an ephemeral peer is negotiated (`patch_allowed_ips` in `talpid_wireguard::config`).
Networks of all addresses are replaced with the gateway of their family. All other networks, and those of IPv6
if there is no gateway for it, stay as they are.
-/

namespace MullvadVpn.Wireguard

open Net (IpAddr IpNetwork)

theorem contains_last {w : Nat} {address bits : BitVec w} :
    (Net.Network.mk address (Fin.last w)).contains bits = true ↔ bits = address := by
  simp [Net.Network.contains, Net.Network.network, Net.Network.mask, Net.prefixMask]

theorem contains_ofIpAddr {address ip : IpAddr} :
    (IpNetwork.ofIpAddr address).contains ip = true ↔ ip = address := by
  cases address <;> cases ip <;>
    simp only [IpNetwork.ofIpAddr, IpNetwork.contains, contains_last, IpAddr.v4.injEq, IpAddr.v6.injEq,
      reduceCtorEq]

/-- `IpNetwork::prefix`. -/
def prefixLength : IpNetwork → Nat
  | .v4 net => net.prefixLen
  | .v6 net => net.prefixLen

namespace Config

variable {target : Target} (config : Config target)

def patchAllowedIp (allowedIps : IpNetwork) : IpNetwork :=
  if prefixLength allowedIps = 0 then
    match allowedIps.isIpv4, config.ipv6Gateway with
    | true, _ => .ofIpAddr (.v4 config.ipv4Gateway)
    | false, some net => .ofIpAddr (.v6 net)
    | false, none => allowedIps
  else allowedIps

def patchPeer (peer : PeerConfig) : PeerConfig :=
  { peer with allowedIps := peer.allowedIps.map config.patchAllowedIp }

def patchAllowedIps : Config target :=
  { config with
    exitPeer := config.exitPeer.map config.patchPeer
    entryPeer := config.patchPeer config.entryPeer }

/-- The tunnel routes an address. -/
def Routes (ip : IpAddr) : Prop :=
  ∃ peer ∈ config.peers, ∃ net ∈ peer.allowedIps, net.contains ip = true

/-- What negotiations need: the gateways, and the exit if there is one. -/
def needed : List IpAddr :=
  .v4 config.ipv4Gateway :: (config.ipv6Gateway.toList.map .v6 ++ config.exitPeer.toList.map (·.endpoint.ip))

def Replaces (net : IpNetwork) : Prop :=
  prefixLength net = 0 ∧ (net.isIpv4 = true ∨ config.ipv6Gateway.isSome = true)

variable {config} {net : IpNetwork}

theorem contains_patchAllowedIp_iff :
    (∀ ip, (config.patchAllowedIp net).contains ip = true → ip ∈ config.needed) ↔
      config.Replaces net ∨ ∀ ip, net.contains ip = true → ip ∈ config.needed := by
  unfold patchAllowedIp
  split_ifs with hlength
  · cases hfamily : net.isIpv4 with
    | true =>
      refine iff_of_true (fun ip hip => ?_) (.inl ⟨hlength, .inl hfamily⟩)
      simp [contains_ofIpAddr.mp hip, needed]
    | false =>
      cases hgateway : config.ipv6Gateway with
      | some gateway =>
        refine iff_of_true (fun ip hip => ?_) (.inl ⟨hlength, .inr (by simp [hgateway])⟩)
        simp [contains_ofIpAddr.mp hip, needed, hgateway]
      | none => exact (or_iff_right fun h => by simpa [hfamily, hgateway] using h.2).symm
  · exact (or_iff_right fun h => hlength h.1).symm

/-- The tunnel routes only what negotiations need, unless another network than those that are replaced has
other addresses. -/
theorem patchAllowedIps_restricts_iff (config : Config target) :
    (∀ ip, config.patchAllowedIps.Routes ip → ip ∈ config.needed) ↔
      ∀ peer ∈ config.peers, ∀ net ∈ peer.allowedIps,
        config.Replaces net ∨ ∀ ip, net.contains ip = true → ip ∈ config.needed := by
  have hpeers : config.patchAllowedIps.peers = config.peers.map config.patchPeer := by
    cases h : config.exitPeer <;> simp [peers, patchAllowedIps, h]
  simp only [Routes, hpeers, List.mem_map, exists_exists_and_eq_and, patchPeer, forall_exists_index,
    and_imp, ← contains_patchAllowedIp_iff]
  exact ⟨fun h peer hpeer net hnet ip hip => h ip peer hpeer net hnet hip,
    fun h ip peer hpeer net hnet hip => h peer hpeer net hnet ip hip⟩

end Config

namespace Sample

/-- A tunnel for 10.0.0.0/8, as the user allows it, and the gateway 10.64.0.1. -/
def officeConfig : Config ⟨.android, true⟩ where
  tunnel := ⟨Vector.replicate 32 1, [.v4 (Net.ipv4Addr 10 64 0 2)]⟩
  entryPeer := ⟨Vector.replicate 32 2, Relays.AllowedIps.resolveFromConstraint
    (.only ⟨[.v4 ⟨Net.ipv4Addr 10 0 0 0, 8⟩]⟩) (some (Net.ipv4Addr 10 64 0 1)) none, .v4 1 51820, none, false⟩
  exitPeer := none
  ipv4Gateway := Net.ipv4Addr 10 64 0 1
  ipv6Gateway := none
  mtu := 1380
  fwmark := nofun
  enableIpv6 := nofun
  obfuscatorConfig := none
  quantumResistant := true
  daita := false

end Sample

/-- Another host of the office is routed while the tunnel is negotiated. -/
theorem Config.office_routed :
    Sample.officeConfig.patchAllowedIps.Routes (.v4 (Net.ipv4Addr 10 1 2 3)) ∧
      IpAddr.v4 (Net.ipv4Addr 10 1 2 3) ∉ Sample.officeConfig.needed :=
  ⟨⟨_, .head _, _, .head _, by decide⟩, by decide⟩

end MullvadVpn.Wireguard
