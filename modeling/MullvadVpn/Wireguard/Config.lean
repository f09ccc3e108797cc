import MullvadVpn.Systems.Fallible
import MullvadVpn.Tunnel.Types

/-!
The configuration of a WireGuard tunnel (`talpid_wireguard::config`) and how it is made of the tunnel
parameters. Unless IPv6 is enabled, its addresses are removed from every list. A list that is empty is
refused, but the addresses of the tunnel are looked at before any of them is removed.
-/

namespace MullvadVpn.Wireguard

open Systems Fallible Tunnel
open Net (IpAddr IpNetwork Obfuscators)

/-- `std::net::SocketAddr`, with what `Net.SocketAddr` leaves out. -/
inductive SocketAddr where
  | v4 (ip : BitVec 32) (port : BitVec 16)
  | v6 (ip : BitVec 128) (port : BitVec 16) (flowinfo scopeId : BitVec 32)

def SocketAddr.ip : SocketAddr → IpAddr
  | v4 ip _ => .v4 ip
  | v6 ip _ _ _ => .v6 ip

abbrev Key := Vector UInt8 32

structure TunnelConfig where
  privateKey : Key
  addresses : List IpAddr

structure PeerConfig where
  publicKey : Key
  allowedIps : List IpNetwork
  endpoint : SocketAddr
  psk : Option Key
  constantPacketSize : Bool

/-- `wireguard::ConnectionConfig`. There are firewall marks on Linux only. -/
structure WireguardConnectionConfig (os : TargetOs) where
  tunnel : TunnelConfig
  peer : PeerConfig
  exitPeer : Option PeerConfig
  ipv4Gateway : BitVec 32
  ipv6Gateway : Option (BitVec 128)
  fwmark : os = .linux → Option (BitVec 32)

/-- What the program is built for. Builds without `cfg(daita)` have no option for it. -/
structure Target where
  os : TargetOs
  daita : Bool

structure TunnelOptions where
  mtu : Option (BitVec 16)
  quantumResistant : Bool
  daita : Bool

/-- `wireguard::TunnelParameters`. -/
structure Parameters (target : Target) where
  connection : WireguardConnectionConfig target.os
  options : TunnelOptions
  enableIpv6 : Bool
  obfuscation : Option Obfuscators

structure Config (target : Target) where
  tunnel : TunnelConfig
  entryPeer : PeerConfig
  exitPeer : Option PeerConfig
  ipv4Gateway : BitVec 32
  ipv6Gateway : Option (BitVec 128)
  mtu : BitVec 16
  fwmark : target.os = .linux → Option (BitVec 32)
  enableIpv6 : target.os = .linux → Bool
  obfuscatorConfig : Option Obfuscators
  quantumResistant : Bool
  daita : Bool

variable {target : Target}

/-- The exit, if there is one, and then the entry. -/
def Config.peers (config : Config target) : List PeerConfig :=
  config.exitPeer.toList ++ [config.entryPeer]

def Parameters.peers (params : Parameters target) : List PeerConfig :=
  params.connection.exitPeer.toList ++ [params.connection.peer]

inductive Config.Error where
  | invalidTunnelIpError
  | invalidPeerIpError

/-- The allowed IPs that remain, of which there has to be one. -/
def retainAllowedIps (enableIpv6 : Bool) (peer : PeerConfig) : Except Config.Error PeerConfig :=
  let allowedIps := peer.allowedIps.filter fun ip => ip.isIpv4 || enableIpv6
  if allowedIps.isEmpty then .error .invalidPeerIpError else .ok { peer with allowedIps }

namespace Config

def fromParameters (params : Parameters target) (defaultMtu : BitVec 16) :
    Except Error (Config target) := do
  let tunnel := params.connection.tunnel
  ensure (tunnel.addresses ≠ []) .invalidTunnelIpError
  let exitPeer ← params.connection.exitPeer.mapM (retainAllowedIps params.enableIpv6)
  let entryPeer ← retainAllowedIps params.enableIpv6 params.connection.peer
  return {
    tunnel := { tunnel with
      addresses := tunnel.addresses.filter fun ip => ip.isIpv4 || params.enableIpv6 }
    entryPeer
    exitPeer
    ipv4Gateway := params.connection.ipv4Gateway
    ipv6Gateway := params.connection.ipv6Gateway.filter fun _ => params.enableIpv6
    mtu := params.options.mtu.getD defaultMtu
    fwmark := params.connection.fwmark
    enableIpv6 := fun _ => params.enableIpv6
    obfuscatorConfig := params.obfuscation
    quantumResistant := params.options.quantumResistant
    daita := target.daita && params.options.daita }

/-- There is nothing of IPv6 in the configuration. -/
structure Ipv4Only (config : Config target) : Prop where
  addresses : ∀ ip ∈ config.tunnel.addresses, ip.isIpv4 = true
  allowedIps : ∀ peer ∈ config.peers, ∀ ip ∈ peer.allowedIps, ip.isIpv4 = true
  gateway : config.ipv6Gateway = none

end Config

namespace Parameters

def HasAddress (params : Parameters target) : Prop :=
  ∃ ip ∈ params.connection.tunnel.addresses, (ip.isIpv4 || params.enableIpv6) = true

def HasAllowedIps (params : Parameters target) : Prop :=
  ∀ peer ∈ params.peers, ∃ ip ∈ peer.allowedIps, (ip.isIpv4 || params.enableIpv6) = true

end Parameters

theorem exists_retainAllowedIps_iff {enableIpv6 : Bool} {peer : PeerConfig} :
    (∃ retained, retainAllowedIps enableIpv6 peer = .ok retained) ↔
      ∃ ip ∈ peer.allowedIps, (ip.isIpv4 || enableIpv6) = true := by
  unfold retainAllowedIps
  dsimp only
  split_ifs with hempty
  · have hnone := List.filter_eq_nil_iff.mp (List.isEmpty_iff.mp hempty)
    simpa using hnone
  · obtain ⟨ip, hip⟩ := List.exists_mem_of_ne_nil _ (mt List.isEmpty_iff.mpr hempty)
    obtain ⟨hmem, hremains⟩ := List.mem_filter.mp hip
    exact ⟨fun _ => ⟨ip, hmem, hremains⟩, fun _ => ⟨_, rfl⟩⟩

theorem isIpv4_of_retainAllowedIps {peer retained : PeerConfig}
    (h : retainAllowedIps false peer = .ok retained) : ∀ ip ∈ retained.allowedIps, ip.isIpv4 = true := by
  unfold retainAllowedIps at h
  dsimp only at h
  split_ifs at h
  cases h
  intro ip hip
  simpa using (List.mem_filter.mp hip).2

namespace Config

variable {params : Parameters target} {defaultMtu : BitVec 16} {config : Config target}

theorem exists_fromParameters_iff : (∃ config, fromParameters params defaultMtu = .ok config) ↔
    params.connection.tunnel.addresses ≠ [] ∧ params.HasAllowedIps := by
  simp only [fromParameters, exists_bind_iff, exists_pure_iff, and_true, exists_and_right,
    exists_mapM_iff, exists_retainAllowedIps_iff, ensure_eq_ok, exists_const, Parameters.HasAllowedIps,
    Parameters.peers, List.forall_mem_append, List.forall_mem_singleton, Option.mem_toList,
    Option.mem_def]

theorem ipv4Only_of_fromParameters (hipv6 : params.enableIpv6 = false)
    (h : fromParameters params defaultMtu = .ok config) : config.Ipv4Only := by
  simp only [fromParameters, bind_eq_ok, mapM_eq_ok, hipv6] at h
  obtain ⟨_, -, exitPeer, hexit, entryPeer, hentry, h⟩ := h
  cases h
  refine ⟨fun ip hip => by simpa using (List.mem_filter.mp hip).2, ?_, by simp⟩
  have hexits : ∀ peer ∈ exitPeer.toList, ∀ ip ∈ peer.allowedIps, ip.isIpv4 = true := by
    intro peer hpeer
    rw [Option.mem_toList.mp hpeer] at hexit
    obtain ⟨_, -, hretained⟩ := Option.map_eq_some_iff.mp hexit
    exact isIpv4_of_retainAllowedIps hretained
  exact List.forall_mem_append.mpr ⟨hexits, List.forall_mem_singleton.mpr (isIpv4_of_retainAllowedIps hentry)⟩

/-- Parameters are accepted as they should be, unless the tunnel has addresses of which none remains and
nothing else is wrong. Whatever is accepted without IPv6 has nothing of it. -/
theorem fromParameters_strict_iff (params : Parameters target) (defaultMtu : BitVec 16) :
    (((∃ config, fromParameters params defaultMtu = .ok config) ↔ params.HasAddress ∧ params.HasAllowedIps) ∧
        (params.enableIpv6 = false → ∀ config, fromParameters params defaultMtu = .ok config →
          config.Ipv4Only)) ↔
      (params.connection.tunnel.addresses ≠ [] → params.HasAllowedIps → params.HasAddress) := by
  have hipv4 : params.enableIpv6 = false → ∀ config, fromParameters params defaultMtu = .ok config →
      config.Ipv4Only := fun hipv6 config h => ipv4Only_of_fromParameters hipv6 h
  have hne : params.HasAddress → params.connection.tunnel.addresses ≠ [] := by
    rintro ⟨ip, hip, -⟩
    exact List.ne_nil_of_mem hip
  rw [exists_fromParameters_iff, and_iff_left hipv4]
  constructor
  · exact fun h haddresses hallowed => (h.mp ⟨haddresses, hallowed⟩).1
  · intro h
    exact ⟨fun ⟨haddresses, hallowed⟩ => ⟨h haddresses hallowed, hallowed⟩,
      fun ⟨haddress, hallowed⟩ => ⟨hne haddress, hallowed⟩⟩

end Config

namespace Sample

def linux : Target := ⟨.linux, true⟩

/-- A tunnel with an IPv6 address, to a peer that routes all of IPv4. -/
def ipv6Parameters : Parameters linux where
  connection :=
    { tunnel := ⟨Vector.replicate 32 1, [.v6 1]⟩
      peer := ⟨Vector.replicate 32 2, [.v4 ⟨0, 0⟩], .v4 1 51820, none, false⟩
      exitPeer := none
      ipv4Gateway := 1
      ipv6Gateway := none
      fwmark := fun _ => none }
  options := ⟨none, false, false⟩
  enableIpv6 := false
  obfuscation := none

end Sample

/-- Without IPv6 the tunnel has no address, and is accepted. -/
theorem Config.no_address_left : ∃ config, fromParameters Sample.ipv6Parameters 1380 = .ok config ∧
    config.tunnel.addresses = [] ∧ ¬ Sample.ipv6Parameters.HasAddress :=
  ⟨_, rfl, rfl, by simp [Parameters.HasAddress, Sample.ipv6Parameters, IpAddr.isIpv4]⟩

end MullvadVpn.Wireguard
