import Mathlib

/-!
IP addresses, networks, socket addresses and endpoints, as `std::net`, the `ipnetwork` crate and
`talpid_types::net` define them, together with the constant networks the firewall treats as local.
Scope identifiers and flow labels of IPv6 socket addresses are not modelled: no modelled function
reads them.
-/

namespace MullvadVpn.Net

inductive IpAddr where
  | v4 (bits : BitVec 32)
  | v6 (bits : BitVec 128)
  deriving DecidableEq

inductive IpVersion where
  | v4
  | v6
  deriving DecidableEq

namespace IpAddr

def isIpv4 : IpAddr → Bool
  | v4 _ => true
  | v6 _ => false

def isIpv6 : IpAddr → Bool
  | v4 _ => false
  | v6 _ => true

def version : IpAddr → IpVersion
  | v4 _ => .v4
  | v6 _ => .v6

/-- The derived order of `std::net::IpAddr`: every IPv4 address is below every IPv6 address. -/
def sortKey : IpAddr → Nat ×ₗ Nat
  | v4 bits => toLex (0, bits.toNat)
  | v6 bits => toLex (1, bits.toNat)

end IpAddr

/-- The four octets of an IPv4 address, as `Ipv4Addr::new` takes them. -/
def ipv4Addr (a b c d : BitVec 8) : BitVec 32 :=
  a ++ b ++ c ++ d

/-- The eight segments of an IPv6 address, as `Ipv6Addr::new` takes them. -/
def ipv6Addr (a b c d e f g h : BitVec 16) : BitVec 128 :=
  a ++ b ++ c ++ d ++ e ++ f ++ g ++ h

/-- The address bits a prefix of length `len` fixes. -/
def prefixMask (w len : Nat) : BitVec w :=
  BitVec.allOnes w <<< (w - len)

/-- Subtraction of unsigned integers, without a result on underflow. -/
def checkedSub {α : Type} [LE α] [DecidableLE α] [Sub α] (a b : α) : Option α :=
  if b ≤ a then some (a - b) else none

/-- A network of `w`-bit addresses. The constructors of the crate reject prefixes longer than the
address, so the bound is part of the type. -/
structure Network (w : Nat) where
  ip : BitVec w
  prefixLen : Fin (w + 1)
  deriving DecidableEq

-- Named, so that the lengths of networks mean the same in all modules.
instance (priority := 10000) neZeroV4 : NeZero (32 + 1) := ⟨Nat.succ_ne_zero 32⟩

instance (priority := 10000) neZeroV6 : NeZero (128 + 1) := ⟨Nat.succ_ne_zero 128⟩

def Network.mask {w : Nat} (net : Network w) : BitVec w :=
  prefixMask w net.prefixLen

def Network.network {w : Nat} (net : Network w) : BitVec w :=
  net.ip &&& net.mask

def Network.contains {w : Nat} (net : Network w) (bits : BitVec w) : Bool :=
  bits &&& net.mask == net.network

inductive IpNetwork where
  | v4 (net : Network 32)
  | v6 (net : Network 128)
  deriving DecidableEq

def IpNetwork.isIpv4 : IpNetwork → Bool
  | .v4 _ => true
  | .v6 _ => false

/-- A network contains addresses of its own family only. -/
def IpNetwork.contains : IpNetwork → IpAddr → Bool
  | .v4 net, .v4 bits => net.contains bits
  | .v6 net, .v6 bits => net.contains bits
  | _, _ => false

/-- The network of one address, `IpNetwork::from(IpAddr)`. -/
def IpNetwork.ofIpAddr : IpAddr → IpNetwork
  | .v4 bits => .v4 ⟨bits, Fin.last 32⟩
  | .v6 bits => .v6 ⟨bits, Fin.last 128⟩

structure SocketAddr where
  ip : IpAddr
  port : BitVec 16
  deriving DecidableEq

inductive TransportProtocol where
  | udp
  | tcp
  deriving DecidableEq

structure Endpoint where
  address : SocketAddr
  protocol : TransportProtocol
  deriving DecidableEq

/-- The derived order of `Endpoint`: by address, then port, then protocol. -/
def Endpoint.sortKey (endpoint : Endpoint) : (Nat ×ₗ Nat) ×ₗ Nat ×ₗ Nat :=
  toLex (endpoint.address.ip.sortKey, toLex (endpoint.address.port.toNat, match endpoint.protocol with
    | .udp => 0
    | .tcp => 1))

/-- `sort` followed by `dedup`. -/
def Endpoint.sortDedup (endpoints : List Endpoint) : List Endpoint :=
  (endpoints.insertionSort fun a b => a.sortKey ≤ b.sortKey).destutter (· ≠ ·)

theorem Endpoint.mem_sortDedup {endpoint : Endpoint} {endpoints : List Endpoint} :
    endpoint ∈ sortDedup endpoints ↔ endpoint ∈ endpoints := by
  have hkept : ∀ (l : List Endpoint) (first : Endpoint), endpoint ∈ first :: l →
      endpoint ∈ l.destutter' (· ≠ ·) first := by
    intro l
    induction l with
    | nil => exact fun _ h => h
    | cons next l ih =>
      intro first h
      rw [List.destutter'_cons]
      split_ifs with hne
      · rcases List.mem_cons.mp h with rfl | h
        · exact List.mem_cons_self ..
        · exact List.mem_cons_of_mem _ (ih next h)
      · obtain rfl := not_not.mp hne
        exact ih first (by simpa using h)
  unfold sortDedup
  constructor
  · intro h
    exact (List.mem_insertionSort _).mp ((List.destutter_sublist _ _).subset h)
  · intro h
    rw [← List.mem_insertionSort fun a b => a.sortKey ≤ b.sortKey] at h
    cases hsorted : endpoints.insertionSort fun a b => a.sortKey ≤ b.sortKey with
    | nil =>
      rw [hsorted] at h
      cases h
    | cons first l =>
      rw [hsorted] at h
      exact hkept l first h

/-- `AllowedClients`: the two values of the Unix type, and the list of executables that is the type
on Windows, where the empty list means everyone. -/
inductive AllowedClients where
  | root
  | all
  | executables (paths : List String)
  deriving DecidableEq

def AllowedClients.allowAll : AllowedClients → Bool
  | root => false
  | all => true
  | executables paths => paths.isEmpty

/-- A host that should be reachable in any tunnel state. -/
structure AllowedEndpoint where
  endpoint : Endpoint
  clients : AllowedClients
  deriving DecidableEq

/-- What may flow inside the tunnel. -/
inductive AllowedTunnelTraffic where
  | none
  | all
  | one (endpoint : Endpoint)
  | two (endpoint1 endpoint2 : Endpoint)
  deriving DecidableEq

private def v4 (a b c d : BitVec 8) (prefixLen : Fin 33) : IpNetwork :=
  .v4 ⟨ipv4Addr a b c d, prefixLen⟩

private def v6 (a : BitVec 16) (prefixLen : Fin 129) : IpNetwork :=
  .v6 ⟨ipv6Addr a 0 0 0 0 0 0 0, prefixLen⟩

def allowedLanNets : List IpNetwork :=
  [v4 10 0 0 0 8, v4 172 16 0 0 12, v4 192 168 0 0 16, v4 169 254 0 0 16, v6 0xfe80 10, v6 0xfc00 7]

def allowedLanMulticastNets : List IpNetwork :=
  [v4 255 255 255 255 32, v4 224 0 0 0 24, v4 239 0 0 0 8, v6 0xff01 16, v6 0xff02 16, v6 0xff03 16,
    v6 0xff04 16, v6 0xff05 16]

def loopbackNets : List IpNetwork :=
  [v4 127 0 0 0 8, .v6 ⟨ipv6Addr 0 0 0 0 0 0 0 1, 128⟩]

def isLocalAddress (address : IpAddr) : Bool :=
  (allowedLanNets ++ loopbackNets).any fun net => net.contains address

end MullvadVpn.Net
