import MullvadVpn.Net.Address

/-!
The size of the packets of the MASQUE client (`mullvad-masque-proxy/src/client/mod.rs`). The MTU is checked
against the address that traffic is forwarded to, whereas the packets that it bounds go to the server.
-/

namespace MullvadVpn.Masque

open Net

def udpHeaderSize : Nat := 8
def minMaxUdpPayloadSize : Nat := 1200
def minIpv4Mtu : Nat := 20 + udpHeaderSize + 1200
def minIpv6Mtu : Nat := 40 + udpHeaderSize + 1200

def ipOverhead (addr : SocketAddr) : Nat :=
  if addr.ip.isIpv4 then 20 else 40

def computeUdpPayloadSize (mtu : Nat) (targetAddr : SocketAddr) : Option Nat := do
  let withoutIp ← checkedSub mtu (ipOverhead targetAddr)
  let desiredMax ← checkedSub withoutIp udpHeaderSize
  return if desiredMax < minMaxUdpPayloadSize then minMaxUdpPayloadSize else desiredMax

inductive MtuError where
  | invalidMtu (minMtu : Nat)

def validateMtu (mtu : Nat) (targetAddr : SocketAddr) : Except MtuError Unit :=
  let minMtu := if targetAddr.ip.isIpv4 then minIpv4Mtu else minIpv6Mtu
  if mtu ≥ minMtu then .ok () else .error (.invalidMtu minMtu)

structure ClientConfig where
  targetAddr : SocketAddr
  serverAddr : SocketAddr
  mtu : Nat

/-- What `connect` makes of the MTU: the maximum size of UDP payloads that it configures the endpoint with, or
nothing if a subtraction underflows. -/
def maxUdpPayloadSize (config : ClientConfig) : Except MtuError (Option Nat) := do
  validateMtu config.mtu config.targetAddr
  return computeUdpPayloadSize config.mtu config.serverAddr

theorem checkedSub_eq {a b : Nat} (h : b ≤ a) : checkedSub a b = some (a - b) := if_pos h

theorem computeUdpPayloadSize_eq {mtu : Nat} (h : minIpv4Mtu ≤ mtu) (addr : SocketAddr) :
    computeUdpPayloadSize mtu addr = some (max minMaxUdpPayloadSize (mtu - ipOverhead addr - udpHeaderSize)) := by
  have hip : ipOverhead addr ≤ 40 := by
    unfold ipOverhead
    split <;> omega
  unfold minIpv4Mtu udpHeaderSize at h
  unfold computeUdpPayloadSize udpHeaderSize
  rw [checkedSub_eq (by omega : ipOverhead addr ≤ mtu), Option.bind_eq_bind, Option.bind_some,
    checkedSub_eq (by omega : 8 ≤ mtu - ipOverhead addr), Option.bind_some, Nat.max_def]
  split <;> split <;> first | rfl | omega

/-- The packets to the server fit in the MTU exactly if it is large enough for the family of the server. -/
theorem maxUdpPayloadSize_fits_iff (config : ClientConfig) {result : Option Nat}
    (h : maxUdpPayloadSize config = .ok result) :
    (∃ size, result = some size ∧ size + udpHeaderSize + ipOverhead config.serverAddr ≤ config.mtu) ↔
      config.serverAddr.ip.isIpv4 = true ∨ minIpv6Mtu ≤ config.mtu := by
  simp only [maxUdpPayloadSize] at h
  cases hvalid : validateMtu config.mtu config.targetAddr with
  | error error => simp [hvalid] at h
  | ok =>
    have hmtu : minIpv4Mtu ≤ config.mtu := by
      unfold validateMtu minIpv6Mtu at hvalid
      unfold minIpv4Mtu at hvalid ⊢
      grind
    obtain rfl : computeUdpPayloadSize config.mtu config.serverAddr = result := by simpa [hvalid] using h
    simp only [computeUdpPayloadSize_eq hmtu, Option.some.injEq, exists_eq_left']
    unfold minIpv4Mtu udpHeaderSize at hmtu
    unfold ipOverhead minIpv6Mtu udpHeaderSize minMaxUdpPayloadSize
    split <;> simp_all <;> omega

/-- A server with an IPv6 address, for traffic to an IPv4 address. -/
def Sample.mixedConfig (mtu : Nat) : ClientConfig where
  targetAddr := ⟨.v4 (ipv4Addr 10 64 0 1), 51820⟩
  serverAddr := ⟨.v6 (ipv6Addr 0x2a03 0x1b20 0 0 0 0 0 1), 443⟩
  mtu

theorem maxUdpPayloadSize_fits_ethernet :
    maxUdpPayloadSize (Sample.mixedConfig 1500) = .ok (some 1452) ∧
      ∃ size, some 1452 = some size ∧ size + udpHeaderSize + ipOverhead (Sample.mixedConfig 1500).serverAddr ≤
        (Sample.mixedConfig 1500).mtu :=
  ⟨rfl, (maxUdpPayloadSize_fits_iff (Sample.mixedConfig 1500) rfl).mpr (.inr (by decide))⟩

/-- An MTU that is accepted for the IPv4 address, while packets of 1248 bytes go to the server. -/
theorem maxUdpPayloadSize_exceeds_mtu :
    maxUdpPayloadSize (Sample.mixedConfig 1228) = .ok (some 1200) ∧
      (Sample.mixedConfig 1228).mtu < 1200 + udpHeaderSize + ipOverhead (Sample.mixedConfig 1228).serverAddr :=
  ⟨rfl, by decide⟩

end MullvadVpn.Masque
