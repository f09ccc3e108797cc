import MullvadVpn.Wireguard.Config

/-!
The MTU of a WireGuard tunnel (`WireguardMonitor::start`, `mtu_detection`). Unless the user has set one, it
is what the route and all headers leave of a packet, clamped to what is reasonable, and the detection of
dropped packets then probes sizes between the least MTU of IPv4 and this one.
-/

namespace MullvadVpn.Wireguard

open Net (Obfuscators checkedSub)

variable {target : Target} (params : Parameters target) (a b : BitVec 16)

def saturatingSub : BitVec 16 :=
  if b ≤ a then a - b else 0

theorem toNat_saturatingSub : (saturatingSub a b).toNat = a.toNat - b.toNat := by
  unfold saturatingSub
  split_ifs with h
  · exact BitVec.toNat_sub_of_le h
  · exact (Nat.sub_eq_zero_of_le (Nat.le_of_not_le h)).symm

/-- `Ord::clamp`, which panics if the bounds are in the wrong order. -/
def clamp (value least greatest : BitVec 16) : Option (BitVec 16) :=
  if greatest < least then none
  else if value < least then some least
  else if greatest < value then some greatest
  else some value

def ipv4HeaderSize : BitVec 16 := 20
def ipv6HeaderSize : BitVec 16 := 40
def wireguardHeaderSize : BitVec 16 := 40
def minIpv4Mtu : BitVec 16 := 576
def minIpv6Mtu : BitVec 16 := 1280
def mtuSafetyMargin : BitVec 16 := 60

def wireguardOverhead : BitVec 16 :=
  wireguardHeaderSize + match params.connection.peer.endpoint with
    | .v4 .. => ipv4HeaderSize
    | .v6 .. => ipv6HeaderSize

def minMtu : BitVec 16 :=
  if params.enableIpv6 then minIpv6Mtu else minIpv4Mtu

def clampTunnelMtu (mtu : BitVec 16) : Option (BitVec 16) := do
  let maxPeerMtu ← checkedSub (← checkedSub 1500 mtuSafetyMargin) (wireguardOverhead params)
  clamp mtu (minMtu params) maxPeerMtu

/-- What `start` makes of the parameters before it opens the tunnel. The obfuscators are started in
between, and say how much they add to a packet. -/
def startConfig (routeMtu : BitVec 16)
    (packetOverhead : Obfuscators → BitVec 16) : Option (Except Config.Error (Config target)) := do
  let tunnelMtu ← match params.options.mtu with
    | some mtu => some mtu
    | none => clampTunnelMtu params (saturatingSub routeMtu (wireguardOverhead params))
  match Config.fromParameters params tunnelMtu with
  | .error err => some (.error err)
  | .ok config =>
    match params.options.mtu, config.obfuscatorConfig with
    | none, some obfuscators =>
      let mtu ← clampTunnelMtu params (saturatingSub config.mtu (packetOverhead obfuscators))
      some (.ok { config with mtu })
    | _, _ => some (.ok config)

/-- Everything that is added to a packet of the tunnel. -/
def totalOverhead (packetOverhead : Obfuscators → BitVec 16) : Nat :=
  (wireguardOverhead params).toNat + (params.obfuscation.map fun o => (packetOverhead o).toNat).getD 0

theorem wireguardOverhead_cases : wireguardOverhead params = 60 ∨ wireguardOverhead params = 80 := by
  unfold wireguardOverhead
  split
  · exact .inl rfl
  · exact .inr rfl

theorem minMtu_cases : minMtu params = 576 ∨ minMtu params = 1280 := by
  unfold minMtu
  split_ifs
  · exact .inr rfl
  · exact .inl rfl

theorem exists_clampTunnelMtu (mtu : BitVec 16) :
    ∃ clamped, clampTunnelMtu params mtu = some clamped ∧ clamped.toNat =
      max (minMtu params).toNat (min mtu.toNat (1440 - (wireguardOverhead params).toNat)) := by
  have hmax : ∃ greatest : BitVec 16, checkedSub 1440 (wireguardOverhead params) = some greatest ∧
      greatest.toNat = 1440 - (wireguardOverhead params).toNat ∧ 1360 ≤ greatest := by
    rcases wireguardOverhead_cases params with h | h <;> rw [h]
    · exact ⟨1380, rfl, rfl, by decide⟩
    · exact ⟨1360, rfl, rfl, by decide⟩
  obtain ⟨greatest, hgreatest, hvalue, hle⟩ := hmax
  have hmin : minMtu params ≤ 1280 := by rcases minMtu_cases params with h | h <;> rw [h] <;> decide
  have heq : clampTunnelMtu params mtu = clamp mtu (minMtu params) greatest :=
    congrArg (Option.bind · (clamp mtu (minMtu params))) hgreatest
  rw [heq, clamp, if_neg (by bv_omega), ← hvalue]
  split_ifs with hlow hhigh
  all_goals exact ⟨_, rfl, by bv_omega⟩

theorem Config.fields_of_fromParameters {params : Parameters target} {defaultMtu : BitVec 16}
    {config : Config target} (h : fromParameters params defaultMtu = .ok config) :
    config.mtu = params.options.mtu.getD defaultMtu ∧ config.obfuscatorConfig = params.obfuscation := by
  simp only [fromParameters, Systems.Fallible.bind_eq_ok] at h
  obtain ⟨_, -, exitPeer, -, entryPeer, -, h⟩ := h
  cases h
  exact ⟨rfl, rfl⟩

/-- The MTU that is derived automatically: what the route leaves, or a packet of 1440 bytes, but not less
than the least MTU. -/
theorem startConfig_spec {params : Parameters target} (hmtu : params.options.mtu = none)
    (routeMtu : BitVec 16) (packetOverhead : Obfuscators → BitVec 16) :
    ∃ result, startConfig params routeMtu packetOverhead = some result ∧
      ∀ config, result = .ok config → config.mtu.toNat =
        max (minMtu params).toNat (min routeMtu.toNat 1440 - totalOverhead params packetOverhead) := by
  obtain ⟨first, hfirst, hvalue⟩ :=
    exists_clampTunnelMtu params (saturatingSub routeMtu (wireguardOverhead params))
  rw [toNat_saturatingSub] at hvalue
  have hroom : (minMtu params).toNat ≤ 1440 - (wireguardOverhead params).toNat := by
    rcases minMtu_cases params with h | h <;> rcases wireguardOverhead_cases params with h' | h' <;>
      rw [h, h'] <;> decide
  unfold startConfig totalOverhead
  simp only [hmtu, hfirst, Option.bind_eq_bind, Option.bind_some]
  cases hconfig : Config.fromParameters params first with
  | error err =>
    refine ⟨_, rfl, fun config h => ?_⟩
    cases h
  | ok config =>
    obtain ⟨hfirstMtu, hobfuscator⟩ := Config.fields_of_fromParameters hconfig
    rw [hmtu, Option.getD_none] at hfirstMtu
    subst hfirstMtu
    cases hobfuscation : params.obfuscation with
    | none =>
      rw [hobfuscation] at hobfuscator
      refine ⟨.ok config, by simp only [hobfuscator], fun _ h => ?_⟩
      cases h
      simp only [Option.map_none, Option.getD_none]
      omega
    | some obfuscators =>
      rw [hobfuscation] at hobfuscator
      obtain ⟨second, hsecond, hvalue'⟩ :=
        exists_clampTunnelMtu params (saturatingSub config.mtu (packetOverhead obfuscators))
      rw [toNat_saturatingSub] at hvalue'
      refine ⟨.ok { config with mtu := second }, by simp only [hobfuscator, hsecond, Option.bind_some],
        fun _ h => ?_⟩
      cases h
      simp only [Option.map_some, Option.getD_some]
      omega

/-- An MTU that is not set by the user is the least one, or leaves room on the route for everything that is
added to a packet. Nothing underflows. -/
theorem automatic_mtu_fits (params : Parameters target) (routeMtu : BitVec 16)
    (packetOverhead : Obfuscators → BitVec 16) (hmtu : params.options.mtu = none) :
    ∃ result, startConfig params routeMtu packetOverhead = some result ∧
      ∀ config, result = .ok config → config.mtu = (if params.enableIpv6 then 1280 else 576) ∨
        config.mtu.toNat + (wireguardOverhead params).toNat +
          (params.obfuscation.map fun o => (packetOverhead o).toNat).getD 0 ≤ routeMtu.toNat := by
  obtain ⟨result, hresult, hspec⟩ := startConfig_spec hmtu routeMtu packetOverhead
  refine ⟨result, hresult, fun config hconfig => ?_⟩
  have hvalue := hspec config hconfig
  by_cases hleast : config.mtu.toNat = (minMtu params).toNat
  · exact .inl (BitVec.eq_of_toNat_eq hleast)
  · rw [totalOverhead] at hvalue
    exact .inr (by omega)

/-- A `u16`, or nothing on overflow. -/
def checkedU16 (n : Nat) : Option Nat :=
  if n < 2 ^ 16 then some n else none

def nextMultipleOf (n m : Nat) : Nat :=
  (n + m - 1) / m * m

/-- The range from `start` to `stop` in steps. -/
def stepBy (start stop step : Nat) : List Nat :=
  List.range' start ((stop - start + step - 1) / step) step

def mtuSpacing (mtuMin mtuMax stepSize : Nat) : Option (List Nat) := do
  guard (mtuMin < mtuMax)
  guard (stepSize < mtuMax)
  guard (stepSize ≠ 0)
  let secondMtu ← checkedU16 (nextMultipleOf (← checkedU16 (mtuMin + 1)) stepSize)
  some (mtuMin :: (stepBy secondMtu mtuMax stepSize ++ [mtuMax]))

def mtuStepSize : Nat := 20

/-- From the first size to the last one, growing by at most a step at a time. -/
structure Spaced (first last step : Nat) (sizes : List Nat) : Prop where
  head : sizes.head? = some first
  getLast : sizes.getLast? = some last
  isChain : sizes.IsChain fun a b => a < b ∧ b ≤ a + step

theorem isChain_range' {step stop : Nat} (count first start : Nat) (hfirst : first < start)
    (hstart : start ≤ first + step) (hstop : first < stop) (hlast : stop ≤ start + count * step)
    (hbefore : ∀ k < count, start + k * step < stop) :
    (first :: (List.range' start count step ++ [stop])).IsChain fun a b => a < b ∧ b ≤ a + step := by
  induction count generalizing first start with
  | zero =>
    simp only [Nat.zero_mul, Nat.add_zero] at hlast
    exact .cons_cons ⟨hstop, hlast.trans hstart⟩ (.singleton _)
  | succ count ih =>
    have hnext := hbefore 0 (Nat.succ_pos _)
    rw [List.range'_succ, List.cons_append]
    refine .cons_cons ⟨hfirst, hstart⟩ (ih start (start + step) ?_ le_rfl (by omega) ?_ ?_)
    · omega
    · rw [Nat.succ_mul] at hlast
      omega
    · intro k hk
      have := hbefore (k + 1) (Nat.succ_lt_succ hk)
      rw [Nat.succ_mul] at this
      omega

theorem spaced_mtuSpacing {mtuMin mtuMax step : Nat} (hlt : mtuMin < mtuMax) (hstep : 0 < step)
    (hless : step < mtuMax) (hfits : mtuMin + step < 2 ^ 16) :
    ∃ sizes, mtuSpacing mtuMin mtuMax step = some sizes ∧ Spaced mtuMin mtuMax step sizes := by
  obtain ⟨q, hq⟩ : ∃ q, q = (mtuMin + 1 + step - 1) / step := ⟨_, rfl⟩
  have hdiv := Nat.div_add_mod (mtuMin + 1 + step - 1) step
  have hmod := Nat.mod_lt (mtuMin + 1 + step - 1) hstep
  have hsecond : nextMultipleOf (mtuMin + 1) step = step * q := by
    rw [nextMultipleOf, Nat.mul_comm, hq]
  rw [← hq] at hdiv
  obtain ⟨count, hcount⟩ : ∃ count, count = (mtuMax - step * q + step - 1) / step := ⟨_, rfl⟩
  have hdiv' := Nat.div_add_mod (mtuMax - step * q + step - 1) step
  have hmod' := Nat.mod_lt (mtuMax - step * q + step - 1) hstep
  rw [← hcount] at hdiv'
  refine ⟨mtuMin :: (List.range' (step * q) count step ++ [mtuMax]), ?_, rfl, ?_, ?_⟩
  · have hu16 : checkedU16 (mtuMin + 1) = some (mtuMin + 1) := if_pos (by omega)
    have hu16' : checkedU16 (step * q) = some (step * q) := if_pos (by omega)
    simp [mtuSpacing, hlt, hless, hstep.ne', hu16, hsecond, hu16', stepBy, hcount]
  · rw [← List.cons_append, List.getLast?_concat]
  · refine isChain_range' count mtuMin (step * q) (by omega) (by omega) hlt ?_ fun k hk => ?_
    · rw [Nat.mul_comm count]
      omega
    · have hle : step * (k + 1) ≤ step * count := Nat.mul_le_mul_left _ hk
      rw [Nat.mul_succ] at hle
      rw [Nat.mul_comm k]
      omega

/-- The probes for an MTU that was derived automatically are spaced as they should be exactly if IPv6 is
enabled, or the route and a packet of 1440 bytes leave room for more than the least MTU of IPv4. There are
fewer tunnels that are probed: the detection is not started with DAITA or on Android. -/
theorem mtuSpacing_spaced_iff (params : Parameters target) (routeMtu : BitVec 16)
    (packetOverhead : Obfuscators → BitVec 16) (hmtu : params.options.mtu = none)
    (config : Config target) (hstart : startConfig params routeMtu packetOverhead = some (.ok config)) :
    (∃ sizes, mtuSpacing minIpv4Mtu.toNat config.mtu.toNat mtuStepSize = some sizes ∧
      Spaced minIpv4Mtu.toNat config.mtu.toNat mtuStepSize sizes) ↔
    params.enableIpv6 = true ∨
      minIpv4Mtu.toNat + totalOverhead params packetOverhead < min routeMtu.toNat 1440 := by
  obtain ⟨result, hresult, hspec⟩ := startConfig_spec hmtu routeMtu packetOverhead
  cases hresult.symm.trans hstart
  have hvalue := hspec config rfl
  have hspaced : (∃ sizes, mtuSpacing minIpv4Mtu.toNat config.mtu.toNat mtuStepSize = some sizes ∧
      Spaced minIpv4Mtu.toNat config.mtu.toNat mtuStepSize sizes) ↔ 576 < config.mtu.toNat := by
    constructor
    · rintro ⟨sizes, hsizes, -⟩
      by_contra hnot
      have hnot : ¬minIpv4Mtu.toNat < config.mtu.toNat := hnot
      rw [mtuSpacing, guard, if_neg hnot] at hsizes
      cases hsizes
    · intro hlt
      exact spaced_mtuSpacing hlt (by decide) (lt_trans (by decide) hlt) (by decide)
  rw [hspaced]
  unfold minMtu at hvalue
  cases hipv6 : params.enableIpv6 with
  | true =>
    rw [hipv6, if_pos rfl] at hvalue
    have hleast : 1280 ≤ config.mtu.toNat := hvalue ▸ le_max_left _ _
    exact iff_of_true (by omega) (.inl rfl)
  | false =>
    rw [hipv6, if_neg Bool.false_ne_true] at hvalue
    rw [or_iff_right Bool.false_ne_true]
    change _ ↔ 576 + _ < _
    change _ = max 576 _ at hvalue
    omega

namespace Sample

def ipv4Parameters : Parameters linux :=
  { ipv6Parameters with connection :=
      { ipv6Parameters.connection with tunnel := ⟨Vector.replicate 32 1, [.v4 1]⟩ } }

end Sample

/-- Shadowsocks adds 40 bytes to each packet. -/
theorem automatic_mtu_fits_shadowsocks :
    let params := { Sample.ipv4Parameters with obfuscation := some (.single (.shadowsocks ⟨.v4 1, 443⟩)) }
    ∃ config, startConfig params 1500 (fun _ => 40) = some (.ok config) ∧
      (config.mtu = 576 ∨ config.mtu.toNat + 60 + 40 ≤ 1500) := by
  intro params
  obtain ⟨result, hresult, hfits⟩ := automatic_mtu_fits params 1500 (fun _ => 40) rfl
  cases result with
  | ok config => exact ⟨config, hresult, hfits config rfl⟩
  | error err =>
    have hok : (startConfig params 1500 fun _ => 40).any (·.toBool) = true := by decide +kernel
    rw [hresult] at hok
    cases hok

theorem mtuSpacing_spaced_ethernet :
    ∃ config, startConfig Sample.ipv4Parameters 1500 (fun _ => 0) = some (.ok config) ∧
      ∃ sizes, mtuSpacing minIpv4Mtu.toNat config.mtu.toNat mtuStepSize = some sizes ∧
        Spaced minIpv4Mtu.toNat config.mtu.toNat mtuStepSize sizes :=
  ⟨_, rfl, (mtuSpacing_spaced_iff Sample.ipv4Parameters 1500 (fun _ => 0) rfl _ rfl).mpr (.inr (by decide))⟩

/-- On a route with an MTU of 600 the MTU of the tunnel is the least one, and nothing is probed: an
assertion fails. -/
theorem mtuSpacing_panics :
    ∃ config, startConfig Sample.ipv4Parameters 600 (fun _ => 0) = some (.ok config) ∧
      mtuSpacing minIpv4Mtu.toNat config.mtu.toNat mtuStepSize = none :=
  ⟨_, rfl, by decide⟩

end MullvadVpn.Wireguard
