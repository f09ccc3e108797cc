import MullvadVpn.Tunnel.Enter

/-!
What the operations on the shared values change. `Frame s s'` says that the firewall and the settings
are as before and the firewall was not reset; `Applied env s p s'` that the firewall took a
policy on the way, which on Android puts nothing in force; `Refused env s s'` that it did not;
`Reset s s'` that a reset was asked for.
-/

namespace MullvadVpn.Tunnel

open Net Firewall List

/-- The shared values that commands set. -/
structure Settings where
  allowLan : Bool
  lockdownMode : LockdownMode
  connectivity : Connectivity
  dnsConfig : DnsConfig
  allowedEndpoint : AllowedEndpoint

def SystemCall.isReset : SystemCall → Bool
  | resetPolicy _ => true
  | _ => false

def SystemCall.isFirewallFailure : SystemCall → Bool
  | applyPolicy _ ok => !ok
  | resetPolicy ok => !ok
  | _ => false

namespace SharedTunnelStateValues

variable {env : Environment} {s s₁ s₂ s₃ : SharedTunnelStateValues} {p : FirewallPolicy}
  (shared : SharedTunnelStateValues)

def settings : Settings where
  allowLan := shared.allowLan
  lockdownMode := shared.lockdownMode
  connectivity := shared.connectivity
  dnsConfig := shared.dnsConfig
  allowedEndpoint := shared.allowedEndpoint

/-- How often `reset_policy` was called. -/
def resets : Nat :=
  shared.calls.countP SystemCall.isReset

def blockedPolicy : FirewallPolicy :=
  .blocked shared.allowLan (some shared.allowedEndpoint)

/-- Some firewall call made on the way from `s` to `s'` failed. -/
def FailureBetween (s s' : SharedTunnelStateValues) : Prop :=
  ∃ newer, s'.calls = newer ++ s.calls ∧ ∃ call ∈ newer, call.isFirewallFailure = true

/-- No firewall call made so far failed. -/
def FirewallWorked (s : SharedTunnelStateValues) : Prop :=
  ∀ call ∈ s.calls, call.isFirewallFailure = false

instance (s : SharedTunnelStateValues) : Decidable (FirewallWorked s) :=
  inferInstanceAs (Decidable (∀ call ∈ s.calls, call.isFirewallFailure = false))

structure Frame (s s' : SharedTunnelStateValues) : Prop where
  firewall : s'.firewall = s.firewall
  settings : s'.settings = s.settings
  resets : s'.resets = s.resets
  calls : s.calls <:+ s'.calls

structure Applied (env : Environment) (s : SharedTunnelStateValues) (p : FirewallPolicy)
    (s' : SharedTunnelStateValues) : Prop where
  policy : env.os ≠ .android → s'.firewall.policy = some p
  persist : s'.firewall.persist = s.firewall.persist
  settings : s'.settings = s.settings
  resets : s'.resets = s.resets
  calls : s.calls <:+ s'.calls
  call : env.os ≠ .android → .applyPolicy p true ∈ s'.calls

structure Refused (env : Environment) (s s' : SharedTunnelStateValues) : Prop extends Frame s s' where
  failure : env.os ≠ .android → FailureBetween s s'

structure Reset (s s' : SharedTunnelStateValues) : Prop where
  policy : s'.firewall.policy = none ∨ s'.firewall.policy = s.firewall.policy ∧ FailureBetween s s'
  persist : s'.firewall.persist = s.firewall.persist
  settings : s'.settings = s.settings
  calls : s.calls <:+ s'.calls

theorem Frame.policy (h : Frame s s₁) : s₁.firewall.policy = s.firewall.policy :=
  congrArg FirewallStatus.policy h.firewall

theorem Frame.persist (h : Frame s s₁) : s₁.firewall.persist = s.firewall.persist :=
  congrArg FirewallStatus.persist h.firewall

theorem FailureBetween.widen (h : FailureBetween s₁ s₂) (hl : s.calls <:+ s₁.calls)
    (hr : s₂.calls <:+ s₃.calls) : FailureBetween s s₃ := by
  obtain ⟨newer, hnewer, call, hcall, hfail⟩ := h
  obtain ⟨before, hbefore⟩ := hl
  obtain ⟨after, hafter⟩ := hr
  refine ⟨after ++ newer ++ before, ?_, call, by simp [hcall], hfail⟩
  rw [← hafter, hnewer, ← hbefore]
  simp

theorem not_failureBetween (newer : List SystemCall) (hcalls : s₁.calls = newer ++ s.calls)
    (hworked : ∀ call ∈ newer, call.isFirewallFailure = false) : ¬ FailureBetween s s₁ := by
  rintro ⟨newer', hcalls', call, hcall, hfail⟩
  obtain rfl : newer' = newer := append_cancel_right (hcalls'.symm.trans hcalls)
  simp [hworked call hcall] at hfail

theorem FirewallWorked.of_calls (h : FirewallWorked s₁) (hcalls : s.calls <:+ s₁.calls) : FirewallWorked s :=
  fun call hcall => h call (hcalls.mem hcall)

theorem FirewallWorked.not_failureBetween (h : FirewallWorked s₁) : ¬ FailureBetween s s₁ := by
  rintro ⟨newer, hcalls, call, hcall, hfail⟩
  have hworked := h call (by rw [hcalls]; exact mem_append_left _ hcall)
  simp [hworked] at hfail

namespace Frame

theorem refl (s : SharedTunnelStateValues) : Frame s s := ⟨rfl, rfl, rfl, suffix_refl _⟩

theorem trans (h : Frame s s₁) (h' : Frame s₁ s₂) : Frame s s₂ :=
  ⟨h'.firewall.trans h.firewall, h'.settings.trans h.settings, h'.resets.trans h.resets, h.calls.trans h'.calls⟩

theorem record (s : SharedTunnelStateValues) {call} (hcall : call.isReset = false) :
    Frame s (s.record call) :=
  ⟨rfl, rfl, by simp [SharedTunnelStateValues.resets, SharedTunnelStateValues.record, hcall], suffix_cons _ _⟩

theorem ite {c : Prop} [Decidable c] (h : Frame s s₁) (h' : Frame s s₂) : Frame s (if c then s₁ else s₂) := by
  split
  · exact h
  · exact h'

theorem blockedPolicy (h : Frame s s₁) : s₁.blockedPolicy = s.blockedPolicy := by
  have hs := h.settings
  simp only [SharedTunnelStateValues.settings, Settings.mk.injEq] at hs
  simp only [SharedTunnelStateValues.blockedPolicy, hs]

end Frame

namespace Applied

theorem of_frame (h : Frame s s₁) (h' : Applied env s₁ p s₂) : Applied env s p s₂ :=
  ⟨h'.policy, h'.persist.trans h.persist, h'.settings.trans h.settings, h'.resets.trans h.resets,
    h.calls.trans h'.calls, h'.call⟩

theorem frame (h : Applied env s p s₁) (h' : Frame s₁ s₂) : Applied env s p s₂ :=
  ⟨fun hos => h'.policy.trans (h.policy hos), h'.persist.trans h.persist,
    h'.settings.trans h.settings, h'.resets.trans h.resets, h.calls.trans h'.calls,
    fun hos => h'.calls.mem (h.call hos)⟩

end Applied

namespace Refused

theorem of_frame (h : Frame s s₁) (h' : Refused env s₁ s₂) : Refused env s s₂ :=
  ⟨h.trans h'.toFrame, fun hos => (h'.failure hos).widen h.calls (suffix_refl _)⟩

theorem frame (h : Refused env s s₁) (h' : Frame s₁ s₂) : Refused env s s₂ :=
  ⟨h.toFrame.trans h', fun hos => (h.failure hos).widen (suffix_refl _) h'.calls⟩

end Refused

namespace Reset

theorem of_frame (h : Frame s s₁) (h' : Reset s₁ s₂) : Reset s s₂ := by
  refine ⟨?_, h'.persist.trans h.persist, h'.settings.trans h.settings, h.calls.trans h'.calls⟩
  rcases h'.policy with hp | ⟨hp, hfail⟩
  · exact .inl hp
  · exact .inr ⟨hp.trans h.policy, hfail.widen h.calls (suffix_refl _)⟩

theorem frame (h : Reset s s₁) (h' : Frame s₁ s₂) : Reset s s₂ := by
  refine ⟨?_, h'.persist.trans h.persist, h'.settings.trans h.settings, h.calls.trans h'.calls⟩
  rcases h.policy with hp | ⟨hp, hfail⟩
  · exact .inl (h'.policy.trans hp)
  · exact .inr ⟨h'.policy.trans hp, hfail.widen (suffix_refl _) h'.calls⟩

end Reset

variable (env)

theorem applyPolicy_cases (s : SharedTunnelStateValues) (policy : FirewallPolicy) :
    ((s.applyPolicy env policy).1 = .ok () ∧ Applied env s policy (s.applyPolicy env policy).2) ∨
    ∃ error, (s.applyPolicy env policy).1 = .error error ∧ Refused env s (s.applyPolicy env policy).2 := by
  by_cases hos : env.os = .android
  · left
    have hframe : Frame s (s.record (.applyPolicy policy true)) := Frame.record s rfl
    simp only [applyPolicy, hos, if_true, true_and]
    exact ⟨fun h => absurd hos h, hframe.persist, hframe.settings, hframe.resets, hframe.calls,
      fun h => absurd hos h⟩
  cases hres : env.applyPolicy s.clock policy with
  | none =>
    left
    simp only [applyPolicy, hos, if_false, hres, true_and]
    exact ⟨fun _ => rfl, rfl, rfl, by simp [resets, record, SystemCall.isReset],
      suffix_cons _ _, fun _ => mem_cons_self⟩
  | some error =>
    right
    simp only [applyPolicy, hos, if_false, hres]
    refine ⟨_, rfl, .record s rfl, fun _ => ?_⟩
    exact ⟨[.applyPolicy policy false], rfl, _, mem_singleton_self _, rfl⟩

/-- A policy of some kind is in force now, or was refused. -/
def Sets (env : Environment) (s : SharedTunnelStateValues) (kind : FirewallPolicy → Prop) {ε : Type}
    (result : Except ε Unit × SharedTunnelStateValues) : Prop :=
  (result.1 = .ok () ∧ ∃ policy, kind policy ∧ Applied env s policy result.2) ∨
    ∃ error, result.1 = .error error ∧ Refused env s result.2

theorem applyPolicy_sets {kind policy} {ε : Type}
    (f : FirewallError → ε) (hframe : Frame s s₁) (hpolicy : kind policy) :
    Sets env s kind ((s₁.applyPolicy env policy).1.mapError f, (s₁.applyPolicy env policy).2) := by
  rcases applyPolicy_cases env s₁ policy with ⟨hok, happ⟩ | ⟨error, herr, href⟩
  · exact .inl ⟨by rw [hok]; rfl, policy, hpolicy, happ.of_frame hframe⟩
  · exact .inr ⟨f error, by rw [herr]; rfl, href.of_frame hframe⟩

variable (s)

theorem resetPolicy_reset : Reset s (s.resetPolicy env) := by
  unfold resetPolicy
  split
  · exact ⟨.inl rfl, rfl, rfl, suffix_cons _ _⟩
  · exact ⟨.inr ⟨rfl, [.resetPolicy false], rfl, _, mem_singleton_self _, rfl⟩, rfl, rfl, suffix_cons _ _⟩

theorem dnsSetLocal_frame : Frame s (s.dnsSetLocal env).2 := .record s rfl

theorem setTunnelAddresses_frame
    (metadata : Option TunnelMetadata) : Frame s (s.setTunnelAddresses env metadata).2 :=
  .record s rfl

theorem resetRoutes_frame : Frame s (s.resetRoutes env) := by
  unfold resetRoutes
  have hclear : Frame s (s.record .clearRoutes) := Frame.record s rfl
  exact .ite (hclear.trans (.record _ rfl)) hclear

theorem disableConnectivityCheck_frame : Frame s (s.disableConnectivityCheck env) := by
  unfold disableConnectivityCheck
  have hcall : Frame s (s.record .disableConnectivityCheck) := Frame.record s rfl
  exact .ite ⟨hcall.firewall, hcall.settings, hcall.resets, hcall.calls⟩ (.refl s)

theorem resetConnectivityCheck_frame : Frame s s.resetConnectivityCheck := by
  unfold resetConnectivityCheck
  have htaken : Frame s { s with connectivityCheckWasEnabled := none } :=
    ⟨rfl, rfl, rfl, suffix_refl _⟩
  exact .ite (htaken.trans (.record _ rfl)) htaken

theorem restartTunnel_frame (blocking : Bool) : Frame s (s.restartTunnel env blocking).2 :=
  (Frame.record s rfl).trans (Frame.record _ rfl)

theorem setExcludedPaths_frame (apps : List String) : Frame s (s.setExcludedPaths apps).2 := by
  unfold setExcludedPaths
  split
  · exact ⟨rfl, rfl, rfl, suffix_refl _⟩
  · exact .refl s

theorem setExcludePaths_frame (paths : List String) : Frame s (s.setExcludePaths env paths).2 := by
  unfold setExcludePaths
  dsimp only
  split
  · exact .record s rfl
  · exact .record s rfl

theorem storeExcludedApps_frame (paths : List String) : Frame s (s.storeExcludedApps env paths) := by
  unfold storeExcludedApps
  split
  · exact .record s rfl
  · exact setExcludedPaths_frame s paths
  · exact setExcludePaths_frame env s paths
  · exact .refl s

theorem enableSplitTunnel_frame
    (metadata : TunnelMetadata) : Frame s (s.enableSplitTunnel env metadata).2 := by
  unfold enableSplitTunnel
  split
  · exact .record s rfl
  · exact .record s rfl

theorem persistFirewall_eq (persist : Bool) : s.persistFirewall env persist =
      { s with firewall := ⟨s.firewall.policy, if env.os = .windows then persist else s.firewall.persist⟩ } := by
  unfold persistFirewall
  split_ifs <;> rfl

end SharedTunnelStateValues

end MullvadVpn.Tunnel
