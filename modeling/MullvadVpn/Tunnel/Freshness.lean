import MullvadVpn.Tunnel.Step

/-!
Freshness of the policy in force, on desktop and with a firewall that never fails. Some states only
store a changed setting and some apply their policy again, but whenever a policy is in force that
depends on a setting, it carries the current value.
-/

namespace MullvadVpn.Tunnel

open Net Firewall SharedTunnelStateValues TunnelStateMachine

variable {policy : FirewallPolicy} {state : ConnectedState} {entered : Entered}
  {env : Environment} {s s₁ s' : SharedTunnelStateValues} {event : EventResult}

/-- The policy carries the current value of the settings every state but the connected one needs. -/
structure CarriesSettings (s : SharedTunnelStateValues) (policy : FirewallPolicy) : Prop where
  allowLan : policy.allowLan = s.allowLan
  allowedEndpoint : policy.allowedEndpoint = some s.allowedEndpoint

/-- The peers of the policy are the next hops of the tunnel. -/
def CarriesPeers (params : TunnelParameters) (policy : FirewallPolicy) : Prop :=
  policy.peerEndpoints.map (List.map AllowedEndpoint.endpoint) = some params.getNextHopEndpoints

/-- What the policy in force has to carry in each state. -/
def PolicyFresh (state : TunnelState) (s : SharedTunnelStateValues) : Prop :=
  match state with
  | .disconnected => s.lockdownMode.bool = true →
    ∃ policy, s.firewall.policy = some policy ∧ CarriesSettings s policy
  | .connecting state => ∃ policy, s.firewall.policy = some policy ∧ CarriesSettings s policy ∧
    CarriesPeers state.tunnelParameters policy
  | .connected state => ∃ policy, s.firewall.policy = some policy ∧ policy.allowLan = s.allowLan ∧
    policy.dnsConfig = some (s.dnsConfig.resolve state.metadata.gateways 53) ∧
    CarriesPeers state.tunnelParameters policy
  | .disconnecting _ => True
  | .error _ => ∃ policy, s.firewall.policy = some policy ∧ CarriesSettings s policy

/-- Carrying the settings depends on these settings only, and those make up the blocked policy. -/
theorem CarriesSettings.of_blockedPolicy (h : CarriesSettings s policy)
    (hsame : s'.blockedPolicy = s.blockedPolicy) : CarriesSettings s' policy := by
  simp only [blockedPolicy, FirewallPolicy.blocked.injEq, Option.some.injEq] at hsame
  exact ⟨h.allowLan.trans hsame.1.symm, h.allowedEndpoint.trans (congrArg some hsame.2.symm)⟩

theorem blockedPolicy_of_settings (h : s'.settings = s.settings) : s'.blockedPolicy = s.blockedPolicy := by
  simp only [settings, Settings.mk.injEq] at h
  simp only [blockedPolicy, h]

theorem carriesPeers_peerEndpoints (env : Environment) (params : TunnelParameters) :
    (peerEndpoints env params).map AllowedEndpoint.endpoint = params.getNextHopEndpoints := by
  simp [peerEndpoints, Function.comp_def]

variable {metadata : Option TunnelMetadata} {traffic : AllowedTunnelTraffic}

theorem ConnectingState.IsPolicy.carries {params}
    (h : IsPolicy env s params metadata traffic policy) :
    CarriesSettings s policy ∧ CarriesPeers params policy := by
  obtain ⟨redirect, rfl⟩ := h
  exact ⟨⟨rfl, rfl⟩, congrArg some (carriesPeers_peerEndpoints env params)⟩

theorem ConnectedState.IsPolicy.carries (h : IsPolicy env s state policy) :
    policy.allowLan = s.allowLan ∧ policy.dnsConfig = some (s.dnsConfig.resolve state.metadata.gateways 53) ∧
      CarriesPeers state.tunnelParameters policy := by
  obtain ⟨redirect, rfl⟩ := h
  exact ⟨rfl, rfl, congrArg some (carriesPeers_peerEndpoints env state.tunnelParameters)⟩

section Desktop

variable (hos : env.os ≠ .android)

include hos

theorem SharedTunnelStateValues.Refused.elim (hworked : FirewallWorked s') (h : Refused env s s') : False :=
  hworked.not_failureBetween (h.failure hos)

theorem SharedTunnelStateValues.Applied.blockedFresh
    (h : Applied env s₁ s.blockedPolicy s') (hsettings : s₁.settings = s.settings) :
    ∃ policy, s'.firewall.policy = some policy ∧ CarriesSettings s' policy :=
  ⟨_, h.policy hos, .of_blockedPolicy ⟨rfl, rfl⟩ (blockedPolicy_of_settings (h.settings.trans hsettings))⟩

theorem SharedTunnelStateValues.Applied.connectingFresh {state}
    (hpolicy : ConnectingState.IsPolicy env s state.tunnelParameters metadata traffic policy)
    (h : Applied env s policy s') : PolicyFresh (.connecting state) s' := by
  obtain ⟨hsettings, hpeers⟩ := hpolicy.carries
  exact ⟨policy, h.policy hos, hsettings.of_blockedPolicy (blockedPolicy_of_settings h.settings), hpeers⟩

theorem SharedTunnelStateValues.Applied.connectedFresh
    (hpolicy : ConnectedState.IsPolicy env s state policy) (h : Applied env s policy s') :
    PolicyFresh (.connected state) s' := by
  obtain ⟨hlan, hdns, hpeers⟩ := hpolicy.carries
  have hlan' : s'.allowLan = s.allowLan := congrArg Settings.allowLan h.settings
  have hdns' : s'.dnsConfig = s.dnsConfig := congrArg Settings.dnsConfig h.settings
  exact ⟨policy, h.policy hos, hlan.trans hlan'.symm, hdns' ▸ hdns, hpeers⟩

theorem ErrorState.Entering.fresh (hworked : FirewallWorked entered.shared)
    (h : Entering env s entered) : PolicyFresh entered.state entered.shared := by
  cases h with
  | blocked cause happ => exact happ.blockedFresh hos rfl
  | failed cause error href => exact (href.elim hos hworked).elim

theorem ConnectingState.Entering.fresh {retryAttempt} (hworked : FirewallWorked entered.shared)
    (h : Entering env s retryAttempt entered) : PolicyFresh entered.state entered.shared := by
  cases h with
  | connecting params policy hpolicy happ => exact happ.connectingFresh hos hpolicy
  | error h => exact h.fresh hos hworked

theorem ConnectedState.Entering.fresh
    (h : Entering env s state entered) : PolicyFresh entered.state entered.shared := by
  cases h with
  | connected policy endpoint hpolicy happ => exact happ.connectedFresh hos hpolicy
  | dnsFailed _ _ _ | refused _ _ => trivial

variable {shouldReset : Bool}

theorem DisconnectedState.FirewallEffect.fresh (hworked : FirewallWorked s')
    (h : FirewallEffect env s shouldReset s') : PolicyFresh .disconnected s' := by
  intro hlock
  have hmode : s'.lockdownMode = s.lockdownMode := congrArg Settings.lockdownMode h.settings
  rw [hmode] at hlock
  rcases h.of_lockdown hos hlock with happ | href
  · exact happ.blockedFresh hos (persisted_settings env s)
  · exact (href.elim hos hworked).elim

theorem DisconnectedState.Entering.fresh (hworked : FirewallWorked entered.shared)
    (h : Entering env s shouldReset entered) : PolicyFresh entered.state entered.shared := by
  rw [h.state]
  exact h.effect.fresh hos hworked

/-- A state that stays either applies its policy again or stores a setting its policy does not
depend on. -/
theorem fresh_sameState {state state'}
    (hworked : FirewallWorked s') (h : state.Outcome env s event (.sameState state') s')
    (hfresh : FirewallWorked s → PolicyFresh state s) : PolicyFresh state' s' := by
  cases h with
  | disconnected h =>
    cases h with
    | stay hstored _ hblocked hmode =>
      intro hlock
      obtain ⟨policy, hforce, hcarries⟩ := hfresh (hworked.of_calls hstored.calls) (hmode ▸ hlock)
      exact ⟨policy, hstored.policy.trans hforce, hcarries.of_blockedPolicy hblocked⟩
    | sameLockdown _ _ => exact hfresh hworked
    | refirewalled _ _ _ heffect => exact heffect.fresh hos hworked
  | connecting h =>
    cases h with
    | stay hsame hstored _ hblocked =>
      obtain ⟨policy, hforce, hcarries, hpeers⟩ := hfresh (hworked.of_calls hstored.calls)
      exact ⟨policy, hstored.policy.trans hforce, hcarries.of_blockedPolicy (hblocked hos),
        hsame.tunnelParameters ▸ hpeers⟩
    | reapplied policy _ _ _ hpolicy happ => exact happ.connectingFresh hos hpolicy
  | connected h =>
    cases h with
    | stay hstored _ hkept =>
      obtain ⟨policy, hforce, hlan, hdns, hpeers⟩ := hfresh (hworked.of_calls hstored.calls)
      obtain ⟨hlan', hdns'⟩ := hkept hos
      exact ⟨policy, hstored.policy.trans hforce, hlan.trans hlan'.symm, hdns' ▸ hdns, hpeers⟩
    | reapplied policy _ _ hpolicy happ => exact happ.connectedFresh hos hpolicy
  | disconnecting h =>
    cases h with
    | stay _ _ => trivial
  | error h =>
    cases h with
    | stay hstored _ hblocked =>
      obtain ⟨policy, hforce, hcarries⟩ := hfresh (hworked.of_calls hstored.calls)
      exact ⟨policy, hstored.policy.trans hforce, hcarries.of_blockedPolicy (hblocked hos)⟩
    | reblocked _ _ happ => exact happ.blockedFresh hos rfl
    | refused _ _ href => exact (href.elim hos hworked).elim

end Desktop

/-- **Policy freshness.** On desktop, in every run in which no firewall call failed. -/
theorem policy_fresh (hos : env.os ≠ .android) {history : List EventResult}
    {machine : TunnelStateMachine} (hrun : (system env).Run history machine)
    (hworked : machine.shared.FirewallWorked) {state : TunnelState}
    (hstate : machine.currentState = some state) : PolicyFresh state machine.shared := by
  refine runWhere_invariant (J := fun _ state _ s => FirewallWorked s → PolicyFresh state s) ?_ ?_ ?_
    hrun hstate hworked
  · exact fun settings connectivity leftover hworked => (DisconnectedState.enter_entering env
      (initialShared env settings connectivity leftover) settings.resetFirewall).effect.fresh hos hworked
  · intro _ _ _ _ _ _ _ _ _ _ _ houtcome hworked
    cases houtcome.enters with
    | disconnected _ _ hentering | started _ hentering => exact hentering.fresh hos hworked
    | up _ hentering => exact hentering.fresh hos
    | left _ _ _ _ => trivial
  · exact fun _ _ _ _ _ _ _ _ _ hfresh houtcome hworked => fresh_sameState hos hworked houtcome hfresh

/-- A connected machine on macOS whose user allows the local network. -/
theorem policy_fresh_connected :
    ∃ machine state, (system (.reliable .macos directRelay)).exec
        (new (.reliable .macos directRelay) (.ofLockdownMode .no) .presumeOnline none)
        [.command (some .connect), .event (some (.up directMetadata)), .command (some (.allowLan true))] =
        some machine ∧
      machine.currentState = some (.connected state) ∧ machine.shared.allowLan = true ∧
      PolicyFresh (.connected state) machine.shared := by
  have hrun := @run_of_exec (.reliable .macos directRelay) (.ofLockdownMode .no) .presumeOnline none
    [.command (some .connect), .event (some (.up directMetadata)), .command (some (.allowLan true))] _ rfl
  exact ⟨_, _, rfl, rfl, rfl, policy_fresh (by decide) hrun (by decide) rfl⟩

end MullvadVpn.Tunnel
