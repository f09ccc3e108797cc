import MullvadVpn.Tunnel.Step

/-!
What the firewall enforces in each state, on desktop: a state with a tunnel has a policy in force
that was applied for a tunnel, and an error state that reported no block failure has the blocked
policy in force. Both hold in every run, whatever firewall calls fail.
-/

namespace MullvadVpn.Tunnel

open Net Firewall SharedTunnelStateValues

variable {policy : FirewallPolicy} {state : TunnelState} {entered : Entered}
  {env : Environment} {s s' : SharedTunnelStateValues} {event : EventResult}

/-- The connecting, connected and disconnecting states. -/
def TunnelState.HasTunnel : TunnelState → Prop
  | connecting _ | connected _ | disconnecting _ => True
  | disconnected | error _ => False

namespace SharedTunnelStateValues

/-- The policy in force was applied as a connecting or connected one. -/
def TunnelPolicyInForce (s : SharedTunnelStateValues) : Prop :=
  ∃ policy, s.firewall.policy = some policy ∧ (policy.isConnecting ∨ policy.isConnected) ∧
    .applyPolicy policy true ∈ s.calls

def BlockedInForce (s : SharedTunnelStateValues) : Prop :=
  ∃ policy, s.firewall.policy = some policy ∧ policy.isBlocked

theorem TunnelPolicyInForce.mono (h : TunnelPolicyInForce s)
    (hpolicy : s'.firewall.policy = s.firewall.policy) (hcalls : s.calls <:+ s'.calls) :
    TunnelPolicyInForce s' := by
  obtain ⟨policy, hforce, hkind, hcall⟩ := h
  exact ⟨policy, hpolicy.trans hforce, hkind, hcalls.mem hcall⟩

theorem BlockedInForce.mono (h : BlockedInForce s)
    (hpolicy : s'.firewall.policy = s.firewall.policy) : BlockedInForce s' := by
  obtain ⟨policy, hforce, hkind⟩ := h
  exact ⟨policy, hpolicy.trans hforce, hkind⟩

theorem Applied.tunnelPolicyInForce (hos : env.os ≠ .android) (h : Applied env s policy s')
    (hkind : policy.isConnecting ∨ policy.isConnected) : TunnelPolicyInForce s' :=
  ⟨policy, h.policy hos, hkind, h.call hos⟩

theorem Applied.blockedInForce {s₁ : SharedTunnelStateValues} (hos : env.os ≠ .android)
    (h : Applied env s s₁.blockedPolicy s') : BlockedInForce s' :=
  ⟨_, h.policy hos, rfl⟩

end SharedTunnelStateValues

theorem ConnectingState.IsPolicy.isConnecting {params} {metadata traffic}
    (h : IsPolicy env s params metadata traffic policy) : policy.isConnecting = true := by
  obtain ⟨_, rfl⟩ := h
  rfl

theorem ConnectedState.IsPolicy.isConnected {state} (h : IsPolicy env s state policy) :
    policy.isConnected = true := by
  obtain ⟨_, rfl⟩ := h
  rfl

/-- What the firewall enforces in each state, given the last reported transition. -/
def Guarded (state : TunnelState) (last : Option TunnelStateTransition)
    (s : SharedTunnelStateValues) : Prop :=
  match state with
  | .disconnected => True
  | .error _ => ∃ cause failure, last = some (.error cause failure) ∧ (failure = none → BlockedInForce s)
  | .connecting _ | .connected _ | .disconnecting _ => TunnelPolicyInForce s

theorem ErrorState.Entering.guarded (hos : env.os ≠ .android) (h : Entering env s entered) :
    Guarded entered.state (some entered.transition) entered.shared := by
  cases h with
  | blocked cause happ => exact ⟨cause, none, rfl, fun _ => happ.blockedInForce hos⟩
  | failed cause error _ => exact ⟨cause, some error, rfl, by simp⟩

theorem ConnectingState.Entering.guarded {retryAttempt} (hos : env.os ≠ .android)
    (h : Entering env s retryAttempt entered) :
    Guarded entered.state (some entered.transition) entered.shared := by
  cases h with
  | connecting params policy hpolicy happ =>
    exact happ.tunnelPolicyInForce hos (.inl hpolicy.isConnecting)
  | error h => exact h.guarded hos

theorem ConnectedState.Entering.guarded {state} (hos : env.os ≠ .android)
    (h : Entering env s state entered) (hforce : TunnelPolicyInForce s) :
    Guarded entered.state (some entered.transition) entered.shared := by
  cases h with
  | connected policy endpoint hpolicy happ | dnsFailed policy hpolicy happ =>
    exact happ.tunnelPolicyInForce hos (.inr hpolicy.isConnected)
  | refused error href => exact hforce.mono href.policy href.calls

theorem DisconnectedState.Entering.guarded {shouldReset : Bool} (h : Entering env s shouldReset entered) :
    Guarded entered.state (some entered.transition) entered.shared := by
  rw [h.state]
  trivial

variable {state' : TunnelState} {last : Option TunnelStateTransition}

theorem guarded_newState {transition} (hos : env.os ≠ .android)
    (h : state.Outcome env s event (.newState state' transition) s') (hguard : Guarded state last s) :
    Guarded state' (some transition) s' := by
  cases h.enters with
  | disconnected _ _ hentering => exact hentering.guarded
  | started _ hentering => exact hentering.guarded hos
  | up _ hentering => exact hentering.guarded hos hguard
  | left htunnel _ _ hpolicy =>
    have hforce : TunnelPolicyInForce s := by
      rcases htunnel with ⟨tunnel, rfl, _⟩ | ⟨tunnel, rfl, _⟩ <;> exact hguard
    rcases hpolicy with hstored | ⟨s₁, tunnel, policy, hpolicy, happ⟩
    · exact hforce.mono hstored.policy hstored.calls
    · exact happ.tunnelPolicyInForce hos (.inr hpolicy.isConnected)

theorem guarded_sameState (hos : env.os ≠ .android) (h : state.Outcome env s event (.sameState state') s')
    (hguard : Guarded state last s) : Guarded state' last s' := by
  cases h with
  | disconnected h => cases h <;> trivial
  | connecting h =>
    cases h with
    | stay _ hstored _ _ => exact .mono hguard hstored.policy hstored.calls
    | reapplied policy _ _ _ hpolicy happ =>
      exact happ.tunnelPolicyInForce hos (.inl hpolicy.isConnecting)
  | connected h =>
    cases h with
    | stay hstored _ _ => exact .mono hguard hstored.policy hstored.calls
    | reapplied policy _ _ hpolicy happ =>
      exact happ.tunnelPolicyInForce hos (.inr hpolicy.isConnected)
  | disconnecting h =>
    cases h with
    | stay command hstored => exact .mono hguard hstored.policy hstored.calls
  | error h =>
    obtain ⟨cause, failure, hlast, hblocked⟩ := hguard
    cases h with
    | stay hstored _ _ =>
      exact ⟨cause, failure, hlast, fun hfailure => (hblocked hfailure).mono hstored.policy⟩
    | reblocked _ _ happ => exact ⟨cause, failure, hlast, fun _ => happ.blockedInForce hos⟩
    | refused hstored _ href =>
      exact ⟨cause, failure, hlast, fun hfailure => (hblocked hfailure).mono (href.policy.trans hstored.policy)⟩

theorem run_guarded (hos : env.os ≠ .android) {history}
    {machine} (hrun : (TunnelStateMachine.system env).Run history machine)
    (hstate : machine.currentState = some state) :
    Guarded state machine.transitions.head? machine.shared := by
  refine TunnelStateMachine.runWhere_invariant (J := fun _ => Guarded) ?_ ?_ ?_ hrun hstate
  · exact fun _ _ _ => trivial
  · exact fun _ _ _ _ _ _ _ _ _ _ hguard houtcome => guarded_newState hos houtcome hguard
  · exact fun _ _ _ _ _ _ _ _ _ hguard houtcome => guarded_sameState hos houtcome hguard

end MullvadVpn.Tunnel
