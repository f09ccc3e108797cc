import MullvadVpn.Tunnel.Guarded

/-!
Whether a reported lockdown is true, on desktop. The disconnected state reports the lockdown mode
whatever became of the firewall call, so a refused policy makes it report a lockdown that nothing
enforces. Only two kinds of steps can do so, and only when no policy is in force: turning lockdown
mode on while disconnected, and leaving the error state with lockdown mode on. In every run whose
steps of these kinds have a working firewall, the report is true.
-/

namespace MullvadVpn.Tunnel

open Net Systems SharedTunnelStateValues TunnelStateMachine

variable {env : Environment} {s s' : SharedTunnelStateValues} {event : EventResult}

def TunnelStateTransition.ReportsBlocking : TunnelStateTransition → Prop
  | disconnected lockedDown => lockedDown = true
  | error _ blockFailure => blockFailure = none
  | _ => False

/-- When the last transition says that traffic is blocked, a policy is in force. All three kinds of
policies block. -/
def ReportTruthful (machine : TunnelStateMachine) : Prop :=
  ∀ transition, machine.transitions.head? = some transition → transition.ReportsBlocking →
    machine.shared.firewall.policy.isSome = true

/-- The steps that report a lockdown which the policy in force may not enforce yet. -/
def BeginsLockdown (s : SharedTunnelStateValues) : TunnelState → EventResult → Prop
  | .disconnected, .command (some (.lockdownMode mode)) =>
    s.lockdownMode.bool = false ∧ mode.bool = true
  | .error _, event => s.lockdownMode.bool = true ∧ event.RequestsDisconnect
  | _, _ => False

/-- If the step begins a lockdown with no policy in force, no firewall call of the step fails. -/
def LockdownSucceeds (env : Environment) (machine : TunnelStateMachine) (event : EventResult) : Prop :=
  machine.shared.firewall.policy = none →
    (∃ state, machine.currentState = some state ∧ BeginsLockdown machine.shared state event) →
    ∀ machine', step env machine event = some machine' → ¬ FailureBetween machine.shared machine'.shared

variable {entered : Entered}

section

variable (hos : env.os ≠ .android)

include hos

theorem ErrorState.Entering.isSome (h : Entering env s entered)
    (hreports : entered.transition.ReportsBlocking) : entered.shared.firewall.policy.isSome = true := by
  cases h with
  | blocked cause happ => simp [happ.policy hos]
  | failed cause error _ => simp [TunnelStateTransition.ReportsBlocking] at hreports

theorem ConnectingState.Entering.isSome {retryAttempt} (h : Entering env s retryAttempt entered)
    (hreports : entered.transition.ReportsBlocking) : entered.shared.firewall.policy.isSome = true := by
  cases h with
  | connecting _ _ _ happ => simp [happ.policy hos]
  | error h => exact h.isSome hos hreports

theorem DisconnectedState.Entering.isSome {shouldReset : Bool} (h : Entering env s shouldReset entered)
    (hreports : entered.transition.ReportsBlocking)
    (hbefore : s.firewall.policy.isSome = true ∨ ¬ FailureBetween s entered.shared) :
    entered.shared.firewall.policy.isSome = true := by
  rw [h.transition] at hreports
  have hlock : s.lockdownMode.bool = true := hreports
  rcases h.effect.of_lockdown hos hlock with happ | href
  · simp [happ.policy hos]
  · obtain ⟨hpolicy, hfailure⟩ := persisted_refused href
    rcases hbefore with hsome | hnone
    · rw [hpolicy]
      exact hsome
    · exact absurd (hfailure hos) hnone

end

theorem SharedTunnelStateValues.TunnelPolicyInForce.isSome (h : TunnelPolicyInForce s) :
    s.firewall.policy.isSome = true := by
  obtain ⟨policy, hforce, _⟩ := h
  simp [hforce]

variable {state state' : TunnelState}

section

variable (hos : env.os ≠ .android)

include hos

/-- A step that reports blocking leaves a policy in force, unless it begins a lockdown with no
policy in force and the firewall fails. -/
theorem isSome_newState {last transition}
    (h : state.Outcome env s event (.newState state' transition) s') (hguard : Guarded state last s)
    (hsucceeds : s.firewall.policy = none → BeginsLockdown s state event → ¬ FailureBetween s s')
    (hreports : transition.ReportsBlocking) : s'.firewall.policy.isSome = true := by
  -- the policy in force, or what the hypothesis says when there is none
  have hbefore : BeginsLockdown s state event → s.firewall.policy.isSome = true ∨ ¬ FailureBetween s s' := by
    intro hbegins
    cases hpolicy : s.firewall.policy with
    | some policy => exact .inl rfl
    | none => exact .inr (hsucceeds hpolicy hbegins)
  cases h.enters with
  | started _ hentering => exact hentering.isSome hos hreports
  | up _ hentering => cases hentering <;> exact absurd hreports id
  | left _ _ _ _ => exact absurd hreports id
  | @disconnected _ s₁ _ hreason hstored hentering =>
    have hlock : (s.settings.update event).lockdownMode.bool = true := by
      obtain rfl : transition = .disconnected s₁.lockdownMode.bool := hentering.transition
      rw [← hstored.settings]
      exact hreports
    have hsome : s.firewall.policy.isSome = true ∨ ¬ FailureBetween s s' := by
      rcases hreason with ⟨rfl, mode, rfl, hne⟩ | ⟨⟨failed, rfl⟩, hrequest⟩ | ⟨waiting, result, rfl, _, rfl⟩
      · have hon : mode.bool = true := hlock
        exact hbefore ⟨by simpa [hon] using hne, hon⟩
      · refine hbefore ⟨?_, hrequest⟩
        rcases hrequest with rfl | rfl <;> exact hlock
      · exact Or.inl (TunnelPolicyInForce.isSome hguard)
    refine hentering.isSome hos hreports (hsome.imp (hstored.policy ▸ ·) fun hfail hlater => ?_)
    exact hfail (hlater.widen hstored.calls (List.suffix_refl _))

theorem isSome_sameState (h : state.Outcome env s event (.sameState state') s')
    (hsome : s.firewall.policy.isSome = true) : s'.firewall.policy.isSome = true := by
  cases h with
  | disconnected h =>
    cases h with
    | stay hstored _ _ _ => rwa [hstored.policy]
    | sameLockdown _ _ => exact hsome
    | refirewalled hstored _ _ heffect =>
      cases heffect with
      | locked _ happ => simp [happ.policy hos]
      | lockFailed _ href => rwa [(DisconnectedState.persisted_refused href).1, hstored.policy]
      | reset _ hreset _ => cases hreset
      | kept _ hframe => rwa [hframe.policy, hstored.policy]
  | connecting h =>
    cases h with
    | stay _ hstored _ _ => rwa [hstored.policy]
    | reapplied _ _ _ _ _ happ => simp [happ.policy hos]
  | connected h =>
    cases h with
    | stay hstored _ _ => rwa [hstored.policy]
    | reapplied _ _ _ _ happ => simp [happ.policy hos]
  | disconnecting h =>
    cases h with
    | stay _ hstored => rwa [hstored.policy]
  | error h =>
    cases h with
    | stay hstored _ _ => rwa [hstored.policy]
    | reblocked _ _ happ => simp [happ.policy hos]
    | refused hstored _ href => rwa [href.policy, hstored.policy]

theorem reportTruthful_step {history machine machine'}
    (hrun : (system env).Run history machine)
    (hsucceeds : LockdownSucceeds env machine event) (htruthful : ReportTruthful machine)
    (hstep : step env machine event = some machine') : ReportTruthful machine' := by
  intro transition hlast hreports
  obtain ⟨state, consequence, shared, hstate, _, houtcome, hmachine⟩ := step_cases hstep
  cases consequence with
  | newState state' transition' =>
    subst hmachine
    obtain rfl : transition' = transition := Option.some.inj hlast
    refine isSome_newState hos houtcome (run_guarded hos hrun hstate) ?_ hreports
    exact fun hnone hbegins => hsucceeds hnone ⟨state, hstate, hbegins⟩ _ hstep
  | sameState state' =>
    subst hmachine
    exact isSome_sameState hos houtcome (htruthful transition hlast hreports)
  | finished =>
    subst hmachine
    have hsome := htruthful transition hlast hreports
    cases houtcome with
    | disconnected h =>
      cases h with
      | finished hframe => exact hframe.policy ▸ hsome
    | connecting h | connected h | disconnecting h | error h => cases h

end

/-- **Reported lockdown.** On desktop, in every run that begins its lockdowns with a policy in force
or a working firewall, a report of blocking is true. -/
theorem lockdownReport_truthful (hos : env.os ≠ .android) {history : List EventResult}
    {machine : TunnelStateMachine}
    (hrun : (system env).RunWhere (fun _ => LockdownSucceeds env) history machine) :
    ReportTruthful machine := by
  refine TransitionSystem.RunWhere.invariant (I := fun _ => ReportTruthful) ?_ ?_ hrun
  · rintro _ ⟨settings, connectivity, leftover, rfl⟩ transition hlast
    cases hlast
  · intro history machine event machine' hrun hsucceeds htruthful hstep
    exact reportTruthful_step hos hrun.run hsucceeds htruthful hstep

/-- Locking down a disconnected machine on Windows with a working firewall. -/
theorem lockdownReport_truthful_lockdown :
    ∃ machine, step (.reliable .windows directRelay)
        (new (.reliable .windows directRelay) (.ofLockdownMode .no) .presumeOnline none)
        (.command (some (.lockdownMode .yes))) = some machine ∧
      machine.transitions.head? = some (.disconnected true) ∧ ReportTruthful machine := by
  have hinit : (system (.reliable .windows directRelay)).RunWhere
      (fun _ => LockdownSucceeds (.reliable .windows directRelay)) []
      (new (.reliable .windows directRelay) (.ofLockdownMode .no) .presumeOnline none) :=
    .init ⟨_, _, _, rfl⟩
  have hsucceeds : LockdownSucceeds (.reliable .windows directRelay)
      (new (.reliable .windows directRelay) (.ofLockdownMode .no) .presumeOnline none)
      (.command (some (.lockdownMode .yes))) := by
    intro _ _ machine hstep
    obtain rfl := Option.some.inj hstep
    exact not_failureBetween [_, _] rfl (by decide)
  exact ⟨_, rfl, rfl, lockdownReport_truthful (by decide) (hinit.step hsucceeds rfl)⟩

/-- An environment whose firewall refuses every policy. -/
def Environment.refusing (os : TargetOs) (params : TunnelParameters) : Environment :=
  { reliable os params with applyPolicy := fun _ _ => some .generic }

/-- Turning lockdown mode on reports a lockdown although the firewall refused to block. -/
theorem lockdownReport_refused :
    ∃ machine, (system (.refusing .linux directRelay)).Run [.command (some (.lockdownMode .yes))] machine ∧
      machine.transitions.head? = some (.disconnected true) ∧
      machine.shared.firewall.policy = none ∧ ¬ ReportTruthful machine := by
  have hrun := @run_of_exec (.refusing .linux directRelay) (.ofLockdownMode .no) .presumeOnline none
    [.command (some (.lockdownMode .yes))] _ rfl
  exact ⟨_, hrun, rfl, rfl, fun htruthful => Bool.false_ne_true (htruthful (.disconnected true) rfl rfl)⟩

end MullvadVpn.Tunnel
