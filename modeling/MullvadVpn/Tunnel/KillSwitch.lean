import MullvadVpn.Tunnel.Guarded
import MullvadVpn.Tunnel.Opening

/-!
The kill switch: all traffic that the firewall policies of the connecting, connected and blocked
states forbid stays forbidden from the first command to connect until the user disconnects.
-/

namespace MullvadVpn.Tunnel

open SharedTunnelStateValues TunnelStateMachine

/-- What the kill switch promises of a machine that has handled the events of `history`. -/
structure KillSwitch (env : Environment) (history : List EventResult)
    (machine : TunnelStateMachine) : Prop where
  /-- A state with a tunnel is guarded by a policy applied for a tunnel. -/
  tunnel : ∀ state, machine.currentState = some state → state.HasTunnel → machine.shared.TunnelPolicyInForce
  /-- An error state blocks unless the last transition said that blocking failed. -/
  error : ∀ state, machine.currentState = some (.error state) →
    (∀ cause failure, machine.transitions.head? ≠ some (.error cause (some failure))) →
    machine.shared.BlockedInForce
  /-- A step that calls `reset_policy` ends in the disconnected state, with lockdown mode off. -/
  reset : ∀ event machine', step env machine event = some machine' →
    machine'.shared.resets ≠ machine.shared.resets →
    machine'.currentState = some .disconnected ∧ machine'.shared.lockdownMode.bool = false
  /-- Entering the disconnected state from another one takes a request to disconnect. -/
  disconnected : ∀ event machine', step env machine event = some machine' →
    machine.currentState ≠ some .disconnected → machine'.currentState = some .disconnected →
    DisconnectRequested (event :: history)

variable {env : Environment} {machine machine' : TunnelStateMachine} {event : EventResult}

theorem run_reset (hstep : step env machine event = some machine')
    (hresets : machine'.shared.resets ≠ machine.shared.resets) :
    machine'.currentState = some .disconnected ∧ machine'.shared.lockdownMode.bool = false := by
  obtain ⟨state, consequence, shared, _, _, houtcome, rfl⟩ := step_cases hstep
  have hshared : (machine.advance (machine.commandsDone || noticesEnd state event)
      (consequence, shared)).shared = shared := by
    cases consequence <;> rfl
  rw [hshared] at hresets ⊢
  obtain ⟨hconsequence, hlock⟩ := outcome_resets houtcome hresets
  refine ⟨?_, hlock⟩
  rcases hconsequence with rfl | ⟨transition, rfl⟩ <;> rfl

theorem run_disconnected {history : List EventResult} (hrun : (system env).Run history machine)
    (hstep : step env machine event = some machine') (hbefore : machine.currentState ≠ some .disconnected)
    (hafter : machine'.currentState = some .disconnected) : DisconnectRequested (event :: history) := by
  obtain ⟨state, consequence, shared, hstate, _, houtcome, rfl⟩ := step_cases hstep
  have hne : state ≠ .disconnected := fun h => hbefore (h ▸ hstate)
  cases consequence with
  | newState state' transition =>
    have hjust := run_justified hrun hstate
    rcases (outcome_disconnected houtcome (Option.some.inj hafter)).2 with
      hsame | hrequest | ⟨⟨closeEvent, after⟩, result, rfl, hnothing, rfl⟩
    · exact absurd hsame hne
    · exact .of_event hrequest
    · obtain rfl : after = AfterDisconnect.nothing := hnothing
      exact .cons hjust (by simp)
  | sameState state' =>
    -- staying keeps the kind of state
    obtain rfl : state' = .disconnected := Option.some.inj hafter
    cases houtcome with
    | disconnected _ => exact absurd rfl hne
    | connecting h | connected h | disconnecting h | error h => cases h
  | finished => simp [advance] at hafter

/-- **Kill switch.** On desktop, in every run and for every pattern of firewall failures. -/
theorem killSwitch (env : Environment) (hos : env.os ≠ .android) :
    (∀ settings connectivity leftover, (new env settings connectivity leftover).shared.resets ≠ 0 →
      (new env settings connectivity leftover).shared.lockdownMode.bool = false) ∧
    ∀ history machine, (system env).Run history machine → KillSwitch env history machine := by
  refine ⟨fun settings connectivity leftover => (DisconnectedState.enter_entering env
    (initialShared env settings connectivity leftover) settings.resetFirewall).effect.lockdownOff
      (s := initialShared env settings connectivity leftover) rfl, ?_⟩
  intro history machine hrun
  refine ⟨?_, ?_, fun _ _ => run_reset, fun _ _ => run_disconnected hrun⟩
  · intro state hstate htunnel
    have hguard := run_guarded hos hrun hstate
    cases state with
    | disconnected | error _ => exact absurd htunnel (by simp [TunnelState.HasTunnel])
    | connecting _ | connected _ | disconnecting _ => exact hguard
  · intro state hstate hreported
    obtain ⟨cause, failure, hlast, hblocked⟩ := run_guarded hos hrun hstate
    cases failure with
    | none => exact hblocked rfl
    | some failure => exact absurd hlast (hreported cause failure)

/-- Connecting on Linux, and then being told to disconnect. -/
def connectDisconnect : List EventResult :=
  [.command (some .connect), .event (some (.up directMetadata)), .command (some .disconnect)]

theorem killSwitch_connectDisconnect :
    ∃ machine, (system (.reliable .linux directRelay)).exec
        (new (.reliable .linux directRelay) (.ofLockdownMode .no) .presumeOnline none)
        connectDisconnect = some machine ∧
      KillSwitch (.reliable .linux directRelay) connectDisconnect.reverse machine := by
  obtain ⟨machine, hexec⟩ := Option.isSome_iff_exists.mp (rfl : ((system (.reliable .linux directRelay)).exec
      (new (.reliable .linux directRelay) (.ofLockdownMode .no) .presumeOnline none)
      connectDisconnect).isSome = true)
  exact ⟨machine, hexec, (killSwitch _ (by decide)).2 _ _ (run_of_exec hexec)⟩

end MullvadVpn.Tunnel
