import MullvadVpn.Tunnel.Step

/-!
When the firewall is opened: `reset_policy` is called only on the way to or in the disconnected
state with lockdown mode off, and that state is entered from another one only after a request to
disconnect that no command to connect has overruled.
-/

namespace MullvadVpn.Tunnel

open SharedTunnelStateValues

variable {state state' : TunnelState} {history : List EventResult} {entered : Entered}
  {env : Environment} {s s' : SharedTunnelStateValues} {event : EventResult}

theorem DisconnectedState.FirewallEffect.lockdownOff {s₁} {shouldReset : Bool}
    (h : FirewallEffect env s₁ shouldReset s') (hbefore : s₁.resets = s.resets)
    (hresets : s'.resets ≠ s.resets) : s'.lockdownMode.bool = false := by
  have hmode : s'.lockdownMode = s₁.lockdownMode := congrArg Settings.lockdownMode h.settings
  rw [hmode]
  by_contra hlock
  exact hresets ((h.resets (by simpa using hlock)).trans hbefore)

/-- `reset_policy` is called only when the disconnected state is entered or stays, and then with
lockdown mode off. -/
theorem outcome_resets {consequence} (h : state.Outcome env s event consequence s')
    (hresets : s'.resets ≠ s.resets) : (consequence = .sameState .disconnected ∨
      ∃ transition, consequence = .newState .disconnected transition) ∧ s'.lockdownMode.bool = false := by
  cases consequence with
  | newState state' transition =>
    cases h.enters with
    | disconnected _ hstored hentering =>
      obtain rfl : state' = .disconnected := hentering.state
      exact ⟨.inr ⟨_, rfl⟩, hentering.effect.lockdownOff hstored.resets hresets⟩
    | started hcarries hentering => exact absurd (hentering.resets.trans hcarries.resets) hresets
    | up _ hentering => exact absurd hentering.resets hresets
    | left _ _ hcarries _ => exact absurd hcarries.resets hresets
  | finished =>
    cases h with
    | disconnected h =>
      cases h with
      | finished hframe => exact absurd hframe.resets hresets
    | connecting h | connected h | disconnecting h | error h => cases h
  | sameState state' =>
    by_cases hstate : state = .disconnected
    · subst hstate
      cases h with
      | disconnected h =>
        cases h with
        | stay hstored _ _ _ => exact absurd hstored.resets hresets
        | sameLockdown mode _ => exact absurd rfl hresets
        | refirewalled hstored _ _ heffect =>
          exact ⟨.inl rfl, heffect.lockdownOff hstored.resets hresets⟩
    · exact absurd (h.carries hstate).resets hresets

/-- A request to disconnect was received, and no command to connect since. -/
def DisconnectRequested (history : List EventResult) : Prop :=
  ∃ newer event older, history = newer ++ event :: older ∧ event.RequestsDisconnect ∧
    .command (some .connect) ∉ newer

theorem DisconnectRequested.of_event (h : event.RequestsDisconnect) :
    DisconnectRequested (event :: history) :=
  ⟨[], event, history, rfl, h, by simp⟩

theorem DisconnectRequested.cons (h : DisconnectRequested history)
    (hevent : event ≠ .command (some .connect)) : DisconnectRequested (event :: history) := by
  obtain ⟨newer, request, older, rfl, hrequest, hnewer⟩ := h
  exact ⟨event :: newer, request, older, rfl, hrequest, by simp [hnewer, hevent.symm]⟩

/-- A disconnecting state that will end in the disconnected state was asked to. -/
def DisconnectJustified (history : List EventResult) : TunnelState → Prop
  | .disconnecting ⟨_, .nothing⟩ => DisconnectRequested history
  | _ => True

theorem DisconnectingState.updateAfterDisconnect_nothing {after}
    {command} (h : updateAfterDisconnect after command = .nothing) :
    (EventResult.command command).RequestsDisconnect ∨ after = .nothing ∧ command ≠ some .connect := by
  match command with
  | none => exact .inl (.inr rfl)
  | some .disconnect => exact .inl (.inl rfl)
  | some .connect => cases after <;> cases h
  | some (.connectivity connectivity) =>
    refine .inr ⟨?_, by simp⟩
    cases after with
    | nothing => rfl
    | reconnect _ =>
      unfold updateAfterDisconnect at h
      dsimp only at h
      split_ifs at h
    | block cause =>
      cases cause with
      | isOffline =>
        unfold updateAfterDisconnect at h
        dsimp only at h
        split_ifs at h
      | _ => exact h
  | some (.block _) =>
    refine .inr ⟨?_, by simp⟩
    cases after with
    | nothing => rfl
    | reconnect _ | block _ => cases h
  | some (.allowLan _) | some (.allowEndpoint _) | some (.dns _) | some (.lockdownMode _) |
      some (.bypassSocket _) | some (.setExcludedApps _) =>
    exact .inr ⟨h, by simp⟩

theorem DisconnectJustified.of_iff {closeEvent after}
    (h : after = .nothing → DisconnectRequested history) :
    DisconnectJustified history (.disconnecting ⟨closeEvent, after⟩) := by
  cases after with
  | nothing => exact h rfl
  | block _ | reconnect _ => trivial

theorem ConnectingState.Entering.justified {retryAttempt}
    (h : Entering env s retryAttempt entered) : DisconnectJustified history entered.state := by
  rcases h.state with ⟨params, hstate⟩ | ⟨cause, hstate⟩ <;> rw [hstate] <;> trivial

theorem DisconnectedState.Entering.justified {shouldReset : Bool}
    (h : Entering env s shouldReset entered) : DisconnectJustified history entered.state := by
  rw [h.state]
  trivial

theorem ConnectedState.Entering.justified {state}
    (h : Entering env s state entered) : DisconnectJustified history entered.state := by
  rcases h.state with hstate | ⟨cause, hstate⟩ <;> rw [hstate] <;> trivial

theorem justified_sameState (h : state.Outcome env s event (.sameState state') s')
    (hjust : DisconnectJustified history state) : DisconnectJustified (event :: history) state' := by
  cases h with
  | disconnected h | connecting h | connected h | error h => cases h <;> trivial
  | @disconnecting _ _ _ state h =>
    cases h with
    | stay command _ =>
      refine .of_iff fun hnothing => ?_
      rcases DisconnectingState.updateAfterDisconnect_nothing hnothing with hrequest | ⟨hafter, hconnect⟩
      · exact .of_event hrequest
      · obtain ⟨closeEvent, after⟩ := state
        obtain rfl : after = AfterDisconnect.nothing := hafter
        exact .cons hjust (by simpa using hconnect)

theorem run_justified {machine}
    (hrun : (TunnelStateMachine.system env).Run history machine)
    (hstate : machine.currentState = some state) : DisconnectJustified history state := by
  refine TunnelStateMachine.runWhere_invariant
    (J := fun history state _ _ => DisconnectJustified history state) ?_ ?_ ?_ hrun hstate
  · exact fun _ _ _ => trivial
  · intro _ _ _ _ _ _ _ _ _ _ _ houtcome
    cases houtcome.enters with
    | disconnected _ _ hentering | started _ hentering | up _ hentering => exact hentering.justified
    | left _ hafter _ _ => exact .of_iff fun hnothing => .of_event (hafter.mp hnothing)
  · exact fun _ _ _ _ _ _ _ _ _ hjust houtcome => justified_sameState houtcome hjust

end MullvadVpn.Tunnel
