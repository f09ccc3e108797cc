import MullvadVpn.Tunnel.Step

/-!
Whether a command to disconnect is honoured. The disconnecting state gives a block reason reported by
the closing tunnel precedence over the pending action, so a tunnel that closes with one ends in the
error state although the user asked to disconnect. From an error state reached in spite of a command
to disconnect, new connectivity can start a tunnel that nobody asked for. In every run in which
neither happens, the disconnecting state ends in the disconnected state.
-/

namespace MullvadVpn.Tunnel

open Systems TunnelStateMachine Option

variable {history : List EventResult} {state : TunnelState}
  {env : Environment} {s s' : SharedTunnelStateValues} {event : EventResult}

/-- The most recent of the commands to connect and to disconnect is one to disconnect. -/
def disconnectIsLast : List EventResult → Bool
  | [] => false
  | .command (some .connect) :: _ => false
  | .command (some .disconnect) :: _ => true
  | _ :: history => disconnectIsLast history

theorem disconnectIsLast_cons (h : disconnectIsLast (event :: history) = true) :
    event ≠ .command (some .connect) ∧
      (event = .command (some .disconnect) ∨ disconnectIsLast history = true) := by
  unfold disconnectIsLast at h
  split at h
  · cases h
  · cases h
  · rename_i heq
    cases heq
    exact ⟨by simp, .inl rfl⟩
  · rename_i hconnect _ heq
    cases heq
    exact ⟨hconnect, .inr h⟩

/-- The steps that do not get in the way of a command to disconnect: a tunnel closes without a block
reason, and the error state reconnects when told to only. -/
def Undisturbed (env : Environment) (s : SharedTunnelStateValues) : TunnelState → EventResult → Prop
  | .disconnecting _, .close result => closeBlockReason result = none
  | .error state, event => event = .command (some .connect) ∨ ¬ state.Reconnects env s event
  | _, _ => True

/-- As long as the last word was to disconnect, the step is undisturbed. -/
def DisconnectUndisturbed (env : Environment) (history : List EventResult)
    (machine : TunnelStateMachine) (event : EventResult) : Prop :=
  disconnectIsLast history = true → ∀ state, machine.currentState = some state →
    Undisturbed env machine.shared state event

/-- The states in which nothing is left to do but to disconnect. -/
def TunnelState.HeadsForDisconnected : TunnelState → Prop
  | disconnected | error _ => True
  | disconnecting state => state.afterDisconnect = .nothing
  | connecting _ | connected _ => False

theorem DisconnectingState.updateAfterDisconnect_of_nothing {command}
    (h : command ≠ some .connect) : updateAfterDisconnect .nothing command = .nothing := by
  match command with
  | some .connect => exact absurd rfl h
  | none | some .disconnect | some (.connectivity _) | some (.block _) | some (.allowLan _) |
      some (.allowEndpoint _) | some (.dns _) | some (.lockdownMode _) | some (.bypassSocket _) |
      some (.setExcludedApps _) => rfl

theorem ErrorState.Entering.headsForDisconnected {entered}
    (h : ErrorState.Entering env s entered) : entered.state.HeadsForDisconnected := by
  obtain ⟨cause, hstate⟩ := h.state
  rw [hstate]
  trivial

/-- A step that no command to disconnect caused comes from a state that already headed there. -/
theorem headsForDisconnected_of_not_requests
    (hbefore : disconnectIsLast history = true → state.HeadsForDisconnected)
    (hlast : disconnectIsLast (event :: history) = true) (hevent : ¬ event.RequestsDisconnect) :
    state.HeadsForDisconnected := by
  rcases (disconnectIsLast_cons hlast).2 with rfl | hwas
  · exact absurd (.inl rfl) hevent
  · exact hbefore hwas

variable {state' : TunnelState}

theorem headsForDisconnected_newState {transition}
    (h : state.Outcome env s event (.newState state' transition) s')
    (hundisturbed : disconnectIsLast history = true → Undisturbed env s state event)
    (hbefore : disconnectIsLast history = true → state.HeadsForDisconnected)
    (hlast : disconnectIsLast (event :: history) = true) : state'.HeadsForDisconnected := by
  obtain ⟨hconnect, hwas⟩ := disconnectIsLast_cons hlast
  have hheads := headsForDisconnected_of_not_requests hbefore hlast
  cases h with
  | disconnected h =>
    cases h with
    | lockdown mode _ _ hentering =>
      rw [hentering.state]
      trivial
    | lockdownFailed mode _ _ _ _ _ hentering => exact hentering.headsForDisconnected
    | connect _ => exact absurd rfl hconnect
  | connecting h =>
    cases h with
    | left after _ hafter =>
      by_cases hevent : event.RequestsDisconnect
      · exact hafter.mpr hevent
      · exact (hheads hevent).elim
    | up metadata _ | failed result _ | retried result _ _ => exact (hheads (by simp)).elim
  | connected h =>
    cases h with
    | dnsFailed policy _ hevent _ _ => exact (hheads hevent).elim
    | left after _ hafter =>
      by_cases hevent : event.RequestsDisconnect
      · exact hafter.mpr hevent
      · exact (hheads hevent).elim
    | failed result _ | retried result _ => exact (hheads (by simp)).elim
  | disconnecting h =>
    cases h with
    | blocked result _ hentering => exact hentering.headsForDisconnected
    | disconnected result _ _ hentering =>
      rw [hentering.state]
      trivial
    | reconnected result retryAttempt _ hafter _ =>
      exact absurd (hafter.symm.trans (hheads (by simp))) (by simp)
  | error h =>
    cases h with
    | reconnected _ hreconnects _ =>
      rcases hwas with rfl | hwas
      · exact hreconnects.elim
      · rcases hundisturbed hwas with hevent | hnot
        · exact absurd hevent hconnect
        · exact absurd hreconnects hnot
    | disconnected _ hentering =>
      rw [hentering.state]
      trivial
    | blocked _ _ hentering => exact hentering.headsForDisconnected

theorem headsForDisconnected_sameState (h : state.Outcome env s event (.sameState state') s')
    (hbefore : disconnectIsLast history = true → state.HeadsForDisconnected)
    (hlast : disconnectIsLast (event :: history) = true) : state'.HeadsForDisconnected := by
  obtain ⟨hconnect, hwas⟩ := disconnectIsLast_cons hlast
  -- the states with a tunnel do not stay when told to disconnect
  have hheads := headsForDisconnected_of_not_requests hbefore hlast
  cases h with
  | disconnected h | error h => cases h <;> trivial
  | connecting h =>
    cases h with
    | stay _ _ hevent _ | reapplied _ _ _ hevent _ _ => exact (hheads hevent).elim
  | connected h =>
    cases h with
    | stay _ hevent _ | reapplied _ _ hevent _ _ => exact (hheads hevent).elim
  | @disconnecting _ _ _ state h =>
    cases h with
    | stay command _ =>
      rcases hwas with hevent | hwas
      · cases hevent
        rfl
      · have hnothing : state.afterDisconnect = .nothing := hbefore hwas
        simpa only [TunnelState.HeadsForDisconnected, hnothing] using
          DisconnectingState.updateAfterDisconnect_of_nothing (by simpa using hconnect)

variable {machine : TunnelStateMachine}

theorem run_headsForDisconnected (hrun : (system env).RunWhere (DisconnectUndisturbed env) history machine)
    (hstate : machine.currentState = some state) (hlast : disconnectIsLast history = true) :
    state.HeadsForDisconnected := by
  refine runWhere_invariant
    (J := fun history state _ _ => disconnectIsLast history = true → state.HeadsForDisconnected)
    ?_ ?_ ?_ hrun hstate hlast
  · exact fun _ _ _ _ => trivial
  · intro history machine state event state' transition shared _ hundisturbed hstate hbefore houtcome
    exact headsForDisconnected_newState houtcome (fun hwas => hundisturbed hwas state hstate) hbefore
  · exact fun _ _ _ _ _ _ _ _ _ hbefore houtcome =>
      headsForDisconnected_sameState houtcome hbefore

/-- **Disconnect is honoured.** In an undisturbed run, the state entered from the disconnecting state
is the disconnected one if the last word was to disconnect. -/
theorem disconnect_honoured {history : List EventResult} {machine machine' : TunnelStateMachine}
    {state : DisconnectingState} (event : EventResult)
    (hrun : (system env).RunWhere (DisconnectUndisturbed env) history machine)
    (hstate : machine.currentState = some (.disconnecting state))
    (hlast : disconnectIsLast history = true) (hundisturbed : DisconnectUndisturbed env history machine event)
    (hstep : step env machine event = some machine')
    (hentered : machine'.transitions ≠ machine.transitions) : machine'.currentState = some .disconnected := by
  have hnothing : state.afterDisconnect = .nothing := run_headsForDisconnected hrun hstate hlast
  obtain ⟨state', consequence, shared, hstate', _, houtcome, rfl⟩ := step_cases hstep
  obtain rfl : state' = .disconnecting state := some.inj (hstate'.symm.trans hstate)
  cases houtcome with
  | disconnecting h =>
    cases h with
    | stay command _ => exact absurd rfl hentered
    | blocked result hblock _ =>
      have hreason : closeBlockReason result = none := hundisturbed hlast _ hstate
      rcases hblock with hsome | ⟨cause, hafter⟩
      · simp [hreason] at hsome
      · exact absurd (hafter.symm.trans hnothing) (by simp)
    | disconnected result _ _ hentering => exact congrArg some hentering.state
    | reconnected result retryAttempt _ hafter _ =>
      exact absurd (hafter.symm.trans hnothing) (by simp)

/-- A machine on Windows that was told to connect and then to disconnect. -/
def toldToDisconnect : Option TunnelStateMachine :=
  (system (.reliable .windows directRelay)).exec
    (new (.reliable .windows directRelay) (.ofLockdownMode .no) .presumeOnline none)
    [.command (some .connect), .command (some .disconnect)]

theorem toldToDisconnect_run (h : toldToDisconnect = some machine) :
    (system (.reliable .windows directRelay)).RunWhere (DisconnectUndisturbed (.reliable .windows directRelay))
      [.command (some .disconnect), .command (some .connect)] machine := by
  -- while connecting, the last word is not to disconnect
  have hfirst : ∀ events, disconnectIsLast events = false → ∀ machine event,
      DisconnectUndisturbed (.reliable .windows directRelay) events machine event := by
    intro events hevents machine event hlast
    simp [hevents] at hlast
  rw [toldToDisconnect, TransitionSystem.exec_cons, bind_eq_some_iff] at h
  obtain ⟨connecting, hconnect, h⟩ := h
  rw [TransitionSystem.exec_cons, bind_eq_some_iff] at h
  obtain ⟨disconnecting, hdisconnect, h⟩ := h
  obtain rfl : disconnecting = machine := some.inj h
  exact .step (.step (.init ⟨_, _, _, rfl⟩) (hfirst _ rfl _ _) hconnect) (hfirst _ rfl _ _) hdisconnect

theorem disconnect_honoured_closed :
    ∃ machine machine' state, toldToDisconnect = some machine ∧
      machine.currentState = some (.disconnecting state) ∧
      step (.reliable .windows directRelay) machine (.close (.ok none)) = some machine' ∧
      machine'.currentState = some .disconnected := by
  obtain ⟨machine, hmachine⟩ := isSome_iff_exists.mp (rfl : toldToDisconnect.isSome = true)
  have hrun := toldToDisconnect_run hmachine
  obtain rfl := some.inj hmachine
  refine ⟨_, _, _, rfl, rfl, rfl, ?_⟩
  refine disconnect_honoured (.close (.ok none)) hrun rfl rfl ?_ rfl (by decide)
  intro _ state hstate
  obtain rfl := some.inj hstate
  rfl

/-- The tunnel of the same machine closes with a block reason, which overrules the user. -/
theorem disconnect_overruled :
    ∃ machine machine' state, (system (.reliable .windows directRelay)).Run
        [.command (some .disconnect), .command (some .connect)] machine ∧
      machine.currentState = some (.disconnecting state) ∧
      disconnectIsLast [.command (some .disconnect), .command (some .connect)] = true ∧
      step (.reliable .windows directRelay) machine (.close (.ok (some (.authFailed none)))) = some machine' ∧
      machine'.transitions ≠ machine.transitions ∧
      machine'.currentState = some (.error ⟨.authFailed none⟩) := by
  obtain ⟨machine, hmachine⟩ := isSome_iff_exists.mp (rfl : toldToDisconnect.isSome = true)
  have hrun := (toldToDisconnect_run hmachine).run
  obtain rfl := some.inj hmachine
  exact ⟨_, _, _, hrun, rfl, rfl, rfl, by decide, rfl⟩

end MullvadVpn.Tunnel
