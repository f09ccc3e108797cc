import MullvadVpn.Tunnel.OutcomeWith
import MullvadVpn.Tunnel.OutcomeWithout

/-!
The inversion of one step of the machine, and the induction over its runs in the form every
invariant uses: a property of the history, the current state, the last reported transition and the
shared values, checked against the outcomes of handling one event.
-/

namespace MullvadVpn.Tunnel

open Net Systems SharedTunnelStateValues

variable {state : TunnelState}

inductive TunnelState.Outcome (env : Environment) (s : SharedTunnelStateValues) :
    TunnelState → EventResult → EventConsequence → SharedTunnelStateValues → Prop
  | disconnected {event consequence s'} : DisconnectedState.Outcome env s event consequence s' →
      Outcome env s .disconnected event consequence s'
  | connecting {event consequence s'} {state} : ConnectingState.Outcome env state s event consequence s' →
      Outcome env s (.connecting state) event consequence s'
  | connected {event consequence s'} {state} : ConnectedState.Outcome env state s event consequence s' →
      Outcome env s (.connected state) event consequence s'
  | disconnecting {event consequence s'} {state} : DisconnectingState.Outcome env state s event consequence s' →
      Outcome env s (.disconnecting state) event consequence s'
  | error {event consequence s'} {state} : ErrorState.Outcome env state s event consequence s' →
      Outcome env s (.error state) event consequence s'

variable {env : Environment} {s s₁ s' : SharedTunnelStateValues} {event : EventResult}

/-- The settings after the event, before any reset of the firewall. -/
structure Carries (s : SharedTunnelStateValues) (event : EventResult) (s₁ : SharedTunnelStateValues) :
    Prop where
  settings : s₁.settings = s.settings.update event
  resets : s₁.resets = s.resets

theorem Stored.carries (h : Stored s event s₁) : Carries s event s₁ := ⟨h.settings, h.resets⟩

/-- How handling an event enters a state. Connecting may end in the error state. -/
inductive TunnelState.Enters (env : Environment) (s : SharedTunnelStateValues) (event : EventResult) :
    TunnelState → Entered → Prop
  | disconnected {state s₁ entered}
      (hreason : (state = .disconnected ∧ ∃ mode, event = .command (some (.lockdownMode mode)) ∧
          s.lockdownMode.bool ≠ mode.bool) ∨
        ((∃ failed, state = .error failed) ∧ event.RequestsDisconnect) ∨ ∃ waiting result,
          state = .disconnecting waiting ∧ waiting.afterDisconnect = .nothing ∧ event = .close result)
      (hstored : Stored s event s₁) (hentering : DisconnectedState.Entering env s₁ true entered) :
      Enters env s event state entered
  | started {state : TunnelState} {s₁ : SharedTunnelStateValues} {retryAttempt : UInt32} {entered : Entered}
      (hcarries : Carries s event s₁) (hentering : ConnectingState.Entering env s₁ retryAttempt entered) :
      Enters env s event state entered
  | up {tunnel metadata entered} (hevent : event = .event (some (.up metadata)))
      (hentering : ConnectedState.Entering env s
        ⟨metadata, tunnel.tunnelParameters, tunnel.tunnelCloseEvent⟩ entered) :
      Enters env s event (.connecting tunnel) entered
  | left {state state' s'}
      (htunnel : (∃ tunnel, state = .connecting tunnel ∧ state'.tunnelCloseEvent = tunnel.tunnelCloseEvent) ∨
        ∃ tunnel, state = .connected tunnel ∧ state'.tunnelCloseEvent = tunnel.tunnelCloseEvent)
      (hafter : state'.afterDisconnect = .nothing ↔ event.RequestsDisconnect) (hcarries : Carries s event s')
      (hpolicy : Stored s event s' ∨ ∃ s₁ tunnel policy, ConnectedState.IsPolicy env s₁ tunnel policy ∧
        Applied env s₁ policy s') :
      Enters env s event state ⟨.disconnecting state', .disconnecting state'.afterDisconnect.action, s'⟩

variable {entered : Entered}

theorem TunnelState.Enters.blocked (hcarries : Carries s event s₁)
    (hentering : ErrorState.Entering env s₁ entered) : state.Enters env s event entered :=
  .started hcarries (.error hentering : ConnectingState.Entering env s₁ 0 entered)

variable {state' : TunnelState} {transition : TunnelStateTransition}

theorem TunnelState.Outcome.enters (h : state.Outcome env s event (.newState state' transition) s') :
    state.Enters env s event ⟨state', transition, s'⟩ := by
  cases h with
  | disconnected h =>
    cases h with
    | lockdown mode hne hstored hentering =>
      exact .disconnected (.inl ⟨rfl, mode, rfl, hne⟩) hstored hentering
    | lockdownFailed _ _ hon _ hstored heffect hentering =>
      have hlock := congrArg (fun settings => settings.lockdownMode.bool) hstored.settings
      exact .blocked ⟨heffect.settings.trans hstored.settings,
        (heffect.resets (hlock.trans hon)).trans hstored.resets⟩ hentering
    | connect hentering => exact .started ⟨rfl, rfl⟩ hentering
  | @connecting _ _ _ tunnel h =>
    cases h with
    | left _ hstored hafter => exact .left (.inl ⟨tunnel, rfl, rfl⟩) hafter hstored.carries (.inl hstored)
    | up _ hentering => exact .up rfl hentering
    | failed _ hentering => exact .blocked ⟨rfl, rfl⟩ hentering
    | retried _ _ hentering => exact .started ⟨rfl, rfl⟩ hentering
  | @connected _ _ _ tunnel h =>
    cases h with
    | dnsFailed policy hstored hevent hpolicy happ =>
      exact .left (.inr ⟨tunnel, rfl, rfl⟩) (by simp [hevent])
        ⟨happ.settings.trans hstored.settings, happ.resets.trans hstored.resets⟩
        (.inr ⟨_, tunnel, policy, hpolicy, happ⟩)
    | left _ hstored hafter => exact .left (.inr ⟨tunnel, rfl, rfl⟩) hafter hstored.carries (.inl hstored)
    | failed _ hentering => exact .blocked ⟨rfl, rfl⟩ hentering
    | retried _ hentering => exact .started ⟨rfl, rfl⟩ hentering
  | @disconnecting _ _ _ waiting h =>
    cases h with
    | blocked _ _ hentering => exact .blocked ⟨rfl, rfl⟩ hentering
    | disconnected result _ hafter hentering =>
      exact .disconnected (.inr (.inr ⟨waiting, result, rfl, hafter, rfl⟩)) (.set rfl rfl rfl) hentering
    | reconnected _ _ _ _ hentering => exact .started ⟨rfl, rfl⟩ hentering
  | @error _ _ _ failed h =>
    cases h with
    | reconnected hstored _ hentering => exact .started hstored.carries hentering
    | disconnected hrequest hentering =>
      refine .disconnected (.inr (.inl ⟨⟨failed, rfl⟩, hrequest⟩)) (.set rfl rfl ?_) hentering
      rcases hrequest with rfl | rfl <;> rfl
    | blocked hstored _ hentering => exact .blocked hstored.carries hentering

theorem TunnelState.Enters.settings (h : state.Enters env s event entered) :
    entered.shared.settings = s.settings.update event := by
  cases h with
  | disconnected _ hstored hentering => exact hentering.effect.settings.trans hstored.settings
  | started hcarries hentering => exact hentering.settings.trans hcarries.settings
  | up hevent hentering =>
    rw [hentering.settings, hevent]
    rfl
  | left _ _ hcarries _ => exact hcarries.settings

theorem TunnelState.Outcome.carries (h : state.Outcome env s event (.sameState state') s')
    (hstate : state ≠ .disconnected) : Carries s event s' := by
  cases h with
  | disconnected h => exact absurd rfl hstate
  | connecting h =>
    cases h with
    | stay _ hstored _ _ => exact hstored.carries
    | reapplied _ _ hstored _ _ happ =>
      exact ⟨happ.settings.trans hstored.settings, happ.resets.trans hstored.resets⟩
  | connected h =>
    cases h with
    | stay hstored _ _ => exact hstored.carries
    | reapplied _ hstored _ _ happ =>
      exact ⟨happ.settings.trans hstored.settings, happ.resets.trans hstored.resets⟩
  | disconnecting h =>
    cases h with
    | stay _ hstored => exact hstored.carries
  | error h =>
    cases h with
    | stay hstored _ _ => exact hstored.carries
    | reblocked hstored _ happ =>
      exact ⟨happ.settings.trans hstored.settings, happ.resets.trans hstored.resets⟩
    | refused hstored _ href =>
      exact ⟨href.settings.trans hstored.settings, href.resets.trans hstored.resets⟩

/-- How the disconnected state is entered: from itself, on a request to disconnect, or when the
tunnel has closed after one. -/
theorem outcome_disconnected
    (h : state.Outcome env s event (.newState state' transition) s') (hdisc : state' = .disconnected) :
    (∃ s₁, DisconnectedState.Entering env s₁ true ⟨state', transition, s'⟩) ∧
      (state = .disconnected ∨ event.RequestsDisconnect ∨ ∃ waiting result,
        state = .disconnecting waiting ∧ waiting.afterDisconnect = .nothing ∧ event = .close result) := by
  cases h.enters with
  | disconnected hreason _ hentering =>
    exact ⟨⟨_, hentering⟩, hreason.imp And.left (Or.imp_left And.right)⟩
  | started _ hentering | up _ hentering => exact absurd hdisc hentering.ne_disconnected
  | left _ _ _ _ => cases hdisc

namespace TunnelStateMachine

variable {machine machine' : TunnelStateMachine}

theorem handleEvent_outcome {commandsDone : Bool}
    (hreceives : receives env commandsDone state event = true) (s : SharedTunnelStateValues) :
    state.Outcome env s event (handleEvent env state event s).1 (handleEvent env state event s).2 := by
  cases state with
  | disconnected =>
    cases event with
    | command command => exact .disconnected (DisconnectedState.handleEvent_outcome env command s)
    | event _ | close _ => simp [receives] at hreceives
  | connecting state =>
    cases event with
    | command command => exact .connecting (ConnectingState.handleCommands_outcome env state command s)
    | event event => exact .connecting (ConnectingState.handleTunnelEvents_outcome env state event s)
    | close result =>
      exact .connecting (ConnectingState.handleTunnelCloseEvent_outcome env state result s)
  | connected state =>
    cases event with
    | command command => exact .connected (ConnectedState.handleCommands_outcome env state command s)
    | event event => exact .connected (ConnectedState.handleTunnelEvents_outcome env state event s)
    | close result => exact .connected (ConnectedState.handleTunnelCloseEvent_outcome env state result s)
  | disconnecting state =>
    cases event with
    | command command =>
      exact .disconnecting (DisconnectingState.handleCommands_outcome env state command s)
    | event _ => cases hclose : state.tunnelCloseEvent <;> simp [receives, hclose] at hreceives
    | close result =>
      exact .disconnecting (DisconnectingState.afterDisconnectEnter_outcome env state result s)
  | error state =>
    cases event with
    | command command => exact .error (ErrorState.handleEvent_outcome env state command s)
    | event _ | close _ => simp [receives] at hreceives

theorem step_cases (h : step env machine event = some machine') :
    ∃ state consequence shared, machine.currentState = some state ∧
      receives env machine.commandsDone state event = true ∧
      state.Outcome env machine.shared event consequence shared ∧
      machine' = machine.advance (machine.commandsDone || noticesEnd state event) (consequence, shared) := by
  unfold step at h
  split at h
  · simp at h
  · rename_i state hstate
    split_ifs at h with hreceives
    exact ⟨state, _, _, hstate, hreceives, handleEvent_outcome hreceives machine.shared,
      (Option.some.inj h).symm⟩

theorem step_of_receives (hstate : machine.currentState = some state)
    (hreceives : receives env machine.commandsDone state event = true) :
    ∃ machine', step env machine event = some machine' := by
  rw [step, hstate]
  exact ⟨_, if_pos hreceives⟩

section Invariant

variable (env) (C : List EventResult → TunnelStateMachine → EventResult → Prop)
  (J : List EventResult → TunnelState → Option TunnelStateTransition → SharedTunnelStateValues → Prop)

/-- An outcome that enters a state and reports it keeps `J`. -/
def KeptByEntering : Prop :=
  ∀ history machine state event state' transition shared, (system env).RunWhere C history machine →
    C history machine event → machine.currentState = some state →
    J history state machine.transitions.head? machine.shared →
    state.Outcome env machine.shared event (.newState state' transition) shared →
    J (event :: history) state' (some transition) shared

/-- An outcome that stays keeps `J`. -/
def KeptByStaying : Prop :=
  ∀ history machine state event state' shared, (system env).RunWhere C history machine →
    C history machine event → machine.currentState = some state →
    J history state machine.transitions.head? machine.shared →
    state.Outcome env machine.shared event (.sameState state') shared →
    J (event :: history) state' machine.transitions.head? shared

variable {env C J}

/-- Invariants of the current state, the last transition and the shared values. The premises are about
the initial entry into the disconnected state and about one outcome. -/
theorem runWhere_invariant (hinit : ∀ settings connectivity leftover,
      J [] .disconnected none (new env settings connectivity leftover).shared)
    (hnew : KeptByEntering env C J) (hsame : KeptByStaying env C J)
    {history : List EventResult} {machine : TunnelStateMachine}
    (hrun : (system env).RunWhere C history machine) (hstate : machine.currentState = some state) :
    J history state machine.transitions.head? machine.shared := by
  refine TransitionSystem.RunWhere.invariant
    (I := fun history machine => ∀ state, machine.currentState = some state →
      J history state machine.transitions.head? machine.shared) ?_ ?_ hrun state hstate
  · rintro _ ⟨settings, connectivity, leftover, rfl⟩ state hstate
    have hentering := DisconnectedState.enter_entering env
      (initialShared env settings connectivity leftover) settings.resetFirewall
    obtain rfl : TunnelState.disconnected = state :=
      hentering.state.symm.trans (Option.some.inj hstate)
    exact hinit settings connectivity leftover
  · intro history machine event machine' hrun hC ih hstep state' hstate'
    obtain ⟨state, consequence, shared, hstate, _, houtcome, rfl⟩ := step_cases hstep
    cases consequence with
    | newState newState transition =>
      obtain rfl : newState = state' := Option.some.inj hstate'
      exact hnew history machine state event newState transition shared hrun hC hstate
        (ih state hstate) houtcome
    | sameState newState =>
      obtain rfl : newState = state' := Option.some.inj hstate'
      exact hsame history machine state event newState shared hrun hC hstate (ih state hstate) houtcome
    | finished => simp [advance] at hstate'

end Invariant

end TunnelStateMachine

end MullvadVpn.Tunnel
