import MullvadVpn.Tunnel.OutcomeWithout
import MullvadVpn.Tunnel.Paths

/-!
Which calls a step of the machine makes on Linux and Windows. Every handled event is one of a few kinds
of steps, which are described by the paths they take.
-/

namespace MullvadVpn.Tunnel

open SharedTunnelStateValues

variable {state : ConnectedState} {env : Environment} {s s₁ s' : SharedTunnelStateValues}

namespace TunnelState

/-- What a state clears away before it gives up its tunnel. -/
def tearDown (env : Environment) (s : SharedTunnelStateValues) : TunnelState → SharedTunnelStateValues
  | connecting _ => s.resetRoutes env
  | connected _ => (ConnectedState.resetDns env s).resetRoutes env
  | _ => s

def Makes (call : SystemCall) : TunnelState → Prop
  | connected _ => call.isPlain = true ∨ call.setsUpConnected = true
  | _ => call.isPlain = true

/-- The state is kept, up to what it knows about its tunnel. -/
def Keeps : TunnelState → TunnelState → Prop
  | connecting _, connecting _ => True
  | connected _, connected _ => True
  | disconnecting _, disconnecting _ => True
  | error _, error _ => True
  | _, _ => False

/-- The event makes the state enter the disconnected state. -/
def Disconnects (event : EventResult) : TunnelState → Prop
  | error _ => event.RequestsDisconnect
  | disconnecting state =>
    ∃ result, event = .close result ∧ closeBlockReason result = none ∧ state.afterDisconnect = .nothing
  | _ => False

inductive Logged (env : Environment) (s : SharedTunnelStateValues) :
    TunnelState → EventResult → EventConsequence → SharedTunnelStateValues → Prop
  | disconnected {command} : command ≠ some .connect →
      Logged env s .disconnected (.command command) (DisconnectedState.handleEvent env command s).1
        (DisconnectedState.handleEvent env command s).2
  | closed {state event transition} : (disconnecting state).Disconnects event →
      Logged env s (disconnecting state) event (.newState .disconnected transition)
        (DisconnectedState.enter env s true).shared
  | gaveUp {state event transition} : (error state).Disconnects event →
      Logged env s (error state) event (.newState .disconnected transition)
        (DisconnectedState.enter env
          (if env.os = .linux then s.resetConnectivityCheck else s).dnsReset true).shared
  | kept {state state' event s'} :
      state.Keeps state' → ¬ state.Disconnects event → Way env (fun call => state.Makes call) s s' →
      Logged env s state event (.sameState state') s'
  | entered {state event entered} :
      ¬ state.Disconnects event → (state = .disconnected → event = .command (some .connect)) →
      Starting env (state.tearDown env s) entered →
      Logged env s state event (.newState entered.state entered.transition) entered.shared
  | left {state event state'} {transition s₁} : Way env (fun call => state.Makes call) s s₁ →
      (∃ tunnel, state = connecting tunnel) ∨ (∃ tunnel, state = connected tunnel) →
      Logged env s state event (.newState (disconnecting state') transition)
        ((state.tearDown env s₁).record .closeTunnel)
  | broughtUp {state event entered} : BringingUp s entered →
      Logged env s (connecting state) event (.newState entered.state entered.transition) entered.shared

end TunnelState

open TunnelState

section Handle

variable (hmac : env.os ≠ .macos) (hand : env.os ≠ .android) {event : EventResult}

theorem ConnectingState.disconnect_logged {state state'} (h : PlainPath env s s₁)
    (after : AfterDisconnect) :
    Logged env s (.connecting state) event (disconnect env state' after s₁).1
      (disconnect env state' after s₁).2 :=
  .left h (.inl ⟨state, rfl⟩)

theorem ConnectingState.resetFirewall_logged {state state'} (h : PlainPath env s s₁) :
    Logged env s (.connecting state) event (resetFirewall env state' s₁).1 (resetFirewall env state' s₁).2 := by
  have hpolicy := setFirewallPolicy_path env h state'.tunnelParameters
    state'.tunnelMetadata state'.allowedTunnelTraffic
  unfold resetFirewall
  generalize setFirewallPolicy env s₁ _ _ _ = result at hpolicy
  obtain ⟨result, s₂⟩ := result
  cases result with
  | ok _ => exact .kept trivial id hpolicy
  | error error => exact disconnect_logged hpolicy _

include hmac hand

omit hand in
theorem ConnectingState.handleCommands_logged (state : ConnectingState) (command : Option TunnelCommand)
    (s : SharedTunnelStateValues) :
    Logged env s (.connecting state) event (handleCommands env state command s).1
      (handleCommands env state command s).2 := by
  have hpath : PlainPath env s (DisconnectingState.storeCommand env s command) :=
    storeCommand_path hmac (fun _ hplain => hplain) command
  rcases handleCommands_cases env command s rfl rfl state with ⟨h, -⟩ | ⟨h, -⟩ | ⟨after, h, -⟩ <;> rw [h]
  · exact .kept trivial id hpath
  · exact resetFirewall_logged hpath
  · exact disconnect_logged hpath after

omit hand in
theorem ConnectingState.handleTunnelEvents_logged (state : ConnectingState)
    (tunnelEvent : Option TunnelEvent) (s : SharedTunnelStateValues) :
    Logged env s (.connecting state) event (handleTunnelEvents env state tunnelEvent s).1
      (handleTunnelEvents env state tunnelEvent s).2 := by
  match tunnelEvent with
  | some (.authFailed _) | none => exact disconnect_logged .refl _
  | some (.interfaceUp metadata traffic) =>
    simp only [handleTunnelEvents]
    split
    next =>
      have hpath : PlainPath env s (s.setTunnelAddresses env (some metadata)).2 := Way.refl.record rfl
      split_ifs
      · exact resetFirewall_logged hpath
      · exact disconnect_logged hpath _
    next hos => exact absurd hos hmac
    next => exact resetFirewall_logged .refl
    next => exact resetFirewall_logged .refl
  | some (.up metadata) => exact .broughtUp (ConnectedState.enter_bringingUp hmac s metadata _ _)
  | some .down => exact .kept trivial id .refl

omit hmac hand in
theorem ConnectedState.disconnect_logged (h : Way env (fun call => (connected state).Makes call) s s₁)
    (after : AfterDisconnect) :
    Logged env s (.connected state) event (disconnect env state after s₁).1 (disconnect env state after s₁).2 :=
  .left h (.inr ⟨state, rfl⟩)

omit hmac hand in
theorem ConnectedState.setFirewallPolicy_path
    (h : Way env (fun call => (connected state).Makes call) s s₁) :
    Way env (fun call => (connected state).Makes call) s (setFirewallPolicy env state s₁).2 := by
  have hcheck := applyPolicy_check env s₁ (getFirewallPolicy env state s₁)
  rcases applyPolicy_calls env s₁ (getFirewallPolicy env state s₁) with
    ⟨_, hcalls⟩ | ⟨_, _, hcalls⟩
  all_goals exact .call h (.inr rfl) hcalls hcheck

omit hand in
theorem ConnectedState.setDns_path (h : Way env (fun call => (connected state).Makes call) s s₁) :
    Way env (fun call => (connected state).Makes call) s (setDns env state s₁).2 := by
  unfold setDns
  simp only [hmac, false_and, if_false]
  exact h.record (.inr rfl)

omit hmac hand in
theorem ConnectedState.resetFirewall_logged
    (h : Way env (fun call => (connected state).Makes call) s s₁) :
    Logged env s (.connected state) event (resetFirewall env state s₁).1 (resetFirewall env state s₁).2 := by
  have hpolicy := setFirewallPolicy_path h
  unfold resetFirewall
  generalize setFirewallPolicy env state s₁ = result at hpolicy
  obtain ⟨result, s₂⟩ := result
  cases result with
  | ok _ => exact .kept trivial id hpolicy
  | error error => exact disconnect_logged hpolicy _

omit hand in
theorem ConnectedState.resetFirewallAndDns_logged
    (h : Way env (fun call => (connected state).Makes call) s s₁) :
    Logged env s (.connected state) event (resetFirewallAndDns env state s₁).1
      (resetFirewallAndDns env state s₁).2 := by
  have hpolicy := setFirewallPolicy_path h
  unfold resetFirewallAndDns
  generalize setFirewallPolicy env state s₁ = result at hpolicy
  obtain ⟨result, s₂⟩ := result
  cases result with
  | ok _ =>
    have hdns := setDns_path hmac hpolicy
    dsimp only
    split_ifs
    · exact .kept trivial id hdns
    · exact disconnect_logged hdns _
  | error error => exact disconnect_logged hpolicy _

omit hand in
theorem ConnectedState.handleCommands_logged (state : ConnectedState) (command : Option TunnelCommand)
    (s : SharedTunnelStateValues) :
    Logged env s (.connected state) event (handleCommands env state command s).1
      (handleCommands env state command s).2 := by
  have hpath : Way env (fun call => (connected state).Makes call) s
      (DisconnectingState.storeCommand env s command) := storeCommand_path hmac (fun _ => .inl) command
  rcases handleCommands_cases env command s rfl rfl state with
    ⟨h, -⟩ | ⟨h | h, -⟩ | ⟨after, h, -⟩ <;> rw [h]
  · exact .kept trivial id hpath
  · exact resetFirewall_logged hpath
  · exact resetFirewallAndDns_logged hmac hpath
  · exact disconnect_logged hpath after

omit hmac hand in
theorem ConnectedState.handleTunnelEvents_logged (state : ConnectedState)
    (tunnelEvent : Option TunnelEvent) (s : SharedTunnelStateValues) :
    Logged env s (.connected state) event (handleTunnelEvents env state tunnelEvent s).1
      (handleTunnelEvents env state tunnelEvent s).2 := by
  match tunnelEvent with
  | some .down | none => exact disconnect_logged .refl _
  | some (.authFailed _) | some (.interfaceUp _ _) | some (.up _) => exact .kept trivial id .refl

theorem ErrorState.handleEvent_logged (state : ErrorState) (command : Option TunnelCommand)
    (s : SharedTunnelStateValues) :
    Logged env s (.error state) (.command command) (handleEvent env state command s).1
      (handleEvent env state command s).2 := by
  by_cases hevent : (EventResult.command command).RequestsDisconnect
  · rw [handleEvent_of_requestsDisconnect state s hevent]
    exact .gaveUp hevent
  have hpath : PlainPath env s (DisconnectingState.storeCommand env s command) :=
    storeCommand_path hmac (fun _ hplain => hplain) command
  rcases handleEvent_cases state s hevent rfl with
    ⟨s₂, h, -, hsame⟩ | h | ⟨s₂, h, -, -, hreset⟩ | ⟨s₂, cause, h, -, hsame⟩ <;> rw [h]
  · exact .kept trivial hevent ((hsame hand).1 ▸ hpath)
  · exact .kept trivial hevent (setFirewallPolicy_path env hpath)
  · have hpath : PlainPath env s s₂ := hreset hand ▸ .ite hpath (hpath.record rfl)
    exact .entered hevent nofun ((ConnectingState.enter_starting hmac hand s₂ 0).of_path hpath)
  · exact .entered hevent nofun ((enter_starting hmac hand s₂ cause).of_path (hsame hand ▸ hpath))

theorem DisconnectingState.afterDisconnectEnter_logged (state : DisconnectingState)
    (result : Except Unit (Option ErrorStateCause)) (s : SharedTunnelStateValues) :
    Logged env s (.disconnecting state) (.close result)
      (state.afterDisconnectEnter env (closeBlockReason result) s).newState.1
      (state.afterDisconnectEnter env (closeBlockReason result) s).newState.2 := by
  unfold afterDisconnectEnter
  cases hreason : closeBlockReason result with
  | some reason =>
    exact .entered (by simp [Disconnects, hreason]) nofun (ErrorState.enter_starting hmac hand s reason)
  | none =>
    cases hafter : state.afterDisconnect with
    | nothing => exact .closed ⟨result, rfl, hreason, hafter⟩
    | block cause =>
      exact .entered (by simp [Disconnects, hafter]) nofun (ErrorState.enter_starting hmac hand s cause)
    | reconnect retryAttempt =>
      exact .entered (by simp [Disconnects, hafter]) nofun
        (ConnectingState.enter_starting hmac hand s retryAttempt)

theorem TunnelStateMachine.handleEvent_logged {commandsDone : Bool} {state}
    (hreceives : receives env commandsDone state event = true) (s : SharedTunnelStateValues) :
    Logged env s state event (handleEvent env state event s).1 (handleEvent env state event s).2 := by
  cases state with
  | disconnected =>
    cases event with
    | command command =>
      by_cases hconnect : command = some .connect
      · subst hconnect
        exact .entered id (fun _ => rfl) (ConnectingState.enter_starting hmac hand s 0)
      · exact .disconnected hconnect
    | event _ | close _ => simp [receives] at hreceives
  | connecting state =>
    cases event with
    | command command => exact ConnectingState.handleCommands_logged hmac state command s
    | event event => exact ConnectingState.handleTunnelEvents_logged hmac state event s
    | close result =>
      simp only [handleEvent, ConnectingState.handleTunnelCloseEvent]
      cases closeBlockReason result with
      | some reason => exact .entered id nofun (ErrorState.enter_starting hmac hand _ reason)
      | none => exact .entered id nofun (ConnectingState.enter_starting hmac hand _ _)
  | connected state =>
    cases event with
    | command command => exact ConnectedState.handleCommands_logged hmac state command s
    | event event => exact ConnectedState.handleTunnelEvents_logged state event s
    | close result =>
      simp only [handleEvent, ConnectedState.handleTunnelCloseEvent]
      cases closeBlockReason result with
      | some reason => exact .entered id nofun (ErrorState.enter_starting hmac hand _ reason)
      | none => exact .entered id nofun (ConnectingState.enter_starting hmac hand _ _)
  | disconnecting state =>
    cases event with
    | command command =>
      exact .kept trivial (by simp [Disconnects]) (storeCommand_path hmac (fun _ hplain => hplain) command)
    | event _ =>
      cases hclose : state.tunnelCloseEvent <;> simp [receives, hclose] at hreceives
    | close result => exact DisconnectingState.afterDisconnectEnter_logged hmac hand state result s
  | error state =>
    cases event with
    | command command => exact ErrorState.handleEvent_logged hmac hand state command s
    | event _ | close _ => simp [receives] at hreceives

end Handle

theorem TunnelStateMachine.step_logged (hmac : env.os ≠ .macos) (hand : env.os ≠ .android)
    {machine machine' event} (h : step env machine event = some machine') :
    ∃ state consequence shared commandsDone, machine.currentState = some state ∧
      state.Logged env machine.shared event consequence shared ∧
      machine' = machine.advance commandsDone (consequence, shared) := by
  unfold step at h
  split at h
  next => cases h
  next state hstate =>
    split_ifs at h with hreceives
    exact ⟨state, _, _, _, hstate, handleEvent_logged hmac hand hreceives machine.shared,
      (Option.some.inj h).symm⟩

end MullvadVpn.Tunnel
