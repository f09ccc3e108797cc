import MullvadVpn.Tunnel.Stored

/-!
What handling an event can do in the states without a working tunnel. One relation per state lists
the possible consequences together with their effect on the firewall and the settings, and one lemma
per handler says that nothing else happens.
-/

namespace MullvadVpn.Tunnel

open SharedTunnelStateValues

variable {env : Environment} {s s₁ s' : SharedTunnelStateValues} {event : EventResult}

namespace DisconnectingState

inductive Outcome (env : Environment) (state : DisconnectingState) (s : SharedTunnelStateValues) :
    EventResult → EventConsequence → SharedTunnelStateValues → Prop
  | stay {s' : SharedTunnelStateValues} (command : Option TunnelCommand) : Stored s (.command command) s' →
      Outcome env state s (.command command) (.sameState (.disconnecting { state with
        afterDisconnect := updateAfterDisconnect state.afterDisconnect command })) s'
  | blocked {entered} (result : Except Unit (Option ErrorStateCause)) :
      (closeBlockReason result).isSome ∨ (∃ cause, state.afterDisconnect = .block cause) →
      ErrorState.Entering env s entered →
      Outcome env state s (.close result) (.newState entered.state entered.transition) entered.shared
  | disconnected {entered} (result : Except Unit (Option ErrorStateCause)) :
      closeBlockReason result = none → state.afterDisconnect = .nothing →
      DisconnectedState.Entering env s true entered →
      Outcome env state s (.close result) (.newState entered.state entered.transition) entered.shared
  | reconnected {entered} (result : Except Unit (Option ErrorStateCause)) (retryAttempt : UInt32) :
      closeBlockReason result = none → state.afterDisconnect = .reconnect retryAttempt →
      ConnectingState.Entering env s retryAttempt entered →
      Outcome env state s (.close result) (.newState entered.state entered.transition) entered.shared

theorem handleCommands_outcome (env : Environment) (state : DisconnectingState)
    (command : Option TunnelCommand) (s : SharedTunnelStateValues) :
    Outcome env state s (.command command) (handleCommands env state command s).1
      (handleCommands env state command s).2 :=
  .stay command (storeCommand_stored env command s)

theorem afterDisconnectEnter_outcome (env : Environment) (state : DisconnectingState)
    (result : Except Unit (Option ErrorStateCause)) (s : SharedTunnelStateValues) :
    Outcome env state s (.close result) (state.afterDisconnectEnter env (closeBlockReason result) s).newState.1
      (state.afterDisconnectEnter env (closeBlockReason result) s).newState.2 := by
  unfold afterDisconnectEnter
  cases hreason : closeBlockReason result with
  | some reason => exact .blocked result (Or.inl (by simp [hreason])) (ErrorState.enter_entering env s _)
  | none =>
    cases hafter : state.afterDisconnect with
    | nothing => exact .disconnected result hreason hafter (DisconnectedState.enter_entering env s true)
    | block cause =>
      exact .blocked result (Or.inr ⟨cause, hafter⟩) (ErrorState.enter_entering env s cause)
    | reconnect retryAttempt =>
      exact .reconnected result retryAttempt hreason hafter (ConnectingState.enter_entering env s retryAttempt)

end DisconnectingState

namespace ErrorState

/-- The events that make the error state try to connect. -/
def Reconnects (env : Environment) (state : ErrorState) (s : SharedTunnelStateValues) :
    EventResult → Prop
  | .command (some .connect) => True
  | .command (some (.connectivity connectivity)) =>
    shouldReconnect state.blockReason connectivity = true
  | .command (some (.dns config)) =>
    env.os = .android ∧ s.dnsConfig ≠ config ∧ state.blockReason.isInvalidDnsServers = true
  | _ => False

inductive Outcome (env : Environment) (state : ErrorState) (s : SharedTunnelStateValues) :
    EventResult → EventConsequence → SharedTunnelStateValues → Prop
  | stay {event : EventResult} {s' : SharedTunnelStateValues} : Stored s event s' → ¬ event.RequestsDisconnect →
      (env.os ≠ .android → s'.blockedPolicy = s.blockedPolicy) →
      Outcome env state s event (.sameState (.error state)) s'
  | reblocked {event : EventResult} {s₁ s' : SharedTunnelStateValues} :
      Stored s event s₁ → ¬ event.RequestsDisconnect → Applied env s₁ s₁.blockedPolicy s' →
      Outcome env state s event (.sameState (.error state)) s'
  | refused {event : EventResult} {s₁ s' : SharedTunnelStateValues} :
      Stored s event s₁ → ¬ event.RequestsDisconnect → Refused env s₁ s' →
      Outcome env state s event (.sameState (.error state)) s'
  | reconnected {event s₁ entered} :
      Stored s event s₁ → Reconnects env state s event → ConnectingState.Entering env s₁ 0 entered →
      Outcome env state s event (.newState entered.state entered.transition) entered.shared
  | disconnected {event entered} : event.RequestsDisconnect → DisconnectedState.Entering env s true entered →
      Outcome env state s event (.newState entered.state entered.transition) entered.shared
  | blocked {event s₁ entered} :
      Stored s event s₁ → ¬ event.RequestsDisconnect → ErrorState.Entering env s₁ entered →
      Outcome env state s event (.newState entered.state entered.transition) entered.shared

theorem handleEvent_of_requestsDisconnect (state : ErrorState) (s : SharedTunnelStateValues)
    {command : Option TunnelCommand} (h : (EventResult.command command).RequestsDisconnect) :
    handleEvent env state command s = (DisconnectedState.enter env
      (if env.os = .linux then s.resetConnectivityCheck else s).dnsReset true).newState := by
  rcases h with h | h <;> cases h <;> rfl

/-- Once another command is stored, the error state stays, applies its policy again, connects or is entered
again. On Android it also restarts the tunnel that blocks. -/
theorem handleEvent_cases (state : ErrorState) {command : Option TunnelCommand} (s : SharedTunnelStateValues)
    (hevent : ¬ (EventResult.command command).RequestsDisconnect)
    (hs₁ : s₁ = DisconnectingState.storeCommand env s command) :
    (∃ s₂, handleEvent env state command s = (.sameState (.error state), s₂) ∧ Frame s₁ s₂ ∧
      (env.os ≠ .android → s₂ = s₁ ∧ s₁.blockedPolicy = s.blockedPolicy)) ∨
    handleEvent env state command s = (.sameState (.error state), (setFirewallPolicy env s₁).2) ∨
    (∃ s₂, handleEvent env state command s = (ConnectingState.enter env s₂ 0).newState ∧ Frame s₁ s₂ ∧
      Reconnects env state s (.command command) ∧
      (env.os ≠ .android → s₂ = resetDnsUnlessLocal env s₁)) ∨
    ∃ s₂ cause, handleEvent env state command s = (enter env s₂ cause).newState ∧ Frame s₁ s₂ ∧
      (env.os ≠ .android → s₂ = s₁) := by
  subst hs₁
  have hreset : ∀ s, Frame s (resetDnsUnlessLocal env s) := fun s =>
    .ite (.refl s) (.record s rfl)
  match command with
  | some (.allowLan allowLan) =>
    simp only [handleEvent, DisconnectingState.storeCommand, setAllowLan_eq, decide_eq_true_eq]
    have hrestart := restartTunnel_frame env { s with allowLan } true
    split_ifs with h hos
    · exact .inl ⟨_, rfl, hrestart, fun h => absurd hos h⟩
    · exact .inr (.inr (.inr ⟨_, _, rfl, hrestart, fun h => absurd hos h⟩))
    · exact .inr (.inl rfl)
    · exact .inl ⟨_, rfl, .refl _, fun _ => ⟨rfl, by rw [blockedPolicy, ← not_not.mp h]; rfl⟩⟩
  | some (.allowEndpoint endpoint) =>
    simp only [handleEvent, DisconnectingState.storeCommand]
    split_ifs with h
    · exact .inr (.inl rfl)
    · obtain rfl := not_not.mp h
      exact .inl ⟨_, rfl, .refl _, fun _ => ⟨rfl, rfl⟩⟩
  | some (.dns config) =>
    simp only [handleEvent, DisconnectingState.storeCommand, setDnsConfig_eq, decide_eq_true_eq]
    split_ifs with h hos hdns
    · exact .inr (.inr (.inl ⟨_, rfl, .record _ rfl, ⟨hos, h, hdns⟩, fun h => absurd hos h⟩))
    · exact .inl ⟨_, rfl, .record _ rfl, fun h => absurd hos h⟩
    · exact .inr (.inl rfl)
    · exact .inl ⟨_, rfl, .refl _, fun _ => ⟨rfl, rfl⟩⟩
  | some (.connectivity connectivity) =>
    simp only [handleEvent, DisconnectingState.storeCommand]
    split_ifs with h
    · exact .inr (.inr (.inl ⟨_, rfl, hreset _, h, fun _ => rfl⟩))
    · exact .inl ⟨_, rfl, .refl _, fun _ => ⟨rfl, rfl⟩⟩
  | some .connect => exact .inr (.inr (.inl ⟨_, rfl, hreset s, trivial, fun _ => rfl⟩))
  | some .disconnect | none => simp at hevent
  | some (.block reason) => exact .inr (.inr (.inr ⟨s, reason, rfl, .refl s, fun _ => rfl⟩))
  | some (.lockdownMode _) | some (.bypassSocket _) =>
    exact .inl ⟨_, rfl, .refl _, fun _ => ⟨rfl, rfl⟩⟩
  | some (.setExcludedApps paths) =>
    have hpolicy := (storeExcludedApps_frame env s paths).blockedPolicy
    by_cases hos : env.os = .android
    · simp only [handleEvent, DisconnectingState.storeCommand, storeExcludedApps, hos, if_true]
      exact .inl ⟨_, rfl, .ite (restartTunnel_frame env _ true) (.refl _), fun h => absurd rfl h⟩
    · simp only [handleEvent, hos, if_false]
      exact .inl ⟨_, rfl, .refl _, fun _ => ⟨rfl, hpolicy⟩⟩

theorem handleEvent_outcome (env : Environment) (state : ErrorState) (command : Option TunnelCommand)
    (s : SharedTunnelStateValues) :
    Outcome env state s (.command command) (handleEvent env state command s).1
      (handleEvent env state command s).2 := by
  by_cases hevent : (EventResult.command command).RequestsDisconnect
  · rw [handleEvent_of_requestsDisconnect state s hevent]
    refine .disconnected hevent ((DisconnectedState.enter_entering env _ true).of_frame ?_)
    exact (Frame.ite (resetConnectivityCheck_frame s) (Frame.refl s)).trans (Frame.record _ rfl)
  have hstored := storeCommand_stored env command s
  rcases handleEvent_cases state s hevent rfl with
    ⟨s₂, h, hframe, hpolicy⟩ | h | ⟨s₂, h, hframe, hreconnects, -⟩ | ⟨s₂, cause, h, hframe, -⟩ <;> rw [h]
  · refine .stay (hstored.frame hframe) hevent fun hos => ?_
    obtain ⟨rfl, hkept⟩ := hpolicy hos
    exact hkept
  · rcases setFirewallPolicy_sets env _ with ⟨_, _, rfl, happ⟩ | ⟨_, _, href⟩
    · exact .reblocked hstored hevent happ
    · exact .refused hstored hevent href
  · exact .reconnected (hstored.frame hframe) hreconnects (ConnectingState.enter_entering env _ 0)
  · exact .blocked (hstored.frame hframe) hevent (enter_entering env _ cause)

end ErrorState

namespace DisconnectedState

/-- The events that end the disconnected state. -/
def Leaves (event : EventResult) : Prop :=
  event = .command none ∨ event = .command (some .connect)

inductive Outcome (env : Environment) (s : SharedTunnelStateValues) :
    EventResult → EventConsequence → SharedTunnelStateValues → Prop
  | stay {event : EventResult} {s' : SharedTunnelStateValues} :
      Stored s event s' → ¬ Leaves event → s'.blockedPolicy = s.blockedPolicy →
      s'.lockdownMode = s.lockdownMode →
      Outcome env s event (.sameState .disconnected) s'
  | sameLockdown (mode : LockdownMode) : s.lockdownMode.bool = mode.bool →
      Outcome env s (.command (some (.lockdownMode mode))) (.sameState .disconnected) s
  | refirewalled {event : EventResult} {s₁ s' : SharedTunnelStateValues} :
      Stored s event s₁ → ¬ Leaves event → s₁.lockdownMode = s.lockdownMode →
      FirewallEffect env s₁ false s' →
      Outcome env s event (.sameState .disconnected) s'
  | lockdown {s₁ entered} (mode : LockdownMode) :
      s.lockdownMode.bool ≠ mode.bool → Stored s (.command (some (.lockdownMode mode))) s₁ →
      Entering env s₁ true entered →
      Outcome env s (.command (some (.lockdownMode mode)))
        (.newState entered.state entered.transition) entered.shared
  | lockdownFailed {s₁ s₂ entered} (mode : LockdownMode) :
      env.os = .macos → mode.bool = true → s.lockdownMode.bool = false →
      Stored s (.command (some (.lockdownMode mode))) s₁ → FirewallEffect env s₁ true s₂ →
      ErrorState.Entering env s₂ entered →
      Outcome env s (.command (some (.lockdownMode mode)))
        (.newState entered.state entered.transition) entered.shared
  | connect {entered} : ConnectingState.Entering env s 0 entered →
      Outcome env s (.command (some .connect)) (.newState entered.state entered.transition) entered.shared
  | finished {s' : SharedTunnelStateValues} : Frame s s' → Outcome env s (.command none) .finished s'

theorem setLockdownMode_outcome (env : Environment) (mode : LockdownMode)
    (s : SharedTunnelStateValues) (hmode : s.lockdownMode.bool ≠ mode.bool) :
    Outcome env s (.command (some (.lockdownMode mode))) (setLockdownMode env mode s).1
      (setLockdownMode env mode s).2 := by
  have hstored : Stored s (.command (some (.lockdownMode mode))) { s with lockdownMode := mode } :=
    .set rfl rfl rfl
  unfold setLockdownMode
  dsimp only
  generalize { s with lockdownMode := mode } = s₁ at hstored
  have hbase := setFirewallPolicy_effect env s₁ true
  generalize setFirewallPolicy env s₁ true = s₂ at hbase
  have heffect : FirewallEffect env s₁ true
      (if env.os = .windows then registerSplitTunnelAddresses env s₂ true else s₂) :=
    hbase.frame (.ite (registerSplitTunnelAddresses_frame env s₂ true) (.refl s₂))
  generalize (if env.os = .windows then registerSplitTunnelAddresses env s₂ true else s₂) = s₃ at heffect
  have hdns := heffect.frame (setupLocalDnsConfig_frame env s₃)
  split_ifs with hos hon hok
  · exact .lockdown mode hmode hstored (constructStateTransition_entering hdns)
  · refine .lockdownFailed mode hos hon ?_ hstored hdns (ErrorState.enter_entering env _ _)
    simpa [hon] using hmode
  · exact .lockdown mode hmode hstored (constructStateTransition_entering (heffect.frame (.record s₃ rfl)))
  · exact .lockdown mode hmode hstored (constructStateTransition_entering heffect)

theorem handleEvent_outcome (env : Environment) (command : Option TunnelCommand)
    (s : SharedTunnelStateValues) :
    Outcome env s (.command command) (handleEvent env command s).1 (handleEvent env command s).2 := by
  match command with
  | some (.allowLan allowLan) =>
    have hstored : Stored s (.command (some (.allowLan allowLan))) { s with allowLan } := .set rfl rfl rfl
    simp only [handleEvent, setAllowLan_eq, decide_eq_true_eq]
    split_ifs with h
    · exact .refirewalled hstored (by simp [Leaves]) rfl (setFirewallPolicy_effect env _ false)
    · exact .stay hstored (by simp [Leaves]) (by rw [blockedPolicy, ← not_not.mp h]; rfl) rfl
  | some (.allowEndpoint endpoint) =>
    have hstored : Stored s (.command (some (.allowEndpoint endpoint)))
        { s with allowedEndpoint := endpoint } := .set rfl rfl rfl
    simp only [handleEvent]
    split_ifs with h
    · exact .refirewalled hstored (by simp [Leaves]) rfl (setFirewallPolicy_effect env _ false)
    · obtain rfl := not_not.mp h
      exact .stay hstored (by simp [Leaves]) rfl rfl
  | some (.dns config) =>
    simp only [handleEvent, setDnsConfig_eq]
    exact .stay (.set rfl rfl rfl) (by simp [Leaves]) rfl rfl
  | some (.lockdownMode mode) =>
    simp only [handleEvent, LockdownMode.eq, beq_iff_eq]
    split_ifs with h
    · exact .sameLockdown mode h
    · exact setLockdownMode_outcome env mode s h
  | some (.connectivity _) => exact .stay (.set rfl rfl rfl) (by simp [Leaves]) rfl rfl
  | some .connect => exact .connect (ConnectingState.enter_entering env s 0)
  | some .disconnect | some (.block _) =>
    exact .stay (.of_frame (.refl s) rfl) (by simp [Leaves]) rfl rfl
  | some (.bypassSocket _) => exact .stay (.of_frame (.record s rfl) rfl) (by simp [Leaves]) rfl rfl
  | some (.setExcludedApps paths) =>
    have hframe := storeExcludedApps_frame env s paths
    exact .stay (.of_frame hframe rfl) (by simp [Leaves]) hframe.blockedPolicy
      (congrArg Settings.lockdownMode hframe.settings)
  | none => exact .finished (.record s rfl)

end DisconnectedState

end MullvadVpn.Tunnel
