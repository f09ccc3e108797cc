import MullvadVpn.Tunnel.Stored

/-!
What handling an event can do while a tunnel is starting or up: the same kind of relations as for
the states without one.
-/

namespace MullvadVpn.Tunnel

open Net Firewall SharedTunnelStateValues

variable {env : Environment} {s s₁ s' : SharedTunnelStateValues} {event : EventResult}

namespace ConnectingState

/-- Two connecting states with the same tunnel, up to what is known about its interface. -/
structure SameTunnel (state state' : ConnectingState) : Prop where
  tunnelParameters : state'.tunnelParameters = state.tunnelParameters
  tunnelCloseEvent : state'.tunnelCloseEvent = state.tunnelCloseEvent

inductive Outcome (env : Environment) (state : ConnectingState) (s : SharedTunnelStateValues) :
    EventResult → EventConsequence → SharedTunnelStateValues → Prop
  | stay {event state' s'} : SameTunnel state state' → Stored s event s' → ¬ event.RequestsDisconnect →
      (env.os ≠ .android → s'.blockedPolicy = s.blockedPolicy) →
      Outcome env state s event (.sameState (.connecting state')) s'
  | reapplied {event state' s₁ s'} (policy : FirewallPolicy) :
      SameTunnel state state' → Stored s event s₁ → ¬ event.RequestsDisconnect →
      IsPolicy env s₁ state'.tunnelParameters state'.tunnelMetadata state'.allowedTunnelTraffic policy →
      Applied env s₁ policy s' →
      Outcome env state s event (.sameState (.connecting state')) s'
  | left {event : EventResult} {s' : SharedTunnelStateValues} (afterDisconnect : AfterDisconnect) :
      Stored s event s' → (afterDisconnect = .nothing ↔ event.RequestsDisconnect) →
      Outcome env state s event (.newState (.disconnecting ⟨state.tunnelCloseEvent, afterDisconnect⟩)
        (.disconnecting afterDisconnect.action)) s'
  | up {entered} (metadata : TunnelMetadata) :
      ConnectedState.Entering env s ⟨metadata, state.tunnelParameters, state.tunnelCloseEvent⟩ entered →
      Outcome env state s (.event (some (.up metadata)))
        (.newState entered.state entered.transition) entered.shared
  | failed {entered} (result : Except Unit (Option ErrorStateCause)) : ErrorState.Entering env s entered →
      Outcome env state s (.close result) (.newState entered.state entered.transition) entered.shared
  | retried {entered} (result : Except Unit (Option ErrorStateCause)) (retryAttempt : UInt32) :
      Entering env s retryAttempt entered →
      Outcome env state s (.close result) (.newState entered.state entered.transition) entered.shared

variable {state state' : ConnectingState}

theorem disconnect_outcome (afterDisconnect : AfterDisconnect)
    (hclose : state'.tunnelCloseEvent = state.tunnelCloseEvent) (h : Stored s event s₁)
    (hafter : afterDisconnect = .nothing ↔ event.RequestsDisconnect) :
    Outcome env state s event (disconnect env state' afterDisconnect s₁).1
      (disconnect env state' afterDisconnect s₁).2 := by
  have hstored := h.frame ((resetRoutes_frame env s₁).trans
    (.record _ (rfl : SystemCall.closeTunnel.isReset = false)))
  simpa only [disconnect, DisconnectingState.enter, Entered.newState, hclose] using
    .left afterDisconnect hstored hafter

theorem resetFirewall_outcome (htunnel : SameTunnel state state')
    (h : Stored s event s₁) (hevent : ¬ event.RequestsDisconnect) :
    Outcome env state s event (resetFirewall env state' s₁).1 (resetFirewall env state' s₁).2 := by
  unfold resetFirewall
  rcases setFirewallPolicy_sets env s₁ state'.tunnelParameters state'.tunnelMetadata
    state'.allowedTunnelTraffic with ⟨hok, policy, hpolicy, happ⟩ | ⟨error, herr, href⟩
  · simp only [hok]
    exact .reapplied policy htunnel h hevent hpolicy happ
  · simp only [herr]
    exact disconnect_outcome _ htunnel.tunnelCloseEvent (h.frame href.toFrame) (by simp [hevent])

theorem handleCommands_outcome (env : Environment) (state : ConnectingState)
    (command : Option TunnelCommand) (s : SharedTunnelStateValues) :
    Outcome env state s (.command command) (handleCommands env state command s).1
      (handleCommands env state command s).2 := by
  have hstored := storeCommand_stored env command s
  rcases handleCommands_cases env command s rfl rfl state with
    ⟨h, hevent, hpolicy⟩ | ⟨h, hevent⟩ | ⟨after, h, hafter⟩ <;> rw [h]
  · exact .stay ⟨rfl, rfl⟩ hstored hevent hpolicy
  · exact resetFirewall_outcome ⟨rfl, rfl⟩ hstored hevent
  · exact disconnect_outcome after rfl hstored hafter

theorem interfaceUp_outcome (metadata : TunnelMetadata) (traffic : AllowedTunnelTraffic)
    (hframe : Frame s s₁) (hevent : event = .event (some (.interfaceUp metadata traffic))) :
    Outcome env state s event (interfaceUp env state metadata traffic s₁).1
      (interfaceUp env state metadata traffic s₁).2 := by
  subst hevent
  exact resetFirewall_outcome ⟨rfl, rfl⟩ (.of_frame hframe rfl) (by simp)

theorem handleTunnelEvents_outcome (env : Environment) (state : ConnectingState)
    (event : Option TunnelEvent) (s : SharedTunnelStateValues) :
    Outcome env state s (.event event) (handleTunnelEvents env state event s).1
      (handleTunnelEvents env state event s).2 := by
  match event with
  | some (.authFailed _) | none =>
    exact disconnect_outcome _ rfl (.of_frame (.refl s) rfl) (by simp)
  | some (.interfaceUp metadata traffic) =>
    cases hos : env.os with
    | windows =>
      simp only [handleTunnelEvents, hos]
      have hframe := setTunnelAddresses_frame env s (some metadata)
      split_ifs
      · exact interfaceUp_outcome metadata traffic hframe rfl
      · exact disconnect_outcome _ rfl (.of_frame hframe rfl) (by simp)
    | macos =>
      simp only [handleTunnelEvents, hos]
      have hframe := enableSplitTunnel_frame env s metadata
      generalize s.enableSplitTunnel env metadata = result at hframe ⊢
      obtain ⟨result, s₁⟩ := result
      cases result with
      | ok _ => exact interfaceUp_outcome metadata traffic hframe rfl
      | error error => exact disconnect_outcome _ rfl (.of_frame hframe rfl) (by simp)
    | linux | android =>
      simp only [handleTunnelEvents, hos]
      exact interfaceUp_outcome metadata traffic (.refl s) rfl
  | some (.up metadata) => exact .up metadata (ConnectedState.enter_entering env s _)
  | some .down => exact .stay ⟨rfl, rfl⟩ (.of_frame (.refl s) rfl) (by simp) (fun _ => rfl)

theorem handleTunnelCloseEvent_outcome (env : Environment) (state : ConnectingState)
    (result : Except Unit (Option ErrorStateCause)) (s : SharedTunnelStateValues) :
    Outcome env state s (.close result) (handleTunnelCloseEvent env state (closeBlockReason result) s).1
      (handleTunnelCloseEvent env state (closeBlockReason result) s).2 := by
  unfold handleTunnelCloseEvent
  cases closeBlockReason result with
  | some reason =>
    exact .failed result ((ErrorState.enter_entering env _ _).of_frame (resetRoutes_frame env s))
  | none => exact .retried result _ ((enter_entering env _ _).of_frame (resetRoutes_frame env s))

end ConnectingState

namespace ConnectedState

inductive Outcome (env : Environment) (state : ConnectedState) (s : SharedTunnelStateValues) :
    EventResult → EventConsequence → SharedTunnelStateValues → Prop
  | stay {event : EventResult} {s' : SharedTunnelStateValues} : Stored s event s' → ¬ event.RequestsDisconnect →
      (env.os ≠ .android → s'.allowLan = s.allowLan ∧ s'.dnsConfig = s.dnsConfig) →
      Outcome env state s event (.sameState (.connected state)) s'
  | reapplied {event : EventResult} {s₁ s' : SharedTunnelStateValues} (policy : FirewallPolicy) :
      Stored s event s₁ → ¬ event.RequestsDisconnect → IsPolicy env s₁ state policy →
      Applied env s₁ policy s' →
      Outcome env state s event (.sameState (.connected state)) s'
  | dnsFailed {event : EventResult} {s₁ s' : SharedTunnelStateValues} (policy : FirewallPolicy) :
      Stored s event s₁ → ¬ event.RequestsDisconnect → IsPolicy env s₁ state policy →
      Applied env s₁ policy s' →
      Outcome env state s event (.newState (.disconnecting ⟨state.tunnelCloseEvent,
        .block .setDnsError⟩) (.disconnecting .block)) s'
  | left {event : EventResult} {s' : SharedTunnelStateValues} (afterDisconnect : AfterDisconnect) :
      Stored s event s' → (afterDisconnect = .nothing ↔ event.RequestsDisconnect) →
      Outcome env state s event (.newState (.disconnecting ⟨state.tunnelCloseEvent, afterDisconnect⟩)
        (.disconnecting afterDisconnect.action)) s'
  | failed {entered : Entered} (result : Except Unit (Option ErrorStateCause)) :
      ErrorState.Entering env s entered →
      Outcome env state s (.close result) (.newState entered.state entered.transition) entered.shared
  | retried {entered : Entered} (result : Except Unit (Option ErrorStateCause)) :
      ConnectingState.Entering env s 0 entered →
      Outcome env state s (.close result) (.newState entered.state entered.transition) entered.shared

theorem teardown_frame (env : Environment) (s : SharedTunnelStateValues) :
    Frame s ((resetDns env s).resetRoutes env) :=
  (resetDns_frame env s).trans (resetRoutes_frame env _)

variable {state : ConnectedState}

theorem disconnect_outcome (afterDisconnect : AfterDisconnect)
    (h : Stored s event s₁) (hafter : afterDisconnect = .nothing ↔ event.RequestsDisconnect) :
    Outcome env state s event (disconnect env state afterDisconnect s₁).1
      (disconnect env state afterDisconnect s₁).2 :=
  .left afterDisconnect (h.frame ((teardown_frame env s₁).trans (.record _ rfl))) hafter

theorem resetFirewall_outcome (h : Stored s event s₁) (hevent : ¬ event.RequestsDisconnect) :
    Outcome env state s event (resetFirewall env state s₁).1 (resetFirewall env state s₁).2 := by
  unfold resetFirewall
  rcases setFirewallPolicy_sets env state s₁ with ⟨hok, policy, hpolicy, happ⟩ | ⟨error, herr, href⟩
  · simp only [hok]
    exact .reapplied policy h hevent hpolicy happ
  · simp only [herr]
    exact disconnect_outcome _ (h.frame href.toFrame) (by simp [hevent])

theorem resetFirewallAndDns_outcome (h : Stored s event s₁)
    (hevent : ¬ event.RequestsDisconnect) :
    Outcome env state s event (resetFirewallAndDns env state s₁).1 (resetFirewallAndDns env state s₁).2 := by
  unfold resetFirewallAndDns
  rcases setFirewallPolicy_sets env state s₁ with ⟨hok, policy, hpolicy, happ⟩ | ⟨error, herr, href⟩
  · simp only [hok]
    have happ := happ.frame (setDns_frame env state _)
    split_ifs
    · exact .reapplied policy h hevent hpolicy happ
    · exact .dnsFailed policy h hevent hpolicy (happ.frame ((teardown_frame env _).trans (.record _ rfl)))
  · simp only [herr]
    exact disconnect_outcome _ (h.frame href.toFrame) (by simp [hevent])

theorem handleCommands_outcome (env : Environment) (state : ConnectedState)
    (command : Option TunnelCommand) (s : SharedTunnelStateValues) :
    Outcome env state s (.command command) (handleCommands env state command s).1
      (handleCommands env state command s).2 := by
  have hstored := storeCommand_stored env command s
  rcases handleCommands_cases env command s rfl rfl state with
    ⟨h, hevent, hsettings⟩ | ⟨h | h, hevent⟩ | ⟨after, h, hafter⟩ <;> rw [h]
  · exact .stay hstored hevent hsettings
  · exact resetFirewall_outcome hstored hevent
  · exact resetFirewallAndDns_outcome hstored hevent
  · exact disconnect_outcome after hstored hafter

theorem handleTunnelEvents_outcome (env : Environment) (state : ConnectedState)
    (event : Option TunnelEvent) (s : SharedTunnelStateValues) :
    Outcome env state s (.event event) (handleTunnelEvents env state event s).1
      (handleTunnelEvents env state event s).2 := by
  match event with
  | some .down | none => exact disconnect_outcome _ (.of_frame (.refl s) rfl) (by simp)
  | some (.authFailed _) | some (.interfaceUp _ _) | some (.up _) =>
    exact .stay (.of_frame (.refl s) rfl) (by simp) (fun _ => ⟨rfl, rfl⟩)

theorem handleTunnelCloseEvent_outcome (env : Environment) (state : ConnectedState)
    (result : Except Unit (Option ErrorStateCause)) (s : SharedTunnelStateValues) :
    Outcome env state s (.close result) (handleTunnelCloseEvent env state (closeBlockReason result) s).1
      (handleTunnelCloseEvent env state (closeBlockReason result) s).2 := by
  unfold handleTunnelCloseEvent
  cases closeBlockReason result with
  | some reason =>
    exact .failed result ((ErrorState.enter_entering env _ _).of_frame (teardown_frame env s))
  | none =>
    exact .retried result ((ConnectingState.enter_entering env _ _).of_frame (teardown_frame env s))

end ConnectedState

end MullvadVpn.Tunnel
