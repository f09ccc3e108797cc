import MullvadVpn.Tunnel.Entering
import MullvadVpn.Tunnel.Machine

/-!
Storing a command in the shared values: what it does to the settings, and that it leaves the
firewall alone.
-/

namespace MullvadVpn.Tunnel

open Net SharedTunnelStateValues

/-- The settings after a command. Every state but the disconnected one follows this to the letter;
the disconnected state ignores a lockdown mode that differs in the persist flag only. -/
def Settings.update (settings : Settings) : EventResult → Settings
  | .command (some (.allowLan allowLan)) => { settings with allowLan := allowLan }
  | .command (some (.allowEndpoint endpoint)) => { settings with allowedEndpoint := endpoint }
  | .command (some (.dns config)) => { settings with dnsConfig := config }
  | .command (some (.lockdownMode mode)) => { settings with lockdownMode := mode }
  | .command (some (.connectivity connectivity)) => { settings with connectivity := connectivity }
  | _ => settings

/-- A command to disconnect, or the end of the command channel. -/
def EventResult.RequestsDisconnect (event : EventResult) : Prop :=
  event = .command (some .disconnect) ∨ event = .command none

@[simp]
theorem EventResult.requestsDisconnect_some {command : TunnelCommand} :
    (EventResult.command (some command)).RequestsDisconnect ↔ command = .disconnect := by
  simp [RequestsDisconnect]

@[simp]
theorem EventResult.requestsDisconnect_none : (command none).RequestsDisconnect := .inr rfl

@[simp]
theorem EventResult.not_requestsDisconnect_event (event : Option TunnelEvent) :
    ¬ (EventResult.event event).RequestsDisconnect := by
  simp [RequestsDisconnect]

@[simp]
theorem EventResult.not_requestsDisconnect_close (result : Except Unit (Option ErrorStateCause)) :
    ¬ (close result).RequestsDisconnect := by
  simp [RequestsDisconnect]

/-- The event was stored, and the firewall was left alone. -/
structure Stored (s : SharedTunnelStateValues) (event : EventResult) (s' : SharedTunnelStateValues) :
    Prop where
  firewall : s'.firewall = s.firewall
  settings : s'.settings = s.settings.update event
  resets : s'.resets = s.resets
  calls : s.calls <:+ s'.calls

variable {env : Environment} {s s₁ s' : SharedTunnelStateValues} {event : EventResult}

theorem Stored.policy (h : Stored s event s') : s'.firewall.policy = s.firewall.policy :=
  congrArg FirewallStatus.policy h.firewall

theorem Stored.frame (h : Stored s event s₁) (h' : Frame s₁ s') : Stored s event s' :=
  ⟨h'.firewall.trans h.firewall, h'.settings.trans h.settings, h'.resets.trans h.resets, h.calls.trans h'.calls⟩

theorem Stored.of_frame (h : Frame s s') (hevent : s.settings.update event = s.settings) :
    Stored s event s' :=
  ⟨h.firewall, h.settings.trans hevent.symm, h.resets, h.calls⟩

theorem Stored.set (hfirewall : s'.firewall = s.firewall) (hcalls : s'.calls = s.calls)
    (hsettings : s'.settings = s.settings.update event) : Stored s event s' :=
  ⟨hfirewall, hsettings, congrArg (List.countP SystemCall.isReset) hcalls, hcalls ▸ List.suffix_refl _⟩

theorem setAllowLan_eq (s : SharedTunnelStateValues) (allowLan : Bool) :
    s.setAllowLan allowLan = (decide (s.allowLan ≠ allowLan), { s with allowLan }) := by
  unfold setAllowLan
  split_ifs with h
  · simp [h]
  · obtain rfl := not_not.mp h
    simp

theorem setDnsConfig_eq (s : SharedTunnelStateValues) (dnsConfig : DnsConfig) :
    s.setDnsConfig dnsConfig = (decide (s.dnsConfig ≠ dnsConfig), { s with dnsConfig }) := by
  unfold setDnsConfig
  split_ifs with h
  · simp [h]
  · obtain rfl := not_not.mp h
    simp

open DisconnectingState (storeCommand)

section Commands

variable (env : Environment) (command : Option TunnelCommand) (s : SharedTunnelStateValues)

theorem storeCommand_stored : Stored s (.command command) (storeCommand env s command) := by
  match command with
  | some (.allowLan _) | some (.dns _) =>
    simp only [storeCommand, setAllowLan_eq, setDnsConfig_eq]
    exact .set rfl rfl rfl
  | some (.allowEndpoint _) | some (.lockdownMode _) | some (.connectivity _) =>
    exact .set rfl rfl rfl
  | some (.bypassSocket _) => exact .of_frame (.record s rfl) rfl
  | some (.setExcludedApps paths) => exact .of_frame (storeExcludedApps_frame env s paths) rfl
  | some .connect | some .disconnect | some (.block _) | none => exact .of_frame (.refl s) rfl

/-- The states with a tunnel take in the applications alike: the state is kept, the policy is applied again or
the tunnel is given up. -/
theorem setExcludedApps_cases {α : Type} (paths : List String) (keep reset : SharedTunnelStateValues → α)
    (leave : AfterDisconnect → SharedTunnelStateValues → α) {result : α}
    (hresult : result = match env.os with
      | .windows => keep (s.excludePaths paths)
      | .android =>
        if (s.setExcludedPaths paths).1 = true then leave (.reconnect 0) (s.setExcludedPaths paths).2
        else keep (s.setExcludedPaths paths).2
      | .macos =>
        match s.setExcludePaths env paths with
        | (.ok changed, s) => if changed = true then reset s else keep s
        | (.error error, s) => leave (.block error.cause) s
      | .linux => keep s) :
    result = keep (s.storeExcludedApps env paths) ∨ result = reset (s.storeExcludedApps env paths) ∨
      ∃ after, result = leave after (s.storeExcludedApps env paths) ∧ after ≠ .nothing := by
  subst hresult
  unfold storeExcludedApps
  cases env.os with
  | windows | linux => exact .inl rfl
  | android =>
    dsimp only
    split
    · exact .inr (.inr ⟨_, rfl, nofun⟩)
    · exact .inl rfl
  | macos =>
    dsimp only
    rcases s.setExcludePaths env paths with ⟨error | changed, s₁⟩
    · exact .inr (.inr ⟨_, rfl, nofun⟩)
    · cases changed with
      | true => exact .inr (.inl rfl)
      | false => exact .inl rfl

variable (hevent : event = .command command) (hs₁ : s₁ = storeCommand env s command)

include hevent hs₁

/-- Once a command is stored, the connecting state goes on, applies its policy again or disconnects. -/
theorem ConnectingState.handleCommands_cases (state : ConnectingState) :
    (handleCommands env state command s = (.sameState (.connecting state), s₁) ∧
      ¬ event.RequestsDisconnect ∧ (env.os ≠ .android → s₁.blockedPolicy = s.blockedPolicy)) ∨
    (handleCommands env state command s = resetFirewall env state s₁ ∧ ¬ event.RequestsDisconnect) ∨
    ∃ after, handleCommands env state command s = disconnect env state after s₁ ∧
      (after = .nothing ↔ event.RequestsDisconnect) := by
  subst hevent hs₁
  match command with
  | some (.allowLan allowLan) =>
    simp only [handleCommands, storeCommand, setAllowLan_eq, decide_eq_true_eq]
    split_ifs with h
    · exact .inr (.inr ⟨.reconnect 0, rfl, by simp⟩)
    · exact .inr (.inl ⟨rfl, by simp⟩)
    · exact .inl ⟨rfl, by simp, fun _ => by rw [blockedPolicy, ← not_not.mp h]; rfl⟩
  | some (.allowEndpoint endpoint) =>
    simp only [handleCommands, storeCommand]
    split_ifs with h
    · exact .inr (.inl ⟨rfl, by simp⟩)
    · obtain rfl := not_not.mp h
      exact .inl ⟨rfl, by simp, fun _ => rfl⟩
  | some (.dns config) =>
    simp only [handleCommands, storeCommand, setDnsConfig_eq]
    split_ifs
    · exact .inr (.inr ⟨.reconnect 0, rfl, by simp⟩)
    · exact .inl ⟨rfl, by simp, fun _ => rfl⟩
  | some (.connectivity connectivity) =>
    simp only [handleCommands, storeCommand]
    split_ifs
    · exact .inr (.inr ⟨.block .isOffline, rfl, by simp⟩)
    · exact .inl ⟨rfl, by simp, fun _ => rfl⟩
  | some .connect | some .disconnect | some (.block _) | none => exact .inr (.inr ⟨_, rfl, by simp⟩)
  | some (.lockdownMode _) | some (.bypassSocket _) => exact .inl ⟨rfl, by simp, fun _ => rfl⟩
  | some (.setExcludedApps paths) =>
    rcases setExcludedApps_cases env s paths (fun s => (.sameState (.connecting state), s))
      (resetFirewall env state) (disconnect env state) rfl with h | h | ⟨after, h, hafter⟩
    · exact .inl ⟨h, by simp, fun _ => (storeExcludedApps_frame env s paths).blockedPolicy⟩
    · exact .inr (.inl ⟨h, by simp⟩)
    · exact .inr (.inr ⟨after, h, by simp [hafter]⟩)

/-- The connected state can also have to set DNS again. -/
theorem ConnectedState.handleCommands_cases (state : ConnectedState) :
    (handleCommands env state command s = (.sameState (.connected state), s₁) ∧ ¬ event.RequestsDisconnect ∧
      (env.os ≠ .android → s₁.allowLan = s.allowLan ∧ s₁.dnsConfig = s.dnsConfig)) ∨
    ((handleCommands env state command s = resetFirewall env state s₁ ∨
      handleCommands env state command s = resetFirewallAndDns env state s₁) ∧
      ¬ event.RequestsDisconnect) ∨
    ∃ after, handleCommands env state command s = disconnect env state after s₁ ∧
      (after = .nothing ↔ event.RequestsDisconnect) := by
  subst hevent hs₁
  match command with
  | some (.allowLan allowLan) =>
    simp only [handleCommands, storeCommand, setAllowLan_eq, decide_eq_true_eq]
    split_ifs with h
    · exact .inr (.inr ⟨.reconnect 0, rfl, by simp⟩)
    · exact .inr (.inl ⟨.inl rfl, by simp⟩)
    · exact .inl ⟨rfl, by simp, fun _ => ⟨(not_not.mp h).symm, trivial⟩⟩
  | some (.dns config) =>
    simp only [handleCommands, storeCommand, setDnsConfig_eq, decide_eq_true_eq]
    split_ifs with h
    · exact .inr (.inr ⟨.reconnect 0, rfl, by simp⟩)
    · exact .inr (.inl ⟨.inr rfl, by simp⟩)
    · exact .inl ⟨rfl, by simp, fun _ => ⟨trivial, (not_not.mp h).symm⟩⟩
  | some (.connectivity connectivity) =>
    simp only [handleCommands, storeCommand]
    split_ifs
    · exact .inr (.inr ⟨.block .isOffline, rfl, by simp⟩)
    · exact .inl ⟨rfl, by simp, fun _ => ⟨trivial, trivial⟩⟩
  | some .connect | some .disconnect | some (.block _) | none => exact .inr (.inr ⟨_, rfl, by simp⟩)
  | some (.allowEndpoint _) | some (.lockdownMode _) | some (.bypassSocket _) =>
    exact .inl ⟨rfl, by simp, fun _ => ⟨rfl, rfl⟩⟩
  | some (.setExcludedApps paths) =>
    have hsettings := (storeExcludedApps_frame env s paths).settings
    rcases setExcludedApps_cases env s paths (fun s => (.sameState (.connected state), s))
      (resetFirewall env state) (disconnect env state) rfl with h | h | ⟨after, h, hafter⟩
    · exact .inl ⟨h, by simp, fun _ => ⟨congrArg Settings.allowLan hsettings,
        congrArg Settings.dnsConfig hsettings⟩⟩
    · exact .inr (.inl ⟨.inl h, by simp⟩)
    · exact .inr (.inr ⟨after, h, by simp [hafter]⟩)

end Commands

end MullvadVpn.Tunnel
