import MullvadVpn.Tunnel.Frame

/-!
The effect of every `enter` function, as a relation between the shared values before and what is
entered. Each relation lists the ways the function can end; later proofs use its cases and never
unfold the function.
-/

namespace MullvadVpn.Tunnel

open Net Firewall SharedTunnelStateValues

variable {entered : Entered} {retryAttempt : UInt32}
  {env : Environment} {s s₁ s' : SharedTunnelStateValues}

namespace ErrorState

/-- The error state is entered with the blocked policy in force, or with a block failure and the
policy of before. -/
inductive Entering (env : Environment) (s : SharedTunnelStateValues) : Entered → Prop
  | blocked {s' : SharedTunnelStateValues} (cause : ErrorStateCause) :
      Applied env s s.blockedPolicy s' → Entering env s ⟨.error ⟨cause⟩, .error cause none, s'⟩
  | failed {s' : SharedTunnelStateValues} (cause : ErrorStateCause) (error : FirewallPolicyError) :
      Refused env s s' → Entering env s ⟨.error ⟨cause⟩, .error cause (some error), s'⟩

theorem Entering.of_frame (h : Frame s s₁) (h' : Entering env s₁ entered) : Entering env s entered := by
  cases h' with
  | blocked cause happ => exact .blocked cause (h.blockedPolicy ▸ .of_frame h happ)
  | failed cause error href => exact .failed cause error (.of_frame h href)

theorem Entering.state (h : Entering env s entered) : ∃ cause, entered.state = .error ⟨cause⟩ := by
  cases h with
  | blocked cause _ | failed cause _ _ => exact ⟨cause, rfl⟩

theorem Entering.settings (h : Entering env s entered) : entered.shared.settings = s.settings := by
  cases h with
  | blocked _ happ => exact happ.settings
  | failed _ _ href => exact href.settings

theorem Entering.resets (h : Entering env s entered) : entered.shared.resets = s.resets := by
  cases h with
  | blocked _ happ => exact happ.resets
  | failed _ _ href => exact href.resets

variable (env s)

theorem setFirewallPolicy_sets : Sets env s (· = s.blockedPolicy) (setFirewallPolicy env s) :=
  applyPolicy_sets env _ (.ite (disableConnectivityCheck_frame env s) (.refl s)) rfl

theorem enterBlocking_entering (cause : ErrorStateCause) : Entering env s (enterBlocking env s cause) := by
  unfold enterBlocking
  by_cases hos : env.os = .android
  · have hframe := restartTunnel_frame env s true
    simp only [hos, if_true]
    cases (s.restartTunnel env true).1 with
    | true =>
      exact .blocked cause ⟨fun h => absurd hos h, hframe.persist, hframe.settings, hframe.resets,
        hframe.calls, fun h => absurd hos h⟩
    | false => exact .failed cause .generic ⟨hframe, fun h => absurd hos h⟩
  · simp only [hos, if_false]
    rcases setFirewallPolicy_sets env s with ⟨hok, _, rfl, happ⟩ | ⟨error, herr, href⟩
    · simp only [hok]
      exact .blocked cause happ
    · simp only [herr]
      exact .failed cause error href

theorem enter_entering (cause : ErrorStateCause) : Entering env s (enter env s cause) := by
  unfold enter
  have hframe : Frame s (if env.os = .windows then (s.setTunnelAddresses env none).2 else s) :=
    .ite (setTunnelAddresses_frame env s none) (.refl s)
  generalize (if env.os = .windows then (s.setTunnelAddresses env none).2 else s) = s₁ at hframe
  have hdns := hframe.trans (dnsSetLocal_frame env s₁)
  dsimp only
  split_ifs
  · exact (enterBlocking_entering env _ _).of_frame hdns
  · exact (enterBlocking_entering env _ _).of_frame hdns
  · exact (enterBlocking_entering env _ _).of_frame hframe

end ErrorState

namespace DisconnectedState

/-- The shared values with the persist flag that the lockdown mode asks for. -/
def persisted (env : Environment) (s : SharedTunnelStateValues) : SharedTunnelStateValues :=
  s.persistFirewall env (s.lockdownMode.shouldPersist env.os)

section

variable (env s)

@[simp] theorem persisted_policy : (persisted env s).firewall.policy = s.firewall.policy := by
  rw [persisted, persistFirewall_eq]

@[simp] theorem persisted_settings : (persisted env s).settings = s.settings := by
  rw [persisted, persistFirewall_eq]
  rfl

@[simp] theorem persisted_calls : (persisted env s).calls = s.calls := by
  rw [persisted, persistFirewall_eq]

@[simp] theorem persisted_resets : (persisted env s).resets = s.resets := by
  simp [SharedTunnelStateValues.resets]

theorem persisted_blockedPolicy : (persisted env s).blockedPolicy = s.blockedPolicy := by
  rw [persisted, persistFirewall_eq]
  rfl

end

theorem persisted_persist (hos : env.os = .windows) (s : SharedTunnelStateValues) :
    (persisted env s).firewall.persist = s.lockdownMode.shouldPersist .windows := by
  rw [persisted, persistFirewall_eq]
  simp [hos]

theorem persisted_refused (h : Refused env (persisted env s) s') :
    s'.firewall.policy = s.firewall.policy ∧ (env.os ≠ .android → FailureBetween s s') :=
  ⟨h.policy.trans (persisted_policy env s), fun hos => (h.failure hos).widen (by simp) (List.suffix_refl _)⟩

theorem persisted_frame (h : Frame s s₁) : Frame (persisted env s) (persisted env s₁) := by
  have hmode : s₁.lockdownMode = s.lockdownMode := congrArg Settings.lockdownMode h.settings
  refine ⟨?_, by simp [h.settings], by simp [h.resets], by simpa using h.calls⟩
  rw [persisted, persisted, persistFirewall_eq, persistFirewall_eq, h.firewall, hmode]

/-- What `set_firewall_policy` of the disconnected state can do. -/
inductive FirewallEffect (env : Environment) (s : SharedTunnelStateValues) (shouldReset : Bool) :
    SharedTunnelStateValues → Prop
  | locked {s' : SharedTunnelStateValues} :
      s.lockdownMode.bool = true → Applied env (persisted env s) s.blockedPolicy s' →
      FirewallEffect env s shouldReset s'
  | lockFailed {s' : SharedTunnelStateValues} :
      s.lockdownMode.bool = true → Refused env (persisted env s) s' → FirewallEffect env s shouldReset s'
  | reset {s' : SharedTunnelStateValues} : s.lockdownMode.bool = false → shouldReset = true → Reset s s' →
      FirewallEffect env s shouldReset s'
  | kept {s' : SharedTunnelStateValues} :
      (env.os = .android ∨ s.lockdownMode.bool = false ∧ shouldReset = false) → Frame s s' →
      FirewallEffect env s shouldReset s'

namespace FirewallEffect

variable {shouldReset : Bool}

theorem of_frame (h : Frame s s₁) (h' : FirewallEffect env s₁ shouldReset s') :
    FirewallEffect env s shouldReset s' := by
  have hmode : s₁.lockdownMode = s.lockdownMode := congrArg Settings.lockdownMode h.settings
  have hpersisted : Frame (persisted env s) (persisted env s₁) := persisted_frame h
  cases h' with
  | locked hlock happ => exact .locked (hmode ▸ hlock) (h.blockedPolicy ▸ .of_frame hpersisted happ)
  | lockFailed hlock href => exact .lockFailed (hmode ▸ hlock) (.of_frame hpersisted href)
  | reset hlock hreset hres => exact .reset (hmode ▸ hlock) hreset (.of_frame h hres)
  | kept hlock hframe => exact .kept (hmode ▸ hlock) (h.trans hframe)

theorem frame (h : FirewallEffect env s shouldReset s₁) (h' : Frame s₁ s') :
    FirewallEffect env s shouldReset s' := by
  cases h with
  | locked hlock happ => exact .locked hlock (happ.frame h')
  | lockFailed hlock href => exact .lockFailed hlock (href.frame h')
  | reset hlock hreset hres => exact .reset hlock hreset (hres.frame h')
  | kept hlock hframe => exact .kept hlock (hframe.trans h')

section

variable (h : FirewallEffect env s shouldReset s')

include h

theorem settings : s'.settings = s.settings := by
  cases h with
  | locked _ happ => exact happ.settings.trans (persisted_settings env s)
  | lockFailed _ href => exact href.settings.trans (persisted_settings env s)
  | reset _ _ hres => exact hres.settings
  | kept _ hframe => exact hframe.settings

theorem resets (hlock : s.lockdownMode.bool = true) : s'.resets = s.resets := by
  cases h with
  | locked _ happ => exact happ.resets.trans (persisted_resets env s)
  | lockFailed _ href => exact href.resets.trans (persisted_resets env s)
  | reset hoff _ _ => simp [hoff] at hlock
  | kept _ hframe => exact hframe.resets

/-- With lockdown mode on, the blocking policy is applied or the firewall refuses it. -/
theorem of_lockdown (hos : env.os ≠ .android) (hlock : s.lockdownMode.bool = true) :
    Applied env (persisted env s) s.blockedPolicy s' ∨ Refused env (persisted env s) s' := by
  cases h with
  | locked _ happ => exact .inl happ
  | lockFailed _ href => exact .inr href
  | reset hoff _ _ => simp [hoff] at hlock
  | kept hkept _ =>
    rcases hkept with hos' | ⟨hoff, _⟩
    · exact absurd hos' hos
    · simp [hoff] at hlock

theorem persist (hos : env.os = .windows)
    (hlock : s.lockdownMode.bool = true) : s'.firewall.persist = s.lockdownMode.shouldPersist .windows := by
  rcases h.of_lockdown (by simp [hos]) hlock with happ | href
  · exact happ.persist.trans (persisted_persist hos s)
  · exact href.persist.trans (persisted_persist hos s)

end

end FirewallEffect

section

variable (env s)

theorem setFirewallPolicy_effect (shouldReset : Bool) :
    FirewallEffect env s shouldReset (setFirewallPolicy env s shouldReset) := by
  unfold setFirewallPolicy
  split_ifs with hos hlock hreset
  · exact .kept (.inl hos) (.refl s)
  · rcases applyPolicy_cases env (persisted env s) (persisted env s).blockedPolicy with
      ⟨_, happ⟩ | ⟨_, _, href⟩
    · exact .locked hlock (persisted_blockedPolicy env s ▸ happ)
    · exact .lockFailed hlock href
  · exact .reset (by simpa using hlock) hreset (resetPolicy_reset env s)
  · exact .kept (.inr ⟨by simpa using hlock, by simpa using hreset⟩) (.refl s)

theorem registerSplitTunnelAddresses_frame (shouldReset : Bool) :
    Frame s (registerSplitTunnelAddresses env s shouldReset) := by
  unfold registerSplitTunnelAddresses
  exact .ite (.record s rfl) (setTunnelAddresses_frame env s none)

theorem setupLocalDnsConfig_frame : Frame s (setupLocalDnsConfig env s).2 :=
  (Frame.record s rfl).trans (dnsSetLocal_frame env _)

theorem enterDns_frame : Frame s (enterDns env s) := by
  unfold enterDns
  have hreset : Frame s (s.record .splitTunnelReset) := Frame.record s rfl
  exact .ite (hreset.trans (setupLocalDnsConfig_frame env _)) (hreset.trans (.record _ rfl))

end

/-- The disconnected state is entered for sure, and what it reports is the lockdown mode, whatever
became of the firewall. -/
structure Entering (env : Environment) (s : SharedTunnelStateValues) (shouldReset : Bool)
    (entered : Entered) : Prop where
  state : entered.state = .disconnected
  transition : entered.transition = .disconnected s.lockdownMode.bool
  effect : FirewallEffect env s shouldReset entered.shared

theorem Entering.of_frame {shouldReset : Bool} (h : Frame s s₁)
    (h' : Entering env s₁ shouldReset entered) : Entering env s shouldReset entered where
  state := h'.state
  transition := by
    rw [h'.transition, show s₁.lockdownMode = s.lockdownMode from
      congrArg Settings.lockdownMode h.settings]
  effect := h'.effect.of_frame h

theorem constructStateTransition_entering {shouldReset : Bool}
    (h : FirewallEffect env s shouldReset s') :
    Entering env s shouldReset (constructStateTransition s') where
  state := rfl
  transition := by
    rw [constructStateTransition, show s'.lockdownMode = s.lockdownMode from
      congrArg Settings.lockdownMode h.settings]
  effect := h

theorem enter_entering (env : Environment) (s : SharedTunnelStateValues) (shouldReset : Bool) :
    Entering env s shouldReset (enter env s shouldReset) := by
  unfold enter
  dsimp only
  have hdns : Frame s (if env.os = .macos then enterDns env s else s) :=
    .ite (enterDns_frame env s) (.refl s)
  generalize (if env.os = .macos then enterDns env s else s) = s₁ at hdns
  have hsplit : Frame s₁ (if env.os = .windows then registerSplitTunnelAddresses env s₁ shouldReset
      else s₁) :=
    .ite (registerSplitTunnelAddresses_frame env s₁ shouldReset) (.refl s₁)
  generalize (if env.os = .windows then registerSplitTunnelAddresses env s₁ shouldReset
    else s₁) = s₂ at hsplit
  have heffect := (setFirewallPolicy_effect env s₂ shouldReset).of_frame (hdns.trans hsplit)
  generalize setFirewallPolicy env s₂ shouldReset = s₃ at heffect
  have hcheck : Frame s₃ (if env.os = .linux then s₃.resetConnectivityCheck else s₃) :=
    .ite (resetConnectivityCheck_frame s₃) (.refl s₃)
  exact constructStateTransition_entering ((heffect.frame hcheck).frame (.ite (.record _ rfl) (.refl _)))

end DisconnectedState

namespace ConnectingState

/-- A policy of the connecting state for given parameters and settings. -/
def IsPolicy (env : Environment) (s : SharedTunnelStateValues) (params : TunnelParameters)
    (metadata : Option TunnelMetadata) (traffic : AllowedTunnelTraffic) (policy : FirewallPolicy) :
    Prop :=
  ∃ redirect, policy = .connecting (peerEndpoints env params) (exitEndpointIp env params) metadata
    s.allowLan s.allowedEndpoint traffic redirect

theorem IsPolicy.of_frame {params metadata}
    {traffic policy} (h : Frame s s₁)
    (h' : IsPolicy env s₁ params metadata traffic policy) :
    IsPolicy env s params metadata traffic policy := by
  have hs := h.settings
  simp only [settings, Settings.mk.injEq] at hs
  simpa only [IsPolicy, hs] using h'

theorem setFirewallPolicy_sets (env : Environment) (s : SharedTunnelStateValues)
    (params : TunnelParameters) (metadata : Option TunnelMetadata) (traffic : AllowedTunnelTraffic) :
    Sets env s (IsPolicy env s params metadata traffic) (setFirewallPolicy env s params metadata traffic) := by
  have hframe : Frame s (if env.os = .linux then s.disableConnectivityCheck env else s) :=
    .ite (disableConnectivityCheck_frame env s) (.refl s)
  exact applyPolicy_sets env _ hframe (.of_frame hframe ⟨_, rfl⟩)

/-- A connecting state is entered with its policy in force, or the error state is entered. -/
inductive Entering (env : Environment) (s : SharedTunnelStateValues) (retryAttempt : UInt32) :
    Entered → Prop
  | connecting {s' : SharedTunnelStateValues} (params : TunnelParameters) (policy : FirewallPolicy) :
      IsPolicy env s params none .none policy → Applied env s policy s' →
      Entering env s retryAttempt
        ⟨.connecting (startTunnel params retryAttempt), .connecting params.getTunnelEndpoint, s'⟩
  | error {entered : Entered} : ErrorState.Entering env s entered → Entering env s retryAttempt entered

theorem Entering.of_frame (h : Frame s s₁) (h' : Entering env s₁ retryAttempt entered) :
    Entering env s retryAttempt entered := by
  cases h' with
  | connecting params policy hpolicy happ =>
    exact .connecting params policy (hpolicy.of_frame h) (.of_frame h happ)
  | error herr => exact .error (herr.of_frame h)

section

variable (h : Entering env s retryAttempt entered)

include h

theorem Entering.state : (∃ params, entered.state = .connecting (startTunnel params retryAttempt)) ∨
      ∃ cause, entered.state = .error ⟨cause⟩ := by
  cases h with
  | connecting params _ _ _ => exact .inl ⟨params, rfl⟩
  | error herr => exact .inr herr.state

theorem Entering.ne_disconnected : entered.state ≠ .disconnected := by
  rcases h.state with ⟨params, hstate⟩ | ⟨cause, hstate⟩ <;> simp [hstate]

theorem Entering.settings : entered.shared.settings = s.settings := by
  cases h with
  | connecting _ _ _ happ => exact happ.settings
  | error herr => exact herr.settings

theorem Entering.resets : entered.shared.resets = s.resets := by
  cases h with
  | connecting _ _ _ happ => exact happ.resets
  | error herr => exact herr.resets

end

theorem prepareTun_frame (s : SharedTunnelStateValues) (retryAttempt : UInt32) :
    Frame s (prepareTun s retryAttempt) := by
  unfold prepareTun
  have hprepare : Frame s (s.record (.prepareTunConfig false)) := Frame.record s rfl
  exact .ite (hprepare.trans (.record _ rfl)) hprepare

variable (env s)

theorem enterWith_entering (retryAttempt : UInt32)
    (params : TunnelParameters) : Entering env s retryAttempt (enterWith env s retryAttempt params) := by
  unfold enterWith
  rcases setFirewallPolicy_sets env s params none .none with
    ⟨hok, policy, hpolicy, happ⟩ | ⟨error, herr, href⟩
  · simp only [hok]
    refine .connecting params policy hpolicy (happ.frame ?_)
    exact (Frame.ite (prepareTun_frame _ retryAttempt) (Frame.refl _)).trans (Frame.record _ rfl)
  · simp only [herr]
    exact .error ((ErrorState.enter_entering env _ _).of_frame href.toFrame)

theorem enter_entering (retryAttempt : UInt32) : Entering env s retryAttempt (enter env s retryAttempt) := by
  unfold enter
  dsimp only
  have hframe : Frame s (if env.os = .macos ∧ env.localDnsResolver then (s.dnsSetLocal env).2 else s) :=
    .ite (dnsSetLocal_frame env s) (.refl s)
  generalize (if env.os = .macos ∧ env.localDnsResolver then (s.dnsSetLocal env).2 else s) = s₁ at hframe
  have hgen : Frame s (s₁.record (.generateParameters retryAttempt)) := hframe.trans (.record _ rfl)
  have haddr := hgen.trans (setTunnelAddresses_frame env (s₁.record (.generateParameters retryAttempt)) none)
  split
  · refine .error ((ErrorState.enter_entering env _ _).of_frame (hframe.trans ?_))
    exact Frame.ite (Frame.record _ rfl) (Frame.refl _)
  · split
    · exact .error ((ErrorState.enter_entering env _ _).of_frame hgen)
    · split_ifs
      · exact (enterWith_entering env _ retryAttempt _).of_frame haddr
      · exact .error ((ErrorState.enter_entering env _ _).of_frame haddr)
      · exact (enterWith_entering env _ retryAttempt _).of_frame hgen

end ConnectingState

namespace ConnectedState

/-- A policy of the connected state for given settings. -/
def IsPolicy (env : Environment) (s : SharedTunnelStateValues) (state : ConnectedState)
    (policy : FirewallPolicy) : Prop :=
  ∃ redirect, policy = .connected (peerEndpoints env state.tunnelParameters)
    (exitEndpointIp env state.tunnelParameters) state.metadata s.allowLan
    (s.dnsConfig.resolve state.metadata.gateways 53) redirect

variable (env : Environment)

theorem setFirewallPolicy_sets (state : ConnectedState) (s : SharedTunnelStateValues) :
    Sets env s (IsPolicy env s state) (setFirewallPolicy env state s) :=
  applyPolicy_sets env _ (.refl s) ⟨_, rfl⟩

theorem setDns_frame (state : ConnectedState) (s : SharedTunnelStateValues) :
    Frame s (setDns env state s).2 := by
  unfold setDns
  dsimp only
  split_ifs
  · exact .record s rfl
  · exact .record s rfl

theorem resetDns_frame (s : SharedTunnelStateValues) : Frame s (resetDns env s) := by
  unfold resetDns
  exact .ite (.record s rfl) (.record s rfl)

/-- The connected state is entered, or the tunnel is given up: because DNS could not be set, with
the connected policy already in force, or because the firewall refused that policy. -/
inductive Entering (env : Environment) (s : SharedTunnelStateValues) (state : ConnectedState) :
    Entered → Prop
  | connected {s' : SharedTunnelStateValues} (policy : FirewallPolicy) (endpoint : TunnelEndpoint) :
      IsPolicy env s state policy → Applied env s policy s' →
      Entering env s state ⟨.connected state, .connected endpoint, s'⟩
  | dnsFailed {s' : SharedTunnelStateValues} (policy : FirewallPolicy) :
      IsPolicy env s state policy → Applied env s policy s' →
      Entering env s state ⟨.disconnecting ⟨state.tunnelCloseEvent, .block .setDnsError⟩,
        .disconnecting .block, s'⟩
  | refused {s' : SharedTunnelStateValues} (error : FirewallPolicyError) : Refused env s s' →
      Entering env s state ⟨.disconnecting ⟨state.tunnelCloseEvent, .block (.setFirewallPolicyError error)⟩,
          .disconnecting .block, s'⟩

theorem Entering.state {state} (h : Entering env s state entered) :
    entered.state = .connected state ∨
      ∃ cause, entered.state = .disconnecting ⟨state.tunnelCloseEvent, .block cause⟩ := by
  cases h with
  | connected _ _ _ _ => exact .inl rfl
  | dnsFailed _ _ _ | refused error _ => exact .inr ⟨_, rfl⟩

theorem Entering.ne_disconnected {state} (h : Entering env s state entered) :
    entered.state ≠ .disconnected := by
  rcases h.state with hstate | ⟨cause, hstate⟩ <;> simp [hstate]

theorem Entering.settings {state} (h : Entering env s state entered) :
    entered.shared.settings = s.settings := by
  cases h with
  | connected _ _ _ happ | dnsFailed _ _ happ => exact happ.settings
  | refused _ href => exact href.settings

theorem Entering.resets {state} (h : Entering env s state entered) :
    entered.shared.resets = s.resets := by
  cases h with
  | connected _ _ _ happ | dnsFailed _ _ happ => exact happ.resets
  | refused _ href => exact href.resets

theorem enter_entering (s : SharedTunnelStateValues) (state : ConnectedState) :
    Entering env s state (enter env s state.metadata state.tunnelParameters state.tunnelCloseEvent) := by
  unfold enter
  dsimp only
  rcases setFirewallPolicy_sets env state s with ⟨hok, policy, hpolicy, happ⟩ | ⟨error, herr, href⟩
  · simp only [hok]
    have happ := happ.frame (setDns_frame env state _)
    split_ifs
    · exact .connected policy _ hpolicy happ
    · exact .dnsFailed policy hpolicy (happ.frame (.record _ rfl))
  · simp only [herr]
    exact .refused error (href.frame (.record _ rfl))

end ConnectedState

end MullvadVpn.Tunnel
