import MullvadVpn.Tunnel.Stored

/-!
Which calls are made on the way from one value of the shared values to a later one, on Linux and
Windows. On a path settings change, calls of a given kind are made, and policies are applied the way the
connecting and the error state do it, with the connectivity check disabled before. Entering a state is
described by its path.
-/

namespace MullvadVpn.Tunnel

open Net Firewall SharedTunnelStateValues

/-- Calls that are about neither the firewall, the connectivity check, the routes and the DNS of the
system nor the start of a tunnel, and resets of DNS. -/
def SystemCall.isPlain : SystemCall → Bool
  | applyPolicy _ _ | resetPolicy _ | dnsSet _ _ _ | clearRoutes | startTunnel _ _ |
    disableConnectivityCheck | enableConnectivityCheck => false
  | _ => true

/-- What the connected state sets up. -/
def SystemCall.setsUpConnected : SystemCall → Bool
  | applyPolicy policy _ => policy.isConnected
  | dnsSet _ _ _ => true
  | _ => false

namespace SharedTunnelStateValues

/-- The connectivity check is disabled before a policy is applied, on Linux. -/
def prepared (env : Environment) (s : SharedTunnelStateValues) : SharedTunnelStateValues :=
  if env.os = .linux then s.disableConnectivityCheck env else s

/-- From `s` to a later value, with calls in `P` and policies other than connected ones. -/
inductive Way (env : Environment) (P : SystemCall → Prop) (s : SharedTunnelStateValues) :
    SharedTunnelStateValues → Prop
  | refl : Way env P s s
  | store {s₁ s₂} : Way env P s s₁ → s₂.calls = s₁.calls →
      s₂.connectivityCheckWasEnabled = s₁.connectivityCheckWasEnabled → Way env P s s₂
  | call {s₁ s₂ call} : Way env P s s₁ → P call → s₂.calls = call :: s₁.calls →
      s₂.connectivityCheckWasEnabled = s₁.connectivityCheckWasEnabled → Way env P s s₂
  | apply {s₁ policy} : Way env P s s₁ → policy.isConnected = false →
      Way env P s ((s₁.prepared env).applyPolicy env policy).2

inductive OnPath (P : SystemCall → Prop) : SystemCall → Prop
  | call {call : SystemCall} : P call → OnPath P call
  | disable : OnPath P .disableConnectivityCheck
  | apply {policy : FirewallPolicy} {ok : Bool} : policy.isConnected = false → OnPath P (.applyPolicy policy ok)

abbrev PlainPath (env : Environment) : SharedTunnelStateValues → SharedTunnelStateValues → Prop :=
  Way env fun call => call.isPlain = true

/-- A path of plain calls on which a policy is applied. -/
def GuardedPath (env : Environment) (s s' : SharedTunnelStateValues) : Prop :=
  ∃ s₁ policy, PlainPath env s s₁ ∧ policy.isConnected = false ∧
    PlainPath env ((s₁.prepared env).applyPolicy env policy).2 s'

variable {env : Environment} {P : SystemCall → Prop} {s s₁ s' : SharedTunnelStateValues}

namespace Way

theorem trans (h : Way env P s s₁) (h' : Way env P s₁ s') : Way env P s s' := by
  induction h' with
  | refl => exact h
  | store _ hcalls hcheck ih => exact .store ih hcalls hcheck
  | call _ hcall hcalls hcheck ih => exact .call ih hcall hcalls hcheck
  | apply _ hpolicy ih => exact .apply ih hpolicy

theorem record {call} (h : Way env P s s₁) (hcall : P call) : Way env P s (s₁.record call) :=
  .call h hcall rfl rfl

theorem ite {c : Prop} [Decidable c] {s₂} (h : Way env P s s₁)
    (h' : Way env P s s₂) : Way env P s (if c then s₁ else s₂) := by
  split
  · exact h
  · exact h'

end Way

theorem GuardedPath.of_path (h : PlainPath env s s₁) (h' : GuardedPath env s₁ s') : GuardedPath env s s' := by
  obtain ⟨s₂, policy, hbefore, hpolicy, hafter⟩ := h'
  exact ⟨s₂, policy, h.trans hbefore, hpolicy, hafter⟩

theorem GuardedPath.path (h : GuardedPath env s s₁) (h' : PlainPath env s₁ s') : GuardedPath env s s' := by
  obtain ⟨s₂, policy, hbefore, hpolicy, hafter⟩ := h
  exact ⟨s₂, policy, hbefore, hpolicy, hafter.trans h'⟩

theorem applyPolicy_check (env : Environment) (s : SharedTunnelStateValues) (policy : FirewallPolicy) :
    (s.applyPolicy env policy).2.connectivityCheckWasEnabled = s.connectivityCheckWasEnabled := by
  unfold applyPolicy
  split_ifs
  · rfl
  · split <;> rfl

theorem applyPolicy_calls (env : Environment) (s : SharedTunnelStateValues) (policy : FirewallPolicy) :
    ((s.applyPolicy env policy).1 = .ok () ∧
      (s.applyPolicy env policy).2.calls = .applyPolicy policy true :: s.calls) ∨
    ∃ error, (s.applyPolicy env policy).1 = .error error ∧
      (s.applyPolicy env policy).2.calls = .applyPolicy policy false :: s.calls := by
  unfold applyPolicy
  split_ifs
  · exact .inl ⟨rfl, rfl⟩
  · split
    · exact .inl ⟨rfl, rfl⟩
    · exact .inr ⟨_, rfl, rfl⟩

theorem prepared_calls (env : Environment) (s : SharedTunnelStateValues) :
    (s.prepared env).calls = s.calls ∨ (s.prepared env).calls = .disableConnectivityCheck :: s.calls := by
  unfold prepared disableConnectivityCheck
  split_ifs
  · exact .inr rfl
  · exact .inl rfl
  · exact .inl rfl

/-- The calls on a path are of the given kind, or belong to an application of a policy. -/
theorem Way.calls (h : Way env P s s') :
    ∃ newer, s'.calls = newer ++ s.calls ∧ ∀ call ∈ newer, OnPath P call := by
  induction h with
  | refl => exact ⟨[], rfl, List.forall_mem_nil _⟩
  | store _ hcalls _ ih =>
    obtain ⟨newer, hnewer, hkinds⟩ := ih
    exact ⟨newer, hcalls.trans hnewer, hkinds⟩
  | call _ hcall hcalls _ ih =>
    obtain ⟨newer, hnewer, hkinds⟩ := ih
    exact ⟨_ :: newer, by rw [hcalls, hnewer]; rfl, List.forall_mem_cons.mpr ⟨.call hcall, hkinds⟩⟩
  | @apply s₁ policy _ hpolicy ih =>
    obtain ⟨newer, hnewer, hkinds⟩ := ih
    obtain ⟨ok, happlied⟩ : ∃ ok, ((s₁.prepared env).applyPolicy env policy).2.calls =
        .applyPolicy policy ok :: (s₁.prepared env).calls := by
      rcases applyPolicy_calls env (s₁.prepared env) policy with ⟨_, hcalls⟩ | ⟨_, _, hcalls⟩
      · exact ⟨true, hcalls⟩
      · exact ⟨false, hcalls⟩
    have hkind : OnPath P (.applyPolicy policy ok) := .apply hpolicy
    rcases prepared_calls env s₁ with hprepared | hprepared
    · refine ⟨.applyPolicy policy ok :: newer, ?_, List.forall_mem_cons.mpr ⟨hkind, hkinds⟩⟩
      rw [happlied, hprepared, hnewer]
      rfl
    · refine ⟨.applyPolicy policy ok :: .disableConnectivityCheck :: newer, ?_,
        List.forall_mem_cons.mpr ⟨hkind, List.forall_mem_cons.mpr ⟨.disable, hkinds⟩⟩⟩
      rw [happlied, hprepared, hnewer]
      rfl

theorem Way.suffix (h : Way env P s s') : s.calls <:+ s'.calls := by
  obtain ⟨newer, hcalls, _⟩ := h.calls
  exact ⟨newer, hcalls.symm⟩

theorem storeCommand_path (hmac : env.os ≠ .macos) (hP : ∀ call, call.isPlain = true → P call)
    (command : Option TunnelCommand) : Way env P s (DisconnectingState.storeCommand env s command) := by
  match command with
  | some (.allowLan _) | some (.dns _) =>
    simp only [DisconnectingState.storeCommand, setAllowLan_eq, setDnsConfig_eq]
    exact .store .refl rfl rfl
  | some (.allowEndpoint _) | some (.lockdownMode _) | some (.connectivity _) =>
    exact .store .refl rfl rfl
  | some (.bypassSocket _) => exact Way.refl.record (hP _ rfl)
  | some (.setExcludedApps paths) =>
    simp only [DisconnectingState.storeCommand, storeExcludedApps]
    split
    next => exact Way.refl.record (hP _ rfl)
    next =>
      unfold setExcludedPaths
      split
      · exact .store .refl rfl rfl
      · exact .refl
    next hos => exact absurd hos hmac
    next => exact .refl
  | some .connect | some .disconnect | some (.block _) | none => exact .refl

end SharedTunnelStateValues

variable {env : Environment} {s s₁ s' : SharedTunnelStateValues}

/-- What entering the connecting state can end in. -/
inductive Starting (env : Environment) (s : SharedTunnelStateValues) (entered : Entered) : Prop
  | failed {cause} : entered.state = .error cause → GuardedPath env s entered.shared → Starting env s entered
  | started {state s₁ params} {retryAttempt} : entered.state = .connecting state → GuardedPath env s s₁ →
      entered.shared = s₁.record (.startTunnel params retryAttempt) → Starting env s entered

theorem Starting.of_path {entered} (h : PlainPath env s s₁) (h' : Starting env s₁ entered) :
    Starting env s entered := by
  cases h' with
  | failed hstate hpath => exact .failed hstate (hpath.of_path h)
  | started hstate hpath hshared => exact .started hstate (hpath.of_path h) hshared

/-- What entering the connected state can end in: the policy and DNS are set, or one of them fails and
the tunnel is closed. -/
inductive BringingUp (s : SharedTunnelStateValues) (entered : Entered) : Prop
  | up {state policy interface} {config} : entered.state = .connected state →
      entered.shared.calls = .dnsSet interface config true :: .applyPolicy policy true :: s.calls →
      policy.isConnected = true →
      entered.shared.connectivityCheckWasEnabled = s.connectivityCheckWasEnabled → BringingUp s entered
  | policyFailed {state policy} : entered.state = .disconnecting state →
      entered.shared.calls = .closeTunnel :: .applyPolicy policy false :: s.calls →
      policy.isConnected = true →
      entered.shared.connectivityCheckWasEnabled = s.connectivityCheckWasEnabled → BringingUp s entered
  | dnsFailed {state policy interface} {config} : entered.state = .disconnecting state → entered.shared.calls =
        .closeTunnel :: .dnsSet interface config false :: .applyPolicy policy true :: s.calls →
      policy.isConnected = true →
      entered.shared.connectivityCheckWasEnabled = s.connectivityCheckWasEnabled → BringingUp s entered

section Enter

variable (hmac : env.os ≠ .macos) (hand : env.os ≠ .android)

theorem ErrorState.setFirewallPolicy_path {P} (env : Environment)
    (h : Way env P s s₁) : Way env P s (setFirewallPolicy env s₁).2 :=
  .apply h rfl

theorem ConnectingState.setFirewallPolicy_path {P} (env : Environment)
    (h : Way env P s s₁) (params : TunnelParameters) (metadata : Option TunnelMetadata)
    (traffic : AllowedTunnelTraffic) : Way env P s (setFirewallPolicy env s₁ params metadata traffic).2 :=
  .apply h rfl

include hmac hand

variable (s : SharedTunnelStateValues)

theorem ErrorState.enter_guarded (cause : ErrorStateCause) :
    GuardedPath env s (enter env s cause).shared := by
  have hwindows : PlainPath env s (if env.os = .windows then (s.setTunnelAddresses env none).2 else s) :=
    .ite (Way.refl.record rfl) .refl
  unfold enter enterBlocking
  simp only [hmac, hand, false_and, if_false]
  exact ⟨_, _, hwindows, rfl, .refl⟩

theorem ErrorState.enter_starting (cause : ErrorStateCause) : Starting env s (enter env s cause) := by
  obtain ⟨_, hstate⟩ := (enter_entering env s cause).state
  exact .failed hstate (enter_guarded hmac hand s cause)

theorem ConnectingState.enterWith_starting (retryAttempt : UInt32)
    (params : TunnelParameters) : Starting env s (enterWith env s retryAttempt params) := by
  have hpolicy : GuardedPath env s (setFirewallPolicy env s params none .none).2 :=
    ⟨s, _, .refl, rfl, .refl⟩
  unfold enterWith
  generalize setFirewallPolicy env s params none .none = result at hpolicy
  obtain ⟨result, s₁⟩ := result
  cases result with
  | ok _ =>
    simp only [hand, if_false]
    exact .started rfl hpolicy rfl
  | error error =>
    obtain ⟨_, hstate⟩ := (ErrorState.enter_entering env s₁ (.setFirewallPolicyError error)).state
    have hblocked := ErrorState.enter_guarded hmac hand s₁ (.setFirewallPolicyError error)
    obtain ⟨s₂, policy, hbefore, hconnected, hafter⟩ := hblocked
    exact .failed hstate (hpolicy.path (hbefore.apply hconnected |>.trans hafter))

theorem ConnectingState.enter_starting (retryAttempt : UInt32) :
    Starting env s (enter env s retryAttempt) := by
  unfold enter
  simp only [hmac, false_and, if_false]
  split
  · exact ErrorState.enter_starting hmac hand s _
  · have hgenerated : PlainPath env s (s.record (.generateParameters retryAttempt)) := Way.refl.record rfl
    split
    · exact (ErrorState.enter_starting hmac hand _ _).of_path hgenerated
    · have haddresses := hgenerated.trans
        (Way.refl.record (rfl : SystemCall.isPlain (.splitTunnelSetAddresses none
          (env.splitTunnelSetAddresses (s.record (.generateParameters retryAttempt)).clock)) = true))
      split_ifs
      · exact (enterWith_starting hmac hand _ _ _).of_path haddresses
      · exact (ErrorState.enter_starting hmac hand _ _).of_path haddresses
      · exact (enterWith_starting hmac hand _ _ _).of_path hgenerated

omit hand in
theorem ConnectedState.enter_bringingUp (metadata : TunnelMetadata) (params : TunnelParameters)
    (close : TunnelCloseEvent) : BringingUp s (enter env s metadata params close) := by
  have hcheck := applyPolicy_check env s (getFirewallPolicy env ⟨metadata, params, close⟩ s)
  have hcalls := applyPolicy_calls env s (getFirewallPolicy env ⟨metadata, params, close⟩ s)
  unfold enter setFirewallPolicy
  dsimp only
  generalize s.applyPolicy env _ = applied at hcheck hcalls
  obtain ⟨result, s₁⟩ := applied
  rcases hcalls with ⟨rfl, hcalls⟩ | ⟨error, rfl, hcalls⟩
  · simp only [Except.mapError, setDns, hmac, false_and, if_false]
    generalize hdns : s₁.dnsSet env _ _ = dns
    obtain ⟨ok, s₂⟩ := dns
    obtain ⟨rfl, rfl⟩ := Prod.mk.inj hdns
    cases env.dnsSet s₁.clock with
    | true => exact .up rfl (congrArg (_ :: ·) hcalls) rfl hcheck
    | false => exact .dnsFailed rfl (congrArg (_ :: _ :: ·) hcalls) rfl hcheck
  · exact .policyFailed rfl (congrArg (_ :: ·) hcalls) rfl hcheck

end Enter

end MullvadVpn.Tunnel
