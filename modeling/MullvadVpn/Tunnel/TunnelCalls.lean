import MullvadVpn.Tunnel.Logged

/-!
The calls made for a tunnel, on Linux and Windows: which came since it was started, whether the routes
and DNS were cleaned up after it, and how later calls change that. The calls of the disconnected state
change nothing about it.
-/

namespace MullvadVpn.Tunnel

open Firewall SharedTunnelStateValues SystemCall List

variable {call : SystemCall}

namespace SystemCall

def isStart : SystemCall → Bool
  | startTunnel _ _ => true
  | _ => false

def isDnsSet : SystemCall → Bool
  | dnsSet _ _ _ => true
  | _ => false

def isDnsReset : SystemCall → Bool
  | dnsReset | dnsResetBeforeInterfaceRemoval => true
  | _ => false

def isConnectedPolicy : SystemCall → Bool
  | applyPolicy policy _ => policy.isConnected
  | _ => false

def succeeded : SystemCall → Bool
  | applyPolicy _ ok => ok
  | dnsSet _ _ ok => ok
  | _ => true

/-- Calls that start no tunnel and set up nothing for the connected state. -/
def isNeutral (call : SystemCall) : Bool :=
  !call.isStart && !call.isConnectedPolicy && !call.isDnsSet

theorem isNeutral_iff : call.isNeutral = true ↔
    call.isStart = false ∧ call.isConnectedPolicy = false ∧ call.isDnsSet = false := by
  simp [isNeutral, and_assoc]

/-- Neutral calls other than clearing the routes. -/
def Calm (call : SystemCall) : Prop :=
  call.isNeutral = true ∧ call ≠ clearRoutes

theorem calm_of_isPlain (h : call.isPlain = true) : call.Calm := by
  cases call <;> first | (cases h; done) | exact ⟨rfl, nofun⟩

theorem calm_applyPolicy {policy} (hpolicy : policy.isConnected = false) (ok : Bool) :
    (applyPolicy policy ok).Calm :=
  ⟨isNeutral_iff.mpr ⟨rfl, hpolicy, rfl⟩, nofun⟩

end SystemCall

/-- A tunnel was started. -/
def Started (calls : List SystemCall) : Prop :=
  ∃ call ∈ calls, call.isStart = true

/-- The calls since the last tunnel was started, most recent first. -/
def sinceStart (calls : List SystemCall) : List SystemCall :=
  calls.takeWhile fun call => !call.isStart

/-- The routes were cleared since the last tunnel was started, and DNS was reset since it was last
set. -/
structure CleanedUp (calls : List SystemCall) : Prop where
  routes : .clearRoutes ∈ sinceStart calls
  dns : ∀ call ∈ (sinceStart calls).takeWhile fun call => !call.isDnsReset, call.isDnsSet = false

/-- The first call of a kind for the last tunnel. -/
def firstAttempt (kind : SystemCall → Bool) (calls : List SystemCall) : Option SystemCall :=
  ((sinceStart calls).filter kind).getLast?

/-- The connected state could be entered, if that was tried: the first connected policy and the first
configuration of DNS succeeded. -/
structure Established (calls : List SystemCall) : Prop where
  policy : ∀ call ∈ firstAttempt isConnectedPolicy calls, call.succeeded = true
  dns : ∀ call ∈ firstAttempt isDnsSet calls, call.succeeded = true

section Append

variable {newer calls : List SystemCall} {kind : SystemCall → Bool}

section

variable (h : ∀ call ∈ newer, call.isStart = false)

include h

theorem started_append : Started (newer ++ calls) ↔ Started calls := by
  constructor
  · rintro ⟨call, hcall, hstart⟩
    rcases mem_append.mp hcall with hnewer | hcalls
    · simp [h call hnewer] at hstart
    · exact ⟨call, hcalls, hstart⟩
  · rintro ⟨call, hcall, hstart⟩
    exact ⟨call, mem_append_right _ hcall, hstart⟩

theorem sinceStart_append : sinceStart (newer ++ calls) = newer ++ sinceStart calls :=
  takeWhile_append_of_pos fun call hcall => by simp [h call hcall]

theorem firstAttempt_append (hkind : ∀ call ∈ newer, kind call = false) :
    firstAttempt kind (newer ++ calls) = firstAttempt kind calls := by
  have hnone : newer.filter kind = [] := filter_eq_nil_iff.mpr fun call hcall => by simp [hkind call hcall]
  rw [firstAttempt, sinceStart_append h, filter_append, hnone]
  rfl

theorem firstAttempt_append_of_some
    (hcall : call ∈ firstAttempt kind calls) : call ∈ firstAttempt kind (newer ++ calls) := by
  have hfirst : ((sinceStart calls).filter kind).getLast? = some call := hcall
  change firstAttempt kind (newer ++ calls) = some call
  rw [firstAttempt, sinceStart_append h, filter_append, getLast?_append, hfirst]
  rfl

end

theorem firstAttempt_cons_of_none (hnone : firstAttempt kind calls = none) (hstart : call.isStart = false)
    (hkind : kind call = true) : call ∈ firstAttempt kind (call :: calls) := by
  have hsince : sinceStart (call :: calls) = call :: sinceStart calls :=
    sinceStart_append (forall_mem_singleton.mpr hstart)
  change firstAttempt kind (call :: calls) = some call
  rw [firstAttempt, hsince, filter_cons_of_pos hkind, getLast?_eq_none_iff.mp hnone]
  rfl

theorem mem_takeWhile_append {α : Type*} {p : α → Bool} {x : α} {older : List α} :
    ∀ {newer : List α}, x ∈ (newer ++ older).takeWhile p → x ∈ newer ∨ x ∈ older.takeWhile p
  | [], h => .inr h
  | a :: newer, h => by
    rw [cons_append, takeWhile_cons] at h
    split_ifs at h
    · rcases mem_cons.mp h with rfl | h
      · exact .inl (mem_cons_self ..)
      · exact (mem_takeWhile_append h).imp_left (mem_cons_of_mem _)
    · cases h

end Append

/-- Either everything was cleaned up after a tunnel that could be established, or neither is the
case. -/
def Settled (calls : List SystemCall) : Prop :=
  CleanedUp calls ∧ Established calls ∨ .clearRoutes ∉ sinceStart calls ∧ ¬ Established calls

theorem Settled.cleanedUp_iff {calls} (h : Settled calls) :
    CleanedUp calls ↔ Established calls := by
  rcases h with ⟨hcleaned, hestablished⟩ | ⟨hroutes, hfailed⟩
  · exact ⟨fun _ => hestablished, fun _ => hcleaned⟩
  · exact ⟨fun h => absurd h.routes hroutes, fun h => absurd h hfailed⟩

section Calm

variable {newer calls : List SystemCall}

theorem isStart_of_neutral (h : ∀ call ∈ newer, call.isNeutral = true) :
    ∀ call ∈ newer, call.isStart = false :=
  fun call hcall => (isNeutral_iff.mp (h call hcall)).1

theorem established_append (h : ∀ call ∈ newer, call.isNeutral = true) :
    Established (newer ++ calls) ↔ Established calls := by
  have hpolicy : firstAttempt isConnectedPolicy (newer ++ calls) = firstAttempt isConnectedPolicy calls :=
    firstAttempt_append (isStart_of_neutral h) fun call hcall =>
      (isNeutral_iff.mp (h call hcall)).2.1
  have hdns : firstAttempt isDnsSet (newer ++ calls) = firstAttempt isDnsSet calls :=
    firstAttempt_append (isStart_of_neutral h) fun call hcall =>
      (isNeutral_iff.mp (h call hcall)).2.2
  constructor
  · rintro ⟨h₁, h₂⟩
    exact ⟨hpolicy ▸ h₁, hdns ▸ h₂⟩
  · rintro ⟨h₁, h₂⟩
    exact ⟨hpolicy.symm ▸ h₁, hdns.symm ▸ h₂⟩

theorem CleanedUp.append (hcleaned : CleanedUp calls) (h : ∀ call ∈ newer, call.isNeutral = true) :
    CleanedUp (newer ++ calls) := by
  have hsince : sinceStart (newer ++ calls) = newer ++ sinceStart calls :=
    sinceStart_append (isStart_of_neutral h)
  refine ⟨hsince ▸ mem_append_right _ hcleaned.routes, fun call hcall => ?_⟩
  rw [hsince] at hcall
  rcases mem_takeWhile_append hcall with hnewer | holder
  · exact (isNeutral_iff.mp (h call hnewer)).2.2
  · exact hcleaned.dns call holder

theorem Settled.append (hsettled : Settled calls) (h : ∀ call ∈ newer, call.Calm) :
    Settled (newer ++ calls) := by
  have hneutral : ∀ call ∈ newer, call.isNeutral = true := fun call hcall => (h call hcall).1
  rcases hsettled with ⟨hcleaned, hestablished⟩ | ⟨hroutes, hfailed⟩
  · exact .inl ⟨hcleaned.append hneutral, (established_append hneutral).mpr hestablished⟩
  · refine .inr ⟨?_, mt (established_append hneutral).mp hfailed⟩
    rw [sinceStart_append (isStart_of_neutral hneutral), mem_append]
    rintro (hnewer | holder)
    · exact (h _ hnewer).2 rfl
    · exact hroutes holder

end Calm

/-- Only calm calls are made from `s` to `s'`. -/
def CalmBetween (s s' : SharedTunnelStateValues) : Prop :=
  ∃ newer, s'.calls = newer ++ s.calls ∧ ∀ call ∈ newer, call.Calm

namespace CalmBetween

variable {env : Environment} {s s₁ s' : SharedTunnelStateValues}

theorem refl (s : SharedTunnelStateValues) : CalmBetween s s := ⟨[], rfl, forall_mem_nil _⟩

theorem trans (h : CalmBetween s s₁) (h' : CalmBetween s₁ s') : CalmBetween s s' := by
  obtain ⟨newer, hnewer, hcalm⟩ := h
  obtain ⟨newest, hnewest, hcalm'⟩ := h'
  exact ⟨newest ++ newer, by rw [hnewest, hnewer, append_assoc], forall_mem_append.mpr ⟨hcalm', hcalm⟩⟩

theorem of_cons (h : s'.calls = call :: s.calls) (hcall : call.Calm) : CalmBetween s s' :=
  ⟨[call], h, forall_mem_singleton.mpr hcall⟩

theorem suffix (h : CalmBetween s s') : s.calls <:+ s'.calls := by
  obtain ⟨newer, hcalls, _⟩ := h
  exact ⟨newer, hcalls.symm⟩

theorem ite {c : Prop} [Decidable c] (h : CalmBetween s s₁) (h' : CalmBetween s s') :
    CalmBetween s (if c then s₁ else s') := by
  split
  · exact h
  · exact h'

theorem of_plainPath (h : PlainPath env s s') : CalmBetween s s' := by
  obtain ⟨newer, hnewer, hkinds⟩ := h.calls
  refine ⟨newer, hnewer, fun call hcall => ?_⟩
  cases hkinds call hcall with
  | call hplain => exact calm_of_isPlain hplain
  | disable => exact ⟨rfl, nofun⟩
  | apply hpolicy => exact calm_applyPolicy hpolicy _

theorem of_guardedPath (h : GuardedPath env s s') : CalmBetween s s' := by
  obtain ⟨s₁, policy, hbefore, hpolicy, hafter⟩ := h
  exact of_plainPath ((hbefore.apply hpolicy).trans hafter)

variable (env s)

theorem applyPolicy {policy}
    (hpolicy : policy.isConnected = false) : CalmBetween s (s.applyPolicy env policy).2 := by
  rcases applyPolicy_calls env s policy with ⟨_, hcalls⟩ | ⟨_, _, hcalls⟩
  · exact of_cons hcalls (calm_applyPolicy hpolicy true)
  · exact of_cons hcalls (calm_applyPolicy hpolicy false)

theorem resetPolicy : CalmBetween s (s.resetPolicy env) := by
  unfold SharedTunnelStateValues.resetPolicy
  split_ifs
  all_goals exact of_cons rfl ⟨rfl, nofun⟩

theorem resetConnectivityCheck : CalmBetween s s.resetConnectivityCheck := by
  unfold SharedTunnelStateValues.resetConnectivityCheck
  split_ifs
  · exact of_cons rfl ⟨rfl, nofun⟩
  · exact refl s

end CalmBetween

namespace DisconnectedState

variable {env : Environment}

theorem setFirewallPolicy_calm (env : Environment) (s : SharedTunnelStateValues) (shouldReset : Bool) :
    CalmBetween s (setFirewallPolicy env s shouldReset) := by
  unfold setFirewallPolicy
  split_ifs
  · exact .refl s
  · have hpersisted : CalmBetween s (persisted env s) := ⟨[], persisted_calls env s, forall_mem_nil _⟩
    exact hpersisted.trans (.applyPolicy env _ rfl)
  · exact .resetPolicy env s
  · exact .refl s

theorem registerSplitTunnelAddresses_calm (env : Environment) (s : SharedTunnelStateValues)
    (shouldReset : Bool) : CalmBetween s (registerSplitTunnelAddresses env s shouldReset) := by
  unfold registerSplitTunnelAddresses
  split_ifs
  all_goals exact .of_cons rfl ⟨rfl, nofun⟩

theorem enter_calm (hmac : env.os ≠ .macos) (s : SharedTunnelStateValues) (shouldReset : Bool) :
    CalmBetween s (enter env s shouldReset).shared := by
  have hsplit : CalmBetween s
      (if env.os = .windows then registerSplitTunnelAddresses env s shouldReset else s) :=
    .ite (registerSplitTunnelAddresses_calm env s shouldReset) (.refl s)
  unfold enter
  simp only [hmac, if_false]
  generalize (if env.os = .windows then registerSplitTunnelAddresses env s shouldReset else s) = s₁ at hsplit
  have hpolicy := hsplit.trans (setFirewallPolicy_calm env s₁ shouldReset)
  generalize setFirewallPolicy env s₁ shouldReset = s₂ at hpolicy
  have hcheck : CalmBetween s₂ (if env.os = .linux then s₂.resetConnectivityCheck else s₂) :=
    .ite (.resetConnectivityCheck s₂) (.refl s₂)
  exact (hpolicy.trans hcheck).trans (.ite (.of_cons rfl ⟨rfl, nofun⟩) (.refl _))

/-- The disconnected state stays, until it is told to connect, and makes only calm calls. -/
theorem handleEvent_calm (hmac : env.os ≠ .macos) {command}
    (hcommand : command ≠ some .connect) (s : SharedTunnelStateValues) :
    CalmBetween s (handleEvent env command s).2 ∧ ((handleEvent env command s).1 = .sameState .disconnected ∨
        (handleEvent env command s).1 = .finished ∨
        ∃ transition, (handleEvent env command s).1 = .newState .disconnected transition) := by
  match command with
  | some (.allowLan allowLan) =>
    simp only [handleEvent, setAllowLan_eq]
    exact ⟨.ite (setFirewallPolicy_calm env { s with allowLan } false) (.refl s), .inl trivial⟩
  | some (.allowEndpoint endpoint) =>
    simp only [handleEvent]
    split_ifs
    · exact ⟨setFirewallPolicy_calm env { s with allowedEndpoint := endpoint } false, .inl rfl⟩
    · exact ⟨.refl s, .inl rfl⟩
  | some (.dns config) =>
    simp only [handleEvent, setDnsConfig_eq]
    exact ⟨.refl s, .inl trivial⟩
  | some (.lockdownMode mode) =>
    simp only [handleEvent]
    split_ifs
    · exact ⟨.refl s, .inl rfl⟩
    · have hpolicy := setFirewallPolicy_calm env { s with lockdownMode := mode } true
      simp only [setLockdownMode, hmac, if_false]
      exact ⟨hpolicy.trans (.ite (registerSplitTunnelAddresses_calm env _ true) (.refl _)),
        .inr (.inr ⟨_, rfl⟩)⟩
  | some (.connectivity _) | some (.block _) | some .disconnect => exact ⟨.refl s, .inl rfl⟩
  | some .connect => exact absurd rfl hcommand
  | some (.bypassSocket _) => exact ⟨.of_cons rfl ⟨rfl, fun h => by cases h⟩, .inl rfl⟩
  | some (.setExcludedApps paths) =>
    exact ⟨.of_plainPath (storeCommand_path hmac (fun _ h => h) (some (.setExcludedApps paths))), .inl rfl⟩
  | none => exact ⟨.of_cons rfl ⟨rfl, fun h => by cases h⟩, .inr (.inl rfl)⟩

end DisconnectedState

end MullvadVpn.Tunnel
