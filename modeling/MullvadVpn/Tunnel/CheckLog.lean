import MullvadVpn.Tunnel.Logged

/-!
The connectivity check of NetworkManager, on Linux: its setting and the policy in force as the calls of
the machine say, and what the operations on the shared values do to them. The machine remembers the
setting it found when it disables the check.
-/

namespace MullvadVpn.Tunnel

open Firewall SharedTunnelStateValues TunnelState List

/-- The setting of NetworkManager after some calls, most recent first, if it was `enabled` before. -/
def checkEnabled (enabled : Bool) : List SystemCall → Bool
  | [] => enabled
  | .disableConnectivityCheck :: _ => false
  | .enableConnectivityCheck :: _ => true
  | _ :: calls => checkEnabled enabled calls

/-- A policy that was applied is in force. -/
def policyInForce : List SystemCall → Bool
  | [] => false
  | .applyPolicy _ true :: _ => true
  | .resetPolicy true :: _ => false
  | _ :: calls => policyInForce calls

/-- The firewall was reset, and since then no policy was asked for and the check not disabled. -/
def firewallReset : List SystemCall → Bool
  | [] => false
  | .resetPolicy true :: _ => true
  | .applyPolicy _ _ :: _ => false
  | .disableConnectivityCheck :: _ => false
  | _ :: calls => firewallReset calls

/-- NetworkManager answers with its setting whenever the check is disabled. -/
def NetworkManagerWorks (env : Environment) (enabled : Bool) (calls : List SystemCall) : Prop :=
  ∀ older, .disableConnectivityCheck :: older <:+ calls →
    env.disableConnectivityCheck older.length = some (checkEnabled enabled older)

theorem networkManagerWorks_cons {env} {enabled : Bool} {call}
    {calls} :
    NetworkManagerWorks env enabled (call :: calls) ↔ NetworkManagerWorks env enabled calls ∧
      (call = .disableConnectivityCheck →
        env.disableConnectivityCheck calls.length = some (checkEnabled enabled calls)) := by
  constructor
  · intro h
    refine ⟨fun older hsuffix => h older (hsuffix.trans (suffix_cons _ _)), ?_⟩
    rintro rfl
    exact h calls (suffix_refl _)
  · rintro ⟨h, hcall⟩ older hsuffix
    rcases suffix_cons_iff.mp hsuffix with heq | hsuffix
    · obtain ⟨rfl, rfl⟩ := cons.inj heq
      exact hcall rfl
    · exact h older hsuffix

instance NetworkManagerWorks.decidable (env : Environment) (enabled : Bool) :
    ∀ calls, Decidable (NetworkManagerWorks env enabled calls)
  | [] => .isTrue fun _ h => absurd (suffix_nil.mp h) (cons_ne_nil _ _)
  | _ :: calls =>
    have := NetworkManagerWorks.decidable env enabled calls
    decidable_of_iff _ networkManagerWorks_cons.symm

/-- The check is disabled whenever a policy is applied, and while one is in force. -/
structure CheckKept (enabled : Bool) (calls : List SystemCall) : Prop where
  disabled_before : ∀ policy ok older, .applyPolicy policy ok :: older <:+ calls →
    checkEnabled enabled older = false
  stays_disabled : ∀ older, older <:+ calls → policyInForce older = true → checkEnabled enabled older = false

/-- In addition, the setting of before is restored after the firewall was reset. -/
structure CheckRespected (enabled : Bool) (calls : List SystemCall) : Prop extends
    CheckKept enabled calls where
  restored : firewallReset calls = true → checkEnabled enabled calls = enabled

/-- Calls that are about neither the firewall nor the check. -/
def SystemCall.leavesCheck : SystemCall → Bool
  | applyPolicy _ _ | resetPolicy _ | disableConnectivityCheck | enableConnectivityCheck => false
  | _ => true

theorem SystemCall.leavesCheck_of_isPlain {call : SystemCall} (h : call.isPlain = true) :
    call.leavesCheck = true := by
  cases call <;> first | rfl | cases h

section Calls

variable {enabled : Bool} {call : SystemCall} {calls : List SystemCall} {policy : FirewallPolicy} {ok : Bool}

theorem checkEnabled_leave (h : call.leavesCheck = true) :
    checkEnabled enabled (call :: calls) = checkEnabled enabled calls := by
  cases call <;> first | rfl | cases h

theorem policyInForce_leave (h : call.leavesCheck = true) :
    policyInForce (call :: calls) = policyInForce calls := by
  cases call <;> first | rfl | cases h

theorem firewallReset_leave (h : call.leavesCheck = true) :
    firewallReset (call :: calls) = firewallReset calls := by
  cases call <;> first | rfl | cases h

theorem checkKept_nil : CheckKept enabled [] :=
  ⟨fun _ _ _ h => absurd (suffix_nil.mp h) (cons_ne_nil _ _),
    fun _ h hpolicy => by rw [suffix_nil.mp h] at hpolicy; cases hpolicy⟩

theorem checkKept_cons : CheckKept enabled (call :: calls) ↔
    CheckKept enabled calls ∧ (∀ policy ok, call = .applyPolicy policy ok → checkEnabled enabled calls = false) ∧
      (policyInForce (call :: calls) = true → checkEnabled enabled (call :: calls) = false) := by
  constructor
  · rintro ⟨hbefore, hstays⟩
    refine ⟨⟨fun policy ok older h => hbefore policy ok older (h.trans (suffix_cons _ _)),
      fun older h => hstays older (h.trans (suffix_cons _ _))⟩, ?_, ?_⟩
    · rintro policy ok rfl
      exact hbefore policy ok calls (suffix_refl _)
    · exact hstays _ (suffix_refl _)
  · rintro ⟨hkept, happly, hforce⟩
    constructor
    · intro policy ok older h
      rcases suffix_cons_iff.mp h with heq | hsuffix
      · obtain ⟨hcall, rfl⟩ := cons.inj heq
        exact happly policy ok hcall.symm
      · exact hkept.disabled_before policy ok older hsuffix
    · intro older h
      rcases suffix_cons_iff.mp h with rfl | hsuffix
      · exact hforce
      · exact hkept.stays_disabled older hsuffix

theorem checkKept_leave (h : call.leavesCheck = true) :
    CheckKept enabled (call :: calls) ↔ CheckKept enabled calls := by
  rw [checkKept_cons, policyInForce_leave h, checkEnabled_leave h]
  refine ⟨fun hkept => hkept.1, fun hkept => ⟨hkept, ?_, hkept.stays_disabled calls (suffix_refl _)⟩⟩
  rintro policy ok rfl
  cases h

theorem checkKept_apply : CheckKept enabled (.applyPolicy policy ok :: calls) ↔
      CheckKept enabled calls ∧ checkEnabled enabled calls = false := by
  rw [checkKept_cons]
  constructor
  · rintro ⟨hkept, happly, -⟩
    exact ⟨hkept, happly policy ok rfl⟩
  · rintro ⟨hkept, hdisabled⟩
    exact ⟨hkept, fun _ _ _ => hdisabled, fun _ => hdisabled⟩

theorem checkKept_reset : CheckKept enabled (.resetPolicy ok :: calls) ↔ CheckKept enabled calls := by
  rw [checkKept_cons]
  refine ⟨fun hkept => hkept.1, fun hkept => ⟨hkept, fun _ _ h => SystemCall.noConfusion h, fun hforce => ?_⟩⟩
  cases ok with
  | true => cases hforce
  | false => exact hkept.stays_disabled calls (suffix_refl _) hforce

theorem checkKept_disable :
    CheckKept enabled (.disableConnectivityCheck :: calls) ↔ CheckKept enabled calls := by
  rw [checkKept_cons]
  exact ⟨fun hkept => hkept.1, fun hkept => ⟨hkept, fun _ _ h => SystemCall.noConfusion h, fun _ => rfl⟩⟩

theorem checkKept_enable : CheckKept enabled (.enableConnectivityCheck :: calls) ↔
      CheckKept enabled calls ∧ policyInForce calls = false := by
  rw [checkKept_cons]
  constructor
  · rintro ⟨hkept, -, hforce⟩
    exact ⟨hkept, Bool.eq_false_iff.mpr fun h => Bool.noConfusion (hforce h)⟩
  · rintro ⟨hkept, hforce⟩
    refine ⟨hkept, fun _ _ h => SystemCall.noConfusion h, fun h => ?_⟩
    exact Bool.noConfusion (hforce.symm.trans h)

end Calls

/-- The machine remembers the setting it has changed. -/
def Tracks (enabled : Bool) (s : SharedTunnelStateValues) : Prop :=
  match s.connectivityCheckWasEnabled with
  | none => checkEnabled enabled s.calls = enabled
  | some was => was = enabled ∧ checkEnabled enabled s.calls = false

/-- Nothing was done about the firewall and the check. -/
structure SameCheck (s s' : SharedTunnelStateValues) : Prop where
  was : s'.connectivityCheckWasEnabled = s.connectivityCheckWasEnabled
  check : ∀ enabled, checkEnabled enabled s'.calls = checkEnabled enabled s.calls
  inForce : policyInForce s'.calls = policyInForce s.calls
  reset : firewallReset s'.calls = firewallReset s.calls
  kept : ∀ enabled, CheckKept enabled s'.calls ↔ CheckKept enabled s.calls
  calls : s.calls <:+ s'.calls

section Shared

variable {env : Environment} {enabled : Bool} {s s₁ s' : SharedTunnelStateValues}

theorem tracks_none (h : s.connectivityCheckWasEnabled = none) :
    Tracks enabled s ↔ checkEnabled enabled s.calls = enabled := by
  rw [Tracks, h]

theorem tracks_some {was : Bool} (h : s.connectivityCheckWasEnabled = some was) :
    Tracks enabled s ↔ was = enabled ∧ checkEnabled enabled s.calls = false := by
  rw [Tracks, h]

theorem Tracks.disabled (h : Tracks enabled s) (hsome : s.connectivityCheckWasEnabled.isSome = true) :
    checkEnabled enabled s.calls = false := by
  obtain ⟨was, hwas⟩ := Option.isSome_iff_exists.mp hsome
  exact ((tracks_some hwas).mp h).2

theorem Tracks.congr (h : Tracks enabled s)
    (hwas : s'.connectivityCheckWasEnabled = s.connectivityCheckWasEnabled)
    (hcheck : checkEnabled enabled s'.calls = checkEnabled enabled s.calls) : Tracks enabled s' := by
  rw [Tracks, hwas, hcheck]
  exact h

namespace SameCheck

theorem store (hcalls : s'.calls = s.calls)
    (hwas : s'.connectivityCheckWasEnabled = s.connectivityCheckWasEnabled) : SameCheck s s' :=
  ⟨hwas, fun _ => by rw [hcalls], by rw [hcalls], by rw [hcalls], fun _ => by rw [hcalls],
    hcalls ▸ suffix_refl _⟩

theorem call {call} (hcall : call.leavesCheck = true) (hcalls : s'.calls = call :: s.calls)
    (hwas : s'.connectivityCheckWasEnabled = s.connectivityCheckWasEnabled) : SameCheck s s' :=
  ⟨hwas, fun _ => by rw [hcalls, checkEnabled_leave hcall], by rw [hcalls, policyInForce_leave hcall],
    by rw [hcalls, firewallReset_leave hcall], fun _ => by rw [hcalls, checkKept_leave hcall],
    hcalls ▸ suffix_cons _ _⟩

theorem trans (h : SameCheck s s₁) (h' : SameCheck s₁ s') : SameCheck s s' :=
  ⟨h'.was.trans h.was, fun enabled => (h'.check enabled).trans (h.check enabled),
    h'.inForce.trans h.inForce, h'.reset.trans h.reset,
    fun enabled => (h'.kept enabled).trans (h.kept enabled), h.calls.trans h'.calls⟩

theorem ite {c : Prop} [Decidable c] (h : SameCheck s s₁) (h' : SameCheck s s') :
    SameCheck s (if c then s₁ else s') := by
  split
  · exact h
  · exact h'

theorem tracks (h : SameCheck s s') (htracks : Tracks enabled s) : Tracks enabled s' :=
  htracks.congr h.was (h.check enabled)

end SameCheck

theorem resetRoutes_sameCheck (env : Environment) (s : SharedTunnelStateValues) :
    SameCheck s (s.resetRoutes env) := by
  unfold resetRoutes
  have hclear : SameCheck s (s.record .clearRoutes) := .call rfl rfl rfl
  exact .ite (hclear.trans (.call rfl rfl rfl)) hclear

theorem tearDown_sameCheck (env : Environment) (s : SharedTunnelStateValues) (state : TunnelState) :
    SameCheck s (state.tearDown env s) := by
  have hdns : SameCheck s (ConnectedState.resetDns env s) := .ite (.call rfl rfl rfl) (.call rfl rfl rfl)
  cases state with
  | connecting _ => exact resetRoutes_sameCheck env s
  | connected _ => exact hdns.trans (resetRoutes_sameCheck env _)
  | disconnected | disconnecting _ | error _ => exact .store rfl rfl

theorem NetworkManagerWorks.of_suffix {older calls}
    (h : NetworkManagerWorks env enabled calls) (hsuffix : older <:+ calls) :
    NetworkManagerWorks env enabled older :=
  fun calls hcalls => h calls (hcalls.trans hsuffix)

/-- The machine keeps track, and adds nothing that disturbs the check. -/
structure Respects (enabled : Bool) (s s' : SharedTunnelStateValues) : Prop where
  tracks : Tracks enabled s'
  held : s.connectivityCheckWasEnabled.isSome = true → s'.connectivityCheckWasEnabled.isSome = true
  kept : CheckKept enabled s'.calls ↔ CheckKept enabled s.calls
  reset : firewallReset s.calls = false → firewallReset s'.calls = false

theorem SameCheck.respects (h : SameCheck s s') (htracks : Tracks enabled s) : Respects enabled s s' :=
  ⟨h.tracks htracks, fun hsome => h.was ▸ hsome, h.kept enabled, fun hreset => h.reset.trans hreset⟩

theorem Respects.trans (h : Respects enabled s s₁) (h' : Respects enabled s₁ s') : Respects enabled s s' :=
  ⟨h'.tracks, fun hsome => h'.held (h.held hsome), h'.kept.trans h.kept, fun hreset => h'.reset (h.reset hreset)⟩

theorem disableConnectivityCheck_respects (htracks : Tracks enabled s)
    (hworks : NetworkManagerWorks env enabled (s.disableConnectivityCheck env).calls) :
    Respects enabled s (s.disableConnectivityCheck env) ∧
      (s.disableConnectivityCheck env).connectivityCheckWasEnabled.isSome = true := by
  cases hwas : s.connectivityCheckWasEnabled with
  | some was =>
    have hsame : s.disableConnectivityCheck env = s := by
      rw [disableConnectivityCheck, hwas]
      rfl
    rw [hsame, hwas]
    exact ⟨⟨htracks, id, .rfl, id⟩, rfl⟩
  | none =>
    have hrecord : s.disableConnectivityCheck env = { s.record .disableConnectivityCheck with
          connectivityCheckWasEnabled := env.disableConnectivityCheck s.clock } := by
      rw [disableConnectivityCheck, hwas]
      rfl
    rw [hrecord] at hworks ⊢
    have hanswer : env.disableConnectivityCheck s.clock = some (checkEnabled enabled s.calls) :=
      hworks s.calls (suffix_refl _)
    rw [(tracks_none hwas).mp htracks] at hanswer
    refine ⟨⟨(tracks_some hanswer).mpr ⟨rfl, rfl⟩, ?_, checkKept_disable, fun _ => rfl⟩, by rw [hanswer]; rfl⟩
    intro hsome
    rw [hwas] at hsome
    cases hsome

theorem Tracks.apply_respects {policy} {ok : Bool} (htracks : Tracks enabled s)
    (hsome : s.connectivityCheckWasEnabled.isSome = true)
    (hcalls : s'.calls = .applyPolicy policy ok :: s.calls)
    (hwas : s'.connectivityCheckWasEnabled = s.connectivityCheckWasEnabled) :
    Respects enabled s s' ∧ firewallReset s'.calls = false := by
  have hkept : CheckKept enabled (.applyPolicy policy ok :: s.calls) ↔ CheckKept enabled s.calls :=
    checkKept_apply.trans (and_iff_left (htracks.disabled hsome))
  have hreset : firewallReset s'.calls = false := by
    rw [hcalls]
    rfl
  have hcheck : checkEnabled enabled s'.calls = checkEnabled enabled s.calls := by
    rw [hcalls]
    rfl
  exact ⟨⟨htracks.congr hwas hcheck, fun h => hwas ▸ h, hcalls ▸ hkept, fun _ => hreset⟩, hreset⟩

theorem Tracks.apply_then_respects {policy} {ok : Bool} (htracks : Tracks enabled s)
    (hsome : s.connectivityCheckWasEnabled.isSome = true)
    (hsame : SameCheck (s.record (.applyPolicy policy ok)) s') :
    Respects enabled s s' ∧ firewallReset s'.calls = false := by
  have hcalls : (s.record (.applyPolicy policy ok)).calls = .applyPolicy policy ok :: s.calls := rfl
  obtain ⟨happly, hreset⟩ := htracks.apply_respects hsome hcalls rfl
  exact ⟨happly.trans (hsame.respects happly.tracks), hsame.reset.trans hreset⟩

theorem prepared_respects (hos : env.os = .linux) (htracks : Tracks enabled s) (policy : FirewallPolicy)
    (hworks : NetworkManagerWorks env enabled ((s.prepared env).applyPolicy env policy).2.calls) :
    Respects enabled s ((s.prepared env).applyPolicy env policy).2 ∧
      ((s.prepared env).applyPolicy env policy).2.connectivityCheckWasEnabled.isSome = true ∧
      firewallReset ((s.prepared env).applyPolicy env policy).2.calls = false := by
  have hprepared : s.prepared env = s.disableConnectivityCheck env := if_pos hos
  rw [hprepared] at hworks ⊢
  have hwas := applyPolicy_check env (s.disableConnectivityCheck env) policy
  obtain ⟨ok, hcalls⟩ : ∃ ok, ((s.disableConnectivityCheck env).applyPolicy env policy).2.calls =
      .applyPolicy policy ok :: (s.disableConnectivityCheck env).calls := by
    rcases applyPolicy_calls env (s.disableConnectivityCheck env) policy with ⟨_, h⟩ | ⟨_, _, h⟩
    · exact ⟨true, h⟩
    · exact ⟨false, h⟩
  have hsuffix : (s.disableConnectivityCheck env).calls <:+
      ((s.disableConnectivityCheck env).applyPolicy env policy).2.calls := hcalls ▸ suffix_cons _ _
  obtain ⟨hdisable, hsome⟩ := disableConnectivityCheck_respects htracks (hworks.of_suffix hsuffix)
  obtain ⟨happly, hreset⟩ := hdisable.tracks.apply_respects hsome hcalls hwas
  exact ⟨hdisable.trans happly, happly.held hsome, hreset⟩

/-- On a path with policies of the connected state, the check has to be disabled before. -/
theorem SharedTunnelStateValues.Way.respects {P} (hos : env.os = .linux)
    (hP : ∀ call, P call → call.isPlain = true ∨
      s.connectivityCheckWasEnabled.isSome = true ∧ call.setsUpConnected = true)
    (htracks : Tracks enabled s) (h : Way env P s s') (hworks : NetworkManagerWorks env enabled s'.calls) :
    Respects enabled s s' := by
  induction h with
  | refl => exact ⟨htracks, id, .rfl, id⟩
  | store _ hcalls hwas ih =>
    have hbefore := ih (hcalls ▸ hworks)
    exact hbefore.trans (SameCheck.store hcalls hwas |>.respects hbefore.tracks)
  | @call s₁ s₂ call _ hcall hcalls hwas ih =>
    have hbefore := ih (hworks.of_suffix (hcalls ▸ suffix_cons _ _))
    refine hbefore.trans ?_
    rcases hP call hcall with hplain | ⟨hsome, hsets⟩
    · exact (SameCheck.call (SystemCall.leavesCheck_of_isPlain hplain) hcalls hwas).respects hbefore.tracks
    · cases call with
      | dnsSet _ _ _ => exact (SameCheck.call rfl hcalls hwas).respects hbefore.tracks
      | applyPolicy policy ok =>
        exact (hbefore.tracks.apply_respects (hbefore.held hsome) hcalls hwas).1
      | _ => cases hsets
  | @apply s₁ policy _ hpolicy ih =>
    have hstep : Way env P s₁ ((s₁.prepared env).applyPolicy env policy).2 := .apply .refl hpolicy
    have hbefore := ih (hworks.of_suffix hstep.suffix)
    exact hbefore.trans (prepared_respects hos hbefore.tracks policy hworks).1

theorem SharedTunnelStateValues.GuardedPath.respects (hos : env.os = .linux) (htracks : Tracks enabled s)
    (h : GuardedPath env s s') (hworks : NetworkManagerWorks env enabled s'.calls) :
    Respects enabled s s' ∧ s'.connectivityCheckWasEnabled.isSome = true ∧ firewallReset s'.calls = false := by
  obtain ⟨s₁, policy, hbefore, hpolicy, hafter⟩ := h
  have hstep : PlainPath env s₁ ((s₁.prepared env).applyPolicy env policy).2 := .apply .refl hpolicy
  have hworks₂ := hworks.of_suffix hafter.suffix
  have h₁ := Way.respects hos (fun _ hplain => .inl hplain) htracks hbefore (hworks₂.of_suffix hstep.suffix)
  obtain ⟨h₂, hsome, hreset⟩ := prepared_respects hos h₁.tracks policy hworks₂
  have h₃ := Way.respects hos (fun _ hplain => .inl hplain) h₂.tracks hafter hworks
  exact ⟨(h₁.trans h₂).trans h₃, h₃.held hsome, h₃.reset hreset⟩

end Shared

namespace DisconnectedState

variable {env : Environment}

/-- What `set_firewall_policy` does on Linux. -/
theorem setFirewallPolicy_linux (hos : env.os = .linux) (s : SharedTunnelStateValues) (shouldReset : Bool) :
    setFirewallPolicy env s shouldReset = if s.lockdownMode.bool then (s.applyPolicy env s.blockedPolicy).2
      else if shouldReset then s.resetPolicy env else s := by
  simp [setFirewallPolicy, persistFirewall, hos, blockedPolicy]

theorem setFirewallPolicy_was (hos : env.os = .linux) (s : SharedTunnelStateValues) (shouldReset : Bool) :
    (setFirewallPolicy env s shouldReset).connectivityCheckWasEnabled = s.connectivityCheckWasEnabled := by
  rw [setFirewallPolicy_linux hos]
  split_ifs
  · exact applyPolicy_check env s _
  · unfold resetPolicy
    split_ifs <;> rfl
  · rfl

theorem setFirewallPolicy_kept (enabled : Bool) (hos : env.os = .linux) (s : SharedTunnelStateValues)
    (shouldReset : Bool) :
    checkEnabled enabled (setFirewallPolicy env s shouldReset).calls = checkEnabled enabled s.calls ∧
      (CheckKept enabled (setFirewallPolicy env s shouldReset).calls ↔
        CheckKept enabled s.calls ∧ (s.lockdownMode.bool = true → checkEnabled enabled s.calls = false)) := by
  rw [setFirewallPolicy_linux hos]
  split_ifs with hlocked hreset
  · rcases applyPolicy_calls env s s.blockedPolicy with ⟨_, hcalls⟩ | ⟨_, _, hcalls⟩
    all_goals
      rw [hcalls, checkKept_apply]
      simp [hlocked, checkEnabled]
  · unfold resetPolicy
    split_ifs
    all_goals exact ⟨rfl, checkKept_reset.trans (by simp [hlocked])⟩
  · simp [hlocked]

end DisconnectedState

section Restore

variable {env : Environment} {enabled : Bool} {s : SharedTunnelStateValues}

theorem resetConnectivityCheck_kept (htracks : Tracks enabled s) :
    checkEnabled enabled s.resetConnectivityCheck.calls = enabled ∧
      (CheckKept enabled s.resetConnectivityCheck.calls ↔ CheckKept enabled s.calls ∧
        (s.connectivityCheckWasEnabled.isSome = true → enabled = true → policyInForce s.calls = false)) := by
  cases hwas : s.connectivityCheckWasEnabled with
  | none =>
    have hcalls : s.resetConnectivityCheck.calls = s.calls := by simp [resetConnectivityCheck, hwas]
    rw [hcalls]
    exact ⟨(tracks_none hwas).mp htracks, by simp⟩
  | some was =>
    obtain ⟨rfl, hdisabled⟩ := (tracks_some hwas).mp htracks
    cases was with
    | true =>
      have hcalls : s.resetConnectivityCheck.calls = .enableConnectivityCheck :: s.calls := by
        simp [resetConnectivityCheck, hwas, record]
      rw [hcalls, checkKept_enable]
      exact ⟨rfl, by simp⟩
    | false =>
      have hcalls : s.resetConnectivityCheck.calls = s.calls := by
        simp [resetConnectivityCheck, hwas]
      rw [hcalls]
      exact ⟨hdisabled, by simp⟩

theorem resetConnectivityCheck_was (s : SharedTunnelStateValues) :
    s.resetConnectivityCheck.connectivityCheckWasEnabled = none := by
  unfold resetConnectivityCheck
  split_ifs <;> rfl

theorem DisconnectedState.enter_linux (hos : env.os = .linux) (s : SharedTunnelStateValues)
    (shouldReset : Bool) :
    (enter env s shouldReset).shared = (setFirewallPolicy env s shouldReset).resetConnectivityCheck := by
  simp [enter, constructStateTransition, hos]

theorem DisconnectedState.enter_kept (hos : env.os = .linux) (htracks : Tracks enabled s)
    (shouldReset : Bool) :
    checkEnabled enabled (enter env s shouldReset).shared.calls = enabled ∧
      (CheckKept enabled (enter env s shouldReset).shared.calls ↔ CheckKept enabled s.calls ∧
        (s.lockdownMode.bool = true → checkEnabled enabled s.calls = false) ∧
        (s.connectivityCheckWasEnabled.isSome = true → enabled = true →
          policyInForce (setFirewallPolicy env s shouldReset).calls = false)) := by
  obtain ⟨hcheck, hkept⟩ := setFirewallPolicy_kept enabled hos s shouldReset
  have hwas := setFirewallPolicy_was hos s shouldReset
  obtain ⟨hrestored, hkept'⟩ := resetConnectivityCheck_kept (htracks.congr hwas hcheck)
  rw [enter_linux hos, hkept', hkept, hwas, and_assoc]
  exact ⟨hrestored, .rfl⟩

end Restore

end MullvadVpn.Tunnel
