import MullvadVpn.Tunnel.CheckLog
import MullvadVpn.Tunnel.TunnelCalls

/-!
The connectivity check of NetworkManager over whole runs. Every state but the disconnected one disables
it before it applies a policy. The disconnected state enables it again when it is entered, whether or not
a policy stays in force: with lockdown mode, or if the firewall cannot be reset, one does.
-/

namespace MullvadVpn.Tunnel

open Net Firewall Systems SharedTunnelStateValues TunnelState DisconnectedState
open DisconnectedState (setFirewallPolicy enter_linux enter_kept enter setFirewallPolicy_was setFirewallPolicy_kept)

variable {event : EventResult}

/-- A policy stays in force once the tunnel is closed: the blocked one in lockdown mode, or one that was in
force before and is not replaced or reset because that fails. -/
def PolicyStays (env : Environment) (s : SharedTunnelStateValues) : Prop :=
  if s.lockdownMode.bool = true then
    env.applyPolicy s.clock s.blockedPolicy = none ∨ policyInForce s.calls = true
  else env.resetPolicy s.clock = false ∧ policyInForce s.calls = true

/-- The step enables the check while a policy is in force, or asks for a policy while it is enabled. -/
def Exposes (env : Environment) (s : SharedTunnelStateValues) : TunnelState → EventResult → Prop
  | .disconnected, .command (some (.allowLan allowLan)) =>
    s.lockdownMode.bool = true ∧ s.allowLan ≠ allowLan
  | .disconnected, .command (some (.allowEndpoint endpoint)) =>
    s.lockdownMode.bool = true ∧ s.allowedEndpoint ≠ endpoint
  | .disconnected, .command (some (.lockdownMode mode)) =>
    mode.bool = true ∧ s.lockdownMode.bool = false
  | .error state, event => (error state).Disconnects event ∧
      (policyInForce s.calls = true ∨ s.lockdownMode.bool = true)
  | .disconnecting state, event => (disconnecting state).Disconnects event ∧ PolicyStays env s
  | _, _ => False

/-- What the machine remembers in each state. -/
structure CheckFits (enabled : Bool) (s : SharedTunnelStateValues) (state : TunnelState) : Prop where
  tracks : Tracks enabled s
  disconnected : state = .disconnected → s.connectivityCheckWasEnabled = none
  held : state ≠ .disconnected → s.connectivityCheckWasEnabled.isSome = true ∧ firewallReset s.calls = false

/-- The state that handling an event leads to. The machine finishes as it was disconnected. -/
def nextState : EventConsequence → TunnelState
  | .newState state _ => state
  | .sameState state => state
  | .finished => .disconnected

section Step

variable {env : Environment} {enabled : Bool} {s s' : SharedTunnelStateValues} {state : TunnelState}

theorem checkFits_disconnected (hwas : s.connectivityCheckWasEnabled = none)
    (hcheck : checkEnabled enabled s.calls = enabled) : CheckFits enabled s .disconnected :=
  ⟨(tracks_none hwas).mpr hcheck, fun _ => hwas, fun h => absurd rfl h⟩

theorem policyInForce_setFirewallPolicy (hos : env.os = .linux) :
    policyInForce (setFirewallPolicy env s true).calls = true ↔ PolicyStays env s := by
  simp only [DisconnectedState.setFirewallPolicy_linux hos, PolicyStays, if_true]
  split_ifs with hlocked
  · unfold applyPolicy
    cases happly : env.applyPolicy s.clock s.blockedPolicy <;> simp [hos, policyInForce, record]
  · unfold resetPolicy
    cases hreset : env.resetPolicy s.clock <;> simp [policyInForce, record]

theorem CheckFits.restored (h : CheckFits enabled s state) (hreset : firewallReset s.calls = true) :
    checkEnabled enabled s.calls = enabled := by
  have hstate : state = .disconnected := by
    by_contra hne
    exact Bool.noConfusion (hreset.symm.trans (h.held hne).2)
  exact (tracks_none (h.disconnected hstate)).mp h.tracks

theorem CheckFits.same (h : CheckFits enabled s .disconnected) (hsame : SameCheck s s') :
    CheckFits enabled s' .disconnected :=
  ⟨hsame.tracks h.tracks, fun hstate => hsame.was.trans (h.disconnected hstate), fun hne => absurd rfl hne⟩

theorem CheckFits.stay {exposes : Prop} (h : CheckFits enabled s .disconnected) (hsame : SameCheck s s')
    (hexposes : ¬ exposes) :
    CheckFits enabled s' .disconnected ∧
      (CheckKept enabled s'.calls ↔ CheckKept enabled s.calls ∧ (enabled = true → ¬ exposes)) :=
  ⟨h.same hsame, (hsame.kept enabled).trans (by simp [hexposes])⟩

/-- The firewall policy is set in the disconnected state, where the check is as it was. -/
theorem CheckFits.setFirewallPolicy (hos : env.os = .linux) (h : CheckFits enabled s .disconnected)
    (hsame : SameCheck s s') (shouldReset : Bool) :
    CheckFits enabled (setFirewallPolicy env s' shouldReset) .disconnected ∧
      (CheckKept enabled (setFirewallPolicy env s' shouldReset).calls ↔
        CheckKept enabled s.calls ∧ (enabled = true → ¬ s'.lockdownMode.bool = true)) := by
  have h' := h.same hsame
  have hwas := setFirewallPolicy_was hos s' shouldReset
  obtain ⟨hcheck, hkept⟩ := setFirewallPolicy_kept enabled hos s' shouldReset
  have henabled := (tracks_none (h'.disconnected rfl)).mp h'.tracks
  refine ⟨checkFits_disconnected (hwas.trans (h'.disconnected rfl)) (hcheck.trans henabled), ?_⟩
  rw [hkept, hsame.kept enabled, henabled]
  cases enabled <;> simp

theorem DisconnectedState.handleEvent_kept (hos : env.os = .linux) {command : Option TunnelCommand}
    (hcommand : command ≠ some .connect) (h : CheckFits enabled s .disconnected) :
    CheckFits enabled (handleEvent env command s).2 (nextState (handleEvent env command s).1) ∧
      (CheckKept enabled (handleEvent env command s).2.calls ↔
        CheckKept enabled s.calls ∧ (enabled = true → ¬ Exposes env s .disconnected (.command command))) := by
  match command with
  | some (.allowLan allowLan) =>
    have hsame : SameCheck s { s with allowLan } := .store rfl rfl
    simp only [handleEvent, setAllowLan_eq, decide_eq_true_eq]
    split_ifs with hne
    · obtain ⟨hfits, hkept⟩ := h.setFirewallPolicy hos hsame false
      exact ⟨hfits, hkept.trans (by simp [Exposes, hne])⟩
    · exact h.stay hsame fun hexposes => hne hexposes.2
  | some (.allowEndpoint endpoint) =>
    simp only [handleEvent]
    split_ifs with hne
    · have hsame : SameCheck s { s with allowedEndpoint := endpoint } := .store rfl rfl
      obtain ⟨hfits, hkept⟩ := h.setFirewallPolicy hos hsame false
      exact ⟨hfits, hkept.trans (by simp [Exposes, hne])⟩
    · exact h.stay (.store rfl rfl) fun hexposes => hne hexposes.2
  | some (.lockdownMode mode) =>
    simp only [handleEvent, LockdownMode.eq, beq_iff_eq]
    split_ifs with heq
    · refine h.stay (.store rfl rfl) fun hexposes => ?_
      exact Bool.noConfusion (hexposes.1.symm.trans (heq.symm.trans hexposes.2))
    · have hsame : SameCheck s { s with lockdownMode := mode } := .store rfl rfl
      obtain ⟨hfits, hkept⟩ := h.setFirewallPolicy hos hsame true
      have hexposes : mode.bool = true ↔ mode.bool = true ∧ s.lockdownMode.bool = false := by
        cases hmode : mode.bool <;> simp_all
      simp only [setLockdownMode, hos]
      exact ⟨hfits, hkept.trans (by simp only [Exposes, ← hexposes])⟩
  | some (.dns dnsConfig) =>
    have hsame : SameCheck s { s with dnsConfig } := .store rfl rfl
    simp only [handleEvent, setDnsConfig_eq]
    exact h.stay hsame id
  | some (.connectivity connectivity) =>
    have hsame : SameCheck s { s with connectivity := connectivity } := .store rfl rfl
    exact h.stay hsame id
  | some (.block _) | some .disconnect => exact h.stay (.store rfl rfl) id
  | some .connect => exact absurd rfl hcommand
  | some (.bypassSocket fd) =>
    have hsame : SameCheck s (s.record (.bypassSocket fd)) := .call rfl rfl rfl
    exact h.stay hsame id
  | some (.setExcludedApps paths) =>
    simp only [handleEvent, storeExcludedApps, hos]
    exact h.stay (.store rfl rfl) id
  | none =>
    have hsame : SameCheck s s.dnsReset := .call rfl rfl rfl
    exact h.stay hsame id

theorem not_exposes (hstate : state ≠ .disconnected) (hevent : ¬ state.Disconnects event) :
    ¬ Exposes env s state event := by
  cases state with
  | disconnected => exact absurd rfl hstate
  | connecting _ | connected _ => exact id
  | disconnecting _ | error _ => exact fun h => hevent h.1

theorem TunnelState.Makes.plain_or {call : SystemCall} (h : state.Makes call)
    (hsome : s.connectivityCheckWasEnabled.isSome = true) :
    call.isPlain = true ∨ s.connectivityCheckWasEnabled.isSome = true ∧ call.setsUpConnected = true := by
  cases state with
  | connected _ => exact h.imp_right fun hsets => ⟨hsome, hsets⟩
  | disconnected | connecting _ | disconnecting _ | error _ => exact .inl h

variable {state' : TunnelState}

theorem TunnelState.Keeps.ne_disconnected (h : state.Keeps state') : state' ≠ .disconnected := by
  rintro rfl
  cases state <;> exact h

theorem Respects.step (h : Respects enabled s s')
    (hsome : s'.connectivityCheckWasEnabled.isSome = true) (hreset : firewallReset s'.calls = false)
    (hstate' : state' ≠ .disconnected) (hexposes : ¬ Exposes env s state event) :
    CheckFits enabled s' state' ∧ (CheckKept enabled s'.calls ↔
        CheckKept enabled s.calls ∧ (enabled = true → ¬ Exposes env s state event)) :=
  ⟨⟨h.tracks, fun h => absurd h hstate', fun _ => ⟨hsome, hreset⟩⟩, h.kept.trans (by simp [hexposes])⟩

theorem BringingUp.respects {entered : Entered} (h : BringingUp s entered) (htracks : Tracks enabled s)
    (hsome : s.connectivityCheckWasEnabled.isSome = true) :
    Respects enabled s entered.shared ∧ firewallReset entered.shared.calls = false ∧
      entered.state ≠ .disconnected := by
  cases h with
  | @up _ policy interface config hstate hcalls _ hwas =>
    have hdns : SameCheck (s.record (.applyPolicy policy true)) entered.shared := .call rfl hcalls hwas
    obtain ⟨hrespects, hreset⟩ := htracks.apply_then_respects hsome hdns
    exact ⟨hrespects, hreset, hstate ▸ nofun⟩
  | @policyFailed _ policy hstate hcalls _ hwas =>
    have hclose : SameCheck (s.record (.applyPolicy policy false)) entered.shared := .call rfl hcalls hwas
    obtain ⟨hrespects, hreset⟩ := htracks.apply_then_respects hsome hclose
    exact ⟨hrespects, hreset, hstate ▸ nofun⟩
  | @dnsFailed _ policy interface config hstate hcalls _ hwas =>
    have hdns : SameCheck (s.record (.applyPolicy policy true))
        ((s.record (.applyPolicy policy true)).record (.dnsSet interface config false)) :=
      .call rfl rfl rfl
    have hclose : SameCheck ((s.record (.applyPolicy policy true)).record (.dnsSet interface config false))
        entered.shared := .call rfl hcalls hwas
    obtain ⟨hrespects, hreset⟩ := htracks.apply_then_respects hsome (hdns.trans hclose)
    exact ⟨hrespects, hreset, hstate ▸ nofun⟩

variable {consequence : EventConsequence}

theorem TunnelState.Logged.respects (hos : env.os = .linux)
    (h : CheckFits enabled s state) (hlogged : state.Logged env s event consequence s')
    (hworks : NetworkManagerWorks env enabled s'.calls) : CheckFits enabled s' (nextState consequence) ∧
      (CheckKept enabled s'.calls ↔
        CheckKept enabled s.calls ∧ (enabled = true → ¬ Exposes env s state event)) := by
  cases hlogged with
  | disconnected hcommand => exact handleEvent_kept hos hcommand h
  | @closed waiting _ _ hcloses =>
    obtain ⟨hsome, -⟩ := h.held (fun h => by cases h)
    obtain ⟨hcheck, hkept⟩ := enter_kept hos h.tracks true
    have hwas : (enter env s true).shared.connectivityCheckWasEnabled = none := by
      rw [enter_linux hos, resetConnectivityCheck_was]
    refine ⟨checkFits_disconnected hwas hcheck, hkept.trans ?_⟩
    simp [Exposes, hcloses, hsome, h.tracks.disabled hsome, ← policyInForce_setFirewallPolicy hos]
  | @gaveUp _ _ _ hcloses =>
    obtain ⟨hsome, -⟩ := h.held (fun h => by cases h)
    obtain ⟨hcheck, hkept⟩ := resetConnectivityCheck_kept h.tracks
    have hwas := resetConnectivityCheck_was s
    have hdns : SameCheck s.resetConnectivityCheck s.resetConnectivityCheck.dnsReset := .call rfl rfl rfl
    have htracks := hdns.tracks ((tracks_none hwas).mpr hcheck)
    obtain ⟨hcheck', hkept'⟩ := enter_kept hos htracks true
    have hlockdown : s.resetConnectivityCheck.dnsReset.lockdownMode = s.lockdownMode :=
      congrArg Settings.lockdownMode (resetConnectivityCheck_frame s).settings
    simp only [hos, if_true]
    refine ⟨checkFits_disconnected ?_ hcheck', hkept'.trans ?_⟩
    · rw [enter_linux hos, resetConnectivityCheck_was]
    · rw [hdns.kept enabled, hkept, hdns.check enabled, hcheck, hdns.was, hwas, hlockdown]
      cases enabled <;> simp [Exposes, hcloses, hsome, and_assoc]
  | kept hkeeps hevent hpath =>
    have hstate : state ≠ .disconnected := by
      rintro rfl
      exact hkeeps
    obtain ⟨hsome, hreset⟩ := h.held hstate
    have hrespects := Way.respects hos (fun call hcall => ?_) h.tracks hpath hworks
    · exact hrespects.step (hrespects.held hsome) (hrespects.reset hreset) hkeeps.ne_disconnected
        (not_exposes hstate hevent)
    · exact hcall.plain_or hsome
  | entered hevent hconnect hstarting =>
    have hexposes : ¬ Exposes env s state event := by
      by_cases hstate : state = .disconnected
      · rw [hstate, hconnect hstate]
        exact id
      · exact not_exposes hstate hevent
    have htear := (tearDown_sameCheck env s state).respects h.tracks
    cases hstarting with
    | failed hstate' hpath =>
      obtain ⟨hrespects, hsome, hreset⟩ := hpath.respects hos htear.tracks hworks
      rw [hstate']
      exact (htear.trans hrespects).step hsome hreset (fun h => by cases h) hexposes
    | @started _ s₁ params retryAttempt hstate' hpath hshared =>
      have hstart : SameCheck s₁ (s₁.record (.startTunnel params retryAttempt)) := .call rfl rfl rfl
      rw [hstate', hshared]
      rw [hshared] at hworks
      obtain ⟨hrespects, hsome, hreset⟩ := hpath.respects hos htear.tracks
        (hworks.of_suffix (List.suffix_cons _ _))
      exact ((htear.trans hrespects).trans (hstart.respects hrespects.tracks)).step hsome hreset
        (fun h => by cases h) hexposes
  | @left _ _ _ _ s₁ hpath htunnel =>
    have hstate : state ≠ .disconnected := by
      rcases htunnel with ⟨_, rfl⟩ | ⟨_, rfl⟩ <;> exact fun h => by cases h
    have hclose : SameCheck s₁ ((state.tearDown env s₁).record .closeTunnel) :=
      (tearDown_sameCheck env s₁ state).trans (.call rfl rfl rfl)
    obtain ⟨hsome, hreset⟩ := h.held hstate
    have hrespects := hpath.respects hos (fun _ hcall => hcall.plain_or hsome) h.tracks
      (hworks.of_suffix hclose.calls)
    have hboth := hrespects.trans (hclose.respects hrespects.tracks)
    have hevent : ¬ state.Disconnects event := by
      rcases htunnel with ⟨_, rfl⟩ | ⟨_, rfl⟩ <;> exact id
    exact hboth.step (hboth.held hsome) (hboth.reset hreset) (fun h => by cases h) (not_exposes hstate hevent)
  | @broughtUp tunnel _ entered hup =>
    obtain ⟨hsome, -⟩ := h.held (fun h => by cases h)
    obtain ⟨hrespects, hreset, hstate'⟩ := hup.respects h.tracks hsome
    exact hrespects.step (hrespects.held hsome) hreset hstate' id

theorem TunnelState.Logged.suffix (hmac : env.os ≠ .macos)
    (hlogged : state.Logged env s event consequence s') : s.calls <:+ s'.calls := by
  cases hlogged with
  | disconnected hcommand => exact (handleEvent_calm hmac hcommand s).1.suffix
  | closed _ => exact (enter_calm hmac s true).suffix
  | gaveUp _ =>
    have hreset : CalmBetween s (if env.os = .linux then s.resetConnectivityCheck else s).dnsReset :=
      (CalmBetween.ite (.resetConnectivityCheck s) (.refl s)).trans (.of_cons rfl ⟨rfl, nofun⟩)
    exact (hreset.trans (enter_calm hmac _ true)).suffix
  | kept _ _ hpath => exact hpath.suffix
  | entered _ _ hstarting =>
    have htear := (tearDown_sameCheck env s state).calls
    cases hstarting with
    | failed _ hpath => exact htear.trans (CalmBetween.of_guardedPath hpath).suffix
    | started _ hpath hshared =>
      have hguarded := htear.trans (CalmBetween.of_guardedPath hpath).suffix
      exact hshared ▸ hguarded.trans (List.suffix_cons _ _)
  | left hpath _ =>
    exact (hpath.suffix.trans (tearDown_sameCheck env _ state).calls).trans (List.suffix_cons _ _)
  | broughtUp hup =>
    cases hup with
    | up _ hcalls _ _ | policyFailed _ hcalls _ _ => exact hcalls ▸ List.suffix_append [_, _] s.calls
    | dnsFailed _ hcalls _ _ => exact hcalls ▸ List.suffix_append [_, _, _] s.calls

end Step

namespace TunnelStateMachine

variable {env : Environment} {enabled : Bool} {history : List EventResult} {machine : TunnelStateMachine}

theorem new_checkFits (hos : env.os = .linux) (settings : InitialTunnelState) (connectivity : Connectivity)
    (leftover : Option FirewallPolicy) :
    CheckFits enabled (new env settings connectivity leftover).shared .disconnected ∧
      (CheckKept enabled (new env settings connectivity leftover).shared.calls ↔
        (enabled = true → ¬ settings.lockdownMode.bool = true)) := by
  have htracks : Tracks enabled (initialShared env settings connectivity leftover) := rfl
  obtain ⟨hcheck, hkept⟩ := enter_kept hos htracks settings.resetFirewall
  refine ⟨checkFits_disconnected ?_ hcheck, hkept.trans ?_⟩
  · exact (congrArg connectivityCheckWasEnabled (enter_linux hos ..)).trans (resetConnectivityCheck_was _)
  · have hlockdown : (initialShared env settings connectivity leftover).lockdownMode = settings.lockdownMode :=
      if_neg (by simp [hos])
    rw [hlockdown]
    cases enabled <;> simp [checkKept_nil, initialShared, checkEnabled]

/-- The current state, or the one the machine has finished in. -/
def lastState (machine : TunnelStateMachine) : TunnelState :=
  machine.currentState.getD .disconnected

theorem lastState_advance (machine : TunnelStateMachine) (commandsDone : Bool)
    (consequence : EventConsequence) (shared : SharedTunnelStateValues) :
    (machine.advance commandsDone (consequence, shared)).lastState = nextState consequence ∧
      (machine.advance commandsDone (consequence, shared)).shared = shared := by
  cases consequence <;> exact ⟨rfl, rfl⟩

variable {machine' : TunnelStateMachine}

theorem step_respects (hos : env.os = .linux)
    (hstep : step env machine event = some machine') (h : CheckFits enabled machine.shared machine.lastState)
    (hworks : NetworkManagerWorks env enabled machine'.shared.calls) :
    CheckFits enabled machine'.shared machine'.lastState ∧
      (CheckKept enabled machine'.shared.calls ↔ CheckKept enabled machine.shared.calls ∧
        (enabled = true → ¬ Exposes env machine.shared machine.lastState event)) := by
  obtain ⟨state, consequence, shared, commandsDone, hstate, hlogged, rfl⟩ :=
    step_logged (by simp [hos]) (by simp [hos]) hstep
  obtain ⟨hlast, hshared⟩ := lastState_advance machine commandsDone consequence shared
  have hbefore : machine.lastState = state := by rw [lastState, hstate]; rfl
  rw [hshared] at hworks ⊢
  rw [hbefore] at h ⊢
  rw [hlast]
  exact hlogged.respects hos h hworks

theorem step_suffix (hos : env.os = .linux)
    (hstep : step env machine event = some machine') : machine.shared.calls <:+ machine'.shared.calls := by
  obtain ⟨state, consequence, shared, commandsDone, _, hlogged, rfl⟩ :=
    step_logged (by simp [hos]) (by simp [hos]) hstep
  rw [(lastState_advance machine commandsDone consequence shared).2]
  exact hlogged.suffix (by simp [hos])

theorem run_checkFits (hos : env.os = .linux) (hrun : (system env).Run history machine)
    (hworks : NetworkManagerWorks env enabled machine.shared.calls) :
    CheckFits enabled machine.shared machine.lastState := by
  refine TransitionSystem.Run.invariant
    (I := fun _ machine => NetworkManagerWorks env enabled machine.shared.calls →
      CheckFits enabled machine.shared machine.lastState) ?_ ?_ hrun hworks
  · rintro _ ⟨settings, connectivity, leftover, rfl⟩ _
    exact (new_checkFits hos settings connectivity leftover).1
  · intro history machine event machine' _ ih hstep hworks
    exact (step_respects hos hstep (ih (hworks.of_suffix (step_suffix hos hstep))) hworks).1

/-- The runs of a machine that is started without lockdown mode. -/
def startedUnlocked (env : Environment) : TransitionSystem TunnelStateMachine EventResult where
  Init machine := ∃ settings connectivity leftover, settings.lockdownMode.bool = false ∧
    machine = new env settings connectivity leftover
  step := step env

def NeverExposed (env : Environment) : List EventResult → TunnelStateMachine → Prop :=
  (startedUnlocked env).RunWhere fun _ machine event => ¬ Exposes env machine.shared machine.lastState event

theorem NeverExposed.run (h : NeverExposed env history machine) : (system env).Run history machine := by
  induction h with
  | init hinit =>
    obtain ⟨settings, connectivity, leftover, _, rfl⟩ := hinit
    exact .init ⟨settings, connectivity, leftover, rfl⟩
  | step _ _ hstep ih => exact TransitionSystem.Run.step ih hstep

theorem checkKept_of_neverExposed (hos : env.os = .linux) (h : NeverExposed env history machine)
    (hworks : NetworkManagerWorks env enabled machine.shared.calls) :
    CheckKept enabled machine.shared.calls := by
  induction h with
  | init hinit =>
    obtain ⟨settings, connectivity, leftover, hunlocked, rfl⟩ := hinit
    exact (new_checkFits hos settings connectivity leftover).2.mpr fun _ => by simp [hunlocked]
  | step hrun hexposes hstep ih =>
    have hbefore := hworks.of_suffix (step_suffix hos hstep)
    have hfits := run_checkFits hos (NeverExposed.run hrun) hbefore
    exact (step_respects hos hstep hfits hworks).2.mpr ⟨ih hbefore, fun _ => hexposes⟩

theorem neverExposed_of_checkKept (hos : env.os = .linux) (hrun : (system env).Run history machine)
    (hworks : NetworkManagerWorks env true machine.shared.calls)
    (hkept : CheckKept true machine.shared.calls) : NeverExposed env history machine := by
  induction hrun with
  | init hinit =>
    obtain ⟨settings, connectivity, leftover, rfl⟩ := hinit
    have hunlocked := (new_checkFits hos settings connectivity leftover).2.mp hkept rfl
    exact .init ⟨settings, connectivity, leftover, Bool.eq_false_iff.mpr hunlocked, rfl⟩
  | step hrun _ hstep ih =>
    have hbefore := hworks.of_suffix (step_suffix hos hstep)
    obtain ⟨hkept, hexposes⟩ := (step_respects hos hstep (run_checkFits hos hrun hbefore) hworks).2.mp hkept
    exact .step (ih hbefore hkept) (hexposes rfl) hstep

theorem checkKept_false (hos : env.os = .linux) (hrun : (system env).Run history machine)
    (hworks : NetworkManagerWorks env false machine.shared.calls) : CheckKept false machine.shared.calls := by
  induction hrun with
  | init hinit =>
    obtain ⟨settings, connectivity, leftover, rfl⟩ := hinit
    exact (new_checkFits hos settings connectivity leftover).2.mpr fun h => Bool.noConfusion h
  | step hrun _ hstep ih =>
    have hbefore := hworks.of_suffix (step_suffix hos hstep)
    have hfits := run_checkFits hos hrun hbefore
    exact (step_respects hos hstep hfits hworks).2.mpr ⟨ih hbefore, fun h => Bool.noConfusion h⟩

/-- The connectivity check is respected exactly if it was disabled anyway, or the machine was started
without lockdown mode and no step of the run exposes it to a policy. -/
theorem check_respected_iff (hos : env.os = .linux) (hrun : (system env).Run history machine)
    (hworks : NetworkManagerWorks env enabled machine.shared.calls) :
    CheckRespected enabled machine.shared.calls ↔ (enabled = true → NeverExposed env history machine) := by
  have hrestored := (run_checkFits hos hrun hworks).restored
  constructor
  · rintro ⟨hkept, -⟩ rfl
    exact neverExposed_of_checkKept hos hrun hworks hkept
  · intro h
    cases enabled with
    | true => exact ⟨checkKept_of_neverExposed hos (h rfl) hworks, hrestored⟩
    | false => exact ⟨checkKept_false hos hrun hworks, hrestored⟩

def Environment.withNetworkManager : Environment :=
  { Environment.reliable .linux directRelay with disableConnectivityCheck := fun _ => some true }

theorem check_respected_unlocked :
    ∃ history machine, (system Environment.withNetworkManager).Run history machine ∧
      NetworkManagerWorks Environment.withNetworkManager true machine.shared.calls ∧
      .startTunnel directRelay 0 ∈ machine.shared.calls ∧ machine.currentState = some .disconnected ∧
      CheckRespected true machine.shared.calls := by
  have hinit : NeverExposed Environment.withNetworkManager []
      (new Environment.withNetworkManager (.ofLockdownMode .no) .presumeOnline none) :=
    .init ⟨_, _, _, rfl, rfl⟩
  have hconnect := hinit.step (e := .command (some .connect)) id rfl
  have hdisconnect := hconnect.step (e := .command (some .disconnect)) id rfl
  have hclose := hdisconnect.step (e := .close (.ok none))
    (fun h => Bool.noConfusion (show true = false ∧ _ from h.2).1) rfl
  have hrun := NeverExposed.run hclose
  refine ⟨_, _, hrun, by decide, by decide, rfl, ?_⟩
  exact (check_respected_iff rfl hrun (by decide)).mpr fun _ => hclose

/-- Lockdown mode is turned on while a tunnel starts; when it has closed, the blocked policy is in force and
the check is enabled. -/
theorem check_enabled_in_lockdown :
    ∃ history machine, (system Environment.withNetworkManager).Run history machine ∧
      NetworkManagerWorks Environment.withNetworkManager true machine.shared.calls ∧
      policyInForce machine.shared.calls = true ∧ checkEnabled true machine.shared.calls = true ∧
      ¬ CheckRespected true machine.shared.calls := by
  have hrun := @run_of_exec Environment.withNetworkManager (.ofLockdownMode .no) .presumeOnline none
    [.command (some .connect), .command (some (.lockdownMode .yes)), .command (some .disconnect),
      .close (.ok none)] _ rfl
  refine ⟨_, _, hrun, by decide, by decide, by decide, fun hrespected => ?_⟩
  exact absurd (hrespected.stays_disabled _ (List.suffix_refl _) (by decide)) (by decide)

end TunnelStateMachine

end MullvadVpn.Tunnel
