import MullvadVpn.Tunnel.TunnelCalls

/-!
Cleaning up between tunnels, on Linux and Windows. The connecting and the connected state clear the
routes, and the connected state resets DNS, when they give up their tunnel. Entering the connected
state may fail after the tunnel is up, and then neither is done.
-/

namespace MullvadVpn.Tunnel

open Net Firewall Systems SharedTunnelStateValues TunnelState List Option DisconnectedState
open SystemCall (calm_of_isPlain closeTunnel dnsSet isConnectedPolicy isDnsSet isNeutral_iff isStart)

/-- Everything is settled, if a tunnel was started at all. -/
def Ready (calls : List SystemCall) : Prop :=
  Started calls → Settled calls

/-- What the calls for the last tunnel look like in each state. -/
def CallsFit (calls : List SystemCall) : TunnelState → Prop
  | .connecting _ => Started calls ∧ ∀ call ∈ sinceStart calls, call.Calm
  | .connected _ => Started calls ∧ (∃ call ∈ firstAttempt isConnectedPolicy calls, call.succeeded = true) ∧
      ∃ call ∈ firstAttempt isDnsSet calls, call.succeeded = true
  | _ => Ready calls

section Settling

variable {calls : List SystemCall}

theorem firstAttempt_eq_none {kind} (h : ∀ call ∈ sinceStart calls, kind call = false) :
    firstAttempt kind calls = none := by
  rw [firstAttempt, getLast?_eq_none_iff, filter_eq_nil_iff]
  exact fun call hcall => by simp [h call hcall]

theorem established_of_neutral (h : ∀ call ∈ sinceStart calls, call.isNeutral = true) :
    Established calls := by
  have hpolicy : firstAttempt isConnectedPolicy calls = none :=
    firstAttempt_eq_none fun call hcall => (isNeutral_iff.mp (h call hcall)).2.1
  have hdns : firstAttempt isDnsSet calls = none :=
    firstAttempt_eq_none fun call hcall => (isNeutral_iff.mp (h call hcall)).2.2
  constructor
  · rw [hpolicy]
    exact fun call hcall => absurd hcall (not_mem_none call)
  · rw [hdns]
    exact fun call hcall => absurd hcall (not_mem_none call)

section

variable (h : ∀ call ∈ sinceStart calls, call.Calm)

include h

theorem settled_of_connecting : Settled (.clearRoutes :: calls) := by
  have hneutral : ∀ call ∈ sinceStart (.clearRoutes :: calls), call.isNeutral = true :=
    forall_mem_cons.mpr ⟨rfl, fun call hcall => (h call hcall).1⟩
  refine .inl ⟨⟨mem_cons_self .., fun call hcall => ?_⟩, established_of_neutral hneutral⟩
  have hmem := (takeWhile_sublist _).subset hcall
  exact (isNeutral_iff.mp (hneutral call hmem)).2.2

theorem firstAttempt_policy {policy} (hpolicy : policy.isConnected = true) (ok : Bool) :
    .applyPolicy policy ok ∈ firstAttempt isConnectedPolicy (.applyPolicy policy ok :: calls) := by
  have hnone : firstAttempt isConnectedPolicy calls = none :=
    firstAttempt_eq_none fun call hcall => (isNeutral_iff.mp (h call hcall).1).2.1
  exact firstAttempt_cons_of_none hnone rfl hpolicy

theorem firstAttempt_dns (policy : FirewallPolicy)
    (interface : String) (config : ResolvedDnsConfig) (ok : Bool) :
    .dnsSet interface config ok ∈ firstAttempt isDnsSet
      (.dnsSet interface config ok :: .applyPolicy policy true :: calls) := by
  have hnone : firstAttempt isDnsSet (.applyPolicy policy true :: calls) = none := by
    refine firstAttempt_eq_none (forall_mem_cons.mpr ⟨rfl, fun call hcall => ?_⟩)
    exact (isNeutral_iff.mp (h call hcall).1).2.2
  exact firstAttempt_cons_of_none hnone rfl rfl

end

theorem settled_of_failed (newer : List SystemCall) (hcalm : ∀ call ∈ sinceStart calls, call.Calm)
    (hstart : ∀ call ∈ newer, call.isStart = false) (hroutes : .clearRoutes ∉ newer)
    (hfailed : ¬ Established (newer ++ calls)) : Settled (newer ++ calls) := by
  refine .inr ⟨?_, hfailed⟩
  rw [sinceStart_append hstart, mem_append]
  rintro (hmem | hmem)
  · exact hroutes hmem
  · exact (hcalm _ hmem).2 rfl

end Settling

section Invariant

variable {env : Environment} {s s' : SharedTunnelStateValues} {state state' : TunnelState}

theorem Ready.calm (h : Ready s.calls) (h' : CalmBetween s s') : Ready s'.calls := by
  obtain ⟨newer, hcalls, hcalm⟩ := h'
  rw [hcalls]
  intro hstarted
  have hstart := isStart_of_neutral fun call hcall => (hcalm call hcall).1
  exact (h ((started_append hstart).mp hstarted)).append hcalm

theorem resetRoutes_calm (env : Environment) (s : SharedTunnelStateValues) :
    CalmBetween (s.record .clearRoutes) (s.resetRoutes env) := by
  unfold resetRoutes
  exact .ite (.of_cons rfl ⟨rfl, nofun⟩) (.refl _)

theorem CallsFit.tearDown (hmac : env.os ≠ .macos) (h : CallsFit s.calls state) :
    Ready (state.tearDown env s).calls := by
  cases state with
  | connecting _ =>
    have hsettled : Settled (s.record .clearRoutes).calls := settled_of_connecting h.2
    exact .calm (fun _ => hsettled) (resetRoutes_calm env s)
  | connected _ =>
    obtain ⟨-, ⟨policy, hpolicy, hpolicyOk⟩, dns, hdns, hdnsOk⟩ := h
    simp only [tearDown, ConnectedState.resetDns, hmac, false_and, if_false]
    have hestablished : Established ([.clearRoutes, .dnsResetBeforeInterfaceRemoval] ++ s.calls) :=
      (established_append (by decide)).mpr ⟨fun call hcall => mem_unique hcall hpolicy ▸ hpolicyOk,
        fun call hcall => mem_unique hcall hdns ▸ hdnsOk⟩
    refine .calm (fun _ => .inl ⟨⟨mem_cons_self .., fun call hcall => ?_⟩, hestablished⟩)
      (resetRoutes_calm env _)
    obtain rfl : call = .clearRoutes := mem_singleton.mp hcall
    rfl
  | disconnected | disconnecting _ | error _ => exact h

theorem CallsFit.path (h : CallsFit s.calls state) (hpath : Way env (fun call => state.Makes call) s s') :
    CallsFit s'.calls state := by
  cases state with
  | connecting _ =>
    obtain ⟨newer, hcalls, hcalm⟩ := CalmBetween.of_plainPath hpath
    have hstart := isStart_of_neutral fun call hcall => (hcalm call hcall).1
    rw [hcalls]
    refine ⟨(started_append hstart).mpr h.1, ?_⟩
    rw [sinceStart_append hstart]
    exact forall_mem_append.mpr ⟨hcalm, h.2⟩
  | connected _ =>
    obtain ⟨newer, hcalls, hkinds⟩ := hpath.calls
    have hstart : ∀ call ∈ newer, call.isStart = false := fun call hcall => by
      cases hkinds call hcall with
      | call hmakes =>
        rcases hmakes with hplain | hsets
        · exact (isNeutral_iff.mp (calm_of_isPlain hplain).1).1
        · cases call <;> first | rfl | cases hsets
      | disable | apply _ => rfl
    obtain ⟨hstarted, ⟨policy, hpolicy, hpolicyOk⟩, dns, hdns, hdnsOk⟩ := h
    rw [hcalls]
    exact ⟨(started_append hstart).mpr hstarted,
      ⟨policy, firstAttempt_append_of_some hstart hpolicy, hpolicyOk⟩,
      dns, firstAttempt_append_of_some hstart hdns, hdnsOk⟩
  | disconnected | disconnecting _ | error _ => exact .calm h (.of_plainPath hpath)

theorem CallsFit.keeps {calls} (h : CallsFit calls state) (hkeeps : state.Keeps state') :
    CallsFit calls state' := by
  cases state <;> cases state' <;> first | exact h | cases hkeeps

/-- The calls before a state is entered. Entering the connecting state ends with starting a new
tunnel. -/
def callsOnEntry : TunnelState → List SystemCall → List SystemCall
  | .connecting _, calls => calls.tail
  | _, calls => calls

/-- The states without a tunnel, and the one that starts a new one. -/
def NeedsCleanup : TunnelState → Prop
  | .disconnected | .error _ | .connecting _ => True
  | _ => False

/-- Both the calls before the state is entered and those after fit. -/
structure EntryFits (state : TunnelState) (calls : List SystemCall) : Prop where
  entry : NeedsCleanup state → Ready (callsOnEntry state calls)
  fit : CallsFit calls state

theorem Ready.entryFits {calls} (h : Ready calls) : EntryFits .disconnected calls :=
  ⟨fun _ => h, h⟩

theorem Starting.entryFits {entered} (h : Ready s.calls) (hstarting : Starting env s entered) :
    EntryFits entered.state entered.shared.calls := by
  cases hstarting with
  | failed hstate hpath =>
    rw [hstate]
    exact ⟨fun _ => h.calm (.of_guardedPath hpath), h.calm (.of_guardedPath hpath)⟩
  | started hstate hpath hshared =>
    rw [hstate, hshared]
    refine ⟨fun _ => h.calm (.of_guardedPath hpath), ⟨_, mem_cons_self .., rfl⟩, ?_⟩
    exact forall_mem_nil _

theorem BringingUp.entryFits {entered tunnel}
    (h : CallsFit s.calls (.connecting tunnel)) (hup : BringingUp s entered) :
    EntryFits entered.state entered.shared.calls := by
  obtain ⟨hstarted, hcalm⟩ := h
  cases hup with
  | @up _ policy interface config hstate hcalls hconnected =>
    have hpolicy := firstAttempt_append_of_some
      (forall_mem_singleton.mpr (rfl : (dnsSet interface config true).isStart = false))
      (firstAttempt_policy hcalm hconnected true)
    have hdns := firstAttempt_dns hcalm policy interface config true
    have hcons : Started (.dnsSet interface config true :: .applyPolicy policy true :: s.calls) :=
      hstarted.imp fun _ hcall => ⟨mem_cons_of_mem _ (mem_cons_of_mem _ hcall.1), hcall.2⟩
    rw [hstate, hcalls]
    exact ⟨False.elim, hcons, ⟨_, hpolicy, rfl⟩, _, hdns, rfl⟩
  | @policyFailed _ policy hstate hcalls hconnected =>
    have hpolicy := firstAttempt_append_of_some (forall_mem_singleton.mpr (rfl : closeTunnel.isStart = false))
      (firstAttempt_policy hcalm hconnected false)
    rw [hstate, hcalls]
    refine ⟨False.elim, fun _ => ?_⟩
    refine settled_of_failed [.closeTunnel, .applyPolicy policy false] hcalm ?_ ?_ ?_
    · simp [isStart]
    · simp
    · exact fun hestablished => Bool.false_ne_true (hestablished.policy _ hpolicy)
  | @dnsFailed _ policy interface config hstate hcalls hconnected =>
    have hdns := firstAttempt_append_of_some (forall_mem_singleton.mpr (rfl : closeTunnel.isStart = false))
      (firstAttempt_dns hcalm policy interface config false)
    rw [hstate, hcalls]
    refine ⟨False.elim, fun _ => ?_⟩
    refine settled_of_failed [.closeTunnel, .dnsSet interface config false, .applyPolicy policy true]
      hcalm ?_ ?_ ?_
    · simp [isStart]
    · simp
    · exact fun hestablished => Bool.false_ne_true (hestablished.dns _ hdns)

/-- The calls fit what handling an event leads to. -/
def ConsequenceFits (calls : List SystemCall) : EventConsequence → Prop
  | .newState state _ => EntryFits state calls
  | .sameState state => CallsFit calls state
  | .finished => True

theorem TunnelState.Logged.fits (hmac : env.os ≠ .macos) {event consequence}
    (h : CallsFit s.calls state) (hlogged : state.Logged env s event consequence s') :
    ConsequenceFits s'.calls consequence := by
  cases hlogged with
  | disconnected hcommand =>
    obtain ⟨hcalm, hsame | hfinished | ⟨_, hnew⟩⟩ := handleEvent_calm hmac hcommand s
    · rw [hsame]
      exact .calm h hcalm
    · rw [hfinished]
      trivial
    · rw [hnew]
      exact (Ready.calm h hcalm).entryFits
  | closed _ => exact (Ready.calm h (enter_calm hmac s true)).entryFits
  | gaveUp _ =>
    have hreset : CalmBetween s (if env.os = .linux then s.resetConnectivityCheck else s).dnsReset :=
      (CalmBetween.ite (.resetConnectivityCheck s) (.refl s)).trans (.of_cons rfl ⟨rfl, nofun⟩)
    exact (Ready.calm h (hreset.trans (enter_calm hmac _ true))).entryFits
  | kept hkeeps _ hpath => exact (h.path hpath).keeps hkeeps
  | entered _ _ hstarting => exact hstarting.entryFits (h.tearDown hmac)
  | left hpath _ =>
    refine ⟨False.elim, ?_⟩
    exact .calm ((h.path hpath).tearDown hmac) (.of_cons rfl ⟨rfl, nofun⟩)
  | broughtUp hup => exact hup.entryFits h

end Invariant

namespace TunnelStateMachine

variable {env : Environment} {history : List EventResult} {machine machine' : TunnelStateMachine}
  {state : TunnelState}

theorem run_callsFit (hmac : env.os ≠ .macos) (hand : env.os ≠ .android)
    (hrun : (system env).Run history machine) (hstate : machine.currentState = some state) :
    CallsFit machine.shared.calls state := by
  refine TransitionSystem.Run.invariant
    (I := fun _ machine => ∀ state, machine.currentState = some state → CallsFit machine.shared.calls state)
    ?_ ?_ hrun state hstate
  · rintro _ ⟨settings, connectivity, leftover, rfl⟩ state hstate
    have hinitial : Ready (initialShared env settings connectivity leftover).calls :=
      fun ⟨_, hcall, _⟩ => absurd hcall (not_mem_nil)
    have hready := hinitial.calm (enter_calm hmac
      (initialShared env settings connectivity leftover) settings.resetFirewall)
    obtain rfl : disconnected = state := some.inj hstate
    exact hready
  · intro history machine event machine' _ ih hstep state' hstate'
    obtain ⟨state, consequence, shared, commandsDone, hstate, hlogged, rfl⟩ := step_logged hmac hand hstep
    have hfits := hlogged.fits hmac (ih state hstate)
    cases consequence with
    | newState newState transition =>
      obtain rfl : newState = state' := some.inj hstate'
      exact hfits.fit
    | sameState newState =>
      obtain rfl : newState = state' := some.inj hstate'
      exact hfits
    | finished => cases hstate'

/-- When the disconnected or the error state is entered, or a new tunnel is started, the last tunnel was
cleaned up after exactly if the connected state could be entered with it, or was not tried to. -/
theorem cleanup_iff (event : EventResult) (hos : env.os = .linux ∨ env.os = .windows)
    (hrun : (system env).Run history machine) (hstep : step env machine event = some machine')
    (hstate : machine'.currentState = some state)
    (hentered : machine'.transitions ≠ machine.transitions) (hneeds : NeedsCleanup state)
    (hstarted : Started (callsOnEntry state machine'.shared.calls)) :
    CleanedUp (callsOnEntry state machine'.shared.calls) ↔
      Established (callsOnEntry state machine'.shared.calls) := by
  have hmac : env.os ≠ .macos := by rcases hos with h | h <;> simp [h]
  have hand : env.os ≠ .android := by rcases hos with h | h <;> simp [h]
  obtain ⟨before, consequence, shared, commandsDone, hbefore, hlogged, rfl⟩ := step_logged hmac hand hstep
  have hfits := hlogged.fits hmac (run_callsFit hmac hand hrun hbefore)
  cases consequence with
  | newState newState transition =>
    obtain rfl : newState = state := some.inj hstate
    exact (hfits.entry hneeds hstarted).cleanedUp_iff
  | sameState newState => exact absurd rfl hentered
  | finished => cases hstate

/-- A machine on Linux whose tunnel was up and is closing. -/
def closingTunnel : Option TunnelStateMachine :=
  (system (.reliable .linux directRelay)).exec
    (new (.reliable .linux directRelay) (.ofLockdownMode .no) .presumeOnline none)
    [.command (some .connect), .event (some (.up directMetadata)), .command (some .disconnect)]

theorem cleanup_disconnected :
    ∃ machine machine', closingTunnel = some machine ∧
      step (.reliable .linux directRelay) machine (.close (.ok none)) = some machine' ∧
      machine'.currentState = some .disconnected ∧
      Started (callsOnEntry .disconnected machine'.shared.calls) ∧
      CleanedUp (callsOnEntry .disconnected machine'.shared.calls) := by
  obtain ⟨machine, hmachine⟩ := isSome_iff_exists.mp (rfl : closingTunnel.isSome = true)
  have hrun := run_of_exec hmachine
  obtain rfl := some.inj hmachine
  refine ⟨_, _, rfl, rfl, rfl, ⟨.startTunnel directRelay 0, by decide, rfl⟩, ?_⟩
  refine (cleanup_iff (.close (.ok none)) (.inl rfl) hrun rfl rfl (by decide) trivial ?_).mpr ?_
  · exact ⟨.startTunnel directRelay 0, by decide, rfl⟩
  · exact ⟨by decide, by decide⟩

def Environment.withoutDns : Environment :=
  { Environment.reliable .linux directRelay with dnsSet := fun _ => false }

/-- The error state is entered because DNS could not be set; neither the routes nor DNS were reset. -/
theorem cleanup_skipped :
    ∃ history machine machine', (system Environment.withoutDns).Run history machine ∧
      step Environment.withoutDns machine (.close (.ok none)) = some machine' ∧
      machine'.currentState = some (.error ⟨.setDnsError⟩) ∧
      machine'.transitions ≠ machine.transitions ∧ Started machine'.shared.calls ∧
      .clearRoutes ∉ sinceStart machine'.shared.calls ∧ ¬ CleanedUp machine'.shared.calls := by
  have hrun := @run_of_exec Environment.withoutDns (.ofLockdownMode .no) .presumeOnline none
    [.command (some .connect), .event (some (.up directMetadata))] _ rfl
  refine ⟨_, _, _, hrun, rfl, rfl, by decide, ⟨.startTunnel directRelay 0, by decide, rfl⟩, by decide, ?_⟩
  exact fun hcleaned => absurd hcleaned.routes (by decide)

end TunnelStateMachine

end MullvadVpn.Tunnel
