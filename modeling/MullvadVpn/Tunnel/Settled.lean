import MullvadVpn.Tunnel.Channel

/-!
What the disconnected state and a finished machine leave in force, on desktop. If no firewall call
failed, the firewall blocks exactly when lockdown mode is on. The one exception is the policy of an
earlier process that the machine was told to keep when it was started: it stays in force until a
command to connect arrives. On Windows the filters are marked persistent when the lockdown mode says
so.
-/

namespace MullvadVpn.Tunnel

open SharedTunnelStateValues

variable {shouldReset : Bool} {queue : List TunnelCommand}
  {env : Environment} {s s₁ s' : SharedTunnelStateValues} {event : EventResult}

/-- The firewall blocks if lockdown mode is on, and if it is off it is open or about to close. -/
structure BlocksAsAsked (s : SharedTunnelStateValues) (queue : List TunnelCommand) : Prop where
  on : s.lockdownMode.bool = true → s.firewall.policy.isSome = true
  off : s.lockdownMode.bool = false → s.firewall.policy = none ∨ .connect ∈ queue

/-- On Windows with lockdown mode on, the persist flag is the one of the lockdown mode. -/
def PersistsAsAsked (env : Environment) (s : SharedTunnelStateValues) : Prop :=
  env.os = .windows → s.lockdownMode.bool = true → s.firewall.persist = s.lockdownMode.shouldPersist .windows

namespace DisconnectedState.FirewallEffect

theorem lockdownMode (h : FirewallEffect env s shouldReset s') : s'.lockdownMode = s.lockdownMode :=
  congrArg Settings.lockdownMode h.settings

theorem calls (h : FirewallEffect env s shouldReset s') : s.calls <:+ s'.calls := by
  cases h with
  | locked _ happ => simpa using happ.calls
  | lockFailed _ href => simpa using href.calls
  | reset _ _ hreset => exact hreset.calls
  | kept _ hframe => exact hframe.calls

/-- Without leave to reset, the firewall is left as it was unless lockdown mode is on. -/
theorem blocksAsAsked (hos : env.os ≠ .android) (h : FirewallEffect env s shouldReset s')
    (hreset : shouldReset = true ∨ .connect ∈ queue ∨ BlocksAsAsked s queue)
    (hworked : FirewallWorked s') : BlocksAsAsked s' queue := by
  constructor
  · intro hon
    rw [h.lockdownMode] at hon
    cases h with
    | locked _ happ => simp [happ.policy hos]
    | lockFailed _ href => exact absurd ((persisted_refused href).2 hos) hworked.not_failureBetween
    | reset hoff _ _ => simp [hoff] at hon
    | kept hkept _ =>
      rcases hkept with hos' | ⟨hoff, _⟩
      · exact absurd hos' hos
      · simp [hoff] at hon
  · intro hoff
    rw [h.lockdownMode] at hoff
    cases h with
    | locked hon _ | lockFailed hon _ => simp [hon] at hoff
    | reset _ _ hreset =>
      exact .inl (hreset.policy.resolve_right fun hfail => hworked.not_failureBetween hfail.2)
    | kept hkept hframe =>
      rcases hkept with hos' | ⟨_, hkeep⟩
      · exact absurd hos' hos
      · rcases hreset.resolve_left (by simp [hkeep]) with hconnect | hbefore
        · exact .inr hconnect
        · exact hframe.policy ▸ hbefore.off hoff

theorem persistsAsAsked (h : FirewallEffect env s shouldReset s') : PersistsAsAsked env s' := by
  intro hos hon
  rw [h.lockdownMode] at hon ⊢
  exact h.persist hos hon

end DisconnectedState.FirewallEffect

theorem BlocksAsAsked.of_eq (h : BlocksAsAsked s queue) (hpolicy : s'.firewall.policy = s.firewall.policy)
    (hmode : s'.lockdownMode = s.lockdownMode) : BlocksAsAsked s' queue :=
  ⟨fun hon => hpolicy ▸ h.on (hmode ▸ hon), fun hoff => hpolicy ▸ h.off (hmode ▸ hoff)⟩

theorem PersistsAsAsked.of_eq (h : PersistsAsAsked env s) (hfirewall : s'.firewall = s.firewall)
    (hmode : s'.lockdownMode = s.lockdownMode) : PersistsAsAsked env s' := by
  intro hos hon
  rw [hfirewall, hmode]
  exact h hos (hmode ▸ hon)

variable {queue' : List TunnelCommand}

theorem BlocksAsAsked.receive {closed : Bool} (h : BlocksAsAsked s queue)
    (hreceive : FedMachine.receive closed queue event = some queue')
    (hevent : ¬ DisconnectedState.Leaves event) : BlocksAsAsked s queue' := by
  refine ⟨h.on, fun hoff => ?_⟩
  rcases h.off hoff with hnone | hconnect
  · exact .inl hnone
  · refine .inr ?_
    match event with
    | .command none => exact absurd (.inl rfl) hevent
    | .command (some command) =>
      rw [FedMachine.receive_command hreceive, List.mem_cons] at hconnect
      rcases hconnect with rfl | hconnect
      · exact absurd (.inr rfl) hevent
      · exact hconnect
    | .event _ | .close _ => exact Option.some.inj hreceive ▸ hconnect

/-- What holds of the machine at rest, that is disconnected or finished. A finished machine has
nothing left to receive. -/
def AtRest (env : Environment) (fed : FedMachine) : Prop :=
  match fed.machine.currentState with
  | some .disconnected =>
    (fed.machine.shared.FirewallWorked → BlocksAsAsked fed.machine.shared fed.queue) ∧
      PersistsAsAsked env fed.machine.shared
  | none =>
    fed.queue = [] ∧ (fed.machine.shared.FirewallWorked → BlocksAsAsked fed.machine.shared []) ∧
      PersistsAsAsked env fed.machine.shared
  | _ => True

theorem atRest_sameState {closed : Bool} (hos : env.os ≠ .android)
    (h : DisconnectedState.Outcome env s event (.sameState .disconnected) s')
    (hreceive : FedMachine.receive closed queue event = some queue')
    (hblocks : s.FirewallWorked → BlocksAsAsked s queue) (hpersists : PersistsAsAsked env s) :
    (s'.FirewallWorked → BlocksAsAsked s' queue') ∧ PersistsAsAsked env s' := by
  cases h with
  | stay hstored hleaves _ hmode =>
    refine ⟨fun hworked => ?_, hpersists.of_eq hstored.firewall hmode⟩
    have hbefore := hblocks (hworked.of_calls hstored.calls)
    exact (hbefore.receive hreceive hleaves).of_eq hstored.policy hmode
  | sameLockdown mode _ =>
    refine ⟨fun hworked => (hblocks hworked).receive hreceive ?_, hpersists⟩
    simp [DisconnectedState.Leaves]
  | @refirewalled _ s₁ _ hstored hleaves hmode heffect =>
    refine ⟨fun hworked => ?_, heffect.persistsAsAsked⟩
    have hbefore := hblocks (hworked.of_calls (hstored.calls.trans heffect.calls))
    have hreceived := (hbefore.receive hreceive hleaves).of_eq hstored.policy hmode
    exact heffect.blocksAsAsked hos (.inr (.inr hreceived)) hworked

theorem atRest_step {fed fed' : FedMachine} (hos : env.os ≠ .android)
    (h : fed.step env event = some fed') (hrest : AtRest env fed) : AtRest env fed' := by
  obtain ⟨hreceive, hstep, _⟩ := FedMachine.step_cases h
  obtain ⟨machine', queue', closed'⟩ := fed'
  obtain ⟨state, consequence, shared, hstate, _, houtcome, hmachine⟩ :=
    TunnelStateMachine.step_cases hstep
  simp only at hreceive hmachine
  subst hmachine
  cases consequence with
  | newState state' transition =>
    simp only [AtRest, TunnelStateMachine.advance]
    split
    · rename_i hdisc
      obtain ⟨⟨s₁, hentering⟩, _⟩ := outcome_disconnected houtcome (Option.some.inj hdisc)
      exact ⟨hentering.effect.blocksAsAsked hos (Or.inl rfl), hentering.effect.persistsAsAsked⟩
    · rename_i hnone
      cases hnone
    · trivial
  | sameState state' =>
    simp only [AtRest, TunnelStateMachine.advance]
    split
    · rename_i hdisc
      obtain rfl := Option.some.inj hdisc
      cases houtcome with
      | disconnected houtcome =>
        simp only [AtRest, hstate] at hrest
        exact atRest_sameState hos houtcome hreceive hrest.1 hrest.2
      | connecting houtcome | connected houtcome | disconnecting houtcome | error houtcome => cases houtcome
    · rename_i hnone
      cases hnone
    · trivial
  | finished =>
    cases houtcome with
    | disconnected houtcome =>
      cases houtcome with
      | finished hframe =>
        simp only [AtRest, hstate] at hrest
        obtain ⟨_, hqueue, hqueue'⟩ := FedMachine.receive_end hreceive
        have hmode : shared.lockdownMode = fed.machine.shared.lockdownMode :=
          congrArg Settings.lockdownMode hframe.settings
        refine ⟨hqueue', fun hworked => ?_, hrest.2.of_eq hframe.firewall hmode⟩
        have hbefore := hrest.1 (hworked.of_calls hframe.calls)
        rw [hqueue] at hbefore
        exact hbefore.of_eq hframe.policy hmode
    | connecting houtcome | connected houtcome | disconnecting houtcome | error houtcome => cases houtcome

end MullvadVpn.Tunnel
