import MullvadVpn.Tunnel.Step

/-!
Shutting the machine down. Once the command channel has delivered its end, no tunnel is started any
more and the machine finishes: a rank over the remaining states drops with every event it handles,
on all platforms, whatever the closing tunnel reports and whatever firewall calls fail.
-/

namespace MullvadVpn.Tunnel

open Systems TunnelStateMachine

variable {entered : Entered} {state : TunnelState} {machine machine' : TunnelStateMachine}
  {env : Environment} {s s' : SharedTunnelStateValues} {event : EventResult}

/-- A tunnel's close event has not been received as long as its state lives. -/
def TunnelState.ClosePending : TunnelState → Prop
  | connecting state => state.tunnelCloseEvent = .pending
  | connected state => state.tunnelCloseEvent = .pending
  | disconnecting state => state.tunnelCloseEvent = .pending
  | disconnected | error _ => True

theorem ConnectingState.Entering.closePending {retryAttempt}
    (h : Entering env s retryAttempt entered) : entered.state.ClosePending := by
  rcases h.state with ⟨params, hstate⟩ | ⟨cause, hstate⟩
  · rw [hstate]
    rfl
  · rw [hstate]
    trivial

theorem ConnectedState.Entering.closePending {state} (h : Entering env s state entered)
    (hpending : state.tunnelCloseEvent = .pending) : entered.state.ClosePending := by
  rcases h.state with hstate | ⟨cause, hstate⟩ <;> rw [hstate] <;> exact hpending

theorem DisconnectedState.Entering.closePending {shouldReset : Bool}
    (h : Entering env s shouldReset entered) : entered.state.ClosePending := by
  rw [h.state]
  trivial

variable {history : List EventResult}

theorem run_closePending (hrun : (system env).Run history machine)
    (hstate : machine.currentState = some state) : state.ClosePending := by
  refine runWhere_invariant (J := fun _ state _ _ => state.ClosePending) ?_ ?_ ?_ hrun hstate
  · exact fun _ _ _ => trivial
  · intro _ _ _ _ _ _ _ _ _ _ hpending houtcome
    cases houtcome.enters with
    | disconnected _ _ hentering | started _ hentering => exact hentering.closePending
    | up _ hentering => exact hentering.closePending hpending
    | left htunnel _ _ _ =>
      rcases htunnel with ⟨tunnel, rfl, hclose⟩ | ⟨tunnel, rfl, hclose⟩ <;> exact hclose.trans hpending
  · intro _ _ _ _ _ _ _ _ _ hpending houtcome
    cases houtcome with
    | disconnected h | error h => cases h <;> trivial
    | connecting h =>
      cases h with
      | stay hsame _ _ _ | reapplied _ hsame _ _ _ _ => exact hsame.tunnelCloseEvent.trans hpending
    | connected h => cases h <;> exact hpending
    | disconnecting h =>
      cases h with
      | stay _ _ => exact hpending

/-- The states the machine can be in after the end of the command channel. -/
def TunnelState.Ending : TunnelState → Prop
  | disconnected | error _ => True
  | disconnecting state =>
    state.tunnelCloseEvent = .pending ∧ ∀ retryAttempt, state.afterDisconnect ≠ .reconnect retryAttempt
  | connecting _ | connected _ => False

/-- The command channel has delivered its end, and no tunnel will be started. -/
structure ShuttingDown (machine : TunnelStateMachine) : Prop where
  commandsDone : machine.commandsDone = true
  ending : ∀ state, machine.currentState = some state → state.Ending

def eventsLeft : Option TunnelState → Nat
  | none => 0
  | some .disconnected => 1
  | some (.error _) => 2
  | some (.disconnecting _) => 3
  | some (.connecting _) | some (.connected _) => 4

theorem ErrorState.Entering.ending (h : Entering env s entered) :
    entered.state.Ending ∧ eventsLeft (some entered.state) = 2 := by
  obtain ⟨cause, hstate⟩ := h.state
  rw [hstate]
  exact ⟨trivial, rfl⟩

theorem DisconnectedState.Entering.ending (h : Entering env s true entered) :
    entered.state.Ending ∧ eventsLeft (some entered.state) = 1 := by
  rw [h.state]
  exact ⟨trivial, rfl⟩

variable {commandsDone : Bool}

theorem ShuttingDown.newState {transition} (hdone : commandsDone = true)
    (h : state.Ending) : ShuttingDown (machine.advance commandsDone (.newState state transition, s)) := by
  refine ⟨hdone, ?_⟩
  rintro _ ⟨⟩
  exact h

variable {consequence : EventConsequence}

theorem DisconnectedState.Outcome.of_closure
    (h : Outcome env s (.command none) consequence s') : consequence = .finished := by
  cases h with
  | stay _ hleaves _ _ | refirewalled _ hleaves _ _ => exact absurd (.inl rfl) hleaves
  | finished _ => rfl

theorem ErrorState.Outcome.of_closure {state}
    (h : Outcome env state s (.command none) consequence s') :
    ∃ entered, DisconnectedState.Entering env s true entered ∧
      consequence = .newState entered.state entered.transition ∧ s' = entered.shared := by
  have hrequest : (EventResult.command none).RequestsDisconnect := Or.inr rfl
  cases h with
  | stay _ hnot _ | reblocked _ hnot _ | refused _ hnot _ | blocked _ hnot _ => exact absurd hrequest hnot
  | reconnected _ hreconnects _ => exact hreconnects.elim
  | disconnected _ hentering => exact ⟨_, hentering, rfl, rfl⟩

theorem ShuttingDown.finished (hdone : commandsDone = true) :
    ShuttingDown (machine.advance commandsDone (.finished, s)) :=
  ⟨hdone, by simp [advance]⟩

theorem shuttingDown_of_closure (hrun : (system env).Run history machine)
    (hstep : step env machine (.command none) = some machine') : ShuttingDown machine' := by
  obtain ⟨state, consequence, shared, hstate, _, houtcome, rfl⟩ := step_cases hstep
  have hpending := run_closePending hrun hstate
  have hrequest : (EventResult.command none).RequestsDisconnect := Or.inr rfl
  cases houtcome with
  | disconnected h =>
    obtain rfl := h.of_closure
    exact .finished (by simp [noticesEnd])
  | connecting h =>
    cases h with
    | stay _ _ hnot _ | reapplied _ _ _ hnot _ _ => exact absurd hrequest hnot
    | left after _ hafter =>
      exact .newState (by simp [noticesEnd]) ⟨hpending, by simp [hafter.mpr hrequest]⟩
  | connected h =>
    cases h with
    | stay _ hnot _ | reapplied _ _ hnot _ _ | dnsFailed _ _ hnot _ _ => exact absurd hrequest hnot
    | left after _ hafter =>
      exact .newState (by simp [noticesEnd]) ⟨hpending, by simp [hafter.mpr hrequest]⟩
  | @disconnecting _ _ _ state h =>
    cases h with
    | stay command _ =>
      obtain ⟨closeEvent, after⟩ := state
      obtain rfl : closeEvent = .pending := hpending
      refine ⟨by simp [advance, noticesEnd], ?_⟩
      rintro _ ⟨⟩
      refine ⟨rfl, fun _ h => ?_⟩
      cases after <;> cases h
  | error h =>
    obtain ⟨entered, hentering, rfl, rfl⟩ := h.of_closure
    exact .newState (by simp [noticesEnd]) hentering.ending.1

theorem commandReceivable_done {command}
    (h : commandReceivable env true command = true) : command = none := by
  cases command with
  | none => rfl
  | some command => simp [commandReceivable] at h

section

variable (hshutting : ShuttingDown machine)

include hshutting

theorem shuttingDown_step (hstep : step env machine event = some machine') :
    ShuttingDown machine' ∧ eventsLeft machine'.currentState < eventsLeft machine.currentState := by
  obtain ⟨state, consequence, shared, hstate, hreceives, houtcome, rfl⟩ := step_cases hstep
  have hending := hshutting.ending state hstate
  have hdone : (machine.commandsDone || noticesEnd state event) = true := by
    simp [hshutting.commandsDone]
  rw [hshutting.commandsDone] at hreceives
  rw [hstate]
  cases houtcome with
  | disconnected h =>
    cases event with
    | event _ | close _ => simp [receives] at hreceives
    | command command =>
      obtain rfl := commandReceivable_done hreceives
      obtain rfl := h.of_closure
      exact ⟨.finished hdone, Nat.zero_lt_one⟩
  | connecting h | connected h => exact hending.elim
  | disconnecting h =>
    cases h with
    | stay command _ => simp [receives, hending.1] at hreceives
    | blocked result _ hentering | disconnected result _ _ hentering =>
      exact ⟨.newState hdone hentering.ending.1, hentering.ending.2.trans_lt (by simp [eventsLeft])⟩
    | reconnected result retryAttempt _ hafter _ => exact absurd hafter (hending.2 retryAttempt)
  | error h =>
    cases event with
    | event _ | close _ => simp [receives] at hreceives
    | command command =>
      obtain rfl := commandReceivable_done hreceives
      obtain ⟨entered, hentering, rfl, rfl⟩ := h.of_closure
      exact ⟨.newState hdone hentering.ending.1, hentering.ending.2.trans_lt (by simp [eventsLeft])⟩

/-- While shutting down, some event can always be delivered until the machine has finished. -/
theorem shuttingDown_progress
    (hrunning : machine.currentState ≠ none) : ∃ event machine', step env machine event = some machine' := by
  obtain ⟨state, hstate⟩ := Option.ne_none_iff_exists'.mp hrunning
  have hending := hshutting.ending state hstate
  cases state with
  | disconnected | error _ => exact ⟨.command none, step_of_receives hstate rfl⟩
  | disconnecting state =>
    exact ⟨.close (.ok none), step_of_receives hstate (by simp [receives, hending.1])⟩
  | connecting _ | connected _ => exact hending.elim

theorem shuttingDown_exec {events}
    (hexec : (system env).exec machine events = some machine') : ShuttingDown machine' := by
  induction events generalizing machine with
  | nil =>
    obtain rfl : machine = machine' := by simpa using hexec
    exact hshutting
  | cons event events ih =>
    rw [TransitionSystem.exec_cons, Option.bind_eq_some_iff] at hexec
    obtain ⟨next, hstep, hrest⟩ := hexec
    exact ih (shuttingDown_step hshutting hstep).1 hrest

end

/-- **Shutdown.** After the end of the command channel no connecting state is entered, and the machine
finishes within four events. -/
theorem shutdown_finishes {history : List EventResult} {machine machine' : TunnelStateMachine}
    (hrun : (system env).Run history machine)
    (hclosed : step env machine (.command none) = some machine') :
    (∀ events later state, (system env).exec machine' events = some later →
      later.currentState ≠ some (.connecting state)) ∧
    (system env).Within 4 (fun later => later.currentState = none) machine' := by
  have hshutting := shuttingDown_of_closure hrun hclosed
  refine ⟨fun events later state hexec hstate => (shuttingDown_exec hshutting hexec).ending _ hstate, ?_⟩
  refine (TransitionSystem.within_of_rank (I := ShuttingDown)
    (fun machine => eventsLeft machine.currentState) ?_ ?_ ?_ hshutting).mono ?_
  · intro machine _ hrank
    cases hstate : machine.currentState with
    | none => rfl
    | some state => cases state <;> simp [hstate, eventsLeft] at hrank
  · exact fun machine hshutting hrunning => shuttingDown_progress hshutting hrunning
  · exact fun machine event machine' hshutting hstep => shuttingDown_step hshutting hstep
  · cases machine'.currentState with
    | none => simp [eventsLeft]
    | some state => cases state <;> simp [eventsLeft]

/-- The command channel of a connecting machine on Linux ends. -/
theorem shutdown_finishes_connecting :
    ∃ machine machine', (system (.reliable .linux directRelay)).exec
        (new (.reliable .linux directRelay) (.ofLockdownMode .no) .presumeOnline none)
        [.command (some .connect)] = some machine ∧
      step (.reliable .linux directRelay) machine (.command none) = some machine' ∧
      machine'.currentState = some (.disconnecting ⟨.pending, .nothing⟩) ∧
      (system (.reliable .linux directRelay)).Within 4 (fun later => later.currentState = none) machine' := by
  have hrun := @run_of_exec (.reliable .linux directRelay) (.ofLockdownMode .no) .presumeOnline none
    [.command (some .connect)] _ rfl
  exact ⟨_, _, rfl, rfl, rfl, (shutdown_finishes hrun rfl).2⟩

end MullvadVpn.Tunnel
