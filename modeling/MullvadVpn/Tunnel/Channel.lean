import MullvadVpn.Tunnel.Opening

/-!
The machine together with the channel its commands come from. Commands are received in the order they
were sent, and the end of the channel only after all of them. Two things can be read off a machine and
its channel before the commands in it are received: the lockdown mode the machine will have, and
whether it will still be after a tunnel.
-/

namespace MullvadVpn.Tunnel

open Systems SharedTunnelStateValues TunnelStateMachine TunnelState

variable {state : TunnelState} {machine machine' : TunnelStateMachine} {commands : List TunnelCommand}
  {entered : Entered}

/-- A machine and the commands that were sent to it and not received yet, oldest first. -/
structure FedMachine where
  machine : TunnelStateMachine
  queue : List TunnelCommand
  /-- Whether all senders are gone. -/
  closed : Bool

namespace FedMachine

/-- What is left in the channel after the machine has received an event. -/
def receive (closed : Bool) (queue : List TunnelCommand) : EventResult → Option (List TunnelCommand)
  | .command (some command) =>
    match queue with
    | next :: rest => if next = command then some rest else none
    | [] => none
  | .command none => if closed && queue.isEmpty then some [] else none
  | _ => some queue

def step (env : Environment) (fed : FedMachine) (event : EventResult) : Option FedMachine :=
  (receive fed.closed fed.queue event).bind fun queue =>
    (TunnelStateMachine.step env fed.machine event).map fun machine =>
      ⟨machine, queue, fed.closed⟩

/-- The runs of a machine that nothing more is sent to. -/
def drain (env : Environment) (start : FedMachine) : TransitionSystem FedMachine EventResult where
  Init fed := fed = start
  step := step env

variable {env : Environment} {fed fed' : FedMachine} {event : EventResult}

theorem step_cases (h : fed.step env event = some fed') :
    receive fed.closed fed.queue event = some fed'.queue ∧
      TunnelStateMachine.step env fed.machine event = some fed'.machine ∧ fed'.closed = fed.closed := by
  unfold step at h
  rw [Option.bind_eq_some_iff] at h
  obtain ⟨queue, hreceive, h⟩ := h
  rw [Option.map_eq_some_iff] at h
  obtain ⟨machine, hstep, rfl⟩ := h
  exact ⟨hreceive, hstep, rfl⟩

variable {closed : Bool} {queue queue' : List TunnelCommand}

theorem receive_command {command}
    (h : receive closed queue (.command (some command)) = some queue') : queue = command :: queue' := by
  cases queue with
  | nil => simp [receive] at h
  | cons next rest =>
    simp only [receive] at h
    split_ifs at h with heq
    rw [heq, Option.some.inj h]

theorem receive_end
    (h : receive closed queue (.command none) = some queue') : closed = true ∧ queue = [] ∧ queue' = [] := by
  simp only [receive, Bool.and_eq_true, List.isEmpty_iff] at h
  split_ifs at h with hend
  exact ⟨hend.1, hend.2, (Option.some.inj h).symm⟩

end FedMachine

variable {env : Environment} {s s' : SharedTunnelStateValues} {event : EventResult}

@[simp] theorem TunnelStateMachine.advance_shared (machine : TunnelStateMachine) (commandsDone : Bool)
    (consequence : EventConsequence) (s : SharedTunnelStateValues) :
    (machine.advance commandsDone (consequence, s)).shared = s := by
  cases consequence <;> rfl

/-- What handling an event does to the settings. The disconnected state ignores a lockdown mode that
differs from the current one in the persist flag only. -/
theorem outcome_settings {consequence} (h : state.Outcome env s event consequence s') :
    s'.settings = s.settings.update event ∨
      state = .disconnected ∧ s' = s ∧ ∃ mode, event = .command (some (.lockdownMode mode)) ∧
        s.lockdownMode.bool = mode.bool := by
  cases consequence with
  | newState state' transition => exact .inl h.enters.settings
  | finished =>
    cases h with
    | disconnected h =>
      cases h with
      | finished hframe => exact .inl hframe.settings
    | connecting h | connected h | disconnecting h | error h => cases h
  | sameState state' =>
    by_cases hstate : state = .disconnected
    · subst hstate
      cases h with
      | disconnected h =>
        cases h with
        | stay hstored _ _ _ => exact .inl hstored.settings
        | sameLockdown mode hmode => exact .inr ⟨rfl, rfl, mode, rfl, hmode⟩
        | refirewalled hstored _ _ heffect => exact .inl (heffect.settings.trans hstored.settings)
    · exact .inl (h.carries hstate).settings

def lockdownAfter (on : Bool) : TunnelCommand → Bool
  | .lockdownMode mode => mode.bool
  | _ => on

theorem step_lockdownMode (hstep : step env machine event = some machine') :
    machine'.shared.lockdownMode.bool = (machine.shared.settings.update event).lockdownMode.bool := by
  obtain ⟨state, consequence, shared, _, _, houtcome, rfl⟩ := step_cases hstep
  rw [advance_shared]
  rcases outcome_settings houtcome with hsettings | ⟨_, rfl, mode, rfl, hmode⟩
  · exact congrArg (fun settings => settings.lockdownMode.bool) hsettings
  · exact hmode

namespace FedMachine

variable {fed fed' : FedMachine}

/-- The lockdown mode once everything in the channel is received. -/
def pendingLockdown (fed : FedMachine) : Bool :=
  fed.queue.foldl lockdownAfter fed.machine.shared.lockdownMode.bool

theorem pendingLockdown_step (h : fed.step env event = some fed') :
    fed'.pendingLockdown = fed.pendingLockdown := by
  obtain ⟨hreceive, hstep, _⟩ := step_cases h
  have hmode := step_lockdownMode hstep
  unfold pendingLockdown
  match event with
  | .command (some command) =>
    rw [receive_command hreceive, List.foldl_cons, hmode]
    cases command <;> rfl
  | .command none =>
    obtain ⟨_, hqueue, hqueue'⟩ := receive_end hreceive
    rw [hqueue, hqueue', hmode]
    rfl
  | .event _ | .close _ =>
    have hqueue : fed.queue = fed'.queue := Option.some.inj hreceive
    rw [hmode, hqueue]
    rfl

theorem drain_pendingLockdown {start events}
    (hrun : (drain env start).Run events fed) : fed.pendingLockdown = start.pendingLockdown := by
  refine TransitionSystem.Run.invariant
    (I := fun _ fed => fed.pendingLockdown = start.pendingLockdown) ?_ ?_ hrun
  · rintro _ rfl
    rfl
  · intro _ fed event fed' _ hfed hstep
    exact (pendingLockdown_step hstep).trans hfed

end FedMachine

/-- Whether the machine is after a tunnel: it has one, gets one again or would have one if it could. -/
def TunnelState.wantsTunnel : TunnelState → Bool
  | disconnected => false
  | disconnecting state => decide (state.afterDisconnect ≠ .nothing)
  | connecting _ | connected _ | error _ => true

def wishAfter (wants : Bool) : TunnelCommand → Bool
  | .connect => true
  | .disconnect => false
  | _ => wants

theorem wishAfter_of_ne {command} (hconnect : command ≠ .connect)
    (hdisconnect : command ≠ .disconnect) (wants : Bool) : wishAfter wants command = wants := by
  cases command <;> first | rfl | contradiction

theorem foldl_wishAfter (h : commands.foldl wishAfter false = true) (wants : Bool) :
    commands.foldl wishAfter wants = true := by
  induction commands generalizing wants with
  | nil => cases h
  | cons command commands ih =>
    rw [List.foldl_cons] at h ⊢
    by_cases hconnect : command = .connect
    · subst hconnect
      exact h
    by_cases hdisconnect : command = .disconnect
    · subst hdisconnect
      exact h
    rw [wishAfter_of_ne hconnect hdisconnect] at h ⊢
    exact ih h wants

theorem ConnectingState.Entering.wantsTunnel {retryAttempt}
    (h : Entering env s retryAttempt entered) : entered.state.wantsTunnel = true := by
  rcases h.state with ⟨params, hstate⟩ | ⟨cause, hstate⟩ <;> rw [hstate] <;> rfl

theorem ConnectedState.Entering.wantsTunnel {state}
    (h : Entering env s state entered) : entered.state.wantsTunnel = true := by
  rcases h.state with hstate | ⟨cause, hstate⟩ <;> rw [hstate] <;> rfl

variable {state' : TunnelState}

theorem wantsTunnel_newState {transition}
    (h : state.Outcome env s event (.newState state' transition) s') (hevent : ¬ event.RequestsDisconnect)
    (hwants : event = .command (some .connect) ∨ state.wantsTunnel = true) : state'.wantsTunnel = true := by
  cases h.enters with
  | disconnected hreason _ _ =>
    rcases hreason with ⟨rfl, mode, rfl, _⟩ | ⟨_, hrequest⟩ | ⟨waiting, result, rfl, hafter, rfl⟩
    · simp [wantsTunnel] at hwants
    · exact absurd hrequest hevent
    · simp [wantsTunnel, hafter] at hwants
  | started _ hentering | up _ hentering => exact hentering.wantsTunnel
  | left _ hafter _ _ => simp [wantsTunnel, hafter, hevent]

theorem wantsTunnel_sameState
    (h : state.Outcome env s event (.sameState state') s') (hevent : ¬ event.RequestsDisconnect)
    (hwants : event = .command (some .connect) ∨ state.wantsTunnel = true) : state'.wantsTunnel = true := by
  cases h with
  | disconnected h =>
    rcases hwants with rfl | hwants
    · cases h with
      | stay _ hleaves _ _ | refirewalled _ hleaves _ _ => exact absurd (.inr rfl) hleaves
    · cases hwants
  | connecting h | connected h | error h => cases h <;> rfl
  | @disconnecting _ _ _ state h =>
    cases h with
    | stay command _ =>
      simp only [wantsTunnel, decide_eq_true_eq]
      intro hnothing
      rcases DisconnectingState.updateAfterDisconnect_nothing hnothing with hrequest | ⟨hafter, hconnect⟩
      · exact hevent hrequest
      · rcases hwants with hconnect' | hwants
        · simp only [EventResult.command.injEq] at hconnect'
          exact hconnect hconnect'
        · simp [wantsTunnel, hafter] at hwants

/-- Whether the machine will be after a tunnel once it has received some commands. -/
def TunnelStateMachine.wish (machine : TunnelStateMachine) (commands : List TunnelCommand) : Bool :=
  match machine.currentState with
  | some state => commands.foldl wishAfter state.wantsTunnel
  | none => false

theorem wish_of_state {wants : Bool} (hstate : machine.currentState = some state)
    (hfold : commands.foldl wishAfter wants = true) (hwants : wants = true → state.wantsTunnel = true) :
    machine.wish commands = true := by
  simp only [wish, hstate]
  cases wants with
  | true =>
    rw [hwants rfl]
    exact hfold
  | false => exact foldl_wishAfter hfold _

theorem step_wantsTunnel (hstep : step env machine event = some machine')
    (hstate : machine.currentState = some state) (hend : event ≠ .command none) :
    ∃ state', machine'.currentState = some state' ∧
      (¬ event.RequestsDisconnect → (event = .command (some .connect) ∨ state.wantsTunnel = true) →
        state'.wantsTunnel = true) := by
  obtain ⟨state₁, consequence, shared, hstate₁, _, houtcome, rfl⟩ := step_cases hstep
  obtain rfl : state₁ = state := Option.some.inj (hstate₁.symm.trans hstate)
  cases consequence with
  | newState state' transition => exact ⟨state', rfl, wantsTunnel_newState houtcome⟩
  | sameState state' => exact ⟨state', rfl, wantsTunnel_sameState houtcome⟩
  | finished =>
    cases houtcome with
    | disconnected h =>
      cases h with
      | finished _ => exact absurd rfl hend
    | connecting h | connected h | disconnecting h | error h => cases h

theorem wish_step {commands'}
    (hreceive : FedMachine.receive false commands event = some commands')
    (hstep : step env machine event = some machine')
    (hwish : machine.wish commands = true) : machine'.wish commands' = true := by
  unfold wish at hwish
  split at hwish
  · rename_i state hstate
    match event with
    | .command none => exact absurd (FedMachine.receive_end hreceive).1 (by simp)
    | .command (some command) =>
      obtain ⟨state', hstate', hwants⟩ := step_wantsTunnel hstep hstate (by simp)
      rw [FedMachine.receive_command hreceive, List.foldl_cons] at hwish
      refine wish_of_state hstate' hwish fun hafter => hwants ?_ ?_
      · rintro (hdisconnect | hend)
        · obtain rfl : command = .disconnect := by simpa using hdisconnect
          cases hafter
        · simp at hend
      · by_cases hconnect : command = .connect
        · exact .inl (by rw [hconnect])
        · refine .inr ((wishAfter_of_ne hconnect ?_ _).symm.trans hafter)
          rintro rfl
          cases hafter
    | .event _ | .close _ =>
      obtain ⟨state', hstate', hwants⟩ := step_wantsTunnel hstep hstate (by simp)
      obtain rfl : commands = commands' := Option.some.inj hreceive
      exact wish_of_state hstate' hwish fun hafter =>
        hwants (by simp) (.inr hafter)
  · cases hwish

end MullvadVpn.Tunnel
