import MullvadVpn.Daemon.Model

/-!
The daemon and the tunnel state machine together, as long as the daemon runs: the commands one sends
are received by the other in order, and so are the transitions reported the other way. The offline
monitor and the split tunnel send commands of their own. The invariants say what a shutdown finds.
-/

namespace MullvadVpn

open Net Firewall Systems Tunnel Daemon

structure DaemonSystem where
  daemon : Daemon
  fed : FedMachine
  /-- The transitions that the daemon has not handled yet, oldest first. -/
  reports : List TunnelStateTransition

inductive SystemEvent where
  /-- The daemon handles a request. -/
  | daemon (event : DaemonEvent)
  /-- The daemon handles the next reported transition. -/
  | report
  /-- The offline monitor or the split tunnel sends a command. -/
  | monitor (command : TunnelCommand)
  /-- The state machine handles an event. -/
  | machine (event : EventResult)

/-- The commands that do not come from the daemon. -/
def sentByMonitor : TunnelCommand → Bool
  | .connectivity _ => true
  | .block _ => true
  | _ => false

namespace DaemonSystem

def send (fed : FedMachine) (commands : List TunnelCommand) : FedMachine :=
  { fed with queue := fed.queue ++ commands }

def reported (machine machine' : TunnelStateMachine) : List TunnelStateTransition :=
  (machine'.transitions.take (machine'.transitions.length - machine.transitions.length)).reverse

def step (env : Environment) (sys : DaemonSystem) : SystemEvent → Option DaemonSystem
  | .daemon event =>
    let (daemon, commands) := sys.daemon.handleEvent event
    some ⟨daemon, send sys.fed commands, sys.reports⟩
  | .report =>
    match sys.reports with
    | [] => none
    | transition :: reports => some ⟨{ sys.daemon with tunnelState := transition }, sys.fed, reports⟩
  | .monitor command =>
    if sentByMonitor command then some ⟨sys.daemon, send sys.fed [command], sys.reports⟩ else none
  | .machine event =>
    (sys.fed.step env event).map fun fed =>
      ⟨sys.daemon, fed, sys.reports ++ reported sys.fed.machine fed.machine⟩

structure Start where
  settings : DaemonSettings
  /-- The target state of the previous run, if its file was left. -/
  cachedTargetState : TargetState
  allowedEndpoint : AllowedEndpoint
  excludePaths : List String
  connectivity : Connectivity
  /-- The firewall policy an earlier process left in force. -/
  leftover : Option FirewallPolicy
  /-- What the monitors sent before the daemon got to its first command. -/
  early : List TunnelCommand

def Start.targetState (start : Start) : TargetState :=
  if start.settings.autoConnect then .secured else start.cachedTargetState

def Start.initialTunnelState (start : Start) : InitialTunnelState where
  allowLan := start.settings.allowLan
  lockdownMode := .ofBool start.settings.lockdownMode
  dnsConfig := addressesFromOptions start.settings.dnsOptions
  allowedEndpoint := start.allowedEndpoint
  resetFirewall := start.targetState != .secured
  excludePaths := start.excludePaths

/-- The system after `handle_initial_target_state`. -/
def new (env : Environment) (start : Start) : DaemonSystem where
  daemon :=
    { os := env.os
      tunnelState := .disconnected start.settings.lockdownMode
      targetState := ⟨start.targetState, false⟩
      settings := start.settings }
  fed :=
    { machine := TunnelStateMachine.new env start.initialTunnelState start.connectivity start.leftover
      queue := start.early ++ (if start.targetState = .secured then [.connect] else [])
      closed := false }
  reports := []

def system (env : Environment) : TransitionSystem DaemonSystem SystemEvent where
  Init sys := ∃ start : Start, (∀ command ∈ start.early, sentByMonitor command = true) ∧ sys = new env start
  step := step env

variable {env : Environment} {sys sys' : DaemonSystem}

structure Running (env : Environment) (sys : DaemonSystem) : Prop where
  os : sys.daemon.os = env.os
  opened : sys.fed.closed = false
  alive : sys.fed.machine.currentState ≠ none
  atRest : AtRest env sys.fed
  /-- With a secured target state the machine is after a tunnel, or about to be. -/
  wish : sys.daemon.targetState.state = .secured → sys.fed.machine.wish sys.fed.queue = true

theorem atRest_send {fed : FedMachine} (commands : List TunnelCommand)
    (halive : fed.machine.currentState ≠ none) (h : AtRest env fed) : AtRest env (send fed commands) := by
  unfold AtRest at h ⊢
  simp only [send]
  split at h
  · refine ⟨fun hworked => ⟨(h.1 hworked).on, fun hoff => ?_⟩, h.2⟩
    rcases (h.1 hworked).off hoff with hnone | hconnect
    · exact .inl hnone
    · exact .inr (List.mem_append_left _ hconnect)
  · rename_i hnone
    exact absurd hnone halive
  · trivial

theorem wish_append (machine : TunnelStateMachine) (commands more : List TunnelCommand)
    (halive : machine.currentState ≠ none) :
    machine.wish (commands ++ more) = more.foldl wishAfter (machine.wish commands) := by
  obtain ⟨state, hstate⟩ := Option.ne_none_iff_exists'.mp halive
  simp [TunnelStateMachine.wish, hstate]

theorem foldl_wishAfter_true {commands : List TunnelCommand} (h : .disconnect ∉ commands) :
    commands.foldl wishAfter true = true := by
  induction commands with
  | nil => rfl
  | cons command commands ih =>
    simp only [List.mem_cons, not_or] at h
    by_cases hconnect : command = .connect
    · rw [List.foldl_cons, hconnect]
      exact ih h.2
    · rw [List.foldl_cons, wishAfter_of_ne hconnect (Ne.symm h.1)]
      exact ih h.2

variable (daemon : Daemon) (event : DaemonEvent)

theorem reconnectTunnel_wish : .disconnect ∉ daemon.reconnectTunnel := by
  unfold reconnectTunnel
  split_ifs <;> simp

/-- Only `set_target_state` sends a command to disconnect. -/
theorem handleEvent_disconnect (hevent : ∀ state, event ≠ .setTargetState state) :
    (daemon.handleEvent event).1.targetState.state = daemon.targetState.state ∧
      .disconnect ∉ (daemon.handleEvent event).2 := by
  have hupdate : ∀ settings saved {commands}, .disconnect ∉ commands →
      (daemon.updateSettings settings saved commands).1.targetState.state = daemon.targetState.state ∧
        .disconnect ∉ (daemon.updateSettings settings saved commands).2 := by
    intro settings saved commands h
    unfold updateSettings
    split_ifs
    · exact ⟨rfl, h⟩
    · exact ⟨rfl, by simp⟩
  cases event with
  | setTargetState state => exact absurd rfl (hevent state)
  | reconnect =>
    refine ⟨rfl, ?_⟩
    simp only [Daemon.handleEvent, Daemon.onReconnect]
    split_ifs <;> simp
  | restartTunnel | deviceRevoked => exact ⟨rfl, reconnectTunnel_wish daemon⟩
  | accountExpiry expired =>
    refine ⟨rfl, ?_⟩
    simp only [Daemon.handleEvent, Daemon.accountExpiry]
    split_ifs
    · simp
    · simp
    · split <;> simp
    · simp
  | setAllowLan allowLan saved => exact hupdate _ saved (by simp)
  | setLockdownMode lockdownMode saved =>
    simp only [Daemon.handleEvent]
    split_ifs
    · exact ⟨rfl, by simp⟩
    · exact hupdate _ saved (by simp)
  | setAutoConnect autoConnect saved | setDnsOptions dnsOptions saved => exact hupdate _ saved (by simp)
  | resetSettings =>
    refine ⟨rfl, ?_⟩
    have hreconnect := reconnectTunnel_wish { daemon with settings := .default }
    simp only [Daemon.handleEvent, Daemon.onResetSettings, List.mem_append, not_or]
    refine ⟨⟨⟨?_, ?_⟩, by simp⟩, hreconnect⟩
    · split_ifs <;> simp
    · split_ifs <;> simp
  | factoryReset => exact ⟨rfl, by simp [Daemon.handleEvent]⟩
  | setExcludedApps apps | allowEndpoint endpoint =>
    refine ⟨rfl, ?_⟩
    simp only [Daemon.handleEvent]
    split_ifs <;> simp
  | prepareRestart =>
    refine ⟨rfl, ?_⟩
    simp only [Daemon.handleEvent, Daemon.onPrepareRestart]
    split_ifs <;> simp

theorem handleEvent_os : (daemon.handleEvent event).1.os = daemon.os := by
  have hupdate : ∀ settings saved commands,
      (daemon.updateSettings settings saved commands).1.os = daemon.os := by
    intro settings saved commands
    unfold updateSettings
    split_ifs <;> rfl
  cases event with
  | setTargetState state =>
    simp only [Daemon.handleEvent, Daemon.setTargetState]
    split_ifs <;> rfl
  | setAllowLan allowLan saved => exact hupdate _ saved _
  | setLockdownMode lockdownMode saved =>
    simp only [Daemon.handleEvent]
    split_ifs
    · rfl
    · exact hupdate _ saved _
  | setAutoConnect autoConnect saved | setDnsOptions dnsOptions saved => exact hupdate _ saved _
  | reconnect | restartTunnel | deviceRevoked | accountExpiry _ => rfl
  | resetSettings | factoryReset | setExcludedApps _ | allowEndpoint _ | prepareRestart => rfl

theorem running_init (hos : env.os ≠ .android) (start : Start) : Running env (new env start) := by
  have hentering := DisconnectedState.enter_entering env
    (TunnelStateMachine.initialShared env start.initialTunnelState start.connectivity start.leftover)
    start.initialTunnelState.resetFirewall
  have hstate : (new env start).fed.machine.currentState = some .disconnected :=
    congrArg some hentering.state
  refine ⟨rfl, rfl, by simp [hstate], ?_, ?_⟩
  · unfold AtRest
    rw [hstate]
    refine ⟨hentering.effect.blocksAsAsked hos ?_, hentering.effect.persistsAsAsked⟩
    by_cases hsecured : start.targetState = .secured
    · exact .inr (.inl (by simp [new, hsecured]))
    · exact .inl (by simp [Start.initialTunnelState, hsecured])
  · intro hsecured
    have hqueue : (new env start).fed.queue = start.early ++ [.connect] := by
      rw [new, if_pos (show start.targetState = .secured from hsecured)]
    rw [hqueue, wish_append _ _ _ (by simp [hstate])]
    rfl

theorem running_step {event : SystemEvent} (hos : env.os ≠ .android) (h : Running env sys)
    (hstep : step env sys event = some sys') : Running env sys' := by
  cases event with
  | daemon event =>
    obtain rfl := Option.some.inj hstep
    refine ⟨(handleEvent_os sys.daemon event).trans h.os, h.opened, h.alive,
      atRest_send _ h.alive h.atRest, fun hsecured => ?_⟩
    rw [send, wish_append _ _ _ h.alive]
    by_cases hevent : ∃ state, event = .setTargetState state
    · obtain ⟨state, rfl⟩ := hevent
      simp only [setTargetState] at hsecured ⊢
      split_ifs at hsecured ⊢ with hchanged
      · subst hsecured
        rfl
      · exact h.wish hsecured
    · obtain ⟨htarget, hdisconnect⟩ := handleEvent_disconnect sys.daemon event (by simpa using hevent)
      rw [h.wish (htarget.symm.trans hsecured)]
      exact foldl_wishAfter_true hdisconnect
  | report =>
    simp only [step] at hstep
    split at hstep
    · cases hstep
    · obtain rfl := Option.some.inj hstep
      exact ⟨h.os, h.opened, h.alive, h.atRest, h.wish⟩
  | monitor command =>
    simp only [step] at hstep
    split_ifs at hstep with hmonitor
    obtain rfl := Option.some.inj hstep
    refine ⟨h.os, h.opened, h.alive, atRest_send _ h.alive h.atRest, fun hsecured => ?_⟩
    rw [send, wish_append _ _ _ h.alive, h.wish hsecured]
    refine foldl_wishAfter_true ?_
    rintro (_ | ⟨_, ⟨⟩⟩)
    cases hmonitor
  | machine event =>
    simp only [step, Option.map_eq_some_iff] at hstep
    obtain ⟨fed, hfed, rfl⟩ := hstep
    obtain ⟨hreceive, hmachine, hclosed⟩ := FedMachine.step_cases hfed
    rw [h.opened] at hreceive
    obtain ⟨state, hstate⟩ := Option.ne_none_iff_exists'.mp h.alive
    obtain ⟨state', hstate', _⟩ := step_wantsTunnel hmachine hstate (by
      rintro rfl
      exact absurd (FedMachine.receive_end hreceive).1 (by simp))
    exact ⟨h.os, hclosed.trans h.opened, by simp [hstate'], atRest_step hos hfed h.atRest,
      fun hsecured => wish_step hreceive hmachine (h.wish hsecured)⟩

variable {history : List SystemEvent}

theorem run_running (hos : env.os ≠ .android) (hrun : (system env).Run history sys) : Running env sys := by
  refine TransitionSystem.Run.invariant (I := fun _ => Running env) ?_ ?_ hrun
  · rintro _ ⟨start, _, rfl⟩
    exact running_init hos start
  · exact fun _ _ _ _ _ h hstep => running_step hos h hstep

/-- The machine's part of a run is a run of the machine. -/
theorem run_machine (hrun : (system env).Run history sys) :
    ∃ events, (TunnelStateMachine.system env).Run events sys.fed.machine := by
  refine hrun.invariant
    (I := fun _ sys => ∃ events, (TunnelStateMachine.system env).Run events sys.fed.machine) ?_ ?_
  · rintro _ ⟨start, _, rfl⟩
    exact ⟨[], .init ⟨_, _, _, rfl⟩⟩
  · rintro _ sys event sys' _ ⟨events, hevents⟩ hstep
    cases event with
    | machine event =>
      obtain ⟨fed, hfed, rfl⟩ := Option.map_eq_some_iff.mp hstep
      exact ⟨event :: events, hevents.step (FedMachine.step_cases hfed).2.1⟩
    | daemon _ =>
      cases hstep
      exact ⟨events, hevents⟩
    | report | monitor _ =>
      simp only [system, step] at hstep
      split at hstep <;> cases hstep
      exact ⟨events, hevents⟩

end DaemonSystem

end MullvadVpn
