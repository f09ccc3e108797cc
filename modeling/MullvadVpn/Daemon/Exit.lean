import MullvadVpn.Daemon.System
import MullvadVpn.Tunnel.Guarded

/-!
What the daemon leaves in force when it exits. The commands of `on_trigger_shutdown`, possibly after
those of `on_prepare_restart`, are the last ones; then the channel is closed and the machine runs to
its end. The firewall is left blocking exactly when lockdown mode is on by then. On Windows, the
lockdown mode that a prepared restart asks for is overwritten by the shutdown that follows it. Until
then the firewall follows the target state and the lockdown mode.
-/

namespace MullvadVpn

open Net Systems Tunnel
open DaemonSystem (Running atRest_send new run_running system wish_append)
open FedMachine (drain drain_pendingLockdown pendingLockdown receive receive_command receive_end step_cases)

/-- The last commands of the daemon, with or without a prepared restart. -/
def Daemon.exitCommands (daemon : Daemon) (restart userInitShutdown : Bool) : List TunnelCommand :=
  if restart then
    daemon.onPrepareRestart.2 ++ daemon.onPrepareRestart.1.onTriggerShutdown userInitShutdown
  else
    daemon.onTriggerShutdown userInitShutdown

/-- The machine once the daemon has sent its last commands and closed the channel. While it waits for
the tunnel to come down, the daemon may repeat the command to disconnect. -/
def DaemonSystem.closing (sys : DaemonSystem) (restart userInitShutdown : Bool) (repeated : Nat) :
    FedMachine where
  machine := sys.fed.machine
  queue := sys.fed.queue ++ (sys.daemon.exitCommands restart userInitShutdown ++
    List.replicate repeated .disconnect)
  closed := true

/-- When the firewall is left blocking. -/
def DaemonSystem.BlocksAtExit (sys : DaemonSystem) (restart userInitShutdown : Bool) : Prop :=
  sys.fed.pendingLockdown = true ∨ (restart = true ∧ sys.daemon.targetState.state = .secured) ∨
    (userInitShutdown = false ∧
      (sys.daemon.targetState.state = .secured ∨ sys.daemon.settings.autoConnect = true))

variable {env : Environment} {sys : DaemonSystem} {events : List EventResult} {final : FedMachine}

theorem foldl_lockdownAfter_replicate (on : Bool) (repeated : Nat) :
    (List.replicate repeated TunnelCommand.disconnect).foldl lockdownAfter on = on := by
  induction repeated with
  | zero => rfl
  | succ repeated ih => exact ih

theorem restartLockdownMode_bool (daemon : Daemon) : daemon.restartLockdownMode.bool = true := by
  unfold Daemon.restartLockdownMode LockdownMode.persist
  split_ifs <;> rfl

variable {daemon : Daemon}

theorem onTriggerShutdown_lockdown (hos : daemon.os ≠ .android) (on userInitShutdown : Bool) :
    (daemon.onTriggerShutdown userInitShutdown).foldl lockdownAfter on =
      (on || (!userInitShutdown && (daemon.isSecured || daemon.settings.autoConnect))) := by
  unfold Daemon.onTriggerShutdown
  split_ifs with hlock
  · obtain ⟨_, huser, hwant⟩ := hlock
    simp [lockdownAfter, LockdownMode.yes, LockdownMode.bool, huser, hwant]
  · cases userInitShutdown <;> simp_all [lockdownAfter]

theorem exitCommands_lockdown (hos : daemon.os ≠ .android) (on restart userInitShutdown : Bool) :
    (daemon.exitCommands restart userInitShutdown).foldl lockdownAfter on =
      (on || (restart && daemon.isSecured) ||
        (!userInitShutdown && (daemon.isSecured || daemon.settings.autoConnect))) := by
  have hprepared := onTriggerShutdown_lockdown
    (show daemon.onPrepareRestart.1.os ≠ .android from hos) (on || daemon.isSecured) userInitShutdown
  cases restart with
  | false => simpa [Daemon.exitCommands] using onTriggerShutdown_lockdown hos on userInitShutdown
  | true =>
    have hrestart : daemon.onPrepareRestart.2.foldl lockdownAfter on = (on || daemon.isSecured) := by
      unfold Daemon.onPrepareRestart
      split_ifs with hlock
      · simp [lockdownAfter, restartLockdownMode_bool, hlock.2]
      · simp [show daemon.isSecured = false by simpa [hos] using hlock]
    simp only [Daemon.exitCommands, if_true, List.foldl_append, hrestart, Bool.true_and]
    exact hprepared

theorem closing_pendingLockdown (hos : sys.daemon.os ≠ .android) (restart userInitShutdown : Bool)
    (repeated : Nat) :
    (sys.closing restart userInitShutdown repeated).pendingLockdown = true ↔
      sys.BlocksAtExit restart userInitShutdown := by
  have hfold : (sys.closing restart userInitShutdown repeated).pendingLockdown =
      (sys.fed.pendingLockdown || (restart && sys.daemon.isSecured) ||
        (!userInitShutdown && (sys.daemon.isSecured || sys.daemon.settings.autoConnect))) := by
    unfold pendingLockdown DaemonSystem.closing
    rw [List.foldl_append, List.foldl_append, foldl_lockdownAfter_replicate, exitCommands_lockdown hos]
  rw [hfold]
  simp [DaemonSystem.BlocksAtExit, Daemon.isSecured, or_assoc]

variable {start : FedMachine} {history : List SystemEvent}

theorem drain_atRest (hos : env.os ≠ .android) (hstart : AtRest env start)
    (hdrain : (drain env start).Run events final) : AtRest env final := by
  refine TransitionSystem.Run.invariant (I := fun _ => AtRest env) ?_ ?_ hdrain
  · rintro _ rfl
    exact hstart
  · exact fun _ _ _ _ _ hrest hstep => atRest_step hos hstep hrest

theorem closing_atRest (hrunning : Running env sys) (restart userInitShutdown : Bool)
    (repeated : Nat) : AtRest env (sys.closing restart userInitShutdown repeated) := by
  have hsent := atRest_send (sys.daemon.exitCommands restart userInitShutdown ++
    List.replicate repeated .disconnect) hrunning.alive hrunning.atRest
  unfold AtRest at hsent ⊢
  exact hsent

/-- **Blocking at exit.** From every state of daemon and machine, with whatever is still in the
channel; there is neither a firewall nor a lockdown mode on Android. -/
theorem blocking_at_exit (hos : env.os ≠ .android) {history : List SystemEvent}
    (hrun : (system env).Run history sys) (restart userInitShutdown : Bool) (repeated : Nat)
    (hdrain : (drain env (sys.closing restart userInitShutdown repeated)).Run events final)
    (hfinished : final.machine.currentState = none) (hworked : final.machine.shared.FirewallWorked) :
    (final.machine.shared.firewall.policy.isSome = true ↔ sys.BlocksAtExit restart userInitShutdown) ∧
      (¬ sys.BlocksAtExit restart userInitShutdown → final.machine.shared.firewall.policy = none) := by
  have hrunning := run_running hos hrun
  have hrest := drain_atRest hos (closing_atRest hrunning restart userInitShutdown repeated) hdrain
  simp only [AtRest, hfinished] at hrest
  obtain ⟨hqueue, hblocks, _⟩ := hrest
  have hmode : final.machine.shared.lockdownMode.bool =
      (sys.closing restart userInitShutdown repeated).pendingLockdown := by
    rw [← drain_pendingLockdown hdrain, pendingLockdown, hqueue]
    rfl
  have hiff := closing_pendingLockdown (hrunning.os ▸ hos) restart userInitShutdown repeated
  rw [← hmode] at hiff
  have hoff : ¬ sys.BlocksAtExit restart userInitShutdown → final.machine.shared.firewall.policy = none := by
    intro hnot
    have hoff := (hblocks hworked).off (by simpa using mt hiff.mp hnot)
    simpa using hoff
  refine ⟨⟨fun hsome => ?_, fun hblock => (hblocks hworked).on (hiff.mpr hblock)⟩, hoff⟩
  by_contra hnot
  simp [hoff hnot] at hsome

/-- A daemon whose previous run left a secured target state behind. -/
def DaemonSystem.Start.secured : Start where
  settings := .default
  cachedTargetState := .secured
  allowedEndpoint := ⟨⟨⟨.v4 (ipv4Addr 192 0 2 2), 443⟩, .tcp⟩, .root⟩
  excludePaths := []
  connectivity := .presumeOnline
  leftover := none
  early := []

theorem DaemonSystem.Start.secured_run (env : Environment) : (system env).Run [] (new env .secured) :=
  .init ⟨.secured, by simp [secured], rfl⟩

/-- An upgrade that begins right after the daemon has started. -/
def upgrading : DaemonSystem :=
  new (.reliable .windows directRelay) .secured

/-- **Secured.** On desktop, a machine that has received all commands is after a tunnel, and guarded. -/
theorem secured_guarded (hos : env.os ≠ .android) (hrun : (system env).Run history sys)
    (hsecured : sys.daemon.targetState.state = .secured) (hqueue : sys.fed.queue = []) :
    ∃ state, sys.fed.machine.currentState = some state ∧ state.wantsTunnel = true ∧
      Guarded state sys.fed.machine.transitions.head? sys.fed.machine.shared := by
  have hwish := (run_running hos hrun).wish hsecured
  obtain ⟨events, hevents⟩ := DaemonSystem.run_machine hrun
  rw [hqueue, TunnelStateMachine.wish] at hwish
  split at hwish
  · rename_i state hstate
    exact ⟨state, hstate, hwish, run_guarded hos hevents hstate⟩
  · cases hwish

theorem secured_guarded_connecting : ∃ sys state, (system (.reliable .windows directRelay)).step
    upgrading (.machine (.command (some .connect))) = some sys ∧
      Guarded state sys.fed.machine.transitions.head? sys.fed.machine.shared := by
  have hrun := (DaemonSystem.Start.secured_run (.reliable .windows directRelay)).step
    (e := .machine (.command (some .connect))) rfl
  obtain ⟨state, _, _, hguarded⟩ := secured_guarded (by decide) hrun rfl rfl
  exact ⟨_, state, rfl, hguarded⟩

/-- **At rest.** A disconnected machine blocks exactly in lockdown mode, whatever was in force at first. -/
theorem disconnected_blocks (hos : env.os ≠ .android) (hrun : (system env).Run history sys)
    (hstate : sys.fed.machine.currentState = some .disconnected)
    (hqueue : .connect ∉ sys.fed.queue) (hworked : sys.fed.machine.shared.FirewallWorked) :
    sys.fed.machine.shared.firewall.policy.isSome = sys.fed.machine.shared.lockdownMode.bool := by
  have hrest := (run_running hos hrun).atRest
  simp only [AtRest, hstate] at hrest
  cases hmode : sys.fed.machine.shared.lockdownMode.bool with
  | true => exact (hrest.1 hworked).on hmode
  | false => simpa [hqueue] using (hrest.1 hworked).off hmode

/-- A daemon that does not connect and finds the policy of an earlier process in force. -/
def Sample.leftover : DaemonSystem :=
  new (.reliable .linux directRelay) { DaemonSystem.Start.secured with
    cachedTargetState := .unsecured
    leftover := some (.blocked false none) }

/-- The policy is reset, one is applied when lockdown mode is turned on, and reset when it is turned off. -/
theorem disconnected_blocks_toggled :
    let system := system (.reliable .linux directRelay)
    ∃ locked unlocked, system.exec Sample.leftover [.daemon (.setLockdownMode true true),
        .machine (.command (some (.lockdownMode .yes)))] = some locked ∧
      system.exec locked [.daemon (.setLockdownMode false true),
        .machine (.command (some (.lockdownMode .no)))] = some unlocked ∧
      locked.fed.machine.shared.firewall.policy.isSome = true ∧
      unlocked.fed.machine.shared.firewall.policy.isSome = false := by
  intro system
  have hstart : system.Run [] Sample.leftover := .init ⟨_, by simp [DaemonSystem.Start.secured], rfl⟩
  have hlocked := (hstart.step (e := .daemon (.setLockdownMode true true)) rfl).step
    (e := .machine (.command (some (.lockdownMode .yes)))) rfl
  have hunlocked := (hlocked.step (e := .daemon (.setLockdownMode false true)) rfl).step
    (e := .machine (.command (some (.lockdownMode .no)))) rfl
  exact ⟨_, _, rfl, rfl, disconnected_blocks (by decide) hlocked rfl (by decide) (by decide),
    disconnected_blocks (by decide) hunlocked rfl (by decide) (by decide)⟩

/-- The events of an upgrade that begins before the machine has received its first command. -/
def upgradeEvents : List EventResult :=
  [.command (some .connect), .command (some (.lockdownMode (.enabled false))),
    .command (some (.lockdownMode .yes)), .command (some .disconnect), .close (.ok none), .command none]

theorem exists_upgraded : ∃ final, (drain (.reliable .windows directRelay) (upgrading.closing true false 0)).exec
    (upgrading.closing true false 0) upgradeEvents = some final :=
  ⟨_, rfl⟩

theorem drain_upgrading {final}
    (h : (drain (.reliable .windows directRelay) (upgrading.closing true false 0)).exec
      (upgrading.closing true false 0) upgradeEvents = some final) :
    (drain (.reliable .windows directRelay) (upgrading.closing true false 0)).Run
      (upgradeEvents.reverse ++ []) final :=
  (TransitionSystem.Run.init rfl).exec h

theorem blocking_at_exit_upgrade :
    ∃ final, (drain (.reliable .windows directRelay) (upgrading.closing true false 0)).exec
        (upgrading.closing true false 0) upgradeEvents = some final ∧
      final.machine.currentState = none ∧ final.machine.shared.firewall.policy.isSome = true := by
  obtain ⟨final, hexec⟩ := exists_upgraded
  have hdrain := drain_upgrading hexec
  obtain rfl := Option.some.inj hexec
  exact ⟨_, rfl, rfl, (blocking_at_exit (by decide) (DaemonSystem.Start.secured_run _) true false 0
    hdrain rfl (by decide)).1.mpr (.inr (.inl ⟨rfl, rfl⟩))⟩

/-- What becomes of the filters when the firewall is dropped, on Windows. -/
inductive WinFwCleanupPolicy where
  | continueBlocking
  | blockingUntilReboot
  deriving DecidableEq

def cleanupPolicy (firewall : FirewallStatus) : WinFwCleanupPolicy :=
  if firewall.persist then .continueBlocking else .blockingUntilReboot

/-- A lockdown mode that persists has been received, or will be while the machine is not disconnected.
Nothing but commands to disconnect comes after it. -/
def Persisting (fed : FedMachine) : Prop :=
  (∃ before after, fed.queue = before ++ .lockdownMode .yes :: after ∧
      (∀ command ∈ after, command = .disconnect) ∧ fed.machine.wish before = true) ∨
    (∀ command ∈ fed.queue, command = .disconnect) ∧ fed.machine.shared.lockdownMode = .yes

variable {event : EventResult}

theorem receive_append {closed : Bool} {before after queue command}
    (h : receive closed (before ++ command :: after) event = some queue) :
    before = [] ∧ event = .command (some command) ∧ queue = after ∨
      ∃ before', receive false before event = some before' ∧ queue = before' ++ command :: after := by
  match event with
  | .command (some received) =>
    have hqueue := receive_command h
    cases before with
    | nil =>
      obtain ⟨rfl, rfl⟩ := List.cons.inj hqueue
      exact .inl ⟨rfl, rfl, rfl⟩
    | cons first before =>
      obtain ⟨rfl, rfl⟩ := List.cons.inj hqueue
      exact .inr ⟨before, by simp [receive], rfl⟩
  | .command none => exact absurd (receive_end h).2.1 (by simp)
  | .event _ | .close _ => exact .inr ⟨before, rfl, (Option.some.inj h).symm⟩

theorem step_settings {machine machine'}
    (hstep : TunnelStateMachine.step env machine event = some machine')
    (h : machine.currentState ≠ some .disconnected ∨ ∀ mode, event ≠ .command (some (.lockdownMode mode))) :
    machine'.shared.settings = machine.shared.settings.update event := by
  obtain ⟨state, consequence, shared, hstate, _, houtcome, rfl⟩ := TunnelStateMachine.step_cases hstep
  rw [TunnelStateMachine.advance_shared]
  rcases outcome_settings houtcome with hsettings | ⟨rfl, _, mode, rfl, _⟩
  · exact hsettings
  · rcases h with hdisconnected | hmode
    · exact absurd hstate hdisconnected
    · exact absurd rfl (hmode mode)

theorem persisting_step {fed fed'}
    (hstep : fed.step env event = some fed') (h : Persisting fed) : Persisting fed' := by
  obtain ⟨hreceive, hmachine, _⟩ := step_cases hstep
  rcases h with ⟨before, after, hqueue, hafter, hwish⟩ | ⟨hqueue, hmode⟩
  · rw [hqueue] at hreceive
    rcases receive_append hreceive with ⟨rfl, rfl, rfl⟩ | ⟨before', hreceive', hqueue'⟩
    · have hsettings := step_settings hmachine (.inl (by
        intro hdisconnected
        simp [TunnelStateMachine.wish, hdisconnected, TunnelState.wantsTunnel] at hwish))
      exact Or.inr ⟨hafter, congrArg Settings.lockdownMode hsettings⟩
    · exact .inl ⟨before', after, hqueue', hafter, wish_step hreceive' hmachine hwish⟩
  · refine .inr ?_
    rcases event with (_ | command) | _ | _
    · have hsettings := step_settings hmachine (.inr (by simp))
      exact ⟨by simp [(receive_end hreceive).2.2], (congrArg Settings.lockdownMode hsettings).trans hmode⟩
    · rw [receive_command hreceive] at hqueue
      obtain rfl := hqueue command (List.mem_cons_self ..)
      have hsettings := step_settings hmachine (.inr (by simp))
      exact ⟨fun command hmem => hqueue command (List.mem_cons_of_mem _ hmem),
        (congrArg Settings.lockdownMode hsettings).trans hmode⟩
    all_goals
      have hsettings := step_settings hmachine (.inr (by simp))
      exact ⟨Option.some.inj hreceive ▸ hqueue, (congrArg Settings.lockdownMode hsettings).trans hmode⟩

theorem drain_persisting (hstart : Persisting start)
    (hdrain : (drain env start).Run events final) : Persisting final := by
  refine TransitionSystem.Run.invariant (I := fun _ => Persisting) ?_ ?_ hdrain
  · rintro _ rfl
    exact hstart
  · exact fun _ _ _ _ _ h hstep => persisting_step hstep h

/-- With a secured target state, the shutdown that follows a prepared restart sends a lockdown mode of
its own. -/
theorem closing_persisting (hrunning : Running env sys) (hos : env.os = .windows)
    (hsecured : sys.daemon.targetState.state = .secured) (repeated : Nat) :
    Persisting (sys.closing true false repeated) := by
  have hdesktop : sys.daemon.os ≠ .android := by simp [hrunning.os, hos]
  have hcommands : sys.daemon.exitCommands true false =
      [.lockdownMode sys.daemon.restartLockdownMode, .lockdownMode .yes, .disconnect] := by
    simp [Daemon.exitCommands, Daemon.onPrepareRestart, Daemon.onTriggerShutdown, Daemon.isSecured,
      hdesktop, hsecured]
  refine .inl ⟨sys.fed.queue ++ [.lockdownMode sys.daemon.restartLockdownMode],
    .disconnect :: List.replicate repeated .disconnect, ?_, ?_, ?_⟩
  · simp [DaemonSystem.closing, hcommands]
  · simp +contextual
  · exact (wish_append _ _ _ hrunning.alive).trans (hrunning.wish hsecured)

/-- **Upgrades leave persistent filters.** With a secured target state, the filters left behind by
`on_prepare_restart(true)` survive a reboot, also where it asked for filters that do not. -/
theorem upgrade_leaves_persistent_filters (hos : env.os = .windows) {history : List SystemEvent}
    (hrun : (system env).Run history sys)
    (hsecured : sys.daemon.targetState.state = .secured) (repeated : Nat)
    (hdrain : (drain env (sys.closing true false repeated)).Run events final)
    (hfinished : final.machine.currentState = none) (hworked : final.machine.shared.FirewallWorked) :
    (sys.daemon.settings.lockdownMode = false → sys.daemon.settings.autoConnect = false →
        sys.daemon.restartLockdownMode = .enabled false) ∧
      final.machine.shared.firewall.policy.isSome = true ∧
      cleanupPolicy final.machine.shared.firewall = .continueBlocking := by
  have hdesktop : env.os ≠ .android := by simp [hos]
  have hrunning := run_running hdesktop hrun
  have hrest := drain_atRest hdesktop (closing_atRest hrunning true false repeated) hdrain
  simp only [AtRest, hfinished] at hrest
  obtain ⟨hqueue, hblocks, hpersists⟩ := hrest
  have hmode : final.machine.shared.lockdownMode = .yes := by
    rcases drain_persisting (closing_persisting hrunning hos hsecured repeated) hdrain with
      ⟨before, after, hbefore, _⟩ | ⟨_, hmode⟩
    · simp [hqueue] at hbefore
    · exact hmode
  have hon : final.machine.shared.lockdownMode.bool = true := by
    rw [hmode]
    rfl
  refine ⟨fun hlockdown hauto => ?_, (hblocks hworked).on hon, ?_⟩
  · simp [Daemon.restartLockdownMode, hrunning.os, hos, hlockdown, hauto, LockdownMode.persist,
      LockdownMode.yes]
  · rw [cleanupPolicy, hpersists hos hon, hmode]
    rfl

theorem upgrade_leaves_persistent_filters_secured :
    ∃ final, (drain (.reliable .windows directRelay) (upgrading.closing true false 0)).exec
        (upgrading.closing true false 0) upgradeEvents = some final ∧
      cleanupPolicy final.machine.shared.firewall = .continueBlocking := by
  obtain ⟨final, hexec⟩ := exists_upgraded
  have hdrain := drain_upgrading hexec
  obtain rfl := Option.some.inj hexec
  exact ⟨_, rfl, (upgrade_leaves_persistent_filters rfl (DaemonSystem.Start.secured_run _) rfl 0
    hdrain rfl (by decide)).2.2⟩

/-- The settings are off and the restart asks for filters that last until the next reboot, but those
left behind last longer. -/
theorem upgrade_not_until_reboot :
    ∃ final, (drain (.reliable .windows directRelay) (upgrading.closing true false 0)).exec
        (upgrading.closing true false 0) upgradeEvents = some final ∧
      upgrading.daemon.settings.lockdownMode = false ∧
      upgrading.daemon.settings.autoConnect = false ∧
      final.machine.currentState = none ∧ final.machine.shared.FirewallWorked ∧
      final.machine.shared.firewall.policy.isSome = true ∧
      cleanupPolicy final.machine.shared.firewall ≠ .blockingUntilReboot := by
  obtain ⟨final, hexec⟩ := exists_upgraded
  obtain rfl := Option.some.inj hexec
  exact ⟨_, rfl, rfl, rfl, rfl, by decide, rfl, by decide⟩

end MullvadVpn
