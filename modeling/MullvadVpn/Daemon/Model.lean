import MullvadVpn.Tunnel.Settled

/-!
The part of the daemon (`mullvad_daemon::Daemon`) that drives the tunnel state machine: its target
state, the settings it forwards, the last tunnel state it has heard of, and the handlers that send
tunnel commands. A handler returns the commands it sends, in order.
-/

namespace MullvadVpn

open Net Tunnel

inductive TargetState where
  | unsecured
  | secured
  deriving DecidableEq

/-- The target state and whether its file survives the daemon. -/
structure PersistentTargetState where
  state : TargetState
  locked : Bool

/-- The settings that reach the tunnel state machine or decide what happens at exit. -/
structure DaemonSettings where
  allowLan : Bool
  lockdownMode : Bool
  autoConnect : Bool
  dnsOptions : DnsOptions
  deriving DecidableEq

def DaemonSettings.default : DaemonSettings where
  allowLan := false
  lockdownMode := false
  autoConnect := false
  dnsOptions := ⟨.default, ⟨false, false, false, false, false, false⟩, []⟩

structure Daemon where
  os : TargetOs
  /-- The last transition the daemon has handled. -/
  tunnelState : TunnelStateTransition
  targetState : PersistentTargetState
  settings : DaemonSettings

def isInErrorState : TunnelStateTransition → Bool
  | .error _ _ => true
  | _ => false

def getTunnelType : TunnelStateTransition → Option TunnelType
  | .connecting endpoint => some endpoint.tunnelType
  | .connected endpoint => some endpoint.tunnelType
  | _ => none

/-- What the daemon is asked to do while it runs. Whether new settings could be saved is part of the
request. -/
inductive DaemonEvent where
  | setTargetState (state : TargetState)
  | reconnect
  /-- A login or a change of settings that the tunnel is restarted for. -/
  | restartTunnel
  | deviceRevoked
  | accountExpiry (expired : Bool)
  | setAllowLan (allowLan : Bool) (saved : Bool)
  | setLockdownMode (lockdownMode : Bool) (saved : Bool)
  | setAutoConnect (autoConnect : Bool) (saved : Bool)
  | setDnsOptions (dnsOptions : DnsOptions) (saved : Bool)
  | resetSettings
  | factoryReset
  | setExcludedApps (apps : List String)
  | allowEndpoint (endpoint : AllowedEndpoint)
  | prepareRestart

namespace Daemon

variable (daemon : Daemon)

def isSecured : Bool :=
  daemon.targetState.state == .secured

/-- `connect_tunnel` or `disconnect_tunnel`, whichever the target state asks for. -/
def setTargetState (newState : TargetState) : Daemon × List TunnelCommand :=
  if newState ≠ daemon.targetState.state ∨ isInErrorState daemon.tunnelState then
    ({ daemon with targetState := { daemon.targetState with state := newState } }, match newState with
      | .secured => [.connect]
      | .unsecured => [.disconnect])
  else
    (daemon, [])

def reconnectTunnel : List TunnelCommand :=
  if daemon.isSecured then [.connect] else []

def onReconnect : List TunnelCommand :=
  if daemon.isSecured || isInErrorState daemon.tunnelState then [.connect] else []

/-- The answer to news about the expiry of the account. -/
def accountExpiry (expired : Bool) : List TunnelCommand :=
  if daemon.isSecured then
    if expired then
      if getTunnelType daemon.tunnelState = some .wireguard then
        [.block (.authFailed (some "[EXPIRED_ACCOUNT]"))]
      else
        []
    else
      match daemon.tunnelState with
      | .error (.authFailed _) _ => [.connect]
      | _ => []
  else
    []

/-- `settings.update`, followed by a command if the settings changed. A failure to save leaves the
settings as they were. -/
def updateSettings (settings : DaemonSettings) (saved : Bool) (commands : List TunnelCommand) :
    Daemon × List TunnelCommand :=
  if saved ∧ settings ≠ daemon.settings then
    ({ daemon with settings := settings }, commands)
  else
    (daemon, [])

def onSetAllowLan (allowLan saved : Bool) : Daemon × List TunnelCommand :=
  daemon.updateSettings { daemon.settings with allowLan := allowLan } saved [.allowLan allowLan]

def onSetLockdownMode (lockdownMode saved : Bool) : Daemon × List TunnelCommand :=
  daemon.updateSettings { daemon.settings with lockdownMode := lockdownMode } saved
    [.lockdownMode (.ofBool lockdownMode)]

def onSetAutoConnect (autoConnect saved : Bool) : Daemon × List TunnelCommand :=
  daemon.updateSettings { daemon.settings with autoConnect := autoConnect } saved []

def onSetDnsOptions (dnsOptions : DnsOptions) (saved : Bool) : Daemon × List TunnelCommand :=
  daemon.updateSettings { daemon.settings with dnsOptions := dnsOptions } saved
    [.dns (addressesFromOptions dnsOptions)]

def onResetSettings : Daemon × List TunnelCommand :=
  let daemon := { daemon with settings := .default }
  (daemon, (if daemon.os ≠ .linux then [.setExcludedApps []] else []) ++
    (if daemon.os ≠ .android then [.lockdownMode (.ofBool daemon.settings.lockdownMode)] else []) ++
    [.allowLan daemon.settings.allowLan, .dns (addressesFromOptions daemon.settings.dnsOptions)] ++
    daemon.reconnectTunnel)

/-- Block all traffic before shutting down unless the user asked for the shutdown, then disconnect. -/
def onTriggerShutdown (userInitShutdown : Bool) : List TunnelCommand :=
  (if daemon.os ≠ .android ∧ ¬ userInitShutdown ∧ (daemon.isSecured ∨ daemon.settings.autoConnect) then
    [.lockdownMode .yes]
  else
    []) ++ [.disconnect]

/-- The lockdown mode that `on_prepare_restart` asks for. On Windows the filters are not to outlive a
reboot unless the settings want blocking anyway. -/
def restartLockdownMode : LockdownMode :=
  LockdownMode.yes.persist daemon.os
    (if daemon.os = .windows then daemon.settings.lockdownMode || daemon.settings.autoConnect else true)

/-- `on_prepare_restart`, up to the shutdown it may schedule. -/
def onPrepareRestart : Daemon × List TunnelCommand :=
  ({ daemon with targetState := { daemon.targetState with locked := true } },
    if daemon.os ≠ .android ∧ daemon.isSecured then [.lockdownMode daemon.restartLockdownMode] else [])

def handleEvent : DaemonEvent → Daemon × List TunnelCommand
  | .setTargetState state => daemon.setTargetState state
  | .reconnect => (daemon, daemon.onReconnect)
  | .restartTunnel => (daemon, daemon.reconnectTunnel)
  | .deviceRevoked => (daemon, daemon.reconnectTunnel)
  | .accountExpiry expired => (daemon, daemon.accountExpiry expired)
  | .setAllowLan allowLan saved => daemon.onSetAllowLan allowLan saved
  | .setLockdownMode lockdownMode saved =>
    if daemon.os = .android then (daemon, []) else daemon.onSetLockdownMode lockdownMode saved
  | .setAutoConnect autoConnect saved => daemon.onSetAutoConnect autoConnect saved
  | .setDnsOptions dnsOptions saved => daemon.onSetDnsOptions dnsOptions saved
  | .resetSettings => daemon.onResetSettings
  -- the shutdown that follows is an event of its own
  | .factoryReset => ({ daemon with settings := .default }, [])
  | .setExcludedApps apps => (daemon, if daemon.os = .linux then [] else [.setExcludedApps apps])
  | .allowEndpoint endpoint => (daemon, if daemon.os = .android then [] else [.allowEndpoint endpoint])
  | .prepareRestart => daemon.onPrepareRestart

end Daemon

end MullvadVpn
