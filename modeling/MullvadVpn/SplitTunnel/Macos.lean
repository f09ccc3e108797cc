import MullvadVpn.SplitTunnel.Processes
import MullvadVpn.Tunnel.Types

/-!
The split tunnel of macOS (`split_tunnel/macos/mod.rs`): an actor that starts and stops the process monitor
and its own tunnel interface as the excluded paths and the VPN interface come and go. What its calls to the
system answer is part of each message.
-/

namespace MullvadVpn.SplitTunnel

open Systems Tunnel

/-- Why there is no tunnel interface of split tunneling. -/
inductive TunError where
  | createSplitTunnelInterface
  | addIpv6Address
  | captureSplitTunnelDevice
  | enableNonblock
  | createPcap
  | createStream
  | getNextPacket
  | createDefaultBpf
  | configDefaultBpf
  | createVpnBpf
  | configVpnBpf
  | stopRedirect
  | pktapStreamStopped

inductive DefaultError where
  | getDefaultRoutes
  | getDefaultGateways
  | noDefaultInterface
  | defaultInterfaceMismatch

inductive Error where
  | process (error : ProcessError)
  | initializeTunnel (error : TunError)
  | default (error : DefaultError)
  | unavailable

def ProcessError.toErrorStateCause : ProcessError → ErrorStateCause
  | .needFullDiskPermissions => .needFullDiskPermissions
  | _ => .splitTunnelError

structure VpnInterface where
  name : String
  v4Address : Option (BitVec 32)
  v6Address : Option (BitVec 128)

/-- The tunnel interface of split tunneling, and the interfaces between which it divides traffic. The
default interface is known by its name. -/
structure SplitTunnelHandle where
  name : String
  defaultInterface : String
  vpnInterface : Option VpnInterface

inductive State (Path : Type) where
  /-- There are no paths, and no VPN interface. -/
  | noExclusions
  /-- There is a VPN interface but there are no paths. -/
  | standBy (vpnInterface : VpnInterface)
  /-- There is a process monitor, and no VPN interface yet. -/
  | processMonitorOnly (process : ProcessStates Path)
  /-- There is a tunnel interface of split tunneling. -/
  | active (process : ProcessStates Path) (tunHandle : SplitTunnelHandle) (vpnInterface : VpnInterface)
  /-- Anything at all failed. -/
  | failed (vpnInterface : Option VpnInterface) (cause : Option Error)

/-- What the system answers to one message: `ProcessMonitor::spawn` with the processes it finds,
`get_default_interface`, and the name of the interface after `create_split_tunnel` or `set_interfaces`.
That a tunnel or a monitor could not be shut down is only logged. -/
structure Answers (Path : Type) where
  spawn : Except ProcessError (ProcessStates Path)
  defaultInterface : Except DefaultError String
  createSplitTunnel : Except TunError String
  setInterfaces : Except TunError String

/-- An error, and the state to continue in if that is not the failed one. -/
structure ErrorWithTransition (Path : Type) where
  error : Error
  nextState : Option (State Path)

def ErrorWithTransition.ofError {Path : Type} (error : Error) : ErrorWithTransition Path :=
  ⟨error, none⟩

variable {Path : Type} [DecidableEq Path]

namespace State

def processMonitor : State Path → Option (ProcessStates Path)
  | processMonitorOnly process | active process _ _ => some process
  | noExclusions | standBy _ | failed _ _ => none

def vpnInterface : State Path → Option VpnInterface
  | failed vpnInterface _ => vpnInterface
  | active _ _ vpnInterface | standBy vpnInterface => some vpnInterface
  | noExclusions | processMonitorOnly _ => none

def failCause : State Path → Option Error
  | failed _ cause => cause
  | _ => none

def isActive : State Path → Bool
  | active _ _ _ => true
  | _ => false

def tunHandle : State Path → Option SplitTunnelHandle
  | active _ tunHandle _ => some tunHandle
  | _ => none

variable (state : State Path)

/-- The failed state that is left in place of a state. -/
def fail (cause : Option Error) : State Path :=
  failed state.vpnInterface (cause.or state.failCause)

/-- While the transition works on the state, its failed state is in its place. -/
def transition (state : State Path)
    (transition : State Path → Except (ErrorWithTransition Path) (State Path)) :
    Except Error Unit × State Path :=
  let left := state.fail none
  match transition state with
  | .ok newState => (.ok (), newState)
  | .error ⟨error, some nextState⟩ => (.error error, nextState)
  | .error ⟨error, none⟩ => (.error error, left.fail (some error))

variable (vpnInterface : VpnInterface) (answers : Answers Path) (paths : Finset Path)

def setTunnelInner :
    State Path → Except (ErrorWithTransition Path) (State Path)
  | active process tunHandle oldVpnInterface =>
    match answers.defaultInterface with
    | .error error =>
      .error ⟨.default error, some (active process tunHandle oldVpnInterface)⟩
    | .ok defaultInterface =>
      match answers.setInterfaces with
      | .ok name => .ok (active process ⟨name, defaultInterface, some vpnInterface⟩ vpnInterface)
      | .error error => .error (.ofError (.initializeTunnel error))
  | processMonitorOnly process =>
    match answers.defaultInterface with
    | .error error => .error ⟨.default error, some (processMonitorOnly process)⟩
    | .ok defaultInterface =>
      match answers.createSplitTunnel with
      | .ok name => .ok (active process ⟨name, defaultInterface, some vpnInterface⟩ vpnInterface)
      | .error error => .error (.ofError (.initializeTunnel error))
  | noExclusions => .ok (standBy vpnInterface)
  | standBy _ => .ok (standBy vpnInterface)
  -- The interface is put into the state, which is then dropped with the error.
  | failed _ cause => .error (.ofError (cause.getD .unavailable))

def setTunnel : Except Error Unit × State Path :=
  state.transition (setTunnelInner vpnInterface answers)

def setExcludePathsInner (answers : Answers Path) :
    State Path → Except (ErrorWithTransition Path) (State Path)
  | noExclusions =>
    if paths = ∅ then .ok noExclusions
    else match answers.spawn with
      | .error error => .error (.ofError (.process error))
      | .ok process => .ok (processMonitorOnly (process.setExcludePaths paths))
  | standBy vpnInterface =>
    if paths = ∅ then .ok (standBy vpnInterface)
    else match answers.spawn with
      | .error error => .error (.ofError (.process error))
      | .ok process =>
        setTunnelInner vpnInterface answers (processMonitorOnly (process.setExcludePaths paths))
  | active process tunHandle vpnInterface =>
    if paths = ∅ then .ok (standBy vpnInterface)
    else .ok (active (process.setExcludePaths paths) tunHandle vpnInterface)
  | processMonitorOnly process => .ok (processMonitorOnly (process.setExcludePaths paths))
  | failed vpnInterface cause =>
    if paths = ∅ then
      match vpnInterface with
      | some vpnInterface => .ok (standBy vpnInterface)
      | none => .ok noExclusions
    else .error (.ofError (cause.getD .unavailable))

def setExcludePaths (answers : Answers Path) : Except Error Unit × State Path :=
  state.transition (setExcludePathsInner paths answers)

def resetTunnelInner : State Path → Except (ErrorWithTransition Path) (State Path)
  | active process _ _ => .ok (processMonitorOnly process)
  | standBy _ => .ok noExclusions
  | failed _ cause => .ok (failed none cause)
  | state => .ok state

def resetTunnel : Except Error Unit × State Path :=
  state.transition resetTunnelInner

end State

/-- What the actor receives: the three requests, a message of the process monitor about a process, and
that the process monitor stopped. -/
inductive Message (Path : Type) where
  | setExcludePaths (paths : Finset Path) (answers : Answers Path)
  | setTunnel (vpnInterface : VpnInterface) (answers : Answers Path)
  | resetTunnel
  | processMessage (msg : ESMessage Path)
  | processMonitorStopped (result : Except ProcessError Unit)

/-- What the actor sends: the result of a request, or a tunnel command to block all traffic. -/
inductive Reply where
  | result (result : Except Error Unit)
  | block (cause : ErrorStateCause)
  | nothing

namespace State

/-- The monitor updates its list of processes on its own. -/
def handleProcessMessage (msg : ESMessage Path) : State Path → State Path
  | processMonitorOnly process => processMonitorOnly (process.handleMessage msg)
  | active process tunHandle vpnInterface =>
    active (process.handleMessage msg) tunHandle vpnInterface
  | state => state

def handleProcessMonitorShutdown (state : State Path) (result : Except ProcessError Unit) :
    Reply × State Path :=
  let cause := match result with
    | .ok () => .splitTunnelError
    | .error error => error.toErrorStateCause
  let failCause := match result with
    | .ok () => none
    | .error error => some (.process error)
  (if state.isActive then .block cause else .nothing, state.fail failCause)

/-- Messages of the process monitor, and that it stopped, come only while there is one. -/
def handle (state : State Path) : Message Path → Option (Reply × State Path)
  | .setExcludePaths paths answers =>
    let (result, state) := state.setExcludePaths paths answers
    some (.result result, state)
  | .setTunnel vpnInterface answers =>
    let (result, state) := state.setTunnel vpnInterface answers
    some (.result result, state)
  | .resetTunnel =>
    let (result, state) := state.resetTunnel
    some (.result result, state)
  | .processMessage msg =>
    state.processMonitor.map fun _ => (.nothing, state.handleProcessMessage msg)
  | .processMonitorStopped result =>
    state.processMonitor.map fun _ => state.handleProcessMonitorShutdown result

def system (Path : Type) [DecidableEq Path] : TransitionSystem (State Path) (Message Path) where
  Init state := state = .noExclusions
  step state message := (state.handle message).map (·.2)

end State

end MullvadVpn.SplitTunnel
