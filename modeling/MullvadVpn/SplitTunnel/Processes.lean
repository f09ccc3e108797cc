import MullvadVpn.Systems.TransitionSystem

/-!
The processes that split tunneling keeps track of on macOS (`split_tunnel/macos/process.rs`). A process is
excluded by the paths it has executed, and it passes these on to its children. The list of processes is read
once. After that it follows the messages about `fork`, `exec` and `exit`, and the calls that change the
excluded paths. Paths are compared by their components, so they are values of any type with equality.
-/

namespace MullvadVpn.SplitTunnel

open Systems

/-- `pid_t`. -/
abbrev Pid := Int

inductive ProcessError where
  | unsupportedMacosVersion
  | startMonitor
  | needFullDiskPermissions
  | monitorFailed
  | monitorTaskPanicked
  | initializePids
  | findProcessPath (pid : Pid)

inductive ExclusionStatus where
  | excluded | included | unknown
  deriving DecidableEq

structure ProcessInfo (Path : Type) where
  execPath : Path
  excludedByPaths : Finset Path

inductive ESEvent (Path : Type) where
  | fork (child : Pid)
  | exec (path : Path) (pathTruncated : Bool)
  | exit

/-- A message: the process that made the call, the executable it runs, and the call. -/
structure ESMessage (Path : Type) where
  pid : Pid
  executable : Path
  event : ESEvent Path

/-- Only positive identifiers are those of processes. -/
def checkedPid (pid : Pid) : Option Pid :=
  if 0 < pid then some pid else none

/-- The processes that are known, and the paths that are excluded now. -/
structure ProcessStates (Path : Type) where
  processes : Pid → Option (ProcessInfo Path)
  excludePaths : Finset Path

variable {Path : Type} [DecidableEq Path]

namespace ProcessInfo

def included (execPath : Path) : ProcessInfo Path := ⟨execPath, ∅⟩

def isExcluded (info : ProcessInfo Path) : Bool := info.excludedByPaths ≠ ∅

/-- The process under other excluded paths: of those that excluded it some remain, and its own path may
be one of the new ones. -/
def setExcludePaths (info : ProcessInfo Path) (paths : Finset Path) : ProcessInfo Path :=
  let newExcludePaths := info.excludedByPaths ∩ paths
  { info with
    excludedByPaths :=
      if info.execPath ∈ paths ∧ info.execPath ∉ newExcludePaths then
        insert info.execPath newExcludePaths
      else newExcludePaths }

end ProcessInfo

namespace ProcessStates

def insertListed (processPath : Pid → Option Path) (states : ProcessStates Path) (pid : Pid) :
    Except ProcessError (ProcessStates Path) :=
  match processPath pid with
  | none => .error (.findProcessPath pid)
  | some path =>
    .ok { states with processes := Function.update states.processes pid (some (.included path)) }

def new (listPids : Option (List Pid)) (processPath : Pid → Option Path) :
    Except ProcessError (ProcessStates Path) :=
  match listPids with
  | none => .error .initializePids
  | some pids => pids.foldlM (insertListed processPath) ⟨fun _ => none, ∅⟩

variable (states : ProcessStates Path)

/-- `exclude_paths`. -/
def setExcludePaths (paths : Finset Path) : ProcessStates Path :=
  { processes := fun pid => (states.processes pid).map (·.setExcludePaths paths)
    excludePaths := paths }

def getProcessStatus (pid : Pid) : ExclusionStatus :=
  match states.processes pid with
  | some info => if info.isExcluded then .excluded else .included
  | none => .unknown

/-- A new process has what its parent has. One whose parent is not known counts as included. -/
def handleFork (parentPid : Pid) (execPath : Path) (child : Pid) : ProcessStates Path :=
  match checkedPid child with
  | none => states
  | some pid =>
    let baseInfo := (states.processes parentPid).getD (.included execPath)
    { states with processes := Function.update states.processes pid (some baseInfo) }

def handleExec (pid : Pid) (path : Path) (pathTruncated : Bool) : ProcessStates Path :=
  match states.processes pid with
  | none => states
  | some info =>
    if pathTruncated then states
    else
      let info := { info with execPath := path }
      let info :=
        if info.execPath ∈ info.excludedByPaths then info
        else if info.execPath ∈ states.excludePaths then
          { info with excludedByPaths := insert info.execPath info.excludedByPaths }
        else info
      { states with processes := Function.update states.processes pid (some info) }

def handleExit (pid : Pid) : ProcessStates Path :=
  { states with processes := Function.update states.processes pid none }

def handleMessage (msg : ESMessage Path) : ProcessStates Path :=
  match checkedPid msg.pid with
  | none => states
  | some pid =>
    match msg.event with
    | .fork child => states.handleFork pid msg.executable child
    | .exec path pathTruncated => states.handleExec pid path pathTruncated
    | .exit => states.handleExit pid

end ProcessStates

inductive ProcessEvent (Path : Type) where
  | message (msg : ESMessage Path)
  | excludePaths (paths : Finset Path)

namespace ProcessStates

def handle (states : ProcessStates Path) : ProcessEvent Path → ProcessStates Path
  | .message msg => states.handleMessage msg
  | .excludePaths paths => states.setExcludePaths paths

/-- Runs start with any list of processes that could be read. -/
def system (Path : Type) [DecidableEq Path] :
    TransitionSystem (ProcessStates Path) (ProcessEvent Path) where
  Init states := ∃ listPids processPath, new listPids processPath = .ok states
  step states event := some (states.handle event)

end ProcessStates

end MullvadVpn.SplitTunnel
