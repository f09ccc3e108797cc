import MullvadVpn.SplitTunnel.Processes
import MullvadVpn.Systems.Fallible

/-!
Exclusion of processes on macOS. It follows the excluded paths and the executables of the processes, and
children inherit it, exactly as long as no process whose parent is not known is first seen running an
excluded executable: such a process counts as included until it executes something else or the paths change.
-/

namespace MullvadVpn.SplitTunnel

open Systems ProcessInfo

variable {Path : Type} [DecidableEq Path]

namespace ProcessStates

/-- A process is excluded only by paths that are excluded now, and it is if it executes one of them. -/
structure Sound (states : ProcessStates Path) : Prop where
  current : ∀ pid info, states.processes pid = some info → info.excludedByPaths ⊆ states.excludePaths
  reported : ∀ pid info, states.processes pid = some info → info.execPath ∈ states.excludePaths →
    states.getProcessStatus pid = .excluded

end ProcessStates

/-- The process with this identifier ends, or a new one takes the identifier. -/
def ProcessEvent.Replaces (pid : Pid) : ProcessEvent Path → Prop
  | .message ⟨_, _, .fork child⟩ => child = pid
  | .message ⟨sender, _, .exit⟩ => sender = pid
  | _ => False

namespace ProcessStates

/-- Exclusion is passed on to children, and lost only by a change of the excluded paths to ones that do
not contain any of the paths that exclude the process. -/
structure Inherits (before : ProcessStates Path) (event : ProcessEvent Path)
    (after : ProcessStates Path) : Prop where
  passed : ∀ parent path child, event = .message ⟨parent, path, .fork child⟩ → 0 < parent →
    0 < child → before.getProcessStatus parent = .excluded → after.getProcessStatus child = .excluded
  kept : ∀ pid, before.getProcessStatus pid = .excluded → ¬ event.Replaces pid →
    (∀ paths, event ≠ .excludePaths paths) → after.getProcessStatus pid = .excluded
  dropped : ∀ paths, event = .excludePaths paths → ∀ pid info, before.processes pid = some info →
    (after.getProcessStatus pid = .excluded ↔
      ∃ path ∈ paths, path ∈ info.excludedByPaths ∨ path = info.execPath)

def Keeps (before : ProcessStates Path) (event : ProcessEvent Path) : Prop :=
  (before.handle event).Sound ∧ Inherits before event (before.handle event)

/-- No process whose parent is not known is first seen with an executable that is excluded. -/
def Safe (before : ProcessStates Path) : ProcessEvent Path → Prop
  | .message ⟨parent, path, .fork child⟩ =>
    0 < parent → 0 < child → before.processes parent = none → path ∉ before.excludePaths
  | _ => True

end ProcessStates

namespace ProcessInfo

/-- What is required of one process. -/
def Sound (paths : Finset Path) (info : ProcessInfo Path) : Prop :=
  info.excludedByPaths ⊆ paths ∧ (info.execPath ∈ paths → info.isExcluded = true)

variable {info : ProcessInfo Path}

theorem isExcluded_iff : info.isExcluded = true ↔ ∃ path, path ∈ info.excludedByPaths := by
  simp only [isExcluded, ne_eq, decide_not, Bool.not_eq_true', decide_eq_false_iff_not]
  exact Finset.nonempty_iff_ne_empty.symm

variable {paths : Finset Path}

theorem sound_included_iff {path : Path} : (included path).Sound paths ↔ path ∉ paths := by
  simp [Sound, included, isExcluded]

theorem mem_setExcludePaths {path : Path} : path ∈ (info.setExcludePaths paths).excludedByPaths ↔
      path ∈ paths ∧ (path ∈ info.excludedByPaths ∨ path = info.execPath) := by
  simp only [setExcludePaths]
  split
  · rename_i hown
    simp only [Finset.mem_insert, Finset.mem_inter]
    constructor
    · rintro (rfl | ⟨hby, hpaths⟩)
      · exact ⟨hown.1, .inr rfl⟩
      · exact ⟨hpaths, .inl hby⟩
    · rintro ⟨hpaths, hby | rfl⟩
      · exact .inr ⟨hby, hpaths⟩
      · exact .inl rfl
  · rename_i hown
    simp only [Finset.mem_inter]
    constructor
    · rintro ⟨hby, hpaths⟩
      exact ⟨hpaths, .inl hby⟩
    · rintro ⟨hpaths, hby | rfl⟩
      · exact ⟨hby, hpaths⟩
      · by_contra hnew
        exact hown ⟨hpaths, by simpa using hnew⟩

theorem isExcluded_setExcludePaths : (info.setExcludePaths paths).isExcluded = true ↔
      ∃ path ∈ paths, path ∈ info.excludedByPaths ∨ path = info.execPath := by
  simp only [isExcluded_iff, mem_setExcludePaths]

end ProcessInfo

namespace ProcessStates

variable {before states : ProcessStates Path} {event : ProcessEvent Path} {pid : Pid}

theorem getProcessStatus_eq_excluded : states.getProcessStatus pid = .excluded ↔
      ∃ info, states.processes pid = some info ∧ info.isExcluded = true := by
  unfold getProcessStatus
  cases states.processes pid with
  | none => simp
  | some info => cases hexcluded : info.isExcluded <;> simp [hexcluded]

theorem sound_iff : states.Sound ↔
    ∀ pid info, states.processes pid = some info → info.Sound states.excludePaths := by
  constructor
  · intro h pid info hinfo
    refine ⟨h.current pid info hinfo, fun hown => ?_⟩
    obtain ⟨info', hinfo', hexcluded⟩ :=
      getProcessStatus_eq_excluded.mp (h.reported pid info hinfo hown)
    cases hinfo.symm.trans hinfo'
    exact hexcluded
  · intro h
    exact ⟨fun pid info hinfo => (h pid info hinfo).1, fun pid info hinfo hown =>
      getProcessStatus_eq_excluded.mpr ⟨info, hinfo, (h pid info hinfo).2 hown⟩⟩

theorem sound_update_iff (h : states.Sound) (pid : Pid) (info : Option (ProcessInfo Path)) :
    Sound { states with processes := Function.update states.processes pid info } ↔
      ∀ new, info = some new → new.Sound states.excludePaths := by
  rw [sound_iff] at h ⊢
  constructor
  · intro hafter new hnew
    exact hafter pid new (by simp [hnew])
  · intro hnew other info' hinfo'
    by_cases hpid : other = pid
    · subst hpid
      exact hnew info' (by simpa using hinfo')
    · exact h other info' (by simpa [Function.update_of_ne hpid] using hinfo')

theorem getProcessStatus_update_of_ne {other : Pid} (h : other ≠ pid) (info : Option (ProcessInfo Path)) :
    getProcessStatus { states with processes := Function.update states.processes pid info } other =
      states.getProcessStatus other := by
  simp [getProcessStatus, Function.update_of_ne h]

theorem sound_new {listPids processPath}
    (h : new listPids processPath = .ok states) : states.Sound := by
  cases listPids with
  | none => cases h
  | some pids =>
    have hall : states.Sound ∧ states.excludePaths = ∅ := by
      refine Fallible.foldlM_invariant (I := fun states => Sound states ∧ states.excludePaths = ∅)
        (fun states pid after hstates hinsert => ?_) ⟨⟨?_, ?_⟩, rfl⟩ h
      · obtain ⟨hsound, hpaths⟩ := hstates
        unfold insertListed at hinsert
        cases hpath : processPath pid with
        | none => simp [hpath] at hinsert
        | some path =>
          simp only [hpath, Except.ok.injEq] at hinsert
          subst hinsert
          refine ⟨(sound_update_iff hsound _ _).mpr ?_, hpaths⟩
          rintro new ⟨⟩
          exact sound_included_iff.mpr (by simp [hpaths])
      · simp
      · simp
    exact hall.1

theorem checkedPid_eq_some {pid : Pid} (h : 0 < pid) : checkedPid pid = some pid := if_pos h

theorem checkedPid_eq_none {pid : Pid} (h : ¬ 0 < pid) : checkedPid pid = none := if_neg h

section Messages

variable {sender child : Pid} {path : Path}

theorem handle_ignored (h : ¬ 0 < sender) (event : ESEvent Path) :
    before.handle (.message ⟨sender, path, event⟩) = before := by
  simp only [handle, handleMessage, checkedPid_eq_none h]

theorem handle_fork_ignored (h : 0 < sender) (hchild : ¬ 0 < child) :
    before.handle (.message ⟨sender, path, .fork child⟩) = before := by
  simp only [handle, handleMessage, handleFork, checkedPid_eq_some h, checkedPid_eq_none hchild]

theorem handle_fork (h : 0 < sender) (hchild : 0 < child) :
    before.handle (.message ⟨sender, path, .fork child⟩) = { before with
        processes := Function.update before.processes child
          (some ((before.processes sender).getD (.included path))) } := by
  simp only [handle, handleMessage, handleFork, checkedPid_eq_some h, checkedPid_eq_some hchild]

theorem handle_exec (h : 0 < sender) (target : Path) (pathTruncated : Bool) :
    before.handle (.message ⟨sender, path, .exec target pathTruncated⟩) =
      before.handleExec sender target pathTruncated := by
  simp only [handle, handleMessage, checkedPid_eq_some h]

theorem handle_exit (h : 0 < sender) : before.handle (.message ⟨sender, path, .exit⟩) =
      { before with processes := Function.update before.processes sender none } := by
  simp only [handle, handleMessage, handleExit, checkedPid_eq_some h]

end Messages

/-- All that an `exec` can do. -/
theorem handleExec_cases (states : ProcessStates Path) (pid : Pid) (path : Path) (pathTruncated : Bool) :
    states.handleExec pid path pathTruncated = states ∨
    ∃ info info', states.processes pid = some info ∧ info'.execPath = path ∧ (∀ p, p ∈ info'.excludedByPaths ↔
        p ∈ info.excludedByPaths ∨ (p = path ∧ path ∈ states.excludePaths)) ∧
      states.handleExec pid path pathTruncated =
        { states with processes := Function.update states.processes pid (some info') } := by
  unfold handleExec
  cases states.processes pid with
  | none => exact .inl rfl
  | some info =>
    cases pathTruncated with
    | true => exact .inl rfl
    | false =>
      refine .inr ⟨info, _, rfl, ?_, ?_, rfl⟩
      · dsimp only
        split_ifs <;> rfl
      · intro p
        dsimp only
        split_ifs with hby hpaths
        · constructor
          · exact .inl
          · rintro (hp | ⟨rfl, -⟩)
            · exact hp
            · exact hby
        · simp [hpaths, or_comm]
        · simp [hpaths]

theorem sound_handle_iff (h : before.Sound) : (before.handle event).Sound ↔ before.Safe event := by
  have hinfo := sound_iff.mp h
  cases event with
  | excludePaths paths =>
    refine iff_of_true (sound_iff.mpr fun pid info' hafter => ?_) trivial
    obtain ⟨info, -, rfl⟩ := Option.map_eq_some_iff.mp hafter
    refine ⟨fun path hpath => (mem_setExcludePaths.mp hpath).1, fun hown => ?_⟩
    exact isExcluded_setExcludePaths.mpr ⟨info.execPath, hown, .inr rfl⟩
  | message msg =>
    obtain ⟨sender, path, event⟩ := msg
    by_cases hsender : 0 < sender
    swap
    · rw [handle_ignored hsender]
      refine iff_of_true h ?_
      cases event with
      | fork child => exact fun hpositive => absurd hpositive hsender
      | exec | exit => exact trivial
    cases event with
    | fork child =>
      by_cases hchild : 0 < child
      swap
      · rw [handle_fork_ignored hsender hchild]
        exact iff_of_true h fun _ hpositive => absurd hpositive hchild
      rw [handle_fork hsender hchild, sound_update_iff h]
      simp only [Safe, hsender, hchild, forall_const, Option.some.injEq, forall_eq']
      cases hparent : before.processes sender with
      | none => simp [sound_included_iff]
      | some info => simpa using hinfo sender info hparent
    | exec target pathTruncated =>
      refine iff_of_true ?_ trivial
      rw [handle_exec hsender]
      rcases before.handleExec_cases sender target pathTruncated with
        hsame | ⟨info, info', hfound, hexec, hmem, hafter⟩
      · rwa [hsame]
      rw [hafter, sound_update_iff h]
      rintro new ⟨⟩
      refine ⟨fun p hp => ?_, fun hown => ?_⟩
      · rcases (hmem p).mp hp with hp | ⟨rfl, hp⟩
        · exact (hinfo sender info hfound).1 hp
        · exact hp
      · rw [hexec] at hown
        exact isExcluded_iff.mpr ⟨target, (hmem target).mpr (.inr ⟨rfl, hown⟩)⟩
    | exit =>
      rw [handle_exit hsender, sound_update_iff h]
      exact iff_of_true nofun trivial

theorem inherits_handle (before : ProcessStates Path) (event : ProcessEvent Path) :
    Inherits before event (before.handle event) where
  passed := by
    rintro parent path child rfl hparent hchild hexcluded
    obtain ⟨info, hinfo, hinfoExcluded⟩ := getProcessStatus_eq_excluded.mp hexcluded
    rw [handle_fork hparent hchild]
    exact getProcessStatus_eq_excluded.mpr ⟨info, by simp [hinfo], hinfoExcluded⟩
  kept := by
    intro pid hexcluded hreplaces hpaths
    cases event with
    | excludePaths paths => exact absurd rfl (hpaths paths)
    | message msg =>
      obtain ⟨sender, path, event⟩ := msg
      by_cases hsender : 0 < sender
      swap
      · rwa [handle_ignored hsender]
      cases event with
      | fork child =>
        by_cases hchild : 0 < child
        · rwa [handle_fork hsender hchild, getProcessStatus_update_of_ne (Ne.symm hreplaces)]
        · rwa [handle_fork_ignored hsender hchild]
      | exec target pathTruncated =>
        rw [handle_exec hsender]
        rcases before.handleExec_cases sender target pathTruncated with
          hsame | ⟨info, info', hfound, -, hmem, hafter⟩
        · rwa [hsame]
        rw [hafter]
        by_cases hpid : pid = sender
        · subst hpid
          obtain ⟨found, hfound', hby⟩ := getProcessStatus_eq_excluded.mp hexcluded
          cases hfound.symm.trans hfound'
          obtain ⟨p, hp⟩ := isExcluded_iff.mp hby
          exact getProcessStatus_eq_excluded.mpr ⟨info', by simp,
            isExcluded_iff.mpr ⟨p, (hmem p).mpr (.inl hp)⟩⟩
        · rwa [getProcessStatus_update_of_ne hpid]
      | exit => rwa [handle_exit hsender, getProcessStatus_update_of_ne (Ne.symm hreplaces)]
  dropped := by
    rintro paths rfl pid info hinfo
    rw [getProcessStatus_eq_excluded, ← isExcluded_setExcludePaths]
    simp [handle, setExcludePaths, hinfo]

/-- In every run, all steps keep exclusion as it should be if and only if all are safe. -/
theorem run_excludes_iff (events : List (ProcessEvent Path)) (states : ProcessStates Path) :
    (system Path).RunWhere (fun _ before event => before.Keeps event) events states ↔
      (system Path).RunWhere (fun _ before event => before.Safe event) events states := by
  refine TransitionSystem.runWhere_congr (I := fun _ => Sound) ?_ ?_ ?_ events states
  · rintro start ⟨listPids, processPath, hnew⟩
    exact sound_new hnew
  · intro _ before event after hbefore _
    exact (and_iff_left (inherits_handle before event)).trans (sound_handle_iff hbefore)
  · rintro _ before event after - hkeeps ⟨⟩
    exact hkeeps.1

end ProcessStates

/-- With the executable `1` excluded, a process that runs it and whose parent is not known counts as
included. -/
theorem fork_of_unknown_parent_included :
    ∃ events states, (ProcessStates.system Nat).Run events states ∧ ¬ states.Sound ∧
      states.processes 3 = some ⟨1, ∅⟩ ∧ 1 ∈ states.excludePaths ∧ states.getProcessStatus 3 = .included := by
  refine ⟨[.message ⟨2, 1, .fork 3⟩, .excludePaths {1}], _,
    .step (.step (.init ⟨some [], fun _ => none, rfl⟩) rfl) rfl, ?_, rfl, by decide, rfl⟩
  intro hsound
  exact absurd (hsound.reported 3 _ rfl (by decide)) (by decide)

end MullvadVpn.SplitTunnel
