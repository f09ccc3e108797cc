import MullvadVpn.SplitTunnel.VpnInterface

/-!
The paths for which the split tunnel of macOS is active. They are not empty exactly as long as no tunnel is
started for a process monitor that kept running after its paths were taken away, or whose paths came with a
request that failed.
-/

namespace MullvadVpn.SplitTunnel

open Systems

variable {Path : Type} [DecidableEq Path]

namespace State

/-- The paths of the last `set_exclude_paths` that succeeded. -/
def acceptedPaths (state : State Path) (accepted : Finset Path) : Message Path → Finset Path
  | .setExcludePaths paths answers =>
    if (state.setExcludePaths paths answers).1.isOk then paths else accepted
  | _ => accepted

/-- The actor, next to the paths that it accepted last. -/
def pathsSystem (Path : Type) [DecidableEq Path] :
    TransitionSystem (State Path × Finset Path) (Message Path) where
  Init s := s = (.noExclusions, ∅)
  step s message :=
    ((system Path).step s.1 message).map fun after => (after, s.1.acceptedPaths s.2 message)

/-- Split tunneling is active only if there are paths to exclude. -/
def IdleWithoutPaths (s : State Path × Finset Path) : Prop :=
  s.1.isActive = true → s.2 ≠ ∅

/-- A tunnel is started for a process monitor only if the paths that were accepted last are not empty. -/
def StartsWithPaths (state : State Path) (accepted : Finset Path) : Message Path → Prop
  | .setTunnel _ answers =>
    match state with
    | processMonitorOnly _ =>
      answers.defaultInterface.isOk = true → answers.createSplitTunnel.isOk = true → accepted ≠ ∅
    | _ => True
  | _ => True

variable {state after : State Path} {accepted : Finset Path} {message : Message Path}

omit [DecidableEq Path] in
theorem isActive_of_tunHandle (h : state.tunHandle = none) : state.isActive = false := by
  cases state <;> first | rfl | cases h

theorem idleWithoutPaths_setExcludePaths (state : State Path) (accepted paths : Finset Path)
    (answers : Answers Path) : IdleWithoutPaths ((state.setExcludePaths paths answers).2,
      state.acceptedPaths accepted (.setExcludePaths paths answers)) := by
  intro hactive
  by_cases hpaths : paths = ∅
  · subst hpaths
    obtain ⟨next, hnext, htun, -⟩ := state.setExcludePaths_empty answers
    rw [hnext, isActive_of_tunHandle htun] at hactive
    cases hactive
  rcases state.setExcludePaths_cases answers hpaths with
    ⟨process, handle, vpnInterface, hnext, -⟩ | ⟨process, hnext, -⟩ | ⟨process, error, hnext, -⟩ |
      ⟨error, cause, hnext, -⟩ <;> rw [hnext] at hactive
  · rw [acceptedPaths, hnext]
    exact hpaths
  all_goals cases hactive

omit [DecidableEq Path] in
theorem idleWithoutPaths_setTunnel_iff (h : IdleWithoutPaths (state, accepted)) (vpnInterface : VpnInterface)
    (answers : Answers Path) : IdleWithoutPaths ((state.setTunnel vpnInterface answers).2, accepted) ↔
      state.StartsWithPaths accepted (.setTunnel vpnInterface answers) := by
  cases state with
  | noExclusions | standBy | failed => exact iff_of_true nofun trivial
  | active => exact iff_of_true (fun _ => h rfl) trivial
  | processMonitorOnly process =>
    rcases setTunnelInner_processMonitorOnly process vpnInterface answers with
      ⟨handle, hdefault, hcreate, -, hinner⟩ | ⟨error, hdefault, hinner⟩ | ⟨error, -, hcreate, hinner⟩
    · rw [setTunnel, transition_ok _ hinner]
      exact ⟨fun hidle _ _ => hidle rfl, fun hstarts _ => hstarts hdefault hcreate⟩
    · rw [setTunnel, transition_next _ hinner]
      exact iff_of_true nofun fun hok => by simp [hdefault] at hok
    · rw [setTunnel, transition_failed _ hinner]
      exact iff_of_true nofun fun _ hok => by simp [hcreate] at hok

theorem idleWithoutPaths_step_iff (h : IdleWithoutPaths (state, accepted))
    (hstep : (system Path).step state message = some after) :
    IdleWithoutPaths (after, state.acceptedPaths accepted message) ↔
      state.StartsWithPaths accepted message := by
  cases message with
  | setExcludePaths paths answers =>
    cases hstep
    exact iff_of_true (idleWithoutPaths_setExcludePaths state accepted paths answers) trivial
  | setTunnel vpnInterface answers =>
    cases hstep
    exact idleWithoutPaths_setTunnel_iff h vpnInterface answers
  | processMessage msg =>
    refine iff_of_true ?_ trivial
    cases state <;> cases hstep
    · exact nofun
    · exact h
  | resetTunnel | processMonitorStopped =>
    refine iff_of_true ?_ trivial
    cases state <;> cases hstep <;> exact nofun

/-- In every run split tunneling is idle without paths after each message exactly if each tunnel was started
with paths. -/
theorem run_idleWithoutPaths_iff (history : List (Message Path)) (s : State Path × Finset Path) :
    (pathsSystem Path).RunWhere (fun _ before message =>
      ∀ after, (pathsSystem Path).step before message = some after → IdleWithoutPaths after) history s ↔
      (pathsSystem Path).RunWhere (fun _ before message => before.1.StartsWithPaths before.2 message)
        history s := by
  refine TransitionSystem.runWhere_congr (I := fun _ s => IdleWithoutPaths s) ?_ ?_ ?_ history s
  · rintro _ rfl
    exact nofun
  · rintro _ ⟨state, accepted⟩ message _ hidle hstep
    obtain ⟨after, hafter, rfl⟩ := Option.map_eq_some_iff.mp hstep
    rw [← idleWithoutPaths_step_iff hidle hafter]
    exact ⟨fun h => h _ hstep, fun h _ hnext => Option.some.inj (hstep.symm.trans hnext) ▸ h⟩
  · intro _ before message after _ hkeeps hstep
    exact hkeeps after hstep

/-- The only path is taken away again before there is a tunnel. The process monitor goes on, so that the
tunnel makes split tunneling active. -/
theorem active_without_paths :
    ∃ history state, (pathsSystem Nat).Run history (state, ∅) ∧ state.isActive = true := by
  let answers : Answers Nat := { Answers.noDefaultInterface with defaultInterface := .ok "en0" }
  exact ⟨[.setTunnel ⟨"utun4", none, none⟩ answers, .setExcludePaths ∅ answers,
    .setExcludePaths {1} answers], _, .step (.step (.step (.init rfl) rfl) rfl) rfl, rfl⟩

end State

end MullvadVpn.SplitTunnel
