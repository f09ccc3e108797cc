import MullvadVpn.SplitTunnel.Macos

/-!
The VPN interface that the split tunnel of macOS remembers. It is that of the last `set_tunnel`, until a
`reset_tunnel`, exactly as long as no `set_tunnel` fails or comes in the failed state with another interface,
and the default interface is known whenever paths come to a state that stands by.
-/

namespace MullvadVpn.SplitTunnel

open Systems

variable {Path : Type}

/-- The interface of the last `set_tunnel` of a history. -/
def lastTunnel : List (Message Path) → Option VpnInterface
  | [] => none
  | .setTunnel vpnInterface _ :: _ => some vpnInterface
  | _ :: history => lastTunnel history

/-- The interface of the last `set_tunnel`, if no `reset_tunnel` followed. -/
def currentTunnel : List (Message Path) → Option VpnInterface
  | [] => none
  | .setTunnel vpnInterface _ :: _ => some vpnInterface
  | .resetTunnel :: _ => none
  | _ :: history => currentTunnel history

namespace State

/-- The state has the interface: as its own, or that of its tunnel. -/
def HoldsOrUses (state : State Path) (vpnInterface : VpnInterface) : Prop :=
  state.vpnInterface = some vpnInterface ∨
    ∃ handle, state.tunHandle = some handle ∧ handle.vpnInterface = some vpnInterface

variable [DecidableEq Path]

/-- No other interface is held or used than the last one, it is held unless it was reset, and then split
tunneling becomes active for it as soon as a request with paths succeeds. -/
structure Remembers (history : List (Message Path)) (state : State Path) : Prop where
  last : ∀ vpnInterface, state.HoldsOrUses vpnInterface → lastTunnel history = some vpnInterface
  held : ∀ vpnInterface, currentTunnel history = some vpnInterface → state.vpnInterface = some vpnInterface
  activates : ∀ vpnInterface, currentTunnel history = some vpnInterface →
    ∀ paths answers after, paths ≠ ∅ → state.setExcludePaths paths answers = (.ok (), after) →
      ∃ process handle, after = .active process handle vpnInterface ∧ handle.vpnInterface = some vpnInterface

def Keeps (history : List (Message Path)) (state : State Path) (message : Message Path) : Prop :=
  ∀ after, (system Path).step state message = some after → Remembers (message :: history) after

variable (state : State Path)

/-- The interface is taken over: there is nothing to fail, or nothing fails, or it is held already. -/
def TakesOver (vpnInterface : VpnInterface) (answers : Answers Path) : Prop :=
  match state with
  | noExclusions | standBy _ => True
  | processMonitorOnly _ =>
    answers.defaultInterface.isOk = true ∧ answers.createSplitTunnel.isOk = true
  | active _ _ oldVpnInterface =>
    (answers.defaultInterface.isOk = true ∧ answers.setInterfaces.isOk = true) ∨ oldVpnInterface = vpnInterface
  | failed oldVpnInterface _ => oldVpnInterface = some vpnInterface

/-- The interface is not forgotten: when paths come to a state that stands by and a process monitor could
be started, the default interface is known. -/
def Retains (paths : Finset Path) (answers : Answers Path) : Prop :=
  match state with
  | standBy _ => paths ≠ ∅ → answers.spawn.isOk = true → answers.defaultInterface.isOk = true
  | _ => True

def Safe : Message Path → Prop
  | .setTunnel vpnInterface answers => state.TakesOver vpnInterface answers
  | .setExcludePaths paths answers => state.Retains paths answers
  | _ => True

end State

theorem lastTunnel_of_currentTunnel {history : List (Message Path)} {vpnInterface : VpnInterface}
    (h : currentTunnel history = some vpnInterface) : lastTunnel history = some vpnInterface := by
  induction history with
  | nil => cases h
  | cons message history ih =>
    cases message with
    | setTunnel => exact h
    | resetTunnel => cases h
    | setExcludePaths | processMessage | processMonitorStopped => exact ih h

namespace State

/-- The tunnel uses the interface that the state holds. -/
def UsesHeld (state : State Path) : Prop :=
  ∀ handle, state.tunHandle = some handle → handle.vpnInterface = state.vpnInterface

section

variable (process : ProcessStates Path) (vpnInterface : VpnInterface) (answers : Answers Path)

/-- Split tunneling is started, or the process monitor goes on, or nothing is left. -/
theorem setTunnelInner_processMonitorOnly :
    (∃ handle, answers.defaultInterface.isOk = true ∧ answers.createSplitTunnel.isOk = true ∧
      handle.vpnInterface = some vpnInterface ∧
      setTunnelInner vpnInterface answers (processMonitorOnly process) =
        .ok (active process handle vpnInterface)) ∨
    (∃ error, answers.defaultInterface.isOk = false ∧
      setTunnelInner vpnInterface answers (processMonitorOnly process) =
        .error ⟨error, some (processMonitorOnly process)⟩) ∨
    ∃ error, answers.defaultInterface.isOk = true ∧ answers.createSplitTunnel.isOk = false ∧
      setTunnelInner vpnInterface answers (processMonitorOnly process) = .error (.ofError error) := by
  cases hdefault : answers.defaultInterface with
  | error error => exact .inr (.inl ⟨.default error, rfl, by simp [setTunnelInner, hdefault]⟩)
  | ok defaultInterface =>
    cases hcreate : answers.createSplitTunnel with
    | error error =>
      exact .inr (.inr ⟨.initializeTunnel error, rfl, rfl, by
        simp [setTunnelInner, hdefault, hcreate]⟩)
    | ok name =>
      exact .inl ⟨⟨name, defaultInterface, some vpnInterface⟩, rfl, rfl, rfl, by
        simp [setTunnelInner, hdefault, hcreate]⟩

end

section

variable {f : State Path → Except (ErrorWithTransition Path) (State Path)} {error : Error}
  (state : State Path) {next : State Path}

theorem transition_ok (h : f state = .ok next) : state.transition f = (.ok (), next) := by
  simp [transition, h]

theorem transition_next (h : f state = .error ⟨error, some next⟩) :
    state.transition f = (.error error, next) := by
  simp [transition, h]

theorem transition_failed (h : f state = .error (.ofError error)) :
    state.transition f = (.error error, failed state.vpnInterface (some error)) := by
  simp [transition, h, ErrorWithTransition.ofError, fail, vpnInterface]

end

/-- The tunnel is set, or the state stays, or it becomes the failed one. -/
theorem setTunnel_cases (state : State Path) (vpnInterface : VpnInterface) (answers : Answers Path) :
    (∃ next, state.setTunnel vpnInterface answers = (.ok (), next) ∧
      next.vpnInterface = some vpnInterface ∧ next.UsesHeld ∧ state.TakesOver vpnInterface answers) ∨
    (∃ error, state.setTunnel vpnInterface answers = (.error error, state) ∧
      (state.vpnInterface = some vpnInterface ↔ state.TakesOver vpnInterface answers)) ∨
    ∃ error cause, state.setTunnel vpnInterface answers = (.error error, failed state.vpnInterface cause) ∧
      (state.vpnInterface = some vpnInterface ↔ state.TakesOver vpnInterface answers) := by
  cases state with
  | noExclusions | standBy => exact .inl ⟨standBy vpnInterface, rfl, rfl, nofun, trivial⟩
  | processMonitorOnly process =>
    rcases setTunnelInner_processMonitorOnly process vpnInterface answers with
      ⟨handle, hdefault, hcreate, hhandle, hinner⟩ | ⟨error, hdefault, hinner⟩ | ⟨error, -, hcreate, hinner⟩
    · exact .inl ⟨_, transition_ok _ hinner, rfl, by rintro _ ⟨⟩; exact hhandle, hdefault, hcreate⟩
    · exact .inr (.inl ⟨error, transition_next _ hinner, by simp [State.vpnInterface, TakesOver, hdefault]⟩)
    · exact .inr (.inr ⟨error, _, transition_failed _ hinner, by
        simp [State.vpnInterface, TakesOver, hcreate]⟩)
  | active process tunHandle oldVpnInterface =>
    cases hdefault : answers.defaultInterface with
    | error error =>
      exact .inr (.inl ⟨.default error, transition_next _ (by simp [setTunnelInner, hdefault]), by
        simp [State.vpnInterface, TakesOver, hdefault, Except.isOk, Except.toBool]⟩)
    | ok defaultInterface =>
      cases hset : answers.setInterfaces with
      | error error =>
        exact .inr (.inr ⟨.initializeTunnel error, _, transition_failed _ (by
          simp [setTunnelInner, hdefault, hset]), by
          simp [State.vpnInterface, TakesOver, hset, Except.isOk, Except.toBool]⟩)
      | ok name =>
        exact .inl ⟨active process ⟨name, defaultInterface, some vpnInterface⟩ vpnInterface,
          transition_ok _ (by simp [setTunnelInner, hdefault, hset]), rfl, by rintro _ ⟨⟩; rfl,
          .inl ⟨by rw [hdefault]; rfl, by rw [hset]; rfl⟩⟩
  | failed oldVpnInterface cause => exact .inr (.inr ⟨_, _, transition_failed _ rfl, .rfl⟩)

section

variable [DecidableEq Path] (state : State Path) {paths : Finset Path} (answers : Answers Path)

theorem setExcludePaths_empty :
    ∃ next, state.setExcludePaths ∅ answers = (.ok (), next) ∧ next.tunHandle = none ∧
      next.vpnInterface = state.vpnInterface := by
  have hinner : ∃ next, setExcludePathsInner ∅ answers state = .ok next ∧ next.tunHandle = none ∧
      next.vpnInterface = state.vpnInterface := by
    rcases state with _ | _ | _ | _ | ⟨_ | _, _⟩ <;> simp [setExcludePathsInner, tunHandle, vpnInterface]
  obtain ⟨next, hnext, hafter⟩ := hinner
  exact ⟨next, transition_ok _ hnext, hafter⟩

/-- With paths, split tunneling is active for the interface of the state, or there is none and the
processes are monitored, or the interface is forgotten, or the state is the failed one. -/
theorem setExcludePaths_cases (hpaths : paths ≠ ∅) : (∃ process handle vpnInterface,
      state.setExcludePaths paths answers = (.ok (), active process handle vpnInterface) ∧
      state.vpnInterface = some vpnInterface ∧ state.Retains paths answers ∧
      (state.tunHandle = some handle ∨ handle.vpnInterface = some vpnInterface)) ∨
    (∃ process, state.setExcludePaths paths answers = (.ok (), processMonitorOnly process) ∧
      state.vpnInterface = none ∧ state.Retains paths answers) ∨
    (∃ process error, state.setExcludePaths paths answers = (.error error, processMonitorOnly process) ∧
      state.vpnInterface ≠ none ∧ ¬ state.Retains paths answers) ∨
    ∃ error cause, state.setExcludePaths paths answers = (.error error, failed state.vpnInterface cause) ∧
      state.Retains paths answers := by
  cases state with
  | noExclusions =>
    cases hspawn : answers.spawn with
    | error error =>
      exact .inr (.inr (.inr ⟨.process error, _, transition_failed _ (by
        simp [setExcludePathsInner, hpaths, hspawn]), trivial⟩))
    | ok process =>
      exact .inr (.inl ⟨process.setExcludePaths paths, transition_ok _ (by
        simp [setExcludePathsInner, hpaths, hspawn]), rfl, trivial⟩)
  | standBy vpnInterface =>
    cases hspawn : answers.spawn with
    | error error =>
      refine .inr (.inr (.inr ⟨.process error, _, transition_failed _ (by
        simp [setExcludePathsInner, hpaths, hspawn]), fun _ h => ?_⟩))
      simp [hspawn, Except.isOk, Except.toBool] at h
    | ok process =>
      -- The monitor is started, and then the tunnel is set as in a state that only monitors.
      have hmonitor : setExcludePathsInner paths answers (standBy vpnInterface) =
          setTunnelInner vpnInterface answers (processMonitorOnly (process.setExcludePaths paths)) := by
        simp [setExcludePathsInner, hpaths, hspawn]
      have hok : answers.spawn.isOk = true := by rw [hspawn]; rfl
      rcases setTunnelInner_processMonitorOnly (process.setExcludePaths paths) vpnInterface answers with
        ⟨handle, hdefault, -, hhandle, hinner⟩ | ⟨error, hdefault, hinner⟩ |
          ⟨error, hdefault, -, hinner⟩
      · exact .inl ⟨_, handle, vpnInterface, transition_ok _ (hmonitor.trans hinner), rfl,
          fun _ _ => hdefault, .inr hhandle⟩
      · refine .inr (.inr (.inl ⟨_, error, transition_next _ (hmonitor.trans hinner), nofun, ?_⟩))
        intro hretains
        simp [hretains hpaths hok] at hdefault
      · exact .inr (.inr (.inr ⟨error, _, transition_failed _ (hmonitor.trans hinner), fun _ _ => hdefault⟩))
  | processMonitorOnly process =>
    exact .inr (.inl ⟨process.setExcludePaths paths, rfl, rfl, trivial⟩)
  | active process tunHandle vpnInterface =>
    exact .inl ⟨process.setExcludePaths paths, tunHandle, vpnInterface, transition_ok _ (by
      simp [setExcludePathsInner, hpaths]), rfl, trivial, .inl rfl⟩
  | failed vpnInterface cause =>
    exact .inr (.inr (.inr ⟨cause.getD .unavailable, _, transition_failed _ (by
      simp [setExcludePathsInner, hpaths]), trivial⟩))

omit [DecidableEq Path] in
theorem retains_empty : state.Retains ∅ answers := by
  cases state <;> first | trivial | exact fun h => absurd rfl h

/-- Paths never change the interface, except that a state that stood by can forget it. -/
theorem vpnInterface_setExcludePaths (paths : Finset Path) :
    (state.setExcludePaths paths answers).2.vpnInterface = state.vpnInterface ↔
      state.Retains paths answers := by
  by_cases hpaths : paths = ∅
  · subst hpaths
    obtain ⟨next, hnext, -, hkept⟩ := state.setExcludePaths_empty answers
    rw [hnext]
    exact iff_of_true hkept (retains_empty state answers)
  rcases state.setExcludePaths_cases answers hpaths with
    ⟨process, handle, vpnInterface, hnext, hheld, hretains, -⟩ | ⟨process, hnext, hheld, hretains⟩ |
      ⟨process, error, hnext, hheld, hretains⟩ | ⟨error, cause, hnext, hretains⟩ <;> rw [hnext]
  · exact iff_of_true hheld.symm hretains
  · exact iff_of_true hheld.symm hretains
  · exact iff_of_false (fun h => hheld h.symm) hretains
  · exact iff_of_true rfl hretains

theorem usesHeld_setExcludePaths {state : State Path} (h : state.UsesHeld) (paths : Finset Path) :
    (state.setExcludePaths paths answers).2.UsesHeld := by
  by_cases hpaths : paths = ∅
  · subst hpaths
    obtain ⟨next, hnext, htun, -⟩ := state.setExcludePaths_empty answers
    rw [hnext]
    intro handle hhandle
    cases htun.symm.trans hhandle
  rcases state.setExcludePaths_cases answers hpaths with
    ⟨process, handle, vpnInterface, hnext, hheld, -, hhandle⟩ | ⟨process, hnext, -⟩ |
      ⟨process, error, hnext, -⟩ | ⟨error, cause, hnext, -⟩ <;> rw [hnext]
  · rintro _ ⟨⟩
    exact hhandle.elim (fun hsame => (h handle hsame).trans hheld) id
  all_goals exact nofun

end

section

variable [DecidableEq Path] {history : List (Message Path)} {state after : State Path}
  {message : Message Path}

/-- What is held and used is the interface that should be. -/
structure Tracks (history : List (Message Path)) (state : State Path) : Prop where
  held : state.vpnInterface = currentTunnel history
  uses : state.UsesHeld

theorem Tracks.remembers (h : state.Tracks history) : state.Remembers history where
  last vpnInterface := by
    rintro (hheld | ⟨handle, htun, hhandle⟩)
    · exact lastTunnel_of_currentTunnel (h.held.symm.trans hheld)
    · exact lastTunnel_of_currentTunnel (h.held.symm.trans ((h.uses handle htun).symm.trans hhandle))
  held vpnInterface hcurrent := h.held.trans hcurrent
  activates vpnInterface hcurrent paths answers after hpaths hok := by
    have hheld := h.held.trans hcurrent
    rcases state.setExcludePaths_cases answers hpaths with
      ⟨process, handle, _, hnext, hsome, -, hhandle⟩ | ⟨process, hnext, hnone, -⟩ |
        ⟨process, error, hnext, -⟩ | ⟨error, cause, hnext, -⟩
    · obtain rfl : vpnInterface = _ := Option.some.inj (hheld.symm.trans hsome)
      obtain rfl : _ = after := congrArg Prod.snd (hnext.symm.trans hok)
      exact ⟨process, handle, rfl, hhandle.elim (fun hsame => (h.uses handle hsame).trans hheld) id⟩
    · cases hnone.symm.trans hheld
    all_goals cases congrArg Prod.fst (hnext.symm.trans hok)

theorem UsesHeld.step (h : state.UsesHeld) (hstep : (system Path).step state message = some after) :
    after.UsesHeld := by
  cases message with
  | setExcludePaths paths answers =>
    cases hstep
    exact usesHeld_setExcludePaths answers h paths
  | setTunnel vpnInterface answers =>
    cases hstep
    change (state.setTunnel vpnInterface answers).2.UsesHeld
    rcases state.setTunnel_cases vpnInterface answers with
      ⟨next, hnext, -, huses, -⟩ | ⟨error, hnext, -⟩ | ⟨error, cause, hnext, -⟩ <;> rw [hnext]
    · exact huses
    · exact h
    · exact nofun
  | resetTunnel =>
    cases hstep
    intro handle hhandle
    cases state <;> cases hhandle
  | processMessage msg =>
    cases state <;> cases hstep
    · exact nofun
    · exact h
  | processMonitorStopped result => cases state <;> cases hstep <;> exact nofun

theorem Tracks.held_step_iff (h : state.Tracks history)
    (hstep : (system Path).step state message = some after) :
    after.vpnInterface = currentTunnel (message :: history) ↔ state.Safe message := by
  cases message with
  | setExcludePaths paths answers =>
    cases hstep
    change _ = currentTunnel history ↔ _
    rw [← h.held]
    exact vpnInterface_setExcludePaths state answers paths
  | setTunnel vpnInterface answers =>
    cases hstep
    change (state.setTunnel vpnInterface answers).2.vpnInterface = some vpnInterface ↔ _
    rcases state.setTunnel_cases vpnInterface answers with
      ⟨next, hnext, hheld, -, htakes⟩ | ⟨error, hnext, htakes⟩ | ⟨error, cause, hnext, htakes⟩ <;> rw [hnext]
    · exact iff_of_true hheld htakes
    · exact htakes
    · exact htakes
  | resetTunnel =>
    cases hstep
    refine iff_of_true ?_ trivial
    cases state <;> rfl
  | processMessage msg | processMonitorStopped result =>
    refine iff_of_true ?_ trivial
    cases state <;> cases hstep <;> exact h.held

theorem Tracks.keeps_iff (h : state.Tracks history)
    (hstep : (system Path).step state message = some after) :
    state.Keeps history message ↔ state.Safe message := by
  rw [← h.held_step_iff hstep]
  constructor
  · intro hkeeps
    have hremembers := hkeeps after hstep
    cases hcurrent : currentTunnel (message :: history) with
    | some vpnInterface => exact hremembers.held vpnInterface hcurrent
    | none =>
      -- Nothing should be held, and no safe step brings an interface back.
      refine hcurrent ▸ (h.held_step_iff hstep).mpr ?_
      cases message with
      | setTunnel vpnInterface answers => cases hcurrent
      | setExcludePaths paths answers =>
        have hnone : state.vpnInterface = none := h.held.trans hcurrent
        cases state with
        | standBy => cases hnone
        | _ => trivial
      | resetTunnel | processMessage | processMonitorStopped => trivial
  · intro hheld next hnext
    cases hstep.symm.trans hnext
    exact remembers ⟨hheld, h.uses.step hstep⟩

/-- In every run the interface is remembered after each message exactly if each message was a safe
one. -/
theorem run_remembers_iff (history : List (Message Path)) (state : State Path) :
    (system Path).RunWhere (fun history before message => before.Keeps history message)
      history state ↔ (system Path).RunWhere (fun _ before message => before.Safe message) history state := by
  refine TransitionSystem.runWhere_congr (I := fun history state => state.Tracks history) ?_ ?_ ?_ history state
  · rintro _ rfl
    exact ⟨rfl, nofun⟩
  · intro history before message after htracks hstep
    exact htracks.keeps_iff hstep
  · intro history before message after htracks hkeeps hstep
    have hsafe := (htracks.keeps_iff hstep).mp hkeeps
    exact ⟨(htracks.held_step_iff hstep).mpr hsafe, htracks.uses.step hstep⟩

end

end State

/-- Every call succeeds, except that there is no default interface. -/
def Answers.noDefaultInterface : Answers Nat where
  spawn := .ok ⟨fun _ => none, ∅⟩
  defaultInterface := .error .noDefaultInterface
  createSplitTunnel := .ok "feth0"
  setInterfaces := .ok "feth0"

/-- The processes are monitored and the default interface is not known when the tunnel is set: its
interface is not held, so that the paths do not make split tunneling active. -/
theorem setTunnel_without_default_interface_forgets :
    ∃ vpnInterface history state after paths answers,
      (State.system Nat).Run history state ∧ currentTunnel history = some vpnInterface ∧
      state.vpnInterface = none ∧ paths ≠ ∅ ∧
      state.setExcludePaths paths answers = (.ok (), after) ∧ after.isActive = false := by
  refine ⟨⟨"utun4", none, none⟩, [.setTunnel ⟨"utun4", none, none⟩ .noDefaultInterface,
    .setExcludePaths {1} .noDefaultInterface], _, _, {1}, .noDefaultInterface,
    .step (.step (.init rfl) rfl) rfl, rfl, rfl, by decide, rfl, rfl⟩

end MullvadVpn.SplitTunnel
