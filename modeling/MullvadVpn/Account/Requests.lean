import MullvadVpn.Account.Commands
import MullvadVpn.Account.Completions

/-!
Callers that are queued and the call that will answer them. As long as no command takes the slot away
from a call that somebody waits for, every queue is attended: a call is in flight whose completion
answers it. A login, a logout and every command that starts a call take the slot without looking at the
queues. Those are the commands, and the only ones, after which a caller waits for a call that is gone.
-/

namespace MullvadVpn.Account

open Systems

namespace AccountManager

variable {publicKey : PrivateKey → PublicKey} {manager : AccountManager}

theorem Sound.answersEventually (h : manager.Sound) {caller}
    (hcaller : caller ∈ manager.waiting) : manager.AnswersEventually publicKey caller := by
  cases hslot : manager.currentApiCall with
  | none =>
    unfold Sound at h
    rw [hslot] at h
    obtain ⟨⟨hrotation, hvalidation, hexpiry⟩, hdata⟩ := h
    simp [waiting, hrotation, hvalidation, hexpiry, hdata] at hcaller
  | some call =>
    refine ⟨call, hslot, fun result env hreturns => ?_⟩
    obtain ⟨manager', outputs, heq, hsound, hwaits⟩ := h.completed publicKey hslot hreturns env
    refine ⟨manager', outputs, heq, (hwaits caller hcaller).imp_right ?_⟩
    rintro ⟨⟨number, deviceId, hrotating⟩, hstill⟩
    unfold Sound at hsound
    rw [hrotating] at hsound
    refine ⟨_, hrotating, fun result env hreturns => ?_⟩
    rw [handle_completed hrotating]
    cases result <;> try exact hreturns.elim
    case rotation response =>
      obtain ⟨manager'', outputs, heq, -, hreplied⟩ :=
        completed_rotation hsound.1 hsound.2.1 hsound.2.2 response env
      refine ⟨manager'', outputs, heq, .inl (hreplied caller ?_)⟩
      simpa [waiting, hsound.1, hsound.2.1] using hstill

theorem needsValidation_fst (env : Environment) : (manager.needsValidation env).1 =
      (!manager.data.isLoggedIn || decide (validityCacheTimeout ≤ manager.elapsed env)) := by
  unfold needsValidation
  split
  · simp [*]
  · split
    · simp [*]
    · simp_all

/-- The rotation that an idle manager starts does not change what a command may do. -/
theorem takesSlot_spawnTimedKeyRotation (manager : AccountManager) (env : Environment) (command : Command) :
    manager.spawnTimedKeyRotation.takesSlot env command = manager.takesSlot env command ∧
      (manager.spawnTimedKeyRotation.Quiet ↔ manager.Quiet) := by
  obtain ⟨data, _, _, _, _, _, call⟩ := manager
  cases call with
  | some call => exact ⟨rfl, .rfl⟩
  | none =>
    cases data with
    | loggedIn config =>
      refine ⟨?_, .rfl⟩
      cases command
      case validateDevice tx =>
        refine congrArg (fun needs => needs && true) ?_
        rw [needsValidation_fst, needsValidation_fst]
        rfl
      all_goals rfl
    | loggedOut | revoked => exact ⟨rfl, .rfl⟩

/-- One iteration keeps the invariant if the input does not take the slot from somebody, and leaves
somebody unattended if it does. -/
theorem Sound.iterate (h : manager.Sound) {input manager'}
    {outputs} (hstep : manager.iterate publicKey input = some (manager', outputs)) :
    (manager.Undisturbed input → manager'.Sound) ∧ (manager'.Attended → manager.Undisturbed input) := by
  have hready := h.spawnTimedKeyRotation
  cases input with
  | command command env =>
    obtain ⟨htakes, hquiet⟩ := takesSlot_spawnTimedKeyRotation manager env command
    simp only [AccountManager.iterate, handle, Option.some.injEq] at hstep
    obtain rfl : (manager.spawnTimedKeyRotation.handleCommand env command).1 = manager' := by
      rw [hstep]
    simp only [Undisturbed, ← htakes, ← hquiet]
    exact ⟨hready.handleCommand, hready.quiet_of_takesSlot⟩
  | completed result env =>
    refine ⟨fun _ => ?_, fun _ => trivial⟩
    cases hslot : manager.spawnTimedKeyRotation.currentApiCall with
    | none => simp [AccountManager.iterate, handle, hslot] at hstep
    | some call =>
      have hreturns : call.Returns result := by
        rw [AccountManager.iterate, handle_completed hslot] at hstep
        exact returns_of_consumeApiResult hstep
      obtain ⟨next, outputs', heq, hsound, -⟩ := hready.completed publicKey hslot hreturns env
      rw [AccountManager.iterate, heq] at hstep
      cases hstep
      exact hsound

theorem iterate_of_step {manager' input}
    (h : (system publicKey).step manager input = some manager') :
    ∃ outputs, manager.iterate publicKey input = some (manager', outputs) := by
  obtain ⟨⟨next, outputs⟩, heq, hnext⟩ := Option.map_eq_some_iff.mp h
  cases hnext
  exact ⟨outputs, heq⟩

theorem sound_of_undisturbed {h}
    (hrun : (system publicKey).RunWhere (fun _ before input => before.Undisturbed input) h manager) :
    manager.Sound := by
  refine TransitionSystem.RunWhere.invariant (I := fun _ manager => manager.Sound) ?_ ?_ hrun
  · rintro _ ⟨data, rfl⟩
    exact sound_new data
  · intro _ before input after _ hundisturbed hsound hstep
    obtain ⟨outputs, heq⟩ := iterate_of_step hstep
    exact (hsound.iterate heq).1 hundisturbed

theorem Sound.noOrphans (h : manager.Sound) : manager.NoOrphans publicKey :=
  ⟨h.attended, fun _ hcaller => h.answersEventually hcaller⟩

variable (publicKey manager) in
/-- A run never orphans a request, in any state between two iterations, exactly if no input takes the
slot while somebody waits for a rotation, a validation or the expiry. -/
theorem run_noOrphans_iff (h : List Input) :
    (system publicKey).RunWhere (fun _ before _ => before.NoOrphans publicKey) h manager ∧
        manager.NoOrphans publicKey ↔
      (system publicKey).RunWhere (fun _ before input => before.Undisturbed input) h manager := by
  constructor
  · rintro ⟨hrun, hlast⟩
    induction hrun with
    | init hinit => exact .init hinit
    | step _ hbefore hstep ih =>
      have hundisturbed := ih hbefore
      obtain ⟨outputs, heq⟩ := iterate_of_step hstep
      exact .step hundisturbed (((sound_of_undisturbed hundisturbed).iterate heq).2 hlast.1) hstep
  · intro hrun
    refine ⟨?_, (sound_of_undisturbed hrun).noOrphans⟩
    induction hrun with
    | init hinit => exact .init hinit
    | step hundisturbed _ hstep ih =>
      exact .step ih (sound_of_undisturbed hundisturbed).noOrphans hstep

end AccountManager

namespace Sample

def device : PrivateDevice :=
  { id := "device", name := "happy seagull"
    wgData :=
      { privateKey := 1#256, addresses := { ipv4Address := ⟨0, 32⟩, ipv6Address := ⟨0, 128⟩ }
        created := 0 }
    hijackDns := false, created := 0 }

def config : PrivateAccountAndDevice :=
  { accountNumber := "1234", device }

def env : Environment :=
  { now := 0, cacherWrite := .ok () }

end Sample

/-- A logout clears the slot of the rotation that a caller waits for, and leaves the caller in the
queue. -/
theorem rotateKey_orphaned_by_logout :
    ∃ manager, (AccountManager.system id).Run
        [.command (.logout 2) Sample.env, .command (.rotateKey 1) Sample.env] manager ∧
      manager.rotationRequests = [1] ∧ manager.currentApiCall = none ∧ ¬ manager.NoOrphans id := by
  refine ⟨_, .step (.step (.init ⟨.loggedIn Sample.config, rfl⟩) rfl) rfl, rfl, rfl, ?_⟩
  intro h
  have hflight := h.1.rotation (by decide)
  cases hflight

end MullvadVpn.Account
