import MullvadVpn.Account.Keys

/-!
The expectations of the account manager. The results of a validation and of a rotation are consumed with
the device that is logged in, which is expected to be there. It is: such a call is started for a device
only, a logout ends the call, and a device is revoked only after a call has left the slot.
-/

namespace MullvadVpn.Account

open Systems

variable {call : Call} {result : ApiResult} {env : Environment} {manager' : AccountManager}
variable {outputs : List Output}

/-- The calls whose result is consumed with the device that is logged in. -/
def Call.needsDevice : Call → Bool
  | .timerKeyRotation _ _ | .oneshotKeyRotation _ _ | .validation _ _ => true
  | .login _ _ | .voucherSubmission _ _ _ | .initPlayPurchase _ _ | .verifyPlayPurchase _ _ _
  | .expiryCheck _ => false

theorem Call.IsFor.isLoggedIn {data} (h : call.IsFor data)
    (hneeds : call.needsDevice = true) : data.isLoggedIn = true := by
  cases call with
  | timerKeyRotation | oneshotKeyRotation | validation =>
    obtain ⟨config, hdata, -⟩ := h
    rw [hdata]
    rfl
  | login | voucherSubmission | initPlayPurchase | verifyPlayPurchase | expiryCheck => cases hneeds

namespace AccountManager

variable {publicKey : PrivateKey → PublicKey} {manager : AccountManager}

/-- A rotation or a validation is in flight only while a device is logged in. -/
def HasDevice (manager : AccountManager) : Prop :=
  ∀ call, manager.currentApiCall = some call → call.needsDevice = true → manager.data.isLoggedIn = true

/-- A command can come at any time, a result only from the call in flight. -/
def CanReceive (manager : AccountManager) : Input → Prop
  | .command _ _ => True
  | .completed result _ => ∃ call, manager.callInFlight = some call ∧ call.Returns result

theorem hasDevice_of_idle (h : manager.currentApiCall = none) : manager.HasDevice := by
  intro call hcall
  cases h.symm.trans hcall

theorem hasDevice_of_isFor (hslot : manager.currentApiCall = some call)
    (h : call.IsFor manager.data) : manager.HasDevice := by
  intro call' hcall hneeds
  cases hslot.symm.trans hcall
  exact h.isLoggedIn hneeds

theorem HasDevice.spawnTimedKeyRotation (h : manager.HasDevice) :
    manager.spawnTimedKeyRotation.HasDevice := by
  unfold AccountManager.spawnTimedKeyRotation
  split
  · rename_i config _ hdevice
    exact hasDevice_of_isFor rfl ⟨config, data_of_device hdevice, rfl⟩
  · exact h

theorem HasDevice.of_steady (h : manager.HasDevice) (hsteady : Steady manager manager') :
    manager'.HasDevice := by
  cases hsteady with
  | same hslot hdata =>
    intro call hcall hneeds
    rw [hdata]
    exact h call (hslot ▸ hcall) hneeds
  | ends hslot => exact hasDevice_of_idle hslot
  | starts hslot hdata hcall => exact hasDevice_of_isFor hslot (hdata ▸ hcall)

theorem HasDevice.handleCommand (h : manager.HasDevice) (env : Environment) (command : Command) :
    (manager.handleCommand env command).1.HasDevice := by
  by_cases hset : ∀ data tx, command ≠ .setData data tx
  · exact h.of_steady (steady_handleCommand manager env hset)
  · push Not at hset
    obtain ⟨data, tx, rfl⟩ := hset
    -- `SetData` leaves the call in flight and stores a device, if it stores anything.
    obtain ⟨stored, last, heq, hdata⟩ := set_eq manager (.login data) env
    intro call hcall hneeds
    simp only [AccountManager.handleCommand, heq] at hcall ⊢
    rcases hdata with rfl | rfl
    · exact h call hcall hneeds
    · rfl

/-- Every result of a call is consumed if there is a device for a call that needs one, and the slot is
then empty or has a rotation for the device. -/
theorem consumeApiResult_spec (publicKey : PrivateKey → PublicKey) (manager : AccountManager)
    (hreturns : call.Returns result) (hslot : manager.currentApiCall = none)
    (hdevice : call.needsDevice = true → manager.data.isLoggedIn = true) (env : Environment) :
    ∃ manager' outputs, manager.consumeApiResult publicKey env call result = some (manager', outputs) ∧
      manager'.HasDevice := by
  have hrotation (response : Except Error WireguardData) (h : manager.data.isLoggedIn = true) :
      ∃ manager' outputs, manager.consumeRotationResult response env = some (manager', outputs) ∧
        manager'.HasDevice := by
    obtain ⟨config, hconfig⟩ := PrivateDeviceState.isLoggedIn_iff.mp h
    obtain ⟨after, outputs, heq, hslot', -⟩ := consumeRotationResult_spec manager hconfig response env
    exact ⟨after, outputs, heq, hasDevice_of_idle (hslot'.trans hslot)⟩
  by_cases hsingle : call.hasSingleCaller = true
  · obtain ⟨after, outputs, heq, hcases⟩ :=
      consumeApiResult_of_single publicKey hsingle hreturns manager env
    refine ⟨after, outputs, heq, hasDevice_of_idle ?_⟩
    rcases hcases with rfl | ⟨err, rfl⟩
    · exact hslot
    · exact hslot
  cases call <;> cases result <;> try first | exact hreturns.elim | exact absurd rfl hsingle
  case login.login number tx response =>
    obtain ⟨⟨data, last, heq, -⟩, -⟩ := consumeLogin_spec manager response tx env
    refine ⟨_, _, rfl, hasDevice_of_idle ?_⟩
    exact (congrArg currentApiCall heq).trans hslot
  case timerKeyRotation.rotation number deviceId response => exact hrotation response (hdevice rfl)
  case oneshotKeyRotation.rotation number deviceId response => exact hrotation response (hdevice rfl)
  case validation.validation number deviceId response =>
    obtain ⟨config, hconfig⟩ := PrivateDeviceState.isLoggedIn_iff.mp (hdevice rfl)
    have hsome : manager.data.device = some config := by rw [hconfig]; rfl
    obtain ⟨applied, outputs, happly, hslot', -⟩ := applyValidation_spec publicKey hconfig response env
    refine ⟨applied.rotateAfterValidation, outputs,
      by simp [consumeApiResult, consumeValidation, hsome, happly], fun call hcall hneeds => ?_⟩
    rw [data_rotateAfterValidation]
    exact (isFor_rotateAfterValidation (hslot'.trans hslot) hcall).isLoggedIn hneeds
  case expiryCheck.expiryCheck number response =>
    refine ⟨_, _, rfl, hasDevice_of_idle ?_⟩
    rcases (consumeExpiryResult_spec manager response).1 with heq | ⟨err, heq⟩
    all_goals exact (congrArg currentApiCall heq).trans hslot

/-- Whatever the manager can receive is handled, and leaves a device for the call in flight. -/
theorem HasDevice.iterate (h : manager.HasDevice) {input} (hinput : manager.CanReceive input) :
    ∃ manager' outputs, manager.iterate publicKey input = some (manager', outputs) ∧ manager'.HasDevice := by
  have hready := h.spawnTimedKeyRotation
  cases input with
  | command command env => exact ⟨_, _, rfl, hready.handleCommand env command⟩
  | completed result env =>
    obtain ⟨call, hcall, hreturns⟩ := hinput
    rw [AccountManager.iterate, handle_completed hcall]
    exact consumeApiResult_spec publicKey manager.spawnTimedKeyRotation.clearCall hreturns rfl
      (hready call hcall) env

theorem canReceive_of_iterate {input}
    (h : manager.iterate publicKey input = some (manager', outputs)) : manager.CanReceive input := by
  cases input with
  | command => trivial
  | completed result env =>
    obtain ⟨call, hcall, hconsume⟩ := Option.bind_eq_some_iff.mp h
    exact ⟨call, hcall, returns_of_consumeApiResult hconsume⟩

theorem hasDevice_of_run {h} (hrun : (system publicKey).Run h manager) : manager.HasDevice := by
  refine TransitionSystem.RunWhere.invariant (I := fun _ manager => manager.HasDevice) ?_ ?_ hrun
  · rintro _ ⟨data, rfl⟩
    exact hasDevice_of_idle rfl
  · intro _ before input after _ _ hbefore hstep
    obtain ⟨outputs, heq⟩ := iterate_of_step hstep
    obtain ⟨next, outputs', heq', hnext⟩ := hbefore.iterate (canReceive_of_iterate heq)
    cases heq.symm.trans heq'
    exact hnext

/-- After every sequence of commands and completions, a validation or a rotation is in flight only while
there is device data, and whatever comes next, a command or any result of the call in flight, is handled:
no expectation fails. -/
theorem run_meets_expectations {h : List Input} (hrun : (system publicKey).Run h manager) :
    (∀ call, manager.callInFlight = some call → call.needsDevice = true →
      ∃ config, manager.data = .loggedIn config) ∧
      ∀ input, manager.CanReceive input → ∃ after, (system publicKey).step manager input = some after := by
  have hdevice := hasDevice_of_run hrun
  refine ⟨fun call hcall hneeds => ?_, fun input hinput => ?_⟩
  · rw [← PrivateDeviceState.isLoggedIn_iff, ← data_spawnTimedKeyRotation]
    exact hdevice.spawnTimedKeyRotation call hcall hneeds
  · obtain ⟨after, outputs, heq, -⟩ := hdevice.iterate hinput
    exact ⟨after, congrArg (Option.map Prod.fst) heq⟩

end AccountManager

open AccountManager in
/-- A key is rotated on request, then the rotation fails because the device is gone. -/
theorem run_meets_expectations_rotateKey :
    ∃ manager, (system id).Run [.command (.rotateKey 1) Sample.env] manager ∧
      ∃ after, (system id).step manager (.completed (.rotation (.error .invalidDevice)) Sample.env) =
        some after := by
  have hrun : (system id).Run [.command (.rotateKey 1) Sample.env] _ :=
    .step (.init ⟨.loggedIn Sample.config, rfl⟩) rfl
  exact ⟨_, hrun, (run_meets_expectations hrun).2 _ ⟨_, rfl, trivial⟩⟩

end MullvadVpn.Account
