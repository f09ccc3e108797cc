import MullvadVpn.Account.Commands
import MullvadVpn.Account.Completions

/-!
What each function of the account manager does to the device that is stored and to the rotation in
flight. A command starts a rotation for the current device only, and an honest completion pairs the
current device with a key of the device the call was made for.
-/

namespace MullvadVpn.Account

open Systems

variable {call : Call} {env : Environment} {manager' : AccountManager} {outputs : List Output}

def Call.rotates : Call → Option DeviceId
  | .timerKeyRotation _ deviceId | .oneshotKeyRotation _ deviceId => some deviceId
  | .login _ _ | .validation _ _ | .voucherSubmission _ _ _ | .initPlayPurchase _ _
  | .verifyPlayPurchase _ _ _ | .expiryCheck _ => none

/-- A rotation or a validation is for the device that is logged in. -/
def Call.IsFor (data : PrivateDeviceState) : Call → Prop
  | .timerKeyRotation _ deviceId | .oneshotKeyRotation _ deviceId | .validation _ deviceId =>
    ∃ config, data = .loggedIn config ∧ config.device.id = deviceId
  | .login _ _ | .voucherSubmission _ _ _ | .initPlayPurchase _ _ | .verifyPlayPurchase _ _ _
  | .expiryCheck _ => True

section Issued

variable (publicKey : PrivateKey → PublicKey) (issued : PublicKey → DeviceId → Prop)

/-- The key of the device was issued for it. -/
def PrivateAccountAndDevice.HasOwnKey (config : PrivateAccountAndDevice) : Prop :=
  issued (publicKey config.device.wgData.privateKey) config.device.id

/-- What the API promises about the result of a call: a login returns a device with its own key, a
rotation a key that was issued for the device it was asked for, and the key that the API says a device
has was issued for that device. -/
def HonestResult : Call → ApiResult → Prop
  | .login _ _, .login (.ok config) => config.HasOwnKey publicKey issued
  | .timerKeyRotation _ deviceId, .rotation (.ok wgData)
  | .oneshotKeyRotation _ deviceId, .rotation (.ok wgData) =>
    issued (publicKey wgData.privateKey) deviceId
  | .validation _ _, .validation (.ok device) => issued device.pubkey device.id
  | _, _ => True

namespace AccountManager

variable (manager : AccountManager)

/-- The call in flight when the manager waits for an input. -/
def callInFlight : Option Call :=
  manager.spawnTimedKeyRotation.currentApiCall

def Honest : Input → Prop
  | .command (.setData data _) _ => data.HasOwnKey publicKey issued
  | .command _ _ => True
  | .completed result _ =>
    ∀ call, manager.callInFlight = some call → HonestResult publicKey issued call result

/-- A device that is logged in has its own key. -/
def Paired : Prop :=
  ∀ config, manager.data = .loggedIn config → config.HasOwnKey publicKey issued

/-- The input does not store another device than the one whose key is being rotated. -/
def KeepsTarget : Input → Prop
  | .command (.setData data _) env => ∀ call, manager.callInFlight = some call →
      ∀ deviceId, call.rotates = some deviceId → env.cacherWrite = .ok () → data.device.id = deviceId
  | .command _ _ | .completed _ _ => True

/-- The manager, started with a cached device that has its own key. -/
def pairedSystem : TransitionSystem AccountManager Input where
  Init manager := ∃ data, manager = new data ∧ manager.Paired publicKey issued
  step := (system publicKey).step

end AccountManager

end Issued

namespace AccountManager

variable {publicKey : PrivateKey → PublicKey} {issued : PublicKey → DeviceId → Prop}
variable {manager : AccountManager}

/-- A rotation in flight is for the current device. -/
def OnTarget (manager : AccountManager) : Prop :=
  ∀ call, manager.currentApiCall = some call → ∀ deviceId, call.rotates = some deviceId →
    ∃ config, manager.data = .loggedIn config ∧ config.device.id = deviceId

theorem onTarget_of_idle (h : manager.currentApiCall = none) : manager.OnTarget := by
  intro call hcall
  rw [h] at hcall
  cases hcall

theorem onTarget_of_isFor (hslot : manager.currentApiCall = some call) (h : call.IsFor manager.data) :
    manager.OnTarget := by
  intro call' hcall deviceId hrotates
  cases hslot.symm.trans hcall
  cases call with
  | timerKeyRotation | oneshotKeyRotation =>
    cases hrotates
    exact h
  | login | validation | voucherSubmission | initPlayPurchase | verifyPlayPurchase | expiryCheck =>
    cases hrotates

theorem OnTarget.spawnTimedKeyRotation (h : manager.OnTarget) : manager.spawnTimedKeyRotation.OnTarget := by
  unfold AccountManager.spawnTimedKeyRotation
  split
  · rename_i config _ hdevice
    exact onTarget_of_isFor rfl ⟨config, data_of_device hdevice, rfl⟩
  · exact h

theorem data_spawnTimedKeyRotation : manager.spawnTimedKeyRotation.data = manager.data := by
  unfold spawnTimedKeyRotation
  split <;> rfl

theorem set_slot (manager : AccountManager) (event : PrivateDeviceEvent) (env : Environment) :
    (manager.set event env).1.currentApiCall = manager.currentApiCall := by
  obtain ⟨data, lastValidation, heq, -⟩ := set_eq manager event env
  rw [heq]

theorem set_data_of_written (manager : AccountManager) (event : PrivateDeviceEvent)
    (h : env.cacherWrite = .ok ()) : (manager.set event env).1.data = event.state := by
  unfold set
  split
  · rename_i hsame
    exact hsame.symm
  · rw [h]

theorem set_data_of_not_written {event : PrivateDeviceEvent} (h : env.cacherWrite ≠ .ok ()) :
    (manager.set event env).1.data = manager.data := by
  unfold set
  split
  · rfl
  · cases hwrite : env.cacherWrite with
    | error err => rfl
    | ok _ => exact absurd hwrite h

/-- What a command other than `SetData` does to the device state and the slot. -/
inductive Steady (manager manager' : AccountManager) : Prop
  | same (hslot : manager'.currentApiCall = manager.currentApiCall) (hdata : manager'.data = manager.data)
  | ends (hslot : manager'.currentApiCall = none)
    (hdata : manager'.data = manager.data ∨ manager'.data = .loggedOut)
  | starts {call : Call} (hslot : manager'.currentApiCall = some call)
    (hdata : manager'.data = manager.data) (hcall : call.IsFor manager.data)

theorem Requested.steady {takes : Bool} (h : Requested manager takes manager') :
    Steady manager manager' := by
  cases h with
  | answered | joined | joinedExpiry => exact .same rfl rfl
  | changesDevice _ _ _ _ _ hdata hcall =>
    rcases hcall with rfl | rfl
    all_goals exact .starts rfl rfl ⟨_, hdata, rfl⟩
  | checksExpiry => exact .starts rfl rfl trivial
  | @single call hsingle =>
    refine .starts rfl rfl ?_
    cases call with
    | voucherSubmission | initPlayPurchase | verifyPlayPurchase => trivial
    | login | timerKeyRotation | oneshotKeyRotation | validation | expiryCheck => cases hsingle

theorem steady_handleCommand (manager : AccountManager) (env : Environment) {command : Command}
    (hset : ∀ data tx, command ≠ .setData data tx) :
    Steady manager (manager.handleCommand env command).1 := by
  cases command with
  | login number tx => exact .starts rfl rfl trivial
  | logout tx =>
    obtain ⟨data, heq, hdata⟩ := logout_eq manager.clearCall tx env
    simp only [handleCommand, heq]
    exact .ends rfl hdata
  | setData data tx => exact absurd rfl (hset data tx)
  | getData tx => exact .same rfl rfl
  | getDataAfterLogin tx =>
    simp only [handleCommand]
    split <;> exact .same rfl rfl
  | rotateKey tx => exact requested_handleRotateKey.steady
  | setRotationInterval tx =>
    simp only [handleCommand]
    split
    · exact .ends rfl (.inl rfl)
    · exact .same rfl rfl
  | validateDevice tx => exact requested_handleValidationRequest.steady
  | submitVoucher | initPlayPurchase | verifyPlayPurchase =>
    exact (requested_handleAccountCall fun _ => rfl).steady
  | checkExpiry tx => exact requested_handleExpiryRequest.steady

theorem Steady.data (h : Steady manager manager') :
    manager'.data = manager.data ∨ manager'.data = .loggedOut := by
  cases h with
  | same _ hdata | starts _ hdata => exact .inl hdata
  | ends _ hdata => exact hdata

theorem Steady.onTarget (h : Steady manager manager') (htarget : manager.OnTarget) : manager'.OnTarget := by
  cases h with
  | same hslot hdata =>
    intro call hcall deviceId hrotates
    rw [hdata]
    exact htarget call (hslot ▸ hcall) deviceId hrotates
  | ends hslot => exact onTarget_of_idle hslot
  | starts hslot hdata hcall => exact onTarget_of_isFor hslot (hdata ▸ hcall)

section

variable (h : manager.Paired publicKey issued)

include h

theorem Paired.of_data (hdata : manager'.data = manager.data ∨ manager'.data.device = none ∨
      ∃ config, manager'.data = .loggedIn config ∧ config.HasOwnKey publicKey issued) :
    manager'.Paired publicKey issued := by
  intro config hconfig
  rcases hdata with hdata | hdata | ⟨stored, hdata, hkey⟩
  · exact h config (hdata ▸ hconfig)
  · rw [hconfig] at hdata
    cases hdata
  · cases hdata.symm.trans hconfig
    exact hkey

theorem Paired.set (event : PrivateDeviceEvent)
    (hevent : ∀ config, event.state = .loggedIn config → config.HasOwnKey publicKey issued)
    (env : Environment) : (manager.set event env).1.Paired publicKey issued := by
  obtain ⟨data, lastValidation, heq, hdata⟩ := set_eq manager event env
  rw [heq]
  rcases hdata with rfl | rfl
  · exact h
  · exact hevent

theorem Paired.revokeDevice (err : Error) : (manager.revokeDevice err).1.Paired publicKey issued :=
  h.of_data (.inr (.inl rfl))

end

theorem data_rotateAfterValidation : manager.rotateAfterValidation.data = manager.data := by
  unfold rotateAfterValidation
  split
  · split <;> rfl
  · rfl

theorem isFor_rotateAfterValidation (h : manager.currentApiCall = none)
    (hcall : manager.rotateAfterValidation.currentApiCall = some call) : call.IsFor manager.data := by
  unfold rotateAfterValidation at hcall
  split at hcall
  · split at hcall
    · rename_i config hdevice
      cases hcall
      exact ⟨config, data_of_device hdevice, rfl⟩
    · cases h.symm.trans hcall
  · cases h.symm.trans hcall

theorem onTarget_rotateAfterValidation (h : manager.currentApiCall = none) :
    manager.rotateAfterValidation.OnTarget := by
  intro call hcall
  have hfor := isFor_rotateAfterValidation h hcall
  rw [← data_rotateAfterValidation] at hfor
  exact onTarget_of_isFor hcall hfor call hcall

/-- The completion of an honest call leaves a device with its own key, provided that a rotation is for
the current device. -/
theorem Paired.completed (h : manager.Paired publicKey issued) (hcall : manager.currentApiCall = some call)
    (htarget : ∀ deviceId, call.rotates = some deviceId →
      ∃ config, manager.data = .loggedIn config ∧ config.device.id = deviceId)
    {result : ApiResult} (hhonest : HonestResult publicKey issued call result)
    (hhandle : manager.handle publicKey (.completed result env) = some (manager', outputs)) :
    manager'.Paired publicKey issued ∧ manager'.OnTarget := by
  rw [handle_completed hcall] at hhandle
  have hidle : manager.clearCall.Paired publicKey issued := h
  have hrotation : ∀ deviceId response, call.rotates = some deviceId →
      manager.clearCall.consumeRotationResult response env = some (manager', outputs) →
      (∀ wgData, response = .ok wgData → issued (publicKey wgData.privateKey) deviceId) →
      manager'.Paired publicKey issued ∧ manager'.OnTarget := by
    intro deviceId response hrotates hconsume hissued
    obtain ⟨config, hconfig, rfl⟩ := htarget deviceId hrotates
    obtain ⟨after, outputs', heq, hslot, -, -, -, -, -, hdata⟩ :=
      consumeRotationResult_spec manager.clearCall hconfig response env
    cases heq.symm.trans hconsume
    refine ⟨hidle.of_data ?_, onTarget_of_idle hslot⟩
    rcases hdata with hdata | hdata | ⟨wgData, hok, hdata⟩
    · exact .inl hdata
    · exact .inr (.inl (by rw [hdata]; rfl))
    · exact .inr (.inr ⟨_, hdata, hissued wgData hok⟩)
  have hreturns := returns_of_consumeApiResult hhandle
  by_cases hsingle : call.hasSingleCaller = true
  · obtain ⟨after, outputs', heq, hcases⟩ :=
      consumeApiResult_of_single publicKey hsingle hreturns manager.clearCall env
    cases heq.symm.trans hhandle
    rcases hcases with rfl | ⟨err, rfl⟩
    · exact ⟨hidle, onTarget_of_idle rfl⟩
    · exact ⟨hidle.revokeDevice err, onTarget_of_idle rfl⟩
  cases call <;> cases result <;> try first | exact hreturns.elim | exact absurd rfl hsingle
  case login.login number tx response =>
    obtain ⟨⟨data, last, heq, hdata⟩, -⟩ := consumeLogin_spec manager.clearCall response tx env
    obtain rfl : (manager.clearCall.consumeLogin response tx env).1 = manager' := by
      rw [Option.some.inj hhandle]
    rw [heq]
    refine ⟨hidle.of_data ?_, onTarget_of_idle rfl⟩
    rcases hdata with hdata | ⟨config, rfl, hdata⟩
    · exact .inl hdata
    · exact .inr (.inr ⟨config, hdata, hhonest⟩)
  case timerKeyRotation.rotation number deviceId response =>
    refine hrotation deviceId response rfl hhandle ?_
    rintro wgData rfl
    exact hhonest
  case oneshotKeyRotation.rotation number deviceId response =>
    refine hrotation deviceId response rfl hhandle ?_
    rintro wgData rfl
    exact hhonest
  case validation.validation number deviceId response =>
    simp only [consumeApiResult, consumeValidation, Option.bind_eq_bind, Option.bind_eq_some_iff,
      Option.some.injEq, Prod.mk.injEq] at hhandle
    obtain ⟨config, hdevice, ⟨applied, outputs'⟩, happly, rfl, -⟩ := hhandle
    obtain ⟨after, outputs'', heq, hslot, -, -, hdata⟩ :=
      applyValidation_spec publicKey (data_of_device hdevice) response env
    cases heq.symm.trans happly
    have hpaired : applied.Paired publicKey issued := by
      refine hidle.of_data ?_
      rcases hdata with hdata | hdata | ⟨device, updated, rfl, hupdate, hdata⟩
      · exact .inl hdata
      · exact .inr (.inl (by rw [hdata]; rfl))
      · refine .inr (.inr ⟨_, hdata, ?_⟩)
        unfold PrivateDevice.update at hupdate
        split_ifs at hupdate with hkey
        cases hupdate
        have hissued : issued device.pubkey device.id := hhonest
        rwa [not_not.mp hkey] at hissued
    exact ⟨hpaired.of_data (.inl data_rotateAfterValidation), onTarget_rotateAfterValidation hslot⟩
  case expiryCheck.expiryCheck number response =>
    obtain ⟨hcases, -⟩ := consumeExpiryResult_spec manager.clearCall response
    obtain rfl : (manager.clearCall.consumeExpiryResult response).1 = manager' := by
      rw [Option.some.inj hhandle]
    rcases hcases with heq | ⟨err, heq⟩
    · rw [heq]
      exact ⟨hidle, onTarget_of_idle rfl⟩
    · rw [heq]
      exact ⟨hidle.revokeDevice err, onTarget_of_idle rfl⟩

end AccountManager

end MullvadVpn.Account
