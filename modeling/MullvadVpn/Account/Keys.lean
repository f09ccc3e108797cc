import MullvadVpn.Account.Pairing
import MullvadVpn.Account.Requests

/-!
Which device a WireGuard key belongs to. The API issues each key for one device. A rotation is asked for
with the identifier of the device that is current when it starts, and its result is stored with the
device that is current when it completes. The two are the same unless `SetData` stores another device
while a rotation is in flight, which it always is for an idle manager that is logged in.
-/

namespace MullvadVpn.Account

open Systems Sample

namespace AccountManager

variable {publicKey : PrivateKey → PublicKey} {issued : PublicKey → DeviceId → Prop}
variable {manager : AccountManager}

/-- One iteration with an honest input leaves a device with its own key; a rotation stays on target if
the input keeps it. -/
theorem Paired.iterate (h : manager.Paired publicKey issued) (htarget : manager.OnTarget)
    {input} (hhonest : manager.Honest publicKey issued input) {manager'}
    {outputs} (hstep : manager.iterate publicKey input = some (manager', outputs)) :
    manager'.Paired publicKey issued ∧ (manager.KeepsTarget input → manager'.OnTarget) := by
  have hready : manager.spawnTimedKeyRotation.Paired publicKey issued :=
    h.of_data (.inl data_spawnTimedKeyRotation)
  have hreadyTarget := htarget.spawnTimedKeyRotation
  unfold AccountManager.iterate at hstep
  cases input with
  | completed result env =>
    cases hcall : manager.spawnTimedKeyRotation.currentApiCall with
    | none => simp [handle, hcall] at hstep
    | some call =>
      obtain ⟨hpaired, hon⟩ := hready.completed hcall (hreadyTarget call hcall) (hhonest call hcall) hstep
      exact ⟨hpaired, fun _ => hon⟩
  | command command env =>
    obtain rfl : (manager.spawnTimedKeyRotation.handleCommand env command).1 = manager' :=
      congrArg Prod.fst (Option.some.inj hstep)
    by_cases hset : ∀ data tx, command ≠ .setData data tx
    · have hsteady := steady_handleCommand manager.spawnTimedKeyRotation env hset
      exact ⟨hready.of_data (hsteady.data.imp_right fun h => .inl (by rw [h]; rfl)),
        fun _ => hsteady.onTarget hreadyTarget⟩
    · push Not at hset
      obtain ⟨data, tx, rfl⟩ := hset
      refine ⟨hready.set (.login data) (fun config hconfig => ?_) env, fun hkeeps => ?_⟩
      · cases hconfig
        exact hhonest
      · intro call hcall deviceId hrotates
        have hcall' : manager.spawnTimedKeyRotation.currentApiCall = some call :=
          (set_slot _ (.login data) env).symm.trans hcall
        by_cases hwritten : env.cacherWrite = .ok ()
        · exact ⟨data, set_data_of_written _ _ hwritten, hkeeps call hcall' deviceId hrotates hwritten⟩
        · obtain ⟨config, hconfig, hid⟩ := hreadyTarget call hcall' deviceId hrotates
          exact ⟨config, (set_data_of_not_written hwritten).trans hconfig, hid⟩

theorem paired_onTarget_of_run {h} (hrun : (pairedSystem publicKey issued).RunWhere
      (fun _ before input => before.Honest publicKey issued input ∧ before.KeepsTarget input) h manager) :
    manager.Paired publicKey issued ∧ manager.OnTarget := by
  refine TransitionSystem.RunWhere.invariant
    (I := fun _ manager => manager.Paired publicKey issued ∧ manager.OnTarget) ?_ ?_ hrun
  · rintro manager ⟨data, rfl, hpaired⟩
    exact ⟨hpaired, onTarget_of_idle rfl⟩
  · rintro _ before input after _ ⟨hhonest, hkeeps⟩ ⟨hpaired, htarget⟩ hstep
    obtain ⟨outputs, heq⟩ := iterate_of_step hstep
    obtain ⟨hpaired', htarget'⟩ := hpaired.iterate htarget hhonest heq
    exact ⟨hpaired', htarget' hkeeps⟩

theorem spawnTimedKeyRotation_of_busy {call : Call} (h : manager.currentApiCall = some call) :
    manager.spawnTimedKeyRotation = manager := by
  unfold spawnTimedKeyRotation
  split
  · rename_i hidle _
    rw [h] at hidle
    cases hidle
  · rfl

/-- A rotation that completes for another device than the current one stores the key of the other
device. -/
theorem step_rotation (publicKey : PrivateKey → PublicKey) {call : Call} {deviceId}
    (hcall : manager.currentApiCall = some call) (hrotates : call.rotates = some deviceId)
    {config} (hdata : manager.data = .loggedIn config)
    (wgData : WireguardData) {env} (hwritten : env.cacherWrite = .ok ()) :
    ∃ manager', (system publicKey).step manager (.completed (.rotation (.ok wgData)) env) = some manager' ∧
      manager'.data = .loggedIn { config with device := { config.device with wgData } } := by
  have hdevice : manager.clearCall.data.device = some config := by
    simp only [clearCall, hdata]
    rfl
  have hstored := set_data_of_written manager.clearCall
    (.rotatedKey { config with device := { config.device with wgData } }) hwritten
  have hconsume : ∃ manager' outputs,
      manager.clearCall.consumeRotationResult (.ok wgData) env = some (manager', outputs) ∧
      manager'.data = .loggedIn { config with device := { config.device with wgData } } := by
    simp only [consumeRotationResult, hdevice, Option.map_some]
    generalize manager.clearCall.set _ env = stored at hstored
    obtain ⟨stored, outputs, result⟩ := stored
    cases result with
    | ok _ => exact ⟨_, _, rfl, hstored⟩
    | error err => exact ⟨_, _, rfl, hstored⟩
  obtain ⟨manager', outputs, heq, hresult⟩ := hconsume
  refine ⟨manager', ?_, hresult⟩
  have hhandle : manager.handle publicKey (.completed (.rotation (.ok wgData)) env) =
      some (manager', outputs) := by
    rw [handle_completed hcall]
    cases call
    case timerKeyRotation => exact heq
    case oneshotKeyRotation => exact heq
    all_goals cases hrotates
  simp [system, iterate, spawnTimedKeyRotation_of_busy hcall, hhandle]

/-- A key belongs to one device. Then every state that an honest run reaches has the key of its own
device, as long as no input stores another device while a rotation is in flight. The first input that
does so still leaves the right key, but an honest API can then answer such that the key of one device is
stored with another: the condition is exactly what the next input cannot break. -/
theorem keepsTarget_iff_paired
    (hexclusive : ∀ key deviceId deviceId', issued key deviceId → issued key deviceId' → deviceId = deviceId')
    {h : List Input} (hrun : (pairedSystem publicKey issued).RunWhere
      (fun _ before input => before.Honest publicKey issued input ∧ before.KeepsTarget input) h manager)
    {input : Input} (hhonest : manager.Honest publicKey issued input) {after : AccountManager}
    (hstep : (system publicKey).step manager input = some after) :
    manager.Paired publicKey issued ∧ after.Paired publicKey issued ∧
      (manager.KeepsTarget input ↔ ∀ next later, after.Honest publicKey issued next →
        (system publicKey).step after next = some later → later.Paired publicKey issued) := by
  obtain ⟨hpaired, htarget⟩ := paired_onTarget_of_run hrun
  obtain ⟨outputs, heq⟩ := iterate_of_step hstep
  obtain ⟨hafter, hkeepsTarget⟩ := hpaired.iterate htarget hhonest heq
  refine ⟨hpaired, hafter, fun hkeeps next later hnext hlater => ?_, fun hall => ?_⟩
  · obtain ⟨outputs', heq'⟩ := iterate_of_step hlater
    exact (hafter.iterate (hkeepsTarget hkeeps) hnext heq').1
  · -- Only `SetData` can fail to keep the target.
    cases input with
    | completed => trivial
    | command command env =>
      cases command with
      | setData data tx =>
        intro call hcall deviceId hrotates hwritten
        -- The rotation is for the current device; let it return the key that device has.
        obtain ⟨config, hconfig, hid⟩ := htarget.spawnTimedKeyRotation call hcall deviceId hrotates
        rw [data_spawnTimedKeyRotation] at hconfig
        have hkey : issued (publicKey config.device.wgData.privateKey) deviceId := by
          rw [← hid]
          exact hpaired config hconfig
        obtain rfl : (manager.spawnTimedKeyRotation.set (.login data) env).1 = after :=
          congrArg Prod.fst (Option.some.inj heq)
        have hslot := (set_slot manager.spawnTimedKeyRotation (.login data) env).trans hcall
        obtain ⟨later, hlater, hdata⟩ := step_rotation publicKey hslot hrotates
          (set_data_of_written _ _ hwritten) config.device.wgData hwritten
        have hlaterPaired := hall _ later ?_ hlater _ hdata
        · exact hexclusive _ _ _ hlaterPaired hkey
        · intro call' hcall'
          rw [callInFlight, spawnTimedKeyRotation_of_busy hslot, hslot] at hcall'
          cases hcall'
          cases call
          case timerKeyRotation =>
            cases hrotates
            exact hkey
          case oneshotKeyRotation =>
            cases hrotates
            exact hkey
          all_goals cases hrotates
      | login | logout | getData | getDataAfterLogin | rotateKey | setRotationInterval
      | validateDevice | submitVoucher | initPlayPurchase | verifyPlayPurchase | checkExpiry => trivial

end AccountManager

namespace Sample

def issued (key : PublicKey) (deviceId : DeviceId) : Prop :=
  (key = 1#256 ∧ deviceId = "device") ∨ (key = 2#256 ∧ deviceId = "other") ∨ (key = 3#256 ∧ deviceId = "device")

theorem issued_exclusive (key : PublicKey) (deviceId deviceId' : DeviceId)
    (h : issued key deviceId) (h' : issued key deviceId') : deviceId = deviceId' := by
  rcases h with ⟨rfl, rfl⟩ | ⟨rfl, rfl⟩ | ⟨rfl, rfl⟩ <;> simp_all [issued]

def other : PrivateAccountAndDevice :=
  { config with device :=
      { device with id := "other", wgData := { device.wgData with privateKey := 2#256 } } }

def rotated : WireguardData :=
  { device.wgData with privateKey := 3#256 }

theorem init_config : (AccountManager.pairedSystem id issued).Init (.new (.loggedIn config)) := by
  refine ⟨_, rfl, fun config' hconfig' => ?_⟩
  cases hconfig'
  exact .inl ⟨rfl, rfl⟩

end Sample

open AccountManager in
theorem keepsTarget_iff_paired_rotateKey :
    ∃ after, (system id).step (.new (.loggedIn config)) (.command (.rotateKey 1) env) =
        some after ∧ after.Paired id issued ∧
      ∀ next later, after.Honest id issued next → (system id).step after next = some later →
        later.Paired id issued := by
  have hhonest : (AccountManager.new (.loggedIn config)).Honest id issued
      (.command (.rotateKey 1) env) := trivial
  obtain ⟨-, hafter, hiff⟩ := keepsTarget_iff_paired issued_exclusive (.init init_config) hhonest rfl
  exact ⟨_, rfl, hafter, hiff.mp trivial⟩

open AccountManager in
/-- The manager waits to rotate the key of one device, another device is stored, and the rotation
completes: the new key of the first device is stored with the second. -/
theorem setData_pairs_key_of_other_device :
    ∃ manager, (pairedSystem id issued).RunWhere (fun _ before input => before.Honest id issued input)
        [.completed (.rotation (.ok rotated)) env,
          .command (.setData other 1) env] manager ∧ ¬ manager.Paired id issued := by
  refine ⟨_, .step (.step (.init init_config) ?_ rfl) ?_ rfl, fun hpaired => ?_⟩
  · exact .inr (.inl ⟨rfl, rfl⟩)
  · rintro call hcall
    cases hcall
    exact .inr (.inr ⟨rfl, rfl⟩)
  · have hkey := hpaired _ rfl
    simp [PrivateAccountAndDevice.HasOwnKey, issued, rotated, other] at hkey

end MullvadVpn.Account
