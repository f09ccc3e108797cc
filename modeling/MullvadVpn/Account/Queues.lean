import MullvadVpn.Account.AccountManager

/-!
The callers that wait in the queues of the account manager. A queue is attended as long as a call is in
flight that it belongs to; who waits is answered by the completion of that call, or of the rotation that
it starts. The invariant says which queues can be occupied next to which call.
-/

namespace MullvadVpn.Account

variable {caller : Caller}

namespace AccountManager

variable (manager : AccountManager)

/-- A validation or a rotation of the key is in flight. -/
def isChangingDevice : Bool :=
  manager.isValidating || manager.isRunningTimedRotation

/-- For every queue in which somebody waits, a call is in flight that the queue belongs to. -/
structure Attended (manager : AccountManager) : Prop where
  rotation : manager.rotationRequests ≠ [] → manager.isChangingDevice = true
  validation : manager.validationRequests ≠ [] → manager.isChangingDevice = true
  expiry : manager.expiryRequests ≠ [] → manager.isCheckingExpiry = true
  data : manager.dataRequests ≠ [] → manager.isLoggingIn = true

/-- Nobody waits for a rotation, a validation or the expiry. -/
def Quiet : Prop :=
  manager.rotationRequests = [] ∧ manager.validationRequests = [] ∧ manager.expiryRequests = []

/-- Whether a command takes the slot: a login and a logout always, the others if they start a call. -/
def takesSlot (env : Environment) : Command → Bool
  | .login _ _ | .logout _ => true
  | .rotateKey _ => !manager.isLoggingIn && !manager.isValidating && manager.data.isLoggedIn
  | .validateDevice _ =>
    !manager.isLoggingIn && !manager.isValidating && (manager.needsValidation env).1 && manager.data.isLoggedIn
  | .submitVoucher _ _ | .initPlayPurchase _ | .verifyPlayPurchase _ _ =>
    !manager.isLoggingIn && manager.data.isLoggedIn
  | .checkExpiry _ => !manager.isLoggingIn && !manager.isCheckingExpiry && manager.data.isLoggedIn
  | .setData _ _ | .getData _ | .getDataAfterLogin _ | .setRotationInterval _ => false

/-- The input does not take the slot while somebody waits for a rotation, a validation or the
expiry. -/
def Undisturbed : Input → Prop
  | .command command env => manager.takesSlot env command = true → manager.Quiet
  | .completed _ _ => True

def waiting : List Caller :=
  manager.rotationRequests ++ manager.validationRequests ++ manager.expiryRequests ++ manager.dataRequests

end AccountManager

def Replied (caller : Caller) (outputs : List Output) : Prop :=
  ∃ result, Output.reply caller result ∈ outputs

/-- The calls whose caller does not wait in a queue. -/
def Call.hasSingleCaller : Call → Bool
  | .voucherSubmission _ _ _ | .initPlayPurchase _ _ | .verifyPlayPurchase _ _ _ => true
  | .login _ _ | .timerKeyRotation _ _ | .oneshotKeyRotation _ _ | .validation _ _
  | .expiryCheck _ => false

def Call.Returns : Call → ApiResult → Prop
  | .login _ _, .login _ | .timerKeyRotation _ _, .rotation _ | .oneshotKeyRotation _ _, .rotation _
  | .validation _ _, .validation _ | .voucherSubmission _ _ _, .voucherSubmission _
  | .initPlayPurchase _ _, .initPlayPurchase _ | .verifyPlayPurchase _ _ _, .verifyPlayPurchase _
  | .expiryCheck _, .expiryCheck _ => True
  | _, _ => False

namespace AccountManager

variable (publicKey : PrivateKey → PublicKey)

/-- A call is in flight, whatever it returns is handled, and then the caller has been answered or the
manager has the property `P`. -/
def CompletesWith (P : AccountManager → Prop) (manager : AccountManager) (caller : Caller) : Prop :=
  ∃ call, manager.currentApiCall = some call ∧ ∀ result env, call.Returns result →
    ∃ manager' outputs, manager.handle publicKey (.completed result env) = some (manager', outputs) ∧
      (Replied caller outputs ∨ P manager')

/-- The completion of the call in flight answers the caller, or starts a call whose completion
does. -/
def AnswersEventually (manager : AccountManager) (caller : Caller) : Prop :=
  manager.CompletesWith publicKey
    (fun manager' => manager'.CompletesWith publicKey (fun _ => False) caller) caller

/-- No request is orphaned: every queue is attended, and who waits will be answered. -/
def NoOrphans (manager : AccountManager) : Prop :=
  manager.Attended ∧ ∀ caller ∈ manager.waiting, manager.AnswersEventually publicKey caller

end AccountManager

theorem replied_drainRequests {requests : List Caller} (h : caller ∈ requests)
    (result : Except Error Answer) : Replied caller (AccountManager.drainRequests requests result) :=
  ⟨result, List.mem_map.mpr ⟨caller, h, rfl⟩⟩

theorem Replied.append_left {outputs : List Output} (h : Replied caller outputs) (others : List Output) :
    Replied caller (outputs ++ others) := by
  obtain ⟨result, hmem⟩ := h
  exact ⟨result, List.mem_append_left _ hmem⟩

theorem Replied.append_right {outputs : List Output} (h : Replied caller outputs) (others : List Output) :
    Replied caller (others ++ outputs) := by
  obtain ⟨result, hmem⟩ := h
  exact ⟨result, List.mem_append_right _ hmem⟩

namespace AccountManager

variable {publicKey : PrivateKey → PublicKey} {manager : AccountManager}

/-- `set` touches nothing but the device state and the time of the last validation. -/
theorem set_eq (manager : AccountManager) (event : PrivateDeviceEvent) (env : Environment) :
    ∃ data lastValidation, (manager.set event env).1 = { manager with data, lastValidation } ∧
      (data = manager.data ∨ data = event.state) := by
  unfold set
  split
  · exact ⟨_, _, rfl, .inl rfl⟩
  · split
    · exact ⟨_, _, rfl, .inl rfl⟩
    · exact ⟨_, _, rfl, .inr rfl⟩

theorem needsValidation_eq (manager : AccountManager) (env : Environment) :
    ∃ lastValidation, (manager.needsValidation env).2 = { manager with lastValidation } := by
  unfold needsValidation
  split
  · exact ⟨_, rfl⟩
  · split
    · exact ⟨_, rfl⟩
    · exact ⟨_, rfl⟩

theorem replied_revokeDevice (err : Error)
    (h : caller ∈ manager.validationRequests ∨ caller ∈ manager.rotationRequests ∨ caller ∈ manager.expiryRequests) :
    Replied caller (manager.revokeDevice err).2 := by
  apply Replied.append_left
  rcases h with h | h | h
  · exact ((replied_drainRequests h _).append_left _).append_left _
  · exact ((replied_drainRequests h _).append_right _).append_left _
  · exact (replied_drainRequests h _).append_right _

theorem replied_revokeDevice_device (err : Error) (caller : Caller)
    (h : caller ∈ manager.rotationRequests ∨ caller ∈ manager.validationRequests) :
    Replied caller (manager.revokeDevice err).2 := by
  apply replied_revokeDevice
  rcases h with h | h
  · exact .inr (.inl h)
  · exact .inl h

theorem replied_drainDeviceRequestsWithErr (err : Error)
    (h : caller ∈ manager.rotationRequests ∨ caller ∈ manager.validationRequests) :
    Replied caller (manager.drainDeviceRequestsWithErr err).2 := by
  rcases h with h | h
  · exact (replied_drainRequests h _).append_left _
  · exact (replied_drainRequests h _).append_right _

variable {config : PrivateAccountAndDevice}

/-- A rotation result answers everybody who waits for a rotation or a validation. The device stays, is
revoked, or gets the new key. -/
theorem consumeRotationResult_spec (manager : AccountManager) (hdata : manager.data = .loggedIn config)
    (apiResult : Except Error WireguardData) (env : Environment) :
    ∃ manager' outputs, manager.consumeRotationResult apiResult env = some (manager', outputs) ∧
      manager'.currentApiCall = manager.currentApiCall ∧
      manager'.dataRequests = manager.dataRequests ∧ manager'.rotationRequests = [] ∧
      manager'.validationRequests = [] ∧
      (manager'.expiryRequests = manager.expiryRequests ∨ manager'.expiryRequests = []) ∧
      (∀ caller, caller ∈ manager.rotationRequests ∨ caller ∈ manager.validationRequests →
        Replied caller outputs) ∧
      (manager'.data = manager.data ∨ manager'.data = .revoked ∨ ∃ wgData, apiResult = .ok wgData ∧
          manager'.data = .loggedIn { config with device := { config.device with wgData } }) := by
  unfold consumeRotationResult
  rw [hdata]
  cases apiResult with
  | error err =>
    cases err
    case invalidAccount | invalidDevice =>
      exact ⟨_, _, rfl, rfl, rfl, rfl, rfl, .inr rfl, replied_revokeDevice_device _, .inr (.inl rfl)⟩
    all_goals
      exact ⟨_, _, rfl, rfl, rfl, rfl, rfl, .inl rfl,
        fun caller h => replied_drainDeviceRequestsWithErr _ h, .inl hdata⟩
  | ok wgData =>
    simp only [PrivateDeviceState.device, Option.map_some]
    obtain ⟨data, last, heq, hnew⟩ := set_eq manager
      (.rotatedKey { config with device := { config.device with wgData } }) env
    generalize manager.set _ env = stored at heq
    obtain ⟨manager', outputs, result⟩ := stored
    subst heq
    rw [hdata] at hnew
    cases result with
    | ok _ =>
      refine ⟨_, _, rfl, rfl, rfl, rfl, rfl, .inl rfl, fun caller h => ?_,
        hnew.imp_right fun h => .inr ⟨wgData, rfl, h⟩⟩
      rcases h with h | h
      · exact ((replied_drainRequests h _).append_right _).append_left _
      · exact (replied_drainRequests h _).append_right _
    | error err =>
      exact ⟨_, _, rfl, rfl, rfl, rfl, rfl, .inl rfl,
        fun caller h => (replied_drainDeviceRequestsWithErr _ h).append_right _,
        hnew.imp_right fun h => .inr ⟨wgData, rfl, h⟩⟩

/-- What a validation leaves: nobody waits any more, or the device is still there and those who waited
for a rotation wait on, with those who waited for the validation if they were not answered. The device
stays, is revoked, or is what the API says about the device that has the same key. -/
theorem applyValidation_spec (publicKey : PrivateKey → PublicKey)
    (hdata : manager.data = .loggedIn config) (response : Except Error Device) (env : Environment) :
    ∃ manager' outputs, manager.applyValidation publicKey config response env = some (manager', outputs) ∧
      manager'.currentApiCall = manager.currentApiCall ∧
      manager'.dataRequests = manager.dataRequests ∧
      ((manager'.Quiet ∧ ∀ caller, caller ∈ manager.rotationRequests ∨
          caller ∈ manager.validationRequests → Replied caller outputs) ∨
        (manager'.data.isLoggedIn = true ∧ manager'.rotationRequests = manager.rotationRequests ∧
          manager'.expiryRequests = manager.expiryRequests ∧
          (manager'.validationRequests = manager.validationRequests ∨ manager'.validationRequests = [] ∧
              ∀ caller ∈ manager.validationRequests, Replied caller outputs))) ∧
      (manager'.data = manager.data ∨ manager'.data = .revoked ∨
        ∃ device updated, response = .ok device ∧ config.device.update publicKey device = .ok updated ∧
          manager'.data = .loggedIn { config with device := updated }) := by
  have hloggedIn : manager.data.isLoggedIn = true := by rw [hdata]; rfl
  unfold applyValidation
  cases response with
  | error err =>
    cases err
    case invalidAccount | invalidDevice =>
      exact ⟨_, _, rfl, rfl, rfl, .inl ⟨⟨rfl, rfl, rfl⟩, replied_revokeDevice_device _⟩, .inr (.inl rfl)⟩
    all_goals
      exact ⟨_, _, rfl, rfl, rfl, .inr ⟨hloggedIn, rfl, rfl,
        .inr ⟨rfl, fun caller h => replied_drainRequests h _⟩⟩, .inl rfl⟩
  | ok newDevice =>
    dsimp only
    split
    · rename_i hkey
      obtain ⟨updated, hupdated⟩ : ∃ updated, config.device.update publicKey newDevice = .ok updated := by
        simp [PrivateDevice.update, hkey]
      rw [hupdated]
      obtain ⟨data, last, heq, hnew⟩ := set_eq manager (.updated { config with device := updated }) env
      have hstill : data.isLoggedIn = true := by
        rcases hnew with rfl | rfl
        · exact hloggedIn
        · rfl
      dsimp only
      generalize manager.set _ env = stored at heq
      obtain ⟨manager', outputs, result⟩ := stored
      subst heq
      cases result <;> exact ⟨_, _, rfl, rfl, rfl, .inr ⟨hstill, rfl, rfl,
          .inr ⟨rfl, fun caller h => (replied_drainRequests h _).append_right _⟩⟩,
          hnew.imp_right fun h => .inr ⟨newDevice, updated, rfl, hupdated, h⟩⟩
    · exact ⟨_, _, rfl, rfl, rfl, .inr ⟨hloggedIn, rfl, rfl, .inl rfl⟩, .inl rfl⟩

/-- Which queues can hold callers, by the call in flight. -/
def Sound (manager : AccountManager) : Prop :=
  match manager.currentApiCall with
  | none | some (.voucherSubmission _ _ _) | some (.initPlayPurchase _ _)
  | some (.verifyPlayPurchase _ _ _) => manager.Quiet ∧ manager.dataRequests = []
  | some (.login _ _) => manager.Quiet
  | some (.timerKeyRotation _ _) =>
    manager.Quiet ∧ manager.dataRequests = [] ∧ manager.data.isLoggedIn = true
  | some (.oneshotKeyRotation _ _) | some (.validation _ _) =>
    manager.expiryRequests = [] ∧ manager.dataRequests = [] ∧ manager.data.isLoggedIn = true
  | some (.expiryCheck _) =>
    manager.rotationRequests = [] ∧ manager.validationRequests = [] ∧ manager.dataRequests = []

theorem sound_new (data : PrivateDeviceState) : (new data).Sound := ⟨⟨rfl, rfl, rfl⟩, rfl⟩

theorem sound_of_idle (hslot : manager.currentApiCall = none) (hquiet : manager.Quiet)
    (hdata : manager.dataRequests = []) : manager.Sound := by
  unfold Sound
  rw [hslot]
  exact ⟨hquiet, hdata⟩

theorem Sound.attended (h : manager.Sound) : manager.Attended := by
  unfold Sound Quiet at h
  split at h <;> constructor <;>
    simp_all [isChangingDevice, isValidating, isRunningTimedRotation, isCheckingExpiry, isLoggingIn]

theorem Attended.quiet (h : manager.Attended) (hdevice : manager.isChangingDevice = false)
    (hexpiry : manager.isCheckingExpiry = false) : manager.Quiet := by
  refine ⟨?_, ?_, ?_⟩
  · by_contra hne
    simp [h.rotation hne] at hdevice
  · by_contra hne
    simp [h.validation hne] at hdevice
  · by_contra hne
    simp [h.expiry hne] at hexpiry

theorem Sound.spawnTimedKeyRotation (h : manager.Sound) : manager.spawnTimedKeyRotation.Sound := by
  unfold AccountManager.spawnTimedKeyRotation
  split
  · rename_i config hidle hdevice
    simp only [Sound, hidle] at h
    refine ⟨h.1, h.2, ?_⟩
    cases hdata : manager.data with
    | loggedIn config => simp [setCall, hdata, PrivateDeviceState.isLoggedIn]
    | loggedOut | revoked => simp [hdata, PrivateDeviceState.device] at hdevice
  · exact h

end AccountManager

end MullvadVpn.Account
