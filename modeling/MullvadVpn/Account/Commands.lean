import MullvadVpn.Account.Queues

/-!
Commands keep the invariant on the queues unless they take the slot of the call while somebody waits for
a rotation, a validation or the expiry.
-/

namespace MullvadVpn.Account

variable {tx : Caller} {env : Environment}

namespace AccountManager

variable {manager : AccountManager}

theorem logout_eq (manager : AccountManager) (tx : Caller) (env : Environment) :
    ∃ data, (manager.logout tx env).1 = { manager with data, dataRequests := [] } ∧
      (data = manager.data ∨ data = .loggedOut) := by
  unfold logout
  dsimp only
  split <;> first | exact ⟨_, rfl, Or.inl rfl⟩ | exact ⟨_, rfl, Or.inr rfl⟩

section

variable (h : manager.Sound)

include h

/-- Another device state, with a device in it if there was one, and another time of validation are
not seen by the invariant. -/
theorem Sound.withData {data}
    (hdata : manager.data.isLoggedIn = true → data.isLoggedIn = true) (lastValidation : Option Nat) :
    ({ manager with data, lastValidation } : AccountManager).Sound := by
  obtain ⟨_, _, _, _, _, _, call⟩ := manager
  rcases call with _ | call
  · exact h
  · cases call with
    | timerKeyRotation | oneshotKeyRotation | validation => exact ⟨h.1, h.2.1, hdata h.2.2⟩
    | login | voucherSubmission | initPlayPurchase | verifyPlayPurchase | expiryCheck => exact h

theorem Sound.set {event}
    (hevent : event.state.isLoggedIn = true) (env : Environment) : (manager.set event env).1.Sound := by
  obtain ⟨data, lastValidation, heq, hdata⟩ := set_eq manager event env
  rw [heq]
  refine h.withData (fun hloggedIn => ?_) _
  rcases hdata with rfl | rfl
  · exact hloggedIn
  · exact hevent

/-- Without a validation or a rotation on request in flight, nobody waits for either. -/
theorem Sound.noDeviceRequests (hvalidating : manager.isValidating = false) :
    manager.rotationRequests = [] ∧ manager.validationRequests = [] := by
  obtain ⟨_, _, _, _, _, _, call⟩ := manager
  rcases call with _ | call
  · exact ⟨h.1.1, h.1.2.1⟩
  · cases call with
    | oneshotKeyRotation | validation => simp [isValidating] at hvalidating
    | timerKeyRotation | voucherSubmission | initPlayPurchase | verifyPlayPurchase =>
      exact ⟨h.1.1, h.1.2.1⟩
    | login | expiryCheck => exact ⟨h.1, h.2.1⟩

theorem Sound.noDataRequests (hlogin : manager.isLoggingIn = false) : manager.dataRequests = [] := by
  by_contra hne
  simp [h.attended.data hne] at hlogin

end

/-! The invariant next to a call that is attended to, in which others may join the queue. -/

theorem sound_iff_of_isValidating (h : manager.isValidating = true) :
    manager.Sound ↔ manager.expiryRequests = [] ∧ manager.dataRequests = [] ∧
      manager.data.isLoggedIn = true := by
  unfold isValidating at h
  split at h <;> simp_all [Sound]

theorem sound_iff_of_isCheckingExpiry (h : manager.isCheckingExpiry = true) :
    manager.Sound ↔ manager.rotationRequests = [] ∧ manager.validationRequests = [] ∧
      manager.dataRequests = [] := by
  unfold isCheckingExpiry at h
  split at h <;> simp_all [Sound]

theorem sound_iff_of_isLoggingIn (h : manager.isLoggingIn = true) : manager.Sound ↔ manager.Quiet := by
  unfold isLoggingIn at h
  split at h <;> simp_all [Sound]

theorem isLoggedIn_eq : manager.data.isLoggedIn = manager.data.device.isSome := by
  cases manager.data <;> rfl

theorem data_of_device {config} (h : manager.data.device = some config) :
    manager.data = .loggedIn config := by
  cases hdata : manager.data with
  | loggedIn _ =>
    rw [hdata] at h
    cases h
    rfl
  | loggedOut | revoked => simp [hdata, PrivateDeviceState.device] at h

/-- What a request of the API comes to: an answer at once, a place in the queue of the call in flight
or a call of its own, which takes the slot. -/
inductive Requested (manager : AccountManager) : Bool → AccountManager → Prop
  | answered (lastValidation : Option Nat) : Requested manager false { manager with lastValidation }
  | joined (rotationRequests validationRequests : List Caller) (hvalidating : manager.isValidating = true) :
    Requested manager false { manager with rotationRequests, validationRequests }
  | joinedExpiry (expiryRequests : List Caller) (hchecking : manager.isCheckingExpiry = true) :
    Requested manager false { manager with expiryRequests }
  | changesDevice {call : Call} {config}
    (rotationRequests validationRequests : List Caller) (lastValidation : Option Nat)
    (hlogin : manager.isLoggingIn = false) (hvalidating : manager.isValidating = false)
    (hdata : manager.data = .loggedIn config)
    (hcall : call = .oneshotKeyRotation config.accountNumber config.device.id ∨
      call = .validation config.accountNumber config.device.id) :
    Requested manager true { manager with rotationRequests, validationRequests, lastValidation,
                                          currentApiCall := some call }
  | checksExpiry (number : AccountNumber) (expiryRequests : List Caller)
    (hlogin : manager.isLoggingIn = false) (hchecking : manager.isCheckingExpiry = false) :
    Requested manager true { manager with expiryRequests, currentApiCall := some (.expiryCheck number) }
  | single {call : Call} (hsingle : call.hasSingleCaller = true) (hlogin : manager.isLoggingIn = false) :
    Requested manager true { manager with currentApiCall := some call }

theorem requested_handleAccountCall {call}
    (hsingle : ∀ number, (call number).hasSingleCaller = true) :
    Requested manager (!manager.isLoggingIn && manager.data.isLoggedIn)
      (manager.handleAccountCall tx call).1 := by
  simp only [handleAccountCall, isLoggedIn_eq]
  cases hlogin : manager.isLoggingIn with
  | true => exact .answered _
  | false =>
    cases manager.data.device with
    | none => exact .answered _
    | some config => exact .single (hsingle _) hlogin

theorem requested_handleRotateKey :
    Requested manager (!manager.isLoggingIn && !manager.isValidating && manager.data.isLoggedIn)
      (manager.handleRotateKey tx).1 := by
  simp only [handleRotateKey, isLoggedIn_eq]
  cases hlogin : manager.isLoggingIn with
  | true => exact .answered _
  | false =>
    cases hvalidating : manager.isValidating with
    | true => exact .joined _ _ hvalidating
    | false =>
      cases hdevice : manager.data.device with
      | none => exact .answered _
      | some config =>
        exact .changesDevice _ _ _ hlogin hvalidating (data_of_device hdevice) (Or.inl rfl)

theorem requested_handleValidationRequest :
    Requested manager (manager.takesSlot env (.validateDevice tx))
      (manager.handleValidationRequest tx env).1 := by
  obtain ⟨last, hnoted⟩ := needsValidation_eq manager env
  have hneeds : manager.needsValidation env =
    ((manager.needsValidation env).1, { manager with lastValidation := last }) := Prod.ext rfl hnoted
  simp only [handleValidationRequest, takesSlot, isLoggedIn_eq]
  cases hlogin : manager.isLoggingIn with
  | true => exact .answered _
  | false =>
    cases hvalidating : manager.isValidating with
    | true => exact .joined _ _ hvalidating
    | false =>
      rw [hneeds]
      cases (manager.needsValidation env).1 with
      | false => exact .answered last
      | true =>
        dsimp only
        cases hdevice : manager.data.device with
        | none => exact .answered last
        | some config =>
          exact .changesDevice _ _ last hlogin hvalidating (data_of_device hdevice) (Or.inr rfl)

theorem requested_handleExpiryRequest :
    Requested manager (!manager.isLoggingIn && !manager.isCheckingExpiry && manager.data.isLoggedIn)
      (manager.handleExpiryRequest tx).1 := by
  simp only [handleExpiryRequest, isLoggedIn_eq]
  cases hlogin : manager.isLoggingIn with
  | true => exact .answered _
  | false =>
    cases hchecking : manager.isCheckingExpiry with
    | true => exact .joinedExpiry _ hchecking
    | false =>
      cases manager.data.device with
      | none => exact .answered _
      | some config => exact .checksExpiry _ _ hlogin hchecking

section

variable (h : manager.Sound)

include h

theorem Sound.requested {takes : Bool} {manager'}
    (hrequested : Requested manager takes manager') (hundisturbed : takes = true → manager.Quiet) :
    manager'.Sound := by
  cases hrequested with
  | answered last => exact h.withData (fun hd => hd) last
  | joined _ _ hvalidating =>
    rw [sound_iff_of_isValidating hvalidating] at h
    refine (sound_iff_of_isValidating ?_).mpr h
    exact hvalidating
  | joinedExpiry _ hchecking =>
    rw [sound_iff_of_isCheckingExpiry hchecking] at h
    refine (sound_iff_of_isCheckingExpiry ?_).mpr h
    exact hchecking
  | changesDevice _ _ _ hlogin _ hdata hcall =>
    have hloggedIn : manager.data.isLoggedIn = true := by rw [hdata]; rfl
    rcases hcall with rfl | rfl
    all_goals exact ⟨(hundisturbed rfl).2.2, h.noDataRequests hlogin, hloggedIn⟩
  | checksExpiry _ _ hlogin =>
    obtain ⟨hrotation, hvalidation, -⟩ := hundisturbed rfl
    exact ⟨hrotation, hvalidation, h.noDataRequests hlogin⟩
  | @single call hsingle hlogin =>
    cases call with
    | voucherSubmission | initPlayPurchase | verifyPlayPurchase =>
      exact ⟨hundisturbed rfl, h.noDataRequests hlogin⟩
    | login | timerKeyRotation | oneshotKeyRotation | validation | expiryCheck => cases hsingle

theorem Sound.handleCommand {command}
    (hundisturbed : manager.takesSlot env command = true → manager.Quiet) :
    (manager.handleCommand env command).1.Sound := by
  cases command with
  | login number tx => exact hundisturbed rfl
  | logout tx =>
    obtain ⟨data, heq, -⟩ := logout_eq manager.clearCall tx env
    simp only [AccountManager.handleCommand, heq]
    exact ⟨hundisturbed rfl, rfl⟩
  | setData data tx => exact h.set rfl env
  | getData tx => exact h
  | getDataAfterLogin tx =>
    simp only [AccountManager.handleCommand]
    split
    · rename_i hlogin
      rw [sound_iff_of_isLoggingIn hlogin] at h
      refine (sound_iff_of_isLoggingIn ?_).mpr h
      exact hlogin
    · exact h
  | rotateKey tx => exact h.requested requested_handleRotateKey hundisturbed
  | setRotationInterval tx =>
    simp only [AccountManager.handleCommand]
    split
    · rename_i htimed
      obtain ⟨_, _, _, _, _, _, call⟩ := manager
      rcases call with _ | call
      · cases htimed
      · cases call with
        | timerKeyRotation => exact ⟨h.1, h.2.1⟩
        | voucherSubmission | initPlayPurchase | verifyPlayPurchase | login | expiryCheck
        | oneshotKeyRotation | validation => cases htimed
    · exact h
  | validateDevice tx => exact h.requested requested_handleValidationRequest hundisturbed
  | submitVoucher | initPlayPurchase | verifyPlayPurchase =>
    exact h.requested (requested_handleAccountCall fun _ => rfl) hundisturbed
  | checkExpiry tx => exact h.requested requested_handleExpiryRequest hundisturbed

theorem Sound.quiet_of_requested {manager'}
    (hattended : manager'.Attended) (hrequested : Requested manager true manager') : manager.Quiet := by
  cases hrequested with
  | changesDevice _ _ _ _ hvalidating _ hcall =>
    obtain ⟨hrotation, hvalidation⟩ := h.noDeviceRequests hvalidating
    refine ⟨hrotation, hvalidation, by_contra fun hne => ?_⟩
    rcases hcall with rfl | rfl
    all_goals exact nomatch hattended.expiry hne
  | checksExpiry _ _ _ hchecking =>
    refine ⟨by_contra fun hne => (nomatch hattended.rotation hne),
      by_contra fun hne => (nomatch hattended.validation hne), by_contra fun hne => ?_⟩
    simp [h.attended.expiry hne] at hchecking
  | @single call hsingle =>
    -- The call of a voucher or a purchase has no queue, so all of them have to be empty.
    cases call with
    | voucherSubmission | initPlayPurchase | verifyPlayPurchase => exact hattended.quiet rfl rfl
    | login | timerKeyRotation | oneshotKeyRotation | validation | expiryCheck => cases hsingle

/-- If every queue is attended after a command that took the slot, nobody was waiting before. -/
theorem Sound.quiet_of_takesSlot {command}
    (hattended : (manager.handleCommand env command).1.Attended)
    (htakes : manager.takesSlot env command = true) : manager.Quiet := by
  cases command with
  | login number tx => exact hattended.quiet rfl rfl
  | logout tx =>
    obtain ⟨data, heq, -⟩ := logout_eq manager.clearCall tx env
    simp only [AccountManager.handleCommand, heq] at hattended
    exact hattended.quiet rfl rfl
  | rotateKey tx => exact h.quiet_of_requested hattended (htakes ▸ requested_handleRotateKey)
  | validateDevice tx =>
    exact h.quiet_of_requested hattended (htakes ▸ requested_handleValidationRequest)
  | submitVoucher | initPlayPurchase | verifyPlayPurchase =>
    exact h.quiet_of_requested hattended (htakes ▸ requested_handleAccountCall fun _ => rfl)
  | checkExpiry tx => exact h.quiet_of_requested hattended (htakes ▸ requested_handleExpiryRequest)
  | setData | getData | getDataAfterLogin | setRotationInterval => cases htakes

end

end AccountManager

end MullvadVpn.Account
