import MullvadVpn.Account.Queues

/-!
The completion of a call keeps the invariant on the queues and answers everybody who waits for it, or
starts a rotation that will.
-/

namespace MullvadVpn.Account

variable {call : Call} {result : ApiResult}

namespace AccountManager

variable {publicKey : PrivateKey → PublicKey} {manager : AccountManager}

theorem handle_completed (hcall : manager.currentApiCall = some call) (result : ApiResult)
    (env : Environment) : manager.handle publicKey (.completed result env) =
      manager.clearCall.consumeApiResult publicKey env call result := by
  simp [handle, hcall]

theorem returns_of_consumeApiResult {env : Environment} {outcome : AccountManager × List Output}
    (h : manager.consumeApiResult publicKey env call result = some outcome) : call.Returns result := by
  cases call <;> cases result <;> trivial

theorem sound_revokeDevice (manager : AccountManager) (hslot : manager.currentApiCall = none)
    (hdata : manager.dataRequests = []) (err : Error) : (manager.revokeDevice err).1.Sound :=
  sound_of_idle hslot ⟨rfl, rfl, rfl⟩ hdata

/-- After a validation whoever still waits has a rotation in flight, and the slot is empty if nobody
does. -/
theorem rotateAfterValidation_spec (hslot : manager.currentApiCall = none)
    (hexpiry : manager.expiryRequests = []) (hdata : manager.dataRequests = [])
    (hdevice : manager.Quiet ∨ manager.data.isLoggedIn = true) :
    manager.rotateAfterValidation.Sound ∧ ∀ caller,
      caller ∈ manager.rotationRequests ∨ caller ∈ manager.validationRequests →
      (∃ number deviceId, manager.rotateAfterValidation.currentApiCall =
          some (.oneshotKeyRotation number deviceId)) ∧
        (caller ∈ manager.rotateAfterValidation.rotationRequests ∨
          caller ∈ manager.rotateAfterValidation.validationRequests) := by
  unfold rotateAfterValidation
  split
  · rename_i hwaiting
    have hloggedIn : manager.data.isLoggedIn = true := by
      rcases hdevice with hquiet | hloggedIn
      · simp [hquiet.1, hquiet.2.1] at hwaiting
      · exact hloggedIn
    obtain ⟨config, hconfig⟩ := PrivateDeviceState.isLoggedIn_iff.mp hloggedIn
    have hsome : manager.data.device = some config := by rw [hconfig]; rfl
    rw [hsome]
    exact ⟨⟨hexpiry, hdata, hloggedIn⟩, fun caller hcaller => ⟨⟨_, _, rfl⟩, hcaller⟩⟩
  · rename_i hnobody
    simp only [ne_eq, not_or, not_not] at hnobody
    refine ⟨?_, fun caller hcaller => ?_⟩
    · exact sound_of_idle hslot ⟨hnobody.1, hnobody.2, hexpiry⟩ hdata
    · simp [hnobody.1, hnobody.2] at hcaller

variable (publicKey manager)

/-- The completion of a validation keeps the invariant, and answers who waits or starts a rotation
for them. -/
theorem consumeValidation_spec (hslot : manager.currentApiCall = none)
    (hexpiry : manager.expiryRequests = []) (hdataRequests : manager.dataRequests = [])
    (hloggedIn : manager.data.isLoggedIn = true) (response : Except Error Device) (env : Environment) :
    ∃ manager' outputs, manager.consumeValidation publicKey response env = some (manager', outputs) ∧
      manager'.Sound ∧ ∀ caller, caller ∈ manager.rotationRequests ∨ caller ∈ manager.validationRequests →
        Replied caller outputs ∨
          (∃ number deviceId, manager'.currentApiCall = some (.oneshotKeyRotation number deviceId)) ∧
            (caller ∈ manager'.rotationRequests ∨ caller ∈ manager'.validationRequests) := by
  obtain ⟨config, hdata⟩ := PrivateDeviceState.isLoggedIn_iff.mp hloggedIn
  have hdevice : manager.data.device = some config := by rw [hdata]; rfl
  obtain ⟨manager', outputs, happly, hslot', hdataRequests', hcases, -⟩ :=
    applyValidation_spec publicKey hdata response env
  rw [hslot] at hslot'
  rw [hdataRequests] at hdataRequests'
  refine ⟨manager'.rotateAfterValidation, outputs, by simp [consumeValidation, hdevice, happly], ?_⟩
  rcases hcases with ⟨hquiet, hreplied⟩ | ⟨hstill, hrotation, hexpiry', hvalidation⟩
  · exact ⟨(rotateAfterValidation_spec hslot' hquiet.2.2 hdataRequests' (.inl hquiet)).1,
      fun caller hcaller => .inl (hreplied caller hcaller)⟩
  · obtain ⟨hsound, hwaits⟩ := rotateAfterValidation_spec hslot' (hexpiry'.trans hexpiry)
      hdataRequests' (.inr hstill)
    refine ⟨hsound, fun caller hcaller => ?_⟩
    rcases hcaller with hcaller | hcaller
    · exact .inr (hwaits caller (.inl (hrotation ▸ hcaller)))
    · rcases hvalidation with hsame | ⟨-, hreplied⟩
      · exact .inr (hwaits caller (.inr (hsame ▸ hcaller)))
      · exact .inl (hreplied caller hcaller)

theorem consumeLogin_spec (response : Except Error PrivateAccountAndDevice)
    (tx : Caller) (env : Environment) :
    (∃ data lastValidation, (manager.consumeLogin response tx env).1 =
        { manager with data, lastValidation, dataRequests := [] } ∧
      (data = manager.data ∨ ∃ config, response = .ok config ∧ data = .loggedIn config)) ∧
      ∀ caller ∈ manager.dataRequests, Replied caller (manager.consumeLogin response tx env).2 := by
  cases response with
  | error err =>
    exact ⟨⟨_, _, rfl, .inl rfl⟩, fun caller hcaller => (replied_drainRequests hcaller _).append_right _⟩
  | ok config =>
    obtain ⟨data, last, heq, hdata⟩ := set_eq manager (.login config) env
    simp only [consumeLogin]
    generalize manager.set (.login config) env = stored at heq
    obtain ⟨manager', outputs, result⟩ := stored
    subst heq
    exact ⟨⟨data, last, rfl, hdata.imp_right fun h => ⟨config, rfl, h⟩⟩,
      fun caller hcaller => (replied_drainRequests hcaller _).append_right _⟩

theorem consumeExpiryResult_spec (response : Except Error DateTime) :
    ((manager.consumeExpiryResult response).1 = { manager with expiryRequests := [] } ∨
      ∃ err, (manager.consumeExpiryResult response).1 = (manager.revokeDevice err).1) ∧
      ∀ caller ∈ manager.expiryRequests, Replied caller (manager.consumeExpiryResult response).2 := by
  cases response with
  | ok expiry =>
    refine ⟨.inl rfl, fun caller hcaller => ?_⟩
    obtain ⟨result, hmem⟩ := replied_drainRequests hcaller (.ok (.expiry expiry))
    exact ⟨result, List.mem_cons_of_mem _ hmem⟩
  | error err =>
    cases err
    case invalidAccount | invalidDevice =>
      exact ⟨.inr ⟨_, rfl⟩, fun caller hcaller => replied_revokeDevice _ (.inr (.inr hcaller))⟩
    all_goals exact ⟨.inl rfl, fun caller hcaller => replied_drainRequests hcaller _⟩

variable {publicKey manager}

theorem completed_rotation (hexpiry : manager.expiryRequests = [])
    (hdata : manager.dataRequests = []) (hloggedIn : manager.data.isLoggedIn = true)
    (response : Except Error WireguardData) (env : Environment) :
    ∃ manager' outputs, manager.clearCall.consumeRotationResult response env = some (manager', outputs) ∧
      manager'.Sound ∧ ∀ caller ∈ manager.waiting, Replied caller outputs := by
  obtain ⟨config, hconfig⟩ := PrivateDeviceState.isLoggedIn_iff.mp hloggedIn
  obtain ⟨manager', outputs, heq, hslot, hdata', hrotation, hvalidation, hexpiry', hreplied, -⟩ :=
    consumeRotationResult_spec manager.clearCall hconfig response env
  have hnone : manager'.expiryRequests = [] := by
    rcases hexpiry' with hexpiry' | hexpiry'
    · exact hexpiry'.trans hexpiry
    · exact hexpiry'
  refine ⟨manager', outputs, heq,
    sound_of_idle hslot ⟨hrotation, hvalidation, hnone⟩ (hdata'.trans hdata), fun caller hcaller => ?_⟩
  simp only [waiting, hexpiry, hdata, List.append_nil, List.mem_append] at hcaller
  exact hreplied caller hcaller

variable (publicKey)

/-- The completion of a call that one caller alone waits for changes nothing, or revokes the
device. -/
theorem consumeApiResult_of_single (hsingle : call.hasSingleCaller = true)
    (hreturns : call.Returns result) (manager : AccountManager) (env : Environment) :
    ∃ manager' outputs, manager.consumeApiResult publicKey env call result = some (manager', outputs) ∧
      (manager' = manager ∨ ∃ err, manager' = (manager.revokeDevice err).1) := by
  -- Each of the three results is passed on, or its error given to `revokeOn`.
  have hrevoke (err : Error) : (manager.revokeOn err).1 = manager ∨
      ∃ err', (manager.revokeOn err).1 = (manager.revokeDevice err').1 := by
    cases err
    case invalidAccount | invalidDevice => exact .inr ⟨_, rfl⟩
    all_goals exact .inl rfl
  cases call with
  | voucherSubmission =>
    cases result with
    | voucherSubmission response =>
      cases response with
      | ok submission => exact ⟨_, _, rfl, .inl rfl⟩
      | error err => exact ⟨_, _, rfl, hrevoke err⟩
    | _ => exact hreturns.elim
  | initPlayPurchase =>
    cases result with
    | initPlayPurchase response =>
      cases response with
      | ok token => exact ⟨_, _, rfl, .inl rfl⟩
      | error err => exact ⟨_, _, rfl, hrevoke err⟩
    | _ => exact hreturns.elim
  | verifyPlayPurchase =>
    cases result with
    | verifyPlayPurchase response =>
      cases response with
      | ok _ => exact ⟨_, _, rfl, .inl rfl⟩
      | error err => exact ⟨_, _, rfl, hrevoke err⟩
    | _ => exact hreturns.elim
  | login | timerKeyRotation | oneshotKeyRotation | validation | expiryCheck => cases hsingle

theorem Sound.of_single (h : manager.Sound) (hcall : manager.currentApiCall = some call)
    (hsingle : call.hasSingleCaller = true) : manager.Quiet ∧ manager.dataRequests = [] := by
  unfold Sound at h
  rw [hcall] at h
  cases call with
  | voucherSubmission | initPlayPurchase | verifyPlayPurchase => exact h
  | login | timerKeyRotation | oneshotKeyRotation | validation | expiryCheck => cases hsingle

/-- A completion keeps the invariant, and answers who waits or starts a rotation for them. -/
theorem Sound.completed (h : manager.Sound)
    (hcall : manager.currentApiCall = some call) (hreturns : call.Returns result) (env : Environment) :
    ∃ manager' outputs, manager.handle publicKey (.completed result env) = some (manager', outputs) ∧
      manager'.Sound ∧ ∀ caller ∈ manager.waiting, Replied caller outputs ∨
        (∃ number deviceId, manager'.currentApiCall = some (.oneshotKeyRotation number deviceId)) ∧
          (caller ∈ manager'.rotationRequests ∨ caller ∈ manager'.validationRequests) := by
  rw [handle_completed hcall]
  have honlyData : manager.Quiet → ∀ caller ∈ manager.waiting, caller ∈ manager.dataRequests := by
    rintro ⟨hrotation, hvalidation, hexpiry⟩ caller hcaller
    simpa [waiting, hrotation, hvalidation, hexpiry] using hcaller
  by_cases hsingle : call.hasSingleCaller = true
  · obtain ⟨hquiet, hdata⟩ := h.of_single hcall hsingle
    obtain ⟨manager', outputs, heq, hcases⟩ :=
      consumeApiResult_of_single publicKey hsingle hreturns manager.clearCall env
    refine ⟨manager', outputs, heq, ?_, fun caller hcaller => ?_⟩
    · rcases hcases with rfl | ⟨err, rfl⟩
      · exact sound_of_idle rfl hquiet hdata
      · exact sound_revokeDevice manager.clearCall rfl hdata err
    · simpa [hdata] using honlyData hquiet caller hcaller
  unfold Sound at h
  rw [hcall] at h
  cases call <;> cases result <;> try first | exact hreturns.elim | exact absurd rfl hsingle
  case login.login number tx response =>
    obtain ⟨⟨data, last, heq, -⟩, hreplied⟩ := consumeLogin_spec manager.clearCall response tx env
    have hsound : (manager.clearCall.consumeLogin response tx env).1.Sound := by
      rw [heq]
      exact sound_of_idle rfl h rfl
    exact ⟨_, _, rfl, hsound, fun caller hcaller => .inl (hreplied caller (honlyData h caller hcaller))⟩
  case timerKeyRotation.rotation number deviceId response =>
    obtain ⟨manager', outputs, heq, hsound, hreplied⟩ :=
      completed_rotation h.1.2.2 h.2.1 h.2.2 response env
    exact ⟨manager', outputs, heq, hsound, fun caller hcaller => .inl (hreplied caller hcaller)⟩
  case oneshotKeyRotation.rotation number deviceId response =>
    obtain ⟨manager', outputs, heq, hsound, hreplied⟩ :=
      completed_rotation h.1 h.2.1 h.2.2 response env
    exact ⟨manager', outputs, heq, hsound, fun caller hcaller => .inl (hreplied caller hcaller)⟩
  case validation.validation number deviceId response =>
    obtain ⟨manager', outputs, heq, hsound, hwaits⟩ := consumeValidation_spec
      publicKey manager.clearCall rfl h.1 h.2.1 h.2.2 response env
    refine ⟨manager', outputs, heq, hsound, fun caller hcaller => hwaits caller ?_⟩
    simpa [waiting, clearCall, h.1, h.2.1] using hcaller
  case expiryCheck.expiryCheck number response =>
    obtain ⟨hcases, hreplied⟩ := consumeExpiryResult_spec manager.clearCall response
    have hsound : (manager.clearCall.consumeExpiryResult response).1.Sound := by
      rcases hcases with heq | ⟨err, heq⟩
      · rw [heq]
        exact sound_of_idle rfl ⟨h.1, h.2.1, rfl⟩ h.2.2
      · rw [heq]
        exact sound_revokeDevice manager.clearCall rfl h.2.2 err
    refine ⟨_, _, rfl, hsound, fun caller hcaller => .inl (hreplied caller ?_)⟩
    simpa [waiting, clearCall, h.1, h.2.1, h.2.2] using hcaller

end AccountManager

end MullvadVpn.Account
