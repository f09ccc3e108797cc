import MullvadVpn.Net.Address
import MullvadVpn.Systems.TransitionSystem

/-!
The account manager (`device/mod.rs`, `device/api.rs`): the actor that owns the account number and the
device the app is logged in with. It has a single slot for the call to the API that is in progress, and
queues of callers that wait for a rotated key, for a validated device, for the expiry of the account or
for the end of a login. One iteration of its loop handles either a command or the completion of the
call in the slot.

What the world contributes to an iteration is an input of it: the result of the API call, the time, and
whether the device state could be written to the cache. How long a timed rotation waits before its
request is not modelled: it may complete at any time.
-/

namespace MullvadVpn.Account

open Net Systems

inductive Error where
  | maxDevicesReached
  | noDevice
  | invalidDevice
  | invalidAccount
  | invalidVoucher
  | usedVoucher
  | deviceIoError
  | parseDeviceCache
  | otherRestError
  | cancelled
  | accountChange
  | accountManagerDown
  deriving DecidableEq

abbrev AccountNumber := String
abbrev DeviceId := String
abbrev DeviceName := String
abbrev PrivateKey := BitVec 256
abbrev PublicKey := BitVec 256
/-- Seconds since the epoch. -/
abbrev DateTime := Int

structure AssociatedAddresses where
  ipv4Address : Network 32
  ipv6Address : Network 128
  deriving DecidableEq

structure WireguardData where
  privateKey : PrivateKey
  addresses : AssociatedAddresses
  created : DateTime
  deriving DecidableEq

/-- A device, as the API describes it. -/
structure Device where
  id : DeviceId
  name : DeviceName
  pubkey : PublicKey
  hijackDns : Bool
  created : DateTime

structure PrivateDevice where
  id : DeviceId
  name : DeviceName
  wgData : WireguardData
  hijackDns : Bool
  created : DateTime
  deriving DecidableEq

structure PrivateAccountAndDevice where
  accountNumber : AccountNumber
  device : PrivateDevice
  deriving DecidableEq

/-- `PrivateDevice::update`: take over what the API says about the device. The key has to be the one
the API knows. -/
def PrivateDevice.update (publicKey : PrivateKey → PublicKey) (old : PrivateDevice) (device : Device) :
    Except Error PrivateDevice :=
  if device.pubkey ≠ publicKey old.wgData.privateKey then .error .invalidDevice
  else .ok { old with
    id := device.id, name := device.name, hijackDns := device.hijackDns, created := device.created }

inductive PrivateDeviceState where
  | loggedIn (config : PrivateAccountAndDevice)
  | loggedOut
  | revoked
  deriving DecidableEq

namespace PrivateDeviceState

def isLoggedIn : PrivateDeviceState → Bool
  | loggedIn _ => true
  | loggedOut | revoked => false

def device : PrivateDeviceState → Option PrivateAccountAndDevice
  | loggedIn config => some config
  | loggedOut | revoked => none

theorem isLoggedIn_iff {state : PrivateDeviceState} :
    state.isLoggedIn = true ↔ ∃ config, state = loggedIn config := by
  cases state <;> simp [isLoggedIn]

end PrivateDeviceState

inductive PrivateDeviceEvent where
  | login (config : PrivateAccountAndDevice)
  | logout
  | revoked
  | updated (config : PrivateAccountAndDevice)
  | rotatedKey (config : PrivateAccountAndDevice)

def PrivateDeviceEvent.state : PrivateDeviceEvent → PrivateDeviceState
  | login config | updated config | rotatedKey config => .loggedIn config
  | logout => .loggedOut
  | revoked => .revoked

structure VoucherSubmission where
  timeAdded : Nat
  newExpiry : DateTime

structure PlayPurchase where
  productId : String
  purchaseToken : String

inductive AccountEvent where
  | device (event : PrivateDeviceEvent)
  | expiry (expiry : DateTime)

/-- The sending half of the channel on which the sender of a command waits for its answer. -/
abbrev Caller := Nat

inductive Command where
  | login (number : AccountNumber) (tx : Caller)
  | logout (tx : Caller)
  | setData (data : PrivateAccountAndDevice) (tx : Caller)
  | getData (tx : Caller)
  | getDataAfterLogin (tx : Caller)
  | rotateKey (tx : Caller)
  | setRotationInterval (tx : Caller)
  | validateDevice (tx : Caller)
  | submitVoucher (voucher : String) (tx : Caller)
  | initPlayPurchase (tx : Caller)
  | verifyPlayPurchase (tx : Caller) (playPurchase : PlayPurchase)
  | checkExpiry (tx : Caller)

/-- The API call in progress, with what it was started with and who waits for it alone. -/
inductive Call where
  | login (number : AccountNumber) (tx : Caller)
  | timerKeyRotation (number : AccountNumber) (deviceId : DeviceId)
  | oneshotKeyRotation (number : AccountNumber) (deviceId : DeviceId)
  | validation (number : AccountNumber) (deviceId : DeviceId)
  | voucherSubmission (number : AccountNumber) (voucher : String) (tx : Caller)
  | initPlayPurchase (number : AccountNumber) (tx : Caller)
  | verifyPlayPurchase (number : AccountNumber) (playPurchase : PlayPurchase) (tx : Caller)
  | expiryCheck (number : AccountNumber)

inductive ApiResult where
  | login (response : Except Error PrivateAccountAndDevice)
  | rotation (response : Except Error WireguardData)
  | validation (response : Except Error Device)
  | voucherSubmission (response : Except Error VoucherSubmission)
  | initPlayPurchase (response : Except Error String)
  | verifyPlayPurchase (response : Except Error Unit)
  | expiryCheck (response : Except Error DateTime)

inductive Answer where
  | unit
  | data (state : PrivateDeviceState)
  | voucherSubmission (submission : VoucherSubmission)
  | paymentToken (token : String)
  | expiry (expiry : DateTime)

inductive Output where
  | reply (caller : Caller) (result : Except Error Answer)
  | event (event : AccountEvent)
  /-- The device is removed from the account in the background. The caller of a logout, if there is
  one, is told `Ok` when that is done or has taken too long. -/
  | logoutApiCall (data : PrivateAccountAndDevice) (tx : Option Caller)

/-- What one iteration of the loop finds outside the manager: the time, and the result of writing to
the device cache. -/
structure Environment where
  now : Nat
  cacherWrite : Except Error Unit

structure AccountManager where
  data : PrivateDeviceState
  lastValidation : Option Nat
  validationRequests : List Caller
  expiryRequests : List Caller
  rotationRequests : List Caller
  dataRequests : List Caller
  /-- The slot that `run` keeps next to the manager. -/
  currentApiCall : Option Call

namespace AccountManager

/-- The manager that `spawn` starts, with the device state of the cache. -/
def new (data : PrivateDeviceState) : AccountManager :=
  { data, lastValidation := none, validationRequests := [], expiryRequests := [],
    rotationRequests := [], dataRequests := [], currentApiCall := none }

variable (manager : AccountManager) (tx : Caller) (env : Environment)

def isValidating : Bool :=
  match manager.currentApiCall with
  | some (.validation _ _) | some (.oneshotKeyRotation _ _) => true
  | _ => false

def isCheckingExpiry : Bool :=
  match manager.currentApiCall with
  | some (.expiryCheck _) => true
  | _ => false

def isRunningTimedRotation : Bool :=
  match manager.currentApiCall with
  | some (.timerKeyRotation _ _) => true
  | _ => false

def isLoggingIn : Bool :=
  match manager.currentApiCall with
  | some (.login _ _) => true
  | _ => false

/-- Put a call in the slot; whatever was in progress is dropped. -/
def setCall (call : Call) : AccountManager :=
  { manager with currentApiCall := some call }

def clearCall : AccountManager :=
  { manager with currentApiCall := none }

def drainRequests (requests : List Caller) (result : Except Error Answer) : List Output :=
  requests.map fun caller => .reply caller result

/-- `set`: store a new device state. Nothing happens if it is the current one, or if it cannot be
written to the cache. -/
def set (event : PrivateDeviceEvent) (env : Environment) :
    AccountManager × List Output × Except Error Unit :=
  if event.state = manager.data then (manager, [], .ok ())
  else match env.cacherWrite with
    | .error err => (manager, [], .error err)
    | .ok () =>
      let removed := match manager.data with
        | .loggedIn oldConfig =>
          if event.state.device.map (fun config => config.device.id) ≠ some oldConfig.device.id then
            [.logoutApiCall oldConfig none]
          else []
        | .loggedOut | .revoked => []
      ({ manager with lastValidation := none, data := event.state },
        removed ++ [.event (.device event)], .ok ())

def revokeDevice (err : Error) : AccountManager × List Output :=
  -- A cache that cannot be written is only logged.
  ({ manager with
      data := .revoked, validationRequests := [], rotationRequests := [], expiryRequests := [] },
    drainRequests manager.validationRequests (.error err) ++
    drainRequests manager.rotationRequests (.error err) ++
    drainRequests manager.expiryRequests (.error err) ++ [.event (.device .revoked)])

def drainDeviceRequestsWithErr (err : Error) : AccountManager × List Output :=
  ({ manager with rotationRequests := [], validationRequests := [] },
    drainRequests manager.rotationRequests (.error err) ++
    drainRequests manager.validationRequests (.error err))

def logout : AccountManager × List Output :=
  let drained := drainRequests manager.dataRequests (.error .accountChange)
  let manager := { manager with dataRequests := [] }
  match manager.data, env.cacherWrite with
  | .loggedOut, _ => (manager, drained ++ [.reply tx (.ok .unit)])
  | .loggedIn _, .error err | .revoked, .error err => (manager, drained ++ [.reply tx (.error err)])
  | .loggedIn oldConfig, .ok () =>
    ({ manager with data := .loggedOut },
      drained ++ [.event (.device .logout), .logoutApiCall oldConfig (some tx)])
  | .revoked, .ok () =>
    ({ manager with data := .loggedOut }, drained ++ [.event (.device .logout), .reply tx (.ok .unit)])

/-- How long a device counts as valid after it was validated, in the unit of the clock. -/
def validityCacheTimeout : Nat := 10000

/-- The time since the last validation, or the timeout if there was none or the clock went back. -/
def elapsed : Nat :=
  match manager.lastValidation with
  | some lastCheck => if lastCheck ≤ env.now then env.now - lastCheck else validityCacheTimeout
  | none => validityCacheTimeout

/-- `needs_validation`: whether to ask the API. The time is noted if so. -/
def needsValidation : Bool × AccountManager :=
  if manager.data.isLoggedIn = false then (true, manager)
  else if validityCacheTimeout ≤ manager.elapsed env then
    (true, { manager with lastValidation := some env.now })
  else (false, manager)

def handleRotateKey : AccountManager × List Output :=
  if manager.isLoggingIn then (manager, [.reply tx (.error .accountChange)])
  else if manager.isValidating then
    ({ manager with rotationRequests := manager.rotationRequests ++ [tx] }, [])
  else match manager.data.device with
    | none => (manager, [.reply tx (.error .noDevice)])
    | some config =>
      ({ manager.setCall (.oneshotKeyRotation config.accountNumber config.device.id) with
          rotationRequests := manager.rotationRequests ++ [tx] }, [])

def handleValidationRequest : AccountManager × List Output :=
  if manager.isLoggingIn then (manager, [.reply tx (.error .accountChange)])
  else if manager.isValidating then
    ({ manager with validationRequests := manager.validationRequests ++ [tx] }, [])
  else match manager.needsValidation env with
    | (false, manager) => (manager, [.reply tx (.ok .unit)])
    | (true, manager) =>
      match manager.data.device with
      | none => (manager, [.reply tx (.error .noDevice)])
      | some config =>
        ({ manager.setCall (.validation config.accountNumber config.device.id) with
            validationRequests := manager.validationRequests ++ [tx] }, [])

/-- Start a call for one caller, on behalf of the account that is logged in: what voucher submissions
and the two purchase commands do. -/
def handleAccountCall (call : AccountNumber → Call) : AccountManager × List Output :=
  if manager.isLoggingIn then (manager, [.reply tx (.error .accountChange)])
  else match manager.data.device with
    | none => (manager, [.reply tx (.error .noDevice)])
    | some config => (manager.setCall (call config.accountNumber), [])

def handleVoucherSubmission (voucher : String) : AccountManager × List Output :=
  manager.handleAccountCall tx fun number => .voucherSubmission number voucher tx

def handleInitPlayPurchase : AccountManager × List Output :=
  manager.handleAccountCall tx fun number => .initPlayPurchase number tx

def handleVerifyPlayPurchase (playPurchase : PlayPurchase) : AccountManager × List Output :=
  manager.handleAccountCall tx fun number => .verifyPlayPurchase number playPurchase tx

def handleExpiryRequest : AccountManager × List Output :=
  if manager.isLoggingIn then (manager, [.reply tx (.error .accountChange)])
  else if manager.isCheckingExpiry then
    ({ manager with expiryRequests := manager.expiryRequests ++ [tx] }, [])
  else match manager.data.device with
    | none => (manager, [.reply tx (.error .noDevice)])
    | some config =>
      ({ manager.setCall (.expiryCheck config.accountNumber) with
          expiryRequests := manager.expiryRequests ++ [tx] }, [])

/-- Handle one command. `Shutdown`, and a closed command channel, end the loop instead. -/
def handleCommand :
    Command → AccountManager × List Output
  | .login number tx => (manager.setCall (.login number tx), [])
  | .logout tx => manager.clearCall.logout tx env
  | .setData data tx =>
    let (manager, outputs, result) := manager.set (.login data) env
    (manager, outputs ++ [.reply tx (result.map fun _ => .unit)])
  | .getData tx => (manager, [.reply tx (.ok (.data manager.data))])
  | .getDataAfterLogin tx =>
    if manager.isLoggingIn then ({ manager with dataRequests := manager.dataRequests ++ [tx] }, [])
    else (manager, [.reply tx (.ok (.data manager.data))])
  | .rotateKey tx => manager.handleRotateKey tx
  | .setRotationInterval tx =>
    (if manager.isRunningTimedRotation then manager.clearCall else manager, [.reply tx (.ok .unit)])
  | .validateDevice tx => manager.handleValidationRequest tx env
  | .submitVoucher voucher tx => manager.handleVoucherSubmission tx voucher
  | .initPlayPurchase tx => manager.handleInitPlayPurchase tx
  | .verifyPlayPurchase tx playPurchase => manager.handleVerifyPlayPurchase tx playPurchase
  | .checkExpiry tx => manager.handleExpiryRequest tx

def consumeLogin (deviceResponse : Except Error PrivateAccountAndDevice)
    (tx : Caller) (env : Environment) : AccountManager × List Output :=
  let (manager, outputs, result) := match deviceResponse with
    | .ok config => manager.set (.login config) env
    | .error err => (manager, [], .error err)
  ({ manager with dataRequests := [] }, outputs ++ [.reply tx (result.map fun _ => .unit)] ++
      drainRequests manager.dataRequests (.ok (.data manager.data)))

/-- The errors that mean that the account or the device no longer exists, on which the device is
revoked. -/
def revokeOn : Error → AccountManager × List Output
  | .invalidAccount => manager.revokeDevice .invalidAccount
  | .invalidDevice => manager.revokeDevice .invalidDevice
  | _ => (manager, [])

def consumeVoucherResult (response : Except Error VoucherSubmission)
    (tx : Caller) : AccountManager × List Output :=
  match response with
  | .ok submission =>
    (manager, [.event (.expiry submission.newExpiry), .reply tx (.ok (.voucherSubmission submission))])
  | .error err =>
    let (manager, outputs) := manager.revokeOn err
    (manager, outputs ++ [.reply tx (.error err)])

def consumeInitPlayPurchaseResult (response : Except Error String)
    (tx : Caller) : AccountManager × List Output :=
  match response with
  | .ok token => (manager, [.reply tx (.ok (.paymentToken token))])
  | .error err =>
    let (manager, outputs) := manager.revokeOn err
    (manager, outputs ++ [.reply tx (.error err)])

def consumeVerifyPlayPurchaseResult (response : Except Error Unit)
    (tx : Caller) : AccountManager × List Output :=
  match response with
  | .ok () => (manager, [.reply tx (.ok .unit)])
  | .error err =>
    let (manager, outputs) := manager.revokeOn err
    (manager, outputs ++ [.reply tx (.error err)])

def consumeExpiryResult (response : Except Error DateTime) : AccountManager × List Output :=
  match response with
  | .ok expiry =>
    ({ manager with expiryRequests := [] },
      .event (.expiry expiry) :: drainRequests manager.expiryRequests (.ok (.expiry expiry)))
  | .error .invalidAccount => manager.revokeDevice .invalidAccount
  | .error .invalidDevice => manager.revokeDevice .invalidDevice
  | .error err =>
    ({ manager with expiryRequests := [] }, drainRequests manager.expiryRequests (.error err))

/-- The result of a key rotation goes to the device that is current when it arrives. There is no
result if no device is: the `expect` fails. -/
def consumeRotationResult (apiResult : Except Error WireguardData)
    (env : Environment) : Option (AccountManager × List Output) :=
  manager.data.device.map fun config =>
    match apiResult with
    | .ok wgData =>
      match manager.set (.rotatedKey { config with device := { config.device with wgData } }) env with
      | (manager, outputs, .ok ()) =>
        ({ manager with rotationRequests := [], validationRequests := [] },
          outputs ++ drainRequests manager.rotationRequests (.ok .unit) ++
            drainRequests manager.validationRequests (.ok .unit))
      | (manager, outputs, .error err) =>
        let (manager, drained) := manager.drainDeviceRequestsWithErr err
        (manager, outputs ++ drained)
    | .error .invalidAccount => manager.revokeDevice .invalidAccount
    | .error .invalidDevice => manager.revokeDevice .invalidDevice
    | .error err => manager.drainDeviceRequestsWithErr err

section Validation

variable (publicKey : PrivateKey → PublicKey)

/-- Rotate the key if somebody still waits after a validation: for a rotation, or because the key of
the device is not the one the API knows. -/
def rotateAfterValidation (manager : AccountManager) : AccountManager :=
  if manager.rotationRequests ≠ [] ∨ manager.validationRequests ≠ [] then
    match manager.data.device with
    | some config => manager.setCall (.oneshotKeyRotation config.accountNumber config.device.id)
    | none => manager
  else manager

/-- What the response to a validation does before callers that are left over are looked at. -/
def applyValidation (manager : AccountManager) (currentConfig : PrivateAccountAndDevice)
    (response : Except Error Device) (env : Environment) : Option (AccountManager × List Output) :=
  match response with
  | .ok newDevice =>
    if newDevice.pubkey = publicKey currentConfig.device.wgData.privateKey then
      match currentConfig.device.update publicKey newDevice with
      | .error _ => none
      | .ok device =>
        match manager.set (.updated { currentConfig with device }) env with
        | (manager, outputs, .ok ()) =>
          some ({ manager with validationRequests := [] },
            outputs ++ drainRequests manager.validationRequests (.ok .unit))
        | (manager, outputs, .error err) =>
          some ({ manager with validationRequests := [] },
            outputs ++ drainRequests manager.validationRequests (.error err))
    else some (manager, [])
  | .error .invalidAccount => some (manager.revokeDevice .invalidAccount)
  | .error .invalidDevice => some (manager.revokeDevice .invalidDevice)
  | .error err =>
    some ({ manager with validationRequests := [] }, drainRequests manager.validationRequests (.error err))

/-- There is no result if no device is logged in: the `expect` fails. -/
def consumeValidation (manager : AccountManager) (response : Except Error Device)
    (env : Environment) : Option (AccountManager × List Output) := do
  let currentConfig ← manager.data.device
  let (manager, outputs) ← manager.applyValidation publicKey currentConfig response env
  some (manager.rotateAfterValidation, outputs)

/-- The completion of a call: its result is of the kind the call returns. -/
def consumeApiResult (manager : AccountManager) (env : Environment) :
    Call → ApiResult → Option (AccountManager × List Output)
  | .login _ tx, .login response => some (manager.consumeLogin response tx env)
  | .timerKeyRotation _ _, .rotation response
  | .oneshotKeyRotation _ _, .rotation response => manager.consumeRotationResult response env
  | .validation _ _, .validation response => manager.consumeValidation publicKey response env
  | .voucherSubmission _ _ tx, .voucherSubmission response =>
    some (manager.consumeVoucherResult response tx)
  | .initPlayPurchase _ tx, .initPlayPurchase response =>
    some (manager.consumeInitPlayPurchaseResult response tx)
  | .verifyPlayPurchase _ _ tx, .verifyPlayPurchase response =>
    some (manager.consumeVerifyPlayPurchaseResult response tx)
  | .expiryCheck _, .expiryCheck response => some (manager.consumeExpiryResult response)
  | _, _ => none

/-- An idle manager that has a device waits for the time to rotate its key. -/
def spawnTimedKeyRotation (manager : AccountManager) : AccountManager :=
  match manager.currentApiCall, manager.data.device with
  | none, some config => manager.setCall (.timerKeyRotation config.accountNumber config.device.id)
  | _, _ => manager

end Validation

end AccountManager

/-- What `select!` chooses in one iteration. -/
inductive Input where
  | command (command : Command) (env : Environment)
  | completed (result : ApiResult) (env : Environment)

namespace AccountManager

variable (publicKey : PrivateKey → PublicKey)

/-- A call that completes leaves the slot before its result is consumed. -/
def handle (manager : AccountManager) : Input → Option (AccountManager × List Output)
  | .command command env => some (manager.handleCommand env command)
  | .completed result env =>
    manager.currentApiCall.bind fun call =>
      manager.clearCall.consumeApiResult publicKey env call result

def iterate (manager : AccountManager) (input : Input) : Option (AccountManager × List Output) :=
  manager.spawnTimedKeyRotation.handle publicKey input

def system : TransitionSystem AccountManager Input where
  Init manager := ∃ data, manager = new data
  step manager input := (manager.iterate publicKey input).map Prod.fst

end AccountManager

end MullvadVpn.Account
