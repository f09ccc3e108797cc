import MullvadVpn.Settings.Store
import MullvadVpn.Settings.Types

/-!
The methods of access to the API (`mullvad-types/src/access_method.rs`) and the daemon's handlers that
change them (`mullvad-daemon/src/access_method.rs`): three built-in methods, each in a slot of its own, and a
list of custom ones. The slots and the list are visited in this order. Every handler goes through the
persister, and every operation carries the answers of the file system to it.
-/

namespace MullvadVpn.AccessMethods

open Systems
open Persister (Store Format Io)

deriving instance DecidableEq for Settings.SocksAuth, Settings.CustomProxy

abbrev Id := BitVec 128

inductive BuiltInAccessMethod where
  | direct | bridge | encryptedDnsProxy
  deriving DecidableEq

def BuiltInAccessMethod.canonicalName : BuiltInAccessMethod → String
  | direct => "Direct"
  | bridge => "Mullvad Bridges"
  | encryptedDnsProxy => "Encrypted DNS proxy"

inductive AccessMethod where
  | builtIn (method : BuiltInAccessMethod)
  | custom (proxy : Settings.CustomProxy)
  deriving DecidableEq

structure AccessMethodSetting where
  id : Id
  name : String
  enabled : Bool
  accessMethod : AccessMethod
  deriving DecidableEq

namespace AccessMethodSetting

/-- `id` is what `Id::new` draws. -/
def new (id : Id) (name : String) (enabled : Bool) (accessMethod : AccessMethod) :
    AccessMethodSetting :=
  { id, name, enabled, accessMethod }

def disabled (self : AccessMethodSetting) : Bool := !self.enabled

def enable (self : AccessMethodSetting) : AccessMethodSetting := { self with enabled := true }

end AccessMethodSetting

inductive Error where
  | duplicateName
  | removeBuiltin (attempted : BuiltInAccessMethod)

structure Settings where
  direct : AccessMethodSetting
  mullvadBridges : AccessMethodSetting
  encryptedDnsProxy : AccessMethodSetting
  custom : List AccessMethodSetting
  deriving DecidableEq

namespace Settings

def createBuiltIn (method : BuiltInAccessMethod) (id : Id) : AccessMethodSetting :=
  .new id method.canonicalName true (.builtIn method)

def createDirect : Id → AccessMethodSetting := createBuiltIn .direct

def createMullvadBridges : Id → AccessMethodSetting := createBuiltIn .bridge

def createEncryptedDnsProxy : Id → AccessMethodSetting := createBuiltIn .encryptedDnsProxy

def default (direct mullvadBridges encryptedDnsProxy : Id) : Settings where
  direct := createDirect direct
  mullvadBridges := createMullvadBridges mullvadBridges
  encryptedDnsProxy := createEncryptedDnsProxy encryptedDnsProxy
  custom := []

variable (self : Settings)

def iter : List AccessMethodSetting :=
  self.direct :: self.mullvadBridges :: self.encryptedDnsProxy :: self.custom

/-- Writing through the reference that `iter_mut` gives at an index. -/
def setAt (index : Nat) (accessMethod : AccessMethodSetting) : Settings :=
  match index with
  | 0 => { self with direct := accessMethod }
  | 1 => { self with mullvadBridges := accessMethod }
  | 2 => { self with encryptedDnsProxy := accessMethod }
  | index + 3 => { self with custom := self.custom.set index accessMethod }

def checkCustomAccessMethodNameIsUnique (newApiAccessMethod : AccessMethodSetting) : Except Error Unit :=
  if self.custom.any fun apiAccessMethod =>
      apiAccessMethod.id != newApiAccessMethod.id && apiAccessMethod.name == newApiAccessMethod.name
  then .error .duplicateName
  else .ok ()

/-- If no method is enabled, the direct one is. -/
def ensureConsistentState : Settings :=
  if self.iter.all (·.disabled) then { self with direct := self.direct.enable } else self

def append (apiAccessMethod : AccessMethodSetting) : Except Error Settings := do
  self.checkCustomAccessMethodNameIsUnique apiAccessMethod
  return { self with custom := self.custom ++ [apiAccessMethod] }

def remove (apiAccessMethod : Id) : Except Error Settings :=
  match self.custom.find? (·.id == apiAccessMethod) with
  | some setting =>
    match setting.accessMethod with
    | .builtIn builtIn => .error (.removeBuiltin builtIn)
    | .custom _ =>
      .ok (ensureConsistentState { self with custom := self.custom.filter (·.id != apiAccessMethod) })
  | none => .ok self

/-- The result says whether any method was updated. -/
def update (predicate : AccessMethodSetting → Bool)
    (f : AccessMethodSetting → AccessMethodSetting) : Except Error (Bool × Settings) :=
  match self.iter.findFinIdx? predicate with
  | some index => do
    let newAccessMethod := f (self.iter.get index)
    self.checkCustomAccessMethodNameIsUnique newAccessMethod
    return (true, (self.setAt index newAccessMethod).ensureConsistentState)
  | none => return (false, self.ensureConsistentState)

def clearCustom : Settings :=
  ensureConsistentState { self with custom := [] }

end Settings

inductive AccessModeError where
  | noAccessMethods
  | resolve (accessMethod : AccessMethod)
  | sendFailed
  | oneshotSendFailed
  | notRunning

/-- The actor that selects the method to use next. It has a copy of the methods. -/
structure AccessModeSelector where
  accessMethodSettings : Settings
  current : AccessMethodSetting
  index : Nat

/-- The selector replies `Ok` also if it does not know the method. It stops only when a requester does
not wait for the reply, and all of them do. -/
def AccessModeSelector.onUseAccessMethod (self : AccessModeSelector) (id : Id) :
    Except AccessModeError Unit × AccessModeSelector :=
  match self.accessMethodSettings.iter.findFinIdx? (·.id == id) with
  | some index =>
    (.ok (), { self with index, current := self.accessMethodSettings.iter.get index })
  | none => (.ok (), self)

inductive HandlerError where
  | apiService (error : AccessModeError)
  | accessMethod (error : Error)
  | settings (error : Persister.Error HandlerError)

section

variable {Rest Bytes : Type} [DecidableEq Rest] (format : Format Rest Bytes) (path : String)
  (apiAccessMethods : Lens (Persister.Settings Rest) Settings) (io : Io)
  (store : Store Rest Bytes)

/-- The error is wrapped in `Error::SettingsError`. -/
def addAccessMethod (id : Id) (name : String) (enabled : Bool) (accessMethod : AccessMethod) :
    Except (Persister.Error Error) Id × Store Rest Bytes :=
  let accessMethodSetting := AccessMethodSetting.new id name enabled accessMethod
  match store.tryUpdate format path apiAccessMethods (·.append accessMethodSetting) io with
  | (.ok _, store) => (.ok id, store)
  | (.error error, store) => (.error error, store)

def removeAccessMethod (accessMethod : Id) : Except HandlerError Unit × Store Rest Bytes :=
  match store.tryUpdate format path apiAccessMethods
    (fun settings => (settings.remove accessMethod).mapError .accessMethod) io with
  | (.ok _, store) => (.ok (), store)
  | (.error error, store) => (.error (.settings error), store)

def useApiAccessMethod (selector : AccessModeSelector) (accessMethod : Id) :
    Except HandlerError Unit × Store Rest Bytes :=
  match store.tryUpdate format path apiAccessMethods (fun settings =>
      ((settings.update (·.id == accessMethod) (·.enable)).map (·.2)).mapError .accessMethod) io with
  | (.ok _, store) =>
    match selector.onUseAccessMethod accessMethod with
    | (.ok (), _) => (.ok (), store)
    | (.error error, _) => (.error (.apiService error), store)
  | (.error error, store) => (.error (.settings error), store)

/-- The error is wrapped in `Error::SettingsError`. -/
def updateAccessMethod (accessMethodUpdate : AccessMethodSetting) :
    Except (Persister.Error Error) Unit × Store Rest Bytes :=
  match store.tryUpdate format path apiAccessMethods (fun settings =>
      (settings.update (·.id == accessMethodUpdate.id) fun _ => accessMethodUpdate).map (·.2)) io with
  | (.ok _, store) => (.ok (), store)
  | (.error error, store) => (.error error, store)

def clearCustomApiAccessMethods : Except HandlerError Unit × Store Rest Bytes :=
  match store.update format path apiAccessMethods (·.clearCustom) io with
  | (.ok _, store) => (.ok (), store)
  | (.error error, store) => (.error (.settings error), store)

end

/-- The operations: `add` with the identifier that is drawn, `use` with the selector as it is then. -/
inductive Operation where
  | add (id : Id) (name : String) (enabled : Bool) (accessMethod : AccessMethod)
  | remove (accessMethod : Id)
  | use (selector : AccessModeSelector) (accessMethod : Id)
  | update (accessMethodUpdate : AccessMethodSetting)
  | clear

inductive Response where
  | added (result : Except (Persister.Error Error) Id)
  | updated (result : Except (Persister.Error Error) Unit)
  | handled (result : Except HandlerError Unit)

/-- The operation returned `Err`. -/
def Response.isErr : Response → Bool
  | .added (.error _) | .updated (.error _) | .handled (.error _) => true
  | _ => false

section

variable {Rest Bytes : Type} [DecidableEq Rest] (format : Format Rest Bytes) (path : String)
  (apiAccessMethods : Lens (Persister.Settings Rest) Settings)

/-- One operation, under the given answers of the file system. A new identifier is not in use. -/
def perform (store : Store Rest Bytes) (input : Operation × Io) :
    Option (Response × Store Rest Bytes) :=
  match input.1 with
  | .add id name enabled accessMethod =>
    if id ∈ (apiAccessMethods.get store.settings).iter.map (·.id) then none
    else
      let (result, store) :=
        addAccessMethod format path apiAccessMethods input.2 store id name enabled accessMethod
      some (.added result, store)
  | .remove accessMethod =>
    let (result, store) := removeAccessMethod format path apiAccessMethods input.2 store accessMethod
    some (.handled result, store)
  | .use selector accessMethod =>
    let (result, store) :=
      useApiAccessMethod format path apiAccessMethods input.2 store selector accessMethod
    some (.handled result, store)
  | .update accessMethodUpdate =>
    let (result, store) :=
      updateAccessMethod format path apiAccessMethods input.2 store accessMethodUpdate
    some (.updated result, store)
  | .clear =>
    let (result, store) := clearCustomApiAccessMethods format path apiAccessMethods input.2 store
    some (.handled result, store)

/-- Runs start from the defaults, whose three identifiers were drawn as well. -/
def system : TransitionSystem (Store Rest Bytes) (Operation × Io) where
  Init store := ∃ direct mullvadBridges encryptedDnsProxy, [direct, mullvadBridges, encryptedDnsProxy].Nodup ∧
      apiAccessMethods.get store.settings = Settings.default direct mullvadBridges encryptedDnsProxy
  step store input := (perform format path apiAccessMethods store input).map (·.2)

end

end MullvadVpn.AccessMethods
