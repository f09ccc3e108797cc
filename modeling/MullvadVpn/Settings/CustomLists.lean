import MullvadVpn.Relays.Constraints
import MullvadVpn.Settings.Store
import MullvadVpn.Systems.Keyed

/-!
Custom lists of locations (`mullvad-types/src/custom_list.rs`) and the daemon's handlers that change them
(`mullvad-daemon/src/custom_list.rs`), up to the settings they leave: the selector of relays and the tunnel
that are told afterwards are not part of it. No two lists ever share an identifier or a name, and an
operation changes only the list it names. The bound on the length of a name is kept exactly as long as every
update that is accepted keeps it, since only the handler that creates a list checks it.
-/

namespace MullvadVpn.CustomLists

open Systems Relays
open Persister (Store Format Io)

def customListNameMaxSize : Nat := 30

inductive Error where
  | nameTooLong
  | duplicateName
  | listNotFound
  | listExists

structure CustomList where
  id : ListId
  name : String
  locations : Finset GeographicLocationConstraint
  deriving DecidableEq

namespace CustomList

def withId (id : ListId) : CustomList := { id, name := "", locations := ∅ }

/-- `id` is what `Uuid::new_v4` draws. -/
def new (id : ListId) (name : String) : Except Error CustomList :=
  if name.length > customListNameMaxSize then .error .nameTooLong
  else .ok { withId id with name }

def append (self : CustomList) (locations : Finset GeographicLocationConstraint) : CustomList :=
  { self with locations := self.locations ∪ locations }

end CustomList

structure CustomListsSettings where
  customLists : List CustomList
  deriving DecidableEq

namespace CustomListsSettings

def default : CustomListsSettings := ⟨[]⟩

variable (self : CustomListsSettings) (newList : CustomList)

def checkListNameIsUnique : Except Error Unit :=
  if self.customLists.any fun list => list.name == newList.name && list.id != newList.id then
    .error .duplicateName
  else .ok ()

def checkIfIdIsUnique : Except Error Unit :=
  if self.customLists.any (·.id == newList.id) then .error .listExists else .ok ()

def findListIndex (listId : ListId) : Option Nat :=
  self.customLists.findIdx? (·.id == listId)

def add : Except Error CustomListsSettings := do
  self.checkIfIdIsUnique newList
  self.checkListNameIsUnique newList
  return ⟨self.customLists ++ [newList]⟩

def remove (listId : ListId) : Except Error CustomListsSettings := do
  let listIndex ← Fallible.okOr (self.findListIndex listId) .listNotFound
  return ⟨self.customLists.eraseIdx listIndex⟩

def clear (_ : CustomListsSettings) : CustomListsSettings := ⟨[]⟩

def update : Except Error CustomListsSettings := do
  let listIndex ← Fallible.okOr (self.findListIndex newList.id) .listNotFound
  self.checkListNameIsUnique newList
  return ⟨self.customLists.set listIndex newList⟩

end CustomListsSettings

inductive HandlerError where
  | customListError (error : Error)
  | settingsError (error : Persister.Error Error)

section

variable {Rest Bytes : Type} [DecidableEq Rest] (format : Format Rest Bytes) (path : String)
  (customLists : Lens (Persister.Settings Rest) CustomListsSettings) (io : Io)
  (store : Store Rest Bytes)

def createCustomList (id : ListId) (name : String)
    (locations : Finset GeographicLocationConstraint) :
    Except HandlerError ListId × Store Rest Bytes :=
  match CustomList.new id name with
  | .error error => (.error (.customListError error), store)
  | .ok newList =>
    let newList := newList.append locations
    match store.tryUpdate format path customLists (·.add newList) io with
    | (.ok _, store) => (.ok newList.id, store)
    | (.error error, store) => (.error (.settingsError error), store)

def deleteCustomList (id : ListId) : Except HandlerError Unit × Store Rest Bytes :=
  match store.tryUpdate format path customLists (·.remove id) io with
  | (.ok _, store) => (.ok (), store)
  | (.error error, store) => (.error (.settingsError error), store)

def updateCustomList (newList : CustomList) : Except HandlerError Unit × Store Rest Bytes :=
  match store.tryUpdate format path customLists (·.update newList) io with
  | (.ok _, store) => (.ok (), store)
  | (.error error, store) => (.error (.settingsError error), store)

def clearCustomLists : Except HandlerError Unit × Store Rest Bytes :=
  match store.update format path customLists (·.clear) io with
  | (.ok _, store) => (.ok (), store)
  | (.error error, store) => (.error (.settingsError error), store)

end

/-- The operations: `create` with the identifier that is drawn. -/
inductive Operation where
  | create (id : ListId) (name : String) (locations : Finset GeographicLocationConstraint)
  | delete (id : ListId)
  | update (newList : CustomList)
  | clear

def Operation.names : Operation → ListId → Bool
  | create id _ _, listId | delete id, listId => listId == id
  | update newList, listId => listId == newList.id
  | clear, _ => true

section

variable {Rest Bytes : Type} [DecidableEq Rest] (format : Format Rest Bytes) (path : String)
  (customLists : Lens (Persister.Settings Rest) CustomListsSettings)

/-- One operation, under the given answers of the file system. -/
def perform (store : Store Rest Bytes) (input : Operation × Io) :
    Except HandlerError (Option ListId) × Store Rest Bytes :=
  match input.1 with
  | .create id name locations =>
    let (result, store) := createCustomList format path customLists input.2 store id name locations
    (result.map some, store)
  | .delete id =>
    let (result, store) := deleteCustomList format path customLists input.2 store id
    (result.map fun () => none, store)
  | .update newList =>
    let (result, store) := updateCustomList format path customLists input.2 store newList
    (result.map fun () => none, store)
  | .clear =>
    let (result, store) := clearCustomLists format path customLists input.2 store
    (result.map fun () => none, store)

def system : TransitionSystem (Store Rest Bytes) (Operation × Io) where
  Init store := customLists.get store.settings = .default
  step store input := some (perform format path customLists store input).2

end

end MullvadVpn.CustomLists
