import MullvadVpn.Settings.Persistence
import MullvadVpn.Systems.Lens

/-!
Updates of one field of the settings through the persister, as the daemon's handlers make them. An update
that returns an error leaves all settings in memory as they were, and one that succeeds leaves the field as
the update made it and all others as they were.
-/

namespace MullvadVpn.Persister

open Systems

variable {Rest Bytes E α : Type}

structure Store (Rest Bytes : Type) where
  persister : SettingsPersister Rest
  disk : Disk Bytes

namespace Store

def settings (store : Store Rest Bytes) : Settings Rest := store.persister.settings

variable [DecidableEq Rest] (format : Format Rest Bytes) (path : String)
  (field : Lens (Settings Rest) α)

/-- `try_update` with a closure that reads and writes the field only. -/
def tryUpdate (updateFn : α → Except E α) (io : Io) (store : Store Rest Bytes) :
    Except (Error E) Bool × Store Rest Bytes :=
  let (result, persister, disk) :=
    store.persister.tryUpdate format path (field.tryModify updateFn) io store.disk
  (result, ⟨persister, disk⟩)

/-- `update` with a closure that reads and writes the field only. -/
def update (updateFn : α → α) (io : Io) (store : Store Rest Bytes) :
    Except (Error E) Bool × Store Rest Bytes :=
  tryUpdate format path field (fun a => .ok (updateFn a)) io store

theorem tryUpdate_cases (updateFn : α → Except E α) (io : Io) (store : Store Rest Bytes) :
    (∃ error after, store.tryUpdate format path field updateFn io = (.error error, after) ∧
      after.settings = store.settings) ∨
    ∃ changed a after, store.tryUpdate format path field updateFn io = (.ok changed, after) ∧
      updateFn (field.get store.settings) = .ok a ∧ after.settings = field.set a store.settings := by
  unfold tryUpdate
  rcases Persister.tryUpdate_cases format path (field.tryModify updateFn) io store.persister store.disk with
    ⟨error, -, heq⟩ | ⟨hupdate, heq⟩ | ⟨newSettings, hupdate, -, ⟨-, error, heq⟩ | ⟨-, bytes, -, heq⟩⟩
  · exact .inl ⟨.updateFailed error, ⟨store.persister, store.disk⟩, by rw [heq], rfl⟩
  · obtain ⟨a, ha, hset⟩ := Lens.tryModify_eq_ok.mp hupdate
    exact .inr ⟨false, a, ⟨store.persister, store.disk⟩, by rw [heq], ha, hset⟩
  · exact .inl ⟨error, ⟨store.persister, ⟨store.disk.file, false⟩⟩, by rw [heq], rfl⟩
  · obtain ⟨a, ha, hset⟩ := Lens.tryModify_eq_ok.mp hupdate
    exact .inr ⟨true, a, ⟨.notifyListeners { store.persister with settings := newSettings },
        ⟨some bytes, true⟩⟩, by rw [heq], ha, hset⟩

theorem update_cases (updateFn : α → α) (io : Io) (store : Store Rest Bytes) :
    (∃ (error : Error E) (after : Store Rest Bytes),
      store.update format path field updateFn io = (.error error, after) ∧ after.settings = store.settings) ∨
    ∃ changed after, store.update (E := E) format path field updateFn io = (.ok changed, after) ∧
      after.settings = field.set (updateFn (field.get store.settings)) store.settings := by
  rcases tryUpdate_cases (E := E) format path field (fun a => .ok (updateFn a)) io store with
    herror | ⟨changed, _, after, heq, ⟨⟩, hset⟩
  · exact .inl herror
  · exact .inr ⟨changed, after, heq, hset⟩

end Store

namespace Sample

/-- All other settings are one field, and the file holds settings as they are. -/
def plain (default : α) : Format α (Settings α) where
  defaultRest := default
  persisted := id
  toStringPretty := some
  fromSlice := some
  persisted_default := rfl
  fromSlice_toStringPretty := by simp
  persisted_of_fromSlice := by simp

def field : Lens (Settings α) α where
  get settings := settings.rest
  set rest settings := { settings with rest }
  get_set _ _ := rfl
  set_get _ := rfl
  set_set _ _ _ := rfl

def store (default : α) : Store α (Settings α) :=
  ⟨⟨Settings.default (plain default), []⟩, ⟨none, false⟩⟩

end Sample

end MullvadVpn.Persister
