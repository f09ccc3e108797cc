import MullvadVpn.Systems.TransitionSystem

/-!
The settings persister (`settings/mod.rs`): the daemon's settings in memory, the file that stores them and
the listeners that are told about changes. Every operation carries the answers of the file system to it,
so a run ranges over all sequences of operations and all patterns of failures.
-/

namespace MullvadVpn.Persister

open Systems

/-- The settings: the fields the persister itself reads or sets, and `rest` for all others. -/
structure Settings (Rest : Type) where
  lockdownMode : Bool
  autoConnect : Bool
  showBetaReleases : Bool
  updateDefaultLocation : Bool
  rest : Rest
  deriving DecidableEq

/-- How serde stores settings. The fields marked `#[serde(skip)]` (the preshared key and the packet
size of a custom tunnel's peers) are not written and come back at their defaults; `persisted` is what
remains of the other fields. -/
structure Format (Rest Bytes : Type) where
  defaultRest : Rest
  persisted : Rest → Rest
  toStringPretty : Settings Rest → Option Bytes
  fromSlice : Bytes → Option (Settings Rest)
  persisted_default : persisted defaultRest = defaultRest
  fromSlice_toStringPretty : ∀ settings bytes, toStringPretty settings = some bytes →
    fromSlice bytes = some { settings with rest := persisted settings.rest }
  persisted_of_fromSlice : ∀ bytes settings, fromSlice bytes = some settings →
    persisted settings.rest = settings.rest

/-- What the build decides: the target system and whether the version is a beta. -/
structure Build where
  android : Bool
  betaVersion : Bool

inductive IoError where
  | notFound | other

inductive Error (E : Type) where
  | readError (path : String) (error : IoError)
  | parseError
  | deleteError (path : String) (error : IoError)
  | serializeError
  | writeError (path : String) (error : IoError)
  | updateFailed (error : E)

/-- The calls of one operation that fail, and how. -/
structure Io where
  read : Option IoError := none
  create : Option IoError := none
  writeAll : Option IoError := none
  syncAll : Option IoError := none
  rename : Option IoError := none
  removeFile : Option IoError := none

variable {Rest Bytes E : Type}

/-- `fs::read`. -/
def readFile (io : Io) (file : Option Bytes) : Except IoError Bytes :=
  match io.read, file with
  | some error, _ => .error error
  | none, none => .error .notFound
  | none, some bytes => .ok bytes

/-- `fs::remove_file`, and what is left. -/
def removeFile (io : Io) (file : Option Bytes) : Except IoError Unit × Option Bytes :=
  match io.removeFile, file with
  | some error, _ => (.error error, file)
  | none, none => (.error .notFound, none)
  | none, some _ => (.ok (), none)

/-- A file that is written under a temporary name: what it holds so far. -/
structure AtomicFile (Bytes : Type) where
  file : Option Bytes

namespace AtomicFile

@[simp] def new (io : Io) : Except IoError (AtomicFile Bytes) :=
  match io.create with
  | some error => .error error
  | none => .ok ⟨none⟩

@[simp] def writeAll (io : Io) (_ : AtomicFile Bytes) (buffer : Bytes) :
    Except IoError (AtomicFile Bytes) :=
  match io.writeAll with
  | some error => .error error
  | none => .ok ⟨some buffer⟩

/-- Flush, then move to the target. The temporary file is removed on failure; nobody reads it. -/
@[simp] def finalize (io : Io) (self : AtomicFile Bytes) (target : Option Bytes) :
    Except IoError Unit × Option Bytes :=
  match io.syncAll, io.rename with
  | some error, _ => (.error error, target)
  | none, some error => (.error error, target)
  | none, none => (.ok (), self.file)

end AtomicFile

/-- The settings file, and whether the last attempt to write it succeeded. The persister does not
look at the latter. -/
structure Disk (Bytes : Type) where
  file : Option Bytes
  lastWriteSucceeded : Bool

/-- The persister. Of each listener it is kept what it was handed last. -/
structure SettingsPersister (Rest : Type) where
  settings : Settings Rest
  onChangeListeners : List (Option (Settings Rest))

variable (self : SettingsPersister Rest)

def SettingsPersister.notifyListeners : SettingsPersister Rest :=
  { self with onChangeListeners := self.onChangeListeners.map fun _ => some self.settings }

def SettingsPersister.registerChangeListener : SettingsPersister Rest :=
  { self with onChangeListeners := self.onChangeListeners ++ [none] }

structure LoadSettingsResult (Rest : Type) where
  settings : Settings Rest
  shouldSave : Bool

section

variable (format : Format Rest Bytes) (build : Build) (path : String)

/-- `Settings::default`. -/
def Settings.default : Settings Rest :=
  { lockdownMode := false, autoConnect := false, showBetaReleases := false
    updateDefaultLocation := false, rest := format.defaultRest }

def defaultSettings : Settings Rest :=
  let settings := Settings.default format
  let settings := if build.betaVersion then { settings with showBetaReleases := true } else settings
  if build.android then { settings with updateDefaultLocation := true } else settings

def loadFromBytes (bytes : Bytes) : Except (Error E) (Settings Rest) :=
  match format.fromSlice bytes with
  | some settings => .ok settings
  | none => .error .parseError

variable (loaded : Except (Error E) (Settings Rest)) (io : Io) (settings : Settings Rest)
  (disk : Disk Bytes)

def loadFromFile (file : Option Bytes) : Except (Error E) (Settings Rest) :=
  match readFile io file with
  | .error error => .error (.readError path error)
  | .ok bytes => loadFromBytes format bytes

/-- What a load starts from: the settings in the file, or the defaults. -/
def loadOrDefault : LoadSettingsResult Rest :=
  match loaded with
  | .ok settings => { settings, shouldSave := false }
  | .error (.readError _ .notFound) =>
    { settings := defaultSettings format build, shouldSave := true }
  | .error _ =>
    -- The field does not exist on Android.
    { settings :=
        if build.android then defaultSettings format build
        else { defaultSettings format build with lockdownMode := true }
      shouldSave := true }

def loadInner : LoadSettingsResult Rest :=
  let result := loadOrDefault format build loaded
  let result :=
    if build.android then { result with settings.autoConnect := false } else result
  if build.betaVersion then
    { settings := { result.settings with showBetaReleases := true }
      shouldSave := result.shouldSave || !result.settings.showBetaReleases }
  else
    result

def saveInner (target : Option Bytes) : Except (Error E) Unit × Option Bytes :=
  match format.toStringPretty settings with
  | none => (.error .serializeError, target)
  | some buffer =>
    match AtomicFile.new io with
    | .error error => (.error (.writeError path error), target)
    | .ok file =>
      match AtomicFile.writeAll io file buffer with
      | .error error => (.error (.writeError path error), target)
      | .ok file =>
        match file.finalize io target with
        | (.error error, target) => (.error (.writeError path error), target)
        | (.ok (), target) => (.ok (), target)

/-- `saveInner`, and its outcome as the last attempt to write. -/
def save : Except (Error E) Unit × Disk Bytes :=
  match saveInner format path io settings disk.file with
  | (.ok (), file) => (.ok (), { file, lastWriteSucceeded := true })
  | (.error error, file) => (.error error, { file, lastWriteSucceeded := false })

/-- A new persister has no listeners. A failure to save is only logged. -/
def load : SettingsPersister Rest × Disk Bytes :=
  let result := loadInner format build (loadFromFile (E := Empty) format path io disk.file)
  let persister : SettingsPersister Rest := { settings := result.settings, onChangeListeners := [] }
  if result.shouldSave then
    (persister, (save (E := Empty) format path io persister.settings disk).2)
  else
    (persister, disk)

namespace SettingsPersister

def reset (io : Io) (self : SettingsPersister Rest) (disk : Disk Bytes) :
    Except (Error E) Unit × SettingsPersister Rest × Disk Bytes :=
  let self := { self with settings := defaultSettings format build }
  match save (E := E) format path io self.settings disk with
  | (.ok (), disk) => (.ok (), self.notifyListeners, disk)
  | (.error _, disk) =>
    match Persister.removeFile io disk.file with
    | (.error error, file) => (.error (.deleteError path error), self, { disk with file })
    | (.ok (), file) => (.ok (), self.notifyListeners, { disk with file })

variable [DecidableEq Rest]

/-- The result says whether any settings were changed. -/
def tryUpdate (updateFn : Settings Rest → Except E (Settings Rest)) (io : Io)
    (self : SettingsPersister Rest) (disk : Disk Bytes) :
    Except (Error E) Bool × SettingsPersister Rest × Disk Bytes :=
  match updateFn self.settings with
  | .error error => (.error (.updateFailed error), self, disk)
  | .ok newSettings =>
    if self.settings = newSettings then
      (.ok false, self, disk)
    else
      match save format path io newSettings disk with
      | (.error error, disk) => (.error error, self, disk)
      | (.ok (), disk) => (.ok true, { self with settings := newSettings }.notifyListeners, disk)

def update (updateFn : Settings Rest → Settings Rest) (io : Io) (self : SettingsPersister Rest)
    (disk : Disk Bytes) : Except (Error E) Bool × SettingsPersister Rest × Disk Bytes :=
  tryUpdate format path (fun settings => .ok (updateFn settings)) io self disk

end SettingsPersister

end

inductive Operation (Rest E : Type) where
  | load
  | registerChangeListener
  | update (updateFn : Settings Rest → Settings Rest)
  | tryUpdate (updateFn : Settings Rest → Except E (Settings Rest))
  | reset

inductive Response (E : Type) where
  | loaded
  | registered
  | updated (result : Except (Error E) Bool)
  | reset (result : Except (Error E) Unit)

/-- The operation returned `Err`. -/
def Response.isErr : Response E → Bool
  | .updated (.error _) | .reset (.error _) => true
  | _ => false

/-- There is no persister before the first load. -/
structure World (Rest Bytes : Type) where
  persister : Option (SettingsPersister Rest)
  disk : Disk Bytes

def World.settings (world : World Rest Bytes) : Option (Settings Rest) :=
  world.persister.map (·.settings)

section

variable (format : Format Rest Bytes) (build : Build) (path : String) [DecidableEq Rest]

/-- One operation, under the given answers of the file system. Only a load works without a persister;
the persister it replaces goes away with its listeners. -/
def World.perform (world : World Rest Bytes) (input : Operation Rest E × Io) :
    Option (Response E × World Rest Bytes) :=
  match input.1, world.persister with
  | .load, _ =>
    let (persister, disk) := load format build path input.2 world.disk
    some (.loaded, { persister, disk })
  | _, none => none
  | .registerChangeListener, some persister =>
    some (.registered, { world with persister := persister.registerChangeListener })
  | .update updateFn, some persister =>
    let (result, persister, disk) := persister.update format path updateFn input.2 world.disk
    some (.updated result, { persister, disk })
  | .tryUpdate updateFn, some persister =>
    let (result, persister, disk) := persister.tryUpdate format path updateFn input.2 world.disk
    some (.updated result, { persister, disk })
  | .reset, some persister =>
    let (result, persister, disk) := persister.reset format build path input.2 world.disk
    some (.reset result, { persister, disk })

/-- Runs start without a persister, with any file, before any attempt to write it. -/
def system : TransitionSystem (World Rest Bytes) (Operation Rest E × Io) where
  Init world := world.persister = none ∧ world.disk.lastWriteSucceeded = false
  step world input := (world.perform format build path input).map (·.2)

end

end MullvadVpn.Persister
