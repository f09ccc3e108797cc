import MullvadVpn.Settings.Persister

/-!
The three copies of the settings: in memory, on disk and with the listeners. They agree after every
operation, and a failed operation changes nothing in memory, exactly as long as no reset fails to save
and to remove the file, no Android build loads settings that connect automatically, and no update stores
fields that serde skips.
-/

namespace MullvadVpn.Persister

open Systems SettingsPersister

variable {Rest Bytes E : Type}

section

variable (format : Format Rest Bytes) (build : Build) (path : String) [DecidableEq Rest]

/-- The settings in memory are those each listener was handed last and, if the last attempt to write
succeeded, those on disk. -/
structure Consistent (persister : SettingsPersister Rest) (disk : Disk Bytes) : Prop where
  handed : ∀ settings, some settings ∈ persister.onChangeListeners → settings = persister.settings
  stored : disk.lastWriteSucceeded = true → disk.file.bind format.fromSlice = some persister.settings

variable (world : World Rest Bytes)

def World.Consistent : Prop :=
  ∀ persister, world.persister = some persister → Persister.Consistent format persister world.disk

/-- The operation changes nothing in memory if it returns `Err`, and leaves the copies consistent. -/
def World.Keeps (input : Operation Rest E × Io) : Prop :=
  ∀ response after, world.perform format build path input = some (response, after) →
    (response.isErr = true → after.settings = world.settings) ∧ after.Consistent format

/-- The settings can be serialised and no call that writes them fails. -/
structure Savable (io : Io) (settings : Settings Rest) : Prop where
  serialises : (format.toStringPretty settings).isSome
  create : io.create = none
  writeAll : io.writeAll = none
  syncAll : io.syncAll = none
  rename : io.rename = none

/-- A load does not find settings that connect automatically on Android, unless something was not
written before, or the switch to beta releases makes the load write them. -/
def LoadAgrees (io : Io) (disk : Disk Bytes) : Prop :=
  disk.lastWriteSucceeded = true → io.read = none →
    ∀ settings, disk.file.bind format.fromSlice = some settings →
      build.android = true → settings.autoConnect = true →
        build.betaVersion = true ∧ settings.showBetaReleases = false

/-- An update does not store fields that serde skips. -/
def UpdatePersists (updateFn : Settings Rest → Except E (Settings Rest)) (io : Io)
    (persister : SettingsPersister Rest) : Prop :=
  ∀ newSettings, updateFn persister.settings = .ok newSettings →
    newSettings ≠ persister.settings → Savable format io newSettings →
      format.persisted newSettings.rest = newSettings.rest

/-- A reset can save the defaults or remove the file, or the settings are the defaults already. -/
def ResetSucceeds (io : Io) (persister : SettingsPersister Rest) (disk : Disk Bytes) : Prop :=
  Savable format io (defaultSettings format build) ∨ (io.removeFile = none ∧ disk.file.isSome) ∨
    persister.settings = defaultSettings format build

def World.Safe (input : Operation Rest E × Io) : Prop :=
  match input.1, world.persister with
  | .load, _ => LoadAgrees format build input.2 world.disk
  | .update updateFn, some persister =>
    UpdatePersists (E := E) format (fun settings => .ok (updateFn settings)) input.2 persister
  | .tryUpdate updateFn, some persister => UpdatePersists format updateFn input.2 persister
  | .reset, some persister => ResetSucceeds format build input.2 persister world.disk
  | _, _ => True

end

section

variable {format : Format Rest Bytes} {build : Build} (path : String) {io : Io}
  {settings : Settings Rest} (disk : Disk Bytes) {persister : SettingsPersister Rest}

theorem save_of_savable (h : Savable format io settings) :
    ∃ bytes, format.toStringPretty settings = some bytes ∧
      save (E := E) format path io settings disk = (.ok (), ⟨some bytes, true⟩) := by
  obtain ⟨bytes, hbytes⟩ := Option.isSome_iff_exists.mp h.serialises
  refine ⟨bytes, hbytes, ?_⟩
  simp [save, saveInner, hbytes, h.create, h.writeAll, h.syncAll, h.rename]

theorem save_of_not_savable (h : ¬ Savable format io settings) :
    ∃ error, save (E := E) format path io settings disk = (.error error, ⟨disk.file, false⟩) := by
  cases hbytes : format.toStringPretty settings with
  | none => exact ⟨.serializeError, by simp [save, saveInner, hbytes]⟩
  | some bytes =>
    -- The first call that fails decides the error.
    cases hcreate : io.create with
    | some error => exact ⟨.writeError path error, by simp [save, saveInner, hbytes, hcreate]⟩
    | none =>
      cases hwrite : io.writeAll with
      | some error =>
        exact ⟨.writeError path error, by simp [save, saveInner, hbytes, hcreate, hwrite]⟩
      | none =>
        cases hsync : io.syncAll with
        | some error =>
          exact ⟨.writeError path error, by simp [save, saveInner, hbytes, hcreate, hwrite, hsync]⟩
        | none =>
          cases hrename : io.rename with
          | some error =>
            exact ⟨.writeError path error, by simp [save, saveInner, hbytes, hcreate, hwrite, hsync, hrename]⟩
          | none => exact absurd ⟨by simp [hbytes], hcreate, hwrite, hsync, hrename⟩ h

variable {path disk}

theorem stored_of_save {bytes} (hbytes : format.toStringPretty settings = some bytes) :
    format.fromSlice bytes = some settings ↔ format.persisted settings.rest = settings.rest := by
  rw [format.fromSlice_toStringPretty _ _ hbytes]
  constructor
  · intro h
    exact congrArg Settings.rest (Option.some.inj h)
  · intro h
    rw [h]

theorem persisted_defaultSettings :
    format.persisted (defaultSettings format build).rest = (defaultSettings format build).rest := by
  have hrest : (defaultSettings format build).rest = format.defaultRest := by
    simp only [defaultSettings]
    split <;> split <;> rfl
  rw [hrest, format.persisted_default]

theorem handed_notifyListeners :
    ∀ handed, some handed ∈ persister.notifyListeners.onChangeListeners →
      handed = persister.notifyListeners.settings := by
  intro handed hmem
  obtain ⟨_, -, hhanded⟩ := List.mem_map.mp hmem
  exact (Option.some.inj hhanded).symm

theorem handed_registerChangeListener (h : Consistent format persister disk) :
    Consistent format persister.registerChangeListener disk := by
  refine ⟨fun handed hmem => ?_, h.stored⟩
  rcases List.mem_append.mp hmem with hmem | hmem
  · exact h.handed handed hmem
  · simp at hmem

theorem Consistent.of_failed {file}
    (handed : ∀ settings, some settings ∈ persister.onChangeListeners → settings = persister.settings) :
    Consistent format persister ⟨file, false⟩ :=
  ⟨handed, fun h => absurd h (by simp)⟩

/-- Saving settings without skipped fields leaves memory and disk consistent, whether or not it
succeeds. -/
theorem consistent_save (hrest : format.persisted persister.settings.rest = persister.settings.rest)
    (handed : ∀ settings, some settings ∈ persister.onChangeListeners → settings = persister.settings) :
    Consistent format persister (save (E := E) format path io persister.settings disk).2 := by
  by_cases hsavable : Savable format io persister.settings
  · obtain ⟨bytes, hbytes, hsave⟩ := save_of_savable (E := E) path disk hsavable
    rw [hsave]
    exact ⟨handed, fun _ => (stored_of_save hbytes).mpr hrest⟩
  · obtain ⟨error, hsave⟩ := save_of_not_savable (E := E) path disk hsavable
    rw [hsave]
    exact .of_failed handed

theorem loadFromFile_eq_ok_iff (path : String) :
    loadFromFile (E := E) format path io disk.file = .ok settings ↔
      io.read = none ∧ disk.file.bind format.fromSlice = some settings := by
  simp only [loadFromFile, readFile, loadFromBytes]
  cases io.read <;> cases disk.file <;> simp
  split <;> simp_all

theorem loadInner_ok : loadInner (E := E) format build (.ok settings) =
      { settings := { settings with
          autoConnect := settings.autoConnect && !build.android
          showBetaReleases := settings.showBetaReleases || build.betaVersion }
        shouldSave := build.betaVersion && !settings.showBetaReleases } := by
  simp only [loadInner, loadOrDefault]
  cases build.android <;> cases build.betaVersion <;> simp

variable (format build) in
theorem loadInner_error (error : Error E) :
    (loadInner format build (.error error)).shouldSave = true ∧
      (loadInner format build (.error error)).settings.rest = (defaultSettings format build).rest := by
  obtain ⟨hsave, hrest⟩ : (loadOrDefault format build (.error error)).shouldSave = true ∧
      (loadOrDefault format build (.error error)).settings.rest = (defaultSettings format build).rest := by
    unfold loadOrDefault
    split
    · contradiction
    · exact ⟨rfl, rfl⟩
    · cases build.android <;> exact ⟨rfl, rfl⟩
  simp only [loadInner]
  cases build.android <;> cases build.betaVersion <;> simp [hsave, hrest]

/-- A loaded file that is not written again agrees with memory unless Android dropped the automatic
connection. -/
theorem loadInner_settings_eq_iff
    (hkeep : (loadInner (E := E) format build (.ok settings)).shouldSave = false) :
    (loadInner (E := E) format build (.ok settings)).settings = settings ↔
      ¬ (build.android = true ∧ settings.autoConnect = true) := by
  obtain ⟨android, betaVersion⟩ := build
  obtain ⟨lockdownMode, autoConnect, showBetaReleases, updateDefaultLocation, rest⟩ := settings
  rw [loadInner_ok] at hkeep ⊢
  simp only [Settings.mk.injEq] at hkeep ⊢
  cases android <;> cases betaVersion <;> cases autoConnect <;> cases showBetaReleases <;> simp_all

theorem load_of_shouldSave {loaded : Except (Error Empty) (Settings Rest)}
    (hload : loadFromFile format path io disk.file = loaded)
    (hsave : (loadInner format build loaded).shouldSave = true) :
    load format build path io disk = (⟨(loadInner format build loaded).settings, []⟩,
      (save (E := Empty) format path io (loadInner format build loaded).settings disk).2) := by
  simp only [load, hload, hsave, if_true]

theorem consistent_load_iff :
    Consistent format (load format build path io disk).1 (load format build path io disk).2 ↔
      LoadAgrees format build io disk := by
  cases hload : loadFromFile (E := Empty) format path io disk.file with
  | error error =>
    obtain ⟨hsave, hrest⟩ := loadInner_error format build error
    have hagrees : LoadAgrees format build io disk := by
      intro _ hread settings hsettings
      have hok := (loadFromFile_eq_ok_iff (E := Empty) path).mpr ⟨hread, hsettings⟩
      rw [hload] at hok
      contradiction
    rw [load_of_shouldSave hload hsave, iff_true_right hagrees]
    exact consistent_save (by simp only [hrest, persisted_defaultSettings]) (by simp)
  | ok settings =>
    obtain ⟨hread, hfound⟩ := (loadFromFile_eq_ok_iff path).mp hload
    have hagrees : LoadAgrees format build io disk ↔ (disk.lastWriteSucceeded = true →
        build.android = true → settings.autoConnect = true →
          (loadInner (E := Empty) format build (.ok settings)).shouldSave = true) := by
      simp [LoadAgrees, hread, hfound, loadInner_ok]
    rw [hagrees]
    cases hsave : (loadInner (E := Empty) format build (.ok settings)).shouldSave with
    | true =>
      obtain ⟨bytes, -, hbytes⟩ := Option.bind_eq_some_iff.mp hfound
      rw [load_of_shouldSave hload hsave, iff_true_right (fun _ _ _ => rfl)]
      refine consistent_save ?_ (by simp)
      simp only [loadInner_ok, format.persisted_of_fromSlice _ _ hbytes]
    | false =>
      have hkeep := loadInner_settings_eq_iff hsave
      have hstays : load format build path io disk =
          (⟨(loadInner (E := Empty) format build (.ok settings)).settings, []⟩, disk) := by
        simp [load, hload, hsave]
      rw [hstays]
      constructor
      · intro h hwritten handroid hconnect
        have hstored := (h.stored hwritten).symm.trans hfound
        exact absurd ⟨handroid, hconnect⟩ (hkeep.mp (Option.some.inj hstored))
      · intro h
        refine ⟨by simp, fun hwritten => ?_⟩
        rw [hfound, hkeep.mpr fun hboth => by simpa using h hwritten hboth.1 hboth.2]

variable (updateFn : Settings Rest → Except E (Settings Rest))

variable (format path) in
theorem tryUpdate_cases [DecidableEq Rest] (io : Io)
    (persister : SettingsPersister Rest) (disk : Disk Bytes) :
    (∃ error, updateFn persister.settings = .error error ∧ persister.tryUpdate format path updateFn io disk =
        (.error (.updateFailed error), persister, disk)) ∨
    (updateFn persister.settings = .ok persister.settings ∧
      persister.tryUpdate format path updateFn io disk = (.ok false, persister, disk)) ∨
    ∃ newSettings, updateFn persister.settings = .ok newSettings ∧ newSettings ≠ persister.settings ∧
      ((¬ Savable format io newSettings ∧ ∃ error, persister.tryUpdate format path updateFn io disk =
          (.error error, persister, ⟨disk.file, false⟩)) ∨
      (Savable format io newSettings ∧ ∃ bytes, format.toStringPretty newSettings = some bytes ∧
          persister.tryUpdate format path updateFn io disk =
            (.ok true, notifyListeners { persister with settings := newSettings }, ⟨some bytes, true⟩))) := by
  unfold tryUpdate
  cases hupdate : updateFn persister.settings with
  | error error => exact .inl ⟨error, rfl, rfl⟩
  | ok newSettings =>
    by_cases hsame : persister.settings = newSettings
    · subst hsame
      exact .inr (.inl ⟨rfl, by simp⟩)
    refine .inr (.inr ⟨newSettings, rfl, Ne.symm hsame, ?_⟩)
    by_cases hsavable : Savable format io newSettings
    · obtain ⟨bytes, hbytes, hsave⟩ := save_of_savable (E := E) path disk hsavable
      exact .inr ⟨hsavable, bytes, hbytes, by simp [hsame, hsave]⟩
    · obtain ⟨error, hsave⟩ := save_of_not_savable (E := E) path disk hsavable
      exact .inl ⟨hsavable, error, by simp [hsame, hsave]⟩

theorem removeFile_of_failed {file : Option Bytes} (h : ¬ (io.removeFile = none ∧ file.isSome)) :
    ∃ error, removeFile io file = (.error error, file) := by
  cases hio : io.removeFile with
  | some error => exact ⟨error, by simp [removeFile, hio]⟩
  | none =>
    cases file with
    | none => exact ⟨.notFound, by simp [removeFile, hio]⟩
    | some bytes => exact absurd ⟨hio, rfl⟩ h

variable (build path io persister) in
theorem reset_cases (disk : Disk Bytes) : (Savable format io (defaultSettings format build) ∧
      ∃ bytes, format.toStringPretty (defaultSettings format build) = some bytes ∧
        persister.reset (E := E) format build path io disk = (.ok (), notifyListeners
            { persister with settings := defaultSettings format build }, ⟨some bytes, true⟩)) ∨
    ((io.removeFile = none ∧ disk.file.isSome) ∧ persister.reset (E := E) format build path io disk =
        (.ok (), notifyListeners { persister with settings := defaultSettings format build }, ⟨none, false⟩)) ∨
    (¬ Savable format io (defaultSettings format build) ∧ ¬ (io.removeFile = none ∧ disk.file.isSome) ∧
      ∃ error, persister.reset (E := E) format build path io disk = (.error (.deleteError path error),
          { persister with settings := defaultSettings format build }, ⟨disk.file, false⟩)) := by
  unfold reset
  by_cases hsavable : Savable format io (defaultSettings format build)
  · obtain ⟨bytes, hbytes, hsave⟩ := save_of_savable (E := E) path disk hsavable
    exact .inl ⟨hsavable, bytes, hbytes, by simp [hsave]⟩
  obtain ⟨error, hsave⟩ := save_of_not_savable (E := E) path disk hsavable
  by_cases hremove : io.removeFile = none ∧ disk.file.isSome
  · obtain ⟨bytes, hbytes⟩ := Option.isSome_iff_exists.mp hremove.2
    exact .inr (.inl ⟨hremove, by simp [hsave, removeFile, hremove.1, hbytes]⟩)
  · obtain ⟨error, hfailed⟩ := removeFile_of_failed hremove
    exact .inr (.inr ⟨hsavable, hremove, error, by simp [hsave, hfailed]⟩)

/-- What is asked of an operation that returned `result`. -/
def Kept {α : Type} (format : Format Rest Bytes) (before : SettingsPersister Rest)
    (outcome : Except (Error E) α × SettingsPersister Rest × Disk Bytes) : Prop :=
  (∀ error, outcome.1 = .error error → outcome.2.1.settings = before.settings) ∧
    Consistent format outcome.2.1 outcome.2.2

variable (build path io)

theorem kept_tryUpdate_iff [DecidableEq Rest] (h : Consistent format persister disk) :
    Kept format persister (persister.tryUpdate format path updateFn io disk) ↔
      UpdatePersists format updateFn io persister := by
  rcases tryUpdate_cases format path updateFn io persister disk with
    ⟨error, hupdate, heq⟩ | ⟨hupdate, heq⟩ | ⟨newSettings, hupdate, hne, hsaved⟩
  · rw [heq, iff_true_right (by simp [UpdatePersists, hupdate])]
    exact ⟨fun _ _ => rfl, h⟩
  · rw [heq, iff_true_right (by simp [UpdatePersists, hupdate])]
    exact ⟨fun _ _ => rfl, h⟩
  · rcases hsaved with ⟨hsavable, error, heq⟩ | ⟨hsavable, bytes, hbytes, heq⟩
    · rw [heq, iff_true_right (by simp [UpdatePersists, hupdate, hsavable])]
      exact ⟨fun _ _ => rfl, .of_failed h.handed⟩
    · have hpersists : UpdatePersists format updateFn io persister ↔
          format.persisted newSettings.rest = newSettings.rest := by
        simp [UpdatePersists, hupdate, hne, hsavable]
      rw [heq, hpersists, ← stored_of_save hbytes]
      constructor
      · intro hkept
        exact hkept.2.stored rfl
      · intro hstored
        exact ⟨by simp, handed_notifyListeners, fun _ => hstored⟩

theorem kept_reset_iff (h : Consistent format persister disk) :
    Kept format persister (persister.reset (E := E) format build path io disk) ↔
      ResetSucceeds format build io persister disk := by
  rcases reset_cases (E := E) build path io persister disk with
    ⟨hsavable, bytes, hbytes, heq⟩ | ⟨hremove, heq⟩ | ⟨hsavable, hremove, error, heq⟩
  · rw [heq, iff_true_right (.inl hsavable)]
    refine ⟨by simp, handed_notifyListeners, fun _ => ?_⟩
    exact (stored_of_save hbytes).mpr persisted_defaultSettings
  · rw [heq, iff_true_right (.inr (.inl hremove))]
    exact ⟨by simp, .of_failed handed_notifyListeners⟩
  · have hsucceeds : ResetSucceeds format build io persister disk ↔
        persister.settings = defaultSettings format build := by
      simp only [ResetSucceeds, hsavable, hremove, false_or]
    rw [heq, hsucceeds]
    constructor
    · intro hkept
      exact (hkept.1 _ rfl).symm
    · intro hdefault
      rw [← hdefault]
      exact ⟨fun _ _ => rfl, .of_failed h.handed⟩

end

section

variable {format : Format Rest Bytes} {build : Build} {path : String} [DecidableEq Rest]
  {world : World Rest Bytes}

variable {persister : SettingsPersister Rest}

omit [DecidableEq Rest] in
@[simp] theorem World.consistent_some {disk} :
    World.Consistent format ⟨some persister, disk⟩ ↔ Persister.Consistent format persister disk := by
  simp [World.Consistent]

variable {input : Operation Rest E × Io} {after : World Rest Bytes} {response : Response E}

theorem World.keeps_iff (hop : world.perform format build path input = some (response, after)) :
    world.Keeps format build path input ↔
      (response.isErr = true → after.settings = world.settings) ∧ after.Consistent format := by
  simp [World.Keeps, hop]

theorem Response.isErr_updated {result : Except (Error E) Bool} :
    (updated result).isErr = true ↔ ∃ error, result = .error error := by
  cases result <;> simp [isErr]

theorem Response.isErr_reset {result : Except (Error E) Unit} :
    (reset result).isErr = true ↔ ∃ error, result = .error error := by
  cases result <;> simp [isErr]

theorem World.keeps_iff_kept {α : Type} {disk}
    (outcome : Except (Error E) α × SettingsPersister Rest × Disk Bytes)
    (hop : perform format build path ⟨some persister, disk⟩ input =
      some (response, ⟨some outcome.2.1, outcome.2.2⟩))
    (herr : response.isErr = true ↔ ∃ error, outcome.1 = .error error) :
    Keeps format build path ⟨some persister, disk⟩ input ↔ Kept format persister outcome := by
  rw [keeps_iff hop, consistent_some, herr]
  simp [settings, Kept]

/-- From a consistent state, an operation keeps what it should exactly if it is safe. -/
theorem World.keeps_iff_safe (h : world.Consistent format)
    (hop : world.perform format build path input = some (response, after)) :
    world.Keeps format build path input ↔ world.Safe format build input := by
  obtain ⟨operation, io⟩ := input
  obtain ⟨persister, disk⟩ := world
  cases operation with
  | load =>
    have hload : perform (E := E) format build path ⟨persister, disk⟩ (.load, io) =
        some (.loaded, ⟨some (load format build path io disk).1, (load format build path io disk).2⟩) := rfl
    rw [keeps_iff hload, consistent_some, consistent_load_iff]
    exact and_iff_right (by simp [Response.isErr])
  | registerChangeListener =>
    obtain - | persister := persister
    · cases hop
    have hregistered := handed_registerChangeListener (consistent_some.mp h)
    rw [keeps_iff rfl, consistent_some]
    exact iff_of_true ⟨by simp [Response.isErr], hregistered⟩ trivial
  | update updateFn =>
    obtain - | persister := persister
    · cases hop
    exact (keeps_iff_kept (persister.update format path updateFn io disk) rfl
      Response.isErr_updated).trans (kept_tryUpdate_iff path io _ (consistent_some.mp h))
  | tryUpdate updateFn =>
    obtain - | persister := persister
    · cases hop
    exact (keeps_iff_kept (persister.tryUpdate format path updateFn io disk) rfl
      Response.isErr_updated).trans (kept_tryUpdate_iff path io _ (consistent_some.mp h))
  | reset =>
    obtain - | persister := persister
    · cases hop
    exact (keeps_iff_kept (persister.reset format build path io disk) rfl
      Response.isErr_reset).trans (kept_reset_iff build path io (consistent_some.mp h))

theorem perform_of_step (h : (system format build path).step world input = some after) :
    ∃ response, world.perform format build path input = some (response, after) := by
  obtain ⟨⟨response, _⟩, heq, rfl⟩ := Option.map_eq_some_iff.mp h
  exact ⟨response, heq⟩

variable (format build path world) in
/-- In a run every failed operation leaves the settings in memory as they were and every operation
leaves the three copies consistent, exactly if every operation of the run is safe. -/
theorem run_keeps_iff_safe (h : List (Operation Rest E × Io)) :
    (system format build path).RunWhere (fun _ before input => before.Keeps format build path input) h world ↔
      (system format build path).RunWhere (fun _ before input => before.Safe format build input) h world := by
  refine TransitionSystem.runWhere_congr (I := fun _ => World.Consistent format) ?_ ?_ ?_ h world
  · rintro before ⟨hnone, -⟩ persister hpersister
    rw [hnone] at hpersister
    contradiction
  · intro _ before input after hbefore hstep
    obtain ⟨response, hop⟩ := perform_of_step hstep
    exact World.keeps_iff_safe hbefore hop
  · intro _ before input after _ hkeeps hstep
    obtain ⟨response, hop⟩ := perform_of_step hstep
    exact (hkeeps response after hop).2

end

namespace Sample

def format : Format Unit (Settings Unit) where
  defaultRest := ()
  persisted := id
  toStringPretty := some
  fromSlice := some
  persisted_default := rfl
  fromSlice_toStringPretty := by simp
  persisted_of_fromSlice := by simp

def desktop : Build := { android := false, betaVersion := false }

def android : Build := { android := true, betaVersion := false }

def fresh : World Unit (Settings Unit) := ⟨none, ⟨none, false⟩⟩

def connectAutomatically : Operation Unit Empty :=
  .update fun settings => { settings with autoConnect := true }

/-- The disk is full and the file cannot be removed. -/
def readOnly : Io := { create := some .other, removeFile := some .other }

/-- The settings connect automatically, and a listener has been told so. -/
def configured (build : Build) : World Unit (Settings Unit) :=
  let settings := { defaultSettings format build with autoConnect := true }
  ⟨some ⟨settings, [some settings]⟩, ⟨some settings, true⟩⟩

end Sample

/-- A reset that can neither save the defaults nor remove the file returns an error, but the settings
in memory are the defaults from then on, and the listener still has the old ones. On Android a restart
drops the automatic connection from memory and leaves it on disk. -/
theorem reset_fails_with_defaults_in_memory :
    (∃ h, (system (E := Empty) Sample.format Sample.desktop "settings.json").Run h
      (Sample.configured Sample.desktop)) ∧
    (Sample.configured Sample.desktop).perform (E := Empty) Sample.format Sample.desktop
        "settings.json" (.reset, Sample.readOnly) =
      some (.reset (.error (.deleteError "settings.json" .other)),
        { Sample.configured Sample.desktop with
          persister := some ⟨defaultSettings Sample.format Sample.desktop,
            [some { defaultSettings Sample.format Sample.desktop with autoConnect := true }]⟩
          disk.lastWriteSucceeded := false }) ∧
    ¬ (Sample.configured Sample.desktop).Keeps (E := Empty) Sample.format Sample.desktop
        "settings.json" (.reset, Sample.readOnly) ∧
    ¬ (Sample.configured Sample.android).Keeps (E := Empty) Sample.format Sample.android
        "settings.json" (.load, {}) := by
  refine ⟨⟨[(Sample.connectAutomatically, {}), (.registerChangeListener, {}), (.load, {})], ?_⟩, rfl, ?_, ?_⟩
  · have hfresh : (system (E := Empty) Sample.format Sample.desktop "settings.json").Run []
        Sample.fresh := .init ⟨rfl, rfl⟩
    have hexec : (system (E := Empty) Sample.format Sample.desktop "settings.json").exec Sample.fresh
        [(.load, {}), (.registerChangeListener, {}), (Sample.connectAutomatically, {})] =
          some (Sample.configured Sample.desktop) := rfl
    exact hfresh.exec hexec
  · intro hkeeps
    have hsettings := (hkeeps _ _ rfl).1 rfl
    revert hsettings
    decide
  · intro hkeeps
    have hstored := ((hkeeps _ _ rfl).2 _ rfl).stored rfl
    revert hstored
    decide

end MullvadVpn.Persister
