import MullvadVpn.Update.Check

/-!
The version router (`version/router.rs`): it turns version metadata into the upgrade that is suggested,
and downloads and verifies the installer of that upgrade on request. Once there is a verified installer,
its path is part of what the router says about the suggested upgrade. A response that arrives then and
suggests another version is announced with the path of the installer of the earlier one, and this is the
only way in which a path and a version that do not belong together are announced.
-/

namespace MullvadVpn.Update

open Systems Option List

structure SuggestedUpgrade where
  version : AppVersion
  changelog : String
  verifiedInstallerPath : Option String
  deriving DecidableEq

structure AppVersionInfo where
  currentVersionSupported : Bool
  suggestedUpgrade : Option SuggestedUpgrade
  deriving DecidableEq

/-- The version to upgrade to, if it is newer than the current one. -/
def recommendedVersionUpgrade (current : AppVersion) (info : VersionInfo) (betaProgram : Bool) :
    Option Version :=
  let details := if betaProgram then info.beta.getD info.stable else info.stable
  if details.version.gt current then some details else none

def toAppVersionInfo (current : AppVersion) (cache : VersionCache) (betaProgram : Bool)
    (verifiedInstallerPath : Option String) : AppVersionInfo :=
  { currentVersionSupported := cache.currentVersionSupported
    suggestedUpgrade := (recommendedVersionUpgrade current cache.versionInfo betaProgram).map fun version =>
        { version := version.version, changelog := version.changelog, verifiedInstallerPath } }

namespace VersionRouter

inductive State where
  | noVersion
  | hasVersion (versionCache : VersionCache)
  /-- A downloader runs. -/
  | downloading (versionCache : VersionCache) (upgradingToVersion : Version)
  /-- The downloader has ended, with the path of an installer that it has verified. -/
  | downloaded (versionCache : VersionCache) (verifiedInstallerPath : String)

namespace State

def getVersionCache : State → Option VersionCache
  | noVersion => none
  | hasVersion cache => some cache
  | downloading cache _ => some cache
  | downloaded cache _ => some cache

end State

inductive Output where
  /-- Version information for the daemon. -/
  | versionEvent (info : AppVersionInfo)
  /-- The response to one request for the latest version. -/
  | versionResponse (info : AppVersionInfo)
  /-- The response to a request that cannot be served. -/
  | versionRouterClosed
  | refreshVersionCheck
  /-- A download was aborted: its handle was dropped, or its result was. -/
  | aborted

end VersionRouter

structure VersionRouter where
  state : VersionRouter.State
  betaProgram : Bool
  /-- How many requests for the latest version wait for a response. -/
  versionRequestChannels : Nat

namespace VersionRouter

/-- Dropping the state aborts a download that is in progress. -/
def State.drop : State → List Output
  | downloading _ _ => [.aborted]
  | noVersion | hasVersion _ | downloaded _ _ => []

structure AppVersionInfoEvent where
  appVersionInfo : AppVersionInfo
  isNew : Bool

variable (current : AppVersion)

def onNewVersion (router : VersionRouter) (cache : VersionCache) :
    VersionRouter × List Output × AppVersionInfoEvent :=
  let info := toAppVersionInfo current cache router.betaProgram
  let received := { router with state := .hasVersion cache }
  match router.state with
  | .noVersion => (received, [], ⟨info none, true⟩)
  | .hasVersion prevCache =>
    let prevInfo := toAppVersionInfo current prevCache router.betaProgram none
    (received, [], ⟨info none, info none ≠ prevInfo⟩)
  | .downloading prevCache upgradingToVersion =>
    let prevInfo := toAppVersionInfo current prevCache router.betaProgram none
    if prevInfo ≠ info none then (received, router.state.drop, ⟨info none, true⟩)
    else ({ router with state := .downloading cache upgradingToVersion }, [], ⟨info none, false⟩)
  | .downloaded prevCache path =>
    -- The information carries the path of what was downloaded, whatever it suggests.
    let prevInfo := toAppVersionInfo current prevCache router.betaProgram (some path)
    if prevInfo ≠ info (some path) then (received, router.state.drop, ⟨info (some path), true⟩)
    else ({ router with state := .downloaded cache path }, [], ⟨info (some path), false⟩)

def notifyVersionRequesters (router : VersionRouter) (info : AppVersionInfo) :
    VersionRouter × List Output :=
  ({ router with versionRequestChannels := 0 }, replicate router.versionRequestChannels (.versionResponse info))

/-- What `run_step` does with a version from the updater. -/
def receiveVersion (router : VersionRouter) (cache : VersionCache) : VersionRouter × List Output :=
  let (received, dropped, event) := router.onNewVersion current cache
  let (notified, responses) := received.notifyVersionRequesters event.appVersionInfo
  (notified, dropped ++ responses ++ if event.isNew then [.versionEvent event.appVersionInfo] else [])

def setBetaProgram (router : VersionRouter) (newState : Bool) : VersionRouter × List Output :=
  if newState = router.betaProgram then (router, [])
  else
    let changed := { router with betaProgram := newState }
    match router.state.getVersionCache with
    | none => (changed, [])
    | some cache =>
      let prevInfo := toAppVersionInfo current cache router.betaProgram none
      let newInfo := toAppVersionInfo current cache newState none
      if newInfo = prevInfo then (changed, [])
      else
        let (notified, responses) :=
          { changed with state := .hasVersion cache }.notifyVersionRequesters newInfo
        (notified, router.state.drop ++ .versionEvent newInfo :: responses)

/-- A request for the latest version, with whether the updater still takes requests. -/
def getLatestVersion (router : VersionRouter) (updaterRuns : Bool) : VersionRouter × List Output :=
  if updaterRuns then
    ({ router with versionRequestChannels := router.versionRequestChannels + 1 }, [.refreshVersionCheck])
  else (router, [.versionRouterClosed])

def updateApplication (router : VersionRouter) : VersionRouter :=
  match router.state with
  | .hasVersion cache =>
    match recommendedVersionUpgrade current cache.versionInfo router.betaProgram with
    | some upgradingToVersion => { router with state := .downloading cache upgradingToVersion }
    | none => router
  | .noVersion | .downloading _ _ | .downloaded _ _ => router

def cancelUpgrade (router : VersionRouter) : VersionRouter × List Output :=
  match router.state with
  | .downloading cache _ => ({ router with state := .hasVersion cache }, router.state.drop)
  | .downloaded cache _ =>
    let info := toAppVersionInfo current cache router.betaProgram none
    let (notified, responses) :=
      { router with state := .hasVersion cache }.notifyVersionRequesters info
    (notified, .aborted :: responses ++ [.versionEvent info])
  | .noVersion | .hasVersion _ => (router, [])

/-- What a downloader comes to (`downloader::start`): a verified installer at a path that is made from
its version, unless the download or the verification fails. -/
def start (binPath : AppVersion → String) (version : Version) (success : Bool) : Option String :=
  if success then some (binPath version.version) else none

variable (binPath : AppVersion → String)

def waitForUpdate (router : VersionRouter) (success : Bool) : Option (VersionRouter × List Output) :=
  match router.state with
  | .downloading cache upgradingToVersion =>
    match start binPath upgradingToVersion success with
    | some path =>
      some ({ router with state := .downloaded cache path }, [.versionEvent
          { currentVersionSupported := cache.currentVersionSupported
            suggestedUpgrade := some
              { version := upgradingToVersion.version
                changelog := upgradingToVersion.changelog
                verifiedInstallerPath := some path } }])
    | none => some ({ router with state := .hasVersion cache }, [])
  | .noVersion | .hasVersion _ | .downloaded _ _ => none

inductive Message where
  | newVersion (cache : VersionCache)
  | setBetaProgram (state : Bool)
  | getLatestVersion (updaterRuns : Bool)
  | updateApplication
  | cancelUpdate
  | downloader (success : Bool)

def runStep (router : VersionRouter) : Message → Option (VersionRouter × List Output)
  | .newVersion cache => some (router.receiveVersion current cache)
  | .setBetaProgram state => some (router.setBetaProgram current state)
  | .getLatestVersion updaterRuns => some (router.getLatestVersion updaterRuns)
  | .updateApplication => some (router.updateApplication current, [])
  | .cancelUpdate => some (router.cancelUpgrade current)
  | .downloader success => router.waitForUpdate binPath success

/-- Version information that was sent, with the installers that had been verified by then. -/
structure Emission where
  info : AppVersionInfo
  verified : List (String × AppVersion)

/-- If there is a path, then the installer that was last verified at that path is the one of the
suggested version. -/
def Emission.Matches (emission : Emission) : Prop :=
  ∀ upgrade ∈ emission.info.suggestedUpgrade, ∀ path ∈ upgrade.verifiedInstallerPath,
    emission.verified.lookup path = some upgrade.version

/-- The router, with the installers that have been verified and what has been sent, latest first. -/
structure Routed where
  router : VersionRouter
  verified : List (String × AppVersion)
  emitted : List Emission

def Output.info : Output → Option AppVersionInfo
  | versionEvent info => some info
  | versionResponse info => some info
  | versionRouterClosed | refreshVersionCheck | aborted => none

/-- A downloader that succeeds has verified an installer. -/
def verifiedBy (router : VersionRouter) : Message → List (String × AppVersion)
  | .downloader true =>
    match router.state with
    | .downloading _ version => [(binPath version.version, version.version)]
    | .noVersion | .hasVersion _ | .downloaded _ _ => []
  | _ => []

def system : TransitionSystem Routed Message where
  Init s := ∃ betaProgram, s = ⟨⟨.noVersion, betaProgram, 0⟩, [], []⟩
  step s message := (s.router.runStep current binPath message).map fun (router, outputs) =>
    let verified := s.router.verifiedBy binPath message ++ s.verified
    ⟨router, verified, (outputs.filterMap Output.info).map (⟨·, verified⟩) ++ s.emitted⟩

/-- With an installer at hand, the response does not suggest another version. -/
def Agrees (s : Routed) : Message → Prop
  | .newVersion new =>
    match s.router.state with
    | .downloaded cache _ =>
      ∀ upgrade ∈ recommendedVersionUpgrade current new.versionInfo s.router.betaProgram,
        ∃ known ∈ recommendedVersionUpgrade current cache.versionInfo s.router.betaProgram,
          known.version = upgrade.version
    | .noVersion | .hasVersion _ | .downloading _ _ => True
  | _ => True

variable {current binPath}

/-- The version that a cache suggests. -/
def suggestedVersion (current : AppVersion) (cache : VersionCache) (betaProgram : Bool) :
    Option AppVersion :=
  (recommendedVersionUpgrade current cache.versionInfo betaProgram).map Version.version

theorem toAppVersionInfo_version (cache : VersionCache) (betaProgram : Bool) (path : Option String) :
    (toAppVersionInfo current cache betaProgram path).suggestedUpgrade.map SuggestedUpgrade.version =
      suggestedVersion current cache betaProgram := by
  simp [toAppVersionInfo, suggestedVersion, Function.comp_def]

variable {cache : VersionCache}

theorem suggestedVersion_eq_of_info_eq {cache'} {betaProgram betaProgram' : Bool} {path}
    (h : toAppVersionInfo current cache betaProgram path = toAppVersionInfo current cache' betaProgram' path) :
    suggestedVersion current cache betaProgram = suggestedVersion current cache' betaProgram' := by
  rw [← toAppVersionInfo_version cache betaProgram path, h, toAppVersionInfo_version]

theorem matches_iff_of_path (cache : VersionCache) (betaProgram : Bool) (path : String)
    (verified : List (String × AppVersion)) :
    Emission.Matches ⟨toAppVersionInfo current cache betaProgram (some path), verified⟩ ↔
      ∀ version ∈ suggestedVersion current cache betaProgram, verified.lookup path = some version := by
  constructor
  · intro h version hversion
    obtain ⟨details, hdetails, rfl⟩ := map_eq_some_iff.mp hversion
    exact h _ (map_eq_some_iff.mpr ⟨details, hdetails, rfl⟩) path rfl
  · intro h upgrade hupgrade path' hpath
    obtain ⟨details, hdetails, rfl⟩ := map_eq_some_iff.mp hupgrade
    cases hpath
    exact h details.version (map_eq_some_iff.mpr ⟨details, hdetails, rfl⟩)

/-- What is downloaded is what is suggested, and so is what has been downloaded. -/
def Paired (current : AppVersion) (router : VersionRouter) (verified : List (String × AppVersion)) :
    Prop :=
  match router.state with
  | .downloading cache version =>
    suggestedVersion current cache router.betaProgram = some version.version
  | .downloaded cache path => ∃ version,
    suggestedVersion current cache router.betaProgram = some version ∧ verified.lookup path = some version
  | .noVersion | .hasVersion _ => True

def infos (outputs : List Output) : List AppVersionInfo :=
  outputs.filterMap Output.info

/-- Version information without a path. -/
def Plain (current : AppVersion) (info : AppVersionInfo) : Prop :=
  ∃ cache betaProgram, info = toAppVersionInfo current cache betaProgram none

variable {router : VersionRouter} {verified : List (String × AppVersion)} {info : AppVersionInfo}

theorem Plain.matches (h : Plain current info) : Emission.Matches ⟨info, verified⟩ := by
  obtain ⟨cache, betaProgram, rfl⟩ := h
  intro upgrade hupgrade path hpath
  obtain ⟨version, _, rfl⟩ := map_eq_some_iff.mp hupgrade
  cases hpath

theorem mem_infos_responses {n : Nat} {info'}
    (h : info' ∈ infos (replicate n (.versionResponse info))) : info' = info := by
  obtain ⟨output, houtput, hinfo⟩ := mem_filterMap.mp h
  obtain rfl := eq_of_mem_replicate houtput
  exact (some.inj hinfo).symm

theorem infos_drop (state : State) : infos state.drop = [] := by
  cases state <;> rfl

theorem infos_append (outputs outputs' : List Output) :
    infos (outputs ++ outputs') = infos outputs ++ infos outputs' :=
  filterMap_append

theorem setBetaProgram_paired (h : Paired current router verified) (newState : Bool) :
    Paired current (router.setBetaProgram current newState).1 verified := by
  unfold setBetaProgram
  split_ifs with hsame
  · exact h
  · cases hstate : router.state with
    | noVersion => simp [Paired, State.getVersionCache]
    | hasVersion cache =>
      dsimp only [State.getVersionCache]
      split_ifs <;> simp [Paired, notifyVersionRequesters]
    | downloading cache version =>
      dsimp only [State.getVersionCache]
      split_ifs with hinfo
      · simp only [Paired, hstate] at h ⊢
        rw [← h]
        exact suggestedVersion_eq_of_info_eq hinfo
      · trivial
    | downloaded cache path =>
      dsimp only [State.getVersionCache]
      split_ifs with hinfo
      · simp only [Paired, hstate] at h ⊢
        rw [suggestedVersion_eq_of_info_eq hinfo]
        exact h
      · trivial

theorem setBetaProgram_plain (newState : Bool) :
    ∀ info ∈ infos (router.setBetaProgram current newState).2, Plain current info := by
  unfold setBetaProgram
  intro info hinfo
  split_ifs at hinfo with hsame
  · cases hinfo
  · cases hcache : router.state.getVersionCache with
    | none =>
      rw [hcache] at hinfo
      cases hinfo
    | some cache =>
      rw [hcache] at hinfo
      dsimp only at hinfo
      split_ifs at hinfo with hnew
      · cases hinfo
      · rw [infos_append, infos_drop, nil_append] at hinfo
        rcases mem_cons.mp hinfo with rfl | hinfo
        · exact ⟨cache, newState, rfl⟩
        · exact ⟨cache, newState, mem_infos_responses hinfo⟩

theorem updateApplication_paired (h : Paired current router verified) :
    Paired current (router.updateApplication current) verified := by
  unfold updateApplication
  cases hstate : router.state with
  | hasVersion cache =>
    dsimp only
    cases hupgrade : recommendedVersionUpgrade current cache.versionInfo router.betaProgram with
    | none => exact h
    | some version => exact congrArg (Option.map Version.version) hupgrade
  | noVersion | downloading _ _ | downloaded _ _ => exact h

theorem cancelUpgrade_paired (h : Paired current router verified) :
    Paired current (router.cancelUpgrade current).1 verified := by
  unfold cancelUpgrade
  cases hstate : router.state with
  | downloading _ _ | downloaded _ _ => trivial
  | noVersion | hasVersion _ => exact h

theorem cancelUpgrade_plain : ∀ info ∈ infos (router.cancelUpgrade current).2, Plain current info := by
  unfold cancelUpgrade
  intro info hinfo
  cases hstate : router.state with
  | noVersion | hasVersion _ | downloading _ _ =>
    rw [hstate] at hinfo
    cases hinfo
  | downloaded cache path =>
    rw [hstate] at hinfo
    rw [infos_append] at hinfo
    rcases mem_append.mp hinfo with hinfo | hinfo
    · exact ⟨cache, router.betaProgram, mem_infos_responses hinfo⟩
    · exact ⟨cache, router.betaProgram, mem_singleton.mp hinfo⟩

/-- A downloader that succeeds announces the version that it was started for, at its path. -/
theorem waitForUpdate_spec {router' outputs} {success : Bool}
    (h : Paired current router verified)
    (hwait : router.waitForUpdate binPath success = some (router', outputs)) :
    Paired current router' (router.verifiedBy binPath (.downloader success) ++ verified) ∧
      ∀ info ∈ infos outputs, Emission.Matches
        ⟨info, router.verifiedBy binPath (.downloader success) ++ verified⟩ := by
  unfold waitForUpdate at hwait
  cases hstate : router.state with
  | noVersion | hasVersion _ | downloaded _ _ =>
    rw [hstate] at hwait
    cases hwait
  | downloading cache version =>
    rw [hstate] at hwait
    cases success with
    | false =>
      cases hwait
      exact ⟨trivial, fun info hinfo => by cases hinfo⟩
    | true =>
      cases hwait
      have hlookup : (router.verifiedBy binPath (.downloader true) ++ verified).lookup
          (binPath version.version) = some version.version := by
        simp [verifiedBy, hstate]
      refine ⟨⟨version.version, ?_, hlookup⟩, ?_⟩
      · simpa only [Paired, hstate] using h
      · intro info hinfo upgrade hupgrade path hpath
        obtain rfl := mem_singleton.mp hinfo
        cases hupgrade
        cases hpath
        exact hlookup

theorem receiveVersion_paired (h : Paired current router verified) (cache : VersionCache) :
    Paired current (router.receiveVersion current cache).1 verified := by
  unfold receiveVersion onNewVersion
  cases hstate : router.state with
  | noVersion | hasVersion _ => trivial
  | downloading prev version =>
    dsimp only
    split_ifs with hinfo
    · trivial
    · simp only [Paired, hstate] at h
      simp only [Paired, notifyVersionRequesters]
      rw [← h]
      exact (suggestedVersion_eq_of_info_eq (not_not.mp hinfo)).symm
  | downloaded prev path =>
    dsimp only
    split_ifs with hinfo
    · trivial
    · simp only [Paired, hstate] at h
      simp only [Paired, notifyVersionRequesters]
      rw [← suggestedVersion_eq_of_info_eq (not_not.mp hinfo)]
      exact h

def State.installerPath : State → Option String
  | downloaded _ path => some path
  | noVersion | hasVersion _ | downloading _ _ => none

theorem onNewVersion_info (cache : VersionCache) :
    (router.onNewVersion current cache).2.2.appVersionInfo =
      toAppVersionInfo current cache router.betaProgram router.state.installerPath := by
  unfold onNewVersion
  cases hstate : router.state with
  | noVersion | hasVersion _ => rfl
  | downloading _ _ | downloaded _ _ =>
    dsimp only
    split_ifs <;> rfl

theorem infos_onNewVersion (cache : VersionCache) : infos (router.onNewVersion current cache).2.1 = [] := by
  unfold onNewVersion
  cases hstate : router.state with
  | noVersion | hasVersion _ => rfl
  | downloading _ _ | downloaded _ _ =>
    dsimp only
    split_ifs <;> rfl

theorem infos_receiveVersion (current : AppVersion) (router : VersionRouter) (cache : VersionCache) :
    ∀ info ∈ infos (router.receiveVersion current cache).2,
      info = toAppVersionInfo current cache router.betaProgram router.state.installerPath := by
  unfold receiveVersion
  intro info hinfo
  dsimp only at hinfo
  rw [infos_append, infos_append, infos_onNewVersion, nil_append] at hinfo
  rw [← onNewVersion_info cache]
  rcases mem_append.mp hinfo with hinfo | hinfo
  · exact mem_infos_responses hinfo
  · split_ifs at hinfo
    · exact mem_singleton.mp hinfo
    · cases hinfo

theorem mem_infos_receiveVersion {prev path}
    (hstate : router.state = .downloaded prev path)
    (hnew : toAppVersionInfo current prev router.betaProgram (some path) ≠
      toAppVersionInfo current cache router.betaProgram (some path)) :
    toAppVersionInfo current cache router.betaProgram (some path) ∈
      infos (router.receiveVersion current cache).2 := by
  have hevent : (router.onNewVersion current cache).2.2 =
      ⟨toAppVersionInfo current cache router.betaProgram (some path), true⟩ := by
    unfold onNewVersion
    rw [hstate]
    dsimp only
    rw [if_pos hnew]
  unfold receiveVersion
  dsimp only
  rw [infos_append, hevent]
  exact mem_append_right _ (mem_singleton_self _)

theorem receiveVersion_matches_iff (h : Paired current router verified) (cache : VersionCache)
    (emitted : List Emission) :
    (∀ info ∈ infos (router.receiveVersion current cache).2, Emission.Matches ⟨info, verified⟩) ↔
      Agrees current ⟨router, verified, emitted⟩ (.newVersion cache) := by
  have hinfos := infos_receiveVersion current router cache
  cases hstate : router.state with
  | noVersion | hasVersion _ | downloading _ _ =>
    rw [hstate] at hinfos
    simp only [Agrees, hstate, iff_true]
    intro info hinfo
    exact Plain.matches ⟨cache, router.betaProgram, hinfos info hinfo⟩
  | downloaded prev path =>
    simp only [Paired, hstate] at h
    obtain ⟨version, hversion, hlookup⟩ := h
    obtain ⟨known, hknown, rfl⟩ := map_eq_some_iff.mp hversion
    simp only [Agrees, hstate]
    constructor
    · intro hmatches upgrade hupgrade
      refine ⟨known, hknown, ?_⟩
      have hsuggested : suggestedVersion current cache router.betaProgram = some upgrade.version :=
        congrArg (Option.map Version.version) hupgrade
      -- Without news there may be nobody to send to, but then the suggestion has not changed.
      by_cases hnew : toAppVersionInfo current prev router.betaProgram (some path) =
          toAppVersionInfo current cache router.betaProgram (some path)
      · rw [suggestedVersion_eq_of_info_eq hnew, hsuggested] at hversion
        exact (some.inj hversion).symm
      · have hmatch := hmatches _ (mem_infos_receiveVersion hstate hnew)
        rw [matches_iff_of_path] at hmatch
        have hlookup' := hmatch upgrade.version hsuggested
        rw [hlookup] at hlookup'
        exact some.inj hlookup'
    · intro hagrees info hinfo
      rw [hinfos info hinfo, hstate]
      refine (matches_iff_of_path cache router.betaProgram path verified).mpr fun version hversion => ?_
      obtain ⟨upgrade, hupgrade, rfl⟩ := map_eq_some_iff.mp hversion
      obtain ⟨known', hknown', heq⟩ := hagrees upgrade hupgrade
      rw [hknown] at hknown'
      cases hknown'
      rw [hlookup, heq]

variable {s s' : Routed} {message : Message}

theorem step_eq_some_iff : (system current binPath).step s message = some s' ↔ ∃ router outputs,
      s.router.runStep current binPath message = some (router, outputs) ∧
        s' = ⟨router, s.router.verifiedBy binPath message ++ s.verified,
          (infos outputs).map (⟨·, s.router.verifiedBy binPath message ++ s.verified⟩) ++ s.emitted⟩ := by
  change Option.map _ _ = some s' ↔ _
  rw [map_eq_some_iff]
  constructor
  · rintro ⟨⟨router, outputs⟩, hstep, rfl⟩
    exact ⟨router, outputs, hstep, rfl⟩
  · rintro ⟨router, outputs, hstep, rfl⟩
    exact ⟨(router, outputs), hstep, rfl⟩

/-- One step keeps installers and suggested versions paired, and what it sends matches exactly if the
message agrees. -/
theorem runStep_spec {result} (h : Paired current router verified)
    (emitted : List Emission) (hstep : router.runStep current binPath message = some result) :
    Paired current result.1 (router.verifiedBy binPath message ++ verified) ∧
      ((∀ info ∈ infos result.2, Emission.Matches ⟨info, router.verifiedBy binPath message ++ verified⟩) ↔
          Agrees current ⟨router, verified, emitted⟩ message) := by
  cases message with
  | newVersion cache =>
    cases hstep
    exact ⟨receiveVersion_paired h cache, receiveVersion_matches_iff h cache emitted⟩
  | setBetaProgram state =>
    cases hstep
    refine ⟨setBetaProgram_paired h state, iff_of_true (fun info hinfo => ?_) trivial⟩
    exact (setBetaProgram_plain state info hinfo).matches
  | getLatestVersion updaterRuns =>
    cases hstep
    cases updaterRuns <;> exact ⟨h, iff_of_true (fun info hinfo => by cases hinfo) trivial⟩
  | updateApplication =>
    cases hstep
    exact ⟨updateApplication_paired h, iff_of_true (fun info hinfo => by cases hinfo) trivial⟩
  | cancelUpdate =>
    cases hstep
    refine ⟨cancelUpgrade_paired h, iff_of_true (fun info hinfo => ?_) trivial⟩
    exact (cancelUpgrade_plain info hinfo).matches
  | downloader success =>
    obtain ⟨hpaired, hmatches⟩ := waitForUpdate_spec h hstep
    exact ⟨hpaired, iff_of_true hmatches trivial⟩

variable {h : List Message}

theorem run_paired (hrun : (system current binPath).Run h s) : Paired current s.router s.verified := by
  refine hrun.invariant (I := fun _ s => Paired current s.router s.verified) ?_ ?_
  · rintro s ⟨betaProgram, rfl⟩
    trivial
  · intro _ s message s' _ hpaired hstep
    obtain ⟨router, outputs, hround, rfl⟩ := step_eq_some_iff.mp hstep
    exact (runStep_spec hpaired s.emitted hround).1

theorem emitted_matches_step (hrun : (system current binPath).Run h s)
    (hstep : (system current binPath).step s message = some s') :
    (∀ emission ∈ s'.emitted, emission.Matches) ↔
      Agrees current s message ∧ ∀ emission ∈ s.emitted, emission.Matches := by
  obtain ⟨router, outputs, hround, rfl⟩ := step_eq_some_iff.mp hstep
  rw [← (runStep_spec (run_paired hrun) s.emitted hround).2]
  simp only [List.mem_append, List.mem_map, or_imp, forall_and, forall_exists_index, and_imp,
    forall_apply_eq_imp_iff₂]

/-- All version information that a run of the router sends matches the installer at its path, exactly if
no response that arrives while there is a verified installer suggests another version. -/
theorem installer_matches_iff (current : AppVersion) (binPath : AppVersion → String)
    {h : List Message} {s : Routed} (hrun : (system current binPath).Run h s) :
    (∀ emission ∈ s.emitted, emission.Matches) ↔
      (system current binPath).RunWhere (fun _ s message => Agrees current s message) h s := by
  constructor
  · intro hmatches
    induction hrun with
    | init hinit => exact .init hinit
    | step hrun _ hstep ih =>
      obtain ⟨hagrees, hmatches⟩ := (emitted_matches_step hrun hstep).mp hmatches
      exact .step (ih hmatches) hagrees hstep
  · intro hwhere
    refine hwhere.invariant (I := fun _ s => ∀ emission ∈ s.emitted, emission.Matches) ?_ ?_
    · rintro s ⟨betaProgram, rfl⟩ emission hemission
      cases hemission
    · intro _ s message s' hrun hagrees hmatches hstep
      exact (emitted_matches_step hrun.run hstep).mpr ⟨hagrees, hmatches⟩

namespace Sample

def release (incremental : Nat) : AppVersion :=
  ⟨2025, incremental, none, none⟩

def suggesting (incremental : Nat) (changelog : String) : VersionCache :=
  { cacheVersion := release 9
    currentVersionSupported := true
    versionInfo := ⟨⟨release incremental, [], 0, changelog, Vector.replicate 32 0⟩, none⟩
    lastPlatformHeaderCheck := 0
    metadataVersion := 0
    etag := none }

def pkgPath (version : AppVersion) : String :=
  if version = release 10 then "mullvad-2025.10.pkg" else "mullvad-2025.11.pkg"

/-- The suggested version and the path in version information. -/
def suggestion (emission : Emission) : Option (AppVersion × Option String) :=
  emission.info.suggestedUpgrade.map fun upgrade => (upgrade.version, upgrade.verifiedInstallerPath)

end Sample

/-- After the download, a response changes the changelog of the version that was downloaded. -/
theorem installer_matches_same_version :
    ∃ s, (system (Sample.release 9) Sample.pkgPath).Run
        [.newVersion (Sample.suggesting 10 "b"), .downloader true, .updateApplication,
          .newVersion (Sample.suggesting 10 "a")] s ∧
      s.emitted.map Sample.suggestion = [some (Sample.release 10, some "mullvad-2025.10.pkg"),
        some (Sample.release 10, some "mullvad-2025.10.pkg"), some (Sample.release 10, none)] ∧
      ∀ emission ∈ s.emitted, emission.Matches := by
  have hagrees : ∃ s, (system (Sample.release 9) Sample.pkgPath).RunWhere
        (fun _ s message => Agrees (Sample.release 9) s message)
        [.newVersion (Sample.suggesting 10 "b"), .downloader true, .updateApplication,
          .newVersion (Sample.suggesting 10 "a")] s ∧
      s.emitted.map Sample.suggestion = [some (Sample.release 10, some "mullvad-2025.10.pkg"),
        some (Sample.release 10, some "mullvad-2025.10.pkg"), some (Sample.release 10, none)] := by
    refine ⟨_, .step (.step (.step (.step (.init ⟨false, rfl⟩) trivial rfl) trivial rfl) trivial rfl) ?_
      rfl, rfl⟩
    rintro upgrade ⟨⟩
    exact ⟨_, rfl, rfl⟩
  obtain ⟨s, hwhere, hemitted⟩ := hagrees
  exact ⟨s, hwhere.run, hemitted, (installer_matches_iff _ _ hwhere.run).mpr hwhere⟩

/-- After the download of one version, a response suggests the next one, which is then announced with
the installer that was downloaded. -/
theorem installer_of_other_version :
    ∃ s, (system (Sample.release 9) Sample.pkgPath).Run
        [.newVersion (Sample.suggesting 11 "b"), .downloader true, .updateApplication,
          .newVersion (Sample.suggesting 10 "a")] s ∧
      s.emitted.map Sample.suggestion = [some (Sample.release 11, some "mullvad-2025.10.pkg"),
        some (Sample.release 10, some "mullvad-2025.10.pkg"), some (Sample.release 10, none)] ∧
      ¬ ∀ emission ∈ s.emitted, emission.Matches := by
  refine ⟨_, .step (.step (.step (.step (.init ⟨false, rfl⟩) rfl) rfl) rfl) rfl, rfl, fun h => ?_⟩
  have hlookup : some (Sample.release 10) = some (Sample.release 11) :=
    h _ (mem_cons_self ..) _ rfl _ rfl
  exact absurd hlookup (by decide)

end VersionRouter

end MullvadVpn.Update
