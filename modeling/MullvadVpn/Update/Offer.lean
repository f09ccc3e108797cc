import MullvadVpn.Systems.Fallible
import MullvadVpn.Systems.Maximum
import MullvadVpn.Update.Format

/-!
The choice of the versions to offer (`VersionInfo::try_from_response`): of the releases that are rolled
out to the client and have an installer for it, the greatest stable one, and the greatest beta one that
is newer. The maxima are taken with a comparison that is partial and treats versions that cannot be
compared as equal. Since development builds are left out and no version occurs twice, it is the order
of keys, so the choice does not depend on the order in which the releases are listed.
-/

namespace MullvadVpn.Update

open Systems Fallible List

variable {release : Release} {version : Version}

structure VersionParameters where
  architecture : Architecture
  rollout : Rollout
  allowEmpty : Bool

inductive OfferError where
  | duplicateVersions
  | invalidChecksumHex
  | invalidChecksumLength
  | noStableVersion
  deriving DecidableEq

def OfferError.message : OfferError → String
  | duplicateVersions => "API response contains multiple release for the same version"
  | invalidChecksumHex => "Invalid checksum hex"
  | invalidChecksumLength => "Invalid checksum length"
  | noStableVersion => "No stable version found"

section Model

-- `hex::decode`
variable (decode : String → Option (List UInt8))

def checksum (sha256 : String) : Except OfferError Sha256 := do
  let bytes ← okOr (decode sha256) .invalidChecksumHex
  if h : bytes.length = 32 then return ⟨bytes.toArray, h⟩
  else throw .invalidChecksumLength

/-- The version of a release for the client, if there is one. -/
def availableVersion (params : VersionParameters) (release : Release) :
    Option (Except OfferError Version) :=
  -- Without installers, as on Linux, the version is available anyway.
  if release.installers.isEmpty && params.allowEmpty then
    some (.ok
      { version := release.version
        size := 0
        urls := []
        changelog := release.changelog
        sha256 := Vector.replicate 32 0 })
  else
    (release.installers.find? fun installer => params.architecture == installer.architecture).map
      fun installer => do
        let sha256 ← checksum decode installer.sha256
        return {
          version := release.version
          size := installer.size
          urls := installer.urls
          changelog := release.changelog
          sha256 }

/-- The releases that are rolled out to the client, without development builds. -/
def rolledOut (params : VersionParameters) (releases : List Release) : List Release :=
  (releases.filter fun release => params.rollout ≤ release.rollout).filter fun release => !release.version.isDev

def availableVersions (params : VersionParameters) (releases : List Release) :
    Except OfferError (List Version) :=
  tryCollect ((rolledOut params releases).filterMap (availableVersion decode params))

def compareVersions (a b : Version) : Ordering :=
  (a.version.partialCmp b.version).getD .eq

def AppVersion.isBeta (version : AppVersion) : Bool :=
  match version.preStable with
  | some (.beta _) => true
  | some (.alpha _) | none => false

def latestStable (available : List Version) : Option Version :=
  maxBy compareVersions (available.filter fun release => release.version.preStable.isNone)

/-- The latest beta version that is newer than the stable one. -/
def latestBeta (available : List Version) (stable : Version) : Option Version :=
  maxBy compareVersions ((available.filter fun release => release.version.isBeta).filter
    fun release => release.version.gt stable.version)

def tryFromResponse (params : VersionParameters) (response : Response) :
    Except OfferError VersionInfo := do
  ensure (response.releases.map Release.version).Nodup .duplicateVersions
  let available ← availableVersions decode params response.releases
  let stable ← okOr (latestStable available) .noStableVersion
  return { stable, beta := latestBeta available stable }

/-- The release may be offered to the client. -/
structure Eligible (params : VersionParameters) (release : Release) : Prop where
  rollout : params.rollout ≤ release.rollout
  notDev : release.version.isDev = false
  installer : (release.installers = [] ∧ params.allowEmpty = true) ∨
    ∃ installer ∈ release.installers, installer.architecture = params.architecture

/-- The details are those of the release, with its first installer for the client. -/
inductive Describes (params : VersionParameters) (release : Release) : Version → Prop
  | empty (hinstallers : release.installers = []) (hallow : params.allowEmpty = true) :
      Describes params release ⟨release.version, [], 0, release.changelog, Vector.replicate 32 0⟩
  | installer {installer : Installer} {sha256 : Sha256} (hinstaller : release.installers.find?
        (fun installer => params.architecture == installer.architecture) = some installer)
      (hchecksum : checksum decode installer.sha256 = .ok sha256) :
      Describes params release ⟨release.version, installer.urls, installer.size, release.changelog, sha256⟩

/-- The release is newer than all others that have the property. -/
structure Greatest (P : Release → Prop) (releases : List Release) (release : Release) : Prop where
  mem : release ∈ releases
  holds : P release
  gt : ∀ other ∈ releases, P other → other.version ≠ release.version → release.version.gt other.version = true

/-- The offer is the greatest eligible stable release, with the greatest eligible beta release that is
newer, if there is one. -/
structure IsOffer (params : VersionParameters) (releases : List Release) (info : VersionInfo) : Prop where
  stable : ∃ release, Describes decode params release info.stable ∧
    Greatest (fun release => Eligible params release ∧ release.version.preStable = none) releases release
  beta : ∀ beta ∈ info.beta, ∃ release, Describes decode params release beta ∧
    Greatest (fun release => Eligible params release ∧ release.version.isBeta = true ∧
      release.version.gt info.stable.version = true) releases release
  noBeta : info.beta = none → ∀ release ∈ releases, Eligible params release →
    release.version.isBeta = true → release.version.gt info.stable.version = false

def ValidChecksums (releases : List Release) : Prop :=
  ∀ release ∈ releases, ∀ installer ∈ release.installers, ∃ sha256, checksum decode installer.sha256 = .ok sha256

end Model

variable {decode : String → Option (List UInt8)}

section Available

variable {params : VersionParameters} {releases : List Release} {available : List Version}

theorem Describes.version_eq (h : Describes decode params release version) : version.version = release.version := by
  cases h <;> rfl

theorem mem_rolledOut : release ∈ rolledOut params releases ↔
    release ∈ releases ∧ params.rollout ≤ release.rollout ∧ release.version.isDev = false := by
  simp only [rolledOut, mem_filter, decide_eq_true_eq, Bool.not_eq_true', and_assoc]

theorem availableVersion_eq_some_iff :
    availableVersion decode params release = some (.ok version) ↔ Describes decode params release version := by
  unfold availableVersion
  split_ifs with hempty
  · simp only [Bool.and_eq_true, List.isEmpty_iff] at hempty
    constructor
    · intro h
      cases h
      exact .empty hempty.1 hempty.2
    · intro h
      cases h with
      | empty => rfl
      | installer hinstaller _ =>
        rw [hempty.1] at hinstaller
        cases hinstaller
  · rw [Option.map_eq_some_iff]
    constructor
    · rintro ⟨installer, hinstaller, h⟩
      obtain ⟨sha256, hchecksum, h⟩ := bind_eq_ok.mp h
      cases h
      exact .installer hinstaller hchecksum
    · intro h
      cases h with
      | empty hinstallers hallow => simp [hinstallers, hallow] at hempty
      | installer hinstaller hchecksum => exact ⟨_, hinstaller, bind_eq_ok.mpr ⟨_, hchecksum, rfl⟩⟩

theorem availableVersion_isSome (h : Eligible params release) :
    ∃ result, availableVersion decode params release = some result := by
  unfold availableVersion
  split_ifs with hempty
  · exact ⟨_, rfl⟩
  · rcases h.installer with ⟨hinstallers, hallow⟩ | ⟨installer, hmem, harchitecture⟩
    · simp [hinstallers, hallow] at hempty
    · have hsome : (release.installers.find?
          fun installer => params.architecture == installer.architecture).isSome := by
        rw [find?_isSome]
        exact ⟨installer, hmem, beq_iff_eq.mpr harchitecture.symm⟩
      obtain ⟨found, hfound⟩ := Option.isSome_iff_exists.mp hsome
      rw [hfound]
      exact ⟨_, rfl⟩

theorem Describes.eligible (h : Describes decode params release version)
    (hmem : release ∈ rolledOut params releases) : Eligible params release := by
  obtain ⟨_, hrollout, hdev⟩ := mem_rolledOut.mp hmem
  refine ⟨hrollout, hdev, ?_⟩
  cases h with
  | empty hinstallers hallow => exact .inl ⟨hinstallers, hallow⟩
  | installer hinstaller _ =>
    have harchitecture := find?_some hinstaller
    exact .inr ⟨_, mem_of_find?_eq_some hinstaller, (beq_iff_eq.mp harchitecture).symm⟩

theorem ValidChecksums.availableVersions (h : ValidChecksums decode releases) (params : VersionParameters) :
    ∃ available, availableVersions decode params releases = .ok available := by
  refine tryCollect_of_forall_ok fun result hresult => ?_
  obtain ⟨release, hrelease, hresult⟩ := mem_filterMap.mp hresult
  unfold availableVersion at hresult
  split_ifs at hresult with hempty
  · exact ⟨_, (Option.some.inj hresult).symm⟩
  · obtain ⟨installer, hinstaller, rfl⟩ := Option.map_eq_some_iff.mp hresult
    obtain ⟨sha256, hchecksum⟩ := h release (mem_rolledOut.mp hrelease).1 installer
      (mem_of_find?_eq_some hinstaller)
    exact ⟨_, bind_eq_ok.mpr ⟨sha256, hchecksum, rfl⟩⟩

variable (h : availableVersions decode params releases = .ok available)

include h

theorem mem_available : version ∈ available ↔ ∃ release ∈ releases, Eligible params release ∧
      Describes decode params release version := by
  have hlist := tryCollect_eq_ok.mp h
  have hmem : version ∈ available ↔
      .ok version ∈ (rolledOut params releases).filterMap (availableVersion decode params) := by
    rw [hlist, mem_map]
    simp
  rw [hmem, mem_filterMap]
  constructor
  · rintro ⟨release, hrelease, hversion⟩
    have hdescribes := availableVersion_eq_some_iff.mp hversion
    exact ⟨release, (mem_rolledOut.mp hrelease).1, hdescribes.eligible hrelease, hdescribes⟩
  · rintro ⟨release, hrelease, heligible, hdescribes⟩
    exact ⟨release, mem_rolledOut.mpr ⟨hrelease, heligible.rollout, heligible.notDev⟩,
      availableVersion_eq_some_iff.mpr hdescribes⟩

theorem exists_describes (hmem : release ∈ releases) (heligible : Eligible params release) :
    ∃ version, Describes decode params release version := by
  obtain ⟨result, hresult⟩ := availableVersion_isSome heligible
  have hlist := tryCollect_eq_ok.mp h
  have hfilter : result ∈ (rolledOut params releases).filterMap (availableVersion decode params) :=
    mem_filterMap.mpr ⟨release, mem_rolledOut.mpr ⟨hmem, heligible.rollout, heligible.notDev⟩, hresult⟩
  rw [hlist] at hfilter
  obtain ⟨version, _, rfl⟩ := mem_map.mp hfilter
  exact ⟨version, availableVersion_eq_some_iff.mp hresult⟩

theorem isDev_of_mem_available (hmem : version ∈ available) : version.version.isDev = false := by
  obtain ⟨release, _, heligible, hdescribes⟩ := (mem_available h).mp hmem
  rw [hdescribes.version_eq]
  exact heligible.notDev

theorem comparesBy_key : ComparesBy compareVersions (fun version => version.version.key) available := by
  intro x hx y hy
  unfold compareVersions
  rw [AppVersion.partialCmp_of_not_dev (isDev_of_mem_available h hx) (isDev_of_mem_available h hy)]
  exact AppVersion.releaseOrdering_eq_gt_iff x.version y.version

theorem injOn_key (hunique : (releases.map Release.version).Nodup) :
    Set.InjOn (fun version : Version => version.version.key) {version | version ∈ available} := by
  intro x hx y hy heq
  obtain ⟨release, hrelease, _, hx'⟩ := (mem_available h).mp hx
  obtain ⟨release', hrelease', _, hy'⟩ := (mem_available h).mp hy
  have hversion : x.version = y.version := AppVersion.key_injOn_not_dev
    (isDev_of_mem_available h hx) (isDev_of_mem_available h hy) heq
  rw [hx'.version_eq, hy'.version_eq] at hversion
  -- Equal versions come from one release, since no version is listed twice.
  obtain rfl := inj_on_of_nodup_map hunique hrelease hrelease' hversion
  have hsame : availableVersion decode params release = some (.ok y) := availableVersion_eq_some_iff.mpr hy'
  rw [availableVersion_eq_some_iff.mpr hx'] at hsame
  cases hsame
  rfl

end Available

section Greatest

variable {params : VersionParameters} {releases : List Release} {available candidates : List Version}
  {P : AppVersion → Prop}

theorem mem_stableCandidates (version : Version) :
    version ∈ available.filter (fun release => release.version.preStable.isNone) ↔
      version ∈ available ∧ version.version.preStable = none := by
  rw [mem_filter, Option.isNone_iff_eq_none]

theorem mem_betaCandidates (stable version : Version) :
    version ∈ (available.filter fun release => release.version.isBeta).filter
        (fun release => release.version.gt stable.version) ↔
      version ∈ available ∧ version.version.isBeta = true ∧ version.version.gt stable.version = true := by
  rw [mem_filter, mem_filter, and_assoc]

variable (h : availableVersions decode params releases = .ok available)

include h

section

variable (hcandidates : ∀ version, version ∈ candidates ↔ version ∈ available ∧ P version.version)

include hcandidates

/-- The greatest candidate describes the greatest of the eligible releases with the property. -/
theorem greatest_of_maxBy (hmax : maxBy compareVersions candidates = some version) :
    ∃ release, Describes decode params release version ∧
      Greatest (fun release => Eligible params release ∧ P release.version) releases release := by
  have hcompares := (comparesBy_key h).mono fun version hmem => ((hcandidates version).mp hmem).1
  have hmaximum := maxBy_isMaximum hcompares hmax
  obtain ⟨hmem, hP⟩ := (hcandidates version).mp hmaximum.mem
  obtain ⟨release, hrelease, heligible, hdescribes⟩ := (mem_available h).mp hmem
  rw [hdescribes.version_eq] at hP
  refine ⟨release, hdescribes, hrelease, ⟨heligible, hP⟩, fun other hother ⟨hother', hP'⟩ hne => ?_⟩
  obtain ⟨version', hdescribes'⟩ := exists_describes h hother hother'
  have hmem' : version' ∈ candidates := by
    refine (hcandidates version').mpr ⟨(mem_available h).mpr ⟨other, hother, hother', hdescribes'⟩, ?_⟩
    rw [hdescribes'.version_eq]
    exact hP'
  have hle := hmaximum.le version' hmem'
  rw [hdescribes.version_eq, hdescribes'.version_eq] at hle
  rw [AppVersion.gt_iff heligible.notDev hother'.notDev]
  exact lt_of_le_of_ne hle fun heq =>
    hne (AppVersion.key_injOn_not_dev hother'.notDev heligible.notDev heq)

theorem not_of_maxBy_eq_none (hnone : maxBy compareVersions candidates = none)
    (hrelease : release ∈ releases) (heligible : Eligible params release) : ¬P release.version := by
  intro hP
  obtain ⟨version, hdescribes⟩ := exists_describes h hrelease heligible
  rw [← hdescribes.version_eq] at hP
  have hmem := (hcandidates version).mpr ⟨(mem_available h).mpr ⟨release, hrelease, heligible, hdescribes⟩, hP⟩
  rw [maxBy_eq_none_iff.mp hnone] at hmem
  cases hmem

end

/-- The greatest candidate does not depend on the order of the available versions. -/
theorem maxBy_candidates_perm (hunique : (releases.map Release.version).Nodup)
    (hsub : ∀ version ∈ candidates, version ∈ available) {candidates' : List Version}
    (hcandidates : candidates.Perm candidates') :
    maxBy compareVersions candidates' = maxBy compareVersions candidates :=
  maxBy_perm ((comparesBy_key h).mono hsub) ((injOn_key h hunique).mono hsub) hcandidates

end Greatest

section Offer

variable {params : VersionParameters} {response response' : Response} {info : VersionInfo}

theorem tryFromResponse_eq_ok_iff : tryFromResponse decode params response = .ok info ↔
      (response.releases.map Release.version).Nodup ∧ ∃ available,
        availableVersions decode params response.releases = .ok available ∧
        latestStable available = some info.stable ∧ info.beta = latestBeta available info.stable := by
  simp only [tryFromResponse, bind_eq_ok, ensure_eq_ok, okOr_eq_ok]
  constructor
  · rintro ⟨_, hunique, available, havailable, stable, hstable, hinfo⟩
    cases hinfo
    exact ⟨hunique, available, havailable, hstable, rfl⟩
  · rintro ⟨hunique, available, havailable, hstable, hbeta⟩
    refine ⟨⟨⟩, hunique, available, havailable, info.stable, hstable, ?_⟩
    rw [← hbeta]
    rfl

theorem tryFromResponse_isOffer (h : tryFromResponse decode params response = .ok info) :
    IsOffer decode params response.releases info := by
  obtain ⟨_, available, havailable, hstable, hbeta⟩ := tryFromResponse_eq_ok_iff.mp h
  refine ⟨greatest_of_maxBy (P := fun version => version.preStable = none) havailable
    mem_stableCandidates hstable, fun beta hmem => ?_, fun hnone release hrelease heligible hisBeta => ?_⟩
  · rw [hbeta] at hmem
    exact greatest_of_maxBy
      (P := fun version => version.isBeta = true ∧ version.gt info.stable.version = true) havailable
      (mem_betaCandidates info.stable) hmem
  · rw [hnone] at hbeta
    have hnot := not_of_maxBy_eq_none
      (P := fun version => version.isBeta = true ∧ version.gt info.stable.version = true) havailable
      (mem_betaCandidates info.stable) hbeta.symm hrelease heligible
    exact Bool.eq_false_iff.mpr fun hgt => hnot ⟨hisBeta, hgt⟩

theorem tryFromResponse_ok_of_perm (h : tryFromResponse decode params response = .ok info)
    (hperm : response.releases.Perm response'.releases) :
    tryFromResponse decode params response' = .ok info := by
  obtain ⟨hunique, available, havailable, hstable, hbeta⟩ := tryFromResponse_eq_ok_iff.mp h
  obtain ⟨available', havailable', hperm'⟩ :=
    tryCollect_perm (((hperm.filter _).filter _).filterMap _) havailable
  refine tryFromResponse_eq_ok_iff.mpr ⟨(hperm.map _).nodup_iff.mp hunique, available', havailable', ?_, ?_⟩
  · rw [← hstable]
    exact maxBy_candidates_perm havailable hunique (fun version hmem => (mem_filter.mp hmem).1)
      (hperm'.filter _)
  · rw [hbeta]
    exact (maxBy_candidates_perm havailable hunique
      (fun version hmem => (mem_filter.mp (mem_filter.mp hmem).1).1)
      ((hperm'.filter _).filter _)).symm

theorem tryFromResponse_duplicate (h : ¬(response.releases.map Release.version).Nodup) :
    tryFromResponse decode params response = .error .duplicateVersions := by
  unfold tryFromResponse ensure
  rw [if_neg h]
  rfl

theorem tryFromResponse_error (hvalid : ValidChecksums decode response.releases) {e : OfferError}
    (h : tryFromResponse decode params response = .error e) :
    e = if (response.releases.map Release.version).Nodup then .noStableVersion
      else .duplicateVersions := by
  split_ifs with hunique
  · obtain ⟨available, havailable⟩ := hvalid.availableVersions params
    cases hstable : latestStable available with
    | none =>
      simp only [tryFromResponse, ensure, if_pos hunique, havailable, bind, Except.bind, hstable, okOr] at h
      cases h
      rfl
    | some stable =>
      have hok : tryFromResponse decode params response = .ok ⟨stable, latestBeta available stable⟩ :=
        tryFromResponse_eq_ok_iff.mpr ⟨hunique, available, havailable, hstable, rfl⟩
      rw [hok] at h
      cases h
  · rw [tryFromResponse_duplicate hunique] at h
    cases h
    rfl

theorem exists_offer (hvalid : ValidChecksums decode response.releases)
    (hunique : (response.releases.map Release.version).Nodup) (hrelease : release ∈ response.releases)
    (heligible : Eligible params release) (hstable : release.version.preStable = none) :
    ∃ info, tryFromResponse decode params response = .ok info := by
  obtain ⟨available, havailable⟩ := hvalid.availableVersions params
  cases hmax : latestStable available with
  | none =>
    exact absurd hstable (not_of_maxBy_eq_none (P := fun version => version.preStable = none) havailable
      mem_stableCandidates hmax hrelease heligible)
  | some stable =>
    exact ⟨⟨stable, latestBeta available stable⟩,
      tryFromResponse_eq_ok_iff.mpr ⟨hunique, available, havailable, hmax, rfl⟩⟩

theorem stable_of_rollout_le {rollout : Rollout} (h : tryFromResponse decode params response = .ok info)
    (hvalid : ValidChecksums decode response.releases) (hrollout : rollout ≤ params.rollout) :
    ∃ info', tryFromResponse decode { params with rollout } response = .ok info' ∧
      (info'.stable.version = info.stable.version ∨ info'.stable.version.gt info.stable.version = true) := by
  obtain ⟨release, hdescribes, hgreatest⟩ := (tryFromResponse_isOffer h).stable
  obtain ⟨heligible, hstable⟩ := hgreatest.holds
  have heligible' : Eligible { params with rollout } release :=
    ⟨Rollout.le_trans hrollout heligible.rollout, heligible.notDev, heligible.installer⟩
  obtain ⟨info', hinfo'⟩ := exists_offer hvalid (tryFromResponse_eq_ok_iff.mp h).1 hgreatest.mem
    heligible' hstable
  obtain ⟨release', hdescribes', hgreatest'⟩ := (tryFromResponse_isOffer hinfo').stable
  refine ⟨info', hinfo', ?_⟩
  rw [hdescribes.version_eq, hdescribes'.version_eq]
  -- What was offered before is still eligible, so the offer is at least that.
  by_cases heq : release.version = release'.version
  · exact .inl heq.symm
  · exact .inr (hgreatest'.gt release hgreatest.mem ⟨heligible', hstable⟩ heq)

theorem ValidChecksums.perm {releases releases' : List Release} (h : ValidChecksums decode releases)
    (hperm : releases.Perm releases') : ValidChecksums decode releases' :=
  fun release hrelease => h release (hperm.mem_iff.mpr hrelease)

theorem tryFromResponse_eq_of_perm (hvalid : ValidChecksums decode response.releases)
    (hperm : response.releases.Perm response'.releases) :
    tryFromResponse decode params response' = tryFromResponse decode params response := by
  cases h : tryFromResponse decode params response with
  | ok info => exact tryFromResponse_ok_of_perm h hperm
  | error e =>
    cases h' : tryFromResponse decode params response' with
    | ok info =>
      rw [tryFromResponse_ok_of_perm h' hperm.symm] at h
      cases h
    | error e' =>
      have hunique := (hperm.map Release.version).nodup_iff
      rw [tryFromResponse_error hvalid h, tryFromResponse_error (hvalid.perm hperm) h']
      simp only [hunique]

end Offer

/-- Duplicate versions are rejected for all clients. Otherwise the offer consists of the greatest
releases that are eligible, whatever the order in which the releases are listed, and a lower threshold
does not lead to a lower stable version. -/
theorem tryFromResponse_offers (decode : String → Option (List UInt8)) (response : Response) :
    (¬(response.releases.map Release.version).Nodup →
      ∀ params, tryFromResponse decode params response = .error .duplicateVersions) ∧
    ∀ params : VersionParameters,
      (∀ info, tryFromResponse decode params response = .ok info → IsOffer decode params response.releases info) ∧
      (∀ response' : Response, response.releases.Perm response'.releases →
        (tryFromResponse decode params response').toOption = (tryFromResponse decode params response).toOption ∧
        (ValidChecksums decode response.releases →
          tryFromResponse decode params response' = tryFromResponse decode params response)) ∧
      ∀ (rollout : Rollout) (info : VersionInfo), rollout ≤ params.rollout →
        ValidChecksums decode response.releases → tryFromResponse decode params response = .ok info →
        ∃ info', tryFromResponse decode { params with rollout } response = .ok info' ∧
          (info'.stable.version = info.stable.version ∨
            info'.stable.version.gt info.stable.version = true) := by
  refine ⟨fun hduplicate params => tryFromResponse_duplicate hduplicate, fun params =>
    ⟨fun info => tryFromResponse_isOffer, fun response' hperm =>
      ⟨?_, fun hvalid => tryFromResponse_eq_of_perm hvalid hperm⟩, ?_⟩⟩
  · cases h : tryFromResponse decode params response with
    | ok info => rw [tryFromResponse_ok_of_perm h hperm]
    | error e =>
      cases h' : tryFromResponse decode params response' with
      | ok info =>
        rw [tryFromResponse_ok_of_perm h' hperm.symm] at h
        cases h
      | error e' => rfl
  · intro rollout info hrollout hvalid h
    exact stable_of_rollout_le h hvalid hrollout

/-- A stable release that is rolled out to half of the users, and an older one for all of them. -/
def partialRollout : List Release :=
  [{ version := ⟨2025, 6, none, none⟩
     changelog := ""
     installers := [⟨.x86, [], 10, "1"⟩]
     rollout := ⟨1 / 2, by decide +kernel⟩ },
   { version := ⟨2025, 5, none, none⟩
     changelog := ""
     installers := [⟨.x86, [], 10, "2"⟩]
     rollout := .fullyRolledOut }]

def decodeByte (hex : String) : Option (List UInt8) :=
  some (replicate 31 0 ++ [if hex = "1" then 1 else 2])

theorem validChecksums_partialRollout : ValidChecksums decodeByte partialRollout := by
  simp only [ValidChecksums, partialRollout, forall_mem_cons, not_mem_nil, false_implies,
    implies_true, and_true]
  exact ⟨⟨(Vector.replicate 31 0).push 1, by decide +kernel⟩,
    ⟨(Vector.replicate 31 0).push 2, by decide +kernel⟩⟩

theorem tryFromResponse_offers_partialRollout :
    IsOffer decodeByte ⟨.x86, .fullyRolledOut, false⟩ partialRollout
      ⟨⟨⟨2025, 5, none, none⟩, [], 10, "", (Vector.replicate 31 0).push 2⟩, none⟩ ∧
    tryFromResponse decodeByte ⟨.x86, .fullyRolledOut, false⟩ ⟨1, 0, partialRollout.reverse⟩ =
      .ok ⟨⟨⟨2025, 5, none, none⟩, [], 10, "", (Vector.replicate 31 0).push 2⟩, none⟩ ∧
    (∃ info', tryFromResponse decodeByte ⟨.x86, .ignore, false⟩ ⟨1, 0, partialRollout⟩ = .ok info' ∧
      (info'.stable.version = ⟨2025, 5, none, none⟩ ∨ info'.stable.version.gt ⟨2025, 5, none, none⟩ = true)) ∧
    tryFromResponse decodeByte ⟨.x86, .fullyRolledOut, false⟩ ⟨1, 0, partialRollout ++ partialRollout⟩ =
      .error .duplicateVersions := by
  have hok : tryFromResponse decodeByte ⟨.x86, .fullyRolledOut, false⟩ ⟨1, 0, partialRollout⟩ =
      .ok ⟨⟨⟨2025, 5, none, none⟩, [], 10, "", (Vector.replicate 31 0).push 2⟩, none⟩ := by
    decide +kernel
  obtain ⟨hoffer, hperm, hlower⟩ := (tryFromResponse_offers decodeByte ⟨1, 0, partialRollout⟩).2
    ⟨.x86, .fullyRolledOut, false⟩
  refine ⟨hoffer _ hok, ?_, ?_, ?_⟩
  · rw [(hperm ⟨1, 0, partialRollout.reverse⟩ (reverse_perm _).symm).2 validChecksums_partialRollout]
    exact hok
  · exact hlower .ignore _ (by decide) validChecksums_partialRollout hok
  · exact (tryFromResponse_offers decodeByte ⟨1, 0, partialRollout ++ partialRollout⟩).1 (by decide) _

end MullvadVpn.Update
