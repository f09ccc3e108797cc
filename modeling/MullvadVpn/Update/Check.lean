import MullvadVpn.Update.Version
import MullvadVpn.Systems.TransitionSystem

/-!
The version updater (`version/check.rs`), as it runs on desktop platforms. It keeps the last known
version metadata, and checks for newer metadata in the background and when it is asked to. A check is
started from what is known at that time, and refuses metadata that is older than that. Both kinds of
checks can be under way at once, and what one of them brings is stored without another look at what
the other one has stored in the meantime. So the metadata version can go down, unless checks only
complete when nothing newer has been stored since they were started.
-/

namespace MullvadVpn.Update

open Systems

structure VersionCache where
  cacheVersion : AppVersion
  currentVersionSupported : Bool
  versionInfo : VersionInfo
  /-- In time since the epoch. -/
  lastPlatformHeaderCheck : Nat
  metadataVersion : Nat
  etag : Option String

/-- Lowest version to accept when there is no metadata yet. -/
def minVerifyMetadataVersion : Nat := 0

/-- The metadata version that a check asks for at least. -/
def lowestMetadataVersion (cache : Option VersionCache) : Nat :=
  (cache.map VersionCache.metadataVersion).getD minVerifyMetadataVersion

/-- A check in the foreground is made on request, a check in the background at intervals. -/
inductive CheckKind where
  | foreground
  | background

/-- A check that is under way is given by the cache it was started from. -/
structure VersionUpdater where
  lastAppVersionInfo : Option VersionCache
  /-- The timer for the next check in the background runs. -/
  runNextCheckBg : Bool
  versionCheckFg : Option (Option VersionCache)
  versionCheckBg : Option (Option VersionCache)
  /-- The loop has ended. -/
  closed : Bool

namespace VersionUpdater

def start (loaded : Option VersionCache) : VersionUpdater :=
  { lastAppVersionInfo := loaded
    runNextCheckBg := true
    versionCheckFg := none
    versionCheckBg := none
    closed := false }

variable (updater : VersionUpdater)

def underWay : CheckKind → Option (Option VersionCache)
  | .foreground => updater.versionCheckFg
  | .background => updater.versionCheckBg

def ignoreCacheIfSameVersion (new : VersionCache) : VersionCache :=
  match updater.lastAppVersionInfo with
  | some current =>
    if current.metadataVersion = new.metadataVersion then
      { current with lastPlatformHeaderCheck := new.lastPlatformHeaderCheck, etag := new.etag }
    else new
  | none => new

def updateVersionInfo (new : VersionCache) : VersionUpdater × Option VersionCache :=
  let new := updater.ignoreCacheIfSameVersion new
  ({ updater with lastAppVersionInfo := some new }, some new)

/-- A check that fails repeats what is known, if anything is. -/
def handleVersionResponse (response : Option VersionCache) : VersionUpdater × Option VersionCache :=
  match response.or updater.lastAppVersionInfo with
  | some new => updater.updateVersionInfo new
  | none => (updater, none)

inductive Event where
  | refresh
  | close
  | timer
  /-- A check is done, with `none` if it has failed. -/
  | response (kind : CheckKind) (result : Option VersionCache)

/-- One round of the loop: the updater after it and what it delivers. -/
def round : Event → Option (VersionUpdater × Option VersionCache)
  | .refresh =>
    if updater.versionCheckFg.isSome then some (updater, none)
    else some ({ updater with versionCheckFg := some updater.lastAppVersionInfo }, none)
  | .close => some ({ updater with closed := true }, none)
  | .timer =>
    if updater.runNextCheckBg then
      some ({ updater with
        runNextCheckBg := false, versionCheckBg := some updater.lastAppVersionInfo }, none)
    else none
  | .response .background result =>
    if updater.versionCheckBg.isSome then
      some ({ updater with versionCheckBg := none, runNextCheckBg := true }.handleVersionResponse result)
    else none
  | .response .foreground result =>
    if updater.versionCheckFg.isSome then
      some ({ updater with versionCheckFg := none }.handleVersionResponse result)
    else none

/-- The updater, with all that has been stored, latest first. What is stored is also delivered, but for
the cache that was loaded at the start. -/
structure Stored where
  updater : VersionUpdater
  stored : List VersionCache

def system : TransitionSystem Stored Event where
  Init s := ∃ loaded, s = ⟨start loaded, loaded.toList⟩
  step s event :=
    if s.updater.closed then none
    else (s.updater.round event).map fun (updater, delivered) =>
      ⟨updater, delivered.toList ++ s.stored⟩

/-- A round stores nothing, or it stores and delivers one cache: what a check has brought, or what was
known before in case the check has failed. -/
inductive Round (updater : VersionUpdater) : Event → VersionUpdater → Option VersionCache → Prop
  | silent {event updater'} (hquiet : ∀ kind cache, event ≠ .response kind (some cache))
      (hlast : updater'.lastAppVersionInfo = updater.lastAppVersionInfo) :
      Round updater event updater' none
  | stores {kind result updater'} {new cache} (hunderWay : (updater.underWay kind).isSome = true)
      (hnew : result.or updater.lastAppVersionInfo = some new)
      (hlast : updater'.lastAppVersionInfo = some cache)
      (hversion : cache.metadataVersion = new.metadataVersion) :
      Round updater (.response kind result) updater' (some cache)

theorem handleVersionResponse_round (started : VersionUpdater) (kind : CheckKind)
    (hlast : started.lastAppVersionInfo = updater.lastAppVersionInfo)
    (hunderWay : (updater.underWay kind).isSome = true) (result : Option VersionCache) :
    Round updater (.response kind result) (started.handleVersionResponse result).1
      (started.handleVersionResponse result).2 := by
  unfold handleVersionResponse
  rw [hlast]
  cases hnew : result.or updater.lastAppVersionInfo with
  | none =>
    refine .silent (fun kind cache h => ?_) hlast
    cases h
    cases hnew
  | some new =>
    refine .stores hunderWay hnew rfl ?_
    unfold ignoreCacheIfSameVersion
    cases started.lastAppVersionInfo with
    | none => rfl
    | some current =>
      dsimp only
      split_ifs with h
      · exact h
      · rfl

variable {event : Event}

theorem round_cases {updater updater' delivered}
    (h : updater.round event = some (updater', delivered)) : Round updater event updater' delivered := by
  cases event with
  | refresh =>
    rw [round] at h
    split_ifs at h <;> cases h <;> exact .silent (fun _ _ h => by cases h) rfl
  | close =>
    cases h
    exact .silent (fun _ _ h => by cases h) rfl
  | timer =>
    rw [round] at h
    split_ifs at h
    cases h
    exact .silent (fun _ _ h => by cases h) rfl
  | response kind result =>
    cases kind with
    | background =>
      rw [round] at h
      split_ifs at h with hunderWay
      have hround := handleVersionResponse_round updater
        { updater with versionCheckBg := none, runNextCheckBg := true } .background rfl hunderWay result
      rwa [Option.some.inj h] at hround
    | foreground =>
      rw [round] at h
      split_ifs at h with hunderWay
      have hround := handleVersionResponse_round updater { updater with versionCheckFg := none }
        .foreground rfl hunderWay result
      rwa [Option.some.inj h] at hround

variable {s s' : Stored}

theorem step_eq_some_iff : system.step s event = some s' ↔ s.updater.closed = false ∧
      ∃ updater' delivered, s.updater.round event = some (updater', delivered) ∧
        s' = ⟨updater', delivered.toList ++ s.stored⟩ := by
  change (if s.updater.closed then none else _) = some s' ↔ _
  cases s.updater.closed with
  | true => simp
  | false =>
    rw [if_neg Bool.false_ne_true, Option.map_eq_some_iff]
    constructor
    · rintro ⟨⟨updater', delivered⟩, hround, rfl⟩
      exact ⟨rfl, updater', delivered, hround, rfl⟩
    · rintro ⟨_, updater', delivered, hround, rfl⟩
      exact ⟨(updater', delivered), hround, rfl⟩

/-- Every metadata version that is stored and delivered is at least as high as all before it. -/
def NeverDecreases (s : Stored) : Prop :=
  (s.stored.map VersionCache.metadataVersion).Pairwise fun later earlier => earlier ≤ later

/-- A check does not bring older metadata than what it was started from. -/
def Honest (s : Stored) : Event → Prop
  | .response kind (some cache) => ∀ started, s.updater.underWay kind = some started →
      lowestMetadataVersion started ≤ cache.metadataVersion
  | _ => True

/-- Nothing newer has been stored since a check that succeeds was started. -/
def Current (s : Stored) : Event → Prop
  | .response kind (some _) => ∀ started, s.updater.underWay kind = some started →
      lowestMetadataVersion s.updater.lastAppVersionInfo ≤ lowestMetadataVersion started
  | _ => True

variable {C : List Event → Stored → Event → Prop} {h : List Event}

theorem stored_head (hrun : system.RunWhere C h s) : s.stored.head? = s.updater.lastAppVersionInfo := by
  refine hrun.invariant (I := fun _ s => s.stored.head? = s.updater.lastAppVersionInfo) ?_ ?_
  · rintro s ⟨loaded, rfl⟩
    cases loaded <;> rfl
  · intro _ s event s' _ _ hhead hstep
    obtain ⟨_, updater', delivered, hround, rfl⟩ := step_eq_some_iff.mp hstep
    cases round_cases hround with
    | silent _ hlast => simpa [hlast] using hhead
    | stores _ _ hlast _ => simpa using hlast.symm

theorem NeverDecreases.cons {cache} (h : NeverDecreases s)
    (hle : ∀ last ∈ s.stored.head?, last.metadataVersion ≤ cache.metadataVersion)
    (updater : VersionUpdater) : NeverDecreases ⟨updater, cache :: s.stored⟩ := by
  refine List.pairwise_cons.mpr ⟨fun version hversion => ?_, h⟩
  unfold NeverDecreases at h
  cases hstored : s.stored with
  | nil =>
    rw [hstored] at hversion
    cases hversion
  | cons last stored =>
    rw [hstored] at h hversion hle
    have hlast := hle last rfl
    rcases List.mem_cons.mp hversion with rfl | hversion
    · exact hlast
    · exact ((List.pairwise_cons.mp h).1 version hversion).trans hlast

theorem lowestMetadataVersion_le_iff {cache} {version : Nat} :
    lowestMetadataVersion cache ≤ version ↔ ∀ last ∈ cache, last.metadataVersion ≤ version := by
  cases cache <;> simp [lowestMetadataVersion, minVerifyMetadataVersion]

theorem neverDecreases_step (hrun : system.RunWhere C h s) (hhonest : Honest s event)
    (hcurrent : Current s event) (hnever : NeverDecreases s) (hstep : system.step s event = some s') :
    NeverDecreases s' := by
  have hhead := stored_head hrun
  obtain ⟨_, updater', delivered, hround, rfl⟩ := step_eq_some_iff.mp hstep
  cases round_cases hround with
  | silent _ _ => exact hnever
  | @stores kind result _ new cache hunderWay hnew _ hversion =>
    refine hnever.cons ?_ updater'
    rw [hhead, hversion, ← lowestMetadataVersion_le_iff]
    cases result with
    | some result =>
      obtain ⟨started, hstarted⟩ := Option.isSome_iff_exists.mp hunderWay
      cases hnew
      exact (hcurrent started hstarted).trans (hhonest started hstarted)
    | none =>
      -- The check has failed, and what is known is stored once more.
      rw [Option.none_or] at hnew
      rw [hnew]
      exact le_rfl

/-- A check that brings no more than what it was started from decreases the version, if something newer
has been stored. -/
theorem exists_decrease {kind started last}
    (hrun : system.RunWhere C h s) (hopen : s.updater.closed = false)
    (hstarted : s.updater.underWay kind = some started) (hlast : s.updater.lastAppVersionInfo = some last)
    (hnewer : lowestMetadataVersion started < last.metadataVersion) :
    ∃ cache s', Honest s (.response kind (some cache)) ∧
      system.step s (.response kind (some cache)) = some s' ∧ ¬ NeverDecreases s' := by
  have hunderWay : (s.updater.underWay kind).isSome = true := by rw [hstarted]; rfl
  let cache := { last with metadataVersion := lowestMetadataVersion started }
  obtain ⟨updater', delivered, hround⟩ : ∃ updater' delivered,
      s.updater.round (.response kind (some cache)) = some (updater', delivered) := by
    cases kind <;> exact ⟨_, _, if_pos hunderWay⟩
  have hstep := step_eq_some_iff.mpr ⟨hopen, updater', delivered, hround, rfl⟩
  refine ⟨cache, _, ?_, hstep, fun hnever => ?_⟩
  · intro started' hstarted'
    rw [hstarted] at hstarted'
    cases hstarted'
    exact le_rfl
  · cases round_cases hround with
    | silent hquiet _ => exact hquiet kind cache rfl
    | stores _ hnew _ hversion =>
      cases hnew
      have hmem : last.metadataVersion ∈ s.stored.map VersionCache.metadataVersion :=
        List.mem_map_of_mem (List.mem_of_head? ((stored_head hrun).trans hlast))
      have hle := (List.pairwise_cons.mp hnever).1 _ hmem
      rw [hversion] at hle
      exact absurd hnewer (Nat.not_lt_of_le hle)

/-- If checks succeed only when nothing newer has been stored since they were started, then the metadata
version never goes down. In a state in which something newer has been stored, a check that succeeds can
make it go down. -/
theorem metadataVersion_never_decreases (h : List Event) (s : Stored) :
    (system.RunWhere (fun _ s event => Honest s event ∧ Current s event) h s → NeverDecreases s) ∧
    (system.RunWhere (fun _ s event => Honest s event) h s → s.updater.closed = false →
      ∀ kind started last, s.updater.underWay kind = some started → s.updater.lastAppVersionInfo = some last →
        lowestMetadataVersion started < last.metadataVersion →
        ∃ cache s', Honest s (.response kind (some cache)) ∧
          system.step s (.response kind (some cache)) = some s' ∧ ¬ NeverDecreases s') := by
  refine ⟨fun hrun => ?_, fun hrun hopen _ _ _ hstarted hlast hnewer =>
    exists_decrease hrun hopen hstarted hlast hnewer⟩
  refine hrun.invariant (I := fun _ s => NeverDecreases s) ?_ ?_
  · rintro s ⟨loaded, rfl⟩
    cases loaded <;> simp [NeverDecreases]
  · intro _ s event s' hrun ⟨hhonest, hcurrent⟩ hnever hstep
    exact neverDecreases_step hrun hhonest hcurrent hnever hstep

namespace Sample

def cache (metadataVersion : Nat) : VersionCache :=
  { cacheVersion := ⟨2025, 9, none, none⟩
    currentVersionSupported := true
    versionInfo := ⟨⟨⟨2025, 9, none, none⟩, [], 0, "", Vector.replicate 32 0⟩, none⟩
    lastPlatformHeaderCheck := 0
    metadataVersion
    etag := none }

end Sample

/-- A check on request brings newer metadata. -/
theorem metadataVersion_never_decreases_foreground :
    ∃ s, system.Run [.response .foreground (some (Sample.cache 7)), .refresh] s ∧
      s.stored.map VersionCache.metadataVersion = [7, 5] ∧ NeverDecreases s := by
  have hrun : system.RunWhere (fun _ s event => Honest s event ∧ Current s event)
      [.response .foreground (some (Sample.cache 7)), .refresh]
      ⟨start (some (Sample.cache 7)), [Sample.cache 7, Sample.cache 5]⟩ := by
    refine .step (.step (.init ⟨some (Sample.cache 5), rfl⟩) ⟨trivial, trivial⟩ rfl) ⟨?_, ?_⟩ rfl
    all_goals
      rintro started ⟨⟩
      decide
  exact ⟨_, hrun.run, rfl, (metadataVersion_never_decreases _ _).1 hrun⟩

/-- Two checks are under way. The one on request brings version 7 first, and then the one in the
background brings version 6. -/
theorem metadataVersion_decreases :
    ∃ s, system.RunWhere (fun _ s event => Honest s event)
        [.response .background (some (Sample.cache 6)), .response .foreground (some (Sample.cache 7)),
          .refresh, .timer] s ∧
      s.stored.map VersionCache.metadataVersion = [6, 7, 5] ∧ ¬ NeverDecreases s := by
  refine ⟨⟨start (some (Sample.cache 6)), [Sample.cache 6, Sample.cache 7, Sample.cache 5]⟩,
    .step (.step (.step (.step (.init ⟨some (Sample.cache 5), rfl⟩) trivial rfl) trivial rfl) ?_ rfl) ?_ rfl,
    rfl, fun h => ?_⟩
  · rintro started ⟨⟩
    decide
  · rintro started ⟨⟩
    decide
  · have hpairwise : [6, 7, 5].Pairwise fun later earlier => earlier ≤ later := h
    exact absurd hpairwise (by decide)

end VersionUpdater

end MullvadVpn.Update
