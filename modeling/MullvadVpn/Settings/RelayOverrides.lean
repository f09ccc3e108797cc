import MullvadVpn.Settings.PatchOverrides
import MullvadVpn.Systems.Keyed

/-!
The overrides of relays over whole runs of the daemon (`Settings::set_relay_override` in
`mullvad-types/src/settings/mod.rs`, and the handlers of the daemon that change the overrides). Hostnames
stay distinct. An override without any address is removed when it replaces another one, but it is stored if
its hostname is new, and a patch can store one too.
-/

namespace MullvadVpn.RelayOverrides

open Systems Relays Patch List
open Persister (Store Format Io)

def setRelayOverride (relayOverride : RelayOverride) (relayOverrides : List RelayOverride) :
    List RelayOverride :=
  match relayOverrides.findIdx? fun elem => elem.hostname == relayOverride.hostname with
  | none => relayOverrides ++ [relayOverride]
  | some index =>
    if relayOverride.isEmpty then Keyed.swapRemove index relayOverrides
    else relayOverrides.set index relayOverride

inductive Request where
  | setRelayOverride (relayOverride : RelayOverride)
  | clearAllRelayOverrides
  | applyJsonSettings (blob : String)

section

variable {Other Rest Bytes : Type} [DecidableEq Rest] (formats : Formats Other)
  (format : Format Rest Bytes) (path : String)
  (settings : Lens (Persister.Settings Rest) (Settings Other))

section

variable (io : Io) (store : Store Rest Bytes)

def onSetRelayOverride (relayOverride : RelayOverride) :
    Except (Persister.Error Empty) Unit × Store Rest Bytes :=
  match store.update format path settings (fun settings =>
      { settings with relayOverrides := setRelayOverride relayOverride settings.relayOverrides }) io with
  | (.ok _, store) => (.ok (), store)
  | (.error error, store) => (.error error, store)

def onClearAllRelayOverrides : Except (Persister.Error Empty) Unit × Store Rest Bytes :=
  match store.update format path settings (fun settings => { settings with relayOverrides := [] }) io with
  | (.ok _, store) => (.ok (), store)
  | (.error error, store) => (.error error, store)

def onApplyJsonSettings (blob : String) : Except Patch.Error Unit × Store Rest Bytes :=
  mergeValidatePatch formats format path settings io store blob

end

/-- One request, under the given answers of the file system. Errors of the persister are those of a patch
here. -/
def handle (store : Store Rest Bytes) (input : Request × Io) :
    Except Patch.Error Unit × Store Rest Bytes :=
  match input.1 with
  | .setRelayOverride relayOverride =>
    (onSetRelayOverride format path settings input.2 store relayOverride).map (·.mapError .settings) id
  | .clearAllRelayOverrides =>
    (onClearAllRelayOverrides format path settings input.2 store).map (·.mapError .settings) id
  | .applyJsonSettings blob => onApplyJsonSettings formats format path settings input.2 store blob

/-- Runs start from the defaults, which have no overrides. -/
def system : TransitionSystem (Store Rest Bytes) (Request × Io) where
  Init store := (settings.get store.settings).relayOverrides = []
  step store input := some (handle formats format path settings store input).2

def Request.apply (settings : Settings Other) : Request → Except Patch.Error (Settings Other)
  | setRelayOverride relayOverride => .ok
    { settings with
      relayOverrides := RelayOverrides.setRelayOverride relayOverride settings.relayOverrides }
  | clearAllRelayOverrides => .ok { settings with relayOverrides := [] }
  | applyJsonSettings blob => mergeValidatePatchInner formats settings blob

/-- All a request can do: it is refused and leaves the settings as they were, or it is accepted. -/
theorem handle_cases (store : Store Rest Bytes) (request : Request) (io : Io) :
    (∃ error after, handle formats format path settings store (request, io) = (.error error, after) ∧
      after.settings = store.settings) ∨
    ∃ new after, handle formats format path settings store (request, io) = (.ok (), after) ∧
      request.apply formats (settings.get store.settings) = .ok new ∧
      after.settings = settings.set new store.settings := by
  cases request with
  | setRelayOverride relayOverride =>
    simp only [handle, onSetRelayOverride]
    rcases store.update_cases (E := Empty) format path settings (fun settings =>
        { settings with relayOverrides := setRelayOverride relayOverride settings.relayOverrides }) io with
      ⟨error, after, heq, hsame⟩ | ⟨changed, after, heq, hset⟩
    · exact .inl ⟨.settings error, after, by rw [heq]; rfl, hsame⟩
    · exact .inr ⟨_, after, by rw [heq]; rfl, rfl, hset⟩
  | clearAllRelayOverrides =>
    simp only [handle, onClearAllRelayOverrides]
    rcases store.update_cases (E := Empty) format path settings
        (fun settings => { settings with relayOverrides := [] }) io with
      ⟨error, after, heq, hsame⟩ | ⟨changed, after, heq, hset⟩
    · exact .inl ⟨.settings error, after, by rw [heq]; rfl, hsame⟩
    · exact .inr ⟨_, after, by rw [heq]; rfl, rfl, hset⟩
  | applyJsonSettings blob =>
    simp only [handle, onApplyJsonSettings, mergeValidatePatch, Request.apply]
    cases hmerge : mergeValidatePatchInner formats (settings.get store.settings) blob with
    | error error => exact .inl ⟨error, store, rfl, rfl⟩
    | ok new =>
      rcases store.update_cases (E := Empty) format path settings (fun _ => new) io with
        ⟨error, after, heq, hsame⟩ | ⟨changed, after, heq, hset⟩
      · exact .inl ⟨.settings error, after, by simp only [heq], hsame⟩
      · exact .inr ⟨new, after, by simp only [heq], rfl, hset⟩

end

/-- Hostnames are distinct, and every override has an address. -/
structure Canonical (relayOverrides : List RelayOverride) : Prop where
  nodup : (relayOverrides.map (·.hostname)).Nodup
  not_empty : ∀ relayOverride ∈ relayOverrides, relayOverride.isEmpty = false

theorem isEmpty_eq_false_iff {relayOverride : RelayOverride} : relayOverride.isEmpty = false ↔
      relayOverride.ipv4AddrIn.isSome = true ∨ relayOverride.ipv6AddrIn.isSome = true := by
  obtain ⟨hostname, _ | ipv4AddrIn, _ | ipv6AddrIn⟩ := relayOverride <;>
    simp [RelayOverride.isEmpty, RelayOverride.empty]

/-- The setter keeps overrides canonical unless it is given an empty one for a new hostname. -/
theorem Canonical.set_iff {relayOverrides} (h : Canonical relayOverrides)
    (relayOverride : RelayOverride) :
    Canonical (setRelayOverride relayOverride relayOverrides) ↔
      (relayOverride.isEmpty = true → relayOverride.hostname ∈ relayOverrides.map (·.hostname)) := by
  unfold setRelayOverride
  cases hindex : relayOverrides.findIdx? fun elem => elem.hostname == relayOverride.hostname with
  | none =>
    have hnew : ∀ elem ∈ relayOverrides, elem.hostname ≠ relayOverride.hostname := by
      simpa using findIdx?_eq_none_iff.mp hindex
    constructor
    · intro hcanonical hempty
      have hfull := hcanonical.not_empty relayOverride (by simp)
      rw [hempty] at hfull
      cases hfull
    · intro hempty
      refine ⟨Keyed.nodup_map_append h.nodup hnew, fun elem hmem => ?_⟩
      rcases mem_append.mp hmem with hmem | hmem
      · exact h.not_empty elem hmem
      · rw [mem_singleton.mp hmem, Bool.eq_false_iff]
        intro hisEmpty
        obtain ⟨elem, hmem, hname⟩ := mem_map.mp (hempty hisEmpty)
        exact hnew elem hmem hname
  | some index =>
    obtain ⟨hlt, hname, -⟩ := findIdx?_eq_some_iff_getElem.mp hindex
    have hname : relayOverrides[index].hostname = relayOverride.hostname := beq_iff_eq.mp hname
    refine iff_of_true ?_ fun _ =>
      mem_map.mpr ⟨relayOverrides[index], getElem_mem hlt, hname⟩
    simp only
    split
    · exact ⟨Keyed.nodup_map_swapRemove h.nodup hlt,
        fun elem hmem => h.not_empty elem (Keyed.mem_of_mem_swapRemove hlt hmem)⟩
    next hfull =>
      constructor
      · rw [Keyed.map_set_of_key_eq]
        · exact h.nodup
        · intro elem helem
          obtain ⟨-, rfl⟩ := List.getElem?_eq_some_iff.mp helem
          exact hname
      · intro elem hmem
        rcases mem_or_eq_of_mem_set hmem with hmem | rfl
        · exact h.not_empty elem hmem
        · simpa using hfull

/-- An address is left: one was given that is not null, or none was given and there was one. -/
def LeavesAddress {α : Type} (given : Option Json) (previous : Option α) : Prop :=
  match given with
  | some value => value ≠ .null
  | none => previous.isSome

/-- The override of a hostname, which is empty if there is none. -/
def current (relayOverrides : List RelayOverride) (hostname : String) : RelayOverride :=
  (relayOverrides.find? fun relayOverride => relayOverride.hostname == hostname).getD (.empty hostname)

/-- The entries leave every hostname that they mention with an address. -/
def LeavesAddresses (entries : List Json) (relayOverrides : List RelayOverride) : Prop :=
  ∀ hostname ∈ mentions entries, LeavesAddress (lastGiven entries hostname "ipv4_addr_in")
        (current relayOverrides hostname).ipv4AddrIn ∨
      LeavesAddress (lastGiven entries hostname "ipv6_addr_in") (current relayOverrides hostname).ipv6AddrIn

theorem isSome_iff_leavesAddress {α : Type} {format : MullvadVpn.Settings.TextFormat α}
    {given : Option Json} {previous new : Option α} (h : TakesAddress format given previous new) :
    new.isSome = true ↔ LeavesAddress given previous := by
  cases given with
  | none =>
    obtain rfl : new = previous := h
    exact .rfl
  | some value =>
    by_cases hnull : value = .null
    · subst hnull
      obtain rfl : none = new := Option.some.inj h
      simp [LeavesAddress]
    · have hread : (format.serde.ofJson value).map some = some new := by
        cases value with
        | null => exact absurd rfl hnull
        | bool | number | string | array | object => exact h
      obtain ⟨address, -, rfl⟩ := Option.map_eq_some_iff.mp hread
      exact iff_of_true rfl hnull

section

variable {Other : Type} {formats : Formats Other} {entries : List Json}
  {before after : List RelayOverride}

theorem isEmpty_eq_false_iff_leaves {previous new : RelayOverride}
    (h : TakesAddresses formats entries previous new) :
    new.isEmpty = false ↔ LeavesAddress (lastGiven entries new.hostname "ipv4_addr_in") previous.ipv4AddrIn ∨
        LeavesAddress (lastGiven entries new.hostname "ipv6_addr_in") previous.ipv6AddrIn := by
  rw [isEmpty_eq_false_iff, isSome_iff_leavesAddress h.1, isSome_iff_leavesAddress h.2]

/-- With distinct hostnames, what was at the place of an override is what its hostname had. -/
theorem current_eq_of_merged (h : Merged formats entries before after)
    (hbefore : (before.map (·.hostname)).Nodup) {index : Nat} {new}
    (hnew : after[index]? = some new) :
    before[index]?.getD (.empty new.hostname) = current before new.hostname := by
  unfold current
  cases hindex : before[index]? with
  | none =>
    have hnone : before.find? (fun relayOverride => relayOverride.hostname == new.hostname) = none := by
      simpa using (h.hostname_of_new hindex hnew).2
    rw [hnone]
  | some previous =>
    have hname := h.hostname_of_before hindex hnew
    cases hfind : before.find? (fun relayOverride => relayOverride.hostname == new.hostname) with
    | none =>
      have hother := find?_eq_none.mp hfind previous (mem_of_getElem? hindex)
      exact absurd (beq_iff_eq.mpr hname) hother
    | some found =>
      obtain ⟨place, hplace⟩ := mem_iff_getElem?.mp (mem_of_find?_eq_some hfind)
      have hfound : found.hostname = new.hostname := by simpa using find?_some hfind
      obtain rfl := Keyed.index_eq_of_key_eq hbefore hindex hplace (hname.trans hfound.symm)
      exact Option.some.inj (hindex.symm.trans hplace)

/-- An accepted patch keeps overrides canonical if it leaves every hostname with an address. -/
theorem Canonical.merged_iff (hbefore : Canonical before) (h : Merged formats entries before after) :
    Canonical after ↔ LeavesAddresses entries before := by
  have hnodup := h.nodup hbefore.nodup
  have hmentioned : ∀ (index : Nat) new, after[index]? = some new → new.hostname ∈ mentions entries →
      TakesAddresses formats entries (current before new.hostname) new := by
    intro index new hnew hmem
    have hfirst : new.hostname ∉ (after.take index).map (·.hostname) :=
      Keyed.key_not_mem_take hnodup hnew
    rw [← current_eq_of_merged h hbefore.nodup hnew]
    exact h.addresses index new hnew hmem hfirst
  constructor
  · intro hafter hostname hmem
    obtain ⟨new, hnew, rfl⟩ := mem_map.mp (h.mem_of_mentioned hmem)
    obtain ⟨index, hindex⟩ := mem_iff_getElem?.mp hnew
    exact (isEmpty_eq_false_iff_leaves (hmentioned index new hindex hmem)).mp (hafter.not_empty new hnew)
  · intro hleaves
    refine ⟨hnodup, fun new hnew => ?_⟩
    obtain ⟨index, hindex⟩ := mem_iff_getElem?.mp hnew
    by_cases hmem : new.hostname ∈ mentions entries
    · exact (isEmpty_eq_false_iff_leaves (hmentioned index new hindex hmem)).mpr (hleaves new.hostname hmem)
    · -- The override is one from before.
      cases hprevious : before[index]? with
      | none => exact absurd (h.hostname_of_new hprevious hindex).1 hmem
      | some previous =>
        have hname := h.hostname_of_before hprevious hindex
        have hsame := h.unchanged index previous hprevious (.inl (by rwa [hname]))
        cases hindex.symm.trans hsame
        exact hbefore.not_empty new (mem_of_getElem? hprevious)

end

section

variable {Other Rest Bytes : Type} [DecidableEq Rest] (formats : Formats Other)
  (format : Format Rest Bytes) (path : String)
  (settings : Lens (Persister.Settings Rest) (Settings Other))

/-- A request does not leave a hostname without an address: an empty override is only set where there is one
to remove, and a patch leaves an address for all hostnames that it mentions. -/
def Request.Leaves (relayOverrides : List RelayOverride) : Request → Prop
  | setRelayOverride relayOverride => relayOverride.isEmpty = true →
      relayOverride.hostname ∈ relayOverrides.map (·.hostname)
  | clearAllRelayOverrides => True
  | applyJsonSettings blob => ∀ patch entries, formats.json.parse blob = some patch →
      IsPatch patch entries → LeavesAddresses entries relayOverrides

variable {formats} in
theorem Canonical.apply_iff {before after : Settings Other} (h : Canonical before.relayOverrides)
    {request : Request} (hok : request.apply formats before = .ok after) :
    Canonical after.relayOverrides ↔ request.Leaves formats before.relayOverrides := by
  cases request with
  | setRelayOverride relayOverride =>
    cases hok
    exact h.set_iff relayOverride
  | clearAllRelayOverrides =>
    cases hok
    exact iff_of_true ⟨nodup_nil, nofun⟩ trivial
  | applyJsonSettings blob =>
    obtain ⟨patch, entries, hparse, hpatch, hmerged⟩ := exists_merged hok
    rw [h.merged_iff hmerged]
    constructor
    · intro hleaves patch' entries' hparse' hpatch'
      cases hparse.symm.trans hparse'
      rwa [← hpatch.entries_eq hpatch']
    · intro hleaves
      exact hleaves patch entries hparse hpatch

def KeepsCanonical (store : Store Rest Bytes) (input : Request × Io) : Prop :=
  Canonical (settings.get (handle formats format path settings store input).2.settings).relayOverrides

/-- If the request is accepted, it does not leave a hostname without an address. -/
def AcceptsLeaving (store : Store Rest Bytes) (input : Request × Io) : Prop :=
  (handle formats format path settings store input).1 = .ok () →
    input.1.Leaves formats (settings.get store.settings).relayOverrides

variable {formats format path settings}

/-- In a run the overrides are always canonical, exactly if no accepted request leaves a hostname without an
address. -/
theorem run_canonical_iff (history : List (Request × Io))
    (store : Store Rest Bytes) :
    (system formats format path settings).RunWhere
        (fun _ before input => KeepsCanonical formats format path settings before input) history store ↔
      (system formats format path settings).RunWhere
        (fun _ before input => AcceptsLeaving formats format path settings before input) history store := by
  refine TransitionSystem.runWhere_congr
    (I := fun _ store => Canonical (settings.get store.settings).relayOverrides) ?_ ?_ ?_ history store
  · intro store hinit
    rw [show (settings.get store.settings).relayOverrides = [] from hinit]
    exact ⟨nodup_nil, nofun⟩
  · rintro _ store ⟨request, io⟩ _ hcanonical -
    unfold KeepsCanonical AcceptsLeaving
    rcases handle_cases formats format path settings store request io with
      ⟨error, after, heq, hsame⟩ | ⟨new, after, heq, happly, hset⟩
    · rw [heq, hsame]
      exact iff_of_true hcanonical nofun
    · rw [heq, hset, settings.get_set, hcanonical.apply_iff happly]
      exact ⟨fun hleaves _ => hleaves, fun hleaves => hleaves rfl⟩
  · rintro _ store input _ - hkeeps ⟨⟩
    exact hkeeps

end

namespace Sample

def store : Store (Settings Unit) (Persister.Settings (Settings Unit)) :=
  Persister.Sample.store ⟨[], ()⟩

def system : TransitionSystem (Store (Settings Unit) (Persister.Settings (Settings Unit)))
    (Request × Io) :=
  RelayOverrides.system (Patch.Sample.formats Patch.Sample.patch Patch.Sample.ordered_patch)
    (Persister.Sample.plain ⟨[], ()⟩) "settings.json" Persister.Sample.field

end Sample

/-- A patch adds an override, and then an empty one is set for another hostname. -/
theorem empty_override_stored :
    ∃ history store, Sample.system.Run history store ∧
      store.settings.rest.relayOverrides = [⟨"se-got", some 3, none⟩, .empty "se-sto"] ∧
      ¬ Canonical store.settings.rest.relayOverrides := by
  have hrun := ((TransitionSystem.Run.init (S := Sample.system) (s := Sample.store) rfl).step
    (e := (.applyJsonSettings "patch", {})) rfl).step
    (e := (.setRelayOverride (.empty "se-sto"), {})) rfl
  refine ⟨_, _, hrun, rfl, fun hcanonical => ?_⟩
  have hfull := hcanonical.not_empty (.empty "se-sto") (mem_cons_of_mem _ (mem_singleton_self _))
  cases hfull

end MullvadVpn.RelayOverrides
