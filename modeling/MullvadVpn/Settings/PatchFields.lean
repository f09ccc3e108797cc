import MullvadVpn.Settings.PatchFrame
import MullvadVpn.Systems.Upsert

/-!
Overrides and entries of a settings patch, both seen as fields with a hostname. To merge an entry is then to
merge its fields into those of the first override with its hostname, so that the rules for merging a list of
changes apply to a patch.
-/

namespace MullvadVpn.Patch

open Systems Relays
open Fallible

/-- An override or an entry of a patch as an object, with its hostname read. -/
structure OverrideFields where
  hostname : String
  ipv4AddrIn : Option Json
  ipv6AddrIn : Option Json

def fieldsOf (value : Json) : Option OverrideFields :=
  ((value.get "hostname").bind Json.asStr).map fun hostname =>
    ⟨hostname, value.get "ipv4_addr_in", value.get "ipv6_addr_in"⟩

/-- The fields that an entry has replace those that were there. -/
def mergeFields : Merging OverrideFields String where
  key fields := fields.hostname
  merge current entry := ⟨current.hostname, entry.ipv4AddrIn.or current.ipv4AddrIn,
    entry.ipv6AddrIn.or current.ipv6AddrIn⟩
  start hostname := ⟨hostname, none, none⟩
  key_merge _ _ := rfl
  key_start _ := rfl
  merge_start entry := by simp

variable {fields : OverrideFields} {object : List (String × Json)}

theorem fieldsOf_object_eq_some : fieldsOf (.object object) = some fields ↔
      (object.lookup "hostname").bind Json.asStr = some fields.hostname ∧
        object.lookup "ipv4_addr_in" = fields.ipv4AddrIn ∧
        object.lookup "ipv6_addr_in" = fields.ipv6AddrIn := by
  obtain ⟨hostname, ipv4AddrIn, ipv6AddrIn⟩ := fields
  rw [fieldsOf, Option.map_eq_some_iff]
  simp only [Json.get, OverrideFields.mk.injEq]
  constructor
  · rintro ⟨found, hfound, rfl, hipv4, hipv6⟩
    exact ⟨hfound, hipv4, hipv6⟩
  · rintro ⟨hfound, hipv4, hipv6⟩
    exact ⟨hostname, hfound, rfl, hipv4, hipv6⟩

variable {value : Json}

theorem isObject_of_fieldsOf (h : fieldsOf value = some fields) : ∃ object, value = .object object := by
  cases value with
  | object object => exact ⟨object, rfl⟩
  | null | bool | number | string | array => cases h

theorem hasHostname_of_fieldsOf (h : fieldsOf value = some fields) (hostname : String) :
    hasHostname hostname value = decide (fields.hostname = hostname) := by
  obtain ⟨found, hfound, rfl⟩ := Option.map_eq_some_iff.mp h
  obtain ⟨name, hname, hstr⟩ := Option.bind_eq_some_iff.mp hfound
  simp [hasHostname, hname, hstr, beq_eq_decide]

section

variable {newArray : List Json} {current : List OverrideFields}

theorem findIdx?_hasHostname (hcurrent : newArray.map fieldsOf = current.map some) (hostname : String) :
    newArray.findIdx? (hasHostname hostname) =
      current.findIdx? fun fields => decide (fields.hostname = hostname) := by
  replace hcurrent := forall₂_of_map_eq hcurrent
  induction hcurrent with
  | nil => rfl
  | cons hvalue _ ih => rw [List.findIdx?_cons, List.findIdx?_cons, hasHostname_of_fieldsOf hvalue, ih]

variable {patch : List (String × Json)} {change : OverrideFields}

theorem fieldsOf_insertAll
    (hnodup : (patch.map Prod.fst).Nodup) (hobject : fieldsOf (.object object) = some fields)
    (hpatch : fieldsOf (.object patch) = some change) (hsame : fields.hostname = change.hostname) :
    fieldsOf (.object (Json.insertAll object patch)) = some (mergeFields.merge fields change) := by
  rw [fieldsOf_object_eq_some] at hobject hpatch ⊢
  obtain ⟨hhostname, hipv4, hipv6⟩ := hpatch
  simp only [Json.lookup_insertAll hnodup, hipv4, hipv6, hobject.2.1, hobject.2.2, mergeFields, hsame,
    and_self, and_true]
  obtain ⟨name, hname, hstr⟩ := Option.bind_eq_some_iff.mp hhostname
  simp [hname, hstr]

theorem mergeRelayOverride_fieldsOf (hcurrent : newArray.map fieldsOf = current.map some)
    (hnodup : (patch.map Prod.fst).Nodup) (hpatch : fieldsOf (.object patch) = some change) :
    ∃ newArray', mergeRelayOverride newArray (.object patch) = .ok newArray' ∧
      newArray'.map fieldsOf = (mergeFields.upsert change current).map some := by
  have hhostname := (fieldsOf_object_eq_some.mp hpatch).1
  have hfind := findIdx?_hasHostname hcurrent change.hostname
  simp only [mergeRelayOverride, bind_eq_ok, okOr_eq_ok, Json.asObject_eq_some]
  cases hindex : current.findIdx? fun fields => decide (fields.hostname = change.hostname) with
  | none =>
    rw [hindex] at hfind
    refine ⟨newArray ++ [.object patch], ⟨patch, rfl, change.hostname, hhostname, ?_⟩, ?_⟩
    · rw [hfind]
      rfl
    rw [Merging.upsert_of_findIdx?_eq_none hindex, List.map_append, hcurrent, List.map_append]
    simp [hpatch]
  | some index =>
    rw [hindex] at hfind
    obtain ⟨hlt, hname, -⟩ := List.findIdx?_eq_some_iff_getElem.mp hindex
    have hfields : current[index]? = some current[index] := List.getElem?_eq_getElem hlt
    obtain ⟨value, hvalue, hvalueFields⟩ : ∃ value, newArray[index]? = some value ∧
        fieldsOf value = some current[index] := by
      have hmap := congrArg (·[index]?) hcurrent
      simpa [hfields] using hmap
    obtain ⟨object, rfl⟩ := isObject_of_fieldsOf hvalueFields
    refine ⟨newArray.set index (.object (Json.insertAll object patch)),
      ⟨patch, rfl, change.hostname, hhostname, ?_⟩, ?_⟩
    · rw [hfind]
      simp only [hvalue]
      rfl
    rw [Merging.upsert_of_findIdx?_eq_some hindex hfields, List.map_set, hcurrent,
      fieldsOf_insertAll hnodup hvalueFields hpatch (by simpa using hname), List.map_set]

/-- The entries of a patch as it is read: objects with distinct keys. -/
def DistinctKeys (entries : List Json) : Prop :=
  ∀ entry ∈ entries, ∃ fields, entry = .object fields ∧ (fields.map Prod.fst).Nodup

variable {entries : List Json}

theorem foldlM_mergeRelayOverride {changes}
    (hentries : DistinctKeys entries) (hcurrent : newArray.map fieldsOf = current.map some)
    (hchanges : entries.map fieldsOf = changes.map some) :
    ∃ newArray', entries.foldlM mergeRelayOverride newArray = .ok newArray' ∧
      newArray'.map fieldsOf = (mergeFields.upsertAll changes current).map some := by
  replace hchanges := forall₂_of_map_eq hchanges
  induction hchanges generalizing newArray current with
  | nil => exact ⟨newArray, rfl, hcurrent⟩
  | cons hchange _ ih =>
    obtain ⟨patch, rfl, hnodup⟩ := hentries _ (List.mem_cons_self ..)
    obtain ⟨middle, hmerge, hmiddle⟩ := mergeRelayOverride_fieldsOf hcurrent hnodup hchange
    obtain ⟨newArray', hloop, hresult⟩ :=
      ih (fun entry hmem => hentries entry (List.mem_cons_of_mem _ hmem)) hmiddle
    rw [List.foldlM_cons]
    exact ⟨newArray', bind_eq_ok.mpr ⟨middle, hmerge, hloop⟩, hresult⟩

theorem exists_changes_of_foldlM {newArray'}
    (h : entries.foldlM mergeRelayOverride newArray = .ok newArray') :
    ∃ changes : List OverrideFields, entries.map fieldsOf = changes.map some := by
  induction entries generalizing newArray with
  | nil => exact ⟨[], rfl⟩
  | cons entry entries ih =>
    rw [List.foldlM_cons] at h
    obtain ⟨middle, hfirst, hrest⟩ := bind_eq_ok.mp h
    obtain ⟨changes, hchanges⟩ := ih hrest
    simp only [mergeRelayOverride, bind_eq_ok, okOr_eq_ok, Json.asObject_eq_some] at hfirst
    obtain ⟨object, rfl, hostname, hhostname, -⟩ := hfirst
    have hchange : fieldsOf (.object object) = some ⟨hostname, object.lookup "ipv4_addr_in",
      object.lookup "ipv6_addr_in"⟩ := fieldsOf_object_eq_some.mpr ⟨hhostname, rfl, rfl⟩
    exact ⟨_ :: changes, by rw [List.map_cons, List.map_cons, hchange, hchanges]⟩

end

theorem IsPatch.distinctKeys {patch : Json} {entries} (h : IsPatch patch entries)
    (hordered : patch.Ordered 127) : DistinctKeys entries := by
  obtain ⟨⟨-, rfl⟩ | rfl, hentries⟩ := h
  · exact nofun
  · intro entry hmem
    obtain ⟨fields, rfl, -⟩ := hentries entry hmem
    have harray : (Json.array entries).Ordered 126 := hordered.2 _ (List.mem_singleton_self _)
    have hentry : (Json.object fields).Ordered 125 := harray _ hmem
    exact ⟨fields, rfl, hentry.1.nodup⟩

section

variable {Other : Type} (formats : Formats Other)

def OverrideFields.read (fields : OverrideFields) : Option RelayOverride := do
  let ipv4AddrIn ← addressOfJson formats.ipv4 fields.ipv4AddrIn
  let ipv6AddrIn ← addressOfJson formats.ipv6 fields.ipv6AddrIn
  return ⟨fields.hostname, ipv4AddrIn, ipv6AddrIn⟩

/-- Overrides are written with both addresses. -/
def OverrideFields.write (relayOverride : RelayOverride) : OverrideFields :=
  ⟨relayOverride.hostname, some (addressToJson formats.ipv4 relayOverride.ipv4AddrIn),
    some (addressToJson formats.ipv6 relayOverride.ipv6AddrIn)⟩

variable {formats}

theorem OverrideFields.read_eq_some {relayOverride} :
    fields.read formats = some relayOverride ↔ fields.hostname = relayOverride.hostname ∧
        addressOfJson formats.ipv4 fields.ipv4AddrIn = some relayOverride.ipv4AddrIn ∧
        addressOfJson formats.ipv6 fields.ipv6AddrIn = some relayOverride.ipv6AddrIn := by
  obtain ⟨hostname, ipv4AddrIn, ipv6AddrIn⟩ := relayOverride
  simp only [read, Option.bind_eq_bind, Option.bind_eq_some_iff, Option.pure_def,
    Option.some.injEq, RelayOverride.mk.injEq]
  constructor
  · rintro ⟨_, hipv4, _, hipv6, rfl, rfl, rfl⟩
    exact ⟨rfl, hipv4, hipv6⟩
  · rintro ⟨hhostname, hipv4, hipv6⟩
    exact ⟨_, hipv4, _, hipv6, hhostname, rfl, rfl⟩

theorem OverrideFields.read_write (relayOverride : RelayOverride) :
    (write formats relayOverride).read formats = some relayOverride :=
  read_eq_some.mpr ⟨rfl, addressOfJson_addressToJson _ _, addressOfJson_addressToJson _ _⟩

theorem overrideOfJson_of_fieldsOf
    (h : fieldsOf value = some fields) : overrideOfJson formats value = fields.read formats := by
  obtain ⟨object, rfl⟩ := isObject_of_fieldsOf h
  obtain ⟨hhostname, hipv4, hipv6⟩ := fieldsOf_object_eq_some.mp h
  simp [overrideOfJson, Json.get, hhostname, hipv4, hipv6, OverrideFields.read]

theorem readAll_of_fieldsOf {values : List Json} {fields : List OverrideFields}
    (h : values.map fieldsOf = fields.map some) (relayOverrides : List RelayOverride) :
    (relayOverride formats).readAll values = some relayOverrides ↔
      fields.map (OverrideFields.read formats) = relayOverrides.map some := by
  rw [Serde.readAll_eq_some]
  suffices hsame : values.map (relayOverride formats).ofJson = fields.map (OverrideFields.read formats) by
    rw [hsame]
  replace h := forall₂_of_map_eq h
  induction h with
  | nil => rfl
  | cons hvalue _ ih =>
    rw [List.map_cons, List.map_cons, ih]
    exact congrArg (· :: _) (overrideOfJson_of_fieldsOf hvalue)

/-- The changes that a text makes: the fields of its entries. -/
def Changes (formats : Formats Other) (jsonPatch : String) (entries : List Json)
    (changes : List OverrideFields) : Prop :=
  (∃ patch, formats.json.parse jsonPatch = some patch ∧ IsPatch patch entries) ∧
    entries.map fieldsOf = changes.map some

/-- A patch is accepted if its entries have hostnames and the merged fields can be read. -/
theorem mergeValidatePatchInner_iff_changes {settings settings' jsonPatch} :
    mergeValidatePatchInner formats settings jsonPatch = .ok settings' ↔
      (formats.writeOther settings.other).isSome ∧ settings'.other = settings.other ∧
        ∃ entries changes, Changes formats jsonPatch entries changes ∧
          (mergeFields.upsertAll changes (settings.relayOverrides.map (.write formats))).map
            (OverrideFields.read formats) = settings'.relayOverrides.map some := by
  have hcurrent : (settings.relayOverrides.map (overrideToJson formats)).map fieldsOf =
      (settings.relayOverrides.map (.write formats)).map some := by
    rw [List.map_map, List.map_map]
    rfl
  rw [mergeValidatePatchInner_eq_ok]
  refine and_congr_right fun _ => and_congr_right fun _ => ?_
  constructor
  · rintro ⟨patch, entries, newArray, hparse, hpatch, hloop, hall⟩
    have hdistinct := hpatch.distinctKeys (formats.json.ordered_of_parse _ _ hparse)
    obtain ⟨changes, hchanges⟩ := exists_changes_of_foldlM hloop
    obtain ⟨_, hmerge, hresult⟩ := foldlM_mergeRelayOverride hdistinct hcurrent hchanges
    cases hloop.symm.trans hmerge
    exact ⟨entries, changes, ⟨⟨patch, hparse, hpatch⟩, hchanges⟩, (readAll_of_fieldsOf hresult _).mp hall⟩
  · rintro ⟨entries, changes, ⟨⟨patch, hparse, hpatch⟩, hchanges⟩, hread⟩
    have hdistinct := hpatch.distinctKeys (formats.json.ordered_of_parse _ _ hparse)
    obtain ⟨newArray, hmerge, hresult⟩ := foldlM_mergeRelayOverride hdistinct hcurrent hchanges
    exact ⟨patch, entries, newArray, hparse, hpatch, hmerge, (readAll_of_fieldsOf hresult _).mpr hread⟩

end

end MullvadVpn.Patch
