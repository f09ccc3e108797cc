import MullvadVpn.Settings.PatchFields

/-!
What a settings patch does to the overrides: where they are after it and which addresses they have, that the
same patch once more does nothing, and that what was exported is imported again.
-/

namespace MullvadVpn.Patch

open Systems Relays MullvadVpn.Settings List Sample Option Merging
open OverrideFields (ipv4AddrIn ipv6AddrIn read read_eq_some read_write write)

variable {previous new : RelayOverride} {index : Nat} {jsonPatch : String}

def mentions (entries : List Json) : List String :=
  entries.filterMap fun entry => (entry.get "hostname").bind Json.asStr

/-- The last value for a field in the entries with a hostname. -/
def lastGiven (entries : List Json) (hostname field : String) : Option Json :=
  (entries.filter (hasHostname hostname)).reverse.findSome? fun entry => entry.get field

/-- The new address is the one that was given, or else the previous one. -/
def TakesAddress {α : Type} (format : TextFormat α) (given : Option Json) (previous new : Option α) :
    Prop :=
  match given with
  | some value => addressOfJson format (some value) = some new
  | none => new = previous

section

variable {Other : Type} (formats : Formats Other)

/-- Both addresses of an override come from the entries with its hostname, or else from before. -/
def TakesAddresses (entries : List Json) (previous new : RelayOverride) : Prop :=
  TakesAddress formats.ipv4 (lastGiven entries new.hostname "ipv4_addr_in") previous.ipv4AddrIn new.ipv4AddrIn ∧
    TakesAddress formats.ipv6 (lastGiven entries new.hostname "ipv6_addr_in") previous.ipv6AddrIn new.ipv6AddrIn

/-- The overrides before and after a patch with the given entries. -/
structure Merged (entries : List Json) (before after : List RelayOverride) : Prop where
  /-- New hostnames are appended in the order in which they are first mentioned. -/
  hostnames : after.map (·.hostname) = before.map (·.hostname) ++
    ((mentions entries).filter (· ∉ before.map (·.hostname))).eraseDups
  /-- An override stays as it is and where it is if its hostname is not mentioned, and also if an earlier
  override has the same hostname. -/
  unchanged : ∀ index relayOverride, before[index]? = some relayOverride →
    relayOverride.hostname ∉ mentions entries ∨ relayOverride.hostname ∈ (before.take index).map (·.hostname) →
    after[index]? = some relayOverride
  /-- Where a mentioned hostname is first, the addresses are those that were given last. -/
  addresses : ∀ index relayOverride, after[index]? = some relayOverride →
    relayOverride.hostname ∈ mentions entries →
    relayOverride.hostname ∉ (after.take index).map (·.hostname) →
    TakesAddresses formats entries (before[index]?.getD (.empty relayOverride.hostname)) relayOverride

variable {formats} {entries : List Json} {changes : List OverrideFields}
  {α : Type} {given : Option Json}

theorem TakesAddress.again {format : TextFormat α} {previous new : Option α}
    (h : TakesAddress format given previous new) : TakesAddress format given new new := by
  cases given with
  | none => rfl
  | some value => exact h

theorem TakesAddresses.again (h : TakesAddresses formats entries previous new) :
    TakesAddresses formats entries new new :=
  ⟨h.1.again, h.2.again⟩

variable {hostname : String}

theorem lastGiven_of_not_mentioned (h : hostname ∉ mentions entries)
    (field : String) : lastGiven entries hostname field = none := by
  have hnone : entries.filter (hasHostname hostname) = [] := by
    refine filter_eq_nil_iff.mpr fun entry hmem hhas => h ?_
    refine mem_filterMap.mpr ⟨entry, hmem, ?_⟩
    unfold hasHostname at hhas
    cases hfound : entry.get "hostname" with
    | none => simp [hfound] at hhas
    | some found => simpa [hfound] using hhas
  rw [lastGiven, hnone]
  rfl

theorem TakesAddresses.eq_of_not_mentioned (h : TakesAddresses formats entries previous new)
    (hhostname : previous.hostname = new.hostname) (hnot : previous.hostname ∉ mentions entries) :
    new = previous := by
  rw [hhostname] at hnot
  unfold TakesAddresses at h
  rw [lastGiven_of_not_mentioned hnot, lastGiven_of_not_mentioned hnot] at h
  obtain ⟨hipv4, hipv6⟩ := h
  cases previous
  cases new
  exact RelayOverride.mk.injEq .. |>.mpr ⟨hhostname.symm, hipv4, hipv6⟩

theorem mentions_eq (hchanges : entries.map fieldsOf = changes.map some) :
    mentions entries = changes.map (·.hostname) := by
  have hname : ∀ entry : Json, (entry.get "hostname").bind Json.asStr = (fieldsOf entry).map (·.hostname) := by
    intro entry
    rw [fieldsOf, Option.map_map]
    exact map_id'.symm
  calc mentions entries = (entries.map fieldsOf).filterMap (Option.map (·.hostname)) := by
        rw [filterMap_map]
        exact congrArg (entries.filterMap ·) (funext hname)
    _ = changes.map (·.hostname) := by
        rw [hchanges, filterMap_map]
        simp

theorem lastGiven_eq {field : String} {get : OverrideFields → Option Json}
    (hget : ∀ entry change, fieldsOf entry = some change → entry.get field = get change)
    (hchanges : entries.map fieldsOf = changes.map some) (hostname : String) :
    lastGiven entries hostname field =
      (changes.filter fun change => change.hostname = hostname).reverse.findSome? get := by
  replace hchanges := Fallible.forall₂_of_map_eq hchanges
  unfold lastGiven
  induction hchanges with
  | nil => rfl
  | cons hchange _ ih =>
    rw [filter_cons, filter_cons, hasHostname_of_fieldsOf hchange]
    split
    · rw [reverse_cons, reverse_cons, findSome?_append, findSome?_append, ih]
      simp [hget _ _ hchange]
    · exact ih

theorem addressOfJson_or {format : TextFormat α} {stored : Option Json}
    {previous new : Option α} (h : addressOfJson format stored = some previous) :
    addressOfJson format (given.or stored) = some new ↔ TakesAddress format given previous new := by
  cases given with
  | none => simp [TakesAddress, h, eq_comm]
  | some value => rfl

variable {fields : OverrideFields}

theorem read_absorb_iff (hchanges : entries.map fieldsOf = changes.map some)
    (hprevious : fields.read formats = some previous) :
    (mergeFields.absorb changes fields).read formats = some new ↔
      previous.hostname = new.hostname ∧ TakesAddresses formats entries previous new := by
  obtain ⟨hhostname, hipv4, hipv6⟩ := read_eq_some.mp hprevious
  have hkey : (mergeFields.absorb changes fields).hostname = fields.hostname :=
    mergeFields.key_absorb changes fields
  have hipv4Given : (mergeFields.absorb changes fields).ipv4AddrIn =
      (lastGiven entries fields.hostname "ipv4_addr_in").or fields.ipv4AddrIn := by
    rw [lastGiven_eq (fun _ fields h => show _ = fields.ipv4AddrIn by
      obtain ⟨_, -, rfl⟩ := map_eq_some_iff.mp h; rfl) hchanges]
    exact mergeFields.field_absorb ipv4AddrIn (fun _ _ => rfl) changes fields
  have hipv6Given : (mergeFields.absorb changes fields).ipv6AddrIn =
      (lastGiven entries fields.hostname "ipv6_addr_in").or fields.ipv6AddrIn := by
    rw [lastGiven_eq (fun _ fields h => show _ = fields.ipv6AddrIn by
      obtain ⟨_, -, rfl⟩ := map_eq_some_iff.mp h; rfl) hchanges]
    exact mergeFields.field_absorb ipv6AddrIn (fun _ _ => rfl) changes fields
  rw [read_eq_some, hkey, hipv4Given, hipv6Given, addressOfJson_or hipv4,
    addressOfJson_or hipv6, hhostname, TakesAddresses]
  refine and_congr_right fun hsame => ?_
  rw [hsame]

variable {relayOverrides : List RelayOverride}

theorem hostnames_of_read {fields : List OverrideFields}
    (h : fields.map (read formats) = relayOverrides.map some) :
    relayOverrides.map (·.hostname) = fields.map mergeFields.key := by
  replace h := Fallible.forall₂_of_map_eq h
  induction h with
  | nil => rfl
  | cons hfirst _ ih =>
    rw [map_cons, map_cons, ih, ← (read_eq_some.mp hfirst).1]
    rfl

theorem read_getElem? {fields : List OverrideFields}
    (h : fields.map (read formats) = relayOverrides.map some) (index : Nat) :
    fields[index]?.map (read formats) = relayOverrides[index]?.map some := by
  rw [← getElem?_map, h, getElem?_map]

section

variable {before after : List RelayOverride}

theorem getElem?_write {relayOverride : RelayOverride} (h : before[index]? = some relayOverride) :
    (before.map (write formats))[index]? = some (.write formats relayOverride) := by
  rw [getElem?_map, h]
  rfl

theorem key_write (relayOverrides : List RelayOverride) :
    (relayOverrides.map (write formats)).map mergeFields.key = relayOverrides.map (·.hostname) := by
  rw [List.map_map]
  rfl

variable (formats) in
theorem read_at_old_place (hchanges : entries.map fieldsOf = changes.map some)
    (hprevious : before[index]? = some previous) :
    ∃ fields, (mergeFields.upsertAll changes (before.map (.write formats)))[index]? = some fields ∧
      ∀ new, fields.read formats = some new ↔
        if previous.hostname ∈ (before.take index).map (·.hostname) then previous = new
        else previous.hostname = new.hostname ∧ TakesAddresses formats entries previous new := by
  have hkeys : ((before.map (write formats)).take index).map mergeFields.key =
      (before.take index).map (·.hostname) := by
    rw [← map_take, key_write]
  have hkey : mergeFields.key (.write formats previous) = previous.hostname := rfl
  refine ⟨_, getElem?_upsertAll (getElem?_write hprevious), fun new => ?_⟩
  rw [hkeys, hkey]
  by_cases hearlier : previous.hostname ∈ (before.take index).map (·.hostname)
  · rw [if_pos hearlier, if_pos hearlier, read_write, some.injEq]
  · rw [if_neg hearlier, if_neg hearlier]
    exact read_absorb_iff hchanges (read_write previous)

theorem merged_of_read (hchanges : entries.map fieldsOf = changes.map some)
    (hread : (mergeFields.upsertAll changes (before.map (.write formats))).map
      (read formats) = after.map some) : Merged formats entries before after := by
  have hhostnames : after.map (·.hostname) = before.map (·.hostname) ++
      ((mentions entries).filter (· ∉ before.map (·.hostname))).eraseDups := by
    rw [hostnames_of_read hread, map_key_upsertAll, newKeys, key_write, mentions_eq hchanges]
    rfl
  refine ⟨hhostnames, ?_, ?_⟩
  · intro index previous hbefore hcase
    obtain ⟨fields, hfields, hiff⟩ := read_at_old_place formats hchanges hbefore
    have hplace := read_getElem? hread index
    rw [hfields, map_some] at hplace
    obtain ⟨new, hafter, hnew⟩ := map_eq_some_iff.mp hplace.symm
    have hnew := (hiff new).mp hnew.symm
    split at hnew
    · rw [hafter, hnew]
    next hearlier =>
      rw [hafter, hnew.2.eq_of_not_mentioned hnew.1 (hcase.resolve_right hearlier)]
  · intro index new hafter hmentioned hfirst
    have hplace := read_getElem? hread index
    rw [hafter, map_some] at hplace
    obtain ⟨fields, hfields, hnew⟩ := map_eq_some_iff.mp hplace
    cases hbefore : before[index]? with
    | none =>
      have hlength : (before.map (write formats)).length ≤ index := by
        rw [length_map]
        exact getElem?_eq_none_iff.mp hbefore
      have hstart : (mergeFields.start fields.hostname).read formats = some (.empty fields.hostname) := rfl
      have habsorb : fields = mergeFields.absorb changes (mergeFields.start fields.hostname) :=
        getElem?_upsertAll_of_le hlength hfields
      rw [habsorb, read_absorb_iff hchanges hstart] at hnew
      obtain ⟨hhostname, htakes⟩ := hnew
      rwa [show fields.hostname = new.hostname from hhostname] at htakes
    | some previous =>
      obtain ⟨_, hfields', hiff⟩ := read_at_old_place formats hchanges hbefore
      cases hfields.symm.trans hfields'
      have hnew := (hiff new).mp hnew
      split at hnew
      next hearlier =>
        have htake : (after.take index).map (·.hostname) = (before.take index).map (·.hostname) := by
          have hlt := (List.getElem?_eq_some_iff.mp hbefore).1
          rw [map_take, hhostnames, take_append_of_le_length (by simp; omega), ← map_take]
        rw [← hnew, htake] at hfirst
        exact absurd hearlier hfirst
      · exact hnew.2

section

variable (h : Merged formats entries before after)

include h

theorem Merged.mem_of_mentioned
    (hmentioned : hostname ∈ mentions entries) : hostname ∈ after.map (·.hostname) := by
  rw [h.hostnames]
  by_cases hbefore : hostname ∈ before.map (·.hostname)
  · exact mem_append_left _ hbefore
  · refine mem_append_right _ (mem_eraseDups.mpr ?_)
    exact mem_filter.mpr ⟨hmentioned, decide_eq_true hbefore⟩

theorem Merged.nodup (hbefore : (before.map (·.hostname)).Nodup) : (after.map (·.hostname)).Nodup := by
  rw [h.hostnames, nodup_append]
  refine ⟨hbefore, nodup_eraseDups _, ?_⟩
  rintro hostname hold _ hnew rfl
  rw [mem_eraseDups, mem_filter] at hnew
  exact of_decide_eq_true hnew.2 hold

theorem Merged.hostname_of_before (hprevious : before[index]? = some previous)
    (hnew : after[index]? = some new) : previous.hostname = new.hostname := by
  have hlt : index < (before.map (·.hostname)).length := by
    rw [length_map]
    exact (List.getElem?_eq_some_iff.mp hprevious).1
  have hname := congrArg (·[index]?) h.hostnames
  rw [getElem?_append_left hlt] at hname
  simpa [hprevious, hnew, eq_comm] using hname

theorem Merged.hostname_of_new (hindex : before[index]? = none) (hnew : after[index]? = some new) :
    new.hostname ∈ mentions entries ∧ new.hostname ∉ before.map (·.hostname) := by
  have hle : (before.map (·.hostname)).length ≤ index := by
    rw [length_map]
    exact getElem?_eq_none_iff.mp hindex
  have hname : (after.map (·.hostname))[index]? = some new.hostname := by simp [hnew]
  rw [h.hostnames, getElem?_append_right hle] at hname
  have hmem := mem_of_getElem? hname
  rw [mem_eraseDups, mem_filter] at hmem
  exact ⟨hmem.1, of_decide_eq_true hmem.2⟩

end

theorem read_again (hchanges : entries.map fieldsOf = changes.map some)
    (hmerged : Merged formats entries before after) :
    (mergeFields.upsertAll changes (after.map (.write formats))).map (read formats) = after.map some := by
  have hkeys : (mergeFields.upsertAll changes (after.map (.write formats))).map mergeFields.key =
      after.map (·.hostname) := by
    have hnone : mergeFields.newKeys changes (after.map (.write formats)) = [] := by
      refine eq_nil_iff_forall_not_mem.mpr fun hostname hmem => ?_
      rw [mem_newKeys, key_write] at hmem
      exact hmem.2 (hmerged.mem_of_mentioned (by rw [mentions_eq hchanges]; exact hmem.1))
    rw [map_key_upsertAll, hnone, key_write, append_nil]
  have hlength : (mergeFields.upsertAll changes (after.map (.write formats))).length = after.length := by
    simpa using congrArg length hkeys
  refine ext_getElem? fun index => ?_
  rw [getElem?_map, getElem?_map]
  cases hafter : after[index]? with
  | none =>
    rw [getElem?_eq_none_iff] at hafter
    rw [getElem?_eq_none_iff.mpr (by omega)]
    rfl
  | some new =>
    obtain ⟨fields, hfields, hiff⟩ := read_at_old_place formats hchanges hafter
    rw [hfields, map_some, map_some, (hiff new).mpr]
    split
    · rfl
    next hfirst =>
      refine ⟨rfl, ?_⟩
      by_cases hmentioned : new.hostname ∈ mentions entries
      · exact (hmerged.addresses index new hafter hmentioned hfirst).again
      · rw [TakesAddresses, lastGiven_of_not_mentioned hmentioned, lastGiven_of_not_mentioned hmentioned]
        exact ⟨rfl, rfl⟩

end

variable (formats)

/-- The fields of an override without the addresses that it does not have. -/
def exportedFields (relayOverride : RelayOverride) : List (String × Json) :=
  [("hostname", .string relayOverride.hostname),
    ("ipv4_addr_in", addressToJson formats.ipv4 relayOverride.ipv4AddrIn),
    ("ipv6_addr_in", addressToJson formats.ipv6 relayOverride.ipv6AddrIn)].filter fun field => !field.2.isNull

/-- The change that an exported override makes. -/
def OverrideFields.exported (relayOverride : RelayOverride) : OverrideFields :=
  ⟨relayOverride.hostname, relayOverride.ipv4AddrIn.map formats.ipv4.serde.toJson,
    relayOverride.ipv6AddrIn.map formats.ipv6.serde.toJson⟩

variable (relayOverride : RelayOverride)

theorem exportOverride_eq : exportOverride formats relayOverride =
      if relayOverride.isEmpty then none else some (.object (exportedFields formats relayOverride)) := by
  obtain ⟨hostname, _ | ipv4AddrIn, _ | ipv6AddrIn⟩ := relayOverride <;>
    simp [exportOverride, overrideToJson, exportedFields, RelayOverride.isEmpty, RelayOverride.empty,
      addressToJson, TextFormat.serde, Serde.text, Json.isNull]

theorem addressOfJson_map (format : TextFormat α) (address : Option α) :
    addressOfJson format (address.map format.serde.toJson) = some address := by
  cases address with
  | none => rfl
  | some address => exact addressOfJson_addressToJson format (some address)

theorem textual_address (format : TextFormat α) (address : Option α) {depth : Nat}
    (h : (addressToJson format address).isNull = false) : (addressToJson format address).Textual depth := by
  cases address with
  | none => cases h
  | some address => cases depth <;> trivial

theorem textual_exportedFields : (Json.object (exportedFields formats relayOverride)).Textual 125 := by
  constructor
  · refine Json.Ascending.sublist ?_ filter_sublist
    change ["hostname", "ipv4_addr_in", "ipv6_addr_in"].Pairwise (· < ·)
    decide
  · intro field hmem
    obtain ⟨hmem, hnull⟩ := mem_filter.mp hmem
    simp only [mem_cons, not_mem_nil, or_false] at hmem
    rcases hmem with rfl | rfl | rfl
    · trivial
    all_goals exact textual_address _ _ (by simpa using hnull)

theorem exportedEntries_eq (relayOverrides : List RelayOverride) :
    relayOverrides.filterMap (exportOverride formats) =
      (relayOverrides.filter (!·.isEmpty)).map fun relayOverride =>
        .object (exportedFields formats relayOverride) := by
  induction relayOverrides with
  | nil => rfl
  | cons relayOverride relayOverrides ih =>
    rw [filterMap_cons, ih, exportOverride_eq]
    cases hempty : relayOverride.isEmpty <;> simp [hempty]

variable {formats} {settings : Settings Other}

/-- The text of exported settings is read as the entries of the overrides that are not empty. -/
theorem changes_exportSettings (h : exportSettings formats settings = .ok jsonPatch) :
    Changes formats jsonPatch (settings.relayOverrides.filterMap (exportOverride formats))
      ((settings.relayOverrides.filter (!·.isEmpty)).map (.exported formats)) := by
  have hentries := exportedEntries_eq formats settings.relayOverrides
  have htextual : (exportSettingsInner formats settings).Textual 127 := by
    unfold exportSettingsInner
    simp only
    split
    · exact ⟨List.Pairwise.nil, nofun⟩
    · refine ⟨pairwise_singleton _ _, fun field hfield => ?_⟩
      rw [mem_singleton.mp hfield, hentries]
      intro entry hentry
      obtain ⟨relayOverride, -, rfl⟩ := mem_map.mp hentry
      exact textual_exportedFields formats relayOverride
  have hprint := Fallible.okOr_eq_ok.mp h
  refine ⟨⟨_, formats.json.parse_print _ _ htextual hprint, ?_, ?_⟩, ?_⟩
  · unfold exportSettingsInner
    simp only
    split
    next hnone => exact .inl ⟨rfl, isEmpty_iff.mp hnone⟩
    · exact .inr rfl
  · intro entry hentry
    rw [hentries] at hentry
    obtain ⟨relayOverride, -, rfl⟩ := mem_map.mp hentry
    refine ⟨_, rfl, fun field hmem => ?_⟩
    simpa using mem_map_of_mem (f := Prod.fst) (mem_of_mem_filter hmem)
  · rw [hentries, List.map_map, List.map_map]
    refine map_congr_left fun relayOverride _ => ?_
    obtain ⟨hostname, _ | ipv4AddrIn, _ | ipv6AddrIn⟩ := relayOverride <;> rfl

variable {settings' : Settings Other}

theorem exists_merged (h : mergeValidatePatchInner formats settings jsonPatch = .ok settings') :
    ∃ patch entries, formats.json.parse jsonPatch = some patch ∧ IsPatch patch entries ∧
      Merged formats entries settings.relayOverrides settings'.relayOverrides := by
  obtain ⟨-, -, entries, changes, ⟨⟨patch, hparse, hpatch⟩, hchanges⟩, hread⟩ :=
    mergeValidatePatchInner_iff_changes.mp h
  exact ⟨patch, entries, hparse, hpatch, merged_of_read hchanges hread⟩

/-- An accepted patch merges its entries into the overrides, and once more has no effect. Exported overrides
with distinct hostnames are imported into settings without overrides as they were, except for the empty
ones. Nothing is imported into settings that cannot be serialised. -/
theorem patch_merges_overrides (formats : Formats Other) :
    (∀ settings jsonPatch settings', mergeValidatePatchInner formats settings jsonPatch = .ok settings' →
        (∃ patch entries, formats.json.parse jsonPatch = some patch ∧ IsPatch patch entries ∧
          Merged formats entries settings.relayOverrides settings'.relayOverrides) ∧
        mergeValidatePatchInner formats settings' jsonPatch = .ok settings') ∧
    ∀ (settings target : Settings Other) jsonPatch, (settings.relayOverrides.map (·.hostname)).Nodup →
      exportSettings formats settings = .ok jsonPatch → target.relayOverrides = [] →
        mergeValidatePatchInner formats target jsonPatch = if (formats.writeOther target.other).isSome then
            .ok { target with relayOverrides := settings.relayOverrides.filter (!·.isEmpty) }
          else .error .serializeSettings := by
  constructor
  · intro settings jsonPatch settings' h
    refine ⟨exists_merged h, ?_⟩
    obtain ⟨hwrite, hother, entries, changes, hchanges, hread⟩ :=
      mergeValidatePatchInner_iff_changes.mp h
    have hagain := read_again hchanges.2 (merged_of_read hchanges.2 hread)
    exact mergeValidatePatchInner_iff_changes.mpr ⟨by rwa [hother], rfl, entries, changes, hchanges, hagain⟩
  · intro settings target jsonPatch hnodup hexport htarget
    split
    next hwrite =>
      refine mergeValidatePatchInner_iff_changes.mpr ⟨hwrite, rfl, _, _, changes_exportSettings hexport, ?_⟩
      have hkeys : (((settings.relayOverrides.filter (!·.isEmpty)).map
          (.exported formats)).map mergeFields.key).Nodup := by
        rw [List.map_map]
        exact hnodup.sublist (filter_sublist.map _)
      rw [htarget, List.map_nil, Merging.upsertAll_of_nodup (l := []) hkeys, List.nil_append, List.map_map]
      exact map_congr_left fun _ _ =>
        read_eq_some.mpr ⟨rfl, addressOfJson_map _ _, addressOfJson_map _ _⟩
    next hwrite =>
      have hnone : formats.writeOther target.other = none := by simpa using hwrite
      rw [mergeValidatePatchInner, toValue, hnone]
      rfl

end

/-- One of two overrides takes an address, and settings with an empty override are exported. -/
theorem patch_merges_overrides_sample :
    (∃ entries, Merged (formats patch ordered_patch) entries
        [⟨"se-sto", some 1, none⟩, ⟨"se-got", none, some 2⟩]
        [⟨"se-sto", some 1, none⟩, ⟨"se-got", some 3, some 2⟩]) ∧
      mergeValidatePatchInner (formats patch ordered_patch) ⟨[], ()⟩ "patch" =
        .ok ⟨[⟨"se-got", some 3, none⟩, ⟨"se-sto", none, none⟩].filter (!·.isEmpty), ()⟩ := by
  constructor
  · have haccepted : mergeValidatePatchInner (formats patch ordered_patch)
        ⟨[⟨"se-sto", some 1, none⟩, ⟨"se-got", none, some 2⟩], ()⟩ "patch" =
          .ok ⟨[⟨"se-sto", some 1, none⟩, ⟨"se-got", some 3, some 2⟩], ()⟩ := rfl
    obtain ⟨_, entries, -, -, hmerged⟩ := ((patch_merges_overrides _).1 _ _ _ haccepted).1
    exact ⟨entries, hmerged⟩
  · have hexported : exportSettings (formats patch ordered_patch)
        ⟨[⟨"se-got", some 3, none⟩, ⟨"se-sto", none, none⟩], ()⟩ = .ok "patch" := rfl
    exact (patch_merges_overrides _).2 _ ⟨[], ()⟩ _ (by decide) hexported rfl

end MullvadVpn.Patch
