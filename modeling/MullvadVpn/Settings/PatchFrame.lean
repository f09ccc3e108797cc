import MullvadVpn.Settings.Patch

/-!
What a settings patch can change. Both traversals go along the same tree, so that a patch which is accepted
holds only permitted keys and its merge is never stopped for an unknown key or for its depth. All a patch
does is then to merge its entries into the overrides.
-/

namespace MullvadVpn.Patch

open Systems Relays PermittedKey List Option Json
open Fallible

section

variable {levels : Nat} {permittedKey : PermittedKey} {value : Json} {strategy : MergeStrategy}
  {u : Unit}

theorem validate_object_eq_ok {subkeys} :
    validatePatchValue (levels + 1) (.mk (.object subkeys) strategy) value = .ok u ↔
      ∃ fields, value = .object fields ∧ ∀ field ∈ fields, ∃ subkey,
        subkeys.lookup field.1 = some subkey ∧ validatePatchValue levels subkey field.2 = .ok () := by
  rw [validatePatchValue]
  simp only [keyType, bind_eq_ok, okOr_eq_ok, asObject_eq_some, forM_eq_ok]
  refine exists_congr fun fields => and_congr_right fun _ => forall₂_congr fun field _ => ?_
  cases subkeys.lookup field.1 <;> simp

theorem validate_array_eq_ok {subkey} :
    validatePatchValue (levels + 1) (.mk (.array subkey) strategy) value = .ok u ↔
      ∃ items, value = .array items ∧ ∀ item ∈ items, validatePatchValue levels subkey item = .ok () := by
  rw [validatePatchValue]
  simp only [keyType, bind_eq_ok, okOr_eq_ok, asArray_eq_some, forM_eq_ok]

theorem permits_of_validate {inner : Json} {steps}
    (h : validatePatchValue levels permittedKey value = .ok u)
    (hinner : value.follow steps = some inner) : permittedKey.permits steps = true := by
  induction steps generalizing levels permittedKey value u with
  | nil => obtain ⟨_ | _ | _, _⟩ := permittedKey <;> simp [permits]
  | cons step steps ih =>
    cases levels with
    | zero => cases h
    | succ levels =>
      obtain ⟨subkeys | subkey | _, strategy⟩ := permittedKey
      · obtain ⟨fields, rfl, hfields⟩ := validate_object_eq_ok.mp h
        cases step with
        | item i => cases hinner
        | key k =>
          obtain ⟨next, hnext, hrest⟩ := bind_eq_some_iff.mp hinner
          obtain ⟨subkey, hsubkey, hvalid⟩ := hfields (k, next) (mem_of_lookup hnext)
          rw [permits, hsubkey]
          exact ih hvalid hrest
      · obtain ⟨items, rfl, hitems⟩ := validate_array_eq_ok.mp h
        cases step with
        | key k => cases hinner
        | item i =>
          obtain ⟨next, hnext, hrest⟩ := bind_eq_some_iff.mp hinner
          rw [permits]
          exact ih (hitems next (mem_of_getElem? hnext)) hrest
      · rw [permits]

end

/-- An error that says that the patch should not have been accepted. -/
def Error.isRejection : Error → Bool
  | .unknownOrProhibitedKey _ | .recursionLimit => true
  | _ => false

/-- The functions that the tree calls do not reject values, as deep as it is followed. -/
def NeverRejects : Nat → PermittedKey → Prop
  | 0, _ => True
  | levels + 1, permittedKey =>
    (∀ mergeFunction, permittedKey.mergeStrategy = .custom mergeFunction →
      ∀ current patch error, mergeFunction current patch = .error error → error.isRejection = false) ∧
    ∀ subkeys, permittedKey.keyType = .object subkeys → ∀ k subkey, subkeys.lookup k = some subkey →
      NeverRejects levels subkey

theorem merge_object (levels : Nat) (subkeys : List (String × PermittedKey))
    (fields patch : List (String × Json)) :
    mergePatchToValue (levels + 1) (.object subkeys) (.object fields) (.object patch) = do
      let fields ← patch.foldlM (mergeField (mergePatchToValue levels) subkeys) fields
      return .object fields :=
  rfl

variable {error : Error} {levels : Nat}

theorem merge_replace_eq_error {keyType} {current patch : Json}
    (h : mergePatchToValue (levels + 1) (.mk keyType .replace) current patch = .error error) :
    ∃ subkeys fields patchFields, keyType = .object subkeys ∧ patch = .object patchFields ∧
      patchFields.foldlM (mergeField (mergePatchToValue levels) subkeys) fields = .error error := by
  cases keyType with
  | any | array => cases h
  | object subkeys =>
    cases current with
    | null | bool | number | string | array => cases h
    | object fields =>
      cases patch with
      | null | bool | number | string | array => cases h
      | object patchFields =>
        rcases bind_eq_error.mp h with hloop | ⟨_, -, hreturn⟩
        · exact ⟨subkeys, fields, patchFields, rfl, rfl, hloop⟩
        · cases hreturn

/-- The merge of a patch that was accepted is not stopped for an unknown key or for its depth. -/
theorem isRejection_of_merge {permittedKey} {current patch : Json}
    {u : Unit} (hnever : NeverRejects levels permittedKey)
    (hvalid : validatePatchValue levels permittedKey patch = .ok u)
    (h : mergePatchToValue levels permittedKey current patch = .error error) : error.isRejection = false := by
  induction levels generalizing permittedKey current patch error u with
  | zero => cases hvalid
  | succ levels ih =>
    obtain ⟨keyType, _ | mergeFunction⟩ := permittedKey
    · obtain ⟨subkeys, fields, patchFields, rfl, rfl, hloop⟩ := merge_replace_eq_error h
      obtain ⟨_, hsame, hfields⟩ := validate_object_eq_ok.mp hvalid
      cases hsame
      refine foldlM_error (P := fun error => error.isRejection = false)
        (fun current field hfield error hround => ?_) hloop
      obtain ⟨subkey, hsubkey, hsubvalid⟩ := hfields field hfield
      simp only [mergeField, hsubkey, bind_eq_error] at hround
      rcases hround with hmerge | ⟨_, -, hreturn⟩
      · exact ih (hnever.2 subkeys rfl field.1 subkey hsubkey) hsubvalid hmerge
      · cases hreturn
    · exact hnever.1 mergeFunction rfl current patch error h

theorem isRejection_of_mergeRelayOverride {newArray} {patchOverride : Json}
    (h : mergeRelayOverride newArray patchOverride = .error error) : error.isRejection = false := by
  simp only [mergeRelayOverride, bind_eq_error, okOr_eq_error] at h
  rcases h with ⟨-, rfl⟩ | ⟨_, -, ⟨-, rfl⟩ | ⟨hostname, -, h⟩⟩
  · rfl
  · rfl
  · cases hfind : newArray.findIdx? (hasHostname hostname) with
    | none =>
      rw [hfind] at h
      cases h
    | some index =>
      simp only [hfind] at h
      split at h <;> cases h
      rfl

theorem lookup_permittedSubkeys {k subkey} :
    [("relay_overrides", (array permittedOverride).withMergeStrategy
        (.custom mergeRelayOverrides))].lookup k = some subkey ↔
      k = "relay_overrides" ∧ subkey = .mk (.array permittedOverride) (.custom mergeRelayOverrides) := by
  by_cases hk : k = "relay_overrides"
  · subst hk
    simp [PermittedKey.withMergeStrategy, PermittedKey.array, PermittedKey.keyType, eq_comm]
  · simp [lookup_cons, hk, beq_eq_false_iff_ne.mpr hk]

theorem neverRejects_permittedSubkeys (levels : Nat) : NeverRejects levels permittedSubkeys := by
  cases levels with
  | zero => trivial
  | succ levels =>
    refine ⟨nofun, ?_⟩
    rintro _ ⟨⟩ k subkey hsubkey
    obtain ⟨-, rfl⟩ := lookup_permittedSubkeys.mp hsubkey
    cases levels with
    | zero => trivial
    | succ levels =>
      refine ⟨?_, nofun⟩
      rintro _ ⟨⟩ current patch error h
      unfold mergeRelayOverrides at h
      split at h
      · cases h
      simp only [bind_eq_error, okOr_eq_error] at h
      rcases h with ⟨-, rfl⟩ | ⟨_, -, ⟨-, rfl⟩ | ⟨_, -, hloop | ⟨_, -, hreturn⟩⟩⟩
      · rfl
      · rfl
      · exact foldlM_error (P := fun error => error.isRejection = false)
          (fun _ _ _ _ => isRejection_of_mergeRelayOverride) hloop
      · cases hreturn

/-- An entry of a patch: an object with fields of an override. -/
def IsEntry (value : Json) : Prop :=
  ∃ fields, value = .object fields ∧ ∀ field ∈ fields, field.1 ∈ ["hostname", "ipv4_addr_in", "ipv6_addr_in"]

/-- A patch with the given entries, or one with nothing in it. -/
def IsPatch (patch : Json) (entries : List Json) : Prop :=
  (patch = .object [] ∧ entries = [] ∨ patch = .object [("relay_overrides", .array entries)]) ∧
    ∀ entry ∈ entries, IsEntry entry

theorem IsPatch.entries_eq {patch : Json} {entries entries'} (h : IsPatch patch entries)
    (h' : IsPatch patch entries') : entries = entries' := by
  obtain ⟨⟨rfl, rfl⟩ | rfl, -⟩ := h
  · obtain ⟨⟨-, rfl⟩ | hpatch, -⟩ := h'
    · rfl
    · cases hpatch
  · obtain ⟨⟨hpatch, -⟩ | hpatch, -⟩ := h'
    · cases hpatch
    · cases hpatch
      rfl

theorem validate_entry_iff {value : Json} {u : Unit} :
    validatePatchValue (levels + 2) permittedOverride value = .ok u ↔ IsEntry value := by
  rw [permittedOverride, PermittedKey.object, validate_object_eq_ok]
  refine exists_congr fun fields => and_congr_right fun _ => forall₂_congr fun field _ => ?_
  constructor
  · rintro ⟨subkey, hsubkey, -⟩
    obtain ⟨before, after, hkeys, -⟩ := lookup_eq_some_iff.mp hsubkey
    have hmem : (field.1, subkey) ∈ [("hostname", PermittedKey.any), ("ipv4_addr_in", .any),
        ("ipv6_addr_in", .any)] := by
      rw [hkeys]
      exact mem_append_right _ (mem_cons_self ..)
    simpa using mem_map_of_mem (f := Prod.fst) hmem
  · intro hmem
    refine ⟨.any, ?_, rfl⟩
    simp only [mem_cons, not_mem_nil, or_false] at hmem
    rcases hmem with h | h | h <;> rw [h] <;> rfl

theorem fields_of_key {fields : List (String × Json)} {key : String} (hnodup : (fields.map Prod.fst).Nodup)
    (h : ∀ field ∈ fields, field.1 = key) : fields = [] ∨ ∃ value, fields = [(key, value)] := by
  match fields, hnodup, h with
  | [], _, _ => exact .inl rfl
  | [(k, value)], _, h =>
    obtain rfl : k = key := h _ (mem_singleton_self _)
    exact .inr ⟨value, rfl⟩
  | a :: b :: fields, hnodup, h =>
    have hsame : a.1 = b.1 := (h a (by simp)).trans (h b (by simp)).symm
    simp [hsame] at hnodup

theorem validate_permittedSubkeys_iff {patch : Json} {depth : Nat} {u : Unit}
    (hordered : patch.Ordered depth) :
    validatePatchValue recurseLimit permittedSubkeys patch = .ok u ↔ ∃ entries, IsPatch patch entries := by
  have hoverrides : ∀ k value, (∃ subkey, [("relay_overrides",
      (array permittedOverride).withMergeStrategy (.custom mergeRelayOverrides))].lookup k =
        some subkey ∧ validatePatchValue 14 subkey value = .ok ()) ↔
      k = "relay_overrides" ∧ ∃ entries, value = .array entries ∧ ∀ entry ∈ entries, IsEntry entry := by
    intro k value
    simp only [lookup_permittedSubkeys]
    constructor
    · rintro ⟨_, ⟨hk, rfl⟩, hvalid⟩
      obtain ⟨entries, hentries, hvalid⟩ := validate_array_eq_ok.mp hvalid
      exact ⟨hk, entries, hentries, fun entry hmem => validate_entry_iff.mp (hvalid entry hmem)⟩
    · rintro ⟨hk, entries, hentries, hvalid⟩
      exact ⟨_, ⟨hk, rfl⟩, validate_array_eq_ok.mpr
        ⟨entries, hentries, fun entry hmem => validate_entry_iff.mpr (hvalid entry hmem)⟩⟩
  rw [recurseLimit, permittedSubkeys, PermittedKey.object, validate_object_eq_ok]
  simp only [hoverrides]
  constructor
  · rintro ⟨fields, rfl, hfields⟩
    have hnodup : (fields.map Prod.fst).Nodup := by
      cases depth with
      | zero => cases hordered
      | succ depth => exact hordered.1.nodup
    rcases fields_of_key hnodup fun field hmem => (hfields field hmem).1 with rfl | ⟨value, rfl⟩
    · exact ⟨[], .inl ⟨rfl, rfl⟩, nofun⟩
    · obtain ⟨-, entries, rfl, hentries⟩ := hfields _ (mem_singleton_self _)
      exact ⟨entries, .inr rfl, hentries⟩
  · rintro ⟨entries, ⟨rfl, rfl⟩ | rfl, hentries⟩
    · exact ⟨[], rfl, nofun⟩
    · refine ⟨_, rfl, fun field hmem => ?_⟩
      obtain rfl := mem_singleton.mp hmem
      exact ⟨rfl, entries, rfl, hentries⟩

theorem merge_isPatch {value patch : Json} {entries} (hvalue : value.isObject = true)
    (hpatch : IsPatch patch entries) (current : List Json) :
    mergePatchToValue recurseLimit permittedSubkeys (value.insert "relay_overrides" (.array current)) patch = do
      let newArray ← entries.foldlM mergeRelayOverride current
      return value.insert "relay_overrides" (.array newArray) := by
  obtain ⟨fields, rfl⟩ := isObject_iff.mp hvalue
  obtain ⟨⟨rfl, rfl⟩ | rfl, -⟩ := hpatch
  · rfl
  · have hcurrent : (insertField "relay_overrides" (.array current) fields).lookup
        "relay_overrides" = some (.array current) := by
      rw [lookup_insertField, if_pos rfl]
    have hmerge : mergePatchToValue 14 (.mk (.array permittedOverride) (.custom mergeRelayOverrides))
        (.array current) (.array entries) = do
      let newArray ← entries.foldlM mergeRelayOverride current
      return .array newArray := rfl
    change mergePatchToValue (14 + 1) (.object _)
      (.object (insertField "relay_overrides" (.array current) fields)) (.object _) = _
    rw [merge_object, foldlM_cons, mergeField, lookup_permittedSubkeys.mpr ⟨rfl, rfl⟩, hcurrent]
    simp only [getD_some, hmerge]
    cases entries.foldlM mergeRelayOverride current with
    | error error => rfl
    | ok newArray =>
      exact congrArg (fun fields => Except.ok (Json.object fields))
        (insertField_insertField "relay_overrides" (.array current) (.array newArray) fields)

section

variable {Other : Type} {formats : Formats Other} {settings settings' : Settings Other}
  {jsonPatch : String}

theorem fromValue_insert {value : Json} {other} (hvalue : value.isObject = true)
    (hother : formats.readOther value = some other) (overrides : List Json) :
    fromValue formats (value.insert "relay_overrides" (.array overrides)) =
      ((relayOverride formats).readAll overrides).map fun relayOverrides => ⟨relayOverrides, other⟩ := by
  have hall : readOverrides formats (some (.array overrides)) = (relayOverride formats).readAll overrides := rfl
  rw [fromValue, formats.readOther_insert _ _ hvalue, hother, get_insert hvalue, if_pos rfl, hall]
  cases (relayOverride formats).readAll overrides <;> rfl

/-- A patch is accepted if all its entries can be merged into the overrides and the result can be read.
It leaves the other settings as they were. -/
theorem mergeValidatePatchInner_eq_ok :
    mergeValidatePatchInner formats settings jsonPatch = .ok settings' ↔
      (formats.writeOther settings.other).isSome ∧ settings'.other = settings.other ∧
        ∃ patch entries newArray, formats.json.parse jsonPatch = some patch ∧ IsPatch patch entries ∧
          entries.foldlM mergeRelayOverride
            (settings.relayOverrides.map (overrideToJson formats)) = .ok newArray ∧
          (relayOverride formats).readAll newArray = some settings'.relayOverrides := by
  unfold mergeValidatePatchInner toValue
  cases hwrite : formats.writeOther settings.other with
  | none => exact iff_of_false nofun nofun
  | some value =>
    have hvalue := formats.isObject_of_writeOther _ _ hwrite
    have hread := formats.readOther_writeOther _ _ hwrite
    simp only [bind_eq_ok, okOr_eq_ok, map_some, some.injEq, isSome_some, true_and, exists_eq_left']
    constructor
    · rintro ⟨patch, hparse, ⟨⟩, hvalid, merged, hmerge, hfrom⟩
      obtain ⟨entries, hpatch⟩ :=
        (validate_permittedSubkeys_iff (formats.json.ordered_of_parse _ _ hparse)).mp hvalid
      rw [Serde.list, merge_isPatch hvalue hpatch, bind_eq_ok] at hmerge
      obtain ⟨newArray, hloop, hmerged⟩ := hmerge
      cases hmerged
      rw [fromValue_insert hvalue hread, map_eq_some_iff] at hfrom
      obtain ⟨relayOverrides, hall, rfl⟩ := hfrom
      exact ⟨rfl, patch, entries, newArray, hparse, hpatch, hloop, hall⟩
    · rintro ⟨hother, patch, entries, newArray, hparse, hpatch, hloop, hall⟩
      refine ⟨patch, hparse, (), (validate_permittedSubkeys_iff
        (formats.json.ordered_of_parse _ _ hparse)).mpr ⟨entries, hpatch⟩,
        value.insert "relay_overrides" (.array newArray), ?_, ?_⟩
      · rw [Serde.list, merge_isPatch hvalue hpatch]
        exact bind_eq_ok.mpr ⟨newArray, hloop, rfl⟩
      · rw [fromValue_insert hvalue hread, hall, ← hother]
        rfl

/-- A patch that is accepted changes at most the overrides, a patch with a key at a place where the tree does
not permit it is not accepted, and the merge of a value that passed the validation is never stopped for an
unknown key or for its depth. -/
theorem patch_changes_only_overrides (formats : Formats Other) :
    (∀ settings jsonPatch settings', mergeValidatePatchInner formats settings jsonPatch = .ok settings' →
        settings'.other = settings.other) ∧
    (∀ settings jsonPatch patch path key, formats.json.parse jsonPatch = some patch →
      (patch.follow (path ++ [.key key])).isSome →
      permittedSubkeys.permits (path ++ [.key key]) = false →
        ∃ error, mergeValidatePatchInner formats settings jsonPatch = .error error) ∧
    ∀ current patch, validatePatchValue recurseLimit permittedSubkeys patch = .ok () →
      ∀ error, mergePatchToValue recurseLimit permittedSubkeys current patch = .error error →
        error ≠ .recursionLimit ∧ ∀ key, error ≠ .unknownOrProhibitedKey key := by
  refine ⟨fun settings jsonPatch settings' h => (mergeValidatePatchInner_eq_ok.mp h).2.1, ?_, ?_⟩
  · intro settings jsonPatch patch path key hparse hoccurs hprohibited
    obtain ⟨inner, hinner⟩ := isSome_iff_exists.mp hoccurs
    cases h : mergeValidatePatchInner formats settings jsonPatch with
    | error error => exact ⟨error, rfl⟩
    | ok settings' =>
      obtain ⟨-, -, _, entries, -, hparse', hpatch, -⟩ := mergeValidatePatchInner_eq_ok.mp h
      cases hparse.symm.trans hparse'
      have hvalid := (validate_permittedSubkeys_iff (u := ())
        (formats.json.ordered_of_parse _ _ hparse)).mpr ⟨entries, hpatch⟩
      rw [permits_of_validate hvalid hinner] at hprohibited
      cases hprohibited
  · intro current patch hvalid error h
    have hfalse := isRejection_of_merge (neverRejects_permittedSubkeys recurseLimit) hvalid h
    constructor
    · rintro rfl
      cases hfalse
    · rintro key rfl
      cases hfalse

end

namespace Sample

def json (value : Json) (h : value.Ordered 127) : JsonText where
  parse text := if text = "patch" then some value else none
  print other := if other = value then some "patch" else none
  ordered_of_parse text other hparse := by
    obtain ⟨-, hvalue⟩ := ite_none_right_eq_some.mp hparse
    cases hvalue
    exact h
  parse_print other text _ hprint := by
    obtain ⟨rfl, htext⟩ := ite_none_right_eq_some.mp hprint
    cases htext
    rfl

def formats (value : Json) (h : value.Ordered 127) : Formats Unit where
  json := json value h
  ipv4 := Settings.Sample.unary BitVec.toNat (BitVec.ofNat 32) fun _ => by simp
  ipv6 := Settings.Sample.unary BitVec.toNat (BitVec.ofNat 128) fun _ => by simp
  writeOther _ := some (.object [])
  readOther _ := some ()
  isObject_of_writeOther := by simp [isObject]
  readOther_writeOther := by simp
  readOther_insert := by simp

def patch : Json :=
  .object [("relay_overrides", .array [.object [("hostname", .string "se-got"),
    ("ipv4_addr_in", .string "111")]])]

def prohibitedPatch : Json := .object [("allow_lan", .bool true)]

theorem ordered_patch : patch.Ordered 127 := by
  refine ⟨pairwise_singleton _ _, fun field hfield => ?_⟩
  rw [mem_singleton.mp hfield]
  intro item hitem
  rw [mem_singleton.mp hitem]
  refine ⟨pairwise_pair.mpr (by decide), fun field hfield => ?_⟩
  simp only [mem_cons, not_mem_nil, or_false] at hfield
  rcases hfield with rfl | rfl <;> trivial

theorem ordered_prohibitedPatch : prohibitedPatch.Ordered 127 := by
  refine ⟨pairwise_singleton _ _, fun field hfield => ?_⟩
  rw [mem_singleton.mp hfield]
  trivial

end Sample

/-- A patch with an override is accepted, and one that allows local traffic is not. -/
theorem patch_changes_only_overrides_sample :
    (∃ settings', mergeValidatePatchInner (Sample.formats Sample.patch Sample.ordered_patch) ⟨[], ()⟩
        "patch" = .ok settings' ∧ settings'.relayOverrides = [⟨"se-got", some 3, none⟩] ∧
        settings'.other = ()) ∧
      ∃ error, mergeValidatePatchInner
        (Sample.formats Sample.prohibitedPatch Sample.ordered_prohibitedPatch) ⟨[], ()⟩ "patch" =
          .error error := by
  constructor
  · have haccepted : mergeValidatePatchInner (Sample.formats Sample.patch Sample.ordered_patch)
        ⟨[], ()⟩ "patch" = .ok ⟨[⟨"se-got", some 3, none⟩], ()⟩ := rfl
    exact ⟨_, haccepted, rfl, (patch_changes_only_overrides _).1 _ _ _ haccepted⟩
  · exact (patch_changes_only_overrides _).2.1 _ _ Sample.prohibitedPatch [] "allow_lan" rfl rfl rfl

end MullvadVpn.Patch
