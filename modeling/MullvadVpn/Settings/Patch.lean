import MullvadVpn.Settings.Store
import MullvadVpn.Settings.Types
import MullvadVpn.Systems.JsonText

/-!
Settings patches (`mullvad-daemon/src/settings/patch.rs`). A patch is a JSON text. It is checked against the
tree of keys that it may hold, merged into the serialised settings, and the result is read as settings
again. The only setting that a patch may hold are the overrides of relays, which are merged by hostname.
-/

namespace MullvadVpn.Patch

open Systems Relays Settings
open Fallible

inductive Error where
  | invalidOrMissingValue (message : String)
  | unknownOrProhibitedKey (key : String)
  | parsePatch
  | deserializePatched
  | serializeSettings
  | serializeValue
  | recursionLimit
  | settings (error : Persister.Error Empty)

inductive MergeStrategy where
  /-- Replace or append keys to objects, and replace everything else. -/
  | replace
  /-- Call a function to combine an existing setting (which may be null) with the patch. -/
  | custom (mergeFunction : Json → Json → Except Error Json)

mutual

inductive PermittedKey where
  | mk (keyType : PermittedKeyValue) (mergeStrategy : MergeStrategy)

inductive PermittedKeyValue where
  /-- Select subkeys that can be modified at this level. -/
  | object (keys : List (String × PermittedKey))
  /-- Array that can be modified at this level. -/
  | array (key : PermittedKey)
  /-- Accept any object at this level. -/
  | any

end

namespace PermittedKey

def keyType : PermittedKey → PermittedKeyValue
  | mk keyType _ => keyType

def mergeStrategy : PermittedKey → MergeStrategy
  | mk _ mergeStrategy => mergeStrategy

def object (keys : List (String × PermittedKey)) : PermittedKey := mk (.object keys) .replace

def array (key : PermittedKey) : PermittedKey := mk (.array key) .replace

def any : PermittedKey := mk .any .replace

def withMergeStrategy (self : PermittedKey) (mergeStrategy : MergeStrategy) : PermittedKey :=
  mk self.keyType mergeStrategy

/-- The tree goes along the path, at least until any value is accepted. -/
def permits : PermittedKey → List Json.Step → Bool
  | mk .any _, _ => true
  | mk (.object _) _, [] | mk (.array _) _, [] => true
  | mk (.object keys) _, .key k :: steps =>
    match keys.lookup k with
    | some subkey => subkey.permits steps
    | none => false
  | mk (.array key) _, .item _ :: steps => key.permits steps
  | mk (.object _) _, .item _ :: _ | mk (.array _) _, .key _ :: _ => false

end PermittedKey

def hasHostname (hostname : String) (value : Json) : Bool :=
  (value.get "hostname").any fun found => found.asStr == some hostname

def mergeRelayOverride (newArray : List Json) (patchOverride : Json) : Except Error (List Json) := do
  let patchObj ← okOr patchOverride.asObject (.invalidOrMissingValue "override entry")
  let patchHostname ← okOr ((patchObj.lookup "hostname").bind Json.asStr) (.invalidOrMissingValue "hostname")
  match newArray.findIdx? (hasHostname patchHostname) with
  | some index =>
    match newArray[index]?, patchOverride with
    | some (.object current), .object patch =>
      return newArray.set index (.object (Json.insertAll current patch))
    | _, _ => .error (.invalidOrMissingValue "all override entries must be objects")
  | none => return newArray ++ [patchOverride]

def mergeRelayOverrides (currentSettings patch : Json) : Except Error Json :=
  if currentSettings.isNull then .ok patch
  else do
    let patchArray ← okOr patch.asArray (.invalidOrMissingValue "relay overrides must be array")
    let currentArray ← okOr currentSettings.asArray
      (.invalidOrMissingValue "existing overrides should be an array")
    let newArray ← patchArray.foldlM mergeRelayOverride currentArray
    return .array newArray

def permittedOverride : PermittedKey :=
  .object [("hostname", .any), ("ipv4_addr_in", .any), ("ipv6_addr_in", .any)]

def permittedSubkeys : PermittedKey :=
  .object [("relay_overrides",
    (PermittedKey.array permittedOverride).withMergeStrategy (.custom mergeRelayOverrides))]

def recurseLimit : Nat := 15

/-- The first argument is how far the level of recursion is from the limit. -/
def validatePatchValue : Nat → PermittedKey → Json → Except Error Unit
  | 0, _, _ => .error .recursionLimit
  | levels + 1, permittedKey, jsonValue =>
    match permittedKey.keyType with
    | .object subkeys => do
      let map ← okOr jsonValue.asObject (.invalidOrMissingValue "expected JSON object in patch")
      map.forM fun (k, v) =>
        match subkeys.lookup k with
        | none => .error (.unknownOrProhibitedKey k)
        | some subkey => validatePatchValue levels subkey v
    | .array subkey => do
      let values ← okOr jsonValue.asArray (.invalidOrMissingValue "expected JSON array in patch")
      values.forM fun v => validatePatchValue levels subkey v
    | .any => .ok ()

/-- One field of a patch, with a function that merges the values of fields. -/
def mergeField (merge : PermittedKey → Json → Json → Except Error Json)
    (subPermitted : List (String × PermittedKey)) (current : List (String × Json))
    (field : String × Json) : Except Error (List (String × Json)) :=
  match subPermitted.lookup field.1 with
  | none => .error (.unknownOrProhibitedKey field.1)
  | some subPermitted => do
    let subCurrent ← merge subPermitted ((current.lookup field.1).getD .null) field.2
    return Json.insertField field.1 subCurrent current

/-- The first argument is how far the level of recursion is from the limit. -/
def mergePatchToValue : Nat → PermittedKey → Json → Json → Except Error Json
  | 0, _, _, _ => .error .recursionLimit
  | levels + 1, permittedKey, currentValue, patchValue =>
    match permittedKey.mergeStrategy with
    | .replace =>
      match permittedKey.keyType, currentValue, patchValue with
      -- Append or replace keys to objects.
      | .object subPermitted, .object current, .object patch => do
        let current ← patch.foldlM (mergeField (mergePatchToValue levels) subPermitted) current
        return .object current
      -- Totally replace anything else.
      | _, _, patch => .ok patch
    | .custom mergeFunction => mergeFunction currentValue patchValue

/-- The settings: the overrides, and `other` for all other fields. -/
structure Settings (Other : Type) where
  relayOverrides : List RelayOverride
  other : Other
  deriving DecidableEq

/-- What is used of other libraries: JSON and addresses as texts, and how serde writes and reads the other
fields of the settings. These are read back as they were written, each from its own key. -/
structure Formats (Other : Type) where
  json : JsonText
  ipv4 : TextFormat (BitVec 32)
  ipv6 : TextFormat (BitVec 128)
  writeOther : Other → Option Json
  readOther : Json → Option Other
  isObject_of_writeOther : ∀ other value, writeOther other = some value → value.isObject = true
  readOther_writeOther : ∀ other value, writeOther other = some value → readOther value = some other
  readOther_insert : ∀ value overrides, value.isObject = true →
    readOther (value.insert "relay_overrides" overrides) = readOther value

def addressToJson {α : Type} (format : TextFormat α) : Option α → Json
  | some address => format.serde.toJson address
  | none => .null

/-- A missing field is read like a null. -/
def addressOfJson {α : Type} (format : TextFormat α) : Option Json → Option (Option α)
  | none | some .null => some none
  | some value => (format.serde.ofJson value).map some

section

variable {Other : Type} (formats : Formats Other)

def overrideToJson (relayOverride : RelayOverride) : Json :=
  .object [("hostname", .string relayOverride.hostname),
      ("ipv4_addr_in", addressToJson formats.ipv4 relayOverride.ipv4AddrIn),
      ("ipv6_addr_in", addressToJson formats.ipv6 relayOverride.ipv6AddrIn)]

/-- The fields are also accepted in their order as an array. -/
def overrideOfJson (value : Json) : Option RelayOverride :=
  let read (hostname ipv4AddrIn ipv6AddrIn : Option Json) : Option RelayOverride := do
    let hostname ← hostname.bind Json.asStr
    let ipv4AddrIn ← addressOfJson formats.ipv4 ipv4AddrIn
    let ipv6AddrIn ← addressOfJson formats.ipv6 ipv6AddrIn
    return ⟨hostname, ipv4AddrIn, ipv6AddrIn⟩
  match value with
  | .object _ => read (value.get "hostname") (value.get "ipv4_addr_in") (value.get "ipv6_addr_in")
  | .array [hostname, ipv4AddrIn, ipv6AddrIn] => read (some hostname) (some ipv4AddrIn) (some ipv6AddrIn)
  | _ => none

theorem addressOfJson_addressToJson {α : Type} (format : TextFormat α) (address : Option α) :
    addressOfJson format (some (addressToJson format address)) = some address := by
  cases address with
  | none => rfl
  | some address =>
    have hread := format.serde.ofJson_toJson address
    exact congrArg (Option.map some) hread

def relayOverride : Serde RelayOverride where
  toJson := overrideToJson formats
  ofJson := overrideOfJson formats
  ofJson_toJson relayOverride := by
    simp [overrideToJson, overrideOfJson, Json.get, List.lookup, Json.asStr, addressOfJson_addressToJson]

def toValue (settings : Settings Other) : Option Json :=
  (formats.writeOther settings.other).map fun value =>
    value.insert "relay_overrides" ((relayOverride formats).list.toJson settings.relayOverrides)

/-- The default is no overrides. -/
def readOverrides : Option Json → Option (List RelayOverride)
  | some overrides => (relayOverride formats).list.ofJson overrides
  | none => some []

/-- Only objects are read here. -/
def fromValue (value : Json) : Option (Settings Other) := do
  let other ← formats.readOther value
  let relayOverrides ← readOverrides formats (value.get "relay_overrides")
  return ⟨relayOverrides, other⟩

def mergeValidatePatchInner (settings : Settings Other) (jsonPatch : String) :
    Except Error (Settings Other) := do
  let settingsValue ← okOr (toValue formats settings) .serializeSettings
  let patchValue ← okOr (formats.json.parse jsonPatch) .parsePatch
  validatePatchValue recurseLimit permittedSubkeys patchValue
  let settingsValue ← mergePatchToValue recurseLimit permittedSubkeys settingsValue patchValue
  okOr (fromValue formats settingsValue) .deserializePatched

/-- An entry of the exported overrides: without its nulls, and only if there is more than a hostname. -/
def exportOverride (relayOverride : RelayOverride) : Option Json :=
  match overrideToJson formats relayOverride with
  | .object relayOverrides =>
    let relayOverrides := relayOverrides.filter fun field => !field.2.isNull
    if relayOverrides.any fun field => field.1 != "hostname" then some (.object relayOverrides)
    else none
  | value => some value

def exportSettingsInner (settings : Settings Other) : Json :=
  let overrides := settings.relayOverrides.filterMap (exportOverride formats)
  if overrides.isEmpty then .object [] else .object [("relay_overrides", .array overrides)]

def exportSettings (settings : Settings Other) : Except Error String :=
  okOr (formats.json.print (exportSettingsInner formats settings)) .serializeValue

variable {Rest Bytes : Type} [DecidableEq Rest] (format : Persister.Format Rest Bytes) (path : String)
  (settings : Lens (Persister.Settings Rest) (Settings Other))

def mergeValidatePatch (io : Persister.Io) (store : Persister.Store Rest Bytes) (jsonPatch : String) :
    Except Error Unit × Persister.Store Rest Bytes :=
  match mergeValidatePatchInner formats (settings.get store.settings) jsonPatch with
  | .error error => (.error error, store)
  | .ok newSettings =>
    match store.update format path settings (fun _ => newSettings) io with
    | (.ok _, store) => (.ok (), store)
    | (.error error, store) => (.error (.settings error), store)

end

end MullvadVpn.Patch
