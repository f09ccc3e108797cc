import MullvadVpn.Systems.Fallible
import MullvadVpn.Update.Format

/-!
Verification of version metadata (`format/deserializer.rs`, `format/key.rs`). A document holds a payload
and a list of signatures. The first signature of a trusted key decides: it has to be valid for the
canonical form of the payload, and signatures that come after it are not looked at. The payload is then
read once more from the canonical form, and rejected if it has expired or is too old. The formats and
the cryptography of external crates are parameters.
-/

namespace MullvadVpn.Update

open Systems Fallible

/-- What a signature says, before it is interpreted. -/
structure RawSignature where
  keytype : Option String
  keyid : String
  sig : String

structure RawDocument (Json : Type) where
  signatures : List RawSignature
  signed : Json

/-- What is taken from other crates: JSON, its canonical form, hexadecimal strings and ed25519. -/
structure Externals (Json Key Signature : Type) where
  fromSlice : List UInt8 → Option (RawDocument Json)
  valueFromSlice : List UInt8 → Option Json
  responseFromValue : Json → Option Response
  toCanonical : Json → Option (List UInt8)
  hexDecode : String → Option (List UInt8)
  keyFromBytes : List UInt8 → Option Key
  signatureFromBytes : List UInt8 → Signature
  verifyStrict : Key → List UInt8 → Signature → Bool

inductive ResponseSignature (Key Signature : Type) where
  | ed25519 (keyid : Key) (sig : Signature)
  | other (keyid sig : String)

structure PartialSignedResponse (Json Key Signature : Type) where
  signatures : List (ResponseSignature Key Signature)
  signed : Json

structure SignedResponse (Key Signature : Type) where
  signatures : List (ResponseSignature Key Signature)
  signed : Response

inductive MetadataError where
  | invalidVersionJson
  | unrecognizedKey
  | canonicalJson
  | signatureVerification
  | deserializeCanonical
  | deserializeResponse
  | expired (metadataExpiry : Int)
  | tooOld (metadataVersion minMetadataVersion : Nat)

def MetadataError.message : MetadataError → String
  | invalidVersionJson => "Invalid version JSON"
  | unrecognizedKey => "Unrecognized key"
  | canonicalJson => "Failed to serialize to canonical JSON"
  | signatureVerification => "Signature verification failed"
  | deserializeCanonical => "Failed to deserialize canonical JSON"
  | deserializeResponse => "Failed to deserialize response"
  | expired metadataExpiry => "Version metadata has expired: valid until " ++ toString metadataExpiry
  | tooOld metadataVersion minMetadataVersion =>
    "Version metadata is too old: " ++ toString metadataVersion ++ ", must be at least " ++
      toString minMetadataVersion

section Verification

variable {Json Key Signature : Type} (ext : Externals Json Key Signature)

def bytesFromHex (size : Nat) (hex : String) : Option (List UInt8) := do
  let bytes ← ext.hexDecode hex
  guard (bytes.length = size)
  return bytes

def verifyingKeyFromHex (keyid : String) : Option Key := do
  ext.keyFromBytes (← bytesFromHex ext 32 keyid)

def signatureFromHex (sig : String) : Option Signature := do
  return ext.signatureFromBytes (← bytesFromHex ext 64 sig)

/-- An entry that is not an ed25519 signature, or not a valid one, is of another kind. -/
def responseSignature (raw : RawSignature) : ResponseSignature Key Signature :=
  match raw.keytype, verifyingKeyFromHex ext raw.keyid, signatureFromHex ext raw.sig with
  | some "ed25519", some keyid, some sig => .ed25519 keyid sig
  | _, _, _ => .other raw.keyid raw.sig

/-- A document with its signatures interpreted and its payload left as it is. -/
def partialFromSlice (bytes : List UInt8) : Option (PartialSignedResponse Json Key Signature) :=
  (ext.fromSlice bytes).map fun document =>
    { signatures := document.signatures.map (responseSignature ext), signed := document.signed }

variable [DecidableEq Key]

/-- The key and signature of an entry, if the key is one of the given ones. -/
def trustedEntry (keys : List Key) : ResponseSignature Key Signature → Option (Key × Signature)
  | .ed25519 keyid sig => if keyid ∈ keys then some (keyid, sig) else none
  | .other _ _ => none

def deserializeAndVerify (keys : List Key) (bytes : List UInt8) :
    Except MetadataError (PartialSignedResponse Json Key Signature) := do
  let partialData ← okOr (partialFromSlice ext bytes) .invalidVersionJson
  -- If this entry turns out to be invalid, later ones are not tried.
  let entry ← okOr (partialData.signatures.findSome? (trustedEntry keys)) .unrecognizedKey
  let canonData ← okOr (ext.toCanonical partialData.signed) .canonicalJson
  ensure (ext.verifyStrict entry.1 canonData entry.2 = true) .signatureVerification
  let signed ← okOr (ext.valueFromSlice canonData) .deserializeCanonical
  return { signatures := partialData.signatures, signed }

def deserializeAndVerifyAtTime (keys : List Key) (bytes : List UInt8) (currentTime : Int)
    (minMetadataVersion : Nat) : Except MetadataError (SignedResponse Key Signature) := do
  let partialData ← deserializeAndVerify ext keys bytes
  let signed ← okOr (ext.responseFromValue partialData.signed) .deserializeResponse
  ensure (¬ currentTime ≥ signed.metadataExpiry) (.expired signed.metadataExpiry)
  ensure (¬ signed.metadataVersion < minMetadataVersion) (.tooOld signed.metadataVersion minMetadataVersion)
  return { signatures := partialData.signatures, signed }

/-- The first entry of a trusted key is valid. -/
def FirstTrustedValid (keys : List Key) (canonData : List UInt8)
    (signatures : List (ResponseSignature Key Signature)) : Prop :=
  ∃ before key sig after, signatures = before ++ .ed25519 key sig :: after ∧ key ∈ keys ∧
    (∀ key' sig', .ed25519 key' sig' ∈ before → key' ∉ keys) ∧ ext.verifyStrict key canonData sig = true

variable {keys : List Key} {signature : ResponseSignature Key Signature}

theorem trustedEntry_eq_none_iff :
    trustedEntry keys signature = none ↔ ∀ key sig, signature = .ed25519 key sig → key ∉ keys := by
  cases signature with
  | ed25519 keyid sig | other _ _ => simp [trustedEntry]

theorem trustedEntry_eq_some_iff {entry} :
    trustedEntry keys signature = some entry ↔ signature = .ed25519 entry.1 entry.2 ∧ entry.1 ∈ keys := by
  cases signature with
  | ed25519 keyid sig =>
    obtain ⟨key, sig'⟩ := entry
    by_cases hkey : keyid ∈ keys
    · simp only [trustedEntry, if_pos hkey, Option.some_inj, Prod.mk.injEq, ResponseSignature.ed25519.injEq]
      constructor
      · rintro ⟨rfl, rfl⟩
        exact ⟨⟨rfl, rfl⟩, hkey⟩
      · exact fun h => h.1
    · simp only [trustedEntry, if_neg hkey, ResponseSignature.ed25519.injEq]
      constructor
      · intro h
        cases h
      · rintro ⟨⟨rfl, _⟩, h⟩
        exact absurd h hkey
  | other _ _ => simp [trustedEntry]

theorem firstTrustedValid_iff {canonData}
    {signatures} :
    FirstTrustedValid ext keys canonData signatures ↔
      ∃ entry, signatures.findSome? (trustedEntry keys) = some entry ∧
        ext.verifyStrict entry.1 canonData entry.2 = true := by
  simp only [List.findSome?_eq_some_iff, trustedEntry_eq_some_iff, trustedEntry_eq_none_iff]
  constructor
  · rintro ⟨before, key, sig, after, hsignatures, hkey, hbefore, hvalid⟩
    refine ⟨(key, sig), ⟨before, _, after, hsignatures, ⟨rfl, hkey⟩, ?_⟩, hvalid⟩
    rintro _ hmem key' sig' rfl
    exact hbefore key' sig' hmem
  · rintro ⟨⟨key, sig⟩, ⟨before, _, after, hsignatures, ⟨rfl, hkey⟩, hbefore⟩, hvalid⟩
    exact ⟨before, key, sig, after, hsignatures, hkey, fun key' sig' hmem =>
      hbefore _ hmem key' sig' rfl, hvalid⟩

theorem deserializeAndVerify_eq_ok_iff {bytes}
    {result} :
    deserializeAndVerify ext keys bytes = .ok result ↔
      ∃ partialData canonData, partialFromSlice ext bytes = some partialData ∧
        ext.toCanonical partialData.signed = some canonData ∧
        FirstTrustedValid ext keys canonData partialData.signatures ∧
        ext.valueFromSlice canonData = some result.signed ∧ result.signatures = partialData.signatures := by
  simp only [deserializeAndVerify, bind_eq_ok, okOr_eq_ok, ensure_eq_ok, firstTrustedValid_iff]
  constructor
  · rintro ⟨partialData, hpartial, entry, hentry, canonData, hcanon, _, hvalid, signed, hsigned, hresult⟩
    cases hresult
    exact ⟨partialData, canonData, hpartial, hcanon, ⟨entry, hentry, hvalid⟩, hsigned, rfl⟩
  · rintro ⟨partialData, canonData, hpartial, hcanon, ⟨entry, hentry, hvalid⟩, hsigned, hsignatures⟩
    refine ⟨partialData, hpartial, entry, hentry, canonData, hcanon, ⟨⟩, hvalid, _, hsigned, ?_⟩
    rw [← hsignatures]
    rfl

/-- Metadata is accepted exactly if the document is well-formed, the first signature of a trusted key is
valid for the canonical form of the payload, and the payload has neither expired nor is too old. What
is returned is the payload as read from the bytes that were verified. -/
theorem deserializeAndVerifyAtTime_eq_ok_iff (ext : Externals Json Key Signature) (keys : List Key)
    (bytes : List UInt8) (currentTime : Int) (minMetadataVersion : Nat)
    (result : SignedResponse Key Signature) :
    deserializeAndVerifyAtTime ext keys bytes currentTime minMetadataVersion = .ok result ↔
      ∃ partialData canonData value, partialFromSlice ext bytes = some partialData ∧
        ext.toCanonical partialData.signed = some canonData ∧
        FirstTrustedValid ext keys canonData partialData.signatures ∧
        ext.valueFromSlice canonData = some value ∧
        ext.responseFromValue value = some result.signed ∧
        currentTime < result.signed.metadataExpiry ∧
        minMetadataVersion ≤ result.signed.metadataVersion ∧ result.signatures = partialData.signatures := by
  simp only [deserializeAndVerifyAtTime, bind_eq_ok, okOr_eq_ok, ensure_eq_ok,
    deserializeAndVerify_eq_ok_iff, ge_iff_le, not_le, not_lt]
  constructor
  · rintro ⟨verified, ⟨partialData, canonData, hpartial, hcanon, hvalid, hvalue, hsignatures⟩, signed,
      hsigned, _, htime, _, hversion, hresult⟩
    cases hresult
    exact ⟨partialData, canonData, verified.signed, hpartial, hcanon, hvalid, hvalue, hsigned, htime,
      hversion, hsignatures⟩
  · rintro ⟨partialData, canonData, value, hpartial, hcanon, hvalid, hvalue, hsigned, htime, hversion,
      hsignatures⟩
    refine ⟨⟨partialData.signatures, value⟩, ⟨partialData, canonData, hpartial, hcanon, hvalid, hvalue,
      rfl⟩, _, hsigned, ⟨⟩, htime, ⟨⟩, hversion, ?_⟩
    rw [← hsignatures]
    rfl

end Verification

namespace Sample

def hexDecode : String → Option (List UInt8)
  | "key 1" => some (List.replicate 32 1)
  | "key 2" => some (List.replicate 32 2)
  | "forged" => some (List.replicate 64 0)
  | "valid" => some (List.replicate 64 1)
  | _ => none

def payload : Response :=
  { metadataVersion := 1, metadataExpiry := 1, releases := [] }

/-- A document with signatures of two keys, of which the second one is valid. -/
def externals : Externals Response UInt8 UInt8 where
  fromSlice _ := some ⟨[⟨some "ed25519", "key 1", "forged"⟩, ⟨some "ed25519", "key 2", "valid"⟩], payload⟩
  valueFromSlice _ := some payload
  responseFromValue := some
  toCanonical _ := some []
  hexDecode := hexDecode
  keyFromBytes := List.head?
  signatureFromBytes bytes := bytes.headD 0
  verifyStrict _ _ sig := sig == 1

end Sample

/-- A valid signature of a trusted key is not enough, if another one comes before it. -/
theorem valid_signature_rejected :
    (∃ partialData canonData value response, partialFromSlice Sample.externals [] = some partialData ∧
      Sample.externals.toCanonical partialData.signed = some canonData ∧
      (∃ key sig, .ed25519 key sig ∈ partialData.signatures ∧ key ∈ [1, 2] ∧
        Sample.externals.verifyStrict key canonData sig = true) ∧
      Sample.externals.valueFromSlice canonData = some value ∧
      Sample.externals.responseFromValue value = some response ∧
      0 < response.metadataExpiry ∧ 0 ≤ response.metadataVersion) ∧
    deserializeAndVerifyAtTime Sample.externals [1, 2] [] 0 0 = .error .signatureVerification := by
  refine ⟨⟨_, _, _, _, rfl, rfl, ⟨2, 1, ?_, by decide, rfl⟩, rfl, rfl, by decide, by decide⟩, rfl⟩
  exact List.mem_cons_of_mem _ (List.mem_singleton_self _)

end MullvadVpn.Update
