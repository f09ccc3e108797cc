import MullvadVpn.Systems.Fallible

/-!
Netlink attributes: words in a byte order, and messages made of attributes. An attribute has a kind and a
value, which can itself be made of attributes. It is written to a slot of the length that it announces.
-/

namespace MullvadVpn.Systems.Netlink

open Fallible List

def littleEndian : Nat → Nat → List UInt8
  | 0, _ => []
  | n + 1, x => UInt8.ofNat (x % 256) :: littleEndian n (x / 256)

def ofLittleEndian : List UInt8 → Nat
  | [] => 0
  | byte :: bytes => byte.toNat + 256 * ofLittleEndian bytes

theorem length_littleEndian (n x : Nat) : (littleEndian n x).length = n := by
  induction n generalizing x with
  | zero => rfl
  | succ n ih => rw [littleEndian, length_cons, ih]

theorem ofLittleEndian_littleEndian {n x : Nat} (h : x < 256 ^ n) :
    ofLittleEndian (littleEndian n x) = x := by
  induction n generalizing x with
  | zero =>
    rw [pow_zero] at h
    rw [littleEndian, ofLittleEndian]
    omega
  | succ n ih =>
    have hbyte : (UInt8.ofNat (x % 256)).toNat = x % 256 := by
      rw [UInt8.toNat_ofNat']
      omega
    have hrest : x / 256 < 256 ^ n := Nat.div_lt_of_lt_mul (by rwa [← pow_succ'])
    rw [littleEndian, ofLittleEndian, ih hrest, hbyte, Nat.mod_add_div]

inductive Endianness where
  | little
  | big

namespace Endianness

variable (endianness : Endianness) {w : Nat}

def write (x : BitVec w) : List UInt8 :=
  match endianness with
  | little => littleEndian (w / 8) x.toNat
  | big => (littleEndian (w / 8) x.toNat).reverse

def read (w : Nat) (bytes : List UInt8) : BitVec w :=
  match endianness with
  | little => BitVec.ofNat w (ofLittleEndian bytes)
  | big => BitVec.ofNat w (ofLittleEndian bytes.reverse)

@[simp]
theorem length_write (x : BitVec w) : (endianness.write x).length = w / 8 := by
  cases endianness with
  | little => exact length_littleEndian ..
  | big => rw [write, length_reverse, length_littleEndian]

theorem read_write (hw : 8 ∣ w) (x : BitVec w) : endianness.read w (endianness.write x) = x := by
  have hlt : x.toNat < 256 ^ (w / 8) := by
    have hpow : 256 ^ (w / 8) = 2 ^ w := by
      rw [show 256 = 2 ^ 8 by norm_num, ← pow_mul, Nat.mul_div_cancel' hw]
    rw [hpow]
    exact x.isLt
  cases endianness with
  | little => rw [read, write, ofLittleEndian_littleEndian hlt, BitVec.ofNat_toNat, BitVec.setWidth_eq]
  | big =>
    rw [read, write, List.reverse_reverse, ofLittleEndian_littleEndian hlt, BitVec.ofNat_toNat,
      BitVec.setWidth_eq]

def field (w offset : Nat) (bytes : List UInt8) : BitVec w :=
  endianness.read w ((bytes.drop offset).take (w / 8))

theorem field_write (hw : 8 ∣ w) (x : BitVec w) (rest : List UInt8) :
    endianness.field w 0 (endianness.write x ++ rest) = x := by
  rw [field, drop_zero, take_left' (endianness.length_write x), read_write _ hw]

theorem field_write_self (hw : 8 ∣ w) (x : BitVec w) : endianness.field w 0 (endianness.write x) = x := by
  have hfield := endianness.field_write hw x []
  rwa [append_nil] at hfield

theorem field_append {bytes : List UInt8} {offset : Nat} (h : bytes.length ≤ offset) (rest : List UInt8) :
    endianness.field w offset (bytes ++ rest) = endianness.field w (offset - bytes.length) rest := by
  rw [field, drop_append, drop_eq_nil_of_le h, nil_append]
  rfl

variable {ε : Type} (invalid : List UInt8 → ε)

def parseWord (w : Nat) (value : List UInt8) : Except ε (BitVec w) :=
  if value.length = w / 8 then .ok (endianness.read w value) else .error (invalid value)

theorem parseWord_write (hw : 8 ∣ w) (x : BitVec w) :
    endianness.parseWord invalid w (endianness.write x) = .ok x := by
  rw [parseWord, if_pos (endianness.length_write x), read_write _ hw]

end Endianness

/-- `NLA_F_NESTED`. -/
def nested : BitVec 16 := 0x8000

/-- `NLA_TYPE_MASK`. -/
def typeMask : BitVec 16 := 0x3fff

/-- The length of an attribute counts its header, and has 16 bits. -/
def Fits (valueLen : Nat) : Prop :=
  valueLen + 4 < 2 ^ 16

instance (valueLen : Nat) : Decidable (Fits valueLen) :=
  inferInstanceAs (Decidable (_ < _))

/-- How attributes are put one after the other, and found again. -/
structure Framing (ε : Type) where
  /-- The room taken by an attribute with a value of the length. -/
  bufferLen : Nat → Nat
  /-- The attribute of a kind with a value, unless emitting it panics. -/
  emit : BitVec 16 → List UInt8 → Option (List UInt8)
  /-- The kinds and values in a buffer, up to the first error. -/
  nlas : List UInt8 → List (Except ε (BitVec 16 × List UInt8))

/-- Values whose length fits are found again, with their kind but for its flags. -/
structure Framing.Correct {ε : Type} (framing : Framing ε) : Prop where
  le_bufferLen : ∀ valueLen, valueLen + 4 ≤ framing.bufferLen valueLen
  nlas_nil : framing.nlas [] = []
  emit : ∀ kind value, Fits value.length → ∃ bytes, framing.emit kind value = some bytes ∧
    bytes.length = framing.bufferLen value.length ∧
    ∀ rest, framing.nlas (bytes ++ rest) = .ok (kind &&& typeMask, value) :: framing.nlas rest

/-- How the values of a type are written as attributes and read. -/
structure Codec (ε α : Type) where
  kind : α → BitVec 16
  valueLen : α → Nat
  /-- What is written to the slot, unless writing it panics. -/
  emitValue : α → Option (List UInt8)
  parse : BitVec 16 → List UInt8 → Except ε α

/-- A slot, with what is written at its start. -/
def slot (valueLen : Nat) (written : List UInt8) : Option (List UInt8) :=
  if written.length ≤ valueLen then some (written ++ List.replicate (valueLen - written.length) 0)
  else none

/-- Where the length fits, just as many bytes are written as announced, and are read as `f` says. -/
def Codec.Returns {ε α : Type} (codec : Codec ε α) (f : α → α) : Prop :=
  ∀ a, Fits (codec.valueLen a) → ∃ value, codec.emitValue a = some value ∧
    value.length = codec.valueLen a ∧ codec.parse (codec.kind a &&& typeMask) value = .ok (f a)

namespace Framing

variable {ε α : Type} (framing : Framing ε) (codec : Codec ε α)

def emitNla (a : α) : Option (List UInt8) := do
  framing.emit (codec.kind a) (← slot (codec.valueLen a) (← codec.emitValue a))

def emitAll : List α → Option (List UInt8)
  | [] => some []
  | a :: as => do return (← framing.emitNla codec a) ++ (← emitAll as)

def bufferLenAll (as : List α) : Nat :=
  (as.map fun a => framing.bufferLen (codec.valueLen a)).sum

def parseAll (bytes : List UInt8) : Except ε (List α) :=
  tryCollect ((framing.nlas bytes).map fun nla => do
    let nla ← nla
    codec.parse nla.1 nla.2)

def nest : Codec ε (List α) where
  kind _ := nested
  valueLen := framing.bufferLenAll codec
  emitValue := framing.emitAll codec
  parse _ := framing.parseAll codec

@[simp]
theorem nest_parse (kind : BitVec 16) (value : List UInt8) :
    (framing.nest codec).parse kind value = framing.parseAll codec value :=
  rfl

variable {framing codec} {f : α → α}

theorem Correct.exists_emitNla (hframing : framing.Correct) (hcodec : codec.Returns f) {a : α}
    (hfits : Fits (codec.valueLen a)) :
    ∃ bytes value, framing.emitNla codec a = some bytes ∧ bytes.length = framing.bufferLen (codec.valueLen a) ∧
      codec.parse (codec.kind a &&& typeMask) value = .ok (f a) ∧
      ∀ rest, framing.nlas (bytes ++ rest) = .ok (codec.kind a &&& typeMask, value) :: framing.nlas rest := by
  obtain ⟨value, hemit, hlength, hparse⟩ := hcodec a hfits
  have hslot : slot (codec.valueLen a) value = some value := by simp [slot, hlength]
  obtain ⟨bytes, hbytes, hlen, hnlas⟩ := hframing.emit (codec.kind a) value (hlength ▸ hfits)
  refine ⟨bytes, value, ?_, hlength ▸ hlen, hparse, hnlas⟩
  simp [emitNla, hemit, hslot, hbytes]

theorem emitAll_eq_none {a : α} {as : List α} (ha : a ∈ as) (h : framing.emitNla codec a = none) :
    framing.emitAll codec as = none := by
  induction ha with
  | head as => simp [emitAll, h]
  | tail b ha ih => simp [emitAll, ih]

theorem Correct.exists_emitAll (hframing : framing.Correct) (hcodec : codec.Returns f) {as : List α}
    (hfits : ∀ a ∈ as, Fits (codec.valueLen a)) :
    ∃ bytes, framing.emitAll codec as = some bytes ∧
      bytes.length = framing.bufferLenAll codec as ∧ framing.parseAll codec bytes = .ok (as.map f) := by
  induction as with
  | nil => exact ⟨[], rfl, rfl, by rw [parseAll, hframing.nlas_nil]; rfl⟩
  | cons a as ih =>
    rw [forall_mem_cons] at hfits
    obtain ⟨bytes, hemit, hlength, hparse⟩ := ih hfits.2
    obtain ⟨first, value, hfirst, hlen, hvalue, hnlas⟩ := hframing.exists_emitNla hcodec hfits.1
    refine ⟨first ++ bytes, by simp [emitAll, hfirst, hemit], ?_, ?_⟩
    · rw [length_append, hlen, hlength, bufferLenAll, bufferLenAll, map_cons, sum_cons]
    · rw [parseAll] at hparse ⊢
      rw [hnlas, map_cons, ok_bind, hvalue, map_cons, tryCollect, ok_bind, hparse]
      rfl

theorem Correct.nest_returns (hframing : framing.Correct) (hcodec : codec.Returns f) :
    (framing.nest codec).Returns (map f) := by
  intro as hfits
  refine hframing.exists_emitAll hcodec fun a ha => ?_
  have hle : framing.bufferLen (codec.valueLen a) ≤ framing.bufferLenAll codec as :=
    single_le_sum (fun _ _ => Nat.zero_le _) _ (mem_map_of_mem ha)
  have hroom := hframing.le_bufferLen (codec.valueLen a)
  change Fits (framing.bufferLenAll codec as) at hfits
  unfold Fits at hfits ⊢
  omega

end Framing

section Aligned

variable (endianness : Endianness) {ε : Type} (invalid : List UInt8 → ε)

/-- Attributes start at multiples of four bytes. -/
def padding (length : Nat) : Nat :=
  (4 - length % 4) % 4

/-- The header has the length and the kind. After an attribute with an error there are no more. -/
def alignedNlas (buffer : List UInt8) : List (Except ε (BitVec 16 × List UInt8)) :=
  let length := (endianness.field 16 0 buffer).toNat
  if buffer = [] then []
  else if buffer.length < 4 ∨ buffer.length < length ∨ length < 4 then [.error (invalid buffer)]
  else .ok (endianness.field 16 2 buffer &&& typeMask, (buffer.take length).drop 4) ::
    alignedNlas (buffer.drop (length + padding length))
termination_by buffer.length
decreasing_by
  rw [length_drop]
  omega

def aligned : Framing ε where
  bufferLen valueLen := valueLen + padding valueLen + 4
  emit kind value :=
    if Fits value.length then
      some (endianness.write (BitVec.ofNat 16 (value.length + 4)) ++ (endianness.write kind ++
        (value ++ List.replicate (padding value.length) 0)))
    else none
  nlas := alignedNlas endianness invalid

theorem aligned_correct : (aligned endianness invalid).Correct where
  le_bufferLen valueLen := by
    change _ ≤ valueLen + padding valueLen + 4
    omega
  nlas_nil := by
    change alignedNlas endianness invalid [] = []
    rw [alignedNlas, if_pos rfl]
  emit kind value hfits := by
    refine ⟨_, if_pos hfits, ?_, fun rest => ?_⟩
    · simp only [List.length_append, Endianness.length_write, List.length_replicate, aligned]
      omega
    have hlength (rest : List UInt8) : (endianness.field 16 0
        (endianness.write (BitVec.ofNat 16 (value.length + 4)) ++ rest)).toNat = value.length + 4 := by
      rw [Endianness.field_write _ (by norm_num), BitVec.toNat_ofNat, Nat.mod_eq_of_lt hfits]
    have hkind (length : BitVec 16) (rest : List UInt8) : endianness.field 16 2
        (endianness.write length ++ (endianness.write kind ++ rest)) = kind := by
      rw [Endianness.field_append _ (by simp), Endianness.length_write, Endianness.field_write _ (by norm_num)]
    change alignedNlas endianness invalid _ = _ :: alignedNlas endianness invalid rest
    simp only [List.append_assoc]
    rw [alignedNlas]
    simp only [hlength, hkind]
    rw [← List.append_assoc]
    generalize hheader : endianness.write _ ++ endianness.write kind = header
    have hfour : header.length = 4 := by simp [← hheader]
    have hpadding : padding (value.length + 4) = padding value.length := by
      simp only [padding]
      omega
    have hdrop : (header ++ (value ++ (List.replicate (padding value.length) 0 ++ rest))).drop
        (value.length + 4 + padding value.length) = rest := by
      rw [← List.append_assoc, ← List.append_assoc]
      apply List.drop_left'
      simp only [List.length_append, List.length_replicate, hfour]
      omega
    rw [if_neg (by simp [← List.length_eq_zero_iff, hfour]), if_neg (by simp [hfour]; omega), hpadding,
      hdrop, List.drop_take, List.drop_left' hfour, List.take_left' (by omega)]

variable {endianness invalid} {α : Type} {codec : Codec ε α} {a : α}

theorem aligned_emitNla_eq_none (h : ¬ Fits (codec.valueLen a)) :
    (aligned endianness invalid).emitNla codec a = none := by
  have hslot {written value : List UInt8} (hvalue : slot (codec.valueLen a) written = some value) :
      (aligned endianness invalid).emit (codec.kind a) value = none := by
    unfold slot at hvalue
    split_ifs at hvalue with hle
    cases hvalue
    refine if_neg ?_
    rwa [List.length_append, List.length_replicate, Nat.add_sub_cancel' hle]
  simp only [Framing.emitNla, Option.bind_eq_bind, Option.bind_eq_none_iff]
  exact fun _ _ _ => hslot

end Aligned

end MullvadVpn.Systems.Netlink
