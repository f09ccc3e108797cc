import MullvadVpn.Systems.Keystream
import MullvadVpn.Wireguard.Config

/-!
Lightweight WireGuard obfuscation (`tunnel-obfuscation/src/lwo.rs`). The header of a packet is combined with a
key, and a reserved byte of it is random. How long the header is depends on the type of the message, which is
its first byte and is recovered with the first byte of the key.
-/

namespace MullvadVpn.Wireguard.Lwo

open Systems List

def obfuscationBit : UInt8 := 0b10000000

def headerSize : UInt8 → Option Nat
  | 1 => some 148
  | 2 => some 92
  | 3 => some 64
  | 4 => some 32
  | _ => none

/-- `header_mut`: the length of the header, if the packet has one. -/
def headerMut (packet : List UInt8) (keyByte : UInt8) : Option Nat := do
  let headerType ← packet.head?
  let size ← headerSize (headerType ^^^ keyByte)
  if size ≤ packet.length then some size else none

def keyByteAt (key : Key) (i : Nat) : UInt8 :=
  key.get ⟨i % 32, Nat.mod_lt _ (by decide)⟩

def xorBytes (data : List UInt8) (key : Key) : List UInt8 :=
  applyKeystream (keyByteAt key) 0 data

/-- Assignment to an index, which panics if it is out of bounds. -/
def setIndex (data : List UInt8) (index : Nat) (byte : UInt8) : Option (List UInt8) :=
  if index < data.length then some (data.set index byte) else none

/-- There is no result on a panic. The random number is the one that `next_u32` returns. -/
def obfuscate (random : UInt32) (packet : List UInt8) (key : Key) : Option (List UInt8) :=
  match headerMut packet 0 with
  | none => some packet
  | some size => do
    let headerBytes := xorBytes (packet.take size) key
    let randByte := (random % 255).toUInt8
    let headerBytes ← setIndex headerBytes 1 (randByte ||| obfuscationBit)
    return headerBytes ++ packet.drop size

def isObfuscated (reservedByte : UInt8) : Bool :=
  reservedByte &&& obfuscationBit != 0

/-- Only builds with debug assertions look at the bit that marks obfuscated packets. -/
def deobfuscate (debugAssertions : Bool) (packet : List UInt8) (key : Key) : Option (List UInt8) :=
  match headerMut packet key[0] with
  | none => some packet
  | some size => do
    let headerBytes := packet.take size
    let reservedByte ← headerBytes[1]?
    if debugAssertions && !isObfuscated reservedByte then return packet
    let headerBytes ← setIndex (xorBytes headerBytes key) 1 0
    return headerBytes ++ packet.drop size

variable {packet : List UInt8} {key : Key} {random : UInt32} {size : Nat} {keyByte : UInt8}

theorem headerMut_eq_some : headerMut packet keyByte = some size ↔
    ∃ headerType, packet.head? = some headerType ∧ headerSize (headerType ^^^ keyByte) = some size ∧
      size ≤ packet.length := by
  simp [headerMut, Option.bind_eq_some_iff]

theorem lt_of_headerMut (h : headerMut packet keyByte = some size) : 1 < size ∧ size ≤ packet.length := by
  obtain ⟨headerType, -, hsize, hle⟩ := headerMut_eq_some.mp h
  refine ⟨?_, hle⟩
  unfold headerSize at hsize
  split at hsize <;> cases hsize <;> decide

theorem setIndex_eq {data : List UInt8} {index : Nat} (h : index < data.length) (byte : UInt8) :
    setIndex data index byte = some (data.set index byte) :=
  if_pos h

theorem length_xorBytes_take (h : headerMut packet keyByte = some size) :
    (xorBytes (packet.take size) key).length = size := by
  rw [xorBytes, length_applyKeystream, length_take, Nat.min_eq_left (lt_of_headerMut h).2]

theorem one_lt_length (h : headerMut packet keyByte = some size) : 1 < (xorBytes (packet.take size) key).length := by
  rw [length_xorBytes_take h]
  exact (lt_of_headerMut h).1

/-- The packet with its header combined with the key and the reserved byte replaced. -/
def patched (packet : List UInt8) (key : Key) (size : Nat) (byte : UInt8) : List UInt8 :=
  (xorBytes (packet.take size) key).set 1 byte ++ packet.drop size

/-- `obfuscate` on a packet with a header. -/
theorem obfuscate_eq (h : headerMut packet 0 = some size) :
    obfuscate random packet key = some (patched packet key size ((random % 255).toUInt8 ||| obfuscationBit)) := by
  simp only [obfuscate, h, setIndex_eq (one_lt_length h)]
  rfl

theorem deobfuscate_eq {debugAssertions : Bool} {reservedByte : UInt8}
    (h : headerMut packet key[0] = some size) (hreserved : packet[1]? = some reservedByte) :
    deobfuscate debugAssertions packet key =
      some (if debugAssertions && !isObfuscated reservedByte then packet else patched packet key size 0) := by
  have htake : (packet.take size)[1]? = some reservedByte := by
    rw [getElem?_take_of_lt (lt_of_headerMut h).1, hreserved]
  simp only [deobfuscate, h, setIndex_eq (one_lt_length h), htake]
  split <;> simp_all [patched]

theorem isObfuscated_or (byte : UInt8) : isObfuscated (byte ||| obfuscationBit) = true := by
  rw [isObfuscated, bne_iff_ne]
  intro h
  have hbit := congrArg (fun b : UInt8 => b.toBitVec.getLsbD 7) h
  simp [obfuscationBit] at hbit

section

variable (h : headerMut packet keyByte = some size)

include h

theorem length_patched (byte : UInt8) : (patched packet key size byte).length = packet.length := by
  have hle := (lt_of_headerMut h).2
  rw [patched, length_append, length_set, length_xorBytes_take h, length_drop]
  omega

theorem drop_patched (byte : UInt8) : (patched packet key size byte).drop size = packet.drop size :=
  drop_left' (by rw [length_set, length_xorBytes_take h])

theorem patched_patched (byte byte' : UInt8) :
    patched (patched packet key size byte) key size byte' = (packet.take size).set 1 byte' ++ packet.drop size := by
  show (xorBytes ((patched packet key size byte).take size) key).set 1 byte' ++
    (patched packet key size byte).drop size = _
  rw [drop_patched h, patched, take_left' (by rw [length_set, length_xorBytes_take h])]
  simp only [xorBytes, applyKeystream_set, set_set, applyKeystream_applyKeystream]

end

theorem headerMut_patched (h : headerMut packet 0 = some size) (byte : UInt8) :
    headerMut (patched packet key size byte) key[0] = some size := by
  obtain ⟨headerType, htype, hsize, hle⟩ := headerMut_eq_some.mp h
  refine headerMut_eq_some.mpr ⟨headerType ^^^ key[0], ?_, ?_, (length_patched h byte).symm ▸ hle⟩
  · obtain ⟨first, rest, rfl⟩ : ∃ first rest, packet = first :: rest :=
      exists_cons_of_ne_nil (by rintro rfl; cases htype)
    obtain ⟨size, rfl⟩ := Nat.exists_eq_succ_of_ne_zero (Nat.ne_zero_of_lt (lt_of_headerMut h).1)
    cases htype
    rfl
  · rwa [UInt8.xor_assoc, UInt8.xor_self]

/-- What an operation may do to a packet with or without a header. -/
structure KeepsRest (header : Option Nat) (packet result : List UInt8) : Prop where
  length_eq : result.length = packet.length
  drop_eq : result.drop (header.getD 0) = packet.drop (header.getD 0)

/-- Packets of WireGuard are restored. On no packet does either of the operations panic or change what is
beyond the header. -/
theorem lwo_round_trip (debugAssertions : Bool) (random : UInt32) (key : Key) (packet : List UInt8) :
    (∀ headerType size, packet.head? = some headerType → headerSize headerType = some size →
      size ≤ packet.length → packet[1]? = some 0 → ∃ obfuscated, obfuscate random packet key = some obfuscated ∧
        deobfuscate debugAssertions obfuscated key = some packet) ∧
      (∃ result, obfuscate random packet key = some result ∧ KeepsRest (headerMut packet 0) packet result) ∧
      ∃ result, deobfuscate debugAssertions packet key = some result ∧
        KeepsRest (headerMut packet key[0]) packet result := by
  refine ⟨fun headerType size htype hsize hle hreserved => ?_, ?_, ?_⟩
  · have h : headerMut packet 0 = some size :=
      headerMut_eq_some.mpr ⟨headerType, htype, by rwa [UInt8.xor_zero], hle⟩
    refine ⟨_, obfuscate_eq h, ?_⟩
    have hlt : 1 < (xorBytes (packet.take size) key).length := one_lt_length h
    -- the byte that was random is overwritten again
    rw [deobfuscate_eq (headerMut_patched h _) (by
      rw [patched, getElem?_append_left (by rwa [length_set]), getElem?_set_self hlt]),
      isObfuscated_or, patched_patched h]
    rw [← getElem?_take_of_lt (lt_of_headerMut h).1] at hreserved
    obtain ⟨hlt, hzero⟩ := List.getElem?_eq_some_iff.mp hreserved
    have hset : (packet.take size).set 1 0 = packet.take size :=
      (congrArg (set _ 1) hzero.symm).trans (set_getElem_self hlt)
    simp [hset]
  · cases h : headerMut packet 0 with
    | none => exact ⟨packet, by simp only [obfuscate, h], rfl, rfl⟩
    | some size => exact ⟨_, obfuscate_eq h, length_patched h _, drop_patched h _⟩
  · cases h : headerMut packet key[0] with
    | none => exact ⟨packet, by simp only [deobfuscate, h], rfl, rfl⟩
    | some size =>
      have hlt := lt_of_headerMut h
      refine ⟨_, deobfuscate_eq h (getElem?_eq_getElem (by omega)), ?_⟩
      split
      · exact ⟨rfl, rfl⟩
      · exact ⟨length_patched h _, drop_patched h _⟩

end MullvadVpn.Wireguard.Lwo
