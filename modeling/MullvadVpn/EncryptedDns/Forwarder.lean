import MullvadVpn.Systems.Keystream

/-!
The stream of the encrypted DNS forwarder (`mullvad-encrypted-dns-proxy/src/forwarder.rs`), which combines what
is read and written with a key. The obfuscator advances with the bytes that it is given. On a write these are
all bytes of the caller's buffer, whether or not the inner writer takes them, and on a read all filled bytes
of the buffer, also those that were there before.
-/

namespace MullvadVpn.EncryptedDns

open Systems

inductive Error where
  | emptyXorKey

/-- The key material up to the terminating zero byte. -/
structure XorKey where
  keyData : List UInt8
  ne_nil : keyData ≠ []
  nonzero : ∀ byte ∈ keyData, byte ≠ 0

def XorKey.tryFrom (keyBytes : Vector UInt8 6) : Except Error XorKey :=
  if h : keyBytes.toList.takeWhile (· != 0) = [] then .error .emptyXorKey
  else .ok ⟨_, h, fun byte hbyte => bne_iff_ne.mp (List.all_eq_true.mp List.all_takeWhile byte hbyte)⟩

structure XorObfuscator where
  key : XorKey
  keyIndex : Nat

namespace XorKey

variable (key : XorKey)

theorem length_pos : 0 < key.keyData.length := List.length_pos_of_ne_nil key.ne_nil

def byteAt (index : Nat) : UInt8 :=
  key.keyData.get ⟨index % key.keyData.length, Nat.mod_lt _ key.length_pos⟩

theorem byteAt_ne_zero (index : Nat) : key.byteAt index ≠ 0 := key.nonzero _ (List.get_mem ..)

theorem byteAt_mod (index : Nat) : key.byteAt (index % key.keyData.length) = key.byteAt index := by
  simp only [byteAt, Nat.mod_mod]

end XorKey

namespace XorObfuscator

def new (key : XorKey) : XorObfuscator :=
  { key, keyIndex := 0 }

def obfuscate (self : XorObfuscator) : List UInt8 → List UInt8 × XorObfuscator
  | [] => ([], self)
  | byte :: buffer =>
    let next := { self with keyIndex := (self.keyIndex + 1) % self.key.keyData.length }
    let (buffer, last) := next.obfuscate buffer
    ((byte ^^^ self.key.byteAt self.keyIndex) :: buffer, last)

/-- The obfuscator after `pos` bytes. -/
def after (key : XorKey) (pos : Nat) : XorObfuscator :=
  { key, keyIndex := pos % key.keyData.length }

theorem obfuscate_after (key : XorKey) (pos : Nat) (buffer : List UInt8) :
    (after key pos).obfuscate buffer =
      (applyKeystream key.byteAt pos buffer, after key (pos + buffer.length)) := by
  induction buffer generalizing pos with
  | nil => rfl
  | cons byte buffer ih =>
    have hnext := ih (pos + 1)
    simp only [after, ← Nat.mod_add_mod pos] at hnext
    simp only [obfuscate, after, hnext, applyKeystream, XorKey.byteAt_mod, List.length_cons]
    rw [Nat.add_assoc, Nat.add_comm 1]

/-- One buffer after another, each with the key from where the last one ended. -/
def obfuscateChunks (self : XorObfuscator) : List (List UInt8) → List (List UInt8)
  | [] => []
  | chunk :: chunks =>
    let (chunk, next) := self.obfuscate chunk
    chunk :: next.obfuscateChunks chunks

theorem flatten_obfuscateChunks (key : XorKey) (pos : Nat) (chunks : List (List UInt8)) :
    ((after key pos).obfuscateChunks chunks).flatten = applyKeystream key.byteAt pos chunks.flatten := by
  induction chunks generalizing pos with
  | nil => rfl
  | cons chunk chunks ih =>
    simp only [obfuscateChunks, obfuscate_after, List.flatten_cons, ih, applyKeystream_append]

/-- How a stream is cut into chunks does not show in what comes out, and the same key restores the stream
however that is cut again. -/
theorem obfuscateChunks_involutive (key : XorKey) (chunks received : List (List UInt8))
    (hreceived : received.flatten = ((new key).obfuscateChunks chunks).flatten) :
    ((new key).obfuscateChunks chunks).flatten = ((new key).obfuscate chunks.flatten).1 ∧
      ((new key).obfuscateChunks received).flatten = chunks.flatten := by
  have hstart : new key = after key 0 := by rw [new, after, Nat.zero_mod]
  simp only [hstart, flatten_obfuscateChunks, obfuscate_after] at hreceived ⊢
  exact ⟨trivial, by rw [hreceived, applyKeystream_applyKeystream]⟩

/-- Three bytes, sent in chunks of one, none and two, arrive in chunks of two and one. -/
theorem restored_in_other_chunks :
    ((new ⟨[1, 2], by decide, by simp⟩).obfuscateChunks [[6, 10], [8]]).flatten = [7, 8, 9] :=
  (obfuscateChunks_involutive ⟨[1, 2], _, _⟩ [[7], [], [8, 9]] [[6, 10], [8]] rfl).2

end XorObfuscator

def keystream : Option XorKey → Nat → UInt8
  | some key => key.byteAt
  | none => fun _ => 0

/-- The forwarder around a stream whose answers are given with each call. -/
structure Forwarder where
  readObfuscator : Option XorObfuscator
  writeObfuscator : Option XorObfuscator

namespace Forwarder

def fromStream (obfuscation : Option XorKey) : Forwarder :=
  { readObfuscator := obfuscation.map .new, writeObfuscator := obfuscation.map .new }

def transform (obfuscator : Option XorObfuscator) (buffer : List UInt8) :
    List UInt8 × Option XorObfuscator :=
  match obfuscator with
  | some obfuscator => (obfuscator.obfuscate buffer).map id some
  | none => (buffer, none)

theorem applyKeystream_none (pos : Nat) (bytes : List UInt8) :
    applyKeystream (keystream none) pos bytes = bytes := by
  induction bytes generalizing pos with
  | nil => rfl
  | cons byte bytes ih =>
    rw [applyKeystream, ih]
    exact congrArg (· :: bytes) UInt8.xor_zero

theorem transform_after (obfuscation : Option XorKey) (pos : Nat) (buffer : List UInt8) :
    transform (obfuscation.map (XorObfuscator.after · pos)) buffer =
      (applyKeystream (keystream obfuscation) pos buffer,
        obfuscation.map (XorObfuscator.after · (pos + buffer.length))) := by
  cases obfuscation with
  | none =>
    rw [applyKeystream_none]
    rfl
  | some key =>
    simp only [Option.map_some, transform, XorObfuscator.obfuscate_after]
    rfl

/-- The forwarder after so many bytes in each direction. -/
def progress (obfuscation : Option XorKey) (readPos writePos : Nat) : Forwarder :=
  { readObfuscator := obfuscation.map (.after · readPos)
    writeObfuscator := obfuscation.map (.after · writePos) }

/-- What the inner writer does with the buffer that it is given. -/
inductive WriteAnswer where
  | pending
  | accepts (n : Nat)
  | fails

/-- How many bytes of the buffer the inner writer takes. -/
def WriteAnswer.count : WriteAnswer → Nat
  | accepts n => n
  | pending | fails => 0

/-- The bytes that the inner writer takes, and the forwarder after the call. -/
def pollWrite (self : Forwarder) (buf : List UInt8) (answer : WriteAnswer) : List UInt8 × Forwarder :=
  let (ownedBuf, writeObfuscator) := transform self.writeObfuscator buf
  (ownedBuf.take answer.count, { self with writeObfuscator })

/-- How much of its data a caller offers, from the first byte that was not accepted on. -/
structure WriteCall where
  len : Nat
  answer : WriteAnswer

/-- What the inner writer accepts over all calls. -/
def acceptedBytes (self : Forwarder) (data : List UInt8) : List WriteCall → List UInt8
  | [] => []
  | call :: calls =>
    let (accepted, self) := self.pollWrite (data.take call.len) call.answer
    accepted ++ self.acceptedBytes (data.drop accepted.length) calls

/-- At each call, the bytes that were obfuscated before without being accepted (`skipped`) do not show in
the part of the key that the accepted bytes are combined with. -/
def InStep (key : Nat → UInt8) (pos skipped rest : Nat) : List WriteCall → Prop
  | [] => True
  | call :: calls =>
    let offered := min call.len rest
    let accepted := min call.answer.count offered
    (∀ i < accepted, key (pos + skipped + i) = key (pos + i)) ∧
      InStep key (pos + accepted) (skipped + (offered - accepted)) (rest - accepted) calls

theorem acceptedBytes_eq_iff (obfuscation : Option XorKey) (readPos pos skipped : Nat) (data : List UInt8)
    (calls : List WriteCall) :
    (progress obfuscation readPos (pos + skipped)).acceptedBytes data calls =
        applyKeystream (keystream obfuscation) pos (data.take
          ((progress obfuscation readPos (pos + skipped)).acceptedBytes data calls).length) ↔
      InStep (keystream obfuscation) pos skipped data.length calls := by
  induction calls generalizing pos skipped data with
  | nil => simp [acceptedBytes, InStep, applyKeystream]
  | cons call calls ih =>
    set offered := min call.len data.length with hoffered
    set accepted := (data.take call.len).take call.answer.count with haccepted
    have hlength : accepted.length = min call.answer.count offered := by
      rw [haccepted, List.length_take, List.length_take]
    have htake : data.take accepted.length = accepted := by
      rw [hlength, hoffered, haccepted, List.take_take, ← Nat.min_assoc, ← List.take_take, List.take_length]
    have hnext : pos + skipped + offered =
        pos + accepted.length + (skipped + (offered - accepted.length)) := by omega
    simp only [progress] at ih
    simp only [acceptedBytes, pollWrite, progress, transform_after, take_applyKeystream,
      length_applyKeystream, InStep, List.length_take, List.length_append, ← hoffered, ← hlength, ← haccepted, hnext]
    rw [← List.length_drop, ← ih, List.take_add, htake, applyKeystream_append, ← applyKeystream_inj]
    constructor
    · intro h
      exact List.append_inj h (by simp)
    · rintro ⟨hfirst, hrest⟩
      rw [hfirst, ← hrest]

/-- The bytes that the inner writer accepts are the caller's data, each byte combined with the key at its own
position, exactly if no bytes that it did not accept have shifted the key. -/
theorem acceptedBytes_aligned_iff (obfuscation : Option XorKey) (data : List UInt8) (calls : List WriteCall) :
    (fromStream obfuscation).acceptedBytes data calls = applyKeystream (keystream obfuscation) 0
        (data.take ((fromStream obfuscation).acceptedBytes data calls).length) ↔
      InStep (keystream obfuscation) 0 0 data.length calls := by
  have hstart : fromStream obfuscation = progress obfuscation 0 (0 + 0) := by
    cases obfuscation <;> rfl
  rw [hstart]
  exact acceptedBytes_eq_iff obfuscation 0 0 0 data calls

/-- Nothing shifts the key where every call that offers bytes has all of them accepted. -/
theorem inStep_of_accepted {key} {pos rest : Nat} {calls}
    (h : ∀ call ∈ calls, call.len ≤ call.answer.count) : InStep key pos 0 rest calls := by
  induction calls generalizing pos rest with
  | nil => trivial
  | cons call calls ih =>
    obtain ⟨hcall, hcalls⟩ := List.forall_mem_cons.mp h
    have hall : min call.answer.count (min call.len rest) = min call.len rest := by omega
    simp only [InStep, hall, Nat.add_zero, Nat.sub_self]
    exact ⟨fun _ _ => trivial, ih hcalls⟩

def Sample.key : XorKey where
  keyData := [1, 2]
  ne_nil := by decide
  nonzero := by simp

/-- A byte that is written again after the inner writer was not ready is combined with the second byte of
the key. -/
theorem misaligned_after_pending :
    (fromStream (some Sample.key)).acceptedBytes [7] [⟨1, .pending⟩, ⟨1, .accepts 1⟩] = [7 ^^^ 2] ∧
      applyKeystream (keystream (some Sample.key)) 0 [7] = [7 ^^^ 1] :=
  ⟨rfl, rfl⟩

inductive ReadAnswer where
  | pending
  | reads (bytes : List UInt8)
  | fails

def ReadAnswer.bytes : ReadAnswer → List UInt8
  | reads bytes => bytes
  | pending | fails => []

/-- The filled part of the buffer, and the forwarder after the call. -/
def pollRead (self : Forwarder) (filled : List UInt8) : ReadAnswer → List UInt8 × Forwarder
  | .pending | .fails => (filled, self)
  | .reads bytes =>
    let (filled, readObfuscator) := transform self.readObfuscator (filled ++ bytes)
    (filled, { self with readObfuscator })

/-- A call of a reader, with what its buffer is filled with before. -/
structure ReadCall where
  filled : List UInt8
  answer : ReadAnswer

/-- What the buffer of each call is filled with after it. -/
def buffers (self : Forwarder) : List ReadCall → List (List UInt8)
  | [] => []
  | call :: calls =>
    let (buffer, self) := self.pollRead call.filled call.answer
    buffer :: self.buffers calls

/-- Nothing is changed that was filled before, and the new bytes are the transform of what the inner
reader produced, from a position on. -/
structure ReadsNewBytes (key : Nat → UInt8) (pos : Nat) (calls : List ReadCall)
    (buffers : List (List UInt8)) : Prop where
  kept : List.Forall₂ (fun call buffer => call.filled <+: buffer) calls buffers
  transformed : (List.zipWith (fun call buffer => buffer.drop call.filled.length) calls buffers).flatten =
    applyKeystream key pos (calls.flatMap (·.answer.bytes))

/-- Nothing is obfuscated, or nothing is filled when bytes are read. -/
def ReadCall.Fresh (obfuscation : Option XorKey) (call : ReadCall) : Prop :=
  obfuscation = none ∨ ∀ bytes, call.answer = .reads bytes → call.filled = []

variable {obfuscation : Option XorKey} {call : ReadCall} {pos writePos : Nat}

theorem pollRead_progress (h : call.Fresh obfuscation) :
    (progress obfuscation pos writePos).pollRead call.filled call.answer =
      (call.filled ++ applyKeystream (keystream obfuscation) pos call.answer.bytes,
        progress obfuscation (pos + call.answer.bytes.length) writePos) := by
  obtain ⟨filled, answer⟩ := call
  cases answer with
  | pending | fails => simp [pollRead, ReadAnswer.bytes, applyKeystream]
  | reads bytes =>
    rcases h with rfl | hempty
    · rw [applyKeystream_none]
      rfl
    · obtain rfl : filled = [] := hempty bytes rfl
      simp only [pollRead, progress, transform_after, List.nil_append, ReadAnswer.bytes]

theorem readsNewBytes_of_fresh {calls} (h : ∀ call ∈ calls, call.Fresh obfuscation)
    (pos : Nat) : ReadsNewBytes (keystream obfuscation) pos calls
      ((progress obfuscation pos writePos).buffers calls) := by
  induction calls generalizing pos with
  | nil => exact ⟨.nil, rfl⟩
  | cons call calls ih =>
    obtain ⟨hcall, hcalls⟩ := List.forall_mem_cons.mp h
    obtain ⟨hkept, htransformed⟩ := ih hcalls (pos + call.answer.bytes.length)
    simp only [buffers, pollRead_progress hcall]
    refine ⟨.cons (List.prefix_append ..) hkept, ?_⟩
    rw [List.zipWith_cons_cons, List.drop_left, List.flatten_cons, htransformed, List.flatMap_cons,
      applyKeystream_append]

theorem fresh_of_kept {key calls} (h : List.Forall₂
    (fun call buffer => call.filled <+: buffer) calls ((progress (some key) pos writePos).buffers calls)) :
    ∀ call ∈ calls, call.Fresh (some key) := by
  induction calls generalizing pos with
  | nil => exact fun _ hcall => nomatch hcall
  | cons call calls ih =>
    obtain ⟨filled, answer⟩ := call
    obtain ⟨hkept, hrest⟩ := List.forall₂_cons.mp h
    refine List.forall_mem_cons.mpr ⟨.inr ?_, ?_⟩
    · rintro bytes rfl
      -- no byte of the key is zero, so that every byte that is combined with it changes
      cases filled with
      | nil => rfl
      | cons byte filled =>
        simp only [progress, transform_after, List.cons_append, applyKeystream, List.cons_prefix_cons] at hkept
        have hzero := (UInt8.xor_right_inj byte).mp (hkept.1.symm.trans UInt8.xor_zero.symm)
        exact absurd hzero (key.byteAt_ne_zero pos)
    · cases answer with
      | pending | fails => exact ih hrest
      | reads bytes =>
        simp only [progress, transform_after] at hrest
        exact ih hrest

/-- Reads touch new bytes only, and transform each at its own position, exactly if there is no obfuscation
or the buffers were empty. -/
theorem readsNewBytes_iff (obfuscation : Option XorKey) (calls : List ReadCall) :
    ReadsNewBytes (keystream obfuscation) 0 calls ((fromStream obfuscation).buffers calls) ↔
      obfuscation = none ∨ ∀ call ∈ calls, ∀ bytes, call.answer = .reads bytes → call.filled = [] := by
  have hstart : fromStream obfuscation = progress obfuscation 0 0 := by
    cases obfuscation <;> rfl
  rw [hstart]
  constructor
  · intro h
    cases obfuscation with
    | none => exact .inl rfl
    | some key => exact .inr fun call hcall => (fresh_of_kept h.kept call hcall).resolve_left nofun
  · rintro h
    refine readsNewBytes_of_fresh (fun call hcall => ?_) 0
    exact h.imp_right fun h => h call hcall

theorem filled_byte_changed :
    (fromStream (some Sample.key)).buffers [⟨[7], .reads [9]⟩] = [[7 ^^^ 1, 9 ^^^ 2]] ∧
      ¬ReadsNewBytes (keystream (some Sample.key)) 0 [⟨[7], .reads [9]⟩] [[7 ^^^ 1, 9 ^^^ 2]] := by
  refine ⟨rfl, fun h => ?_⟩
  have hkept := (List.forall₂_cons.mp h.kept).1
  exact absurd (List.cons_prefix_cons.mp hkept).1 (by decide)

end Forwarder

end MullvadVpn.EncryptedDns
