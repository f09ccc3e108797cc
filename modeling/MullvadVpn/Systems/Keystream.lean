import Mathlib

/-!
Bytes combined with a keystream by exclusive or, each with the byte of the keystream at its own position.
-/

namespace MullvadVpn.Systems

variable {key key' : Nat → UInt8} {pos pos' : Nat}

/-- The first byte is at `pos`. -/
def applyKeystream (key : Nat → UInt8) (pos : Nat) : List UInt8 → List UInt8
  | [] => []
  | byte :: bytes => (byte ^^^ key pos) :: applyKeystream key (pos + 1) bytes

@[simp] theorem length_applyKeystream (pos : Nat) (bytes : List UInt8) :
    (applyKeystream key pos bytes).length = bytes.length := by
  induction bytes generalizing pos with
  | nil => rfl
  | cons byte bytes ih => rw [applyKeystream, List.length_cons, ih, List.length_cons]

theorem applyKeystream_append (pos : Nat) (bytes more : List UInt8) :
    applyKeystream key pos (bytes ++ more) =
      applyKeystream key pos bytes ++ applyKeystream key (pos + bytes.length) more := by
  induction bytes generalizing pos with
  | nil => rfl
  | cons byte bytes ih =>
    rw [List.cons_append, applyKeystream, ih, Nat.add_assoc, Nat.add_comm 1]
    rfl

theorem take_applyKeystream (pos n : Nat) (bytes : List UInt8) :
    (applyKeystream key pos bytes).take n = applyKeystream key pos (bytes.take n) := by
  induction bytes generalizing pos n with
  | nil => rw [List.take_nil, applyKeystream, List.take_nil]
  | cons byte bytes ih =>
    cases n with
    | zero => rfl
    | succ n => rw [applyKeystream, List.take_succ_cons, ih, List.take_succ_cons, applyKeystream]

theorem applyKeystream_applyKeystream (pos : Nat) (bytes : List UInt8) :
    applyKeystream key pos (applyKeystream key pos bytes) = bytes := by
  induction bytes generalizing pos with
  | nil => rfl
  | cons byte bytes ih =>
    rw [applyKeystream, applyKeystream, ih, UInt8.xor_assoc, UInt8.xor_self, UInt8.xor_zero]

theorem applyKeystream_set (pos i : Nat) (bytes : List UInt8) (byte : UInt8) :
    applyKeystream key pos (bytes.set i byte) = (applyKeystream key pos bytes).set i (byte ^^^ key (pos + i)) := by
  induction bytes generalizing pos i with
  | nil => rfl
  | cons first bytes ih =>
    cases i with
    | zero => rfl
    | succ i =>
      rw [List.set_cons_succ, applyKeystream, ih, Nat.add_assoc, Nat.add_comm 1]
      rfl

theorem applyKeystream_inj (pos pos' : Nat) (bytes : List UInt8) :
    applyKeystream key pos bytes = applyKeystream key' pos' bytes ↔
      ∀ i < bytes.length, key (pos + i) = key' (pos' + i) := by
  induction bytes generalizing pos pos' with
  | nil => simp [applyKeystream]
  | cons byte bytes ih =>
    rw [applyKeystream, applyKeystream, List.cons.injEq, ih, UInt8.xor_right_inj, List.length_cons]
    constructor
    · rintro ⟨hfirst, hrest⟩ (_ | i) hi
      · exact hfirst
      · have := hrest i (by omega)
        rwa [Nat.add_assoc, Nat.add_comm 1, Nat.add_assoc, Nat.add_comm 1] at this
    · intro h
      refine ⟨h 0 (by omega), fun i hi => ?_⟩
      rw [Nat.add_assoc, Nat.add_comm 1, Nat.add_assoc, Nat.add_comm 1]
      exact h (i + 1) (by omega)

end MullvadVpn.Systems
