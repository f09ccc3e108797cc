import Mathlib

/-!
Decimal numerals as lists of characters. `Nat.toDigits 10` writes a number and `Nat.ofDigitChars 10`
reads it; the numerals without a leading zero are exactly those that are written.
-/

namespace MullvadVpn.Systems.Decimal

open List

variable {c : Char} {digits : List Char}

def value (digits : List Char) : Nat :=
  Nat.ofDigitChars 10 digits 0

theorem value_toDigits (n : Nat) : value (Nat.toDigits 10 n) = n :=
  Nat.ofDigitChars_toDigits (by norm_num) le_rfl

theorem value_append_singleton (digits : List Char) (c : Char) :
    value (digits ++ [c]) = 10 * value digits + (c.toNat - 48) := by
  simp only [value, Nat.ofDigitChars, foldl_append, foldl_cons, foldl_nil]
  rfl

theorem toNat_of_isDigit (h : c.isDigit = true) : 48 ≤ c.toNat ∧ c.toNat ≤ 57 := by
  simp only [Char.isDigit, Bool.and_eq_true, decide_eq_true_eq] at h
  exact ⟨UInt32.le_iff_toNat_le.mp h.1, UInt32.le_iff_toNat_le.mp h.2⟩

theorem digitChar_digit (h : c.isDigit = true) : Nat.digitChar (c.toNat - 48) = c := by
  have hdigit := toNat_of_isDigit h
  have hlt : c.toNat - 48 < 10 := by omega
  refine Char.toNat_inj.mp ((Nat.toNat_digitChar_of_lt_ten hlt).trans ?_)
  omega

theorem value_lt_pow (h : ∀ c ∈ digits, c.isDigit = true) : value digits < 10 ^ digits.length := by
  induction digits using reverseRecOn with
  | nil => exact Nat.one_pos
  | append_singleton digits c ih =>
    obtain ⟨hdigits, hc⟩ := forall_mem_append.mp h
    have hlt := ih hdigits
    have hdigit := toNat_of_isDigit (hc c (mem_singleton_self c))
    rw [value_append_singleton, length_append, length_singleton, Nat.pow_succ]
    omega

theorem pow_le_value (hc : c.isDigit = true) (hne : c ≠ '0') : 10 ^ digits.length ≤ value (c :: digits) := by
  induction digits using reverseRecOn with
  | nil =>
    have hdigit := toNat_of_isDigit hc
    have hzero : c.toNat ≠ 48 := fun h => hne (Char.toNat_inj.mp h)
    change 1 ≤ 10 * 0 + (c.toNat - 48)
    omega
  | append_singleton digits d ih =>
    rw [← cons_append, value_append_singleton, length_append, length_singleton, Nat.pow_succ]
    omega

theorem toDigits_value (hc : c.isDigit = true) (hne : c ≠ '0') (h : ∀ d ∈ digits, d.isDigit = true) :
    Nat.toDigits 10 (value (c :: digits)) = c :: digits := by
  induction digits using reverseRecOn with
  | nil =>
    have hdigit := toNat_of_isDigit hc
    have hvalue : value [c] = c.toNat - 48 := Nat.zero_add _
    rw [hvalue, Nat.toDigits_of_lt_base (by omega), digitChar_digit hc]
  | append_singleton digits d ih =>
    obtain ⟨hdigits, hd⟩ := forall_mem_append.mp h
    have hd := hd d (mem_singleton_self d)
    have hdigit := toNat_of_isDigit hd
    have hpos : 1 ≤ value (c :: digits) := Nat.one_le_pow' .. |>.trans (pow_le_value hc hne)
    rw [← cons_append, value_append_singleton, Nat.toDigits_of_base_le (by norm_num) (by omega)]
    have hdiv : (10 * value (c :: digits) + (d.toNat - 48)) / 10 = value (c :: digits) := by omega
    have hmod : (10 * value (c :: digits) + (d.toNat - 48)) % 10 = d.toNat - 48 := by omega
    rw [hdiv, hmod, ih hdigits, digitChar_digit hd]

theorem exists_toDigits_eq_cons {n : Nat} (hpos : 0 < n) :
    ∃ c digits, Nat.toDigits 10 n = c :: digits ∧ c.isDigit = true ∧ c ≠ '0' ∧
      ∀ d ∈ digits, d.isDigit = true := by
  have hdigits : ∀ d ∈ Nat.toDigits 10 n, d.isDigit = true := fun d hd =>
    Nat.isDigit_of_mem_toDigits (by norm_num) le_rfl hd
  cases hn : Nat.toDigits 10 n with
  | nil => exact absurd hn Nat.toDigits_ne_nil
  | cons c digits =>
    rw [hn] at hdigits
    obtain ⟨hc, hrest⟩ := forall_mem_cons.mp hdigits
    refine ⟨c, digits, rfl, hc, ?_, hrest⟩
    -- With a leading zero the value would fit into one digit less.
    rintro rfl
    have hvalue : value digits = n := by rw [← value_toDigits n, hn]; rfl
    have hlt := value_lt_pow hrest
    cases digits with
    | nil => exact absurd hvalue hpos.ne
    | cons d digits =>
      rw [hvalue] at hlt
      have hlength := (Nat.length_toDigits_le_iff (by norm_num) (Nat.succ_pos _)).mpr hlt
      rw [hn] at hlength
      exact absurd hlength (Nat.not_succ_le_self _)

end MullvadVpn.Systems.Decimal
