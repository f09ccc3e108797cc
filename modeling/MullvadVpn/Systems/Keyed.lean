import Mathlib

/-!
Lists whose elements carry keys: which changes leave the keys as they are, and which leave them distinct.
-/

namespace MullvadVpn.Systems.Keyed

open List

variable {α κ : Type*} {key : α → κ} {l : List α} {i : Nat} {a : α}

theorem map_set_of_key_eq (h : ∀ b, l[i]? = some b → key b = key a) : (l.set i a).map key = l.map key := by
  by_cases hi : i < l.length
  · have hkey : key a = (l.map key).get ⟨i, by simpa using hi⟩ := by
      rw [get_eq_getElem, getElem_map]
      exact (h _ (getElem?_eq_getElem hi)).symm
    rw [map_set, hkey, get_eq_getElem, set_getElem_self]
  · rw [set_eq_of_length_le (by omega)]

theorem nodup_map_set (hl : (l.map key).Nodup)
    (ha : ∀ j b, j ≠ i → l[j]? = some b → key b ≠ key a) : ((l.set i a).map key).Nodup := by
  rw [Nodup, pairwise_map, pairwise_iff_getElem] at hl ⊢
  intro j k hj hk hjk
  rw [length_set] at hj hk
  have hother : ∀ m (hm : m < l.length), m ≠ i → key l[m] ≠ key a :=
    fun m hm hne => ha m _ hne (getElem?_eq_getElem hm)
  rw [getElem_set, getElem_set]
  split <;> split
  · omega
  · exact (hother k hk (by omega)).symm
  · exact hother j hj (by omega)
  · exact hl j k hj hk hjk

theorem nodup_map_append (hl : (l.map key).Nodup) (ha : ∀ b ∈ l, key b ≠ key a) :
    ((l ++ [a]).map key).Nodup := by
  rw [map_append, map_singleton, nodup_append]
  refine ⟨hl, nodup_singleton _, ?_⟩
  intro b hb c hc
  obtain ⟨b, hmem, rfl⟩ := mem_map.mp hb
  rw [mem_singleton.mp hc]
  exact ha b hmem

theorem nodup_map_sublist {l' : List α} (h : l'.Sublist l) (hl : (l.map key).Nodup) : (l'.map key).Nodup :=
  hl.sublist (h.map key)

theorem index_eq_of_key_eq {j : Nat} {b : α} (hl : (l.map key).Nodup) (hi : l[i]? = some a)
    (hj : l[j]? = some b) (h : key a = key b) : i = j := by
  obtain ⟨hilt, rfl⟩ := List.getElem?_eq_some_iff.mp hi
  obtain ⟨hjlt, rfl⟩ := List.getElem?_eq_some_iff.mp hj
  have hget : (l.map key)[i]? = (l.map key)[j]? := by simp [hilt, hjlt, h]
  exact (getElem?_inj (by simpa using hilt) hl).mp hget

theorem key_not_mem_take (hl : (l.map key).Nodup) (hi : l[i]? = some a) : key a ∉ (l.take i).map key := by
  intro hmem
  obtain ⟨b, hb, hkey⟩ := mem_map.mp hmem
  obtain ⟨j, hj⟩ := mem_iff_getElem?.mp hb
  rw [getElem?_take] at hj
  split at hj
  next hlt => exact Nat.ne_of_lt hlt (index_eq_of_key_eq hl hj hi hkey)
  · cases hj

variable {p : α → Bool}

theorem filter_set (hold : ∀ b, l[i]? = some b → p b = false) (hnew : p a = false) :
    (l.set i a).filter p = l.filter p := by
  induction l generalizing i with
  | nil => rfl
  | cons b l ih =>
    cases i with
    | zero => simp [hold b rfl, hnew]
    | succ i => rw [set_cons_succ, filter_cons, filter_cons, ih hold]

theorem filter_eraseIdx (hold : ∀ b, l[i]? = some b → p b = false) :
    (l.eraseIdx i).filter p = l.filter p := by
  induction l generalizing i with
  | nil => rfl
  | cons b l ih =>
    cases i with
    | zero => simp [hold b rfl]
    | succ i => rw [eraseIdx_cons_succ, filter_cons, filter_cons, ih hold]

/-- Remove an element and put the last one in its place. -/
def swapRemove (i : Nat) (l : List α) : List α :=
  match l.getLast? with
  | some last => (l.set i last).dropLast
  | none => l

theorem swapRemove_perm (h : i < l.length) : (swapRemove i l).Perm (l.eraseIdx i) := by
  rcases eq_nil_or_concat' l with rfl | ⟨l, last, rfl⟩
  · cases h
  have hlast : swapRemove i (l ++ [last]) = ((l ++ [last]).set i last).dropLast := by
    simp [swapRemove]
  rw [hlast]
  by_cases hi : i < l.length
  · rw [set_append_left _ _ hi, dropLast_concat, eraseIdx_append_of_lt_length hi]
    exact (set_perm_cons_eraseIdx hi last).trans (perm_append_singleton last _).symm
  · -- The last element itself is removed.
    obtain rfl : i = l.length := by
      rw [length_append, length_singleton] at h
      omega
    simp [eraseIdx_append_of_length_le]

theorem nodup_map_swapRemove (hl : (l.map key).Nodup) (hi : i < l.length) :
    ((swapRemove i l).map key).Nodup :=
  ((swapRemove_perm hi).map key).nodup_iff.mpr (nodup_map_sublist (eraseIdx_sublist l i) hl)

theorem mem_of_mem_swapRemove (hi : i < l.length) (h : a ∈ swapRemove i l) : a ∈ l :=
  mem_of_mem_eraseIdx ((swapRemove_perm hi).mem_iff.mp h)

end MullvadVpn.Systems.Keyed
