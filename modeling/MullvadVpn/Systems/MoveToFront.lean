import Mathlib

/-!
Lists of what was used last: an element moves to the front when it is used, and what is beyond a number of
elements is cut off.
-/

namespace MullvadVpn.Systems

open List

variable {α : Type*} [DecidableEq α]

theorem dedup_concat (l : List α) (a : α) : (l ++ [a]).dedup = l.dedup.filter (· != a) ++ [a] := by
  induction l with
  | nil => rfl
  | cons b l ih =>
    by_cases hb : b ∈ l
    · rw [cons_append, dedup_cons_of_mem (mem_append_left _ hb), dedup_cons_of_mem hb, ih]
    · by_cases hba : b = a
      · rw [cons_append, dedup_cons_of_mem (by simp [hba]), ih, dedup_cons_of_notMem hb]
        simp [hba]
      · rw [cons_append, dedup_cons_of_notMem (by simp [hb, hba]), ih, dedup_cons_of_notMem hb]
        simp [hba]

/-- Of the first `n + 1` elements, `n` are other than `a`, which are then the first `n` of the others. -/
theorem take_filter_take {l : List α} (h : l.Nodup) (a : α) (n : Nat) :
    ((l.take (n + 1)).filter (· != a)).take n = (l.filter (· != a)).take n := by
  conv_rhs => rw [← take_append_drop (n + 1) l, filter_append]
  rcases Nat.lt_or_ge (n + 1) l.length with hl | hl
  · have hnodup := h.sublist (take_sublist (n + 1) l)
    have hlength : n ≤ ((l.take (n + 1)).filter (· != a)).length := by
      have hle : _ ≤ ((l.take (n + 1)).erase a).length := le_length_erase
      rw [hnodup.erase_eq_filter, length_take] at hle
      omega
    rw [take_append_of_le_length hlength]
  · rw [drop_of_length_le hl, filter_nil, append_nil]

theorem take_moveToFront (used : List α) (a : α) (n : Nat) :
    (a :: (used.dedup.reverse.take (n + 1)).filter (· != a)).take (n + 1) =
      (used ++ [a]).dedup.reverse.take (n + 1) := by
  have hnodup := nodup_reverse.mpr (nodup_dedup used)
  rw [dedup_concat, reverse_append, reverse_singleton, singleton_append,
    ← filter_reverse, take_succ_cons, take_succ_cons, take_filter_take hnodup]

end MullvadVpn.Systems
