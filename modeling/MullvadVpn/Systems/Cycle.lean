import Mathlib

/-!
Going round a list from a position. One round from position `n` on is the list, with the positions, rotated by
`n`. Going on after an element that was met on the way moves what was passed to the end.
-/

namespace MullvadVpn.Systems

open List

variable {α : Type*} {l : List α} {passed rest : List (α × Nat)} {x : α × Nat} {n : Nat}

theorem rotate_zipIdx (h : l.zipIdx.rotate n = passed ++ x :: rest) :
    l[x.2]? = some x.1 ∧ l.zipIdx.rotate (x.2 + 1) = rest ++ (passed ++ [x]) := by
  have hlt : passed.length < l.zipIdx.length := by
    have := congrArg length h
    simp only [length_rotate, length_append, length_cons] at this
    omega
  have hx : l.zipIdx[(passed.length + n) % l.zipIdx.length]? = some x := by
    rw [← getElem?_rotate hlt, h, getElem?_append_right le_rfl, Nat.sub_self]
    rfl
  obtain ⟨hpos, hget⟩ : (passed.length + n) % l.zipIdx.length = x.2 ∧ l[x.2]? = some x.1 := by
    have := mk_mem_zipIdx_iff_getElem?.mp (mem_of_getElem? hx)
    rw [getElem?_zipIdx] at hx
    obtain ⟨a, -, rfl⟩ := Option.map_eq_some_iff.mp hx
    exact ⟨by simp, this⟩
  refine ⟨hget, ?_⟩
  have hlength : passed.length + 1 = (passed ++ [x]).length := by simp
  calc l.zipIdx.rotate (x.2 + 1) = (l.zipIdx.rotate n).rotate (passed.length + 1) := by
        rw [← rotate_rotate, ← hpos, rotate_mod, rotate_rotate, rotate_rotate]
        congr 1
        omega
    _ = ((passed ++ [x]) ++ rest).rotate (passed ++ [x]).length := by
        rw [h, hlength, append_assoc, singleton_append]
    _ = rest ++ (passed ++ [x]) := rotate_append_length_eq _ _

/-- The next element is the first of those still to come and, after it, the last of them. -/
theorem filter_rotate_zipIdx {p : α × Nat → Bool} (h : (l.zipIdx.rotate n).find? p = some x) :
    ∃ others, (l.zipIdx.rotate n).filter p = x :: others ∧
      (l.zipIdx.rotate (x.2 + 1)).filter p = others ++ [x] := by
  obtain ⟨hx, passed, rest, hsplit, hpassed⟩ := find?_eq_some_iff_append.mp h
  have hnone : passed.filter p = [] := by simpa using hpassed
  refine ⟨rest.filter p, ?_, ?_⟩
  · rw [hsplit, filter_append, hnone, nil_append, filter_cons_of_pos hx]
  · rw [(rotate_zipIdx hsplit).2]
    simp [hnone, hx]

end MullvadVpn.Systems
