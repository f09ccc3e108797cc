import Mathlib

/-!
Looking for the first of a sequence of candidates that is free. If the candidates are different from
each other, one more attempt than there are taken values is always enough.
-/

namespace MullvadVpn.Systems

variable {α : Type*}

/-- The first free candidate, from a start and in a number of attempts. -/
def firstFree (isTaken : α → Bool) (candidate : Nat → α) : Nat → Nat → Option α
  | 0, _ => none
  | attempts + 1, start =>
    if isTaken (candidate start) then firstFree isTaken candidate attempts (start + 1)
    else some (candidate start)

variable {isTaken : α → Bool} {candidate : Nat → α} {attempts start : Nat}

theorem firstFree_eq_some {found : α} (h : firstFree isTaken candidate attempts start = some found) :
    isTaken found = false ∧ ∃ n, start ≤ n ∧ found = candidate n := by
  induction attempts generalizing start with
  | zero => cases h
  | succ attempts ih =>
    simp only [firstFree] at h
    split at h
    · obtain ⟨hfree, n, hn, hfound⟩ := ih h
      exact ⟨hfree, n, by omega, hfound⟩
    · rename_i htaken
      cases h
      exact ⟨by simpa using htaken, start, le_rfl, rfl⟩

theorem firstFree_eq_none (h : firstFree isTaken candidate attempts start = none) :
    ∀ n < attempts, isTaken (candidate (start + n)) = true := by
  induction attempts generalizing start with
  | zero => exact fun n hn => absurd hn (by omega)
  | succ attempts ih =>
    simp only [firstFree] at h
    split at h
    · rename_i htaken
      intro n hn
      cases n with
      | zero => exact htaken
      | succ n =>
        rw [show start + (n + 1) = start + 1 + n by omega]
        exact ih h n (by omega)
    · cases h

theorem exists_firstFree [DecidableEq α] {taken : List α} (hinjective : Function.Injective candidate)
    (htaken : ∀ a, isTaken a = true → a ∈ taken) (henough : taken.length < attempts) (start : Nat) :
    ∃ found, firstFree isTaken candidate attempts start = some found := by
  cases h : firstFree isTaken candidate attempts start with
  | some found => exact ⟨found, rfl⟩
  | none =>
    -- All the candidates would be among the taken values, which are fewer.
    have hsubset : (Finset.range attempts).image (fun n => candidate (start + n)) ⊆ taken.toFinset := by
      intro a ha
      obtain ⟨n, hn, rfl⟩ := Finset.mem_image.mp ha
      exact List.mem_toFinset.mpr (htaken _ (firstFree_eq_none h n (Finset.mem_range.mp hn)))
    have hcard := Finset.card_le_card hsubset
    rw [Finset.card_image_of_injective _ fun a b hab => by have := hinjective hab; omega,
      Finset.card_range] at hcard
    have hlength := List.toFinset_card_le taken
    omega

end MullvadVpn.Systems
