import Mathlib

/-!
The maximum of a list under a comparison function, as iterators compute it: of several maximal elements
the last one is taken. Where the comparison is that of keys from a linear order, and no two elements
have the same key, the maximum does not depend on the order of the list.
-/

namespace MullvadVpn.Systems

variable {α κ : Type*}

def laterMax (compare : α → α → Ordering) (x y : α) : α :=
  match compare x y with
  | .gt => x
  | .lt | .eq => y

def maxBy (compare : α → α → Ordering) : List α → Option α
  | [] => none
  | a :: as => some (as.foldl (laterMax compare) a)

/-- The element is in the list, and no key is above its key. -/
structure IsMaximum [LE κ] (key : α → κ) (l : List α) (a : α) : Prop where
  mem : a ∈ l
  le : ∀ b ∈ l, key b ≤ key a

section Keys

variable [LinearOrder κ] {key : α → κ} {compare : α → α → Ordering} {l l' : List α} {a b : α}

theorem IsMaximum.unique (hinj : Set.InjOn key {x | x ∈ l}) (ha : IsMaximum key l a)
    (hb : IsMaximum key l b) : a = b :=
  hinj ha.mem hb.mem (le_antisymm (hb.le a ha.mem) (ha.le b hb.mem))

theorem IsMaximum.perm (h : IsMaximum key l a) (hperm : l.Perm l') : IsMaximum key l' a :=
  ⟨hperm.mem_iff.mp h.mem, fun b hb => h.le b (hperm.mem_iff.mpr hb)⟩

/-- The comparison of the elements of the list is that of their keys. -/
def ComparesBy (compare : α → α → Ordering) (key : α → κ) (l : List α) : Prop :=
  ∀ x ∈ l, ∀ y ∈ l, compare x y = .gt ↔ key y < key x

theorem ComparesBy.mono (h : ComparesBy compare key l) (hsub : ∀ x ∈ l', x ∈ l) : ComparesBy compare key l' :=
  fun x hx y hy => h x (hsub x hx) y (hsub y hy)

theorem foldl_laterMax (hcompare : ComparesBy compare key (a :: l)) :
    IsMaximum key (a :: l) (l.foldl (laterMax compare) a) := by
  induction l generalizing a with
  | nil => exact ⟨List.mem_singleton_self a, fun b hb => (List.mem_singleton.mp hb ▸ le_rfl)⟩
  | cons y l ih =>
    -- The element that is kept of the first two stands for both of them.
    have hkept : (laterMax compare a y = a ∨ laterMax compare a y = y) ∧
        key a ≤ key (laterMax compare a y) ∧ key y ≤ key (laterMax compare a y) := by
      have hay := hcompare a (List.mem_cons_self ..) y (by simp)
      unfold laterMax
      cases hc : compare a y with
      | gt => exact ⟨Or.inl rfl, le_rfl, (hay.mp hc).le⟩
      | lt | eq =>
        refine ⟨Or.inr rfl, ?_, le_rfl⟩
        exact not_lt.mp fun hlt => by
          rw [hay.mpr hlt] at hc
          cases hc
    obtain ⟨hmem, ha, hy⟩ := hkept
    have hsub : ∀ x ∈ laterMax compare a y :: l, x ∈ a :: y :: l := by
      intro x hx
      rcases List.mem_cons.mp hx with rfl | hx
      · rcases hmem with h | h <;> rw [h] <;> simp
      · exact List.mem_cons_of_mem _ (List.mem_cons_of_mem _ hx)
    have hmax := ih (hcompare.mono hsub)
    have hfirst := hmax.le _ (List.mem_cons_self ..)
    refine ⟨hsub _ hmax.mem, fun b hb => ?_⟩
    rcases List.mem_cons.mp hb with rfl | hb
    · exact ha.trans hfirst
    · rcases List.mem_cons.mp hb with rfl | hb
      · exact hy.trans hfirst
      · exact hmax.le b (List.mem_cons_of_mem _ hb)

theorem maxBy_isMaximum (hcompare : ComparesBy compare key l) (h : maxBy compare l = some a) :
    IsMaximum key l a := by
  cases l with
  | nil => cases h
  | cons x l =>
    cases h
    exact foldl_laterMax hcompare

theorem maxBy_eq_none_iff : maxBy compare l = none ↔ l = [] := by
  cases l <;> simp [maxBy]

theorem maxBy_eq_some_iff (hcompare : ComparesBy compare key l) (hinj : Set.InjOn key {x | x ∈ l}) :
    maxBy compare l = some a ↔ IsMaximum key l a := by
  refine ⟨maxBy_isMaximum hcompare, fun h => ?_⟩
  cases hmax : maxBy compare l with
  | none =>
    rw [maxBy_eq_none_iff.mp hmax] at h
    cases h.mem
  | some b => rw [(maxBy_isMaximum hcompare hmax).unique hinj h]

theorem maxBy_perm (hcompare : ComparesBy compare key l) (hinj : Set.InjOn key {x | x ∈ l})
    (hperm : l.Perm l') : maxBy compare l' = maxBy compare l := by
  cases hmax : maxBy compare l with
  | none =>
    rw [maxBy_eq_none_iff] at hmax ⊢
    exact (hmax ▸ hperm).nil_eq.symm
  | some a =>
    have hsub : ∀ x ∈ l', x ∈ l := fun x => hperm.mem_iff.mpr
    exact (maxBy_eq_some_iff (hcompare.mono hsub) (hinj.mono hsub)).mpr
      ((maxBy_isMaximum hcompare hmax).perm hperm)

end Keys

end MullvadVpn.Systems
