import Mathlib

/-!
Merging a list of changes into a list of elements with keys. A change is merged into the first element with
its key, or else appended. The elements that are already there keep their places, each of them absorbs the
changes with its key unless an earlier one does, and the new keys follow in the order in which they first
occur.
-/

namespace MullvadVpn.Systems

/-- How elements with keys absorb changes: the merged element keeps the key of the first argument, and the
element that a key starts with does not show in the result. -/
structure Merging (α κ : Type*) where
  key : α → κ
  merge : α → α → α
  start : κ → α
  key_merge : ∀ x a, key (merge x a) = key x
  key_start : ∀ k, key (start k) = k
  merge_start : ∀ a, merge (start (key a)) a = a

namespace Merging

variable {α κ : Type*} [DecidableEq κ] (m : Merging α κ)

def upsert (a : α) : List α → List α
  | [] => [a]
  | x :: l => if m.key x = m.key a then m.merge x a :: l else x :: upsert a l

def upsertAll (changes l : List α) : List α := changes.foldl (fun l a => m.upsert a l) l

/-- The element after all changes with its key. -/
def absorb (changes : List α) (x : α) : α :=
  (changes.filter fun a => m.key a = m.key x).foldl m.merge x

/-- The keys of the changes that no element has, in the order in which they first occur. -/
def newKeys (changes l : List α) : List κ :=
  ((changes.map m.key).filter (· ∉ l.map m.key)).eraseDups

variable {m}

@[simp] theorem upsertAll_nil (l : List α) : m.upsertAll [] l = l := rfl

theorem upsertAll_cons (a : α) (changes l : List α) :
    m.upsertAll (a :: changes) l = m.upsertAll changes (m.upsert a l) := rfl

variable {a x : α} {l : List α} {i : Nat}

theorem upsert_of_findIdx?_eq_some (h : l.findIdx? (m.key · = m.key a) = some i) (hx : l[i]? = some x) :
    m.upsert a l = l.set i (m.merge x a) := by
  induction l generalizing i with
  | nil => cases hx
  | cons y l ih =>
    rw [List.findIdx?_cons] at h
    unfold upsert
    split at h
    next hy =>
      cases h
      cases hx
      rw [if_pos (by simpa using hy)]
      rfl
    next hy =>
      obtain ⟨j, hj, rfl⟩ := Option.map_eq_some_iff.mp h
      rw [if_neg (by simpa using hy), ih hj hx]
      rfl

theorem upsert_of_findIdx?_eq_none (h : l.findIdx? (m.key · = m.key a) = none) : m.upsert a l = l ++ [a] := by
  induction l with
  | nil => rfl
  | cons y l ih =>
    have hne := List.findIdx?_eq_none_iff.mp h
    have hy : ¬ m.key y = m.key a := by simpa using hne y (List.mem_cons_self ..)
    unfold upsert
    rw [if_neg hy, ih (List.findIdx?_eq_none_iff.mpr fun x hx => hne x (List.mem_cons_of_mem _ hx))]
    rfl

theorem key_absorb (changes : List α) (x : α) : m.key (m.absorb changes x) = m.key x := by
  unfold absorb
  generalize changes.filter (fun a => m.key a = m.key x) = same
  induction same generalizing x with
  | nil => rfl
  | cons a same ih => rw [List.foldl_cons, ih, m.key_merge]

theorem absorb_cons_of_eq (h : m.key a = m.key x) (changes : List α) :
    m.absorb (a :: changes) x = m.absorb changes (m.merge x a) := by
  simp [absorb, h, m.key_merge]

theorem absorb_cons_of_ne (h : m.key a ≠ m.key x) (changes : List α) :
    m.absorb (a :: changes) x = m.absorb changes x := by
  simp [absorb, h]

variable {changes : List α}

theorem absorb_of_forall_ne (h : ∀ a ∈ changes, m.key a ≠ m.key x) : m.absorb changes x = x := by
  have hnone : changes.filter (fun a => m.key a = m.key x) = [] := by simpa using h
  rw [absorb, hnone, List.foldl_nil]

variable {k : κ}

theorem absorb_filter_ne (h : m.key x ≠ k) (changes : List α) :
    m.absorb (changes.filter fun a => m.key a ≠ k) x = m.absorb changes x := by
  unfold absorb
  rw [List.filter_filter]
  congr 1
  refine List.filter_congr fun a _ => ?_
  by_cases ha : m.key a = m.key x <;> simp [ha, h]

theorem field_absorb {β : Type*} (field : α → Option β)
    (hmerge : ∀ x a, field (m.merge x a) = (field a).or (field x)) (changes : List α) (x : α) :
    field (m.absorb changes x) =
      ((changes.filter fun a => m.key a = m.key x).reverse.findSome? field).or (field x) := by
  unfold absorb
  generalize changes.filter (fun a => m.key a = m.key x) = same
  induction same generalizing x with
  | nil => rfl
  | cons a same ih =>
    rw [List.foldl_cons, ih, hmerge, List.reverse_cons, List.findSome?_append, Option.or_assoc]
    cases hfield : field a <;> simp [hfield]

theorem upsertAll_of_cons (changes : List α) (x : α) (l : List α) : m.upsertAll changes (x :: l) =
      m.absorb changes x :: m.upsertAll (changes.filter fun a => m.key a ≠ m.key x) l := by
  induction changes generalizing x l with
  | nil => rfl
  | cons a changes ih =>
    rw [upsertAll_cons, upsert]
    by_cases h : m.key x = m.key a
    · rw [if_pos h, ih, absorb_cons_of_eq h.symm, m.key_merge, List.filter_cons_of_neg (by simpa using h.symm)]
    · rw [if_neg h, ih, absorb_cons_of_ne (Ne.symm h),
        List.filter_cons_of_pos (by simpa using Ne.symm h), upsertAll_cons]

theorem upsertAll_cons_of_nil (a : α) (changes : List α) : m.upsertAll (a :: changes) [] =
      m.absorb (a :: changes) (m.start (m.key a)) ::
        m.upsertAll (changes.filter fun b => m.key b ≠ m.key a) [] := by
  rw [upsertAll_cons, upsert, upsertAll_of_cons, absorb_cons_of_eq (m.key_start _).symm, m.merge_start]

theorem map_key_upsertAll (changes l : List α) :
    (m.upsertAll changes l).map m.key = l.map m.key ++ m.newKeys changes l := by
  induction l generalizing changes with
  | nil =>
    induction hn : changes.length using Nat.strongRecOn generalizing changes with
    | ind n ih =>
      cases changes with
      | nil => rfl
      | cons a changes =>
        subst hn
        have hshort := List.length_filter_le (fun b => decide (m.key b ≠ m.key a)) changes
        rw [upsertAll_cons_of_nil, List.map_cons, key_absorb, m.key_start,
          ih _ (by simp only [List.length_cons]; omega) _ rfl]
        simp [newKeys, List.eraseDups_cons, List.filter_map, Function.comp_def, beq_eq_decide]
  | cons x l ih =>
    rw [upsertAll_of_cons, List.map_cons, key_absorb, ih, List.map_cons, List.cons_append]
    congr 2
    unfold newKeys
    congr 1
    rw [List.filter_map, List.filter_map, List.filter_filter]
    congr 1
    refine List.filter_congr fun a _ => ?_
    by_cases ha : m.key a = m.key x <;> simp [ha]

/-- What is at a place that was there before: the element after all changes with its key, unless an
earlier one has the same key. -/
theorem getElem?_upsertAll (h : l[i]? = some x) : (m.upsertAll changes l)[i]? =
      some (if m.key x ∈ (l.take i).map m.key then x else m.absorb changes x) := by
  induction l generalizing changes i with
  | nil => cases h
  | cons y l ih =>
    rw [upsertAll_of_cons]
    cases i with
    | zero =>
      cases h
      rfl
    | succ i =>
      rw [List.getElem?_cons_succ, ih h, List.take_succ_cons, List.map_cons]
      by_cases hy : m.key x = m.key y
      · -- The changes with this key went to the earlier element.
        have hkept : m.absorb (changes.filter fun a => m.key a ≠ m.key y) x = x := by
          refine absorb_of_forall_ne fun a ha => ?_
          rw [hy]
          simpa using (List.mem_filter.mp ha).2
        rw [hkept, ite_self, if_pos (List.mem_cons.mpr (.inl hy))]
      · rw [absorb_filter_ne hy]
        simp [hy]

theorem mem_newKeys : k ∈ m.newKeys changes l ↔ k ∈ changes.map m.key ∧ k ∉ l.map m.key := by
  simp [newKeys, List.mem_eraseDups]

theorem key_mem_newKeys (hi : l.length ≤ i)
    (h : (m.upsertAll changes l)[i]? = some x) : m.key x ∈ m.newKeys changes l := by
  have hkey : ((m.upsertAll changes l).map m.key)[i]? = some (m.key x) := by simp [h]
  rw [map_key_upsertAll, List.getElem?_append_right (by simpa using hi)] at hkey
  exact List.mem_of_getElem? hkey

/-- The changes that an earlier element absorbed have another key than a new element. -/
theorem absorb_filter_start (hi : l.length ≤ i)
    (h : (m.upsertAll (changes.filter fun a => m.key a ≠ k) l)[i]? = some x) :
    m.key x ≠ k ∧ m.absorb (changes.filter fun a => m.key a ≠ k) (m.start (m.key x)) =
      m.absorb changes (m.start (m.key x)) := by
  obtain ⟨a, ha, hkey⟩ := List.mem_map.mp (mem_newKeys.mp (key_mem_newKeys hi h)).1
  have hne : m.key x ≠ k := by
    rw [← hkey]
    simpa using (List.mem_filter.mp ha).2
  exact ⟨hne, absorb_filter_ne (by rwa [m.key_start]) changes⟩

theorem getElem?_upsertAll_of_le (hi : l.length ≤ i)
    (h : (m.upsertAll changes l)[i]? = some x) : x = m.absorb changes (m.start (m.key x)) := by
  induction l generalizing changes i with
  | nil =>
    induction hn : changes.length using Nat.strongRecOn generalizing changes i with
    | ind n ih =>
      cases changes with
      | nil => cases h
      | cons a changes =>
        rw [upsertAll_cons_of_nil] at h
        cases i with
        | zero =>
          cases h
          rw [key_absorb, m.key_start]
        | succ i =>
          subst hn
          have hshort := List.length_filter_le (fun b => decide (m.key b ≠ m.key a)) changes
          obtain ⟨hne, habsorb⟩ := absorb_filter_start (Nat.zero_le i) h
          have hx := ih _ (by simp only [List.length_cons]; omega) (Nat.zero_le i) h rfl
          rw [absorb_cons_of_ne (by rw [m.key_start]; exact hne.symm), ← habsorb]
          exact hx
  | cons y l ih =>
    rw [upsertAll_of_cons] at h
    cases i with
    | zero => cases hi
    | succ i =>
      have hi' : l.length ≤ i := Nat.le_of_succ_le_succ hi
      rw [← (absorb_filter_start hi' h).2]
      exact ih hi' h

theorem upsertAll_of_nodup (h : ((l ++ changes).map m.key).Nodup) :
    m.upsertAll changes l = l ++ changes := by
  induction changes generalizing l with
  | nil => simp
  | cons a changes ih =>
    have hnone : l.findIdx? (m.key · = m.key a) = none := by
      refine List.findIdx?_eq_none_iff.mpr fun x hx => decide_eq_false fun hkey => ?_
      rw [List.map_append, List.nodup_append] at h
      exact h.2.2 _ (List.mem_map_of_mem hx) _ (List.mem_map_of_mem (List.mem_cons_self ..)) hkey
    rw [upsertAll_cons, upsert_of_findIdx?_eq_none hnone, ih (by simpa using h)]
    simp

theorem nodup_eraseDups (keys : List κ) : keys.eraseDups.Nodup := by
  induction hn : keys.length using Nat.strongRecOn generalizing keys with
  | ind n ih =>
    cases keys with
    | nil => exact List.nodup_nil
    | cons k keys =>
      subst hn
      have hshort := List.length_filter_le (fun l => !l == k) keys
      rw [List.eraseDups_cons, List.nodup_cons]
      refine ⟨fun hmem => ?_, ih _ (by simp only [List.length_cons]; omega) _ rfl⟩
      simpa using (List.mem_filter.mp (List.mem_eraseDups.mp hmem)).2

end Merging

end MullvadVpn.Systems
