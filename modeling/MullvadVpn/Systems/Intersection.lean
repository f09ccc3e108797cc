import Mathlib

/-!
Criteria that can be combined. `intersection` is a partial operation on criteria of one kind, and
`Refines` orders them by how much they ask for. A lawful intersection is, where it exists, at least as
specific as both of its arguments, so a search that only ever combines criteria cannot ask for less
than what it started from. Where combining is commutative, idempotent and associative, the order in
which criteria are combined does not matter either; this passes from the fields of a record to the
record.
-/

namespace MullvadVpn.Systems

open Option

class Intersection (α : Type) where
  intersection : α → α → Option α

class LawfulIntersection (α : Type) [Intersection α] where
  /-- The first criterion is at least as specific as the second. -/
  Refines : α → α → Prop
  refl : ∀ a, Refines a a
  trans : ∀ {a b c}, Refines a b → Refines b c → Refines a c
  refines_left : ∀ {a b c : α}, Intersection.intersection a b = some c → Refines c a
  refines_right : ∀ {a b c : α}, Intersection.intersection a b = some c → Refines c b

/-- Types whose values intersect only if they are equal. -/
class PartialEqIntersection (α : Type) : Prop

instance (α : Type) [DecidableEq α] [PartialEqIntersection α] : Intersection α where
  intersection a b := if a = b then some a else none

instance (α : Type) [DecidableEq α] [PartialEqIntersection α] : LawfulIntersection α where
  Refines a b := a = b
  refl _ := rfl
  trans hab hbc := hab.trans hbc
  refines_left h := by
    simp only [Intersection.intersection, ite_none_right_eq_some, some.injEq] at h
    exact h.2.symm
  refines_right h := by
    simp only [Intersection.intersection, ite_none_right_eq_some, some.injEq] at h
    exact h.2.symm.trans h.1

theorem intersection_ofField {α β : Type} [Intersection α] [LawfulIntersection α] {field : β → α}
    {mk : α → β} (hmk : ∀ x, field (mk x) = x) {a b c : β}
    (h : (Intersection.intersection (field a) (field b)).map mk = some c) :
    LawfulIntersection.Refines (field c) (field a) ∧ LawfulIntersection.Refines (field c) (field b) := by
  obtain ⟨x, hx, rfl⟩ := map_eq_some_iff.mp h
  rw [hmk]
  exact ⟨LawfulIntersection.refines_left hx, LawfulIntersection.refines_right hx⟩

section Order

open Intersection

variable {α β : Type} [Intersection α] [Intersection β]

/-- Three criteria combined from the left. Nothing combines with an intersection that does not exist. -/
def leftFirst (a b c : α) : Option α :=
  (intersection a b).bind fun merged => intersection merged c

def rightFirst (a b c : α) : Option α :=
  (intersection b c).bind fun merged => intersection a merged

class SemilatticeIntersection (α : Type) [Intersection α] : Prop where
  comm : ∀ a b : α, intersection a b = intersection b a
  idem : ∀ a : α, intersection a a = some a
  assoc : ∀ a b c : α, leftFirst a b c = rightFirst a b c

instance (α : Type) [DecidableEq α] [PartialEqIntersection α] : SemilatticeIntersection α where
  comm a b := by
    by_cases hab : a = b
    · rw [hab]
    · simp [intersection, hab, Ne.symm hab]
  idem a := by simp [intersection]
  assoc a b c := by
    by_cases hab : a = b <;> by_cases hbc : b = c <;> simp_all [leftFirst, rightFirst, intersection]

instance : Intersection (α × β) where
  intersection a b := map₂ Prod.mk (intersection a.1 b.1) (intersection a.2 b.2)

theorem intersection_prod (a b : α × β) :
    intersection a b = map₂ Prod.mk (intersection a.1 b.1) (intersection a.2 b.2) :=
  rfl

theorem leftFirst_prod (a b c : α × β) :
    leftFirst a b c = map₂ Prod.mk (leftFirst a.1 b.1 c.1) (leftFirst a.2 b.2 c.2) := by
  simp only [leftFirst, intersection_prod]
  cases intersection a.1 b.1 <;> cases intersection a.2 b.2 <;> simp

theorem rightFirst_prod (a b c : α × β) :
    rightFirst a b c = map₂ Prod.mk (rightFirst a.1 b.1 c.1) (rightFirst a.2 b.2 c.2) := by
  simp only [rightFirst, intersection_prod]
  cases intersection b.1 c.1 <;> cases intersection b.2 c.2 <;> simp

theorem comm_prod {a b : α × β} (h₁ : intersection a.1 b.1 = intersection b.1 a.1)
    (h₂ : intersection a.2 b.2 = intersection b.2 a.2) : intersection a b = intersection b a := by
  rw [intersection_prod, intersection_prod, h₁, h₂]

theorem idem_prod (a : α × β) :
    intersection a a = some a ↔ intersection a.1 a.1 = some a.1 ∧ intersection a.2 a.2 = some a.2 := by
  rw [intersection_prod, map₂_eq_some_iff]
  constructor
  · rintro ⟨x, y, hx, hy, rfl⟩
    exact ⟨hx, hy⟩
  · rintro ⟨hx, hy⟩
    exact ⟨a.1, a.2, hx, hy, rfl⟩

instance [SemilatticeIntersection α] [SemilatticeIntersection β] :
    SemilatticeIntersection (α × β) where
  comm a b := comm_prod (SemilatticeIntersection.comm _ _) (SemilatticeIntersection.comm _ _)
  idem a := (idem_prod a).mpr ⟨SemilatticeIntersection.idem _, SemilatticeIntersection.idem _⟩
  assoc a b c := by
    rw [leftFirst_prod, rightFirst_prod, SemilatticeIntersection.assoc, SemilatticeIntersection.assoc]

/-- Where only the second component depends on the order, the order shows unless the first components
clash. -/
theorem assoc_prod_iff [SemilatticeIntersection α] (a b c : α × β) :
    leftFirst a b c = rightFirst a b c ↔
      leftFirst a.1 b.1 c.1 = none ∨ leftFirst a.2 b.2 c.2 = rightFirst a.2 b.2 c.2 := by
  rw [leftFirst_prod, rightFirst_prod, ← SemilatticeIntersection.assoc a.1 b.1 c.1]
  cases leftFirst a.1 b.1 c.1 with
  | none => simp
  | some x => cases leftFirst a.2 b.2 c.2 <;> cases rightFirst a.2 b.2 c.2 <;> simp

/-- Criteria of different kinds clash. -/
instance : Intersection (α ⊕ β) where
  intersection
    | .inl a, .inl b => (intersection a b).map .inl
    | .inr a, .inr b => (intersection a b).map .inr
    | _, _ => none

@[simp]
theorem intersection_inl (a b : α) : intersection (.inl a : α ⊕ β) (.inl b) = (intersection a b).map .inl :=
  rfl

@[simp]
theorem intersection_inr (a b : β) : intersection (.inr a : α ⊕ β) (.inr b) = (intersection a b).map .inr :=
  rfl

@[simp]
theorem inl_intersection_inr (a : α) (b : β) : intersection (.inl a : α ⊕ β) (.inr b) = none := rfl

@[simp]
theorem inr_intersection_inl (a : β) (b : α) : intersection (.inr a : α ⊕ β) (.inl b) = none := rfl

theorem assoc_of_map {f : α → β} (hf : ∀ a b, intersection (f a) (f b) = (intersection a b).map f)
    {a b c : α} (h : leftFirst a b c = rightFirst a b c) :
    leftFirst (f a) (f b) (f c) = rightFirst (f a) (f b) (f c) := by
  have hmap := congrArg (Option.map f) h
  simpa [leftFirst, rightFirst, hf, Option.map_bind, Option.bind_map, Function.comp_def] using hmap

instance [SemilatticeIntersection α] [SemilatticeIntersection β] :
    SemilatticeIntersection (α ⊕ β) where
  comm a b := by
    cases a <;> cases b <;> simp [SemilatticeIntersection.comm]
  idem a := by
    cases a <;> simp [SemilatticeIntersection.idem]
  assoc a b c := by
    rcases a with a | a <;> rcases b with b | b <;> rcases c with c | c
    case inl.inl.inl => exact assoc_of_map intersection_inl (SemilatticeIntersection.assoc a b c)
    case inr.inr.inr => exact assoc_of_map intersection_inr (SemilatticeIntersection.assoc a b c)
    all_goals simp [leftFirst, rightFirst, bind_map]

/-- The records are combined part by part. -/
def Partwise (parts : β ≃ α) : Prop :=
  ∀ a b : β, intersection a b = (intersection (parts a) (parts b)).map parts.symm

namespace Partwise

variable {parts : β ≃ α} (h : Partwise parts)
include h

theorem leftFirst_eq (a b c : β) :
    leftFirst a b c = (leftFirst (parts a) (parts b) (parts c)).map parts.symm := by
  simp only [leftFirst, h a b, bind_map, map_bind]
  refine congrArg _ (funext fun merged => ?_)
  simp [h _ c]

theorem rightFirst_eq (a b c : β) :
    rightFirst a b c = (rightFirst (parts a) (parts b) (parts c)).map parts.symm := by
  simp only [rightFirst, h b c, bind_map, map_bind]
  refine congrArg _ (funext fun merged => ?_)
  simp [h a]

theorem assoc_iff (a b c : β) : leftFirst a b c = rightFirst a b c ↔
      leftFirst (parts a) (parts b) (parts c) = rightFirst (parts a) (parts b) (parts c) := by
  rw [h.leftFirst_eq, h.rightFirst_eq]
  exact (map_injective parts.symm.injective).eq_iff

theorem comm_of {a b : β} (hparts : intersection (parts a) (parts b) = intersection (parts b) (parts a)) :
    intersection a b = intersection b a := by
  rw [h a b, hparts, ← h b a]

theorem eq_some_iff {a b c : β} :
    intersection a b = some c ↔ intersection (parts a) (parts b) = some (parts c) := by
  rw [h a b, map_eq_some_iff]
  constructor
  · rintro ⟨merged, hmerged, rfl⟩
    rw [hmerged, parts.apply_symm_apply]
  · intro hmerged
    exact ⟨_, hmerged, parts.symm_apply_apply c⟩

theorem semilattice [SemilatticeIntersection α] : SemilatticeIntersection β where
  comm _ _ := h.comm_of (SemilatticeIntersection.comm _ _)
  idem _ := h.eq_some_iff.mpr (SemilatticeIntersection.idem _)
  assoc a b c := (h.assoc_iff a b c).mpr (SemilatticeIntersection.assoc _ _ _)

end Partwise

end Order

end MullvadVpn.Systems
