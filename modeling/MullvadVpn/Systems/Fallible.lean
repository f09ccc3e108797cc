import Mathlib

/-!
Computations that fail with an error: what a successful sequence and a successful loop did.
-/

namespace MullvadVpn.Systems.Fallible

open List

universe u v

variable {ε : Type u} {α β : Type v}

theorem ok_bind (a : α) (f : α → Except ε β) : (Except.ok a >>= f) = f a := rfl

variable {x : Except ε α} {f : α → Except ε β} {b : β}

theorem bind_eq_ok : (x >>= f) = .ok b ↔ ∃ a, x = .ok a ∧ f a = .ok b := by
  cases x with
  | error e =>
    constructor
    · intro h
      cases h
    · rintro ⟨a, ha, _⟩
      cases ha
  | ok a =>
    constructor
    · exact fun h => ⟨a, rfl, h⟩
    · rintro ⟨a', ha, h⟩
      cases ha
      exact h

variable {e : ε}

theorem bind_eq_error : (x >>= f) = .error e ↔ x = .error e ∨ ∃ a, x = .ok a ∧ f a = .error e := by
  cases x with
  | error e' | ok a => simp [bind, Except.bind]

theorem exists_bind_iff : (∃ b, (x >>= f) = .ok b) ↔ ∃ a, x = .ok a ∧ ∃ b, f a = .ok b := by
  cases x <;> simp [bind, Except.bind]

variable {a : α}

theorem exists_pure_iff : (∃ b, (pure a : Except ε α) = .ok b) ↔ True := iff_true_intro ⟨a, rfl⟩

theorem map_eq_ok {f} : x.map f = .ok b ↔ ∃ a, x = .ok a ∧ f a = b := by
  cases x <;> simp [Except.map]

theorem mapError_eq_ok {ε' : Type*} {f : ε → ε'} : x.mapError f = .ok a ↔ x = .ok a := by
  cases x <;> simp [Except.mapError]

def okOr (x : Option α) (e : ε) : Except ε α :=
  match x with
  | some a => .ok a
  | none => .error e

theorem okOr_eq_ok {x} : okOr x e = .ok a ↔ x = some a := by
  cases x <;> simp [okOr]

theorem okOr_eq_error {x : Option α} {e' : ε} : okOr x e = .error e' ↔ x = none ∧ e' = e := by
  cases x <;> simp [okOr, eq_comm]

def ensure (c : Prop) [Decidable c] (e : ε) : Except ε PUnit.{v + 1} :=
  if c then .ok ⟨⟩ else .error e

theorem ensure_eq_ok {c : Prop} [Decidable c] {u : PUnit.{v + 1}} : ensure c e = .ok u ↔ c := by
  by_cases h : c <;> simp [ensure, h]

variable {γ : Type*} {items : List γ}

theorem ite_any_eq_ok {p} {u : Unit} :
    (if items.any p then .error e else .ok () : Except ε Unit) = .ok u ↔ ∀ item ∈ items, p item = false := by
  cases hany : items.any p with
  | false | true => simpa using hany

def tryCollect : List (Except ε α) → Except ε (List α)
  | [] => .ok []
  | x :: xs => do
    let a ← x
    let as ← tryCollect xs
    return a :: as

variable {xs : List (Except ε α)} {as : List α}

theorem tryCollect_eq_ok : tryCollect xs = .ok as ↔ xs = as.map .ok := by
  induction xs generalizing as with
  | nil => cases as <;> simp [tryCollect]
  | cons x xs ih =>
    simp only [tryCollect, bind_eq_ok, ih]
    constructor
    · rintro ⟨a, rfl, as', rfl, has⟩
      cases has
      rfl
    · intro h
      cases as with
      | nil => cases h
      | cons a as =>
        cases h
        exact ⟨a, rfl, as, rfl, rfl⟩

theorem tryCollect_of_forall_ok (h : ∀ x ∈ xs, ∃ a, x = .ok a) : ∃ as, tryCollect xs = .ok as := by
  induction xs with
  | nil => exact ⟨[], rfl⟩
  | cons x xs ih =>
    obtain ⟨a, rfl⟩ := h x (mem_cons_self ..)
    obtain ⟨as, has⟩ := ih fun y hy => h y (mem_cons_of_mem _ hy)
    refine ⟨a :: as, tryCollect_eq_ok.mpr ?_⟩
    rw [map_cons, tryCollect_eq_ok.mp has]

theorem tryCollect_perm {xs' : List (Except ε α)} (hperm : xs.Perm xs')
    (h : tryCollect xs = .ok as) : ∃ as', tryCollect xs' = .ok as' ∧ as.Perm as' := by
  rw [tryCollect_eq_ok] at h
  obtain ⟨as', has'⟩ := tryCollect_of_forall_ok fun x (hx : x ∈ xs') => by
    rw [← hperm.mem_iff, h] at hx
    obtain ⟨a, _, rfl⟩ := mem_map.mp hx
    exact ⟨a, rfl⟩
  refine ⟨as', has', ?_⟩
  rw [h, tryCollect_eq_ok.mp has'] at hperm
  exact (map_perm_map_iff fun _ _ => Except.ok.inj).mp hperm

theorem mapM_eq_ok {γ : Type v} {f : γ → Except ε α} {x : Option γ} {y : Option α} :
    x.mapM f = .ok y ↔ x.map f = y.map .ok := by
  cases x with
  | none => cases y <;> simp [pure, Except.pure]
  | some c => cases hf : f c <;> cases y <;> simp [hf, Functor.map, Except.map]

theorem exists_mapM_iff {γ : Type v} {f : γ → Except ε α} {x : Option γ} :
    (∃ y, x.mapM f = .ok y) ↔ ∀ c ∈ x, ∃ a, f c = .ok a := by
  cases x with
  | none => simp [pure, Except.pure]
  | some c => cases hf : f c <;> simp [hf, Functor.map, Except.map]

/-- The concatenation of what each round of a loop adds, if all rounds succeed. -/
def concatEach (f : α → Except ε (List β)) : List α → Except ε (List β)
  | [] => .ok []
  | item :: items => do
    let added ← f item
    let rest ← concatEach f items
    return added ++ rest

theorem mem_concatEach {f : α → Except ε (List β)} {items : List α} {added : List β}
    (h : concatEach f items = .ok added) (hb : b ∈ added) :
    ∃ item ∈ items, ∃ round, f item = .ok round ∧ b ∈ round := by
  induction items generalizing added with
  | nil =>
    cases h
    cases hb
  | cons item items ih =>
    simp only [concatEach, bind_eq_ok] at h
    obtain ⟨round, hround, rest, hrest, hadded⟩ := h
    cases hadded
    rcases mem_append.mp hb with hmem | hmem
    · exact ⟨item, mem_cons_self .., round, hround, hmem⟩
    · obtain ⟨item', hitem, found⟩ := ih hrest hmem
      exact ⟨item', mem_cons_of_mem _ hitem, found⟩

theorem forM_eq_ok {f : γ → Except ε PUnit.{v + 1}} {u : PUnit.{v + 1}} :
    items.forM f = .ok u ↔ ∀ item ∈ items, f item = .ok ⟨⟩ := by
  induction items with
  | nil => simp [pure, Except.pure]
  | cons item items ih =>
    change (f item >>= fun _ => items.forM f) = .ok u ↔ _
    rw [bind_eq_ok, forall_mem_cons]
    constructor
    · rintro ⟨⟨⟩, hitem, hitems⟩
      exact ⟨hitem, ih.mp hitems⟩
    · rintro ⟨hitem, hitems⟩
      exact ⟨⟨⟩, hitem, ih.mpr hitems⟩

variable {start : β}

theorem foldlM_invariant {f : β → γ → Except ε β} {I : β → Prop}
    (hstep : ∀ b item b', I b → f b item = .ok b' → I b') {result : β}
    (hstart : I start) (h : items.foldlM f start = .ok result) : I result := by
  induction items generalizing start with
  | nil =>
    cases h
    exact hstart
  | cons item items ih =>
    rw [foldlM_cons, bind_eq_ok] at h
    obtain ⟨next, hnext, hrest⟩ := h
    exact ih (hstep start item next hstart hnext) hrest

theorem foldlM_error {f : β → γ → Except ε β} {P : ε → Prop}
    (hstep : ∀ b, ∀ item ∈ items, ∀ e, f b item = .error e → P e)
    (h : items.foldlM f start = .error e) : P e := by
  induction items generalizing start with
  | nil => cases h
  | cons item items ih =>
    rw [foldlM_cons, bind_eq_error] at h
    rcases h with h | ⟨next, -, hrest⟩
    · exact hstep start item (mem_cons_self ..) e h
    · exact ih (fun b item' hitem => hstep b item' (mem_cons_of_mem _ hitem)) hrest

theorem forall₂_of_map_eq {δ : Type*} {read : γ → Option δ} {values : List δ}
    (h : items.map read = values.map some) :
    Forall₂ (fun item value => read item = some value) items values := by
  rw [← forall₂_eq_eq_eq, forall₂_map_left_iff, forall₂_map_right_iff] at h
  exact h

end MullvadVpn.Systems.Fallible
