import Mathlib

/-!
Computations that draw random numbers. What is drawn is an infinite sequence of numbers that the
computation consumes from the front, so a statement about every sequence is a statement about every
outcome. `Always` and `Returns` are the two forms of such a statement, for computations that return
and for computations that may fail, and `Can` says that an outcome is possible. Each of them has one
rule for each way of composing computations.
-/

namespace MullvadVpn.Systems

open List

/-- A computation that consumes a sequence of random numbers. -/
abbrev Draw (α : Type) : Type :=
  StateM (Nat → Nat) α

abbrev Attempt (ε α : Type) : Type :=
  ExceptT ε (StateM (Nat → Nat)) α

namespace Draw

variable {α β : Type} {P : α → Prop} {Q : β → Prop}

def next : Draw Nat := fun draws => (draws 0, fun n => draws (n + 1))

/-- An element of the list, or nothing if there is none. -/
def choose (xs : List α) : Draw (Option α) := do
  let n ← next
  return xs[n % xs.length]?

/-- The elements of the list in an order that the draws decide. -/
def shuffle : List α → Draw (List α)
  | [] => return []
  | x :: xs => do
    let ys ← shuffle xs
    let n ← next
    return ys.insertIdx (n % (ys.length + 1)) x

/-- Whatever is drawn, the result satisfies `P`. -/
def Always (x : Draw α) (P : α → Prop) : Prop :=
  ∀ draws, P (x draws).1

variable {R : α → Prop} {x : Draw α}

theorem Always.mono (hx : Always x P) (h : ∀ a, P a → R a) : Always x R :=
  fun draws => h _ (hx draws)

variable {a : α}

theorem always_pure (h : P a) : Always (pure a) P := fun _ => h

variable {f : α → Draw β}

theorem Always.bind (hx : Always x P) (hf : ∀ a, P a → Always (f a) Q) : Always (x >>= f) Q :=
  fun draws => hf _ (hx draws) (x draws).2

theorem always_next_bind {f} (h : ∀ n, Always (f n) Q) : Always (next >>= f) Q :=
  fun draws => h _ fun n => draws (n + 1)

theorem always_choose (xs : List α) : Always (choose xs) fun result => ∀ a ∈ result, a ∈ xs := by
  refine always_next_bind fun n => always_pure ?_
  intro a ha
  exact mem_of_getElem? ha

theorem always_shuffle (xs : List α) : Always (shuffle xs) (Perm · xs) := by
  induction xs with
  | nil => exact always_pure (List.Perm.refl _)
  | cons x xs ih =>
    refine ih.bind fun ys hys => ?_
    refine always_next_bind fun n => always_pure ?_
    have hle : n % (ys.length + 1) ≤ ys.length := Nat.le_of_lt_succ (Nat.mod_lt _ (Nat.succ_pos _))
    exact (perm_insertIdx x ys hle).trans (hys.cons x)

def prepend : List Nat → (Nat → Nat) → Nat → Nat
  | [], draws => draws
  | n :: ns, draws => fun
    | 0 => n
    | i + 1 => prepend ns draws i

/-- Some numbers, when they are drawn, lead to the result. -/
def Can (x : Draw α) (a : α) : Prop :=
  ∃ numbers, ∀ rest, x (prepend numbers rest) = (a, rest)

theorem prepend_append (numbers more : List Nat) (rest : Nat → Nat) :
    prepend (numbers ++ more) rest = prepend numbers (prepend more rest) := by
  induction numbers with
  | nil => rfl
  | cons n numbers ih =>
    funext i
    cases i with
    | zero => rfl
    | succ i => exact congrFun ih i

theorem Can.exists_draws (h : Can x a) : ∃ draws, (x draws).1 = a := by
  obtain ⟨numbers, hnumbers⟩ := h
  exact ⟨prepend numbers id, by rw [hnumbers]⟩

theorem can_pure (a : α) : Can (pure a) a := ⟨[], fun _ => rfl⟩

theorem can_next (n : Nat) : Can next n := ⟨[n], fun _ => rfl⟩

theorem Can.bind {b : β} (hx : Can x a) (hf : Can (f a) b) : Can (x >>= f) b := by
  obtain ⟨numbers, hnumbers⟩ := hx
  obtain ⟨more, hmore⟩ := hf
  refine ⟨numbers ++ more, fun rest => ?_⟩
  change f (x (prepend (numbers ++ more) rest)).1 (x (prepend (numbers ++ more) rest)).2 = _
  rw [prepend_append, hnumbers, hmore]

variable {xs : List α}

theorem can_choose (h : a ∈ xs) : Can (choose xs) (some a) := by
  obtain ⟨i, hi, hget⟩ := getElem_of_mem h
  refine (can_next i).bind ?_
  rw [Nat.mod_eq_of_lt hi, getElem?_eq_getElem hi, hget]
  exact can_pure _

theorem can_choose_nil : Can (choose ([] : List α)) none := (can_next 0).bind (can_pure _)

theorem can_shuffle {ys} (h : ys.Perm xs) : Can (shuffle xs) ys := by
  induction xs generalizing ys with
  | nil =>
    obtain rfl := h.eq_nil
    exact can_pure _
  | cons x xs ih =>
    obtain ⟨i, hi, hget⟩ := getElem_of_mem (h.mem_iff.mpr (mem_cons_self ..))
    have hperm : (ys.eraseIdx i).Perm xs := by
      have hcons := (getElem_cons_eraseIdx_perm hi).trans h
      rw [hget] at hcons
      exact hcons.cons_inv
    have hlt : i < (ys.eraseIdx i).length + 1 := by
      rw [length_eraseIdx_of_lt hi]
      omega
    refine (ih hperm).bind ((can_next i).bind ?_)
    rw [Nat.mod_eq_of_lt hlt, ← hget, insertIdx_eraseIdx_getElem hi]
    exact can_pure ys

/-- The results of the computation are exactly those of `P`. -/
structure Outcomes (x : Draw α) (P : α → Prop) : Prop where
  always : Always x P
  can : ∀ a, P a → Can x a

theorem Outcomes.congr (hx : Outcomes x P) (h : ∀ a, P a ↔ R a) : Outcomes x R :=
  ⟨hx.always.mono fun a => (h a).mp, fun a ha => hx.can a ((h a).mpr ha)⟩

theorem outcomes_pure (a : α) : Outcomes (pure a) (· = a) :=
  ⟨always_pure rfl, fun _ ha => ha ▸ can_pure a⟩

theorem Outcomes.bind {R : α → β → Prop} (hx : Outcomes x P)
    (hf : ∀ a, P a → Outcomes (f a) (R a)) : Outcomes (x >>= f) fun b => ∃ a, P a ∧ R a b := by
  constructor
  · exact hx.always.bind fun a ha => (hf a ha).always.mono fun b hb => ⟨a, ha, hb⟩
  · rintro b ⟨a, ha, hb⟩
    exact (hx.can a ha).bind ((hf a ha).can b hb)

theorem Outcomes.bindOption {x : Draw (Option α)} {f : Option α → Draw β} {R : Option α → Prop}
    {S : β → Prop} {T : α → β → Prop} (hx : Outcomes x R) (hnone : Outcomes (f none) S)
    (hsome : ∀ a, R (some a) → Outcomes (f (some a)) (T a)) :
    Outcomes (x >>= f) fun b => R none ∧ S b ∨ ∃ a, R (some a) ∧ T a b := by
  refine (hx.bind (R := fun result b => result.elim (S b) (T · b)) fun result hresult => ?_).congr
    fun b => Option.exists
  cases result with
  | none => exact hnone
  | some a => exact hsome a hresult

theorem outcomes_next : Outcomes next fun _ => True := ⟨fun _ => trivial, fun n _ => can_next n⟩

/-- A choice from the list, which is nothing only if the list is empty. -/
def IsChoice (xs : List α) : Option α → Prop
  | some a => a ∈ xs
  | none => xs = []

theorem exists_isChoice (xs : List α) : ∃ result, IsChoice xs result := by
  cases xs with
  | nil => exact ⟨none, rfl⟩
  | cons x xs => exact ⟨some x, mem_cons_self ..⟩

theorem outcomes_choose (xs : List α) : Outcomes (choose xs) (IsChoice xs) := by
  constructor
  · intro draws
    cases h : (choose xs draws).1 with
    | some a => exact always_choose xs draws a h
    | none =>
      refine by_contra fun hne => ?_
      have hle := getElem?_eq_none_iff.mp h
      have hlt : draws 0 % xs.length < xs.length := Nat.mod_lt _ (length_pos_of_ne_nil hne)
      omega
  · rintro (_ | a) h
    · obtain rfl : xs = [] := h
      exact can_choose_nil
    · exact can_choose h

theorem outcomes_shuffle (xs : List α) : Outcomes (shuffle xs) (Perm · xs) :=
  ⟨always_shuffle xs, fun _ => can_shuffle⟩

/-- The first attempt of the list that gives a value, with the attempts that follow it. -/
def firstOf : List (Draw (Option α)) → Draw (Option (α × List (Draw (Option α))))
  | [] => return none
  | attempt :: rest => do
    match ← attempt with
    | some a => return some (a, rest)
    | none => firstOf rest

/-- The next value of an iterator that starts over when it is exhausted. Starting over makes every
attempt again, with new draws; an iterator that gives nothing even then has ended. -/
def cycleNext (attempts rest : List (Draw (Option α))) :
    Draw (Option (α × List (Draw (Option α)))) := do
  match ← firstOf rest with
  | some found => return some found
  | none => firstOf attempts

/-- The value at index `n` of the cycle, `rest` being what is left of the current round. -/
def cycleNth (attempts : List (Draw (Option α))) :
    Nat → List (Draw (Option α)) → Draw (Option α)
  | 0, rest => do
    match ← cycleNext attempts rest with
    | some (a, _) => return some a
    | none => return none
  | n + 1, rest => do
    match ← cycleNext attempts rest with
    | some (_, rest) => cycleNth attempts n rest
    | none => return none

/-- Every value the attempts of the list give satisfies `P`. -/
def AllGive (attempts : List (Draw (Option α))) (P : α → Prop) : Prop :=
  ∀ attempt ∈ attempts, Always attempt fun result => ∀ a ∈ result, P a

variable {attempts : List (Draw (Option α))}

theorem always_firstOf (h : AllGive attempts P) :
    Always (firstOf attempts) fun found => ∀ a rest, found = some (a, rest) → P a ∧ AllGive rest P := by
  induction attempts with
  | nil =>
    refine always_pure ?_
    intro a rest hfound
    cases hfound
  | cons attempt attempts ih =>
    obtain ⟨hattempt, hrest⟩ := forall_mem_cons.mp h
    refine hattempt.bind fun result hresult => ?_
    cases result with
    | some a =>
      refine always_pure ?_
      rintro _ _ ⟨⟩
      exact ⟨hresult a rfl, hrest⟩
    | none => exact ih hrest

theorem always_cycleNext {rest} (h : AllGive attempts P) (hrest : AllGive rest P) :
    Always (cycleNext attempts rest) fun found =>
      ∀ a rest, found = some (a, rest) → P a ∧ AllGive rest P := by
  refine (always_firstOf hrest).bind fun found hfound => ?_
  cases found with
  | some found => exact always_pure hfound
  | none => exact always_firstOf h

theorem always_cycleNth {rest} (n : Nat) (h : AllGive attempts P)
    (hrest : AllGive rest P) : Always (cycleNth attempts n rest) fun result => ∀ a ∈ result, P a := by
  induction n generalizing rest with
  | zero =>
    refine (always_cycleNext h hrest).bind fun found hfound => ?_
    rcases found with _ | ⟨a, rest'⟩
    · exact always_pure (by rintro _ ⟨⟩)
    · refine always_pure ?_
      rintro _ ⟨⟩
      exact (hfound a rest' rfl).1
  | succ n ih =>
    refine (always_cycleNext h hrest).bind fun found hfound => ?_
    rcases found with _ | ⟨a, rest'⟩
    · exact always_pure (by rintro _ ⟨⟩)
    · exact ih (hfound a rest' rfl).2

def Gives (attempt : Draw (Option α)) (a : α) : Prop :=
  ∃ draws, (attempt draws).1 = some a

section Settled

variable {ι : Type} {attempt : ι → Draw (Option α)} {gives : ι → Bool}

/-- Whether an attempt for one of the items gives a value does not depend on what is drawn. -/
def Settled (attempt : ι → Draw (Option α)) (gives : ι → Bool) (items : List ι) : Prop :=
  ∀ i ∈ items, Always (attempt i) fun result => result.isSome = gives i

theorem always_gives (x : Draw (Option α)) : Always x fun result => ∀ a ∈ result, Gives x a :=
  fun draws _ ha => ⟨draws, ha⟩

variable {items : List ι}

theorem always_firstOf_none (hsettled : Settled attempt gives items)
    (hnone : items.filter gives = []) : Always (firstOf (items.map attempt)) fun found => found = none := by
  induction items with
  | nil => exact always_pure rfl
  | cons i items ih =>
    obtain ⟨hi, hitems⟩ := forall_mem_cons.mp hsettled
    obtain ⟨hnot, hrest⟩ := forall_mem_cons.mp (filter_eq_nil_iff.mp hnone)
    refine hi.bind fun result hresult => ?_
    cases result with
    | some a => exact absurd hresult.symm hnot
    | none => exact ih hitems (filter_eq_nil_iff.mpr hrest)

/-- The first attempt that gives a value is that of the first item whose attempt does. -/
theorem always_firstOf_some {tail} {i : ι} (hsettled : Settled attempt gives items)
    (hsome : items.filter gives = i :: tail) :
    Always (firstOf (items.map attempt)) fun found => ∃ a rest, found = some (a, rest.map attempt) ∧
      Gives (attempt i) a ∧ rest.filter gives = tail ∧ Settled attempt gives rest := by
  induction items with
  | nil => cases hsome
  | cons j items ih =>
    obtain ⟨hj, hitems⟩ := forall_mem_cons.mp hsettled
    have hattempt : Always (attempt j) fun result =>
        result.isSome = gives j ∧ ∀ a ∈ result, Gives (attempt j) a :=
      fun draws => ⟨hj draws, always_gives (attempt j) draws⟩
    refine hattempt.bind fun result hresult => ?_
    obtain ⟨hgives, hvalue⟩ := hresult
    cases result with
    | some a =>
      rw [filter_cons_of_pos hgives.symm, cons.injEq] at hsome
      obtain ⟨rfl, htail⟩ := hsome
      exact always_pure ⟨a, items, rfl, hvalue a rfl, htail, hitems⟩
    | none =>
      have hnot : ¬ gives j = true := fun htrue => by simp [htrue] at hgives
      rw [filter_cons_of_neg hnot] at hsome
      exact ih hitems hsome

variable {rest : List ι}

theorem always_cycleNth_none (hsettled : Settled attempt gives items) (hrest : Settled attempt gives rest)
    (hnone : items.filter gives = []) (hnone' : rest.filter gives = []) (n : Nat) :
    Always (cycleNth (items.map attempt) n (rest.map attempt)) fun result => result = none := by
  have hnext : Always (cycleNext (items.map attempt) (rest.map attempt)) fun found => found = none := by
    refine (always_firstOf_none hrest hnone').bind fun found hfound => ?_
    subst hfound
    exact always_firstOf_none hsettled hnone
  cases n with
  | zero | succ n =>
    refine hnext.bind fun found hfound => ?_
    subst hfound
    exact always_pure rfl

section Nonempty

variable {items : List ι} (hsettled : Settled attempt gives items)
  (hpos : 0 < (items.filter gives).length)

include hsettled hpos

variable {k : Nat}

/-- With the items from the `k`-th usable one on left in the round, the next value is that of the
`k`-th usable item, or of the first one if the round is over. -/
theorem always_cycleNext_settled (hrest : Settled attempt gives rest)
    (hk : k ≤ (items.filter gives).length) (hdrop : rest.filter gives = (items.filter gives).drop k) :
    Always (cycleNext (items.map attempt) (rest.map attempt)) fun found =>
      ∃ a rest' i, found = some (a, rest'.map attempt) ∧
        (items.filter gives)[k % (items.filter gives).length]? = some i ∧ Gives (attempt i) a ∧
        rest'.filter gives = (items.filter gives).drop (k % (items.filter gives).length + 1) ∧
        Settled attempt gives rest' := by
  have hget {j : Nat} (hj : j < (items.filter gives).length) : (items.filter gives).drop j =
        (items.filter gives)[j] :: (items.filter gives).drop (j + 1) :=
    drop_eq_getElem_cons hj
  rcases Nat.lt_or_eq_of_le hk with hlt | heq
  · rw [Nat.mod_eq_of_lt hlt]
    refine (always_firstOf_some hrest (hdrop.trans (hget hlt))).bind fun found hfound => ?_
    obtain ⟨a, rest', rfl, hgives, htail, hsettled'⟩ := hfound
    exact always_pure ⟨a, rest', _, rfl, getElem?_eq_getElem hlt, hgives, htail, hsettled'⟩
  · rw [heq, Nat.mod_self]
    have hnone : rest.filter gives = [] := by rw [hdrop, heq, drop_length]
    have hfirst : items.filter gives = (items.filter gives)[0] :: (items.filter gives).drop (0 + 1) :=
      hget hpos
    refine (always_firstOf_none hrest hnone).bind fun found hfound => ?_
    subst hfound
    refine (always_firstOf_some hsettled hfirst).mono fun found hfound => ?_
    obtain ⟨a, rest', rfl, hgives, htail, hsettled'⟩ := hfound
    exact ⟨a, rest', _, rfl, getElem?_eq_getElem hpos, hgives, htail, hsettled'⟩

theorem always_cycleNth_settled (n : Nat)
    (hrest : Settled attempt gives rest) (hk : k ≤ (items.filter gives).length)
    (hdrop : rest.filter gives = (items.filter gives).drop k) :
    Always (cycleNth (items.map attempt) n (rest.map attempt)) fun result =>
      ∃ a i, result = some a ∧
        (items.filter gives)[(k + n) % (items.filter gives).length]? = some i ∧ Gives (attempt i) a := by
  induction n generalizing rest k with
  | zero =>
    refine (always_cycleNext_settled hsettled hpos hrest hk hdrop).bind fun found hfound => ?_
    obtain ⟨a, rest', i, rfl, hi, hgives, _⟩ := hfound
    exact always_pure ⟨a, i, rfl, hi, hgives⟩
  | succ n ih =>
    refine (always_cycleNext_settled hsettled hpos hrest hk hdrop).bind fun found hfound => ?_
    obtain ⟨a, rest', i, rfl, _, _, htail, hsettled'⟩ := hfound
    refine (ih hsettled' (Nat.mod_lt k hpos) htail).mono fun result hresult => ?_
    obtain ⟨b, j, hb, hj, hgives⟩ := hresult
    have hindex : (k % (items.filter gives).length + 1 + n) % (items.filter gives).length =
        (k + (n + 1)) % (items.filter gives).length := by
      rw [Nat.add_assoc, Nat.mod_add_mod, Nat.add_comm 1 n]
    exact ⟨b, j, hb, hindex ▸ hj, hgives⟩

end Nonempty

end Settled

end Draw

namespace Attempt

open Draw

variable {ε α β : Type} {P : α → Prop} {Q : β → Prop}

def ok (x : Attempt ε α) : Draw (Option α) := do
  match ← x.run with
  | .ok a => return some a
  | .error _ => return none

/-- An attempt that fails with `error` where `x` gives nothing. -/
def okOr (x : Draw (Option α)) (error : ε) : Attempt ε α := ExceptT.mk do
  match ← x with
  | some a => return .ok a
  | none => return .error error

def mapErr {ε' : Type} (f : ε → ε') (x : Attempt ε α) : Attempt ε' α := ExceptT.mk do
  match ← x.run with
  | .ok a => return .ok a
  | .error error => return .error (f error)

theorem ok_fst (x : Attempt ε α) (draws : Nat → Nat) : (x.ok draws).1 = (x.run draws).1.toOption := by
  change ((match (x.run draws).1 with
    | .ok a => pure (some a)
    | .error _ => pure none : Draw (Option α)) (x.run draws).2).1 = _
  cases (x.run draws).1 <;> rfl

variable {x : Attempt ε α}

theorem exists_run_of_gives {a : α} (h : Gives x.ok a) : ∃ draws, (x.run draws).1 = .ok a := by
  obtain ⟨draws, hdraws⟩ := h
  rw [ok_fst] at hdraws
  cases hrun : (x.run draws).1 with
  | ok b =>
    rw [hrun] at hdraws
    cases hdraws
    exact ⟨draws, hrun⟩
  | error error =>
    rw [hrun] at hdraws
    cases hdraws

theorem okOr_fst (x : Draw (Option α)) (error : ε) (draws : Nat → Nat) :
    ((okOr x error).run draws).1 = ((x draws).1.elim (.error error) .ok : Except ε α) := by
  change ((match (x draws).1 with
    | some a => pure (.ok a)
    | none => pure (.error error) : Draw (Except ε α)) (x draws).2).1 = _
  cases (x draws).1 <;> rfl

variable {ε' : Type}

theorem mapErr_fst (f : ε → ε') (x : Attempt ε α) (draws : Nat → Nat) :
    ((mapErr f x).run draws).1 = (x.run draws).1.mapError f := by
  change ((match (x.run draws).1 with
    | .ok a => pure (.ok a)
    | .error error => pure (.error (f error)) : Draw (Except ε' α)) (x.run draws).2).1 = _
  cases (x.run draws).1 <;> rfl

theorem run_bind_of_ok {a : α} {draws} (h : (x.run draws).1 = .ok a)
    (f : α → Attempt ε β) : (x >>= f).run draws = (f a).run (x.run draws).2 := by
  change ExceptT.bindCont f (x.run draws).1 (x.run draws).2 = _
  rw [h]
  rfl

theorem always_run_bind {f : α → Attempt ε β} {R : Except ε α → Prop}
    {S : Except ε β → Prop} (hx : Always x.run R) (hok : ∀ a, R (.ok a) → Always (f a).run S)
    (herror : ∀ error, R (.error error) → S (.error error)) : Always (x >>= f).run S := by
  change Always (x.run >>= ExceptT.bindCont f) _
  refine .bind hx fun result hresult => ?_
  cases result with
  | ok a => exact hok a hresult
  | error error => exact always_pure (herror error hresult)

theorem run_ok_bind (a : α) (f : α → Attempt ε β) :
    ((liftM (Except.ok a : Except ε α) : Attempt ε α) >>= f) = f a :=
  rfl

/-- Whatever is drawn, if the attempt succeeds its value satisfies `P`. -/
def Returns (x : Attempt ε α) (P : α → Prop) : Prop :=
  Always x.run fun result => ∀ a, result = .ok a → P a

theorem Returns.mono {R} (hx : Returns x P) (h : ∀ a, P a → R a) : Returns x R :=
  Always.mono hx fun _ hresult a ha => h a (hresult a ha)

theorem returns_true (x : Attempt ε α) : Returns x fun _ => True := fun _ _ _ => trivial

theorem returns_pure {a : α} (h : P a) : Returns (pure a : Attempt ε α) P :=
  always_pure (by rintro _ ⟨⟩; exact h)

variable {error : ε}

theorem returns_throw : Returns (throw error : Attempt ε α) P := always_pure (by rintro _ ⟨⟩)

theorem Returns.bind {f} (hx : Returns x P)
    (hf : ∀ a, P a → Returns (f a) Q) : Returns (x >>= f) Q :=
  always_run_bind hx (fun a hresult => hf a (hresult a rfl)) fun _ _ => by rintro _ ⟨⟩

theorem returns_liftExcept {x : Except ε α} (hx : ∀ a, x = .ok a → P a) : Returns (liftM x : Attempt ε α) P :=
  always_pure hx

theorem returns_okOr {x} (hx : Always x fun result => ∀ a ∈ result, P a) :
    Returns (okOr x error) P := by
  refine Always.bind hx fun result hresult => ?_
  cases result with
  | some a => exact returns_pure (hresult a rfl)
  | none => exact returns_throw

theorem Returns.mapErr {f : ε → ε'} (hx : Returns x P) : Returns (mapErr f x) P := by
  refine Always.bind hx fun result hresult => ?_
  cases result with
  | ok a => exact returns_pure (hresult a rfl)
  | error error => exact returns_throw

theorem Returns.ok (hx : Returns x P) : Always x.ok fun result => ∀ a ∈ result, P a := by
  refine .bind hx fun result hresult => ?_
  cases result with
  | ok a => exact always_pure (by rintro _ ⟨⟩; exact hresult a rfl)
  | error error => exact always_pure (by rintro _ ⟨⟩)

/-- A result that is one of the given values, or an error if the attempt may fail. -/
def IsOutcome (P : α → Prop) (miss : Prop) : Except ε α → Prop
  | .ok a => P a
  | .error _ => miss

/-- The values of the attempt are exactly those of `P`, and it can fail exactly if `miss`. -/
structure Exact (x : Attempt ε α) (P : α → Prop) (miss : Prop) : Prop where
  always : Always x.run (IsOutcome P miss)
  can : ∀ a, P a → Can x.run (.ok a)
  canFail : miss → ∃ error, Can x.run (.error error)

section Exact

variable {x : Attempt ε α} {miss : Prop}

theorem Exact.congr {R} {miss' : Prop} (hx : Exact x P miss) (h : ∀ a, P a ↔ R a)
    (hmiss : miss ↔ miss') : Exact x R miss' := by
  obtain rfl : P = R := funext fun a => propext (h a)
  obtain rfl : miss = miss' := propext hmiss
  exact hx

theorem exact_pure (a : α) : Exact (pure a : Attempt ε α) (· = a) False :=
  ⟨always_pure rfl, fun _ ha => ha ▸ can_pure _, False.elim⟩

theorem exact_throw (error : ε) : Exact (throw error : Attempt ε α) (fun _ => False) True :=
  ⟨always_pure trivial, fun _ => False.elim, fun _ => ⟨error, can_pure _⟩⟩

theorem exact_lift {x} (hx : Outcomes x P) : Exact (liftM x : Attempt ε α) P False := by
  have hrun : (liftM x : Attempt ε α).run = x >>= fun a => pure (.ok a) := rfl
  refine ⟨?_, fun a ha => ?_, False.elim⟩
  · exact .bind hx.always fun _ ha => always_pure ha
  · rw [hrun]
    exact (hx.can a ha).bind (can_pure _)

theorem exact_liftExcept (x : Except ε α) :
    Exact (liftM x : Attempt ε α) (fun a => x = .ok a) (∀ a, x ≠ .ok a) := by
  have hcan : Can (liftM x : Attempt ε α).run x := can_pure x
  cases x with
  | ok a => exact ⟨always_pure rfl, fun _ ha => ha ▸ hcan, fun h => absurd rfl (h a)⟩
  | error error => exact ⟨always_pure nofun, nofun, fun _ => ⟨error, hcan⟩⟩

theorem exact_okOr {x : Draw (Option α)} {R : Option α → Prop} (error : ε) (hx : Outcomes x R) :
    Exact (okOr x error) (fun a => R (some a)) (R none) := by
  refine ⟨.bind hx.always fun result hresult => ?_, fun a ha => ?_, fun hnone => ⟨error, ?_⟩⟩
  · cases result with
    | some a | none => exact always_pure hresult
  · exact (hx.can _ ha).bind (can_pure _)
  · exact (hx.can _ hnone).bind (can_pure _)

theorem Exact.mapErr (hx : Exact x P miss) (f : ε → ε') : Exact (mapErr f x) P miss := by
  refine ⟨.bind hx.always fun result hresult => ?_, fun a ha => ?_, fun hmiss => ?_⟩
  · cases result with
    | ok a | error error => exact always_pure hresult
  · exact (hx.can a ha).bind (can_pure _)
  · obtain ⟨error, herror⟩ := hx.canFail hmiss
    exact ⟨f error, herror.bind (can_pure _)⟩

theorem Exact.bind {f : α → Attempt ε β} {R : α → β → Prop} {M : α → Prop} (hx : Exact x P miss)
    (hf : ∀ a, P a → Exact (f a) (R a) (M a)) :
    Exact (x >>= f) (fun b => ∃ a, P a ∧ R a b) (miss ∨ ∃ a, P a ∧ M a) := by
  have hrun : (x >>= f).run = x.run >>= ExceptT.bindCont f := rfl
  refine ⟨?_, ?_, ?_⟩ <;> rw [hrun]
  · refine .bind hx.always fun result hresult => ?_
    cases result with
    | ok a =>
      refine (hf a hresult).always.mono fun result' hresult' => ?_
      cases result' with
      | ok b => exact ⟨a, hresult, hresult'⟩
      | error error => exact .inr ⟨a, hresult, hresult'⟩
    | error error => exact always_pure (.inl hresult)
  · rintro b ⟨a, ha, hb⟩
    exact (hx.can a ha).bind ((hf a ha).can b hb)
  · rintro (hmiss | ⟨a, ha, hmiss⟩)
    · obtain ⟨error, herror⟩ := hx.canFail hmiss
      exact ⟨error, herror.bind (can_pure _)⟩
    · obtain ⟨error, herror⟩ := (hf a ha).canFail hmiss
      exact ⟨error, (hx.can a ha).bind herror⟩

theorem exact_bindOption {x : Draw (Option α)} {f : Option α → Attempt ε β} {R : Option α → Prop}
    {S : β → Prop} {T : α → β → Prop} {missNone : Prop} {missSome : α → Prop} (hx : Outcomes x R)
    (hnone : Exact (f none) S missNone) (hsome : ∀ a, R (some a) → Exact (f (some a)) (T a) (missSome a)) :
    Exact (liftM x >>= f) (fun b => R none ∧ S b ∨ ∃ a, R (some a) ∧ T a b)
      (R none ∧ missNone ∨ ∃ a, R (some a) ∧ missSome a) := by
  refine ((exact_lift hx).bind (R := fun result b => result.elim (S b) (T · b))
    (M := fun result => result.elim missNone missSome) fun result hresult => ?_).congr
      (fun b => Option.exists) (by rw [false_or, Option.exists]; rfl)
  cases result with
  | none => exact hnone
  | some a => exact hsome a hresult

section

variable (hx : Exact x P miss)

include hx

theorem Exact.map (f : α → β) : Exact (f <$> x) (fun b => ∃ a, P a ∧ b = f a) miss := by
  rw [map_eq_pure_bind]
  exact (hx.bind fun a _ => exact_pure (f a)).congr (fun _ => .rfl) (by simp)

theorem Exact.returns : Returns x P := by
  intro draws a ha
  have hresult := hx.always draws
  rw [ha] at hresult
  exact hresult

theorem Exact.exists_of_not_miss (h : ¬ miss) : ∃ a, P a := by
  have hresult := hx.always id
  cases hrun : (x.run id).1 with
  | ok a =>
    rw [hrun] at hresult
    exact ⟨a, hresult⟩
  | error error =>
    rw [hrun] at hresult
    exact absurd hresult h

theorem Exact.exists_ok_iff (a : α) : (∃ draws, (x.run draws).1 = .ok a) ↔ P a := by
  refine ⟨?_, fun ha => (hx.can a ha).exists_draws⟩
  rintro ⟨draws, ha⟩
  exact hx.returns draws a ha

theorem Exact.exists_error_iff : (∃ draws, ¬ ∃ a, (x.run draws).1 = .ok a) ↔ miss := by
  constructor
  · rintro ⟨draws, hnone⟩
    have hresult := hx.always draws
    cases h : (x.run draws).1 with
    | ok a => exact absurd ⟨a, h⟩ hnone
    | error error =>
      rw [h] at hresult
      exact hresult
  · intro hmiss
    obtain ⟨error, herror⟩ := hx.canFail hmiss
    obtain ⟨draws, hdraws⟩ := herror.exists_draws
    refine ⟨draws, ?_⟩
    rintro ⟨a, ha⟩
    cases hdraws.symm.trans ha

end

end Exact

end Attempt

end MullvadVpn.Systems
