import MullvadVpn.Systems.Json

/-!
When computations give a result, and when they panic. Both are told together: a sequence panics in a later
part only if the parts before it give a result.
-/

namespace MullvadVpn.Systems

variable {ε α β : Type}

/-- The computation gives a result exactly if the first condition holds, and panics exactly if the second
one does. -/
structure Ends (x : Except (Failure ε) α) (accepts panics : Prop) : Prop where
  exists_ok : (∃ a, x = .ok a) ↔ accepts
  panicked : x = .error .panicked ↔ panics

namespace Ends

variable {x : Except (Failure ε) α} {f : α → Except (Failure ε) β} {P P' Q Q' : Prop}

theorem congr (h : Ends x P Q) (hP : P ↔ P') (hQ : Q ↔ Q') : Ends x P' Q' :=
  ⟨h.exists_ok.trans hP, h.panicked.trans hQ⟩

theorem ne_panicked (h : Ends x P False) : x ≠ .error .panicked := h.panicked.mp

theorem of_ne_panicked (h : x ≠ .error .panicked) : Ends x (∃ a, x = .ok a) False :=
  ⟨.rfl, iff_of_false h not_false⟩

theorem ok (a : α) : Ends (.ok a : Except (Failure ε) α) True False := ⟨by simp, by simp⟩

theorem of_eq {a : α} (h : x = .ok a) : Ends x True False := h ▸ .ok a

theorem error (e : ε) : Ends (.error (.error e) : Except (Failure ε) α) False False :=
  ⟨by simp, by simp⟩

theorem bind (hx : Ends x P Q) (hf : ∀ a, x = .ok a → Ends (f a) P' Q') :
    Ends (x >>= f) (P ∧ P') (Q ∨ P ∧ Q') := by
  constructor
  · rw [← hx.exists_ok]
    constructor
    · rintro ⟨b, h⟩
      obtain ⟨a, ha, hb⟩ := Fallible.bind_eq_ok.mp h
      exact ⟨⟨a, ha⟩, (hf a ha).exists_ok.mp ⟨b, hb⟩⟩
    · rintro ⟨⟨a, ha⟩, h⟩
      obtain ⟨b, hb⟩ := (hf a ha).exists_ok.mpr h
      exact ⟨b, Fallible.bind_eq_ok.mpr ⟨a, ha, hb⟩⟩
  · rw [Fallible.bind_eq_error, hx.panicked, ← hx.exists_ok]
    refine or_congr_right ?_
    constructor
    · rintro ⟨a, ha, h⟩
      exact ⟨⟨a, ha⟩, (hf a ha).panicked.mp h⟩
    · rintro ⟨⟨a, ha⟩, h⟩
      exact ⟨a, ha, (hf a ha).panicked.mpr h⟩

theorem seq (hx : Ends x P False) (hf : ∀ a, x = .ok a → Ends (f a) P' Q') :
    Ends (x >>= f) (P ∧ P') (P ∧ Q') :=
  (hx.bind hf).congr .rfl (by simp)

theorem after (hx : Ends x True False) (hf : ∀ a, x = .ok a → Ends (f a) P' Q') : Ends (x >>= f) P' Q' :=
  (hx.seq hf).congr (by simp) (by simp)

theorem before (hx : Ends x P Q) (hf : ∀ a, x = .ok a → Ends (f a) True False) : Ends (x >>= f) P Q :=
  (hx.bind hf).congr (by simp) (by simp)

theorem both (hx : Ends x P False) (hf : ∀ a, x = .ok a → Ends (f a) P' False) :
    Ends (x >>= f) (P ∧ P') False :=
  (hx.seq hf).congr .rfl (by simp)

theorem okOr (found : Option α) (e : ε) : Ends (Fallible.okOr found (.error e)) (found ≠ none) False := by
  cases found with
  | none => exact (error e).congr (by simp) .rfl
  | some a => exact (ok a).congr (by simp) .rfl

theorem tryCollect {items : List α} {f : α → Except (Failure ε) β} {P : α → Prop}
    (h : ∀ item ∈ items, Ends (f item) (P item) False) :
    Ends (Fallible.tryCollect (items.map f)) (∀ item ∈ items, P item) False := by
  induction items with
  | nil => exact (ok _).congr (by simp) .rfl
  | cons item items ih =>
    obtain ⟨hitem, hitems⟩ := List.forall_mem_cons.mp h
    exact (hitem.both fun _ _ => (ih hitems).before fun _ _ => ok _).congr List.forall_mem_cons.symm .rfl

variable {value : Json}

theorem expectObject (value : Json) (e : ε) : Ends (value.expectObject e) (value.isObject = true) False := by
  unfold Json.expectObject
  split
  · rename_i h
    exact (ok value).congr (iff_of_true trivial h) .rfl
  · rename_i h
    exact (error e).congr (iff_of_false not_false h) .rfl

theorem setIndex (value : Json) (key : String) (new : Json) :
    Ends (value.setIndex key new : Except (Failure ε) Json) (value.indexable = true)
      (value.indexable = false) :=
  ⟨Json.exists_setIndex_iff, Json.setIndex_eq_error.trans (and_iff_right rfl)⟩

theorem setIndex_of_object (h : value.isObject = true) (key : String) (new : Json) :
    Ends (value.setIndex key new : Except (Failure ε) Json) True False :=
  of_eq (Json.setIndex_of_object h key new)

variable {keys : List String}

theorem update {f : Json → Except (Failure ε) Json} {P Q : Json → Prop}
    (h : ∀ inner, value.getPath keys = some inner → Ends (f inner) (P inner) (Q inner)) :
    Ends (value.update keys f) (∀ inner, value.getPath keys = some inner → P inner)
      (∃ inner, value.getPath keys = some inner ∧ Q inner) where
  exists_ok := by
    rw [Json.exists_update_iff]
    exact forall_congr' fun inner => imp_congr_right fun hinner => (h inner hinner).exists_ok
  panicked := by
    rw [Json.update_eq_error]
    exact exists_congr fun inner => and_congr_right fun hinner => (h inner hinner).panicked

theorem update_safe {f : Json → Except (Failure ε) Json} {P : Json → Prop}
    (h : ∀ inner, value.getPath keys = some inner → Ends (f inner) (P inner) False) :
    Ends (value.update keys f) (∀ inner, value.getPath keys = some inner → P inner) False :=
  (update h).congr .rfl (by simp)

theorem update_total {f : Json → Except (Failure ε) Json}
    (h : ∀ inner, value.getPath keys = some inner → Ends (f inner) True False) :
    Ends (value.update keys f) True False :=
  (update_safe h).congr (by simp) .rfl

end Ends

end MullvadVpn.Systems
