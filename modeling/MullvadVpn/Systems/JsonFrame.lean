import MullvadVpn.Systems.Json

/-!
What a computation on a JSON value leaves alone. It is described by the paths at which the value may have
changed: every path that branches off from all of these leads to the same value as before.
-/

namespace MullvadVpn.Systems.Json

open List

variable {p keys : List String} {key : String}

/-- Two paths branch off from each other: neither continues the other. -/
def apart : List String → List String → Bool
  | k :: ks, l :: ls => k ≠ l || apart ks ls
  | _, _ => false

theorem apart_append {path : List String} (h : apart p path = true) (rest : List String) :
    apart (p ++ rest) path = true := by
  induction p generalizing path with
  | nil => cases h
  | cons k p ih =>
    cases path with
    | nil => cases h
    | cons l path =>
      rw [cons_append]
      by_cases hkl : k = l
      · simp only [apart, hkl, ne_eq, not_true_eq_false, decide_false, Bool.false_or] at h ⊢
        exact ih h
      · simp [apart, hkl]

/-- The values differ at most where one of the given paths leads. -/
def SameExcept (changed : List (List String)) (value value' : Json) : Prop :=
  ∀ path, (∀ p ∈ changed, apart p path = true) → value'.getPath path = value.getPath path

namespace SameExcept

variable {changed changed' : List (List String)} {value value' value'' : Json}

theorem refl (changed : List (List String)) (value : Json) : SameExcept changed value value :=
  fun _ _ => rfl

section

variable (h : SameExcept changed value value')

include h

theorem mono (hcover : ∀ p ∈ changed, ∃ q ∈ changed', q <+: p) : SameExcept changed' value value' := by
  intro path hpath
  refine h path fun p hp => ?_
  obtain ⟨q, hq, rest, rfl⟩ := hcover p hp
  exact apart_append (hpath q hq) rest

theorem trans (h' : SameExcept changed' value' value'') :
    SameExcept (changed ++ changed') value value'' := by
  intro path hpath
  rw [h' path fun p hp => hpath p (mem_append_right _ hp), h path fun p hp => hpath p (mem_append_left _ hp)]

theorem get (hkey : ∀ p ∈ changed, apart p [key] = true) : value'.get key = value.get key := by
  have hpath := h [key] hkey
  simpa [getPath] using hpath

end

theorem of_get (h : ∀ k ≠ key, value'.get k = value.get k) : SameExcept [[key]] value value' := by
  intro path hpath
  cases path with
  | nil => exact absurd (hpath _ (mem_singleton_self _)) (by simp [apart])
  | cons k path =>
    have hne := hpath _ (mem_singleton_self _)
    rw [getPath_cons, getPath_cons, h k]
    rintro rfl
    simp [apart] at hne

theorem insert (value : Json) (key : String) (new : Json) :
    SameExcept [[key]] value (value.insert key new) := by
  cases hobject : value.isObject with
  | true => exact of_get fun k hk => by rw [get_insert hobject, if_neg hk]
  | false => cases value <;> first | exact refl _ _ | cases hobject

theorem remove (value : Json) (key : String) : SameExcept [[key]] value (value.remove key) :=
  of_get fun k hk => by rw [get_remove, if_neg hk]

variable {ε : Type} {f : Json → Except (Failure ε) Json}

theorem setIndex {new : Json} (h : (value.setIndex key new : Except (Failure ε) Json) = .ok value') :
    SameExcept [[key]] value value' :=
  of_get fun k hk => by rw [get_setIndex h, if_neg hk]

theorem insertPath {inner inner' : Json} (hinner : value.getPath keys = some inner)
    (h : SameExcept (p :: changed) inner inner') :
    SameExcept ((p :: changed).map (keys ++ ·)) value (value.insertPath keys inner') := by
  induction keys generalizing value with
  | nil =>
    cases hinner
    simpa using h
  | cons key keys ih =>
    rw [getPath_cons, Option.bind_eq_some_iff] at hinner
    obtain ⟨next, hnext, hinner⟩ := hinner
    intro path hpath
    cases path with
    | nil => exact absurd (hpath _ (mem_cons_self ..)) (by simp [apart])
    | cons k path =>
      rw [getPath_cons, getPath_cons]
      by_cases hk : k = key
      · subst hk
        rw [get_insertPath_self hnext, hnext, Option.bind_some, Option.bind_some]
        refine ih hinner path fun q hq => ?_
        obtain ⟨r, hr, rfl⟩ := mem_map.mp hq
        simpa [apart] using hpath _ (mem_map_of_mem hr)
      · rw [get_insertPath_of_ne hk]

theorem update (h : value.update keys f = .ok value')
    (hf : ∀ inner inner', f inner = .ok inner' → SameExcept (p :: changed) inner inner') :
    SameExcept ((p :: changed).map (keys ++ ·)) value value' := by
  rcases update_eq_ok.mp h with ⟨-, rfl⟩ | ⟨inner, inner', hinner, hnew, rfl⟩
  · exact refl _ _
  · exact insertPath hinner (hf inner inner' hnew)

end SameExcept

/-- The fields that were there still are, apart from the dropped ones. -/
def Keeps (dropped : List String) (value value' : Json) : Prop :=
  ∀ key, key ∉ dropped → value.get key ≠ none → value'.get key ≠ none

namespace Keeps

variable {dropped dropped' : List String} {value value' value'' : Json}

theorem refl (dropped : List String) (value : Json) : Keeps dropped value value := fun _ _ h => h

theorem trans (h : Keeps dropped value value') (h' : Keeps dropped' value' value'') :
    Keeps (dropped ++ dropped') value value'' := by
  intro key hkey hget
  rw [mem_append, not_or] at hkey
  exact h' key hkey.2 (h key hkey.1 hget)

theorem insert (value : Json) (key : String) (new : Json) : Keeps [] value (value.insert key new) := by
  intro k _ hget
  obtain ⟨inner, hinner⟩ := Option.ne_none_iff_exists'.mp hget
  rw [get_insert (isObject_of_get hinner)]
  split
  · exact nofun
  · exact hget

theorem remove (value : Json) (key : String) : Keeps [key] value (value.remove key) := by
  intro k hk hget
  rw [get_remove, if_neg (by simpa using hk)]
  exact hget

theorem of_sameExcept (h : SameExcept [[key]] value value') : Keeps [key] value value' := by
  intro k hk hget
  rw [h.get]
  · exact hget
  · intro p hp
    cases mem_singleton.mp hp
    have hne : key ≠ k := fun heq => hk (mem_singleton.mpr heq.symm)
    simp [apart, hne]

theorem insertPath {inner : Json} (h : value.getPath (key :: keys) = some inner) (new : Json) :
    Keeps [] value (value.insertPath (key :: keys) new) := by
  intro k _ hget
  by_cases hk : k = key
  · subst hk
    obtain ⟨next, hnext, -⟩ := Option.bind_eq_some_iff.mp h
    rw [get_insertPath_self hnext]
    exact nofun
  · rw [get_insertPath_of_ne hk]
    exact hget

variable {ε : Type} {f : Json → Except (Failure ε) Json}

theorem setIndex {new : Json} (h : (value.setIndex key new : Except (Failure ε) Json) = .ok value') :
    Keeps [] value value' := by
  intro k _ hget
  rw [get_setIndex h]
  split
  · exact nofun
  · exact hget

theorem update (h : value.update (key :: keys) f = .ok value') : Keeps [] value value' := by
  rcases update_eq_ok.mp h with ⟨-, rfl⟩ | ⟨inner, new, hinner, -, rfl⟩
  · exact refl _ _
  · exact insertPath hinner new

end Keeps

end MullvadVpn.Systems.Json
