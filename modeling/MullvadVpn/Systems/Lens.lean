import MullvadVpn.Systems.Fallible

/-!
Parts of a state that can be read and replaced on their own. An operation on the part is an operation on
the state that leaves everything outside the part alone.
-/

namespace MullvadVpn.Systems

universe u v w

/-- A part of type `α` in states of type `σ`. -/
structure Lens (σ : Type u) (α : Type v) where
  get : σ → α
  set : α → σ → σ
  get_set : ∀ a s, get (set a s) = a
  set_get : ∀ s, set (get s) s = s
  set_set : ∀ a b s, set a (set b s) = set a s

namespace Lens

attribute [simp] get_set set_get set_set

variable {σ : Type u} {α : Type v} (part : Lens σ α)

def tryModify {ε : Type w} (f : α → Except ε α) (s : σ) : Except ε σ :=
  match f (part.get s) with
  | .ok a => .ok (part.set a s)
  | .error e => .error e

variable {part} {ε : Type w} {f : α → Except ε α} {s s' : σ}

theorem tryModify_eq_ok : part.tryModify f s = .ok s' ↔ ∃ a, f (part.get s) = .ok a ∧ s' = part.set a s := by
  unfold tryModify
  cases f (part.get s) <;> simp [eq_comm]

end Lens

end MullvadVpn.Systems
