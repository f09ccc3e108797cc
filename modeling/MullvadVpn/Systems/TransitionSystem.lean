import Mathlib

/-!
Deterministic event-driven systems over arbitrary states and events, with a partial step function:
`none` means that the event cannot be delivered in that state. A run carries the events it
delivered, most recent first. The rules below turn facts about one step into facts about every run,
and a decreasing rank into a bound on how long every run takes to reach a goal.
-/

namespace MullvadVpn.Systems

/-- A system: where runs start, and what delivering an event does. -/
structure TransitionSystem (σ ε : Type*) where
  Init : σ → Prop
  step : σ → ε → Option σ

namespace TransitionSystem

variable {σ ε : Type*} (S : TransitionSystem σ ε)

/-- `S.RunWhere C h s`: a run that delivers the events `h` and ends in `s`, each of whose steps
meets the condition `C` on the history so far, the state before the step and the event. -/
inductive RunWhere (C : List ε → σ → ε → Prop) : List ε → σ → Prop
  | init {s : σ} : S.Init s → RunWhere C [] s
  | step {h : List ε} {s s' : σ} {e : ε} :
      RunWhere C h s → C h s e → S.step s e = some s' → RunWhere C (e :: h) s'

def Run : List ε → σ → Prop :=
  S.RunWhere fun _ _ _ => True

/-- Deliver a list of events, in order. -/
def exec : σ → List ε → Option σ
  | s, [] => some s
  | s, e :: es => (S.step s e).bind fun s' => exec s' es

variable {S}

namespace Run

variable {s : σ}

theorem init (h : S.Init s) : S.Run [] s := RunWhere.init h

theorem step {h} {s' : σ} {e : ε} (hrun : S.Run h s) (hstep : S.step s e = some s') :
    S.Run (e :: h) s' :=
  RunWhere.step hrun trivial hstep

end Run

variable {C : List ε → σ → ε → Prop} {s : σ} {h : List ε}

theorem RunWhere.run (hrun : S.RunWhere C h s) : S.Run h s := by
  induction hrun with
  | init hinit => exact .init hinit
  | step _ _ hstep ih => exact ih.step hstep

variable {I : List ε → σ → Prop}

/-- Invariant rule for conditional runs. The step premise may use that the state before the step
was reached by a run of the same kind, so earlier invariants can be fed into later ones. -/
theorem RunWhere.invariant (hinit : ∀ s, S.Init s → I [] s)
    (hstep : ∀ h s e s', S.RunWhere C h s → C h s e → I h s → S.step s e = some s' → I (e :: h) s')
    (hrun : S.RunWhere C h s) : I h s := by
  induction hrun with
  | init h => exact hinit _ h
  | step hrun hC hs ih => exact hstep _ _ _ _ hrun hC ih hs

theorem Run.invariant (hinit : ∀ s, S.Init s → I [] s)
    (hstep : ∀ h s e s', S.Run h s → I h s → S.step s e = some s' → I (e :: h) s')
    (hrun : S.Run h s) : I h s :=
  RunWhere.invariant hinit (fun h s e s' hr _ hi hs => hstep h s e s' hr hi hs) hrun

/-- Two conditions on steps allow the same runs if they agree in every state an invariant allows, and
the steps that meet them keep the invariant. -/
theorem runWhere_congr {D} (hinit : ∀ s, S.Init s → I [] s)
    (hiff : ∀ h s e s', I h s → S.step s e = some s' → (C h s e ↔ D h s e))
    (hkeep : ∀ h s e s', I h s → C h s e → S.step s e = some s' → I (e :: h) s')
    (h : List ε) (s : σ) : S.RunWhere C h s ↔ S.RunWhere D h s := by
  -- Both directions carry the invariant along the run.
  constructor
  · intro hrun
    suffices hboth : S.RunWhere D h s ∧ I h s from hboth.1
    induction hrun with
    | init h => exact ⟨.init h, hinit _ h⟩
    | step _ hC hs ih =>
      exact ⟨.step ih.1 ((hiff _ _ _ _ ih.2 hs).mp hC) hs, hkeep _ _ _ _ ih.2 hC hs⟩
  · intro hrun
    suffices hboth : S.RunWhere C h s ∧ I h s from hboth.1
    induction hrun with
    | init h => exact ⟨.init h, hinit _ h⟩
    | step _ hD hs ih =>
      have hC := (hiff _ _ _ _ ih.2 hs).mpr hD
      exact ⟨.step ih.1 hC hs, hkeep _ _ _ _ ih.2 hC hs⟩

@[simp] theorem exec_nil (s : σ) : S.exec s [] = some s := rfl

theorem exec_cons (s : σ) (e : ε) (es : List ε) :
    S.exec s (e :: es) = (S.step s e).bind fun s' => S.exec s' es := rfl

theorem Run.exec (hrun : S.Run h s) {es} {s' : σ}
    (hexec : S.exec s es = some s') : S.Run (es.reverse ++ h) s' := by
  induction es generalizing h s with
  | nil =>
    obtain rfl : s = s' := by simpa using hexec
    simpa using hrun
  | cons e es ih =>
    rw [exec_cons, Option.bind_eq_some_iff] at hexec
    obtain ⟨s₁, hs₁, hrest⟩ := hexec
    simpa using ih (hrun.step hs₁) hrest

/-- `S.Within n P s`: from `s`, every way of delivering events reaches a state with `P` after at
most `n` of them, and until then some event can always be delivered. -/
def Within (S : TransitionSystem σ ε) : Nat → (σ → Prop) → σ → Prop
  | 0, P, s => P s
  | n + 1, P, s => P s ∨ (∃ e s', S.step s e = some s') ∧ ∀ e s', S.step s e = some s' → S.Within n P s'

variable {P : σ → Prop}

theorem Within.mono {n m : Nat} (hnm : n ≤ m) (h : S.Within n P s) : S.Within m P s := by
  induction m generalizing n s with
  | zero =>
    obtain rfl : n = 0 := Nat.le_zero.mp hnm
    exact h
  | succ m ih =>
    cases n with
    | zero => exact .inl h
    | succ n =>
      rcases h with h | ⟨hlive, hnext⟩
      · exact .inl h
      · exact .inr ⟨hlive, fun e s' hs => ih (Nat.le_of_succ_le_succ hnm) (hnext e s' hs)⟩

/-- Ranking rule: if an invariant `I` is kept, some event can always be delivered while the goal is
not met, and every step lowers the rank, then the goal is met within `rank s` steps. -/
theorem within_of_rank {I : σ → Prop} (rank : σ → Nat) (hgoal : ∀ s, I s → rank s = 0 → P s)
    (hlive : ∀ s, I s → ¬ P s → ∃ e s', S.step s e = some s')
    (hstep : ∀ s e s', I s → S.step s e = some s' → I s' ∧ rank s' < rank s) (hI : I s) :
    S.Within (rank s) P s := by
  generalize hn : rank s = n
  induction n using Nat.strongRecOn generalizing s with
  | ind n ih =>
    cases n with
    | zero => exact hgoal s hI hn
    | succ n =>
      by_cases hP : P s
      · exact .inl hP
      refine .inr ⟨hlive s hI hP, fun e s' hs => ?_⟩
      obtain ⟨hI', hlt⟩ := hstep s e s' hI hs
      exact (ih (rank s') (by omega) hI' rfl).mono (by omega)

end TransitionSystem

end MullvadVpn.Systems
