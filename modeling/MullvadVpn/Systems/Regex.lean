import Mathlib

/-!
Regular expressions with named groups, as search engines run them. `run` tries the alternatives in the
order of the expression and lists all ways to match a prefix of a text, the preferred one first.
`search` takes the first match at the leftmost position that has one. `Accepts` says what matches
without an order: a text, followed by some rest, with what the groups have captured.
-/

namespace MullvadVpn.Systems

open List

variable {s text rest : List Char}

/-- Expressions whose groups are named by `ι`. Only classes of characters are repeated without a
bound. -/
inductive Regex (ι : Type) where
  | empty
  | literal (text : List Char)
  | oneOf (accepts : Char → Bool)
  | oneOrMore (accepts : Char → Bool)
  | seq (first second : Regex ι)
  | alt (first second : Regex ι)
  | optional (inner : Regex ι)
  | group (name : ι) (inner : Regex ι)
  | atEnd

namespace Regex

variable {ι : Type}

/-- What an expression has matched, with what follows it. -/
structure Match (ι : Type) where
  text : List Char
  rest : List Char
  groups : List (ι × List Char)

def Match.group [DecidableEq ι] (found : Match ι) (name : ι) : Option (List Char) :=
  (found.groups.find? fun captured => captured.1 = name).map Prod.snd

/-- The ways to split off a nonempty run of accepted characters, the longest first. -/
def runs (accepts : Char → Bool) : List Char → List (List Char × List Char)
  | [] => []
  | c :: s =>
    if accepts c then (runs accepts s).map (fun split => (c :: split.1, split.2)) ++ [([c], s)] else []

def run : Regex ι → List Char → List (Match ι)
  | empty, s => [⟨[], s, []⟩]
  | literal text, s => if text <+: s then [⟨text, s.drop text.length, []⟩] else []
  | oneOf accepts, s =>
    match s with
    | [] => []
    | c :: s => if accepts c then [⟨[c], s, []⟩] else []
  | oneOrMore accepts, s => (runs accepts s).map fun split => ⟨split.1, split.2, []⟩
  | seq first second, s => (run first s).flatMap fun a => (run second a.rest).map fun b =>
    ⟨a.text ++ b.text, b.rest, a.groups ++ b.groups⟩
  | alt first second, s => run first s ++ run second s
  | optional inner, s => run inner s ++ [⟨[], s, []⟩]
  | group name inner, s => (run inner s).map fun a => { a with groups := (name, a.text) :: a.groups }
  | atEnd, s => if s.isEmpty then [⟨[], [], []⟩] else []

/-- The preferred match at the leftmost position. -/
def search (r : Regex ι) : List Char → Option (Match ι)
  | [] => (run r []).head?
  | c :: s => (run r (c :: s)).head?.or (search r s)

def times (r : Regex ι) : Nat → Regex ι
  | 0 => empty
  | n + 1 => seq r (times r n)

/-- The expression matches the text if the rest follows, and captures the groups. -/
def Accepts : Regex ι → List Char → List Char → List (ι × List Char) → Prop
  | empty, text, _, groups => text = [] ∧ groups = []
  | literal expected, text, _, groups => text = expected ∧ groups = []
  | oneOf accepts, text, _, groups => (∃ c, accepts c = true ∧ text = [c]) ∧ groups = []
  | oneOrMore accepts, text, _, groups =>
    (text ≠ [] ∧ ∀ c ∈ text, accepts c = true) ∧ groups = []
  | seq first second, text, rest, groups => ∃ text₁ text₂ groups₁ groups₂,
    text = text₁ ++ text₂ ∧ groups = groups₁ ++ groups₂ ∧
      Accepts first text₁ (text₂ ++ rest) groups₁ ∧ Accepts second text₂ rest groups₂
  | alt first second, text, rest, groups =>
    Accepts first text rest groups ∨ Accepts second text rest groups
  | optional inner, text, rest, groups => Accepts inner text rest groups ∨ text = [] ∧ groups = []
  | group name inner, text, rest, groups =>
    ∃ inside, Accepts inner text rest inside ∧ groups = (name, text) :: inside
  | atEnd, text, rest, groups => text = [] ∧ rest = [] ∧ groups = []

variable {accepts : Char → Bool}

theorem mem_runs_iff : (text, rest) ∈ runs accepts s ↔
      s = text ++ rest ∧ text ≠ [] ∧ ∀ c ∈ text, accepts c = true := by
  induction s generalizing text with
  | nil =>
    constructor
    · intro h
      cases h
    · rintro ⟨hs, hne, -⟩
      exact absurd (append_eq_nil_iff.mp hs.symm).1 hne
  | cons c s ih =>
    rw [runs]
    split_ifs with hc
    · rw [mem_append, mem_map, mem_singleton]
      constructor
      · rintro (⟨⟨text, rest⟩, hmem, hsplit⟩ | hsplit)
        · cases hsplit
          obtain ⟨rfl, -, haccepts⟩ := ih.mp hmem
          exact ⟨rfl, cons_ne_nil _ _, forall_mem_cons.mpr ⟨hc, haccepts⟩⟩
        · cases hsplit
          exact ⟨rfl, cons_ne_nil _ _, by simpa using hc⟩
      · rintro ⟨hs, hne, haccepts⟩
        obtain ⟨d, text, rfl⟩ := exists_cons_of_ne_nil hne
        obtain ⟨rfl, rfl⟩ := cons.inj hs
        obtain ⟨-, htext⟩ := forall_mem_cons.mp haccepts
        cases text with
        | nil => exact .inr rfl
        | cons d' text => exact .inl ⟨_, ih.mpr ⟨rfl, cons_ne_nil _ _, htext⟩, rfl⟩
    · constructor
      · intro h
        cases h
      · rintro ⟨hs, hne, haccepts⟩
        obtain ⟨d, text, rfl⟩ := exists_cons_of_ne_nil hne
        obtain ⟨rfl, rfl⟩ := cons.inj hs
        exact absurd (haccepts c (mem_cons_self ..)) hc

variable {r : Regex ι} {found : Match ι}

theorem mem_run_iff :
    found ∈ run r s ↔ s = found.text ++ found.rest ∧ Accepts r found.text found.rest found.groups := by
  obtain ⟨text, rest, groups⟩ := found
  induction r generalizing s text rest groups with
  | empty =>
    simp only [run, Accepts, mem_singleton, Match.mk.injEq]
    constructor
    all_goals
      rintro ⟨rfl, rfl, rfl⟩
      exact ⟨rfl, rfl, rfl⟩
  | literal expected =>
    simp only [run, Accepts]
    split_ifs with hstarts
    · obtain ⟨after, rfl⟩ := hstarts
      simp only [mem_singleton, Match.mk.injEq, drop_left]
      constructor
      · rintro ⟨rfl, rfl, rfl⟩
        exact ⟨rfl, rfl, rfl⟩
      · rintro ⟨hs, rfl, rfl⟩
        exact ⟨rfl, (append_cancel_left hs).symm, rfl⟩
    · constructor
      · intro h
        cases h
      · rintro ⟨rfl, rfl, -⟩
        exact absurd (prefix_append _ _) hstarts
  | oneOf accepts =>
    simp only [run, Accepts]
    cases s with
    | nil =>
      constructor
      · intro h
        cases h
      · rintro ⟨hs, ⟨c, -, rfl⟩, -⟩
        cases hs
    | cons c s =>
      dsimp only
      split_ifs with hc
      · simp only [mem_singleton, Match.mk.injEq]
        constructor
        · rintro ⟨rfl, rfl, rfl⟩
          exact ⟨rfl, ⟨c, hc, rfl⟩, rfl⟩
        · rintro ⟨hs, ⟨d, -, rfl⟩, rfl⟩
          obtain ⟨rfl, rfl⟩ := cons.inj hs
          exact ⟨rfl, rfl, rfl⟩
      · constructor
        · intro h
          cases h
        · rintro ⟨hs, ⟨d, hd, rfl⟩, -⟩
          obtain ⟨rfl, -⟩ := cons.inj hs
          exact absurd hd hc
  | oneOrMore accepts =>
    simp only [run, Accepts, mem_map, Match.mk.injEq]
    constructor
    · rintro ⟨⟨text, rest⟩, hmem, rfl, rfl, rfl⟩
      obtain ⟨hs, htext⟩ := mem_runs_iff.mp hmem
      exact ⟨hs, htext, rfl⟩
    · rintro ⟨hs, htext, rfl⟩
      exact ⟨(text, rest), mem_runs_iff.mpr ⟨hs, htext⟩, rfl, rfl, rfl⟩
  | seq first second ih₁ ih₂ =>
    simp only [run, Accepts, mem_flatMap, mem_map, Match.mk.injEq]
    constructor
    · rintro ⟨⟨text₁, rest₁, groups₁⟩, h₁, ⟨text₂, rest₂, groups₂⟩, h₂, rfl, rfl, rfl⟩
      obtain ⟨rfl, haccepts₁⟩ := (ih₁ _ _ _).mp h₁
      obtain ⟨rfl, haccepts₂⟩ := (ih₂ _ _ _).mp h₂
      exact ⟨(append_assoc ..).symm, _, _, _, _, rfl, rfl, haccepts₁, haccepts₂⟩
    · rintro ⟨rfl, text₁, text₂, groups₁, groups₂, rfl, rfl, h₁, h₂⟩
      exact ⟨⟨text₁, text₂ ++ rest, groups₁⟩, (ih₁ _ _ _).mpr ⟨append_assoc .., h₁⟩,
        ⟨text₂, rest, groups₂⟩, (ih₂ _ _ _).mpr ⟨rfl, h₂⟩, rfl, rfl, rfl⟩
  | alt first second ih₁ ih₂ => simp only [run, Accepts, mem_append, ih₁, ih₂, and_or_left]
  | optional inner ih =>
    simp only [run, Accepts, mem_append, ih, and_or_left, mem_singleton, Match.mk.injEq]
    refine or_congr_right ?_
    constructor
    all_goals
      rintro ⟨rfl, rfl, rfl⟩
      exact ⟨rfl, rfl, rfl⟩
  | group name inner ih =>
    simp only [run, Accepts, mem_map, Match.mk.injEq]
    constructor
    · rintro ⟨⟨text, rest, inside⟩, hmem, rfl, rfl, rfl⟩
      obtain ⟨hs, haccepts⟩ := (ih _ _ _).mp hmem
      exact ⟨hs, inside, haccepts, rfl⟩
    · rintro ⟨hs, inside, haccepts, rfl⟩
      exact ⟨⟨text, rest, inside⟩, (ih _ _ _).mpr ⟨hs, haccepts⟩, rfl, rfl, rfl⟩
  | atEnd =>
    simp only [run, Accepts]
    split_ifs with hs
    · obtain rfl := isEmpty_iff.mp hs
      simp only [mem_singleton, Match.mk.injEq]
      constructor
      · rintro ⟨rfl, rfl, rfl⟩
        exact ⟨rfl, rfl, rfl, rfl⟩
      · rintro ⟨-, rfl, rfl, rfl⟩
        exact ⟨rfl, rfl, rfl⟩
    · constructor
      · intro h
        cases h
      · rintro ⟨rfl, rfl, rfl, -⟩
        exact absurd rfl hs

variable {groups : List (ι × List Char)} {n : Nat}

theorem accepts_times_oneOf : Accepts (times (oneOf accepts) n) text rest groups ↔
      (text.length = n ∧ ∀ c ∈ text, accepts c = true) ∧ groups = [] := by
  induction n generalizing text groups with
  | zero =>
    rw [times, Accepts, length_eq_zero_iff]
    refine and_congr_left fun _ => (and_iff_left_of_imp ?_).symm
    rintro rfl
    exact forall_mem_nil _
  | succ n ih =>
    simp only [times, Accepts, ih]
    constructor
    · rintro ⟨_, text, _, _, rfl, rfl, ⟨⟨c, hc, rfl⟩, rfl⟩, ⟨hlength, htext⟩, rfl⟩
      exact ⟨⟨congrArg (· + 1) hlength, forall_mem_cons.mpr ⟨hc, htext⟩⟩, rfl⟩
    · rintro ⟨⟨hlength, htext⟩, rfl⟩
      obtain ⟨c, text, rfl⟩ := exists_cons_of_length_eq_add_one hlength
      obtain ⟨hc, htext⟩ := forall_mem_cons.mp htext
      exact ⟨[c], text, [], [], rfl, rfl, ⟨⟨c, hc, rfl⟩, rfl⟩, ⟨Nat.succ.inj hlength, htext⟩, rfl⟩

theorem accepts_times_optional_oneOf :
    Accepts (times (optional (oneOf accepts)) n) text rest groups ↔
      (text.length ≤ n ∧ ∀ c ∈ text, accepts c = true) ∧ groups = [] := by
  induction n generalizing text groups with
  | zero =>
    rw [times, Accepts, Nat.le_zero, length_eq_zero_iff]
    refine and_congr_left fun _ => (and_iff_left_of_imp ?_).symm
    rintro rfl
    exact forall_mem_nil _
  | succ n ih =>
    simp only [times, Accepts, ih]
    constructor
    · rintro ⟨_, text, _, _, rfl, rfl, ⟨⟨c, hc, rfl⟩, rfl⟩ | ⟨rfl, rfl⟩, ⟨hlength, htext⟩, rfl⟩
      · exact ⟨⟨Nat.succ_le_succ hlength, forall_mem_cons.mpr ⟨hc, htext⟩⟩, rfl⟩
      · exact ⟨⟨Nat.le_succ_of_le hlength, htext⟩, rfl⟩
    · rintro ⟨⟨hlength, htext⟩, rfl⟩
      cases text with
      | nil => exact ⟨[], [], [], [], rfl, rfl, .inr ⟨rfl, rfl⟩, ⟨Nat.zero_le n, htext⟩, rfl⟩
      | cons c text =>
        obtain ⟨hc, htext⟩ := forall_mem_cons.mp htext
        exact ⟨[c], text, [], [], rfl, rfl, .inl ⟨⟨c, hc, rfl⟩, rfl⟩,
          ⟨Nat.le_of_succ_le_succ hlength, htext⟩, rfl⟩

theorem accepts_of_search (h : search r s = some found) :
    ∃ before, s = before ++ (found.text ++ found.rest) ∧ Accepts r found.text found.rest found.groups := by
  induction s with
  | nil =>
    obtain ⟨hs, haccepts⟩ := mem_run_iff.mp (mem_of_head? h)
    exact ⟨[], hs, haccepts⟩
  | cons c s ih =>
    rw [search, Option.or_eq_some_iff] at h
    rcases h with hhere | ⟨-, hlater⟩
    · obtain ⟨hs, haccepts⟩ := mem_run_iff.mp (mem_of_head? hhere)
      exact ⟨[], hs, haccepts⟩
    · obtain ⟨before, hs, haccepts⟩ := ih hlater
      exact ⟨c :: before, congrArg (c :: ·) hs, haccepts⟩

theorem search_of_accepts (h : Accepts r text rest groups) :
    ∃ found, search r (text ++ rest) = some found ∧ found ∈ run r (text ++ rest) := by
  have hmem : (⟨text, rest, groups⟩ : Match ι) ∈ run r (text ++ rest) := mem_run_iff.mpr ⟨rfl, h⟩
  obtain ⟨found, others, hrun⟩ := exists_cons_of_ne_nil (ne_nil_of_mem hmem)
  refine ⟨found, ?_, hrun ▸ mem_cons_self ..⟩
  cases hs : text ++ rest with
  | nil | cons c s =>
    rw [hs] at hrun
    rw [search, hrun]
    rfl

theorem search_isSome (h : Accepts r text rest groups)
    (before : List Char) : (search r (before ++ (text ++ rest))).isSome = true := by
  induction before with
  | nil =>
    obtain ⟨found, hfound, -⟩ := search_of_accepts h
    rw [nil_append, hfound]
    rfl
  | cons c before ih => rw [cons_append, search, Option.isSome_or, ih, Bool.or_true]

end Regex

end MullvadVpn.Systems
