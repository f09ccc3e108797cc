import Mathlib

/-!
Versions of the app and their order (`mullvad_version`), and what is known about a version that can be
upgraded to (`mullvad_update::version`). The order is partial: the suffixes of two development builds of
the same release are not comparable. On releases without such a suffix it is the order of keys, in
which alpha versions come before beta versions and these before the stable one.
-/

namespace MullvadVpn.Update

inductive PreStableType where
  | alpha (number : Nat)
  | beta (number : Nat)
  deriving DecidableEq

def PreStableType.cmp : PreStableType → PreStableType → Ordering
  | alpha a, alpha b => compare a b
  | beta a, beta b => compare a b
  | alpha _, beta _ => .lt
  | beta _, alpha _ => .gt

/-- `mullvad_version::Version`, the version of the app. -/
structure AppVersion where
  year : Nat
  incremental : Nat
  preStable : Option PreStableType
  dev : Option String
  deriving DecidableEq

namespace AppVersion

def isDev (version : AppVersion) : Bool :=
  version.dev.isSome

def typeOrdering (a b : AppVersion) : Ordering :=
  match a.preStable, b.preStable with
  | none, none => .eq
  | some _, none => .lt
  | none, some _ => .gt
  | some a, some b => a.cmp b

def devOrdering (a b : AppVersion) : Option Ordering :=
  match a.dev, b.dev with
  | some _, none => some .gt
  | none, some _ => some .lt
  | some a, some b => if a ≠ b then none else some .eq
  | none, none => some .eq

def releaseOrdering (a b : AppVersion) : Ordering :=
  ((compare a.year b.year).then (compare a.incremental b.incremental)).then (typeOrdering a b)

def partialCmp (a b : AppVersion) : Option Ordering :=
  match releaseOrdering a b with
  | .eq => devOrdering a b
  | ordering => some ordering

/-- The operator `>`. -/
def gt (a b : AppVersion) : Bool :=
  partialCmp a b == some .gt

def typeKey : Option PreStableType → Nat ×ₗ Nat
  | some (.alpha number) => toLex (0, number)
  | some (.beta number) => toLex (1, number)
  | none => toLex (2, 0)

def key (version : AppVersion) : Nat ×ₗ Nat ×ₗ Nat ×ₗ Nat :=
  toLex (version.year, toLex (version.incremental, typeKey version.preStable))

theorem typeKey_injective : Function.Injective typeKey := by
  intro a b h
  rcases a with _ | ⟨n⟩ | ⟨n⟩ <;> rcases b with _ | ⟨m⟩ | ⟨m⟩ <;> simp_all [typeKey]

variable {a b : AppVersion}

theorem key_eq_iff : a.key = b.key ↔
    a.year = b.year ∧ a.incremental = b.incremental ∧ a.preStable = b.preStable := by
  simp [key, typeKey_injective.eq_iff]

theorem key_injOn_not_dev (ha : a.isDev = false) (hb : b.isDev = false) (h : a.key = b.key) : a = b := by
  obtain ⟨year, incremental, preStable, dev⟩ := a
  obtain ⟨year', incremental', preStable', dev'⟩ := b
  obtain ⟨rfl, rfl, rfl⟩ := key_eq_iff.mp h
  obtain rfl : dev = none := Option.isNone_iff_eq_none.mp (by simpa [isDev] using ha)
  obtain rfl : dev' = none := Option.isNone_iff_eq_none.mp (by simpa [isDev] using hb)
  rfl

variable (a b)

theorem typeOrdering_eq_gt_iff : typeOrdering a b = .gt ↔ typeKey b.preStable < typeKey a.preStable := by
  unfold typeOrdering
  rcases a.preStable with _ | ⟨n⟩ | ⟨n⟩ <;> rcases b.preStable with _ | ⟨m⟩ | ⟨m⟩ <;>
    simp [typeKey, PreStableType.cmp, Prod.Lex.toLex_lt_toLex, Nat.compare_eq_gt]

theorem releaseOrdering_eq_gt_iff : releaseOrdering a b = .gt ↔ b.key < a.key := by
  unfold releaseOrdering key
  rw [Ordering.then_eq_gt, Ordering.then_eq_gt, Ordering.then_eq_eq, typeOrdering_eq_gt_iff,
    Prod.Lex.toLex_lt_toLex, Prod.Lex.toLex_lt_toLex, Nat.compare_eq_gt, Nat.compare_eq_gt,
    Nat.compare_eq_eq, Nat.compare_eq_eq]
  tauto

theorem releaseOrdering_swap : (releaseOrdering a b).swap = releaseOrdering b a := by
  have htype : (typeOrdering a b).swap = typeOrdering b a := by
    unfold typeOrdering
    rcases a.preStable with _ | ⟨n⟩ | ⟨n⟩ <;> rcases b.preStable with _ | ⟨m⟩ | ⟨m⟩ <;>
      simp [PreStableType.cmp, Nat.compare_swap]
  unfold releaseOrdering
  rw [Ordering.swap_then, Ordering.swap_then, Nat.compare_swap, Nat.compare_swap, htype]

theorem releaseOrdering_eq_compare : releaseOrdering a b = compare a.key b.key := by
  rcases lt_trichotomy a.key b.key with h | h | h
  · rw [compare_lt_iff_lt.mpr h, ← releaseOrdering_swap, (releaseOrdering_eq_gt_iff b a).mpr h]
    rfl
  · rw [compare_eq_iff_eq.mpr h]
    have hgt := mt (releaseOrdering_eq_gt_iff a b).mp h.not_gt
    have hlt := mt (releaseOrdering_eq_gt_iff b a).mp h.not_lt
    rw [← releaseOrdering_swap] at hlt
    cases hrelease : releaseOrdering a b <;> simp_all
  · rw [compare_gt_iff_gt.mpr h, (releaseOrdering_eq_gt_iff a b).mpr h]

variable {a b}

theorem partialCmp_of_not_dev (ha : a.isDev = false) (hb : b.isDev = false) :
    partialCmp a b = some (releaseOrdering a b) := by
  have ha' : a.dev = none := by simpa [isDev] using ha
  have hb' : b.dev = none := by simpa [isDev] using hb
  unfold partialCmp
  cases h : releaseOrdering a b with
  | eq => simp [devOrdering, ha', hb']
  | lt | gt => rfl

theorem gt_iff (ha : a.isDev = false) (hb : b.isDev = false) : a.gt b = true ↔ b.key < a.key := by
  rw [gt, partialCmp_of_not_dev ha hb, beq_iff_eq, Option.some_inj, releaseOrdering_eq_gt_iff]

variable (a b)

theorem partialCmp_swap : (partialCmp a b).map Ordering.swap = partialCmp b a := by
  have hdev : (devOrdering a b).map Ordering.swap = devOrdering b a := by
    unfold devOrdering
    cases a.dev with
    | none => cases b.dev <;> rfl
    | some x =>
      cases b.dev with
      | none => rfl
      | some y => by_cases h : x = y <;> simp [h, eq_comm]
  unfold partialCmp
  rw [← releaseOrdering_swap a b]
  cases releaseOrdering a b with
  | eq => exact hdev
  | lt | gt => rfl

theorem partialCmp_eq_lt_iff : partialCmp a b = some .lt ↔
    a.key < b.key ∨ a.key = b.key ∧ a.dev = none ∧ b.dev ≠ none := by
  unfold partialCmp
  rw [releaseOrdering_eq_compare, ← compare_lt_iff_lt, ← compare_eq_iff_eq (a := a.key)]
  cases compare a.key b.key with
  | lt | gt => simp
  | eq =>
    unfold devOrdering
    cases a.dev <;> cases b.dev <;> simp

theorem partialCmp_eq_eq_iff : partialCmp a b = some .eq ↔ a = b := by
  have hfields : a = b ↔ a.key = b.key ∧ a.dev = b.dev := by
    rw [key_eq_iff]
    cases a
    cases b
    simp [and_assoc]
  unfold partialCmp
  rw [hfields, releaseOrdering_eq_compare, ← compare_eq_iff_eq (a := a.key)]
  cases compare a.key b.key with
  | lt | gt => simp
  | eq =>
    unfold devOrdering
    cases a.dev <;> cases b.dev <;> simp

theorem partialCmp_eq_none_iff : partialCmp a b = none ↔
    a.key = b.key ∧ ∃ x y, a.dev = some x ∧ b.dev = some y ∧ x ≠ y := by
  unfold partialCmp
  rw [releaseOrdering_eq_compare, ← compare_eq_iff_eq (a := a.key)]
  cases compare a.key b.key with
  | lt | gt => simp
  | eq =>
    unfold devOrdering
    cases a.dev <;> cases b.dev <;> simp

variable {a b}

theorem partialCmp_lt_trans {c : AppVersion} (hab : partialCmp a b = some .lt)
    (hbc : partialCmp b c = some .lt) : partialCmp a c = some .lt := by
  rw [partialCmp_eq_lt_iff] at hab hbc ⊢
  obtain hab | ⟨hab, ha, hb⟩ := hab
  · obtain hbc | ⟨hbc, -, -⟩ := hbc
    · exact .inl (hab.trans hbc)
    · exact .inl (hbc ▸ hab)
  · obtain hbc | ⟨-, hb', -⟩ := hbc
    · exact .inl (hab ▸ hbc)
    · exact absurd hb' hb

/-- The comparison of versions is a partial order, in which only two development builds of the same release
are incomparable. -/
theorem partialCmp_lawful (a b c : AppVersion) :
    (partialCmp a b = some .eq ↔ a = b) ∧
    partialCmp b a = (partialCmp a b).map Ordering.swap ∧
    (partialCmp a b = some .lt → partialCmp b c = some .lt → partialCmp a c = some .lt) ∧
    (a.isDev = false → b.isDev = false → partialCmp a b ≠ none) ∧
    (partialCmp a b = none ↔ a.year = b.year ∧ a.incremental = b.incremental ∧ a.preStable = b.preStable ∧
        ∃ x y, a.dev = some x ∧ b.dev = some y ∧ x ≠ y) := by
  refine ⟨partialCmp_eq_eq_iff a b, (partialCmp_swap a b).symm, partialCmp_lt_trans, ?_, ?_⟩
  · intro ha hb
    rw [partialCmp_of_not_dev ha hb]
    exact Option.some_ne_none _
  · rw [partialCmp_eq_none_iff, key_eq_iff, and_assoc, and_assoc]

end AppVersion

abbrev Sha256 := Vector UInt8 32

/-- `mullvad_update::version::Version`, a version for the current target. -/
structure Version where
  version : AppVersion
  urls : List String
  size : Nat
  changelog : String
  sha256 : Sha256
  deriving DecidableEq

structure VersionInfo where
  stable : Version
  beta : Option Version
  deriving DecidableEq

end MullvadVpn.Update
