import MullvadVpn.Systems.Json

/-!
How typed data is written as JSON and read back. A codec carries the proof that what it writes is read
as the same value. Reading accepts more than is written: the fields of a record also in their order as
an array, and a name of an enumeration also as an object with that one field.
-/

namespace MullvadVpn.Systems

open Json

structure Serde (α : Type) where
  toJson : α → Json
  ofJson : Json → Option α
  ofJson_toJson : ∀ a, ofJson (toJson a) = some a

/-- The tag of a variant and what it holds, for variants that are tagged from outside. -/
def Json.variant : Json → Option (String × Option Json)
  | .string tag => some (tag, none)
  | .object [(tag, content)] => some (tag, some content)
  | _ => none

namespace Serde

variable {α β : Type} (s : Serde α)

theorem toJson_injective {a b : α} (h : s.toJson a = s.toJson b) : a = b := by
  have hread := s.ofJson_toJson a
  rw [h, s.ofJson_toJson b] at hread
  exact (Option.some.inj hread).symm

def string : Serde String where
  toJson := .string
  ofJson := asStr
  ofJson_toJson _ := rfl

def text (display : α → String) (parse : String → Option α)
    (h : ∀ a, parse (display a) = some a) : Serde α where
  toJson a := .string (display a)
  ofJson value := value.asStr.bind parse
  ofJson_toJson a := h a

def unsigned (w : Nat) : Serde (BitVec w) where
  toJson n := .ofNat n.toNat
  ofJson value := value.asU64.bind fun n => if n < 2 ^ w then some (BitVec.ofNat w n) else none
  ofJson_toJson n := by simp [ofNat, asU64, n.isLt]

/-- The name of an enumeration that a value stands for. -/
def unitTag (value : Json) : Option String :=
  value.variant.bind fun
    | (tag, none) | (tag, some .null) => some tag
    | _ => none

def enumeration (all : List α) (name : α → String)
    (h : ∀ a, all.find? (fun b => name b == name a) = some a) : Serde α where
  toJson a := .string (name a)
  ofJson value := (unitTag value).bind fun tag => all.find? fun b => name b == tag
  ofJson_toJson a := h a

def readAll (s : Serde α) : List Json → Option (List α)
  | [] => some []
  | value :: values => do
    let a ← s.ofJson value
    let as ← readAll s values
    return a :: as

theorem readAll_eq_some {s : Serde α} {values : List Json} {as : List α} :
    s.readAll values = some as ↔ values.map s.ofJson = as.map some := by
  induction values generalizing as with
  | nil => cases as <;> simp [readAll]
  | cons value values ih =>
    cases as with
    | nil => simp [readAll, Option.bind_eq_some_iff]
    | cons a as => simp [readAll, Option.bind_eq_some_iff, ← ih]

theorem readAll_map (as : List α) : s.readAll (as.map s.toJson) = some as := by
  induction as with
  | nil => rfl
  | cons a as ih => simp [readAll, s.ofJson_toJson, ih]

def list : Serde (List α) where
  toJson as := .array (as.map s.toJson)
  ofJson value := value.asArray.bind s.readAll
  ofJson_toJson as := s.readAll_map as

def record (key₁ key₂ : String) (hne : key₁ ≠ key₂) (s₁ : Serde α) (s₂ : Serde β) :
    Serde (α × β) where
  toJson p := ((object []).insert key₁ (s₁.toJson p.1)).insert key₂ (s₂.toJson p.2)
  ofJson
    | .array [first, second] => do
      let a ← s₁.ofJson first
      let b ← s₂.ofJson second
      return (a, b)
    | value => do
      let a ← (value.get key₁).bind s₁.ofJson
      let b ← (value.get key₂).bind s₂.ofJson
      return (a, b)
  ofJson_toJson p := by
    have hobject : (((object []).insert key₁ (s₁.toJson p.1)).insert key₂
        (s₂.toJson p.2)).isObject = true := rfl
    obtain ⟨fields, hfields⟩ := isObject_iff.mp hobject
    have hfirst : (object fields).get key₁ = some (s₁.toJson p.1) := by
      rw [← hfields, get_insert rfl, if_neg hne, get_insert rfl, if_pos rfl]
    have hsecond : (object fields).get key₂ = some (s₂.toJson p.2) := by
      rw [← hfields, get_insert rfl, if_pos rfl]
    rw [hfields]
    simp [hfirst, hsecond, s₁.ofJson_toJson, s₂.ofJson_toJson]

/-- A codec for another representation of the same data. -/
def iso (into : β → α) (back : α → β) (h : ∀ b, back (into b) = b) : Serde β where
  toJson b := s.toJson (into b)
  ofJson value := (s.ofJson value).map back
  ofJson_toJson b := by simp [s.ofJson_toJson, h]

end Serde

end MullvadVpn.Systems
