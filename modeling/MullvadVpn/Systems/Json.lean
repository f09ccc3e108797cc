import MullvadVpn.Systems.Fallible

/-!
JSON values and the operations that a dynamically typed JSON library offers on them: checked access that
finds nothing where the shape is wrong, and indexed assignment that turns a null into an object and
panics on everything else that is not one. An object is the list of its fields in the order of their
keys. Computations that change a part of a value either return the changed value, fail with an error or
panic.
-/

namespace MullvadVpn.Systems

open List

/-- Why a computation did not return: with an error, or by a panic. -/
inductive Failure (ε : Type) where
  | error (e : ε)
  | panicked

/-- Integers that are not negative, negative integers and everything else, by its bits. -/
inductive JsonNumber where
  | posInt (n : Nat)
  | negInt (n : Int)
  | float (bits : BitVec 64)
  deriving DecidableEq

inductive Json where
  | null
  | bool (b : Bool)
  | number (n : JsonNumber)
  | string (s : String)
  | array (items : List Json)
  | object (fields : List (String × Json))

namespace Json

mutual

def beq : Json → Json → Bool
  | null, null => true
  | bool a, bool b => a == b
  | number a, number b => a == b
  | string a, string b => a == b
  | array a, array b => beqItems a b
  | object a, object b => beqFields a b
  | _, _ => false

def beqItems : List Json → List Json → Bool
  | [], [] => true
  | a :: as, b :: bs => beq a b && beqItems as bs
  | _, _ => false

def beqFields : List (String × Json) → List (String × Json) → Bool
  | [], [] => true
  | (k, a) :: as, (l, b) :: bs => k == l && beq a b && beqFields as bs
  | _, _ => false

end

mutual

theorem beq_iff : ∀ a b : Json, beq a b = true ↔ a = b
  | null, b => by cases b <;> simp [beq]
  | bool a, b => by cases b <;> simp [beq]
  | number a, b => by cases b <;> simp [beq]
  | string a, b => by cases b <;> simp [beq]
  | array a, b => by cases b <;> simp [beq, beqItems_iff a]
  | object a, b => by cases b <;> simp [beq, beqFields_iff a]

theorem beqItems_iff : ∀ a b : List Json, beqItems a b = true ↔ a = b
  | [], b => by cases b <;> simp [beqItems]
  | x :: xs, b => by
    cases b with
    | nil => simp [beqItems]
    | cons y ys => simp [beqItems, beq_iff x y, beqItems_iff xs ys]

theorem beqFields_iff : ∀ a b : List (String × Json), beqFields a b = true ↔ a = b
  | [], b => by cases b <;> simp [beqFields]
  | (k, x) :: xs, b => by
    cases b with
    | nil => simp [beqFields]
    | cons y ys =>
      obtain ⟨l, y⟩ := y
      simp [beqFields, beq_iff x y, beqFields_iff xs ys, and_assoc]

end

instance : DecidableEq Json := fun a b => decidable_of_iff _ (beq_iff a b)

def ofNat (n : Nat) : Json := number (.posInt n)

/-- The value of a field. Only objects have fields. -/
def get : Json → String → Option Json
  | object fields, key => fields.lookup key
  | _, _ => none

def getPath : Json → List String → Option Json
  | value, [] => some value
  | value, key :: keys => (value.get key).bind fun inner => inner.getPath keys

def isNull : Json → Bool
  | null => true
  | _ => false

def isObject : Json → Bool
  | object _ => true
  | _ => false

/-- Whether an index of the value can be assigned to. -/
def indexable (value : Json) : Bool := value.isObject || value.isNull

def asU64 : Json → Option Nat
  | number (.posInt n) => some n
  | _ => none

def asBool : Json → Option Bool
  | bool b => some b
  | _ => none

def asStr : Json → Option String
  | string s => some s
  | _ => none

def asArray : Json → Option (List Json)
  | array items => some items
  | _ => none

def asObject : Json → Option (List (String × Json))
  | object fields => some fields
  | _ => none

/-- Set a field, which keeps the place its key has in the order. -/
def insertField (key : String) (new : Json) : List (String × Json) → List (String × Json)
  | [] => [(key, new)]
  | (k, value) :: rest =>
    if k = key then (key, new) :: rest
    else if key < k then (key, new) :: (k, value) :: rest
    else (k, value) :: insertField key new rest

def insert (value : Json) (key : String) (new : Json) : Json :=
  match value with
  | object fields => object (insertField key new fields)
  | value => value

def remove (value : Json) (key : String) : Json :=
  match value with
  | object fields => object (fields.filter fun field => field.1 ≠ key)
  | value => value

variable {value inner : Json} {keys : List String} {fields : List (String × Json)}

theorem isObject_iff : value.isObject = true ↔ ∃ fields, value = object fields := by
  cases value <;> simp [isObject]

theorem asObject_eq_some : value.asObject = some fields ↔ value = object fields := by
  cases value <;> simp [asObject]

theorem asArray_eq_some {items} : value.asArray = some items ↔ value = array items := by
  cases value <;> simp [asArray]

theorem indexable_of_isObject (h : value.isObject = true) : value.indexable = true := by
  simp [indexable, h]

theorem isObject_of_get (h : value.get key = some inner) : value.isObject = true := by
  cases value <;> first | rfl | cases h

theorem mem_of_lookup (h : fields.lookup key = some value) : (key, value) ∈ fields := by
  obtain ⟨before, after, rfl, -⟩ := lookup_eq_some_iff.mp h
  exact mem_append_right _ (mem_cons_self ..)

theorem lookup_insertField (key : String) (new : Json) (fields : List (String × Json)) (k : String) :
    (insertField key new fields).lookup k = if k = key then some new else fields.lookup k := by
  induction fields with
  | nil =>
    by_cases hk : k = key
    · simp [insertField, hk]
    · simp [insertField, hk, lookup_cons, beq_eq_false_iff_ne.mpr hk]
  | cons field rest ih =>
    obtain ⟨l, value⟩ := field
    unfold insertField
    by_cases hl : l = key
    · subst hl
      by_cases hk : k = l
      · simp [hk]
      · simp [hk, lookup_cons, beq_eq_false_iff_ne.mpr hk]
    · rw [if_neg hl]
      split
      · by_cases hk : k = key
        · simp [hk]
        · simp [hk, lookup_cons, beq_eq_false_iff_ne.mpr hk]
      · by_cases hkl : k = l
        · subst hkl
          simp [hl]
        · rw [lookup_cons, lookup_cons, beq_eq_false_iff_ne.mpr hkl]
          exact ih

theorem insertField_insertField (key : String) (old new : Json) (fields : List (String × Json)) :
    insertField key new (insertField key old fields) = insertField key new fields := by
  induction fields with
  | nil => simp [insertField]
  | cons field rest ih =>
    obtain ⟨k, value⟩ := field
    by_cases hk : k = key
    · simp [insertField, hk]
    · by_cases hlt : key < k
      · simp [insertField, hk, hlt]
      · simp [insertField, hk, hlt, ih]

theorem lookup_filter_ne (key : String) (fields : List (String × Json)) (k : String) :
    (fields.filter fun field => field.1 ≠ key).lookup k = if k = key then none else fields.lookup k := by
  induction fields with
  | nil => simp
  | cons field rest ih =>
    obtain ⟨l, value⟩ := field
    by_cases hl : l = key
    · subst hl
      by_cases hk : k = l
      · simpa [hk] using ih
      · simpa [hk, lookup_cons, beq_eq_false_iff_ne.mpr hk] using ih
    · rw [filter_cons_of_pos (by simpa using hl), lookup_cons, ih, lookup_cons]
      by_cases hkl : k = l
      · subst hkl
        simp [hl]
      · simp [beq_eq_false_iff_ne.mpr hkl]

theorem get_insert (h : value.isObject = true) (key : String) (new : Json)
    (k : String) : (value.insert key new).get k = if k = key then some new else value.get k := by
  obtain ⟨fields, rfl⟩ := isObject_iff.mp h
  exact lookup_insertField key new fields k

theorem get_remove (value : Json) (key : String) (k : String) :
    (value.remove key).get k = if k = key then none else value.get k := by
  cases value with
  | object fields => exact lookup_filter_ne key fields k
  | null | bool | number | string | array => simp [remove, get]

@[simp] theorem isObject_insert (value : Json) (key : String) (new : Json) :
    (value.insert key new).isObject = value.isObject := by
  cases value <;> rfl

@[simp] theorem isObject_remove (value : Json) (key : String) :
    (value.remove key).isObject = value.isObject := by
  cases value <;> rfl

def insertPath : Json → List String → Json → Json
  | _, [], new => new
  | value, key :: keys, new =>
    match value.get key with
    | some inner => value.insert key (inner.insertPath keys new)
    | none => value

@[simp] theorem insertPath_nil (value new : Json) : value.insertPath [] new = new := rfl

@[simp] theorem getPath_nil (value : Json) : value.getPath [] = some value := rfl

theorem getPath_cons (value : Json) (key : String) (keys : List String) :
    value.getPath (key :: keys) = (value.get key).bind fun inner => inner.getPath keys := rfl

theorem getPath_singleton (value : Json) (key : String) : value.getPath [key] = value.get key := by
  rw [getPath_cons]
  cases value.get key <;> rfl

theorem getPath_append (value : Json) (keys keys' : List String) :
    value.getPath (keys ++ keys') = (value.getPath keys).bind fun inner => inner.getPath keys' := by
  induction keys generalizing value with
  | nil => rfl
  | cons key keys ih =>
    rw [cons_append, getPath_cons, getPath_cons, Option.bind_assoc]
    exact congrArg _ (funext ih)

theorem isObject_of_getPath (h : value.getPath (key :: keys) = some inner) : value.isObject = true := by
  obtain ⟨next, hnext, -⟩ := Option.bind_eq_some_iff.mp h
  exact isObject_of_get hnext

theorem getPath_append_of_some (h : value.getPath keys = some inner) (keys' : List String) :
    value.getPath (keys ++ keys') = inner.getPath keys' := by
  rw [getPath_append, h, Option.bind_some]

theorem getPath_append_of_none (h : value.getPath keys = none)
    (keys' : List String) : value.getPath (keys ++ keys') = none := by
  rw [getPath_append, h, Option.bind_none]

theorem getPath_field
    (h : value.getPath keys = some inner) (key : String) : value.getPath (keys ++ [key]) = inner.get key := by
  rw [getPath_append_of_some h, getPath_singleton]

theorem get_insertPath_of_ne {k} (h : k ≠ key) (value : Json) (keys : List String) (new : Json) :
    (value.insertPath (key :: keys) new).get k = value.get k := by
  unfold insertPath
  cases hget : value.get key with
  | none => rfl
  | some inner => rw [get_insert (isObject_of_get hget), if_neg h]

theorem get_insertPath_self (h : value.get key = some inner)
    (new : Json) : (value.insertPath (key :: keys) new).get key = some (inner.insertPath keys new) := by
  simp only [insertPath, h]
  rw [get_insert (isObject_of_get h), if_pos rfl]

theorem getPath_insertPath_self (h : value.getPath keys = some inner) (new : Json) :
    (value.insertPath keys new).getPath keys = some new := by
  induction keys generalizing value with
  | nil => rfl
  | cons key keys ih =>
    rw [getPath_cons, Option.bind_eq_some_iff] at h
    obtain ⟨next, hnext, hrest⟩ := h
    rw [getPath_cons, get_insertPath_self hnext, Option.bind_some]
    exact ih hrest

theorem isObject_insertPath (value : Json) (key : String) (keys : List String) (new : Json) :
    (value.insertPath (key :: keys) new).isObject = value.isObject := by
  unfold insertPath
  cases value.get key with
  | none => rfl
  | some inner => exact isObject_insert value key _

theorem map_isObject_getPath_insertPath (value : Json) (trunk : List String) (key : String)
    (keys : List String) (new : Json) :
    ((value.insertPath (trunk ++ key :: keys) new).getPath trunk).map isObject =
      (value.getPath trunk).map isObject := by
  induction trunk generalizing value with
  | nil => simp [isObject_insertPath]
  | cons first trunk ih =>
    cases hget : value.get first with
    | none => simp [insertPath, hget]
    | some inner =>
      rw [cons_append, getPath_cons, getPath_cons, get_insertPath_self hget, hget]
      exact ih inner

section Fallible

variable {ε : Type} {f : Json → Except (Failure ε) Json}

/-- Change the value at the end of a path, if there is one. -/
def update (value : Json) (keys : List String) (f : Json → Except (Failure ε) Json) :
    Except (Failure ε) Json :=
  match value.getPath keys with
  | some inner => do
    let new ← f inner
    return value.insertPath keys new
  | none => .ok value

/-- Assign to an index: a null becomes an object, and everything else that is not one panics. -/
def setIndex (value : Json) (key : String) (new : Json) : Except (Failure ε) Json :=
  match value with
  | null => .ok (object [(key, new)])
  | object fields => .ok (object (insertField key new fields))
  | _ => .error .panicked

def expectObject (value : Json) (e : ε) : Except (Failure ε) Json :=
  if value.isObject then .ok value else .error (.error e)

variable {new : Json}

theorem update_of_ok {inner : Json} (h : value.getPath keys = some inner)
    (hf : f inner = .ok new) : value.update keys f = .ok (value.insertPath keys new) := by
  simp only [update, h, hf]
  rfl

variable {value' : Json}

theorem update_eq_ok : value.update keys f = .ok value' ↔
      value.getPath keys = none ∧ value' = value ∨
      ∃ inner new, value.getPath keys = some inner ∧ f inner = .ok new ∧
        value' = value.insertPath keys new := by
  unfold update
  cases h : value.getPath keys with
  | none =>
    constructor
    · intro heq
      cases heq
      exact Or.inl ⟨rfl, rfl⟩
    · rintro (⟨-, rfl⟩ | ⟨inner, new, hinner, -⟩)
      · rfl
      · cases hinner
  | some inner =>
    simp only [Fallible.bind_eq_ok]
    constructor
    · rintro ⟨new, hnew, heq⟩
      cases heq
      exact Or.inr ⟨inner, new, rfl, hnew, rfl⟩
    · rintro (⟨hnone, -⟩ | ⟨inner', new, hinner, hnew, rfl⟩)
      · cases hnone
      · cases hinner
        exact ⟨new, hnew, rfl⟩

theorem update_eq_error {failure} : value.update keys f = .error failure ↔
      ∃ inner, value.getPath keys = some inner ∧ f inner = .error failure := by
  unfold update
  cases h : value.getPath keys with
  | none => simp
  | some inner =>
    cases hf : f inner with
    | error e => simp [hf, bind, Except.bind]
    | ok new => simp [hf, bind, Except.bind, pure, Except.pure]

theorem exists_update_iff : (∃ value', value.update keys f = .ok value') ↔
      ∀ inner, value.getPath keys = some inner → ∃ new, f inner = .ok new := by
  unfold update
  cases h : value.getPath keys with
  | none => simp
  | some inner =>
    cases hf : f inner with
    | error e => simp [hf, bind, Except.bind]
    | ok new => simp [hf, bind, Except.bind, pure, Except.pure]

theorem get_update_of_ne {k} (h : k ≠ key)
    (hupdate : value.update (key :: keys) f = .ok value') : value'.get k = value.get k := by
  rcases update_eq_ok.mp hupdate with ⟨-, rfl⟩ | ⟨inner, new, -, -, rfl⟩
  · rfl
  · exact get_insertPath_of_ne h value keys new

theorem isObject_update (hupdate : value.update (key :: keys) f = .ok value') :
    value'.isObject = value.isObject := by
  rcases update_eq_ok.mp hupdate with ⟨-, rfl⟩ | ⟨inner, new, -, -, rfl⟩
  · rfl
  · exact isObject_insertPath value key keys new

theorem setIndex_of_object (h : value.isObject = true) (key : String) (new : Json) :
    (value.setIndex key new : Except (Failure ε) Json) = .ok (value.insert key new) := by
  obtain ⟨fields, rfl⟩ := isObject_iff.mp h
  rfl

theorem setIndex_eq_error {failure : Failure ε} :
    value.setIndex key new = .error failure ↔ failure = .panicked ∧ value.indexable = false := by
  cases value <;> simp [setIndex, indexable, isObject, isNull, eq_comm]

theorem exists_setIndex_iff :
    (∃ value', (value.setIndex key new : Except (Failure ε) Json) = .ok value') ↔ value.indexable = true := by
  cases value <;> simp [setIndex, indexable, isObject, isNull]

section

variable (h : (value.setIndex key new : Except (Failure ε) Json) = .ok value')

include h

theorem get_setIndex (k : String) : value'.get k = if k = key then some new else value.get k := by
  cases value with
  | object fields =>
    cases h
    exact lookup_insertField key new fields k
  | null =>
    cases h
    exact lookup_insertField key new [] k
  | bool | number | string | array => cases h

theorem isObject_setIndex : value'.isObject = true := by
  cases value <;> cases h <;> rfl

end

theorem expectObject_eq_ok {e : ε} :
    value.expectObject e = .ok value' ↔ value.isObject = true ∧ value' = value := by
  cases h : value.isObject <;> simp [expectObject, h, eq_comm]

end Fallible

end Json

end MullvadVpn.Systems
