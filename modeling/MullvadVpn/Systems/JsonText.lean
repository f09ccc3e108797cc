import MullvadVpn.Systems.Json

/-!
JSON values as texts, and the places in a value. All that is assumed about the texts is that objects are
read with their keys in ascending order, and that a printed value of strings, arrays and objects is read as
the same value.
-/

namespace MullvadVpn.Systems

namespace Json

/-- One step into a value: to a field of an object or to an item of an array. -/
inductive Step where
  | key (k : String)
  | item (i : Nat)

def follow : Json → List Step → Option Json
  | value, [] => some value
  | value, .key k :: steps => (value.get k).bind fun inner => inner.follow steps
  | value, .item i :: steps => (value.asArray.bind fun items => items[i]?).bind fun inner =>
      inner.follow steps

def insertAll (fields new : List (String × Json)) : List (String × Json) :=
  new.foldl (fun fields field => insertField field.1 field.2 fields) fields

theorem lookup_insertAll {new} (h : (new.map Prod.fst).Nodup)
    (fields : List (String × Json)) (k : String) :
    (insertAll fields new).lookup k = (new.lookup k).or (fields.lookup k) := by
  induction new generalizing fields with
  | nil => simp [insertAll]
  | cons field new ih =>
    obtain ⟨key, value⟩ := field
    obtain ⟨hkey, hnew⟩ := List.nodup_cons.mp h
    change (insertAll (insertField key value fields) new).lookup k = _
    rw [ih hnew, lookup_insertField, List.lookup_cons]
    by_cases hk : k = key
    · subst hk
      have hnone : new.lookup k = none := by
        rw [List.lookup_eq_none_iff]
        intro field hmem
        simp only [bne_iff_ne, ne_eq]
        rintro rfl
        exact hkey (List.mem_map.mpr ⟨field, hmem, rfl⟩)
      simp [hnone]
    · simp [hk, beq_eq_false_iff_ne.mpr hk]

def Ascending (fields : List (String × Json)) : Prop :=
  (fields.map Prod.fst).Pairwise (· < ·)

theorem Ascending.nodup {fields} (h : Ascending fields) :
    (fields.map Prod.fst).Nodup :=
  h.imp fun hlt => hlt.ne

theorem Ascending.sublist {fields fields'} (h : Ascending fields)
    (hsub : fields'.Sublist fields) : Ascending fields' :=
  List.Pairwise.sublist (hsub.map Prod.fst) h

/-- Every object in the value has ascending keys, and there are at most `depth` levels. -/
def Ordered : Nat → Json → Prop
  | 0, array _ | 0, object _ => False
  | depth + 1, array items => ∀ item ∈ items, item.Ordered depth
  | depth + 1, object fields => Ascending fields ∧ ∀ field ∈ fields, field.2.Ordered depth
  | _, _ => True

/-- The value consists of strings, arrays and objects with ascending keys, on at most `depth` levels. -/
def Textual : Nat → Json → Prop
  | _, string _ => True
  | depth + 1, array items => ∀ item ∈ items, item.Textual depth
  | depth + 1, object fields => Ascending fields ∧ ∀ field ∈ fields, field.2.Textual depth
  | _, _ => False

end Json

/-- A library that reads and prints JSON texts. Its parser gives up at the 128th level. -/
structure JsonText where
  parse : String → Option Json
  print : Json → Option String
  ordered_of_parse : ∀ text value, parse text = some value → value.Ordered 127
  parse_print : ∀ value text, value.Textual 127 → print value = some text → parse text = some value

end MullvadVpn.Systems
