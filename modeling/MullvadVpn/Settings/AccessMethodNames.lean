import MullvadVpn.Settings.Migrations
import MullvadVpn.Systems.FirstFree

/-!
The names of the custom access methods after the migration to version 12. The loop goes through the
positions in order and gives the method at each of them a name that no lower position has, so the names
at the positions it has passed are pairwise different and stay as they are.
-/

namespace MullvadVpn.Settings.V11

open Systems List

variable {names : List String} {methods : List Json}

def numbered (name : String) (n : Nat) : String :=
  name ++ "_" ++ toString n

theorem numbered_injective (name : String) : Function.Injective (numbered name) := by
  intro m n h
  have hdigits : Nat.toDigits 10 m = Nat.toDigits 10 n := by
    simpa [numbered, Nat.toString_eq_ofList_toDigits] using congrArg String.toList h
  rw [← Nat.ofDigitChars_ten_toDigits (n := m), hdigits, Nat.ofDigitChars_ten_toDigits]

theorem numbered_ne (name : String) (n : Nat) : numbered name n ≠ name := by
  intro h
  have hlength := congrArg (fun s => s.toList.length) h
  simp [numbered] at hlength

theorem shouldRename_iff {name} {index : Nat} :
    shouldRename names name index = true ↔ name ∈ names.take index := by
  simp only [shouldRename, any_eq_true, mem_zipIdx_iff_getElem?, Bool.and_eq_true,
    decide_eq_true_eq, beq_iff_eq, mem_take_iff_getElem]
  constructor
  · rintro ⟨⟨found, position⟩, hfound, hlower, rfl⟩
    obtain ⟨hlength, hget⟩ := List.getElem?_eq_some_iff.mp hfound
    exact ⟨position, by omega, hget⟩
  · rintro ⟨position, hposition, hget⟩
    exact ⟨(name, position), List.getElem?_eq_some_iff.mpr ⟨by omega, hget⟩, by omega, rfl⟩

theorem generateAccessMethodName_eq_firstFree (names : List String) (name : String)
    (index attempts suffix : Nat) :
    generateAccessMethodName names name index attempts suffix =
      firstFree (shouldRename names · index) (numbered name) attempts suffix := by
  induction attempts generalizing suffix with
  | zero => rfl
  | succ attempts ih =>
    simp only [generateAccessMethodName, firstFree, ih]
    rfl

theorem exists_generateAccessMethodName (names : List String) (name : String) (index suffix : Nat) :
    ∃ generated, generateAccessMethodName names name index (index + 1) suffix = some generated := by
  rw [generateAccessMethodName_eq_firstFree]
  have henough : (names.take index).length < index + 1 := by
    rw [length_take]
    omega
  exact exists_firstFree (numbered_injective name) (fun _ => shouldRename_iff.mp) henough suffix

/-- What the name at a position becomes, given the names at the lower positions. -/
structure Renaming (lower : List String) (old new : String) : Prop where
  fresh : new ∉ lower
  renamed_iff : new ≠ old ↔ old ∈ lower
  numbered_of_renamed : new ≠ old → ∃ n, new = numbered old n

theorem renameAt_eq {index : Nat} (h : index < names.length) :
    ∃ new, renameAt names index = .ok (names.set index new) ∧ Renaming (names.take index) names[index] new := by
  simp only [renameAt, getElem?_eq_getElem h]
  split
  · rename_i hrename
    obtain ⟨generated, hgenerated⟩ := exists_generateAccessMethodName names names[index] index
      (initialSuffix names names[index])
    rw [hgenerated]
    rw [generateAccessMethodName_eq_firstFree] at hgenerated
    obtain ⟨hfree, n, -, rfl⟩ := firstFree_eq_some hgenerated
    refine ⟨_, rfl, ?_, ?_, fun _ => ⟨n, rfl⟩⟩
    · rw [← shouldRename_iff, hfree]
      exact Bool.false_ne_true
    · exact iff_of_true (numbered_ne _ n) (shouldRename_iff.mp hrename)
  · rename_i hkeep
    rw [shouldRename_iff] at hkeep
    refine ⟨names[index], by rw [set_getElem_self], hkeep, ?_, fun hne => absurd rfl hne⟩
    exact iff_of_false (fun hne => hne rfl) hkeep

/-- The rounds from a position on: the lower names stay, and every other name is new relative to the
final names below it. -/
theorem renameFrom_eq (names : List String) (index rounds : Nat) (hlength : index + rounds = names.length) :
    ∃ names', renameFrom names index rounds = .ok names' ∧ names'.length = names.length ∧
      names'.take index = names.take index ∧
      ∀ i old new, index ≤ i → names[i]? = some old → names'[i]? = some new →
        Renaming (names'.take i) old new := by
  induction rounds generalizing names index with
  | zero =>
    refine ⟨names, rfl, rfl, rfl, fun i old new hi hold => ?_⟩
    rw [getElem?_eq_none (by omega)] at hold
    cases hold
  | succ rounds ih =>
    obtain ⟨name, hround, hrenaming⟩ := renameAt_eq (show index < names.length by omega)
    obtain ⟨names', hrest, hlength', htake, hrenamings⟩ :=
      ih (names.set index name) (index + 1) (by rw [length_set]; omega)
    have hlower : names'.take index = names.take index := by
      have := congrArg (take index) htake
      simpa [take_take, take_set_of_le] using this
    have hself : names'[index]? = some name := by
      have := congrArg (·[index]?) htake
      simpa [show index < names.length by omega] using this
    refine ⟨names', ?_, by rw [hlength', length_set], hlower, fun i old new hi hold hnew => ?_⟩
    · simp only [renameFrom, hround]
      exact hrest
    · rcases Nat.eq_or_lt_of_le hi with rfl | hi
      · obtain ⟨_, rfl⟩ := List.getElem?_eq_some_iff.mp hold
        cases hself.symm.trans hnew
        rw [hlower]
        exact hrenaming
      · exact hrenamings i old new hi (by rw [getElem?_set_ne (by omega)]; exact hold) hnew

theorem mem_take_iff {name} {i : Nat} : name ∈ names.take i ↔ ∃ j < i, names[j]? = some name := by
  rw [mem_take_iff_getElem]
  constructor
  · rintro ⟨j, hj, hget⟩
    exact ⟨j, by omega, List.getElem?_eq_some_iff.mpr ⟨by omega, hget⟩⟩
  · rintro ⟨j, hj, hget⟩
    obtain ⟨hbound, hget⟩ := List.getElem?_eq_some_iff.mp hget
    exact ⟨j, by omega, hget⟩

theorem nodup_of_forall_notMem_take (h : ∀ i (hi : i < names.length), names[i] ∉ names.take i) :
    names.Nodup := by
  rw [Nodup, pairwise_iff_getElem]
  intro i j hi hj hlt heq
  exact h j hj (heq ▸ mem_take_iff_getElem.mpr ⟨i, by omega, rfl⟩)

theorem uniqueNames_eq (names : List String) :
    ∃ names', uniqueNames names = .ok names' ∧ names'.length = names.length ∧ names'.Nodup ∧
      ∀ i old new, names[i]? = some old → names'[i]? = some new → Renaming (names'.take i) old new := by
  obtain ⟨names', hnames', hlength, -, hrenamings⟩ := renameFrom_eq names 0 names.length (by omega)
  refine ⟨names', hnames', hlength, nodup_of_forall_notMem_take fun i hi => ?_,
    fun i old new => hrenamings i old new (Nat.zero_le i)⟩
  exact (hrenamings i _ _ (Nat.zero_le i) (getElem?_eq_getElem (hlength ▸ hi)) (getElem?_eq_getElem hi)).fresh

theorem filterMap_nameOf (h : methods.map nameOf = names.map some) : methods.filterMap nameOf = names := by
  have hfilter : (methods.map nameOf).filterMap id = methods.filterMap nameOf := by
    rw [filterMap_map, Function.id_comp]
  rw [← hfilter, h, filterMap_map]
  simp

theorem storeNames_spec {names'} (h : methods.map nameOf = names.map some)
    (hlength : names'.length = names.length) :
    (storeNames methods names').map nameOf = names'.map some ∧
      Forall₂ (fun method method' => ∀ key ≠ "name", method'.get key = method.get key)
        methods (storeNames methods names') := by
  induction methods generalizing names names' with
  | nil =>
    cases names with
    | nil =>
      cases names' with
      | nil => exact ⟨rfl, .nil⟩
      | cons name' names' => cases hlength
    | cons name names => cases h
  | cons method methods ih =>
    cases names with
    | nil => cases h
    | cons name names =>
      cases names' with
      | nil => cases hlength
      | cons name' names' =>
        rw [map_cons, map_cons, cons_eq_cons] at h
        obtain ⟨hname, hnames⟩ := h
        obtain ⟨hmap, hfields⟩ := ih hnames (by simpa using hlength)
        obtain ⟨value, hvalue, -⟩ := Option.bind_eq_some_iff.mp hname
        rw [storeNames, if_pos (by rw [hname]; rfl)]
        refine ⟨?_, .cons (fun key hkey => ?_) hfields⟩
        · rw [map_cons, map_cons, hmap, nameOf, Json.get_insert (Json.isObject_of_get hvalue), if_pos rfl]
          rfl
        · rw [Json.get_insert (Json.isObject_of_get hvalue), if_neg hkey]

theorem migrateDuplicatedNames_eq {settings : Json} {names'}
    (hcustom : settings.getPath ["api_access_methods", "custom"] = some (.array methods))
    (hnames : methods.map nameOf = names.map some) (hunique : uniqueNames names = .ok names') :
    migrateDuplicatedNames settings = .ok (settings.insertPath ["api_access_methods", "custom"]
      (.array (storeNames methods names'))) := by
  have hobject : settings.isObject = true := by
    obtain ⟨inner, hinner, -⟩ := Option.bind_eq_some_iff.mp hcustom
    exact Json.isObject_of_get hinner
  refine Fallible.bind_eq_ok.mpr ⟨settings, Json.expectObject_eq_ok.mpr ⟨hobject, rfl⟩, ?_⟩
  refine Json.update_of_ok hcustom ?_
  simp only [Json.asArray, filterMap_nameOf hnames, hunique]
  rfl

/-- The names of the custom methods are made unique. Their number, their order and all their other
fields stay, a method is renamed exactly if a lower position ends up with its name, and no search for a
name takes more than one attempt more than there are lower positions. -/
theorem migrateDuplicatedNames_unique (settings : Json) (methods : List Json) (names : List String)
    (hcustom : settings.getPath ["api_access_methods", "custom"] = some (.array methods))
    (hnames : methods.map nameOf = names.map some) :
    ∃ (methods' : List Json) (names' : List String), migrateDuplicatedNames settings =
        .ok (settings.insertPath ["api_access_methods", "custom"] (.array methods')) ∧
      methods'.map nameOf = names'.map some ∧ names'.Nodup ∧
      methods'.length = methods.length ∧
      (∀ (i : Nat) (method method' : Json), methods[i]? = some method → methods'[i]? = some method' →
        ∀ key ≠ "name", method'.get key = method.get key) ∧
      (∀ (i : Nat) (old new : String), names[i]? = some old → names'[i]? = some new →
        (new ≠ old ↔ ∃ j < i, names'[j]? = some old) ∧
        (new ≠ old → ∃ n : Nat, new = old ++ "_" ++ toString n)) ∧
      ∀ (current : List String) (name : String) (index suffix : Nat), ∃ generated,
        generateAccessMethodName current name index (index + 1) suffix = some generated := by
  obtain ⟨names', hunique, hlength, hnodup, hrenamings⟩ := uniqueNames_eq names
  obtain ⟨hmap, hfields⟩ := storeNames_spec hnames hlength
  refine ⟨storeNames methods names', names', migrateDuplicatedNames_eq hcustom hnames hunique, hmap,
    hnodup, hfields.length_eq.symm, ?_, ?_, exists_generateAccessMethodName⟩
  · intro i method method' hmethod hmethod'
    obtain ⟨hi, rfl⟩ := List.getElem?_eq_some_iff.mp hmethod
    obtain ⟨hi', rfl⟩ := List.getElem?_eq_some_iff.mp hmethod'
    exact hfields.get hi hi'
  · intro i old new hold hnew
    have hrenaming := hrenamings i old new hold hnew
    exact ⟨hrenaming.renamed_iff.trans mem_take_iff, hrenaming.numbered_of_renamed⟩

/-- Two methods with one name, and a third that already has the name which the second would get. -/
def Sample.duplicated : Json :=
  .object [("api_access_methods", .object [("custom", .array
    [.object [("name", .string "office")], .object [("name", .string "office_1")],
      .object [("name", .string "office")]])])]

theorem migrateDuplicatedNames_unique_office :
    ∃ (methods' : List Json) (names' : List String),
      migrateDuplicatedNames Sample.duplicated = .ok (Sample.duplicated.insertPath
        ["api_access_methods", "custom"] (.array methods')) ∧
      methods'.map nameOf = names'.map some ∧ names'.Nodup ∧ methods'.length = 3 := by
  obtain ⟨methods', names', hmigrate, hmap, hnodup, hlength, -⟩ :=
    migrateDuplicatedNames_unique Sample.duplicated _ ["office", "office_1", "office"] rfl rfl
  exact ⟨methods', names', hmigrate, hmap, hnodup, hlength⟩

/-- The names become unique and nothing else changes. The first method that had a name keeps it, unless a
lower position got that very name in place of its own; every later method that had the name gets a number. -/
theorem migrateDuplicatedNames_keeps_first (settings : Json) (methods : List Json) (names : List String)
    (hcustom : settings.getPath ["api_access_methods", "custom"] = some (.array methods))
    (hnames : methods.map nameOf = names.map some) :
    ∃ (methods' : List Json) (names' : List String), migrateDuplicatedNames settings =
        .ok (settings.insertPath ["api_access_methods", "custom"] (.array methods')) ∧
      methods'.map nameOf = names'.map some ∧ names'.Nodup ∧
      Forall₂ (fun method method' => ∀ key ≠ "name", method'.get key = method.get key) methods methods' ∧
      ∀ (i : Nat) (name : String), names[i]? = some name →
        ((∀ j < i, names[j]? ≠ some name) → names'[i]? = some name ∨
          ∃ j < i, ∃ (old : String) (n : Nat), names[j]? = some old ∧ names'[j]? = some name ∧
            name = old ++ "_" ++ toString n) ∧
        ((∃ j < i, names[j]? = some name) →
          ∃ new ≠ name, names'[i]? = some new ∧ ∃ n : Nat, new = name ++ "_" ++ toString n) := by
  obtain ⟨names', hunique, hlength, hnodup, hrenamings⟩ := uniqueNames_eq names
  obtain ⟨hmap, hfields⟩ := storeNames_spec hnames hlength
  refine ⟨storeNames methods names', names', migrateDuplicatedNames_eq hcustom hnames hunique, hmap,
    hnodup, hfields, fun i name hname => ?_⟩
  have hexists : ∀ {j : Nat} {old : String}, names[j]? = some old → ∃ new, names'[j]? = some new := by
    intro j old hold
    obtain ⟨hj, -⟩ := List.getElem?_eq_some_iff.mp hold
    exact ⟨_, getElem?_eq_getElem (hlength ▸ hj)⟩
  obtain ⟨new, hnew⟩ := hexists hname
  have hrenaming := hrenamings i name new hname hnew
  constructor
  · intro hfirst
    by_cases hkept : new = name
    · exact .inl (hkept ▸ hnew)
    · obtain ⟨j, hj, hget⟩ := mem_take_iff.mp (hrenaming.renamed_iff.mp hkept)
      obtain ⟨old, hold⟩ : ∃ old, names[j]? = some old :=
        ⟨_, List.getElem?_eq_getElem (hj.trans (List.getElem?_eq_some_iff.mp hname).1)⟩
      obtain ⟨n, hn⟩ := (hrenamings j old name hold hget).numbered_of_renamed fun h => hfirst j hj (h ▸ hold)
      exact .inr ⟨j, hj, old, n, hold, hget, hn⟩
  · rintro ⟨j, hj, hduplicate⟩
    -- The name is taken below the duplicate, by the first method or by whoever took it from that.
    have htaken : name ∈ names'.take i := by
      obtain ⟨kept, hkept⟩ := hexists hduplicate
      by_cases heq : kept = name
      · exact mem_take_iff.mpr ⟨j, hj, heq ▸ hkept⟩
      · have hlower := (hrenamings j name kept hduplicate hkept).renamed_iff.mp heq
        exact take_subset_take_left _ hj.le hlower
    have hrenamed := hrenaming.renamed_iff.mpr htaken
    exact ⟨new, hrenamed, hnew, hrenaming.numbered_of_renamed hrenamed⟩

/-- Two methods with one name, and then a method whose name the second will get. -/
def Sample.taken : Json :=
  .object [("api_access_methods", .object [("custom", .array
    [.object [("name", .string "office")], .object [("name", .string "office")],
      .object [("name", .string "office_1")]])])]

theorem migrateDuplicatedNames_keeps_first_office :
    ∃ (methods' : List Json) (names' : List String),
      migrateDuplicatedNames Sample.taken = .ok (Sample.taken.insertPath
        ["api_access_methods", "custom"] (.array methods')) ∧
      methods'.map nameOf = names'.map some ∧ names'.Nodup ∧ ∃ new ≠ "office", names'[1]? = some new := by
  obtain ⟨methods', names', hmigrate, hmap, hnodup, -, hkept⟩ :=
    migrateDuplicatedNames_keeps_first Sample.taken _ ["office", "office", "office_1"] rfl rfl
  obtain ⟨new, hne, hnew, -⟩ := (hkept 1 "office" rfl).2 ⟨0, by decide, rfl⟩
  exact ⟨methods', names', hmigrate, hmap, hnodup, new, hne, hnew⟩

/-- The only method named `office_1` loses its name to a duplicate of `office` before it. -/
theorem unique_name_taken :
    migrateDuplicatedNames Sample.taken = .ok (Sample.taken.insertPath ["api_access_methods", "custom"]
      (.array [.object [("name", .string "office")], .object [("name", .string "office_1")],
        .object [("name", .string "office_1_1")]])) :=
  rfl

end MullvadVpn.Settings.V11
