import MullvadVpn.Settings.CustomLists

/-!
Identifiers, names and lengths of names of custom lists over whole runs of the daemon's handlers.
-/

namespace MullvadVpn.CustomLists

open Systems Relays
open Persister (Store Format Io)

namespace CustomListsSettings

variable {lists lists' : CustomListsSettings} {newList : CustomList} {u : Unit}

theorem checkListNameIsUnique_eq_ok : lists.checkListNameIsUnique newList = .ok u ↔
      ∀ list ∈ lists.customLists, list.name = newList.name → list.id = newList.id := by
  simp [checkListNameIsUnique]

theorem checkIfIdIsUnique_eq_ok :
    lists.checkIfIdIsUnique newList = .ok u ↔ ∀ list ∈ lists.customLists, list.id ≠ newList.id := by
  simp [checkIfIdIsUnique]

variable {listId : ListId}

theorem id_of_findListIndex {index : Nat} (h : lists.findListIndex listId = some index) :
    ∃ list, lists.customLists[index]? = some list ∧ list.id = listId := by
  obtain ⟨hlt, hid, -⟩ := List.findIdx?_eq_some_iff_getElem.mp h
  exact ⟨_, List.getElem?_eq_getElem hlt, beq_iff_eq.mp hid⟩

theorem add_eq_ok : lists.add newList = .ok lists' ↔
      (∀ list ∈ lists.customLists, list.id ≠ newList.id ∧ list.name ≠ newList.name) ∧
        lists' = ⟨lists.customLists ++ [newList]⟩ := by
  simp only [add, Fallible.bind_eq_ok, checkIfIdIsUnique_eq_ok, checkListNameIsUnique_eq_ok]
  constructor
  · rintro ⟨⟨⟩, hids, ⟨⟩, hnames, hlists⟩
    cases hlists
    exact ⟨fun list hmem => ⟨hids list hmem, fun hname => hids list hmem (hnames list hmem hname)⟩, rfl⟩
  · rintro ⟨hunique, rfl⟩
    exact ⟨(), fun list hmem => (hunique list hmem).1, (),
      fun list hmem hname => absurd hname (hunique list hmem).2, rfl⟩

theorem remove_eq_ok : lists.remove listId = .ok lists' ↔
      ∃ index, lists.findListIndex listId = some index ∧ lists' = ⟨lists.customLists.eraseIdx index⟩ := by
  simp only [remove, Fallible.bind_eq_ok, Fallible.okOr_eq_ok]
  refine exists_congr fun index => and_congr_right fun _ => ?_
  exact ⟨fun h => (Except.ok.inj h).symm, fun h => h ▸ rfl⟩

theorem update_eq_ok : lists.update newList = .ok lists' ↔
      ∃ index, lists.findListIndex newList.id = some index ∧
        (∀ list ∈ lists.customLists, list.name = newList.name → list.id = newList.id) ∧
        lists' = ⟨lists.customLists.set index newList⟩ := by
  simp only [update, Fallible.bind_eq_ok, Fallible.okOr_eq_ok, checkListNameIsUnique_eq_ok]
  constructor
  · rintro ⟨index, hindex, ⟨⟩, hnames, hlists⟩
    cases hlists
    exact ⟨index, hindex, hnames, rfl⟩
  · rintro ⟨index, hindex, hnames, rfl⟩
    exact ⟨index, hindex, (), hnames, rfl⟩

structure Distinct (lists : CustomListsSettings) : Prop where
  ids : (lists.customLists.map (·.id)).Nodup
  names : (lists.customLists.map (·.name)).Nodup

theorem Distinct.add (h : lists.Distinct) (hadd : lists.add newList = .ok lists') : lists'.Distinct := by
  obtain ⟨hunique, rfl⟩ := add_eq_ok.mp hadd
  exact ⟨Keyed.nodup_map_append h.ids fun list hmem => (hunique list hmem).1,
    Keyed.nodup_map_append h.names fun list hmem => (hunique list hmem).2⟩

theorem Distinct.remove (h : lists.Distinct) (hremove : lists.remove listId = .ok lists') : lists'.Distinct := by
  obtain ⟨index, -, rfl⟩ := remove_eq_ok.mp hremove
  have hsub := List.eraseIdx_sublist lists.customLists index
  exact ⟨Keyed.nodup_map_sublist hsub h.ids, Keyed.nodup_map_sublist hsub h.names⟩

theorem Distinct.update (h : lists.Distinct) (hupdate : lists.update newList = .ok lists') :
    lists'.Distinct := by
  obtain ⟨index, hindex, hnames, rfl⟩ := update_eq_ok.mp hupdate
  obtain ⟨old, hold, hid⟩ := id_of_findListIndex hindex
  constructor
  · rw [Keyed.map_set_of_key_eq fun list hlist => ?_]
    · exact h.ids
    · rw [Option.some.inj (hlist.symm.trans hold), hid]
  · -- Another list of the same name would be the same list, at another place.
    refine Keyed.nodup_map_set h.names fun j list hne hlist hname => hne ?_
    have hsame : list.id = old.id := (hnames list (List.mem_of_getElem? hlist) hname).trans hid.symm
    exact Keyed.index_eq_of_key_eq h.ids hlist hold hsame

end CustomListsSettings

def Operation.apply : Operation → CustomListsSettings → Except Error CustomListsSettings
  | create id name locations, lists => do
    let newList ← CustomList.new id name
    lists.add (newList.append locations)
  | delete id, lists => lists.remove id
  | update newList, lists => lists.update newList
  | clear, lists => .ok lists.clear

variable {id : ListId} {name : String}

theorem new_eq_ok {list} :
    CustomList.new id name = .ok list ↔ name.length ≤ customListNameMaxSize ∧ list = ⟨id, name, ∅⟩ := by
  unfold CustomList.new
  split
  next hlong => exact iff_of_false nofun fun h => absurd h.1 (by omega)
  next hshort => simp [CustomList.withId, not_lt.mp hshort, eq_comm]

theorem Operation.apply_create
    {locations lists lists'} :
    (create id name locations).apply lists = .ok lists' ↔
      name.length ≤ customListNameMaxSize ∧ lists.add ⟨id, name, locations⟩ = .ok lists' := by
  simp only [apply, Fallible.bind_eq_ok, new_eq_ok]
  constructor
  · rintro ⟨_, ⟨hshort, rfl⟩, hadd⟩
    exact ⟨hshort, by simpa [CustomList.append] using hadd⟩
  · rintro ⟨hshort, hadd⟩
    exact ⟨_, ⟨hshort, rfl⟩, by simpa [CustomList.append] using hadd⟩

namespace CustomListsSettings

variable {lists lists' : CustomListsSettings} {operation : Operation}

theorem Distinct.apply (h : lists.Distinct) (hok : operation.apply lists = .ok lists') : lists'.Distinct := by
  cases operation with
  | create id name locations => exact h.add (Operation.apply_create.mp hok).2
  | delete id => exact h.remove hok
  | update newList => exact h.update hok
  | clear =>
    cases hok
    exact ⟨List.nodup_nil, List.nodup_nil⟩

theorem others_apply (hok : operation.apply lists = .ok lists') :
    lists'.customLists.filter (!operation.names ·.id) = lists.customLists.filter (!operation.names ·.id) := by
  cases operation with
  | create id name locations =>
    obtain ⟨-, rfl⟩ := add_eq_ok.mp (Operation.apply_create.mp hok).2
    simp [Operation.names]
  | delete id =>
    obtain ⟨index, hindex, rfl⟩ := remove_eq_ok.mp hok
    obtain ⟨old, hold, hid⟩ := id_of_findListIndex hindex
    refine Keyed.filter_eraseIdx fun list hlist => ?_
    rw [Option.some.inj (hlist.symm.trans hold), hid]
    simp [Operation.names]
  | update newList =>
    obtain ⟨index, hindex, -, rfl⟩ := update_eq_ok.mp hok
    obtain ⟨old, hold, hid⟩ := id_of_findListIndex hindex
    refine Keyed.filter_set (fun list hlist => ?_) (by simp [Operation.names])
    rw [Option.some.inj (hlist.symm.trans hold), hid]
    simp [Operation.names]
  | clear => simp [Operation.names]

end CustomListsSettings

section

variable {Rest Bytes : Type} [DecidableEq Rest] {format : Format Rest Bytes} {path : String}
  {customLists : Lens (Persister.Settings Rest) CustomListsSettings} {operation : Operation}
  {io : Io} {store : Store Rest Bytes}

variable (format path customLists operation io store) in
/-- An operation that returns an error leaves all settings as they were. One that does not, changes the
lists only. -/
theorem perform_cases :
    (∃ error after, perform format path customLists store (operation, io) = (.error error, after) ∧
      after.settings = store.settings) ∨
    ∃ result lists after, perform format path customLists store (operation, io) = (.ok result, after) ∧
      operation.apply (customLists.get store.settings) = .ok lists ∧
        after.settings = customLists.set lists store.settings := by
  cases operation with
  | create id name locations =>
    simp only [perform, createCustomList, Operation.apply]
    cases CustomList.new id name with
    | error error => exact .inl ⟨_, _, rfl, rfl⟩
    | ok newList =>
      rcases store.tryUpdate_cases format path customLists (·.add (newList.append locations)) io with
        ⟨error, after, heq, hsame⟩ | ⟨changed, lists, after, heq, happly, hset⟩
      · exact .inl ⟨_, after, by simp only [heq]; rfl, hsame⟩
      · exact .inr ⟨_, lists, after, by simp only [heq]; rfl, happly, hset⟩
  | delete id =>
    simp only [perform, deleteCustomList, Operation.apply]
    rcases store.tryUpdate_cases format path customLists (·.remove id) io with
      ⟨error, after, heq, hsame⟩ | ⟨changed, lists, after, heq, happly, hset⟩
    · exact .inl ⟨_, after, by simp only [heq]; rfl, hsame⟩
    · exact .inr ⟨_, lists, after, by simp only [heq]; rfl, happly, hset⟩
  | update newList =>
    simp only [perform, updateCustomList, Operation.apply]
    rcases store.tryUpdate_cases format path customLists (·.update newList) io with
      ⟨error, after, heq, hsame⟩ | ⟨changed, lists, after, heq, happly, hset⟩
    · exact .inl ⟨_, after, by simp only [heq]; rfl, hsame⟩
    · exact .inr ⟨_, lists, after, by simp only [heq]; rfl, happly, hset⟩
  | clear =>
    simp only [perform, clearCustomLists, Operation.apply]
    rcases store.update_cases (E := Error) format path customLists (·.clear) io with
      ⟨error, after, heq, hsame⟩ | ⟨changed, after, heq, hset⟩
    · exact .inl ⟨_, after, by simp only [heq]; rfl, hsame⟩
    · exact .inr ⟨_, _, after, by simp only [heq]; rfl, rfl, hset⟩

/-- In every run the lists have distinct identifiers and distinct names, an operation that returns an error
leaves all settings as they were, and one that does not leaves the lists it does not name as they were. -/
theorem run_distinct {history : List (Operation × Io)}
    (hrun : (system format path customLists).Run history store) :
    (customLists.get store.settings).Distinct ∧ ∀ operation io result after,
        perform format path customLists store (operation, io) = (result, after) →
        (∀ error, result = .error error → after.settings = store.settings) ∧
        ∀ created, result = .ok created →
          (customLists.get after.settings).customLists.filter (!operation.names ·.id) =
            (customLists.get store.settings).customLists.filter (!operation.names ·.id) := by
  constructor
  · refine TransitionSystem.Run.invariant
      (I := fun _ store => (customLists.get store.settings).Distinct) ?_ ?_ hrun
    · intro store hinit
      rw [show customLists.get store.settings = .default from hinit]
      exact ⟨List.nodup_nil, List.nodup_nil⟩
    · rintro _ store ⟨operation, io⟩ _ - hdistinct ⟨⟩
      rcases perform_cases format path customLists operation io store with
        ⟨error, after, heq, hsame⟩ | ⟨result, lists, after, heq, happly, hset⟩
      · rw [heq, hsame]
        exact hdistinct
      · rw [heq, hset, customLists.get_set]
        exact hdistinct.apply happly
  · intro operation io result after hperform
    rcases perform_cases format path customLists operation io store with
      ⟨error, after, heq, hsame⟩ | ⟨created, lists, after, heq, happly, hset⟩ <;>
      cases heq.symm.trans hperform
    · exact ⟨fun _ _ => hsame, nofun⟩
    · refine ⟨nofun, fun _ _ => ?_⟩
      rw [hset, customLists.get_set]
      exact CustomListsSettings.others_apply happly

end

namespace Sample

def store : Store CustomListsSettings (Persister.Settings CustomListsSettings) :=
  Persister.Sample.store .default

def system : TransitionSystem
    (Store CustomListsSettings (Persister.Settings CustomListsSettings))
    (Operation × Io) :=
  CustomLists.system (Persister.Sample.plain .default) "settings.json" Persister.Sample.field

end Sample

/-- Two lists are created, and the first takes the name of the second: that is refused. -/
theorem run_distinct_names :
    ∃ history store, Sample.system.Run history store ∧ history.length = 3 ∧
      store.settings.rest.customLists.map (·.name) = ["Near", "Far"] ∧ store.settings.rest.Distinct := by
  have hrun := ((TransitionSystem.Run.init (S := Sample.system) (s := Sample.store) rfl).step
    (e := (.create 1 "Near" ∅, {})) rfl).step
    (e := (.create 2 "Far" ∅, {})) rfl |>.step
    (e := (.update ⟨1, "Far", ∅⟩, {})) rfl
  exact ⟨_, _, hrun, rfl, rfl, (run_distinct hrun).1⟩

/-- No name is longer than `CustomList::new` allows. -/
def CustomListsSettings.NamesBounded (lists : CustomListsSettings) : Prop :=
  ∀ list ∈ lists.customLists, list.name.length ≤ customListNameMaxSize

/-- The name that an operation brings is not too long, if it does not check that itself. -/
def Operation.NameBounded : Operation → Prop
  | update newList => newList.name.length ≤ customListNameMaxSize
  | _ => True

theorem CustomListsSettings.NamesBounded.apply_iff {lists lists' : CustomListsSettings}
    (h : lists.NamesBounded) {operation : Operation} (hok : operation.apply lists = .ok lists') :
    lists'.NamesBounded ↔ operation.NameBounded := by
  cases operation with
  | create id name locations =>
    refine iff_of_true (fun list hmem => ?_) trivial
    obtain ⟨hshort, hadd⟩ := Operation.apply_create.mp hok
    obtain ⟨-, rfl⟩ := add_eq_ok.mp hadd
    rcases List.mem_append.mp hmem with hmem | hmem
    · exact h list hmem
    · rw [List.mem_singleton.mp hmem]
      exact hshort
  | delete id =>
    refine iff_of_true (fun list hmem => ?_) trivial
    obtain ⟨index, -, rfl⟩ := remove_eq_ok.mp hok
    exact h list (List.mem_of_mem_eraseIdx hmem)
  | update newList =>
    obtain ⟨index, hindex, -, rfl⟩ := update_eq_ok.mp hok
    constructor
    · intro hbounded
      obtain ⟨old, hold, -⟩ := id_of_findListIndex hindex
      exact hbounded newList (List.mem_set (List.getElem?_eq_some_iff.mp hold).1 newList)
    · intro hshort list hmem
      rcases List.mem_or_eq_of_mem_set hmem with hmem | rfl
      · exact h list hmem
      · exact hshort
  | clear =>
    cases hok
    exact iff_of_true nofun trivial

section

variable {Rest Bytes : Type} [DecidableEq Rest] (format : Format Rest Bytes) (path : String)
  (customLists : Lens (Persister.Settings Rest) CustomListsSettings)

def KeepsBound (store : Store Rest Bytes) (input : Operation × Io) : Prop :=
  (customLists.get (perform format path customLists store input).2.settings).NamesBounded

/-- If the operation is accepted, it does not bring a name that is too long. -/
def SendsShortName (store : Store Rest Bytes) (input : Operation × Io) : Prop :=
  ∀ created, (perform format path customLists store input).1 = .ok created → input.1.NameBounded

variable {format path customLists}

/-- In a run no stored name is ever too long, exactly if no accepted update brings one. -/
theorem run_names_bounded_iff (history : List (Operation × Io))
    (store : Store Rest Bytes) :
    (system format path customLists).RunWhere
        (fun _ before input => KeepsBound format path customLists before input) history store ↔
      (system format path customLists).RunWhere
        (fun _ before input => SendsShortName format path customLists before input) history store := by
  refine TransitionSystem.runWhere_congr
    (I := fun _ store => (customLists.get store.settings).NamesBounded) ?_ ?_ ?_ history store
  · intro store hinit
    rw [show customLists.get store.settings = .default from hinit]
    exact nofun
  · rintro _ store ⟨operation, io⟩ _ hbounded -
    unfold KeepsBound SendsShortName
    rcases perform_cases format path customLists operation io store with
      ⟨error, after, heq, hsame⟩ | ⟨created, lists, after, heq, happly, hset⟩
    · rw [heq, hsame]
      exact iff_of_true hbounded nofun
    · rw [heq, hset, customLists.get_set, hbounded.apply_iff happly]
      exact ⟨fun hshort _ _ => hshort, fun hshort => hshort created rfl⟩
  · rintro _ store input _ - hkeeps ⟨⟩
    exact hkeeps

end

/-- A list is created with a short name and updated with one of 31 characters. -/
theorem update_stores_long_name :
    ∃ history store, Sample.system.Run history store ∧ ¬ store.settings.rest.NamesBounded := by
  have hrun := ((TransitionSystem.Run.init (S := Sample.system) (s := Sample.store) rfl).step
    (e := (.create 1 "Near" ∅, {})) rfl).step
    (e := (.update ⟨1, "A name of thirty-one characters", ∅⟩, {})) rfl
  refine ⟨_, _, hrun, fun hbounded => ?_⟩
  exact absurd (hbounded ⟨1, "A name of thirty-one characters", ∅⟩ (List.mem_singleton.mpr rfl)) (by decide)

end MullvadVpn.CustomLists
