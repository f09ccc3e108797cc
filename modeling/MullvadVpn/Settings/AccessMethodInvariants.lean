import MullvadVpn.Settings.AccessMethods
import MullvadVpn.Systems.Keyed

/-!
What the operations on access methods keep. Some method is always enabled, and no two custom methods share
a name and no two methods an identifier. That each slot holds its own built-in method, and the list custom
methods only, is kept exactly as long as the methods that clients send are of the right kind.
-/

namespace MullvadVpn.AccessMethods

open Systems List
open Persister (Store Format Io)
open Fallible

variable {new : AccessMethodSetting}

namespace Settings

variable {settings settings' : Settings}

@[simp] theorem iter_setAt (settings : Settings) (index : Nat) (accessMethod : AccessMethodSetting) :
    (settings.setAt index accessMethod).iter = settings.iter.set index accessMethod := by
  rcases index with _ | _ | _ | index <;> rfl

theorem checkName_eq_ok {u : Unit} : settings.checkCustomAccessMethodNameIsUnique new = .ok u ↔
      ∀ method ∈ settings.custom, method.name = new.name → method.id = new.id := by
  rw [checkCustomAccessMethodNameIsUnique, ite_any_eq_ok]
  refine forall₂_congr fun method _ => ?_
  rw [Bool.and_eq_false_imp, bne_iff_ne, beq_eq_false_iff_ne]
  exact not_imp_not

@[simp] theorem custom_ensureConsistentState (settings : Settings) :
    settings.ensureConsistentState.custom = settings.custom := by
  unfold ensureConsistentState
  split <;> rfl

theorem map_iter_ensureConsistentState {κ : Type} (key : AccessMethodSetting → κ)
    (hkey : ∀ method, key method.enable = key method) (settings : Settings) :
    settings.ensureConsistentState.iter.map key = settings.iter.map key := by
  unfold ensureConsistentState
  split
  · simp [iter, hkey]
  · rfl

variable {predicate : AccessMethodSetting → Bool} {f : AccessMethodSetting → AccessMethodSetting}
  {updated : Bool}

theorem update_cases (h : settings.update predicate f = .ok (updated, settings')) :
    (∃ index method, settings.iter[index]? = some method ∧ predicate method = true ∧
      settings.checkCustomAccessMethodNameIsUnique (f method) = .ok () ∧
      settings' = (settings.setAt index (f method)).ensureConsistentState) ∨
    ((∀ method ∈ settings.iter, predicate method = false) ∧ settings' = settings.ensureConsistentState) := by
  unfold update at h
  cases hfind : settings.iter.findFinIdx? predicate with
  | none =>
    rw [hfind] at h
    cases h
    exact .inr ⟨by simpa using findFinIdx?_eq_none_iff.mp hfind, rfl⟩
  | some index =>
    rw [hfind] at h
    obtain ⟨⟨⟩, hcheck, hupdated⟩ := bind_eq_ok.mp h
    cases hupdated
    exact .inl ⟨index, settings.iter.get index, by simp, (findFinIdx?_eq_some_iff.mp hfind).1, hcheck, rfl⟩

theorem append_eq_ok : settings.append new = .ok settings' ↔
      settings.checkCustomAccessMethodNameIsUnique new = .ok () ∧
        settings' = { settings with custom := settings.custom ++ [new] } := by
  simp only [append, bind_eq_ok]
  constructor
  · rintro ⟨⟨⟩, hcheck, hsettings⟩
    cases hsettings
    exact ⟨hcheck, rfl⟩
  · rintro ⟨hcheck, rfl⟩
    exact ⟨(), hcheck, rfl⟩

variable {id : Id}

theorem remove_cases (h : settings.remove id = .ok settings') : settings' = settings ∨
      settings' = ensureConsistentState { settings with custom := settings.custom.filter (·.id != id) } := by
  unfold remove at h
  split at h
  · split at h
    · cases h
    · cases h
      exact .inr rfl
  · cases h
    exact .inl rfl

structure Consistent (settings : Settings) : Prop where
  enabled : ∃ method ∈ settings.iter, method.enabled = true
  names : (settings.custom.map (·.name)).Nodup
  ids : (settings.iter.map (·.id)).Nodup

theorem Consistent.ensureConsistentState (names : (settings.custom.map (·.name)).Nodup)
    (ids : (settings.iter.map (·.id)).Nodup) : settings.ensureConsistentState.Consistent where
  enabled := by
    unfold Settings.ensureConsistentState
    split
    · exact ⟨settings.direct.enable, by simp [iter], rfl⟩
    next hall => simpa [AccessMethodSetting.disabled] using hall
  names := by rwa [custom_ensureConsistentState]
  ids := by rwa [map_iter_ensureConsistentState (·.id) fun _ => rfl]

theorem consistent_default {direct mullvadBridges encryptedDnsProxy : Id}
    (h : [direct, mullvadBridges, encryptedDnsProxy].Nodup) :
    (default direct mullvadBridges encryptedDnsProxy).Consistent where
  enabled := ⟨createDirect direct, mem_cons_self .., rfl⟩
  names := nodup_nil
  ids := h

section

variable (h : settings.Consistent)

include h

theorem Consistent.append (hid : new.id ∉ settings.iter.map (·.id))
    (happend : settings.append new = .ok settings') : settings'.Consistent := by
  obtain ⟨hcheck, rfl⟩ := append_eq_ok.mp happend
  have hids : ∀ method ∈ settings.iter, method.id ≠ new.id :=
    fun method hmem heq => hid (mem_map.mpr ⟨method, hmem, heq⟩)
  refine ⟨?_, Keyed.nodup_map_append h.names fun method hmem hname => ?_, Keyed.nodup_map_append h.ids hids⟩
  · obtain ⟨method, hmem, henabled⟩ := h.enabled
    exact ⟨method, mem_append_left [new] hmem, henabled⟩
  · exact hids method (by simp [iter, hmem]) (checkName_eq_ok.mp hcheck method hmem hname)

/-- A part of the custom methods is left, and there may have to be another enabled method. -/
theorem Consistent.of_sublist {custom} (hsub : custom.Sublist settings.custom) :
    (Settings.ensureConsistentState { settings with custom }).Consistent :=
  .ensureConsistentState (Keyed.nodup_map_sublist hsub h.names)
    (Keyed.nodup_map_sublist (((hsub.cons_cons _).cons_cons _).cons_cons _) h.ids)

theorem Consistent.remove (hremove : settings.remove id = .ok settings') : settings'.Consistent := by
  rcases remove_cases hremove with rfl | rfl
  · exact h
  · exact h.of_sublist filter_sublist

theorem Consistent.update (hf : ∀ method, predicate method = true → (f method).id = method.id)
    (hupdate : settings.update predicate f = .ok (updated, settings')) : settings'.Consistent := by
  rcases update_cases hupdate with ⟨index, method, hget, hpredicate, hcheck, rfl⟩ | ⟨-, rfl⟩
  · have hid := hf method hpredicate
    refine .ensureConsistentState ?_ ?_
    · rcases index with _ | _ | _ | index
      · exact h.names
      · exact h.names
      · exact h.names
      · -- Another method of the same name would be the same method, at another place.
        refine Keyed.nodup_map_set h.names fun j other hne hother hname => hne ?_
        have hsame : other.id = method.id :=
          (checkName_eq_ok.mp hcheck other (mem_of_getElem? hother) hname).trans hid
        have hplace : settings.iter[j + 3]? = some other := hother
        exact Nat.add_right_cancel (Keyed.index_eq_of_key_eq h.ids hplace hget hsame)
    · rw [iter_setAt, Keyed.map_set_of_key_eq fun b hb => ?_]
      · exact h.ids
      · rw [hid, Option.some.inj (hb.symm.trans hget)]
  · exact .ensureConsistentState h.names h.ids

end

end Settings

def Operation.apply : Operation → Settings → Except Error Settings
  | add id name enabled accessMethod, settings => settings.append (.new id name enabled accessMethod)
  | remove accessMethod, settings => settings.remove accessMethod
  | use _ accessMethod, settings => (settings.update (·.id == accessMethod) (·.enable)).map (·.2)
  | update accessMethodUpdate, settings =>
    (settings.update (·.id == accessMethodUpdate.id) fun _ => accessMethodUpdate).map (·.2)
  | clear, settings => .ok settings.clearCustom

def Operation.Fresh (settings : Settings) : Operation → Prop
  | add id _ _ _ => id ∉ settings.iter.map (·.id)
  | _ => True

theorem Settings.Consistent.apply {settings settings' : Settings} (h : settings.Consistent)
    {operation : Operation} (hfresh : operation.Fresh settings)
    (hok : operation.apply settings = .ok settings') : settings'.Consistent := by
  cases operation with
  | add id name enabled accessMethod =>
    refine .append h ?_ hok
    exact hfresh
  | remove accessMethod => exact h.remove hok
  | use selector accessMethod =>
    obtain ⟨⟨changed, _⟩, hupdate, rfl⟩ := map_eq_ok.mp hok
    exact .update h (f := (·.enable)) (fun _ _ => rfl) hupdate
  | update accessMethodUpdate =>
    obtain ⟨⟨changed, _⟩, hupdate, rfl⟩ := map_eq_ok.mp hok
    exact h.update (fun method hid => (beq_iff_eq.mp hid).symm) hupdate
  | clear =>
    cases hok
    exact h.of_sublist (nil_sublist _)

section

variable {Rest Bytes : Type} [DecidableEq Rest] {format : Format Rest Bytes} {path : String}
  {apiAccessMethods : Lens (Persister.Settings Rest) Settings} {operation : Operation}
  {io : Io} {response : Response} {store after : Store Rest Bytes}

theorem AccessModeSelector.onUseAccessMethod_ok (selector : AccessModeSelector) (id : Id) :
    ∃ after, selector.onUseAccessMethod id = (.ok (), after) := by
  unfold onUseAccessMethod
  split <;> exact ⟨_, rfl⟩

/-- An operation that returns an error leaves all settings as they were. One that does not, changes the
methods only. -/
theorem perform_cases
    (h : perform format path apiAccessMethods store (operation, io) = some (response, after)) :
    operation.Fresh (apiAccessMethods.get store.settings) ∧
    ((response.isErr = true ∧ after.settings = store.settings) ∨
    (response.isErr = false ∧ ∃ settings, operation.apply (apiAccessMethods.get store.settings) = .ok settings ∧
        after.settings = apiAccessMethods.set settings store.settings)) := by
  cases operation with
  | add id name enabled accessMethod =>
    simp only [perform, addAccessMethod] at h
    split at h
    · cases h
    next hfresh =>
    refine ⟨hfresh, ?_⟩
    rcases store.tryUpdate_cases format path apiAccessMethods
      (fun settings => settings.append (.new id name enabled accessMethod)) io with
      ⟨error, after, heq, hsame⟩ | ⟨changed, settings, after, heq, happly, hset⟩ <;>
      rw [heq] at h <;> cases h
    · exact .inl ⟨rfl, hsame⟩
    · exact .inr ⟨rfl, settings, happly, hset⟩
  | remove accessMethod =>
    refine ⟨trivial, ?_⟩
    simp only [perform, removeAccessMethod] at h
    rcases store.tryUpdate_cases format path apiAccessMethods (fun settings =>
      (settings.remove accessMethod).mapError HandlerError.accessMethod) io with
      ⟨error, after, heq, hsame⟩ | ⟨changed, settings, after, heq, happly, hset⟩ <;>
      rw [heq] at h <;> cases h
    · exact .inl ⟨rfl, hsame⟩
    · exact .inr ⟨rfl, settings, mapError_eq_ok.mp happly, hset⟩
  | use selector accessMethod =>
    refine ⟨trivial, ?_⟩
    simp only [perform, useApiAccessMethod] at h
    rcases store.tryUpdate_cases format path apiAccessMethods (fun settings =>
      ((settings.update (·.id == accessMethod) (·.enable)).map (·.2)).mapError
        HandlerError.accessMethod) io with
      ⟨error, after, heq, hsame⟩ | ⟨changed, settings, after, heq, happly, hset⟩
    · rw [heq] at h
      cases h
      exact .inl ⟨rfl, hsame⟩
    · obtain ⟨_, hreply⟩ := selector.onUseAccessMethod_ok accessMethod
      rw [heq, hreply] at h
      cases h
      exact .inr ⟨rfl, settings, mapError_eq_ok.mp happly, hset⟩
  | update accessMethodUpdate =>
    refine ⟨trivial, ?_⟩
    simp only [perform, updateAccessMethod] at h
    rcases store.tryUpdate_cases format path apiAccessMethods (fun settings =>
      (settings.update (·.id == accessMethodUpdate.id) fun _ => accessMethodUpdate).map (·.2)) io with
      ⟨error, after, heq, hsame⟩ | ⟨changed, settings, after, heq, happly, hset⟩ <;>
      rw [heq] at h <;> cases h
    · exact .inl ⟨rfl, hsame⟩
    · exact .inr ⟨rfl, settings, happly, hset⟩
  | clear =>
    refine ⟨trivial, ?_⟩
    simp only [perform, clearCustomApiAccessMethods] at h
    rcases store.update_cases (E := HandlerError) format path apiAccessMethods (·.clearCustom) io with
      ⟨error, after, heq, hsame⟩ | ⟨changed, after, heq, hset⟩ <;>
      rw [heq] at h <;> cases h
    · exact .inl ⟨rfl, hsame⟩
    · exact .inr ⟨rfl, _, rfl, hset⟩

theorem consistent_perform (hconsistent : (apiAccessMethods.get store.settings).Consistent) {input}
    (hperform : perform format path apiAccessMethods store input = some (response, after)) :
    (apiAccessMethods.get after.settings).Consistent := by
  obtain ⟨operation, io⟩ := input
  obtain ⟨hfresh, ⟨-, hsame⟩ | ⟨-, settings, happly, hset⟩⟩ := perform_cases hperform
  · rw [hsame]
    exact hconsistent
  · rw [hset, apiAccessMethods.get_set]
    exact hconsistent.apply hfresh happly

/-- In every run some method is enabled, the custom methods have distinct names and all methods distinct
identifiers, and an operation that returns an error leaves the methods as they were. -/
theorem run_consistent {history : List (Operation × Io)}
    (hrun : (system format path apiAccessMethods).Run history store) :
    (apiAccessMethods.get store.settings).Consistent ∧
      ∀ input response after, perform format path apiAccessMethods store input = some (response, after) →
        response.isErr = true → apiAccessMethods.get after.settings = apiAccessMethods.get store.settings := by
  constructor
  · refine TransitionSystem.Run.invariant
      (I := fun _ store => (apiAccessMethods.get store.settings).Consistent) ?_ ?_ hrun
    · rintro store ⟨direct, mullvadBridges, encryptedDnsProxy, hnodup, hdefault⟩
      rw [hdefault]
      exact Settings.consistent_default hnodup
    · intro _ store input after _ hconsistent hstep
      obtain ⟨⟨response, _⟩, hperform, rfl⟩ := Option.map_eq_some_iff.mp hstep
      exact consistent_perform hconsistent hperform
  · rintro ⟨operation, io⟩ response after hperform herr
    obtain ⟨-, ⟨-, hsame⟩ | ⟨hok, -⟩⟩ := perform_cases hperform
    · rw [hsame]
    · rw [hok] at herr
      cases herr

end

namespace Sample

def defaults : Settings := .default 1 2 3

def store : Store Settings (Persister.Settings Settings) := Persister.Sample.store defaults

/-- The settings hold nothing but the methods, and every call is answered well. -/
def system : TransitionSystem (Store Settings (Persister.Settings Settings))
    (Operation × Io) :=
  AccessMethods.system (Persister.Sample.plain defaults) "settings.json" Persister.Sample.field

theorem init_store : system.Init store := ⟨1, 2, 3, by decide, rfl⟩

end Sample

/-- All built-in methods are disabled, the direct one last: it is enabled again. -/
theorem run_consistent_disabling :
    ∃ history store, Sample.system.Run history store ∧
      history.length = 3 ∧ store.settings.rest.direct.enabled = true ∧ store.settings.rest.Consistent := by
  have hrun := ((TransitionSystem.Run.init Sample.init_store).step
    (e := (.update { Settings.createMullvadBridges 2 with enabled := false }, {})) rfl).step
    (e := (.update { Settings.createEncryptedDnsProxy 3 with enabled := false }, {})) rfl |>.step
    (e := (.update { Settings.createDirect 1 with enabled := false }, {})) rfl
  exact ⟨_, _, hrun, rfl, rfl, (run_consistent hrun).1⟩

/-- The kind of method at an index: the three built-in ones, then custom ones. -/
def Fits : Nat → AccessMethod → Prop
  | 0, accessMethod => accessMethod = .builtIn .direct
  | 1, accessMethod => accessMethod = .builtIn .bridge
  | 2, accessMethod => accessMethod = .builtIn .encryptedDnsProxy
  | _ + 3, accessMethod => ∃ proxy, accessMethod = .custom proxy

namespace Settings

/-- Every slot holds its own built-in method, and the list custom ones, each of which can be removed. -/
structure KeepsBuiltIns (settings : Settings) : Prop where
  direct : settings.direct.accessMethod = .builtIn .direct
  mullvadBridges : settings.mullvadBridges.accessMethod = .builtIn .bridge
  encryptedDnsProxy : settings.encryptedDnsProxy.accessMethod = .builtIn .encryptedDnsProxy
  custom : ∀ method ∈ settings.custom, ∃ proxy, method.accessMethod = .custom proxy
  removable : ∀ method ∈ settings.custom, ∃ left, settings.remove method.id = .ok left ∧
    ∀ other ∈ left.custom, other.id ≠ method.id

variable {settings : Settings} {method : AccessMethodSetting}

theorem remove_of_custom (h : ∀ method ∈ settings.custom, ∃ proxy, method.accessMethod = .custom proxy)
    (hmem : method ∈ settings.custom) :
    ∃ left, settings.remove method.id = .ok left ∧ ∀ other ∈ left.custom, other.id ≠ method.id := by
  unfold remove
  cases hfind : settings.custom.find? (·.id == method.id) with
  | none => simpa using find?_eq_none.mp hfind method hmem
  | some setting =>
    obtain ⟨proxy, hproxy⟩ := h setting (mem_of_find?_eq_some hfind)
    refine ⟨_, by simp only [hproxy]; rfl, fun other hother => ?_⟩
    rw [custom_ensureConsistentState] at hother
    simpa using (mem_filter.mp hother).2

theorem keepsBuiltIns_iff : settings.KeepsBuiltIns ↔ ∀ index accessMethod,
      (settings.iter.map (·.accessMethod))[index]? = some accessMethod → Fits index accessMethod := by
  simp only [getElem?_map, Option.map_eq_some_iff]
  constructor
  · rintro h (_ | _ | _ | index) _ ⟨method, hget, rfl⟩
    · cases hget
      exact h.direct
    · cases hget
      exact h.mullvadBridges
    · cases hget
      exact h.encryptedDnsProxy
    · exact h.custom method (mem_of_getElem? (i := index) hget)
  · intro h
    have hcustom : ∀ method ∈ settings.custom, ∃ proxy, method.accessMethod = .custom proxy := by
      intro method hmem
      obtain ⟨index, hget⟩ := getElem?_of_mem hmem
      exact h (index + 3) _ ⟨method, hget, rfl⟩
    exact ⟨h 0 _ ⟨_, rfl, rfl⟩, h 1 _ ⟨_, rfl, rfl⟩, h 2 _ ⟨_, rfl, rfl⟩, hcustom,
      fun method => remove_of_custom hcustom⟩

theorem keepsBuiltIns_ensureConsistentState :
    settings.ensureConsistentState.KeepsBuiltIns ↔ settings.KeepsBuiltIns := by
  rw [keepsBuiltIns_iff, keepsBuiltIns_iff, map_iter_ensureConsistentState (·.accessMethod) fun _ => rfl]

theorem KeepsBuiltIns.setAt_iff (h : settings.KeepsBuiltIns) {index : Nat}
    (hget : settings.iter[index]? = some method) :
    (settings.setAt index new).KeepsBuiltIns ↔ Fits index new.accessMethod := by
  have hlt := (List.getElem?_eq_some_iff.mp hget).1
  rw [keepsBuiltIns_iff, iter_setAt, map_set]
  constructor
  · intro hset
    exact hset index _ (by simp [hlt])
  · intro hfits j accessMethod hj
    rw [getElem?_set] at hj
    split at hj
    next heq =>
      subst heq
      rw [if_pos (by simpa using hlt)] at hj
      cases hj
      exact hfits
    next => exact keepsBuiltIns_iff.mp h j accessMethod hj

theorem KeepsBuiltIns.of_subset (h : settings.KeepsBuiltIns) {custom}
    (hsub : custom ⊆ settings.custom) : KeepsBuiltIns { settings with custom } :=
  have hcustom : ∀ method ∈ custom, ∃ proxy, method.accessMethod = .custom proxy :=
    fun method hmem => h.custom method (hsub hmem)
  ⟨h.direct, h.mullvadBridges, h.encryptedDnsProxy, hcustom, fun _ => remove_of_custom hcustom⟩

theorem KeepsBuiltIns.append_iff (h : settings.KeepsBuiltIns) :
    KeepsBuiltIns { settings with custom := settings.custom ++ [new] } ↔
      ∃ proxy, new.accessMethod = .custom proxy := by
  constructor
  · intro happended
    exact happended.custom new (by simp)
  · intro hnew
    have hcustom : ∀ method ∈ settings.custom ++ [new], ∃ proxy, method.accessMethod = .custom proxy := by
      intro method hmem
      rcases mem_append.mp hmem with hmem | hmem
      · exact h.custom method hmem
      · rw [mem_singleton.mp hmem]
        exact hnew
    exact ⟨h.direct, h.mullvadBridges, h.encryptedDnsProxy, hcustom, fun _ => remove_of_custom hcustom⟩

end Settings

/-- The method that a client sends is of the kind of its place: a custom one if it is added, and one like
the method that it replaces if it is updated. -/
def Operation.OfRightKind (settings : Settings) : Operation → Prop
  | add _ _ _ accessMethod => ∃ proxy, accessMethod = .custom proxy
  | update accessMethodUpdate => ∀ index method, settings.iter[index]? = some method →
      method.id = accessMethodUpdate.id → Fits index accessMethodUpdate.accessMethod
  | _ => True

theorem Settings.KeepsBuiltIns.apply_iff {settings settings' : Settings} (h : settings.KeepsBuiltIns)
    (hconsistent : settings.Consistent) {operation : Operation}
    (hok : operation.apply settings = .ok settings') :
    settings'.KeepsBuiltIns ↔ operation.OfRightKind settings := by
  cases operation with
  | add id name enabled accessMethod =>
    obtain ⟨-, rfl⟩ := append_eq_ok.mp hok
    exact h.append_iff
  | remove accessMethod =>
    refine iff_of_true ?_ trivial
    rcases remove_cases hok with rfl | rfl
    · exact h
    · exact keepsBuiltIns_ensureConsistentState.mpr (h.of_subset (filter_subset_self _))
  | use selector accessMethod =>
    refine iff_of_true ?_ trivial
    obtain ⟨⟨changed, _⟩, hupdate, rfl⟩ := map_eq_ok.mp hok
    rcases update_cases hupdate with ⟨index, method, hget, -, -, rfl⟩ | ⟨-, rfl⟩
    · rw [keepsBuiltIns_ensureConsistentState, h.setAt_iff hget]
      exact keepsBuiltIns_iff.mp h index method.accessMethod (by simp [hget])
    · exact keepsBuiltIns_ensureConsistentState.mpr h
  | update accessMethodUpdate =>
    obtain ⟨⟨changed, _⟩, hupdate, rfl⟩ := map_eq_ok.mp hok
    rcases update_cases hupdate with ⟨index, method, hget, hid, -, rfl⟩ | ⟨hnone, rfl⟩
    · rw [keepsBuiltIns_ensureConsistentState, h.setAt_iff hget]
      constructor
      · intro hfits j other hother hsame
        -- Only one place has the identifier.
        have hid' : other.id = method.id := hsame.trans (beq_iff_eq.mp hid).symm
        rw [Keyed.index_eq_of_key_eq hconsistent.ids hother hget hid']
        exact hfits
      · intro hkind
        exact hkind index method hget (beq_iff_eq.mp hid)
    · refine iff_of_true (keepsBuiltIns_ensureConsistentState.mpr h) fun index method hget hid => ?_
      have hother := hnone method (mem_of_getElem? hget)
      rw [hid, beq_self_eq_true] at hother
      cases hother
  | clear =>
    cases hok
    exact iff_of_true (keepsBuiltIns_ensureConsistentState.mpr (h.of_subset (nil_subset _))) trivial

section

variable {Rest Bytes : Type} [DecidableEq Rest] (format : Format Rest Bytes) (path : String)
  (apiAccessMethods : Lens (Persister.Settings Rest) Settings)

def KeepsBuiltIns (store : Store Rest Bytes) (input : Operation × Io) : Prop :=
  ∀ response after, perform format path apiAccessMethods store input = some (response, after) →
    (apiAccessMethods.get after.settings).KeepsBuiltIns

/-- If the operation is accepted, its method is of the right kind. -/
def SendsRightKind (store : Store Rest Bytes) (input : Operation × Io) : Prop :=
  ∀ response after, perform format path apiAccessMethods store input = some (response, after) →
    response.isErr = false → input.1.OfRightKind (apiAccessMethods.get store.settings)

variable {format path apiAccessMethods} {store after : Store Rest Bytes}
  {input : Operation × Io} {response : Response}

theorem keepsBuiltIns_iff_sendsRightKind (hconsistent : (apiAccessMethods.get store.settings).Consistent)
    (hkept : (apiAccessMethods.get store.settings).KeepsBuiltIns)
    (hperform : perform format path apiAccessMethods store input = some (response, after)) :
    KeepsBuiltIns format path apiAccessMethods store input ↔
      SendsRightKind format path apiAccessMethods store input := by
  obtain ⟨operation, io⟩ := input
  have hkeeps : KeepsBuiltIns format path apiAccessMethods store (operation, io) ↔
      (apiAccessMethods.get after.settings).KeepsBuiltIns := by
    simp [KeepsBuiltIns, hperform]
  have hsends : SendsRightKind format path apiAccessMethods store (operation, io) ↔
      (response.isErr = false → operation.OfRightKind (apiAccessMethods.get store.settings)) := by
    simp [SendsRightKind, hperform]
  rw [hkeeps, hsends]
  obtain ⟨-, ⟨herr, hsame⟩ | ⟨hok, settings, happly, hset⟩⟩ := perform_cases hperform
  · rw [hsame, herr]
    exact iff_of_true hkept nofun
  · rw [hset, apiAccessMethods.get_set, hkept.apply_iff hconsistent happly]
    exact ⟨fun hkind _ => hkind, fun hkind => hkind hok⟩

/-- In a run the built-in methods are in their slots and the custom ones in the list after each operation,
exactly if each accepted operation sends a method of the right kind. -/
theorem run_keepsBuiltIns_iff (history : List (Operation × Io))
    (store : Store Rest Bytes) :
    (system format path apiAccessMethods).RunWhere
        (fun _ before input => KeepsBuiltIns format path apiAccessMethods before input) history store ↔
      (system format path apiAccessMethods).RunWhere
        (fun _ before input => SendsRightKind format path apiAccessMethods before input) history store := by
  refine TransitionSystem.runWhere_congr (I := fun _ store =>
    (apiAccessMethods.get store.settings).Consistent ∧
      (apiAccessMethods.get store.settings).KeepsBuiltIns) ?_ ?_ ?_ history store
  · rintro store ⟨direct, mullvadBridges, encryptedDnsProxy, hnodup, hdefault⟩
    rw [hdefault]
    exact ⟨Settings.consistent_default hnodup, rfl, rfl, rfl, nofun, nofun⟩
  · rintro _ store input after ⟨hconsistent, hkept⟩ hstep
    obtain ⟨⟨response, _⟩, hperform, rfl⟩ := Option.map_eq_some_iff.mp hstep
    exact keepsBuiltIns_iff_sendsRightKind hconsistent hkept hperform
  · rintro _ store input after ⟨hconsistent, -⟩ hkeeps hstep
    obtain ⟨⟨response, _⟩, hperform, rfl⟩ := Option.map_eq_some_iff.mp hstep
    exact ⟨consistent_perform hconsistent hperform, hkeeps response _ hperform⟩

end

/-- An update with the identifier of the direct method puts the bridges into its slot, and a built-in
method that is added as a custom one cannot be removed. -/
theorem builtIns_not_kept :
    ∃ history store, Sample.system.Run history store ∧
      store.settings.rest.direct.accessMethod = .builtIn .bridge ∧
      ∃ method ∈ store.settings.rest.custom,
        store.settings.rest.remove method.id = .error (.removeBuiltin .direct) := by
  have hrun := ((TransitionSystem.Run.init Sample.init_store).step
    (e := (.update (.new 1 "Direct" true (.builtIn .bridge)), {})) rfl).step
    (e := (.add 4 "Mine" true (.builtIn .direct), {})) rfl
  exact ⟨_, _, hrun, rfl, .new 4 "Mine" true (.builtIn .direct), mem_singleton.mpr rfl, rfl⟩

end MullvadVpn.AccessMethods
