import MullvadVpn.Settings.AccessMethods
import MullvadVpn.Systems.Cycle

/-!
The actor that selects the method of access to the API (`mullvad-api/src/access_mode.rs`). It refers to the
current method by its place among the methods, and the place is found again whenever the methods change. The
feature `api-override` is off.
-/

namespace MullvadVpn.AccessMethods

open Systems List

inductive ApiConnectionMode (Proxy : Type) where
  | direct
  | proxied (config : Proxy)

structure ResolvedConnectionMode (Endpoint Proxy : Type) where
  connectionMode : ApiConnectionMode Proxy
  endpoint : Endpoint
  setting : AccessMethodSetting

structure AccessMethodResolver (Endpoint Proxy : Type) where
  resolveAccessMethodSetting : AccessMethod → Option (Endpoint × ApiConnectionMode Proxy)
  defaultConnectionMode : Endpoint

/-- The selector with what it has announced to the daemon and to the REST client, the last first. -/
structure Selector (Endpoint Proxy : Type) where
  accessMethodSettings : Settings
  current : ResolvedConnectionMode Endpoint Proxy
  index : Nat
  announced : List (ResolvedConnectionMode Endpoint Proxy)

/-- `cycle`, `skip` and `take` of the number of methods give one round from `start` on. -/
def findNextActive (start : Nat) (accessMethods : Settings) : Nat × AccessMethodSetting :=
  match (accessMethods.iter.zipIdx.rotate start).find? (·.1.enabled) with
  | some (accessMethod, index) => (index, accessMethod)
  | none => (0, accessMethods.direct)

inductive Message where
  | use (id : Id)
  | rotate
  | update (accessMethods : Settings)

variable {Endpoint Proxy : Type} (resolver : AccessMethodResolver Endpoint Proxy)

def AccessMethodResolver.resolveWithDefault (methodSetting : AccessMethodSetting) :
    ResolvedConnectionMode Endpoint Proxy :=
  let (endpoint, connectionMode) :=
    (resolver.resolveAccessMethodSetting methodSetting.accessMethod).getD
      (resolver.defaultConnectionMode, .direct)
  { connectionMode, endpoint, setting := methodSetting }

namespace Selector

def spawn (accessMethodSettings : Settings) : Selector Endpoint Proxy :=
  let (index, next) := findNextActive 0 accessMethodSettings
  let current := resolver.resolveWithDefault next
  { accessMethodSettings, current, index, announced := [current] }

variable (self : Selector Endpoint Proxy)

def setCurrent (accessMethod : AccessMethodSetting) : Selector Endpoint Proxy :=
  let resolved := resolver.resolveWithDefault accessMethod
  { self with current := resolved, announced := resolved :: self.announced }

def useAccessMethod (id : Id) : Selector Endpoint Proxy :=
  match self.accessMethodSettings.iter.findFinIdx? (·.id == id) with
  | some index =>
    setCurrent resolver { self with index } (self.accessMethodSettings.iter.get index)
  | none => self

def nextConnectionMode : Selector Endpoint Proxy :=
  let (index, next) := findNextActive (self.index + 1) self.accessMethodSettings
  setCurrent resolver { self with index } next

def updateAccessMethods (accessMethods : Settings) : Selector Endpoint Proxy :=
  match accessMethods.iter.findFinIdx? (·.id == self.current.setting.id) with
  | some index =>
    let self := { self with accessMethodSettings := accessMethods, index }
    let newCurrent := accessMethods.iter.get index
    if self.current.setting ≠ newCurrent then
      if newCurrent.enabled then setCurrent resolver self newCurrent
      else nextConnectionMode resolver self
    else self
  -- The method at the place of the one that was removed is still a candidate.
  | none =>
    nextConnectionMode resolver { self with accessMethodSettings := accessMethods, index := self.index - 1 }

def handle : Message → Selector Endpoint Proxy
  | .use id => useAccessMethod resolver self id
  | .rotate => nextConnectionMode resolver self
  | .update accessMethods => updateAccessMethods resolver self accessMethods

end Selector

namespace Sample

def unresolved : AccessMethodResolver Unit Unit := ⟨fun _ => none, ()⟩

def selector : Selector Unit Unit := .spawn unresolved (.default 1 2 3)

end Sample

namespace Selector

/-- The selector uses the method at its place, which is enabled and was announced last. -/
structure Valid (selector : Selector Endpoint Proxy) : Prop where
  at_index : selector.accessMethodSettings.iter[selector.index]? = some selector.current.setting
  enabled : selector.current.setting.enabled
  announced : selector.announced.head? = some selector.current

end Selector

theorem findNextActive_spec {accessMethods} (h : ∃ method ∈ accessMethods.iter, method.enabled)
    (start : Nat) :
    accessMethods.iter[(findNextActive start accessMethods).1]? = some (findNextActive start accessMethods).2 ∧
      (findNextActive start accessMethods).2.enabled ∧
      (accessMethods.iter.zipIdx.rotate start).find? (·.1.enabled) =
        some (findNextActive start accessMethods).swap := by
  unfold findNextActive
  cases hfind : (accessMethods.iter.zipIdx.rotate start).find? (·.1.enabled) with
  | some next =>
    obtain ⟨hnext, passed, rest, hsplit, -⟩ := find?_eq_some_iff_append.mp hfind
    exact ⟨(rotate_zipIdx hsplit).1, hnext, rfl⟩
  | none =>
    obtain ⟨method, hmem, henabled⟩ := h
    obtain ⟨i, hi⟩ := getElem?_of_mem hmem
    have hround : (method, i) ∈ accessMethods.iter.zipIdx.rotate start :=
      mem_rotate.mpr (mk_mem_zipIdx_iff_getElem?.mpr hi)
    exact absurd henabled (find?_eq_none.mp hfind _ hround)

namespace Selector

variable {resolver} {selector : Selector Endpoint Proxy}

theorem valid_setCurrent {accessMethod}
    (hindex : selector.accessMethodSettings.iter[selector.index]? = some accessMethod)
    (henabled : accessMethod.enabled) : (setCurrent resolver selector accessMethod).Valid :=
  ⟨hindex, henabled, rfl⟩

theorem valid_nextConnectionMode (h : ∃ method ∈ selector.accessMethodSettings.iter, method.enabled) :
    (nextConnectionMode resolver selector).Valid :=
  have hnext := findNextActive_spec h (selector.index + 1)
  valid_setCurrent hnext.1 hnext.2.1

/-- The methods of a settings value are not all disabled, and a method that is to be used is enabled. -/
def Admissible (selector : Selector Endpoint Proxy) : Message → Prop
  | .use id => ∀ method, selector.accessMethodSettings.iter.find? (·.id == id) = some method → method.enabled
  | .rotate => True
  | .update accessMethods => ∃ method ∈ accessMethods.iter, method.enabled

theorem valid_handle (h : selector.Valid) {message} (hmessage : selector.Admissible message) :
    (handle resolver selector message).Valid := by
  cases message with
  | use id =>
    simp only [handle, useAccessMethod]
    split
    next index hfind =>
      obtain ⟨hid, hfirst⟩ := findFinIdx?_eq_some_iff.mp hfind
      refine valid_setCurrent (by simp) (hmessage _ (find?_eq_some_iff_getElem.mpr ?_))
      exact ⟨hid, index, index.isLt, rfl, fun j hj => by simpa using hfirst ⟨j, hj.trans index.isLt⟩ hj⟩
    next => exact h
  | rotate => exact valid_nextConnectionMode ⟨_, mem_of_getElem? h.at_index, h.enabled⟩
  | update accessMethods =>
    simp only [handle, updateAccessMethods]
    split
    next index hfind =>
      split_ifs with hchanged henabled
      · exact valid_setCurrent (by simp) henabled
      · exact valid_nextConnectionMode hmessage
      · exact ⟨by simp [not_not.mp hchanged], h.enabled, h.announced⟩
    next => exact valid_nextConnectionMode hmessage

/-- The selector from its start on. With each message come the answers of the resolver. -/
def system : TransitionSystem (Selector Endpoint Proxy) (Message × AccessMethodResolver Endpoint Proxy) where
  Init selector := ∃ resolver accessMethods, (∃ method ∈ accessMethods.iter, method.enabled) ∧
    selector = spawn resolver accessMethods
  step selector input := some (handle input.2 selector input.1)

/-- After all messages, whatever the resolver answers. -/
theorem run_valid {history : List (Message × AccessMethodResolver Endpoint Proxy)}
    (hrun : system.RunWhere (fun _ selector input => selector.Admissible input.1) history selector) :
    selector.accessMethodSettings.iter[selector.index]? = some selector.current.setting ∧
      selector.current.setting.enabled ∧ selector.announced.head? = some selector.current := by
  have hvalid : selector.Valid := by
    refine hrun.invariant (I := fun _ selector => selector.Valid) ?_ ?_
    · rintro _ ⟨resolver, accessMethods, henabled, rfl⟩
      have hnext := findNextActive_spec henabled 0
      exact ⟨hnext.1, hnext.2.1, rfl⟩
    · rintro _ _ _ _ _ hmessage h ⟨⟩
      exact valid_handle h hmessage
  exact ⟨hvalid.at_index, hvalid.enabled, hvalid.announced⟩

/-- A rotation, the choice of the second method, and an update that disables it. -/
theorem run_valid_update :
    let settings : Settings := { Sample.selector.accessMethodSettings with mullvadBridges :=
      { Sample.selector.accessMethodSettings.mullvadBridges with enabled := false } }
    ∃ selector, system.exec Sample.selector [(.rotate, Sample.unresolved), (.use 2, Sample.unresolved),
      (.update settings, Sample.unresolved)] = some selector ∧ selector.current.setting.enabled := by
  intro settings
  have hrotated : system.RunWhere (fun _ selector input => selector.Admissible input.1)
      [(Message.rotate, Sample.unresolved)] (nextConnectionMode Sample.unresolved Sample.selector) :=
    .step (.init ⟨_, _, by decide, rfl⟩) trivial rfl
  have hused := hrotated.step (e := (Message.use 2, Sample.unresolved)) (fun _ h => by cases h; rfl) rfl
  have hupdated := hused.step (e := (Message.update settings, Sample.unresolved))
    ⟨settings.direct, mem_cons_self, rfl⟩ rfl
  exact ⟨_, rfl, (run_valid hupdated).2.1⟩

/-- The methods that rotations make the current ones, each with its place, given the resolver's answers for
each rotation. -/
def visited : List (AccessMethodResolver Endpoint Proxy) → Selector Endpoint Proxy →
    List (AccessMethodSetting × Nat)
  | [], _ => []
  | resolver :: resolvers, selector =>
    let selector := nextConnectionMode resolver selector
    (selector.current.setting, selector.index) :: visited resolvers selector

/-- The enabled methods with their places, in the order of the settings, from the one after the place of the
selector and round to it. -/
def round (selector : Selector Endpoint Proxy) : List (AccessMethodSetting × Nat) :=
  (selector.accessMethodSettings.iter.zipIdx.rotate (selector.index + 1)).filter (·.1.enabled)

theorem length_round (selector : Selector Endpoint Proxy) :
    selector.round.length = selector.accessMethodSettings.iter.countP (·.enabled) := by
  rw [round, ← countP_eq_length_filter, (rotate_perm _ _).countP_eq]
  conv_rhs => rw [← zipIdx_map_fst 0 selector.accessMethodSettings.iter, countP_map]
  rfl

theorem visited_eq_take (resolvers : List (AccessMethodResolver Endpoint Proxy))
    (selector : Selector Endpoint Proxy) (h : resolvers.length ≤ selector.round.length) :
    visited resolvers selector = selector.round.take resolvers.length := by
  induction resolvers generalizing selector with
  | nil => rfl
  | cons resolver resolvers ih =>
    obtain ⟨⟨method, place⟩, hmem⟩ := exists_mem_of_length_pos (Nat.zero_lt_of_lt h)
    obtain ⟨hround, henabled⟩ := mem_filter.mp hmem
    have hiter := mk_mem_zipIdx_iff_getElem?.mp (mem_rotate.mp hround)
    have hfind := (findNextActive_spec ⟨method, mem_of_getElem? hiter, henabled⟩ (selector.index + 1)).2.2
    obtain ⟨others, hnow, hnext⟩ := filter_rotate_zipIdx hfind
    have hself : selector.round = _ :: others := hnow
    have hafter : (nextConnectionMode resolver selector).round = others ++ _ := hnext
    rw [hself, length_cons, length_cons, Nat.add_le_add_iff_right] at h
    rw [hself, visited, ih _ (by rw [hafter, length_append]; omega), hafter,
      take_append_of_le_length h, length_cons, take_succ_cons]
    rfl

/-- As many rotations as there are enabled methods visit each of their places once, in cyclic order, and no
other, and end where they started unless that method is disabled. -/
theorem rotations_fair (selector : Selector Endpoint Proxy)
    {resolvers : List (AccessMethodResolver Endpoint Proxy)}
    (h : resolvers.length = selector.accessMethodSettings.iter.countP (·.enabled)) :
    visited resolvers selector =
        (selector.accessMethodSettings.iter.zipIdx.rotate (selector.index + 1)).filter (·.1.enabled) ∧
      ∀ method, selector.accessMethodSettings.iter[selector.index]? = some method → method.enabled →
        (visited resolvers selector).getLast? = some (method, selector.index) := by
  rw [← length_round] at h
  have hvisited : visited resolvers selector = selector.round := by
    rw [visited_eq_take resolvers selector h.le, h, take_length]
  refine ⟨hvisited, fun method hmethod henabled => ?_⟩
  obtain ⟨before, after, hsplit⟩ :=
    append_of_mem (mk_mem_zipIdx_iff_getElem?.mpr hmethod)
  rw [hvisited, round, (rotate_zipIdx ((rotate_zero _).trans hsplit)).2, ← append_assoc,
    filter_append, filter_cons_of_pos (by exact henabled), filter_nil,
    getLast?_concat]

theorem rotations_fair_default :
    (visited [Sample.unresolved, Sample.unresolved, Sample.unresolved] Sample.selector).map (·.2) =
      [1, 2, 0] := by
  rw [(rotations_fair Sample.selector (by decide)).1]
  decide

end Selector

end MullvadVpn.AccessMethods
