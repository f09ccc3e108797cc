import MullvadVpn.EncryptedDns.Forwarder

/-!
The cache of proxy configurations (`mullvad-encrypted-dns-proxy/src/state.rs`). Each call returns one that
has not been tried, and an obfuscated one if there is any, until all have been tried and the enumeration
restarts. A set is the list of its members in the order in which it is iterated, which is arbitrary.
-/

namespace MullvadVpn.EncryptedDns

deriving instance DecidableEq for XorKey

inductive ObfuscationConfig where
  | xorV2 (key : XorKey)
  deriving DecidableEq

structure ProxyConfig where
  addr : BitVec 32 × BitVec 16
  obfuscation : Option ObfuscationConfig
  deriving DecidableEq

structure EncryptedDnsProxyState where
  configurations : List ProxyConfig
  nodup : configurations.Nodup
  triedConfigurations : List ProxyConfig

namespace EncryptedDnsProxyState

/-- The difference between all and the tried configurations. -/
def difference (self : EncryptedDnsProxyState) : List ProxyConfig :=
  self.configurations.filter (· ∉ self.triedConfigurations)

def shouldReset (self : EncryptedDnsProxyState) : Bool :=
  self.difference.length == 0

def reset (self : EncryptedDnsProxyState) : EncryptedDnsProxyState :=
  { self with triedConfigurations := [] }

/-- The state in which a configuration is picked. -/
def restarted (self : EncryptedDnsProxyState) : EncryptedDnsProxyState :=
  if self.shouldReset then self.reset else self

def insert (self : EncryptedDnsProxyState) (config : ProxyConfig) : EncryptedDnsProxyState :=
  { self with triedConfigurations := config :: self.triedConfigurations }

def nextConfiguration (self : EncryptedDnsProxyState) : Option ProxyConfig × EncryptedDnsProxyState :=
  match self.restarted.difference with
  | [] => (none, self.restarted)
  | firstConfig :: difference =>
    let obfuscatedConfig := difference.find? fun config => config.obfuscation.isSome
    let selectedConfig := obfuscatedConfig.getD firstConfig
    (some selectedConfig, self.restarted.insert selectedConfig)

/-- A fetch fails only if there is nothing to fall back to. -/
def fetchConfigs (self : EncryptedDnsProxyState) :
    Option { newConfigs : List ProxyConfig // newConfigs.Nodup } → Except Unit Unit × EncryptedDnsProxyState
  | some newConfigs => (.ok (), { self with configurations := newConfigs, nodup := newConfigs.2 })
  | none => (if self.configurations = [] then .error () else .ok (), self)

/-- What fetches and calls lead to, with what has been returned since the last restart. -/
inductive Run : EncryptedDnsProxyState → List ProxyConfig → Prop
  | new : Run ⟨[], .nil, []⟩ []
  | fetch {self : EncryptedDnsProxyState} {returned : List ProxyConfig}
      (fetched : Option { newConfigs : List ProxyConfig // newConfigs.Nodup }) :
      Run self returned → Run (self.fetchConfigs fetched).2 returned
  | next {self returned} : Run self returned → Run self.nextConfiguration.2
        (self.nextConfiguration.1.toList ++ if self.shouldReset then [] else returned)

/-- What calls in a row return. -/
def nextConfigurations (self : EncryptedDnsProxyState) : Nat → List (Option ProxyConfig)
  | 0 => []
  | n + 1 => self.nextConfiguration.1 :: self.nextConfiguration.2.nextConfigurations n

variable {self : EncryptedDnsProxyState} {returned : List ProxyConfig}

theorem shouldReset_iff : self.shouldReset = true ↔ self.difference = [] := by
  rw [shouldReset, beq_iff_eq, List.length_eq_zero_iff]

theorem restarted_configurations : self.restarted.configurations = self.configurations := by
  unfold restarted
  split_ifs <;> rfl

theorem restarted_restarted : self.restarted.restarted = self.restarted := by
  unfold restarted
  split_ifs <;> rfl

theorem mem_difference {config : ProxyConfig} :
    config ∈ self.difference ↔ config ∈ self.configurations ∧ config ∉ self.triedConfigurations := by
  simp [difference]

/-- A call picks one of the untried configurations, and an obfuscated one if there is any. -/
theorem nextConfiguration_cases (self : EncryptedDnsProxyState) :
    (self.configurations = [] ∧ self.nextConfiguration = (none, self.restarted)) ∨
    ∃ config ∈ self.restarted.difference,
      (config.obfuscation = none → ∀ other ∈ self.restarted.difference, other.obfuscation = none) ∧
      self.nextConfiguration = (some config, self.restarted.insert config) := by
  unfold nextConfiguration
  cases hdifference : self.restarted.difference with
  | nil =>
    refine .inl ⟨?_, rfl⟩
    unfold restarted at hdifference
    split_ifs at hdifference with hreset
    · simpa [difference, reset] using hdifference
    · exact absurd (shouldReset_iff.mpr hdifference) hreset
  | cons first difference =>
    refine .inr ⟨_, ?_, fun hnone other hother => ?_, rfl⟩ <;>
      cases hfind : difference.find? fun config => config.obfuscation.isSome with
    | none => ?_
    | some config => ?_
    · exact List.mem_cons_self
    · exact List.mem_cons_of_mem _ (List.mem_of_find?_eq_some hfind)
    · rw [hfind] at hnone
      rcases List.mem_cons.mp hother with rfl | hrest
      · exact hnone
      · simpa using List.find?_eq_none.mp hfind other hrest
    · have hsome := List.find?_some hfind
      simp_all

theorem restarted_tried : self.restarted.triedConfigurations =
    if self.shouldReset then [] else self.triedConfigurations := by
  unfold restarted
  split_ifs <;> rfl

/-- The tried configurations are those that were returned since the last restart. -/
theorem Run.tried (h : Run self returned) : self.triedConfigurations = returned := by
  induction h with
  | new => rfl
  | fetch fetched _ ih => cases fetched <;> exact ih
  | @next self _ _ ih =>
    subst ih
    obtain ⟨-, hnext⟩ | ⟨config, -, -, hnext⟩ := nextConfiguration_cases self <;> rw [hnext]
    · exact restarted_tried
    · exact congrArg (config :: ·) restarted_tried

theorem difference_insert (config : ProxyConfig) :
    (self.insert config).difference = self.difference.erase config := by
  have hnodup : self.difference.Nodup := self.nodup.filter _
  rw [hnodup.erase_eq_filter]
  simp [difference, insert, List.filter_filter, bne, beq_eq_decide]

/-- The calls return each configuration once, and the obfuscated ones first. -/
def Enumerates (configurations : List ProxyConfig) (returns : List (Option ProxyConfig)) : Prop :=
  ∃ configs : List ProxyConfig, returns = configs.map some ∧ configs.Perm configurations ∧
    configs.Pairwise fun first later => first.obfuscation = none → later.obfuscation = none

theorem enumerates_difference {n : Nat} (h : self.difference.length = n) :
    Enumerates self.difference (self.nextConfigurations n) := by
  induction n generalizing self with
  | zero => exact ⟨[], rfl, by rw [List.length_eq_zero_iff.mp h], .nil⟩
  | succ n ih =>
    have hrestarted : self.restarted = self := if_neg (by simp [shouldReset, h])
    have hcases := self.nextConfiguration_cases
    rw [hrestarted] at hcases
    obtain ⟨hempty, -⟩ | ⟨config, hconfig, hplain, hnext⟩ := hcases
    · simp [difference, hempty] at h
    have hlength : (self.insert config).difference.length = n := by
      rw [difference_insert, List.length_erase_of_mem hconfig, h, Nat.add_sub_cancel]
    obtain ⟨configs, hconfigs, hperm, hpairwise⟩ := ih hlength
    rw [difference_insert] at hperm
    refine ⟨config :: configs, by rw [nextConfigurations, hnext, hconfigs, List.map_cons],
      (hperm.cons config).trans (List.perm_cons_erase hconfig).symm, ?_⟩
    refine List.pairwise_cons.mpr ⟨fun later hlater hnone => hplain hnone later ?_, hpairwise⟩
    exact List.mem_of_mem_erase (hperm.mem_iff.mp hlater)

/-- A call returns nothing only if there are no configurations. It returns one again only after all of them
have been returned, and one that is not obfuscated only after all obfuscated ones. -/
theorem nextConfiguration_enumerates (hrun : Run self returned) :
    let since := if self.shouldReset then [] else returned
    (self.nextConfiguration.1 = none ↔ self.configurations = []) ∧
    (∀ config, self.nextConfiguration.1 = some config → config ∈ self.configurations ∧
      (config ∈ returned → ∀ other ∈ self.configurations, other ∈ returned) ∧
      (config.obfuscation = none → ∀ other ∈ self.configurations, other.obfuscation ≠ none → other ∈ since)) ∧
    (since = [] → Enumerates self.configurations (self.nextConfigurations self.configurations.length)) := by
  obtain rfl := hrun.tried
  intro since
  have hmem {other : ProxyConfig} :
      other ∈ self.restarted.difference ↔ other ∈ self.configurations ∧ other ∉ since := by
    rw [mem_difference, restarted_configurations, restarted_tried]
  refine ⟨?_, fun config hconfig => ?_, fun hstart => ?_⟩
  · obtain ⟨hempty, hnext⟩ | ⟨config, hconfig, -, hnext⟩ := self.nextConfiguration_cases
    · simp [hnext, hempty]
    · simpa [hnext] using List.ne_nil_of_mem (hmem.mp hconfig).1
  · obtain ⟨-, hnext⟩ | ⟨_, hnew, hplain, hnext⟩ := self.nextConfiguration_cases <;>
      rw [hnext] at hconfig <;> cases hconfig
    obtain ⟨hconfig, hnew⟩ := hmem.mp hnew
    refine ⟨hconfig, fun hagain other hother => ?_, fun hnone other hother hsome => ?_⟩
    · by_cases hreset : self.shouldReset = true
      · by_contra hleft
        exact List.ne_nil_of_mem (mem_difference.mpr ⟨hother, hleft⟩) (shouldReset_iff.mp hreset)
      · exact absurd hagain (by simpa [since, hreset] using hnew)
    · by_contra hleft
      exact hsome (hplain hnone other (hmem.mpr ⟨hother, hleft⟩))
  · have hdifference : self.restarted.difference = self.configurations := by
      have htried : self.restarted.triedConfigurations = [] := restarted_tried.trans hstart
      simp [difference, htried, restarted_configurations]
    have hcalls (n) : self.nextConfigurations n = self.restarted.nextConfigurations n := by
      cases n <;> simp [nextConfigurations, nextConfiguration, restarted_restarted]
    rw [hcalls, ← hdifference]
    exact enumerates_difference rfl

/-- Two plain configurations and an obfuscated one. -/
def Sample.configs : List ProxyConfig :=
  [⟨(1, 443), none⟩, ⟨(2, 443), none⟩, ⟨(3, 443), some (.xorV2 ⟨[5, 7], by simp, by simp⟩)⟩]

/-- The configuration that is left after two calls has not been returned, and after three calls all are
returned again. -/
theorem enumerates_obfuscated_first :
    let fetched := (fetchConfigs ⟨[], .nil, []⟩ (some ⟨Sample.configs, by decide +kernel⟩)).2
    let self := fetched.nextConfiguration.2.nextConfiguration.2
    (∀ config, self.nextConfiguration.1 = some config → config ∉ self.triedConfigurations) ∧
      Enumerates Sample.configs (self.nextConfiguration.2.nextConfigurations Sample.configs.length) := by
  intro fetched self
  have hrun : Run self _ := .next (.next (.fetch _ .new))
  have hconfigs : self.nextConfiguration.2.configurations = Sample.configs := by decide +kernel
  have hall := (nextConfiguration_enumerates hrun.next).2.2 (by decide +kernel)
  rw [hconfigs] at hall
  refine ⟨fun config hconfig hagain => ?_, hall⟩
  have hreturned := ((nextConfiguration_enumerates hrun).2.1 config hconfig).2.1 (hrun.tried ▸ hagain)
  exact absurd hreturned (by decide +kernel)

end EncryptedDnsProxyState

end MullvadVpn.EncryptedDns
