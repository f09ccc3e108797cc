import MullvadVpn.Settings.Acceptance

/-!
Which settings the migration of the account history and those from the fifth and the sixth version
(`v5.rs`, `v6.rs`) accept, and on which the sixth panics.
-/

namespace MullvadVpn.Settings

open Systems Json Ends

variable {ext : Externals} {settings settings' : Json}

/-- The account history is not of an old format, or it can be parsed and written. -/
def History.Convertible (ext : Externals) : History → Prop
  | .absent => True
  | .unreadable => False
  | .found text writable => isFormatV3 text = true ∨
      (text.bind ext.historyV2 ≠ none ∨ text.bind ext.historyV1 ≠ none) ∧ writable = true

theorem migrateFormatsInner_ends (text : Option String) (hobject : settings.isObject = true) :
    Ends (migrateFormatsInner ext text settings)
      (text.bind ext.historyV2 ≠ none ∨ text.bind ext.historyV1 ≠ none) False := by
  unfold migrateFormatsInner
  split
  · rename_i hformat
    exact ((Ends.setIndex_of_object hobject _ _).before fun _ _ => .ok _).congr (by simp [hformat]) .rfl
  · rename_i hformat
    exact (ok _).congr (by simp [hformat]) Iff.rfl
  · rename_i hnone hformat
    exact (ok _).congr (by simp [hformat]) Iff.rfl
  · rename_i hnone hnone'
    exact (error _).congr (by simp [hnone, hnone']) Iff.rfl

theorem migrateFormats_ends (history : History) (hobject : settings.isObject = true) :
    Ends (migrateFormats ext settings history) (history.Convertible ext) False := by
  cases history with
  | absent => exact .ok _
  | unreadable => exact .error _
  | found text writable =>
    simp only [migrateFormats, History.Convertible]
    split
    · rename_i hformat
      exact (ok _).congr (by simp [hformat]) Iff.rfl
    · rename_i hformat
      rw [or_iff_right hformat]
      refine (migrateFormatsInner_ends text hobject).both fun _ _ => ?_
      cases writable with
      | true => exact (ok _).congr (by simp) Iff.rfl
      | false => exact (error _).congr (by simp) Iff.rfl

namespace V5

theorem migrateMultihop_ends (constraints : Json) : Ends (migrateMultihop constraints) True False := by
  unfold migrateMultihop
  split
  · rename_i location hlocation _
    have hobject := isObject_of_get hlocation
    split
    · exact (asObjectMut_ends hobject).before fun _ _ => .ok _
    · exact .setIndex_of_object hobject _ _
  · exact .ok constraints

theorem migratePortConstraint_ends (constraints : Json) : Ends (migratePortConstraint constraints)
    (Readable (constraint transportPort) (constraints.get "port")) False := by
  unfold migratePortConstraint
  split
  · rename_i hport
    exact (ok _).congr (by simp [Readable, hport]) Iff.rfl
  · rename_i port hport
    refine ((orInvalid_ends _).before fun read _ => ?_).congr ?_ .rfl
    · cases read with
      | any => exact .ok _
      | only transportPort =>
        exact (Ends.setIndex_of_object (isObject_of_get hport) _ _).before fun _ _ => .ok _
    · simp [Readable, hport, Option.ne_none_iff_exists']

def PortReadable (wireguard : Option Json) : Prop :=
  ∀ constraints, wireguard = some constraints → Readable (constraint transportPort) (constraints.get "port")

def TokenReadable (settings : Json) : Prop :=
  ∀ token, settings.get "account_token" = some token → token.isNull = false →
    ∃ number, token.asStr = some number

structure Accepts (settings : Json) : Prop where
  port : PortReadable (settings.getPath ["relay_settings", "normal", "wireguard_constraints"])
  token : TokenReadable settings

theorem migrateConstraints_ends (hobject : settings.isObject = true) :
    Ends (migrateConstraints settings)
      (PortReadable (settings.getPath ["relay_settings", "normal", "wireguard_constraints"])) False := by
  unfold migrateConstraints PortReadable
  split
  · rename_i hnone
    exact (ok settings).congr (by simp [hnone]) Iff.rfl
  · rename_i constraints hconstraints
    refine (migrateMultihop_ends constraints).after fun multihop hmultihop => ?_
    refine ((migratePortConstraint_ends multihop).before fun result _ => ?_).congr ?_ .rfl
    · dsimp only
      split
      · exact .setIndex_of_object (by rw [isObject_insertPath, hobject]) _ _
      · exact .ok _
    · rw [(sameExcept_migrateMultihop hmultihop).get (by decide), hconstraints]
      simp

theorem migrateAccount_ends (settings : Json) :
    Ends (migrateAccount settings) (TokenReadable settings) False := by
  unfold migrateAccount TokenReadable
  split
  · rename_i token htoken
    obtain ⟨hget, hnull⟩ := Option.filter_eq_some_iff.mp htoken
    rw [Bool.not_eq_true'] at hnull
    refine ((orInvalid_ends _).before fun _ _ => ?_).congr ?_ .rfl
    · exact (asObjectMut_ends (isObject_of_get hget)).before fun _ _ => .ok _
    · rw [hget, Option.ne_none_iff_exists']
      simp [hnull, Serde.string]
  · rename_i hnone
    rw [Option.filter_eq_none_iff] at hnone
    refine (ok _).congr (iff_of_true trivial fun token htoken hnull => ?_) Iff.rfl
    exact absurd (by simp [hnull]) (hnone token htoken)

theorem tokenReadable_congr (h : settings'.get "account_token" = settings.get "account_token") :
    TokenReadable settings' ↔ TokenReadable settings := by
  simp only [TokenReadable, h]

theorem migrate_ends : Ends (migrate settings) (stage settings = 5 → Accepts settings) False := by
  by_cases hstage : stage settings = 5
  · obtain ⟨version, hversion, -⟩ :=
      Option.bind_eq_some_iff.mp ((versionNumber_eq_iff (by decide)).mpr hstage)
    rw [migrate, if_pos ((versionMatches_iff (by decide)).mpr hstage)]
    refine ((migrateConstraints_ends (isObject_of_get hversion)).both fun constrained hconstrained => ?_).congr
      ⟨fun h _ => ⟨h.1, h.2⟩, fun h => ⟨(h hstage).port, (h hstage).token⟩⟩ .rfl
    have hsame := sameExcept_migrateConstraints hconstrained
    refine ((migrateAccount_ends constrained).before fun removed hremoved => ?_).congr
      (tokenReadable_congr (hsame.get (by decide))) .rfl
    exact (setVersion_ends (hsame.trans (sameExcept_migrateAccount hremoved)) (by decide) hstage
      (by decide) 6).before fun _ _ => .ok _
  · exact (of_eq (migrate_of_ne hstage)).congr (by simp [hstage]) Iff.rfl

end V5

namespace V6

/-- Where locations are that the migration changes. -/
def locationPaths : List (List String) :=
  [["relay_settings", "normal", "location", "only"],
    ["relay_settings", "normal", "wireguard_constraints", "entry_location", "only"],
    ["bridge_settings", "normal", "location", "only"]]

def Misshapen (settings : Json) (path : List String) : Prop :=
  ∃ only, settings.getPath path = some only ∧ only.indexable = false

theorem misshapen_congr {path : List String} (h : settings'.getPath path = settings.getPath path) :
    Misshapen settings' path ↔ Misshapen settings path := by
  simp only [Misshapen, h]

theorem update_wrapLocation_ends (settings : Json) (keys : List String) :
    Ends (settings.update keys wrapLocation) (¬Misshapen settings (keys ++ ["only"]))
      (Misshapen settings (keys ++ ["only"])) := by
  have hmisshapen : (∃ location, settings.getPath keys = some location ∧
      ∃ only, location.getPath ["only"] = some only ∧ only.indexable = false) ↔
        Misshapen settings (keys ++ ["only"]) := by
    simp only [Misshapen, getPath_append, Option.bind_eq_some_iff]
    constructor
    · rintro ⟨location, hlocation, only, honly, h⟩
      exact ⟨only, ⟨location, hlocation, honly⟩, h⟩
    · rintro ⟨only, ⟨location, hlocation, honly⟩, h⟩
      exact ⟨location, hlocation, only, honly, h⟩
  refine (update fun location _ => update fun only _ =>
    setIndex_asObjectMut_ends only _ _ _).congr ?_ hmisshapen
  rw [← hmisshapen]
  simp

/-- The three locations are apart, so what is done to one does not matter for the others. -/
theorem misshapen_update {keys path : List String} (h : settings.update keys wrapLocation = .ok settings')
    (hapart : apart (keys ++ ["only"]) path = true) : Misshapen settings' path ↔ Misshapen settings path := by
  refine misshapen_congr (SameExcept.update h (fun _ _ => sameExcept_wrapLocation) path ?_)
  simpa using hapart

theorem migrateLocationConstraint_ends (settings : Json) : Ends (migrateLocationConstraint settings)
    (∀ path ∈ locationPaths, ¬Misshapen settings path) (∃ path ∈ locationPaths, Misshapen settings path) := by
  refine ((update_wrapLocation_ends settings _).bind fun s₁ h₁ =>
    ((update_wrapLocation_ends s₁ _).bind fun s₂ h₂ => (update_wrapLocation_ends s₂ _).congr
      (not_congr (misshapen_update h₂ (by decide)))
      (misshapen_update h₂ (by decide))).congr
      (and_congr (not_congr (misshapen_update h₁ (by decide))) (not_congr (misshapen_update h₁ (by decide))))
      (or_congr (misshapen_update h₁ (by decide)) (and_congr (not_congr (misshapen_update h₁ (by decide)))
        (misshapen_update h₁ (by decide))))).congr ?_ ?_
  · simp [locationPaths]
  · simp only [locationPaths, List.exists_mem_cons_iff, List.not_mem_nil, false_and, exists_false,
      or_false, List.cons_append, List.nil_append]
    tauto

theorem migratePq_ends (options : Json) : Ends (migratePq options) (options.isObject = true) False := by
  refine (Ends.expectObject options _).before fun object hobject => ?_
  obtain ⟨hobject, rfl⟩ := expectObject_eq_ok.mp hobject
  split
  · exact .ok _
  · exact .setIndex_of_object (by rw [isObject_remove, hobject]) _ _

theorem migrateUdp2tcpPort443_ends (settings : Json) : Ends (migrateUdp2tcpPort443 settings) True False := by
  refine .update_total fun port _ => ?_
  split
  · exact .ok _
  · exact .ok _

def TunnelOptionsShaped (settings : Json) : Prop :=
  ∀ options, settings.getPath ["tunnel_options", "wireguard"] = some options → options.isObject = true

/-- The options are an object, and no location is misshapen. -/
structure Accepts (settings : Json) : Prop where
  options : TunnelOptionsShaped settings
  locations : ∀ path ∈ locationPaths, ¬Misshapen settings path

/-- A misshapen location, in settings whose options do not make the migration fail before. -/
structure Unindexable (settings : Json) : Prop where
  options : TunnelOptionsShaped settings
  locations : ∃ path ∈ locationPaths, Misshapen settings path

theorem convert_ends (settings : Json) :
    Ends (convert settings) (Accepts settings) (Unindexable settings) := by
  refine ((update_safe fun options _ => migratePq_ends options).seq fun s₁ h₁ =>
    (migrateUdp2tcpPort443_ends s₁).after fun s₂ h₂ => ?_).congr
    ⟨fun h => ⟨h.1, h.2⟩, fun h => ⟨h.1, h.2⟩⟩ ⟨fun h => ⟨h.1, h.2⟩, fun h => ⟨h.1, h.2⟩⟩
  -- What precedes the locations does not touch them.
  have hsame : ∀ path ∈ locationPaths, (Misshapen s₂ path ↔ Misshapen settings path) := by
    intro path hpath
    refine misshapen_congr (((sameExcept_update h₁).trans (sameExcept_update h₂)) path ?_)
    revert path
    decide
  exact (migrateLocationConstraint_ends s₂).congr (forall₂_congr fun path hpath => not_congr (hsame path hpath))
    (exists_congr fun path => and_congr_right (hsame path))

theorem migrate_ends : Ends (migrate settings) (stage settings = 6 → Accepts settings)
    (stage settings = 6 ∧ Unindexable settings) :=
  isStep.ends fun _ => convert_ends settings

end V6

end MullvadVpn.Settings
