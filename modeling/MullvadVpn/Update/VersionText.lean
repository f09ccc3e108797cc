import MullvadVpn.Systems.Decimal
import MullvadVpn.Systems.Regex
import MullvadVpn.Update.Version

/-!
Versions as text (`mullvad_version`): parsing with a regular expression, and formatting. The expression
is anchored at the end of the text but not at its beginning, so text in front of a version is skipped.
-/

namespace MullvadVpn.Update

open Systems Regex List
open Decimal (exists_toDigits_eq_cons pow_le_value toDigits_value value value_lt_pow value_toDigits)

inductive VersionGroup where
  | year
  | incremental
  | alpha
  | beta
  | dev
  deriving DecidableEq

def isNonzeroDigit (c : Char) : Bool :=
  '1' ≤ c && c ≤ '9'

def isLowerHex (c : Char) : Bool :=
  c.isDigit || ('a' ≤ c && c ≤ 'f')

/-- `\d`. In the engine that is used, this is an ASCII digit. -/
def digit : Regex VersionGroup :=
  .oneOf Char.isDigit

/-- `[1-9]`, and up to the given number of times `\d?`. -/
def numeral (more : Nat) : Regex VersionGroup :=
  .seq (.oneOf isNonzeroDigit) (times (.optional digit) more)

/-- The optional `-alpha` or `-beta` with its number. -/
def preStableSuffix : Regex VersionGroup :=
  .optional (.alt (.seq (.literal "-alpha".toList) (.group .alpha (numeral 2)))
    (.seq (.literal "-beta".toList) (.group .beta (numeral 2))))

/-- The optional `-dev-` with the hash of a commit. -/
def devSuffix : Regex VersionGroup :=
  .optional (.seq (.literal "-dev-".toList) (.group .dev (.oneOrMore isLowerHex)))

/-- `VERSION_REGEX`. -/
def versionRegex : Regex VersionGroup :=
  .seq (.group .year (times digit 4)) <|
  .seq (.literal ".".toList) <|
  .seq (.group .incremental (numeral 1)) <|
  .seq preStableSuffix <|
  .seq devSuffix
  .atEnd

/-- `str::parse::<u32>`. -/
def parseU32 (text : List Char) : Option Nat :=
  let digits :=
    match text with
    | '+' :: digits => digits
    | digits => digits
  if digits.isEmpty || !digits.all Char.isDigit then none
  else if value digits < 2 ^ 32 then some (value digits)
  else none

namespace AppVersion

/-- The version in the captured groups. There is none where the source would panic: it unwraps the
year, the number and everything it parses. -/
def ofGroups (version : String) (captures : Match VersionGroup) :
    Option (Except String AppVersion) := do
  let year ← parseU32 (← captures.group .year)
  let incremental ← parseU32 (← captures.group .incremental)
  let alpha ← (captures.group .alpha).mapM parseU32
  let beta ← (captures.group .beta).mapM parseU32
  let dev := (captures.group .dev).map String.ofList
  match alpha, beta with
  | none, none => return .ok { year, incremental, preStable := none, dev }
  | some number, none => return .ok { year, incremental, preStable := some (.alpha number), dev }
  | none, some number => return .ok { year, incremental, preStable := some (.beta number), dev }
  | some _, some _ => return .error s!"Invalid version: {version}"

def fromStr (version : String) : Option (Except String AppVersion) :=
  match versionRegex.search version.toList with
  | none => some (.error s!"Version does not match expected format: {version}")
  | some captures => ofGroups version captures

def fmtPreStable : Option PreStableType → String
  | some (.alpha number) => "-alpha" ++ toString number
  | some (.beta number) => "-beta" ++ toString number
  | none => ""

def fmtDev : Option String → String
  | some commitHash => "-dev-" ++ commitHash
  | none => ""

/-- `Display`. -/
def fmt (version : AppVersion) : String :=
  toString version.year ++ "." ++ toString version.incremental ++ fmtPreStable version.preStable ++
    fmtDev version.dev

end AppVersion

/-- The parts of a version as they are written: the year is not reduced to a number. -/
structure VersionParts where
  year : List Char
  incremental : Nat
  preStable : Option PreStableType
  dev : Option (List Char)

namespace VersionParts

def preStableNumber : PreStableType → Nat
  | .alpha number | .beta number => number

structure Valid (parts : VersionParts) : Prop where
  year_length : parts.year.length = 4
  year_digits : ∀ c ∈ parts.year, c.isDigit = true
  incremental : 1 ≤ parts.incremental ∧ parts.incremental ≤ 99
  preStable : ∀ type ∈ parts.preStable, 1 ≤ preStableNumber type ∧ preStableNumber type ≤ 999
  dev : ∀ hash ∈ parts.dev, hash ≠ [] ∧ ∀ c ∈ hash, isLowerHex c = true

def preStableText : Option PreStableType → List Char
  | some (.alpha number) => "-alpha".toList ++ Nat.toDigits 10 number
  | some (.beta number) => "-beta".toList ++ Nat.toDigits 10 number
  | none => []

def devText : Option (List Char) → List Char
  | some hash => "-dev-".toList ++ hash
  | none => []

def text (parts : VersionParts) : List Char :=
  parts.year ++ (".".toList ++ (Nat.toDigits 10 parts.incremental ++
    (preStableText parts.preStable ++ devText parts.dev)))

def version (parts : VersionParts) : AppVersion :=
  { year := value parts.year
    incremental := parts.incremental
    preStable := parts.preStable
    dev := parts.dev.map String.ofList }

/-! What the groups capture. -/

def preStableGroups : Option PreStableType → List (VersionGroup × List Char)
  | some (.alpha number) => [(.alpha, Nat.toDigits 10 number)]
  | some (.beta number) => [(.beta, Nat.toDigits 10 number)]
  | none => []

def devGroups : Option (List Char) → List (VersionGroup × List Char)
  | some hash => [(.dev, hash)]
  | none => []

def groups (parts : VersionParts) : List (VersionGroup × List Char) :=
  (.year, parts.year) :: (.incremental, Nat.toDigits 10 parts.incremental) ::
    (preStableGroups parts.preStable ++ devGroups parts.dev)

end VersionParts

/-- The whole text is a version: a year of four digits, a dot, a number up to 99, and optionally a
number up to 999 of an alpha or beta version and the hash of a development build. Numbers have no
leading zeros. -/
def IsVersion (text : List Char) : Prop :=
  ∃ parts : VersionParts, parts.Valid ∧ text = parts.text

theorem isNonzeroDigit_iff {c : Char} : isNonzeroDigit c = true ↔ c.isDigit = true ∧ c ≠ '0' := by
  simp only [isNonzeroDigit, Char.isDigit, Bool.and_eq_true, decide_eq_true_eq, ne_eq, ← Char.toNat_inj,
    Char.le_def, UInt32.le_iff_toNat_le]
  change 49 ≤ c.toNat ∧ c.toNat ≤ 57 ↔ (48 ≤ c.toNat ∧ c.toNat ≤ 57) ∧ ¬c.toNat = 48
  omega

variable {groups : List (VersionGroup × List Char)} {text rest : List Char}

theorem accepts_numeral {more : Nat} : Accepts (numeral more) text rest groups ↔
      (∃ n, (1 ≤ n ∧ n < 10 ^ (more + 1)) ∧ text = Nat.toDigits 10 n) ∧ groups = [] := by
  simp only [numeral, Accepts, digit, accepts_times_optional_oneOf]
  constructor
  · rintro ⟨_, digits, _, _, rfl, rfl, ⟨⟨c, hc, rfl⟩, rfl⟩, ⟨hlength, hdigits⟩, rfl⟩
    obtain ⟨hdigit, hne⟩ := isNonzeroDigit_iff.mp hc
    have hlt := value_lt_pow (forall_mem_cons.mpr ⟨hdigit, hdigits⟩)
    have hle : 10 ^ digits.length ≤ value (c :: digits) := pow_le_value hdigit hne
    refine ⟨⟨value (c :: digits), ⟨?_, ?_⟩, ?_⟩, rfl⟩
    · exact (Nat.one_le_pow _ _ (by norm_num)).trans hle
    · exact hlt.trans_le (Nat.pow_le_pow_right (by norm_num) (Nat.succ_le_succ hlength))
    · exact (toDigits_value hdigit hne hdigits).symm
  · rintro ⟨⟨n, ⟨hpos, hlt⟩, rfl⟩, rfl⟩
    obtain ⟨c, digits, hn, hdigit, hne, hdigits⟩ := exists_toDigits_eq_cons hpos
    have hlength := (Nat.length_toDigits_le_iff (by norm_num) (Nat.succ_pos _)).mpr hlt
    rw [hn] at hlength ⊢
    exact ⟨[c], digits, [], [], rfl, rfl, ⟨⟨c, isNonzeroDigit_iff.mpr ⟨hdigit, hne⟩, rfl⟩, rfl⟩,
      ⟨Nat.le_of_succ_le_succ hlength, hdigits⟩, rfl⟩

open VersionParts

theorem accepts_preStableSuffix : Accepts preStableSuffix text rest groups ↔
      ∃ preStable, (∀ type ∈ preStable, 1 ≤ preStableNumber type ∧ preStableNumber type ≤ 999) ∧
        text = preStableText preStable ∧ groups = preStableGroups preStable := by
  simp only [preStableSuffix, Accepts, accepts_numeral]
  constructor
  · rintro ((⟨_, _, _, _, rfl, rfl, ⟨rfl, rfl⟩, _, ⟨⟨n, hn, rfl⟩, rfl⟩, rfl⟩ |
      ⟨_, _, _, _, rfl, rfl, ⟨rfl, rfl⟩, _, ⟨⟨n, hn, rfl⟩, rfl⟩, rfl⟩) | ⟨rfl, rfl⟩)
    · exact ⟨some (.alpha n), fun _ h => Option.some.inj h ▸ ⟨hn.1, Nat.le_of_lt_succ hn.2⟩, rfl, rfl⟩
    · exact ⟨some (.beta n), fun _ h => Option.some.inj h ▸ ⟨hn.1, Nat.le_of_lt_succ hn.2⟩, rfl, rfl⟩
    · exact ⟨none, (fun _ h => by cases h), rfl, rfl⟩
  · rintro ⟨_ | ⟨n⟩ | ⟨n⟩, hvalid, rfl, rfl⟩
    · exact .inr ⟨rfl, rfl⟩
    · obtain ⟨hpos, hle⟩ := hvalid _ rfl
      exact .inl (.inl ⟨_, _, [], _, rfl, rfl, ⟨rfl, rfl⟩, [],
        ⟨⟨n, ⟨hpos, Nat.lt_succ_of_le hle⟩, rfl⟩, rfl⟩, rfl⟩)
    · obtain ⟨hpos, hle⟩ := hvalid _ rfl
      exact .inl (.inr ⟨_, _, [], _, rfl, rfl, ⟨rfl, rfl⟩, [],
        ⟨⟨n, ⟨hpos, Nat.lt_succ_of_le hle⟩, rfl⟩, rfl⟩, rfl⟩)

theorem accepts_devSuffix : Accepts devSuffix text rest groups ↔
      ∃ dev : Option (List Char), (∀ hash ∈ dev, hash ≠ [] ∧ ∀ c ∈ hash, isLowerHex c = true) ∧
        text = devText dev ∧ groups = devGroups dev := by
  simp only [devSuffix, Accepts]
  constructor
  · rintro (⟨_, hash, _, _, rfl, rfl, ⟨rfl, rfl⟩, _, ⟨hhash, rfl⟩, rfl⟩ | ⟨rfl, rfl⟩)
    · exact ⟨some hash, fun _ h => Option.some.inj h ▸ hhash, rfl, rfl⟩
    · exact ⟨none, (fun _ h => by cases h), rfl, rfl⟩
  · rintro ⟨_ | hash, hvalid, rfl, rfl⟩
    · exact .inr ⟨rfl, rfl⟩
    · exact .inl ⟨_, hash, [], _, rfl, rfl, ⟨rfl, rfl⟩, [], ⟨hvalid hash rfl, rfl⟩, rfl⟩

theorem accepts_versionRegex : Accepts versionRegex text rest groups ↔
      rest = [] ∧ ∃ parts : VersionParts, parts.Valid ∧ text = parts.text ∧ groups = parts.groups := by
  simp only [versionRegex, Accepts, digit, accepts_times_oneOf, accepts_numeral, accepts_preStableSuffix,
    accepts_devSuffix]
  constructor
  · rintro ⟨year, _, _, _, rfl, rfl, ⟨_, ⟨⟨hlength, hdigits⟩, rfl⟩, rfl⟩, _, _, _, _, rfl, rfl, ⟨rfl, rfl⟩,
      _, _, _, _, rfl, rfl, ⟨_, ⟨⟨n, hn, rfl⟩, rfl⟩, rfl⟩,
      _, _, _, _, rfl, rfl, ⟨preStable, hpreStable, rfl, rfl⟩,
      _, _, _, _, rfl, rfl, ⟨dev, hdev, rfl, rfl⟩, rfl, rfl, rfl⟩
    refine ⟨rfl, ⟨year, n, preStable, dev⟩, ⟨hlength, hdigits, ?_, hpreStable, hdev⟩, ?_, ?_⟩
    · exact ⟨hn.1, Nat.le_of_lt_succ hn.2⟩
    all_goals
      rw [append_nil]
      rfl
  · rintro ⟨rfl, parts, hvalid, rfl, rfl⟩
    obtain ⟨hpos, hle⟩ := hvalid.incremental
    refine ⟨parts.year, _, [(.year, parts.year)], _, rfl, rfl,
      ⟨[], ⟨⟨hvalid.year_length, hvalid.year_digits⟩, rfl⟩, rfl⟩,
      _, _, [], _, rfl, rfl, ⟨rfl, rfl⟩,
      _, _, [(.incremental, Nat.toDigits 10 parts.incremental)], _, rfl, rfl,
      ⟨[], ⟨⟨parts.incremental, ⟨hpos, Nat.lt_succ_of_le hle⟩, rfl⟩, rfl⟩, rfl⟩,
      _, _, _, _, rfl, rfl, ⟨parts.preStable, hvalid.preStable, rfl, rfl⟩,
      _, [], _, [], (append_nil _).symm, (append_nil _).symm,
      ⟨parts.dev, hvalid.dev, rfl, rfl⟩, rfl, rfl, rfl⟩

theorem parseU32_eq_some (hne : text ≠ []) (hdigits : ∀ c ∈ text, c.isDigit = true)
    (hlt : value text < 2 ^ 32) : parseU32 text = some (value text) := by
  obtain ⟨c, digits, rfl⟩ := exists_cons_of_ne_nil hne
  have hsign : c ≠ '+' := by
    rintro rfl
    exact absurd (hdigits _ (mem_cons_self ..)) (by decide)
  have hall : (c :: digits).all Char.isDigit = true := all_eq_true.mpr hdigits
  unfold parseU32
  split
  next h => exact absurd (cons.inj h).1 hsign
  next =>
    dsimp only
    rw [hall, if_neg (by simp), if_pos hlt]

variable {n : Nat}

theorem parseU32_toDigits (hlt : n < 2 ^ 32) : parseU32 (Nat.toDigits 10 n) = some n := by
  have hvalue := value_toDigits n
  rw [parseU32_eq_some Nat.toDigits_ne_nil ?_ (hvalue.symm ▸ hlt), hvalue]
  exact fun c hc => Nat.isDigit_of_mem_toDigits (by norm_num) le_rfl hc

variable {parts : VersionParts}

namespace VersionParts

theorem Valid.year_lt (hvalid : parts.Valid) : value parts.year < 10 ^ 4 :=
  hvalid.year_length ▸ value_lt_pow hvalid.year_digits

theorem Valid.parse_year (hvalid : parts.Valid) : parseU32 parts.year = some (value parts.year) := by
  refine parseU32_eq_some ?_ hvalid.year_digits (hvalid.year_lt.trans (by norm_num))
  intro h
  exact absurd hvalid.year_length (by rw [h]; decide)

theorem Valid.toDigits_year (hvalid : parts.Valid)
    (hyear : 1000 ≤ value parts.year) : Nat.toDigits 10 (value parts.year) = parts.year := by
  obtain ⟨c, digits, hparts⟩ := exists_cons_of_length_eq_add_one hvalid.year_length
  have hlength := hvalid.year_length
  have hdigits := hvalid.year_digits
  rw [hparts] at hyear hlength hdigits ⊢
  obtain ⟨hc, hrest⟩ := forall_mem_cons.mp hdigits
  refine toDigits_value hc ?_ hrest
  rintro rfl
  have hlt := value_lt_pow hrest
  rw [Nat.succ.inj hlength] at hlt
  exact absurd hyear (Nat.not_le_of_lt hlt)

end VersionParts

namespace AppVersion

theorem ofGroups_groups (hvalid : parts.Valid) (version : String)
    (text rest : List Char) : ofGroups version ⟨text, rest, parts.groups⟩ = some (.ok parts.version) := by
  have hyear := hvalid.parse_year
  have hincremental : parseU32 (Nat.toDigits 10 parts.incremental) = some parts.incremental :=
    parseU32_toDigits (hvalid.incremental.2.trans_lt (by norm_num))
  have hpreStable : ∀ type ∈ parts.preStable,
      parseU32 (Nat.toDigits 10 (preStableNumber type)) = some (preStableNumber type) := fun type h =>
    parseU32_toDigits ((hvalid.preStable type h).2.trans_lt (by norm_num))
  obtain ⟨year, incremental, preStable, dev⟩ := parts
  rcases preStable with _ | ⟨n⟩ | ⟨n⟩ <;> rcases dev with _ | hash <;>
    simp_all [ofGroups, Match.group, groups, preStableGroups, devGroups, VersionParts.version, preStableNumber]

theorem toList_toString_nat (n : Nat) : (toString n).toList = Nat.toDigits 10 n := Nat.toList_repr

variable (preStable : Option PreStableType)

theorem toList_fmtPreStable : (fmtPreStable preStable).toList = preStableText preStable := by
  rcases preStable with _ | ⟨n⟩ | ⟨n⟩
  · rfl
  all_goals
    rw [fmtPreStable, String.toList_append, toList_toString_nat]
    rfl

variable (dev : Option (List Char))

theorem toList_fmtDev : (fmtDev (dev.map String.ofList)).toList = devText dev := by
  rcases dev with _ | hash
  · rfl
  · rw [Option.map_some, fmtDev, String.toList_append, String.toList_ofList (l := hash)]
    rfl

/-- A version with a year of four significant digits is formatted as it was written. -/
theorem toList_fmt_version (hvalid : parts.Valid)
    (hyear : 1000 ≤ parts.version.year) : parts.version.fmt.toList = parts.text := by
  have hdigits : Nat.toDigits 10 parts.version.year = parts.year := hvalid.toDigits_year hyear
  have hdev : (fmtDev parts.version.dev).toList = devText parts.dev := toList_fmtDev parts.dev
  simp only [fmt, String.toList_append, toList_toString_nat, toList_fmtPreStable, hdigits, hdev, append_assoc]
  rfl

variable {s : String}

theorem fromStr_of_isVersion (h : IsVersion s.toList) :
    ∃ parts : VersionParts, parts.Valid ∧ s.toList = parts.text ∧ fromStr s = some (.ok parts.version) := by
  obtain ⟨parts, hvalid, htext⟩ := h
  obtain ⟨⟨text, rest, groups⟩, hsearch, hrun⟩ :=
    search_of_accepts (accepts_versionRegex.mpr ⟨rfl, parts, hvalid, htext, rfl⟩)
  obtain ⟨hs, haccepts⟩ := mem_run_iff.mp hrun
  obtain ⟨rfl, parts, hvalid, rfl, rfl⟩ := accepts_versionRegex.mp haccepts
  rw [append_nil] at hsearch hs
  refine ⟨parts, hvalid, hs.trans (append_nil _), ?_⟩
  rw [fromStr, hsearch]
  exact ofGroups_groups hvalid ..

theorem exists_fromStr_iff :
    (∃ version, fromStr s = some (.ok version)) ↔ ∃ suffix, suffix <:+ s.toList ∧ IsVersion suffix := by
  cases hsearch : versionRegex.search s.toList with
  | none =>
    constructor
    · rintro ⟨version, h⟩
      rw [fromStr, hsearch] at h
      cases h
    · rintro ⟨_, ⟨before, hs⟩, parts, hvalid, rfl⟩
      have hsome := search_isSome (accepts_versionRegex.mpr ⟨rfl, parts, hvalid, rfl, rfl⟩) before
      rw [append_nil, hs, hsearch] at hsome
      cases hsome
  | some found =>
    obtain ⟨text, rest, groups⟩ := found
    obtain ⟨before, hs, haccepts⟩ := accepts_of_search hsearch
    obtain ⟨rfl, parts, hvalid, rfl, rfl⟩ := accepts_versionRegex.mp haccepts
    rw [append_nil] at hs
    constructor
    · intro _
      exact ⟨parts.text, ⟨before, hs.symm⟩, parts, hvalid, rfl⟩
    · intro _
      refine ⟨parts.version, ?_⟩
      rw [fromStr, hsearch]
      exact ofGroups_groups hvalid ..

/-- Parsing accepts exactly the versions, and formatting gives the text back. -/
structure ParsesVersions (s : String) : Prop where
  accepts_iff : (∃ version, fromStr s = some (.ok version)) ↔ IsVersion s.toList
  fmt_eq : ∀ version, fromStr s = some (.ok version) → 1000 ≤ version.year → version.fmt = s

theorem parses_versions_iff (s : String) :
    ParsesVersions s ↔ ((∃ suffix, suffix <:+ s.toList ∧ IsVersion suffix) → IsVersion s.toList) := by
  constructor
  · intro h hsuffix
    exact h.accepts_iff.mp (exists_fromStr_iff.mpr hsuffix)
  · intro h
    constructor
    · exact exists_fromStr_iff.trans ⟨h, fun hs => ⟨s.toList, suffix_rfl, hs⟩⟩
    · intro version hversion hyear
      obtain ⟨parts, hvalid, htext, hparts⟩ :=
        fromStr_of_isVersion (h (exists_fromStr_iff.mp ⟨version, hversion⟩))
      obtain rfl := Except.ok.inj (Option.some.inj (hversion.symm.trans hparts))
      exact String.toList_injective ((toList_fmt_version hvalid hyear).trans htext.symm)

theorem parses_text_before :
    fromStr "x2024.1" = some (.ok ⟨2024, 1, none, none⟩) ∧ ¬IsVersion "x2024.1".toList := by
  constructor
  · decide +kernel
  · rintro ⟨parts, hvalid, htext⟩
    obtain ⟨c, digits, hyear⟩ := exists_cons_of_length_eq_add_one hvalid.year_length
    rw [text, hyear] at htext
    have hc : 'x' = c := (cons.inj htext).1
    have hdigit : c.isDigit = true := hvalid.year_digits c (hyear ▸ mem_cons_self ..)
    exact absurd (hc ▸ hdigit) (by decide)

variable {rest' : List Char}

theorem append_inj_of_digits {digits digits'}
    (h : digits ++ rest = digits' ++ rest') (hdigits : ∀ c ∈ digits, c.isDigit = true)
    (hdigits' : ∀ c ∈ digits', c.isDigit = true) (hrest : ∀ c ∈ rest.head?, c.isDigit = false)
    (hrest' : ∀ c ∈ rest'.head?, c.isDigit = false) : digits = digits' ∧ rest = rest' := by
  have hstop : ∀ {rest : List Char}, (∀ c ∈ rest.head?, c.isDigit = false) →
      rest.takeWhile Char.isDigit = [] := by
    intro rest hrest
    cases rest with
    | nil => rfl
    | cons c rest => simp [hrest c rfl]
  have htake := congrArg (takeWhile Char.isDigit) h
  rw [takeWhile_append_of_pos hdigits, takeWhile_append_of_pos hdigits', hstop hrest,
    hstop hrest', append_nil, append_nil] at htake
  subst htake
  exact ⟨rfl, append_cancel_left h⟩

theorem toDigits_append_inj {m : Nat} (h : Nat.toDigits 10 m ++ rest = Nat.toDigits 10 n ++ rest')
    (hrest : ∀ c ∈ rest.head?, c.isDigit = false) (hrest' : ∀ c ∈ rest'.head?, c.isDigit = false) :
    m = n ∧ rest = rest' := by
  have hdigits (k : Nat) : ∀ c ∈ Nat.toDigits 10 k, c.isDigit = true := fun c hc =>
    Nat.isDigit_of_mem_toDigits (by norm_num) le_rfl hc
  obtain ⟨heq, hrest⟩ := append_inj_of_digits h (hdigits m) (hdigits n) hrest hrest'
  refine ⟨?_, hrest⟩
  rw [← value_toDigits m, heq, value_toDigits]

theorem devText_head : ∀ c ∈ (devText dev).head?, c.isDigit = false := by
  rcases dev with _ | hash
  · exact nofun
  · rintro c ⟨⟩
    rfl

theorem suffix_head : ∀ c ∈ (preStableText preStable ++ devText dev).head?, c.isDigit = false := by
  rcases preStable with _ | ⟨n⟩ | ⟨n⟩
  · exact devText_head dev
  all_goals
    rintro c ⟨⟩
    rfl

theorem devText_injective : Function.Injective devText := by
  rintro (_ | hash) (_ | hash') h
  · rfl
  · cases h
  · cases h
  · exact congrArg some (append_cancel_left h)

theorem suffix_inj {preStable preStable' : Option PreStableType} {dev dev'}
    (h : preStableText preStable ++ devText dev = preStableText preStable' ++ devText dev') :
    preStable = preStable' ∧ dev = dev' := by
  have hnumber : ∀ {m n : Nat}, Nat.toDigits 10 m ++ devText dev = Nat.toDigits 10 n ++ devText dev' →
      m = n ∧ dev = dev' := fun h =>
    (toDigits_append_inj h (devText_head dev) (devText_head dev')).imp_right (devText_injective ·)
  -- Suffixes of different kinds differ in their second letter, if they have one.
  rcases preStable with _ | ⟨m⟩ | ⟨m⟩ <;> rcases preStable' with _ | ⟨n⟩ | ⟨n⟩
  case none.none => exact ⟨rfl, devText_injective h⟩
  case some.alpha.some.alpha | some.beta.some.beta =>
    replace h := (append_assoc _ _ _).symm.trans (h.trans (append_assoc _ _ _))
    obtain ⟨rfl, rfl⟩ := hnumber (append_cancel_left h)
    exact ⟨rfl, rfl⟩
  all_goals rcases dev with _ | hash <;> rcases dev' with _ | hash' <;> cases congrArg (·[1]?) h

theorem text_inj {parts'} (h : parts.text = parts'.text) (hvalid : parts.Valid)
    (hvalid' : parts'.Valid) : parts = parts' := by
  obtain ⟨year, incremental, preStable, dev⟩ := parts
  obtain ⟨year', incremental', preStable', dev'⟩ := parts'
  obtain ⟨rfl, h⟩ := append_inj h (hvalid.year_length.trans hvalid'.year_length.symm)
  obtain ⟨rfl, h⟩ := toDigits_append_inj (append_cancel_left h) (suffix_head preStable dev)
    (suffix_head preStable' dev')
  obtain ⟨rfl, rfl⟩ := suffix_inj h
  rfl

/-- What was formatted is parsed to what it was. -/
theorem fromStr_fmt (version : AppVersion) (hyear : 1000 ≤ version.year ∧ version.year ≤ 9999)
    (hincremental : 1 ≤ version.incremental ∧ version.incremental ≤ 99)
    (hpreStable : ∀ type ∈ version.preStable, 1 ≤ preStableNumber type ∧ preStableNumber type ≤ 999)
    (hdev : ∀ hash ∈ version.dev, hash ≠ "" ∧ ∀ c ∈ hash.toList, isLowerHex c = true) :
    fromStr version.fmt = some (.ok version) := by
  let parts : VersionParts := ⟨Nat.toDigits 10 version.year, version.incremental, version.preStable,
    version.dev.map String.toList⟩
  have hparts : parts.version = version := by
    simp [parts, VersionParts.version, value_toDigits, Function.comp_def]
  have hvalid : parts.Valid := by
    refine ⟨?_, fun c hc => Nat.isDigit_of_mem_toDigits (by norm_num) le_rfl hc, hincremental, hpreStable, ?_⟩
    · have hle : (Nat.toDigits 10 version.year).length ≤ 4 :=
        (Nat.length_toDigits_le_iff (by norm_num) (by norm_num)).mpr (by omega)
      have hnot : ¬(Nat.toDigits 10 version.year).length ≤ 3 := fun h => by
        have := (Nat.length_toDigits_le_iff (by norm_num) (by norm_num)).mp h
        omega
      exact Nat.le_antisymm hle (Nat.lt_of_not_le hnot)
    · intro hash hhash
      obtain ⟨text, htext, rfl⟩ := Option.map_eq_some_iff.mp hhash
      obtain ⟨hne, hhex⟩ := hdev text htext
      exact ⟨fun h => hne (String.toList_eq_nil_iff.mp h), hhex⟩
  have htext : version.fmt.toList = parts.text := by
    rw [← hparts]
    exact toList_fmt_version hvalid (by rw [hparts]; exact hyear.1)
  obtain ⟨parsed, hparsed, hsame, hfromStr⟩ := fromStr_of_isVersion ⟨parts, hvalid, htext⟩
  rw [hfromStr, text_inj (hsame.symm.trans htext) hparsed hvalid, hparts]

theorem fromStr_fmt_dev :
    fromStr (fmt ⟨2024, 10, some (.beta 12), some "0af1"⟩) =
      some (.ok ⟨2024, 10, some (.beta 12), some "0af1"⟩) :=
  fromStr_fmt _ (by decide) (by decide) (by rintro _ ⟨⟩; decide)
    (by rintro _ ⟨⟩; exact ⟨by decide, all_eq_true.mp (by decide)⟩)

end AppVersion

end MullvadVpn.Update
