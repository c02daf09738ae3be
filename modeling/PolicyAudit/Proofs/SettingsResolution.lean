/-
Module: PolicyAudit.Proofs.SettingsResolution
Purpose: Which settings are accepted, what a run is then governed by, and how others are refused.
Imports: PolicyAudit.Proofs.ByteOrder, PolicyAudit.Proofs.SeverityWord
Trusted boundary: none
Main exports: InCatalog, FileSetting.Offence, FileSetting.ResolvesTo, SettingsFile.Acceptable,
  SettingsFile.Governs, SettingsFile.Refused, SettingsFile.resolve_exact
-/
import PolicyAudit.Proofs.ByteOrder
import PolicyAudit.Proofs.SeverityWord

namespace PolicyAudit

/-! ### Entries for policies -/

/-- A policy of the catalog has the identifier. -/
def InCatalog (id : String) : Prop :=
  ∃ p ∈ catalog, p.id = id

/-- What settings can name are the policies of the catalog, in its order. -/
theorem knownIds_eq_catalogIds : knownIds = catalogIds :=
  rfl

theorem contains_knownIds_iff {id : String} : knownIds.contains id = true ↔ InCatalog id := by
  rw [knownIds_eq_catalogIds, List.contains_iff_mem, InCatalog]
  simp [catalogIds, catalog, CatalogEntry.policy]

namespace FileSetting

/-- What is wrong with the entry of an identifier.  An unknown identifier hides a bad severity. -/
inductive Offence (id : String) (written : FileSetting) : Failure → Prop where
  | unknownId (unknown : ¬ InCatalog id) : Offence id written (.of (.unknownPolicy id))
  | badSeverity {word : String} (known : InCatalog id) (stated : written.severity = some word)
      (misspelled : ∀ s : Severity, ¬ s.SpelledBy word) :
      Offence id written ⟨[.readSeverityOf id], .unknownSeverity word⟩

theorem failure?_eq_some_iff {id : String} {written : FileSetting} {failure : Failure} :
    written.failure? id = some failure ↔ Offence id written failure := by
  constructor
  · intro found
    unfold failure? at found
    split at found
    · rename_i contained
      have known := contains_knownIds_iff.mp contained
      split at found
      · cases found
      · rename_i word stated
        split at found
        · rename_i unread
          cases found
          rw [Option.isNone_iff_eq_none, Severity.ofWord?_eq_none_iff] at unread
          exact .badSeverity known stated unread
        · cases found
    · rename_i notContained
      cases found
      exact .unknownId fun known => notContained (contains_knownIds_iff.mpr known)
  · rintro (unknown | ⟨known, stated, misspelled⟩)
    · rw [failure?, if_neg fun contained => unknown (contains_knownIds_iff.mp contained)]
    · rw [failure?, if_pos (contains_knownIds_iff.mpr known), stated]
      simp [Severity.ofWord?_eq_none_iff.mpr misspelled]

/-- Nothing is wrong with an entry for a policy of the catalog whose severity can be read. -/
theorem no_offence_iff {id : String} {written : FileSetting} :
    (∀ failure, ¬ written.Offence id failure) ↔
      InCatalog id ∧ ∀ word ∈ written.severity, ∃ s : Severity, s.SpelledBy word := by
  constructor
  · intro clean
    have known : InCatalog id := by
      by_contra unknown
      exact clean _ (.unknownId unknown)
    refine ⟨known, fun word stated => ?_⟩
    by_contra misspelled
    exact clean _ (.badSeverity known stated (not_exists.mp misspelled))
  · rintro ⟨known, readable⟩ failure (unknown | ⟨_, stated, misspelled⟩)
    · exact unknown known
    · obtain ⟨s, spelled⟩ := readable _ stated
      exact misspelled s spelled

/-- The setting of a policy in a run is what the file says of it. -/
structure ResolvesTo (written : FileSetting) (setting : PolicySetting) : Prop where
  enabled : setting.enabled = written.enabled
  severity : Option.Rel (fun word s => Severity.SpelledBy s word) written.severity setting.severity

/-- What a readable entry says is what it is resolved to. -/
theorem resolvesTo_iff {written : FileSetting} {setting : PolicySetting}
    (readable : ∀ word ∈ written.severity, ∃ s : Severity, s.SpelledBy word) :
    written.ResolvesTo setting ↔ setting = written.resolved := by
  obtain ⟨enabled, severity⟩ := written
  obtain ⟨runEnabled, runSeverity⟩ := setting
  constructor
  · rintro ⟨sameEnabled, sameSeverity⟩
    cases sameSeverity with
    | none => simpa [resolved] using sameEnabled
    | some spelled =>
        have read := Severity.ofWord?_eq_some_iff.mpr spelled
        simpa [resolved, read] using sameEnabled
  · intro same
    cases same
    refine ⟨rfl, ?_⟩
    cases severity with
    | none => exact .none
    | some word =>
        obtain ⟨s, spelled⟩ := readable word rfl
        simp only [Option.bind_some, Severity.ofWord?_eq_some_iff.mpr spelled]
        exact .some spelled

end FileSetting

namespace SettingsFile

variable (file : SettingsFile) (overrides : Overrides)

/-! ### Acceptance and refusal -/

/-- The profile that is asked for: what is overridden, else what the file says, else `strict`. -/
def chosenProfile : String :=
  (overrides.profile.or file.profile).getD "strict"

/-- The text of the threshold: what is overridden, else what the file says.  A text that is
overridden is not looked at. -/
def chosenThreshold? : Option String :=
  overrides.failOn.or file.failOn

/-- Settings that say nothing wrong. -/
structure Acceptable : Prop where
  known : ∀ id ∈ file.policies.keys, InCatalog id
  severities : ∀ id written, file.policies.find? id = some written →
    ∀ word ∈ written.severity, ∃ s : Severity, s.SpelledBy word
  threshold : ∀ word ∈ file.chosenThreshold? overrides, ∃ s : Severity, s.SpelledBy word

/-- What the settings of a run have to be. -/
structure Governs (settings : RunSettings) : Prop where
  profile : settings.profile =
    if file.chosenProfile overrides = "advisory" then "advisory" else "strict"
  failOn :
    match file.chosenThreshold? overrides with
    | some word => settings.failOn.SpelledBy word
    | none => settings.failOn = if file.chosenProfile overrides = "advisory" then .high else .low
  reportSkipped : settings.reportSkipped = file.reportSkipped.getD false
  policies : ∀ id,
    Option.Rel FileSetting.ResolvesTo (file.policies.find? id) (settings.policies.find? id)

/-- How settings are refused: for the first offending entry by the bytes of the identifiers, and
only where no entry offends for the threshold. -/
inductive Refused : Failure → Prop where
  | entry {id : String} {written : FileSetting} {failure : Failure}
      (present : file.policies.find? id = some written)
      (offends : written.Offence id failure)
      (first : ∀ before passed, Text.bytes before < Text.bytes id →
        file.policies.find? before = some passed → ∀ other, ¬ passed.Offence before other) :
      Refused failure
  | threshold {word : String}
      (clean : ∀ id written, file.policies.find? id = some written →
        ∀ other, ¬ written.Offence id other)
      (chosen : file.chosenThreshold? overrides = some word)
      (misspelled : ∀ s : Severity, ¬ s.SpelledBy word) :
      Refused ⟨[.readThreshold], .unknownSeverity word⟩

/-! ### Parts of the resolution -/

section

variable {file : SettingsFile} {overrides : Overrides}

theorem policyFailure?_eq_none_iff :
    file.policyFailure? = none ↔
      ∀ id written, file.policies.find? id = some written →
        ∀ failure, ¬ written.Offence id failure := by
  rw [policyFailure?, Table.findSome?_entries_eq_none_iff]
  simp only [Option.eq_none_iff_forall_ne_some, ne_eq, FileSetting.failure?_eq_some_iff]

/-- The failure of the entries is that of the first offending one. -/
theorem policyFailure?_eq_some_iff {failure : Failure} :
    file.policyFailure? = some failure ↔
      ∃ id written, file.policies.find? id = some written ∧ written.Offence id failure ∧
        ∀ before passed, Text.bytes before < Text.bytes id →
          file.policies.find? before = some passed → ∀ other, ¬ passed.Offence before other := by
  rw [policyFailure?, Table.findSome?_entries_eq_some_iff]
  simp only [Option.eq_none_iff_forall_ne_some, ne_eq, FileSetting.failure?_eq_some_iff,
    Text.lt_iff_bytes_lt]

theorem threshold_eq_ok_iff {profile : RunSettings} {failOn : Severity} :
    file.threshold overrides profile = .ok failOn ↔
      match file.chosenThreshold? overrides with
      | some word => failOn.SpelledBy word
      | none => failOn = profile.failOn := by
  rw [threshold, chosenThreshold?]
  cases overrides.failOn.or file.failOn with
  | none => simp [eq_comm]
  | some word =>
      simp only [← Severity.ofWord?_eq_some_iff]
      cases Severity.ofWord? word <;> simp

theorem threshold_eq_error_iff {profile : RunSettings} {failure : Failure} :
    file.threshold overrides profile = .error failure ↔
      ∃ word, file.chosenThreshold? overrides = some word ∧
        (∀ s : Severity, ¬ s.SpelledBy word) ∧
          failure = ⟨[.readThreshold], .unknownSeverity word⟩ := by
  rw [threshold, chosenThreshold?]
  cases overrides.failOn.or file.failOn with
  | none => simp
  | some word =>
      simp only [Option.some.injEq, exists_eq_left', ← Severity.ofWord?_eq_none_iff]
      cases Severity.ofWord? word <;> simp [eq_comm]

theorem exists_threshold_iff {profile : RunSettings} :
    (∃ failOn, file.threshold overrides profile = .ok failOn) ↔
      ∀ word ∈ file.chosenThreshold? overrides, ∃ s : Severity, s.SpelledBy word := by
  simp only [threshold_eq_ok_iff]
  cases file.chosenThreshold? overrides <;> simp

theorem acceptable_iff :
    file.Acceptable overrides ↔
      file.policyFailure? = none ∧
        ∀ word ∈ file.chosenThreshold? overrides, ∃ s : Severity, s.SpelledBy word := by
  simp only [policyFailure?_eq_none_iff, FileSetting.no_offence_iff]
  constructor
  · rintro ⟨known, severities, threshold⟩
    refine ⟨fun id written present => ⟨?_, severities id written present⟩, threshold⟩
    exact known id (Table.mem_keys_iff.mpr ⟨written, present⟩)
  · rintro ⟨clean, threshold⟩
    refine ⟨fun id listed => ?_, fun id written present => (clean id written present).2, threshold⟩
    obtain ⟨written, present⟩ := Table.mem_keys_iff.mp listed
    exact (clean id written present).1

theorem refused_iff {failure : Failure} :
    file.Refused overrides failure ↔
      file.policyFailure? = some failure ∨
        file.policyFailure? = none ∧
          file.threshold overrides (.ofProfile (file.chosenProfile overrides)) =
            .error failure := by
  rw [policyFailure?_eq_some_iff, policyFailure?_eq_none_iff, threshold_eq_error_iff]
  constructor
  · rintro (⟨present, offends, first⟩ | ⟨clean, chosen, misspelled⟩)
    · exact .inl ⟨_, _, present, offends, first⟩
    · exact .inr ⟨clean, _, chosen, misspelled, rfl⟩
  · rintro (⟨id, written, present, offends, first⟩ | ⟨clean, word, chosen, misspelled, rfl⟩)
    · exact .entry present offends first
    · exact .threshold clean chosen misspelled

end

end SettingsFile

/-! ### The resolution -/

/-- A profile is known by its name, and differs from the other one in its threshold alone. -/
theorem RunSettings.ofProfile_eq (profile : String) :
    RunSettings.ofProfile profile =
      { profile := if profile = "advisory" then "advisory" else "strict"
        failOn := if profile = "advisory" then .high else .low
        reportSkipped := false
        policies := .empty } := by
  unfold RunSettings.ofProfile
  split <;> rfl

namespace SettingsFile

section

variable {file : SettingsFile} {overrides : Overrides}

theorem resolve_eq_error_iff {failure : Failure} :
    file.resolve overrides = .error failure ↔ file.Refused overrides failure := by
  rw [refused_iff, resolve, chosenProfile]
  cases file.policyFailure? with
  | some found => simp
  | none =>
      generalize (overrides.profile.or file.profile).getD "strict" = profile
      cases file.threshold overrides (.ofProfile profile) <;> simp [Except.map]

theorem resolve_eq_ok_iff {settings : RunSettings} :
    file.resolve overrides = .ok settings ↔
      file.policyFailure? = none ∧
        ∃ failOn,
          file.threshold overrides (.ofProfile (file.chosenProfile overrides)) = .ok failOn ∧
            settings =
              { profile :=
                  if file.chosenProfile overrides = "advisory" then "advisory" else "strict"
                failOn := failOn
                reportSkipped := file.reportSkipped.getD false
                policies := file.policies.map FileSetting.resolved } := by
  rw [resolve, chosenProfile]
  cases file.policyFailure? with
  | some found => simp
  | none =>
      generalize (overrides.profile.or file.profile).getD "strict" = profile
      cases file.threshold overrides (.ofProfile profile) <;>
        simp [Except.map, RunSettings.ofProfile_eq, eq_comm]

/-- The settings that govern a run are the ones that acceptable settings are resolved to. -/
theorem governs_iff {settings : RunSettings} (acceptable : file.Acceptable overrides) :
    file.Governs overrides settings ↔ file.resolve overrides = .ok settings := by
  rw [resolve_eq_ok_iff]
  have entries (id : String) (setting : Option PolicySetting) :
      Option.Rel FileSetting.ResolvesTo (file.policies.find? id) setting ↔
        setting = (file.policies.find? id).map FileSetting.resolved := by
    cases present : file.policies.find? id with
    | none =>
        constructor
        · rintro ⟨⟩
          rfl
        · rintro rfl
          exact .none
    | some written =>
        have readable := acceptable.severities id written present
        constructor
        · rintro ⟨resolvesTo⟩
          rw [Option.map_some, (FileSetting.resolvesTo_iff readable).mp resolvesTo]
        · rintro rfl
          exact .some ((FileSetting.resolvesTo_iff readable).mpr rfl)
  constructor
  · rintro ⟨profile, failOn, reportSkipped, policies⟩
    refine ⟨(acceptable_iff.mp acceptable).1, settings.failOn, ?_, ?_⟩
    · rw [threshold_eq_ok_iff, RunSettings.ofProfile_eq]
      exact failOn
    · have table : settings.policies = file.policies.map FileSetting.resolved :=
        Table.ext_find? fun id => by
          rw [Table.find?_map]
          exact (entries id _).mp (policies id)
      rw [← profile, ← reportSkipped, ← table]
  · rintro ⟨_, failOn, threshold, rfl⟩
    rw [threshold_eq_ok_iff, RunSettings.ofProfile_eq] at threshold
    refine ⟨rfl, threshold, rfl, fun id => ?_⟩
    rw [entries, Table.find?_map]

end

/-- Settings are accepted if and only if they say nothing wrong.  A run is then governed by what
they say and by nothing else.  All other settings are refused for what is first wrong with
them. -/
theorem resolve_exact (file : SettingsFile) (overrides : Overrides) :
    ((∃ settings, file.resolve overrides = .ok settings) ↔ file.Acceptable overrides) ∧
      (∀ settings, file.resolve overrides = .ok settings ↔
        file.Acceptable overrides ∧ file.Governs overrides settings) ∧
      ∀ failure, file.resolve overrides = .error failure ↔ file.Refused overrides failure := by
  have accepted : (∃ settings, file.resolve overrides = .ok settings) ↔
      file.Acceptable overrides := by
    rw [acceptable_iff]
    constructor
    · rintro ⟨settings, resolved⟩
      obtain ⟨clean, failOn, threshold, _⟩ := resolve_eq_ok_iff.mp resolved
      exact ⟨clean, exists_threshold_iff.mp ⟨failOn, threshold⟩⟩
    · rintro ⟨clean, readable⟩
      obtain ⟨failOn, threshold⟩ := exists_threshold_iff.mpr readable
      exact ⟨_, resolve_eq_ok_iff.mpr ⟨clean, failOn, threshold, rfl⟩⟩
  refine ⟨accepted, fun settings => ?_, fun failure => resolve_eq_error_iff⟩
  constructor
  · intro resolved
    have acceptable := accepted.mp ⟨settings, resolved⟩
    exact ⟨acceptable, (governs_iff acceptable).mpr resolved⟩
  · rintro ⟨acceptable, governs⟩
    exact (governs_iff acceptable).mp governs

end SettingsFile

end PolicyAudit
