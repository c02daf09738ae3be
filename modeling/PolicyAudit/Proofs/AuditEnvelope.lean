/-
Module: PolicyAudit.Proofs.AuditEnvelope
Purpose: Which inputs are refused and why, and what the report of an audit says besides its
  outcomes.
Imports: Mathlib, PolicyAudit.Proofs.ListedPolicies
Trusted boundary: none
Main exports: SettingsFile.WrittenIn, RunSettings.RefusedIn, RunSettings.ofText_eq_ok_iff,
  RunSettings.ofText_eq_error_iff, AuditInput.Refused, audit_cases, audit_eq_error_iff,
  audit_eq_ok_iff, Report.Presents, audit_exact
-/
import Mathlib
import PolicyAudit.Proofs.ListedPolicies

namespace PolicyAudit

/-! ### Settings in a text -/

/-- The settings that stand in a text: none in a text that is empty when it is trimmed. -/
inductive SettingsFile.WrittenIn (text : String) : SettingsFile → Prop where
  | blank (blank : Text.trim text.toList = []) : WrittenIn text .empty
  | stated {file : SettingsFile} (stated : Text.trim text.toList ≠ [])
      (read : SettingsFile.read? text = some file) : WrittenIn text file

/-- How settings are refused: as a text that cannot be read, or for what they say. -/
inductive RunSettings.RefusedIn (text : String) (overrides : Overrides) : Failure → Prop where
  | unreadable (stated : Text.trim text.toList ≠ []) (unread : SettingsFile.read? text = none) :
      RefusedIn text overrides ⟨[.readSettings], .toml⟩
  | unresolved {file : SettingsFile} {failure : Failure} (written : file.WrittenIn text)
      (refused : file.resolve overrides = .error failure) :
      RefusedIn text overrides (failure.within .resolveSettings)

section

variable {text : String} {overrides : Overrides}

theorem isBlankText_iff_trim : Text.isBlankText text = true ↔ Text.trim text.toList = [] :=
  (Text.trim_eq_nil_iff text.toList).symm

theorem SettingsFile.ofText_eq_ok_iff {file : SettingsFile} :
    SettingsFile.ofText text = .ok file ↔ file.WrittenIn text := by
  unfold SettingsFile.ofText
  split
  · rename_i isBlank
    have blank := isBlankText_iff_trim.mp isBlank
    constructor
    · rintro ⟨⟩
      exact .blank blank
    · rintro (_ | ⟨stated, _⟩)
      · rfl
      · exact absurd blank stated
  · rename_i notBlank
    have stated : Text.trim text.toList ≠ [] := fun blank =>
      notBlank (isBlankText_iff_trim.mpr blank)
    constructor
    · intro found
      split at found
      · rename_i read
        cases found
        exact .stated stated read
      · cases found
    · rintro (blank | ⟨_, read⟩)
      · exact absurd blank stated
      · rw [read]

theorem SettingsFile.ofText_eq_error_iff {failure : Failure} :
    SettingsFile.ofText text = .error failure ↔
      Text.trim text.toList ≠ [] ∧ SettingsFile.read? text = none ∧
        failure = ⟨[.readSettings], .toml⟩ := by
  unfold SettingsFile.ofText
  split
  · rename_i isBlank
    simp [isBlankText_iff_trim.mp isBlank]
  · rename_i notBlank
    have stated : Text.trim text.toList ≠ [] := fun blank =>
      notBlank (isBlankText_iff_trim.mpr blank)
    cases SettingsFile.read? text <;> simp [stated, eq_comm]

theorem attempt_eq_ok_iff {α : Type} {activity : Activity} {x : Except Failure α} {a : α} :
    attempt activity x = .ok a ↔ x = .ok a := by
  cases x <;> simp [attempt, Except.mapError]

theorem attempt_eq_error_iff {α : Type} {activity : Activity} {x : Except Failure α}
    {failure : Failure} :
    attempt activity x = .error failure ↔
      ∃ inner, x = .error inner ∧ failure = inner.within activity := by
  cases x <;> simp [attempt, Except.mapError, eq_comm]

/-- A run is governed by what the settings that stand in a text are resolved to. -/
theorem RunSettings.ofText_eq_ok_iff {settings : RunSettings} :
    RunSettings.ofText text overrides = .ok settings ↔
      ∃ file : SettingsFile, file.WrittenIn text ∧ file.resolve overrides = .ok settings := by
  simp only [← SettingsFile.ofText_eq_ok_iff, RunSettings.ofText]
  cases SettingsFile.ofText text with
  | error failure => simp [bind, Except.bind]
  | ok file => simp [bind, Except.bind, attempt_eq_ok_iff]

theorem RunSettings.ofText_eq_error_iff {failure : Failure} :
    RunSettings.ofText text overrides = .error failure ↔
      RunSettings.RefusedIn text overrides failure := by
  rw [RunSettings.ofText]
  constructor
  · intro refused
    cases written : SettingsFile.ofText text with
    | error unread =>
        rw [written] at refused
        cases refused
        obtain ⟨stated, unreadable, rfl⟩ := SettingsFile.ofText_eq_error_iff.mp written
        exact .unreadable stated unreadable
    | ok file =>
        rw [written] at refused
        obtain ⟨inner, unresolved, rfl⟩ := attempt_eq_error_iff.mp refused
        exact .unresolved (SettingsFile.ofText_eq_ok_iff.mp written) unresolved
  · rintro (⟨stated, unread⟩ | ⟨written, unresolved⟩)
    · rw [SettingsFile.ofText_eq_error_iff.mpr ⟨stated, unread, rfl⟩]
      rfl
    · rw [SettingsFile.ofText_eq_ok_iff.mpr written]
      exact attempt_eq_error_iff.mpr ⟨_, unresolved, rfl⟩

end

/-! ### Inputs -/

/-- How an input is refused.  Resources are looked at where the settings are good, and the policies
of the catalog can be built under all settings. -/
inductive AuditInput.Refused (input : AuditInput) : Failure → Prop where
  | settings {failure : Failure}
      (refused : RunSettings.RefusedIn input.settings input.overrides failure) :
      input.Refused failure
  | resources {file : SettingsFile} {settings : RunSettings} {failure : Failure}
      (written : file.WrittenIn input.settings)
      (resolved : file.resolve input.overrides = .ok settings)
      (unread : Resource.readList input.resources = .error failure) : input.Refused failure

section

variable {input : AuditInput}

/-- Good settings let bad resources be seen, for building the policies between them never fails. -/
theorem audit_of_unreadable {settings : RunSettings} {failure : Failure}
    (resolved : RunSettings.ofText input.settings input.overrides = .ok settings)
    (unread : Resource.readList input.resources = .error failure) :
    audit input = .error failure := by
  rw [audit, resolved, unread]
  simp only [bind, Except.bind, settings.activePolicies_eq_ok]

/-- The three ways in which an audit ends. -/
theorem audit_cases (input : AuditInput) :
    (∃ failure, RunSettings.RefusedIn input.settings input.overrides failure ∧
      audit input = .error failure) ∨
      ∃ (file : SettingsFile) (settings : RunSettings), file.WrittenIn input.settings ∧
        file.resolve input.overrides = .ok settings ∧
        ((∃ failure, Resource.readList input.resources = .error failure ∧
            audit input = .error failure) ∨
          ∃ resources, Resource.readList input.resources = .ok resources ∧
            audit input = .ok
              { settings := settings
                policies := PolicySet.ofCatalog.configured settings
                resources := resources
                notes := if Text.isBlankText input.settings then [settingsMissing] else [] }) := by
  cases resolved : RunSettings.ofText input.settings input.overrides with
  | error failure =>
      exact .inl ⟨failure, RunSettings.ofText_eq_error_iff.mp resolved, audit_of_failure resolved⟩
  | ok settings =>
      obtain ⟨file, written, resolves⟩ := RunSettings.ofText_eq_ok_iff.mp resolved
      refine .inr ⟨file, settings, written, resolves, ?_⟩
      cases read : Resource.readList input.resources with
      | error failure => exact .inl ⟨failure, rfl, audit_of_unreadable resolved read⟩
      | ok resources => exact .inr ⟨resources, rfl, audit_of_settings resolved read⟩

theorem audit_eq_error_iff {failure : Failure} :
    audit input = .error failure ↔ input.Refused failure := by
  constructor
  · intro failed
    rcases audit_cases input with ⟨_, refused, ended⟩ | ⟨_, _, written, resolves, ended⟩
    · cases ended.symm.trans failed
      exact .settings refused
    · rcases ended with ⟨_, unread, ended⟩ | ⟨_, _, ended⟩
      · cases ended.symm.trans failed
        exact .resources written resolves unread
      · cases ended.symm.trans failed
  · rintro (⟨refused⟩ | ⟨written, resolves, unread⟩)
    · exact audit_of_failure (RunSettings.ofText_eq_error_iff.mpr refused)
    · exact audit_of_unreadable (RunSettings.ofText_eq_ok_iff.mpr ⟨_, written, resolves⟩) unread

/-- An audit comes about under good settings and on good resources, with all policies of the
catalog that the settings leave active. -/
theorem audit_eq_ok_iff {a : Audit} :
    audit input = .ok a ↔
      ∃ file : SettingsFile, file.WrittenIn input.settings ∧
        file.resolve input.overrides = .ok a.settings ∧
        Resource.readList input.resources = .ok a.resources ∧
        a.policies = PolicySet.ofCatalog.configured a.settings ∧
        a.notes = if Text.trim input.settings.toList = [] then [settingsMissing] else [] := by
  simp only [← isBlankText_iff_trim]
  constructor
  · intro audited
    rcases audit_cases input with ⟨_, _, ended⟩ | ⟨file, _, written, resolves, ended⟩
    · cases ended.symm.trans audited
    · rcases ended with ⟨_, _, ended⟩ | ⟨_, read, ended⟩
      · cases ended.symm.trans audited
      · cases ended.symm.trans audited
        exact ⟨file, written, resolves, read, rfl, rfl⟩
  · rintro ⟨file, written, resolves, read, policies, notes⟩
    have resolved := RunSettings.ofText_eq_ok_iff.mpr ⟨file, written, resolves⟩
    have audited := audit_of_settings resolved read
    rw [← policies, ← notes] at audited
    exact audited

/-- An input is refused exactly for a text that holds no settings, for settings that cannot be
resolved, or for a document without resources. -/
theorem exists_refused_iff :
    (∃ failure, input.Refused failure) ↔
      (Text.trim input.settings.toList ≠ [] ∧ SettingsFile.read? input.settings = none) ∨
        (∃ file failure, SettingsFile.WrittenIn input.settings file ∧
          file.resolve input.overrides = .error failure) ∨
        ∃ failure, Resource.readList input.resources = .error failure := by
  constructor
  · rintro ⟨_, ⟨⟨stated, unread⟩ | ⟨written, refused⟩⟩ | ⟨_, _, unread⟩⟩
    · exact .inl ⟨stated, unread⟩
    · exact .inr (.inl ⟨_, _, written, refused⟩)
    · exact .inr (.inr ⟨_, unread⟩)
  · rintro (⟨stated, unread⟩ | ⟨file, failure, written, refused⟩ | ⟨failure, unread⟩)
    · exact ⟨_, .settings (.unreadable stated unread)⟩
    · exact ⟨_, .settings (.unresolved written refused)⟩
    · -- Bad settings may come first, and then they are what the input is refused for.
      cases resolved : RunSettings.ofText input.settings input.overrides with
      | error refusal => exact ⟨refusal, .settings (RunSettings.ofText_eq_error_iff.mp resolved)⟩
      | ok settings =>
          obtain ⟨file, written, resolves⟩ := RunSettings.ofText_eq_ok_iff.mp resolved
          exact ⟨failure, .resources written resolves unread⟩

end

/-! ### Reports -/

/-- The report of a run on resources under settings: it names its schema and what the run was
governed by, it counts the resources, it notes missing settings, and all else is the result of the
catalog's run. -/
structure Report.Presents (input : AuditInput) (settings : RunSettings) (resources : List Resource)
    (report : Report) : Prop where
  schema : report.schema = "iacguard.report.v1"
  profile : report.data.profile = settings.profile
  failOn : report.data.failOn = settings.failOn
  reasons : report.data.reasons =
    if Text.trim input.settings.toList = [] then ["config_missing_defaulted"] else []
  reported : report.resources.length = resources.length
  scanned : resources.length < 2 ^ 32 → report.data.resourcesScanned.toNat = resources.length
  result : ∃ set, catalogUnder settings = .ok set ∧
    report.status = (set.audit settings resources).status ∧
    report.counts = (set.audit settings resources).counts ∧
    report.resources = (set.audit settings resources).resources

theorem Audit.presents {input : AuditInput} {a : Audit}
    (policies : a.policies = PolicySet.ofCatalog.configured a.settings)
    (notes : a.notes =
      if Text.trim input.settings.toList = [] then [settingsMissing] else [])
    (startedAt finishedAt : Timestamp) :
    (a.report startedAt finishedAt).Presents input a.settings a.resources where
  schema := rfl
  profile := rfl
  failOn := rfl
  reasons := notes
  reported := List.length_map _
  scanned few := UInt32.toNat_ofNat_of_lt' few
  result := by
    refine ⟨_, catalogUnder_eq_ok a.settings, ?_⟩
    rw [← policies]
    exact ⟨rfl, rfl, rfl⟩

/-- An audit fails exactly for bad input: a text that is neither blank nor readable as settings,
settings that cannot be resolved, or a document without resources.  Bad settings hide bad
resources, and the policies can be built under all settings.  All other inputs come to a report on
the resources that were read, under the settings that were resolved. -/
theorem audit_exact (input : AuditInput) :
    ((∃ failure, audit input = .error failure) ↔
      (Text.trim input.settings.toList ≠ [] ∧ SettingsFile.read? input.settings = none) ∨
        (∃ file failure, SettingsFile.WrittenIn input.settings file ∧
          file.resolve input.overrides = .error failure) ∨
        ∃ failure, Resource.readList input.resources = .error failure) ∧
      (∀ failure, audit input = .error failure ↔ input.Refused failure) ∧
      (∀ settings : RunSettings, ∃ set, settings.activePolicies = .ok set) ∧
      ∀ a, audit input = .ok a →
        ∃ file : SettingsFile, file.WrittenIn input.settings ∧
          file.resolve input.overrides = .ok a.settings ∧
          Resource.readList input.resources = .ok a.resources ∧
          ∀ startedAt finishedAt,
            (a.report startedAt finishedAt).Presents input a.settings a.resources := by
  refine ⟨?_, fun failure => audit_eq_error_iff, ?_, ?_⟩
  · rw [← exists_refused_iff]
    exact exists_congr fun failure => audit_eq_error_iff
  · intro settings
    exact ⟨_, settings.activePolicies_eq_ok⟩
  · intro a audited
    obtain ⟨file, written, resolves, read, policies, notes⟩ := audit_eq_ok_iff.mp audited
    exact ⟨file, written, resolves, read, a.presents policies notes⟩

/-- One storage account under no settings at all. -/
theorem audit_exact_ofAccount :
    let input : AuditInput := ⟨"[[\"azurerm_storage_account\", \"logs\"]]", " \n", .none⟩
    ∃ a, audit input = .ok a ∧
      (a.report .epoch .epoch).data.resourcesScanned.toNat = 1 ∧
      (a.report .epoch .epoch).data.profile = "strict" ∧
      (a.report .epoch .epoch).data.reasons = ["config_missing_defaulted"] := by
  intro input
  have resolved : RunSettings.ofText input.settings input.overrides = .ok .default := by
    cbv
  have read : Resource.readList input.resources =
      .ok [⟨"azurerm_storage_account", "logs", .scalar .null⟩] := by
    cbv
  have audited := audit_of_settings resolved read
  obtain ⟨_, _, _, _, presents⟩ := (audit_exact input).2.2.2 _ audited
  have report := presents .epoch .epoch
  refine ⟨_, audited, ?_, report.profile, ?_⟩
  · exact report.scanned (by decide)
  · rw [report.reasons, if_pos (by decide)]

end PolicyAudit
