/-
Module: PolicyAudit.Settings.Resolve
Purpose: The settings of a run: a profile, what the settings file says, and what is overridden.
Imports: PolicyAudit.Failure, PolicyAudit.Policy.Explanation, PolicyAudit.Settings.File,
  PolicyAudit.Text.LowerCase
Trusted boundary: none
Main exports: Overrides, RunSettings.ofProfile, Severity.ofWord?, SettingsFile.resolve
-/
import PolicyAudit.Failure
import PolicyAudit.Policy.Explanation
import PolicyAudit.Settings.File
import PolicyAudit.Text.LowerCase

namespace PolicyAudit

/-- What is said outside the settings file and counts more than it. -/
structure Overrides where
  profile : Option String
  failOn : Option String
deriving Repr, Inhabited, DecidableEq

def Overrides.none : Overrides := ⟨.none, .none⟩

/-- The settings of a profile.  The advisory one lets low and medium failures pass with a
warning; every other name stands for the strict one. -/
def RunSettings.ofProfile (profile : String) : RunSettings :=
  if profile = "advisory" then
    { RunSettings.default with profile := "advisory", failOn := .high }
  else
    .default

/-- The severity of a word, in whatever case its ASCII letters are. -/
def Severity.ofWord? (word : String) : Option Severity :=
  Severity.all.find? fun s => Text.lowerAscii s.word = Text.lowerAscii word

namespace FileSetting

/-- What is wrong with the setting of a policy: the identifier counts before the severity. -/
def failure? (id : String) (setting : FileSetting) : Option Failure :=
  if knownIds.contains id then
    match setting.severity with
    | none => none
    | some word =>
        if (Severity.ofWord? word).isNone then
          some ⟨[.readSeverityOf id], .unknownSeverity word⟩
        else
          none
  else
    some (.of (.unknownPolicy id))

/-- The setting with its severity read. -/
def resolved (setting : FileSetting) : PolicySetting :=
  ⟨setting.enabled, setting.severity.bind Severity.ofWord?⟩

end FileSetting

namespace SettingsFile

/-- The failure of the first bad entry, in ascending order of the identifiers. -/
def policyFailure? (file : SettingsFile) : Option Failure :=
  file.policies.entries.findSome? fun entry => entry.2.failure? entry.1

/-- The threshold: what is overridden, else what the file says, else what the profile has. -/
def threshold (file : SettingsFile) (overrides : Overrides) (profile : RunSettings) :
    Except Failure Severity :=
  match overrides.failOn.or file.failOn with
  | none => .ok profile.failOn
  | some word =>
      match Severity.ofWord? word with
      | some severity => .ok severity
      | none => .error ⟨[.readThreshold], .unknownSeverity word⟩

/-- The settings of a run.  Bad entries for policies are reported before a bad threshold. -/
def resolve (file : SettingsFile) (overrides : Overrides) : Except Failure RunSettings :=
  let profile := RunSettings.ofProfile ((overrides.profile.or file.profile).getD "strict")
  match file.policyFailure? with
  | some failure => .error failure
  | none =>
      (file.threshold overrides profile).map fun failOn =>
        { profile := profile.profile
          failOn := failOn
          reportSkipped := file.reportSkipped.getD profile.reportSkipped
          policies := file.policies.map FileSetting.resolved }

end SettingsFile

end PolicyAudit
