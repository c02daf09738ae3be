/-
Module: PolicyAudit.Run.Audit
Purpose: The built-in policies run on declared resources under written settings.
Imports: PolicyAudit.Log, PolicyAudit.Resource.Declaration, PolicyAudit.Settings.Resolve
Trusted boundary: none
Main exports: RunSettings.ofText, activePolicies, listPolicies, AuditInput, Audit, audit,
  Audit.report, Audit.events, failureReport
-/
import PolicyAudit.Log
import PolicyAudit.Resource.Declaration
import PolicyAudit.Settings.Resolve

namespace PolicyAudit

/-! ### Settings and policies -/

/-- What a settings text says; a blank one says nothing. -/
def SettingsFile.ofText (text : String) : Except Failure SettingsFile :=
  if Text.isBlankText text then
    .ok .empty
  else
    match SettingsFile.read? text with
    | some file => .ok file
    | none => .error ⟨[.readSettings], .toml⟩

def RunSettings.ofText (text : String) (overrides : Overrides) : Except Failure RunSettings := do
  let file ← SettingsFile.ofText text
  attempt .resolveSettings (file.resolve overrides)

/-- The active policies of the catalog. -/
def RunSettings.activePolicies (settings : RunSettings) : Except Failure PolicySet :=
  match catalogUnder settings with
  | .ok policies => .ok policies
  | .error defect => .error ⟨[.buildPolicies], .policy defect⟩

/-- The policies that are active under a settings text. -/
def activePolicies (text : String) (overrides : Overrides) : Except Failure PolicySet := do
  let settings ← RunSettings.ofText text overrides
  settings.activePolicies

/-- The list of the policies that are active under a settings text, in the order of the
catalog. -/
def listPolicies (text : String) (overrides : Overrides) :
    Except Failure (List PolicySummary) := do
  let set ← activePolicies text overrides
  .ok (set.policies.map (·.summary))

/-! ### Audits -/

/-- What an audit is made of. -/
structure AuditInput where
  /-- The document of the resources. -/
  resources : String
  /-- The text of the settings. -/
  settings : String
  overrides : Overrides
deriving Repr, Inhabited

/-- What comes out of an audit, apart from its times. -/
structure Audit where
  settings : RunSettings
  policies : PolicySet
  resources : List Resource
  /-- Notes on the run as a whole. -/
  notes : List String

/-- The note on a run without settings. -/
def settingsMissing : String := "config_missing_defaulted"

/-- Bad settings are reported before bad resources. -/
def audit (input : AuditInput) : Except Failure Audit := do
  let settings ← RunSettings.ofText input.settings input.overrides
  let policies ← settings.activePolicies
  let resources ← Resource.readList input.resources
  .ok
    { settings := settings
      policies := policies
      resources := resources
      notes := if Text.isBlankText input.settings then [settingsMissing] else [] }

namespace Audit

def result (a : Audit) : RunResult :=
  a.policies.audit a.settings a.resources

def report (a : Audit) (startedAt finishedAt : Timestamp) : Report :=
  let result := a.result
  { schema := reportSchema
    tool := thisTool
    startedAt := startedAt
    finishedAt := finishedAt
    status := result.status
    counts := result.counts
    resources := result.resources
    data :=
      { profile := a.settings.profile
        failOn := a.settings.failOn
        resourcesScanned := .ofNat a.resources.length
        policiesActive := result.policiesActive
        reasons := a.notes } }

/-! ### Events -/

/-- A resource has been evaluated. -/
def evaluated (a : Audit) (resource : Resource) : Log.Event where
  area := .evaluation
  level := .debug
  message := "evaluated resource"
  fields :=
    [ ("resource_type", resource.resourceType), ("resource_id", resource.resourceId),
      ("policies", Decimal.text (a.policies.reported a.settings resource).length) ]

/-- What happens in the audit, in order. -/
def events (a : Audit) : List Log.Event :=
  let result := a.result
  { area := .audit
    level := .info
    message := "starting audit"
    fields :=
      [ ("resources", Decimal.text a.resources.length),
        ("policies", Decimal.text a.policies.length),
        ("profile", a.settings.profile) ] } ::
    (a.resources.map a.evaluated ++
      [ { area := .audit
          level := .info
          message := "audit finished"
          fields :=
            [ ("status", result.status.name), ("passed", Decimal.text result.counts.passed.toNat),
              ("failed", Decimal.text result.counts.failed.toNat) ] } ])

end Audit

/-! ### Failed audits -/

/-- The report of a run that did not come about. -/
def failureReport (message : String) (time : Timestamp) : Report where
  schema := reportSchema
  tool := thisTool
  startedAt := time
  finishedAt := time
  status := .fail
  counts := .zero
  resources := []
  data :=
    { profile := "unknown"
      failOn := .low
      resourcesScanned := 0
      policiesActive := 0
      reasons := ["tool.runtime: " ++ message] }

end PolicyAudit
