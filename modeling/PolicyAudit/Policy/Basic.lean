/-
Module: PolicyAudit.Policy.Basic
Purpose: Policies, and the settings that a run gives them.
Imports: PolicyAudit.Rule.Basic, PolicyAudit.Table, PolicyAudit.Text.Quoted
Trusted boundary: none
Main exports: Policy, PolicySummary, PolicySetting, RunSettings, RunSettings.isEnabled,
  RunSettings.severityOverride?
-/
import PolicyAudit.Rule.Basic
import PolicyAudit.Table
import PolicyAudit.Text.Quoted

namespace PolicyAudit

/-- A rule under a stable identifier, for the resource types it targets. -/
structure Policy where
  id : String
  name : String
  category : Category
  severity : Severity
  targets : List String
  rule : Rule

namespace Policy

def appliesTo (p : Policy) (resourceType : String) : Bool :=
  p.targets.contains resourceType

/-- The targets in ascending order, each once. -/
def targetList (p : Policy) : List String :=
  (Table.ofList (p.targets.map (·, ()))).keys

/-- What can be seen of a policy. -/
def describe (p : Policy) : String :=
  "PolicyDefinition \x7b id: " ++ Text.quoted p.id ++ ", name: " ++ Text.quoted p.name ++
    ", category: " ++ p.category.name ++ ", severity: " ++ p.severity.name ++
    ", target_types: \x7b" ++ ", ".intercalate (p.targetList.map Text.quoted) ++ "\x7d, .. \x7d"

end Policy

/-- What a list of policies shows of one of them. -/
structure PolicySummary where
  id : String
  name : String
  severity : Severity
  category : Category
  /-- In ascending order, each once. -/
  targets : List String
deriving Repr, Inhabited, DecidableEq

def Policy.summary (p : Policy) : PolicySummary where
  id := p.id
  name := p.name
  severity := p.severity
  category := p.category
  targets := p.targetList

/-- What a run changes about one policy. -/
structure PolicySetting where
  enabled : Option Bool
  severity : Option Severity
deriving Repr, Inhabited, DecidableEq

def PolicySetting.unchanged : PolicySetting := ⟨none, none⟩

/-- What a run is governed by. -/
structure RunSettings where
  profile : String
  /-- The lowest severity at which a failed policy fails the run. -/
  failOn : Severity
  /-- Policies that do not target a resource are reported as skipped. -/
  reportSkipped : Bool
  policies : Table PolicySetting

namespace RunSettings

def default : RunSettings := ⟨"strict", .low, false, .empty⟩

instance : Inhabited RunSettings := ⟨default⟩

def isEnabled (settings : RunSettings) (id : String) : Bool :=
  ((settings.policies.find? id).bind (·.enabled)).getD true

def severityOverride? (settings : RunSettings) (id : String) : Option Severity :=
  (settings.policies.find? id).bind (·.severity)

/-- Change the setting of one policy. -/
def adjust (settings : RunSettings) (id : String) (f : PolicySetting → PolicySetting) :
    RunSettings :=
  { settings with
    policies := settings.policies.update id fun old => f (old.getD .unchanged) }

def disable (settings : RunSettings) (id : String) : RunSettings :=
  settings.adjust id fun old => { old with enabled := some false }

def overrideSeverity (settings : RunSettings) (id : String) (severity : Severity) : RunSettings :=
  settings.adjust id fun old => { old with severity := some severity }

end RunSettings

end PolicyAudit
