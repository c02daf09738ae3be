/-
Module: PolicyAudit.Report.Summary
Purpose: What readers are shown of a report: its counts and its findings.
Imports: PolicyAudit.Report.Basic
Trusted boundary: none
Main exports: Finding, SummaryCounts, Summary, Report.summary
-/
import PolicyAudit.Report.Basic

namespace PolicyAudit

/-- A failed outcome together with its resource. -/
structure Finding where
  resourceType : String
  resourceId : String
  policyId : String
  policyName : String
  severity : Severity
  reason : Option String
deriving Repr, Inhabited, DecidableEq

structure SummaryCounts where
  resources : UInt32
  passed : UInt32
  failed : UInt32
  skipped : UInt32
deriving Repr, Inhabited, DecidableEq

/-- What readers are shown of a report. -/
structure Summary where
  status : RunStatus
  counts : SummaryCounts
  findings : List Finding
  /-- Notes on the run as a whole. -/
  notes : List String
deriving Repr, Inhabited, DecidableEq

def Outcome.finding (resource : ResourceReport) (o : Outcome) : Finding where
  resourceType := resource.resourceType
  resourceId := resource.resourceId
  policyId := o.policyId
  policyName := o.policyName
  severity := o.severity
  reason := o.reason

/-- The findings of a resource, in the order of its outcomes. -/
def ResourceReport.findings (r : ResourceReport) : List Finding :=
  r.failed.map (Outcome.finding r)

def Report.summary (r : Report) : Summary where
  status := r.status
  counts := ⟨r.data.resourcesScanned, r.counts.passed, r.counts.failed, r.counts.skipped⟩
  findings := r.resources.flatMap (·.findings)
  notes := r.data.reasons

end PolicyAudit
