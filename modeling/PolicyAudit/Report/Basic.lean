/-
Module: PolicyAudit.Report.Basic
Purpose: What a run reports, policy by policy, resource by resource and as a whole.
Imports: PolicyAudit.Timestamp, PolicyAudit.Vocabulary
Trusted boundary: none
Main exports: Outcome, ResourceReport, Counts, Tool, RunData, Report
-/
import PolicyAudit.Timestamp
import PolicyAudit.Vocabulary

namespace PolicyAudit

/-- What one policy says about one resource. -/
structure Outcome where
  policyId : String
  policyName : String
  severity : Severity
  category : Category
  verdict : Verdict
  /-- A text for readers; nothing is decided by it. -/
  reason : Option String
deriving Repr, Inhabited, DecidableEq

def Outcome.isFailed (o : Outcome) : Bool :=
  o.verdict == .failed

/-- The outcomes of one resource, in the order of the policies. -/
structure ResourceReport where
  resourceType : String
  resourceId : String
  outcomes : List Outcome
deriving Repr, Inhabited, DecidableEq

/-- The failed outcomes, in order. -/
def ResourceReport.failed (r : ResourceReport) : List Outcome :=
  r.outcomes.filter (·.isFailed)

/-- How many outcomes have each verdict. -/
structure Counts where
  passed : UInt32
  failed : UInt32
  skipped : UInt32
deriving Repr, Inhabited, DecidableEq

namespace Counts

def zero : Counts := ⟨0, 0, 0⟩

/-- Count one more outcome. -/
def record (c : Counts) : Verdict → Counts
  | .passed => { c with passed := c.passed + 1 }
  | .failed => { c with failed := c.failed + 1 }
  | .skipped => { c with skipped := c.skipped + 1 }

end Counts

structure Tool where
  name : String
  version : String
deriving Repr, Inhabited, DecidableEq

/-- The tool that writes the reports. -/
def thisTool : Tool := ⟨"iacguard", "0.1.0"⟩

/-- What a run was governed by and how large it was. -/
structure RunData where
  profile : String
  failOn : Severity
  resourcesScanned : UInt32
  policiesActive : UInt32
  reasons : List String
deriving Repr, Inhabited, DecidableEq

/-- The report of a run. -/
structure Report where
  schema : String
  tool : Tool
  startedAt : Timestamp
  finishedAt : Timestamp
  status : RunStatus
  counts : Counts
  resources : List ResourceReport
  data : RunData
deriving Repr, Inhabited, DecidableEq

/-- The schema that every report names. -/
def reportSchema : String := "iacguard.report.v1"

end PolicyAudit
