/-
Module: PolicyAudit.Run.Evaluate
Purpose: Policy sets evaluated on resources, and the results of whole runs.
Imports: PolicyAudit.Policy.Registry, PolicyAudit.Report.Basic
Trusted boundary: none
Main exports: Resource, Policy.run, PolicySet.evaluate, PolicySet.evaluateAll,
  PolicySet.report, RunResult, PolicySet.audit
-/
import PolicyAudit.Policy.Registry
import PolicyAudit.Report.Basic

namespace PolicyAudit

/-- A declared resource with its configuration. -/
structure Resource where
  resourceType : String
  resourceId : String
  config : ConfigTree
deriving Repr, Inhabited

/-- The evaluation that stands for a rule that broke off. -/
def Breakdown.evaluation (b : Breakdown) : Evaluation :=
  .failed ("policy evaluation fault: " ++ b.message)

/-- A rule that breaks off fails its policy on this resource and does nothing else. -/
def Policy.run (p : Policy) (resource : Resource) : Evaluation :=
  match p.rule resource.config with
  | .ok evaluation => evaluation
  | .error breakdown => breakdown.evaluation

def Policy.outcome (p : Policy) (evaluation : Evaluation) : Outcome where
  policyId := p.id
  policyName := p.name
  severity := p.severity
  category := p.category
  verdict := evaluation.verdict
  reason := evaluation.reason

/-- What a policy says about a resource of a type that it does not target. -/
def Resource.notTargeted (resource : Resource) : Evaluation :=
  .skipped ("resource type " ++ resource.resourceType ++ " is not targeted")

namespace PolicySet

/-- The evaluations of the policies that target the resource, in order. -/
def evaluate (set : PolicySet) (resource : Resource) : List (Policy × Evaluation) :=
  (set.policies.filter (·.appliesTo resource.resourceType)).map fun p => (p, p.run resource)

/-- The evaluations of all policies, in order; those that do not target the resource are
skipped. -/
def evaluateAll (set : PolicySet) (resource : Resource) : List (Policy × Evaluation) :=
  set.policies.map fun p =>
    (p, if p.appliesTo resource.resourceType then p.run resource else resource.notTargeted)

/-- The evaluations that a run reports. -/
def reported (set : PolicySet) (settings : RunSettings) (resource : Resource) :
    List (Policy × Evaluation) :=
  if settings.reportSkipped then set.evaluateAll resource else set.evaluate resource

def report (set : PolicySet) (settings : RunSettings) (resource : Resource) : ResourceReport where
  resourceType := resource.resourceType
  resourceId := resource.resourceId
  outcomes := (set.reported settings resource).map fun (p, evaluation) => p.outcome evaluation

end PolicySet

/-- The failed outcomes of a run, in order. -/
def failedOutcomes (reports : List ResourceReport) : List Outcome :=
  reports.flatMap (·.failed)

/-- A failed outcome at or above the threshold fails the run, any other failed outcome is only
worth a warning. -/
def runStatus (failOn : Severity) (reports : List ResourceReport) : RunStatus :=
  let failed := failedOutcomes reports
  if failed.any fun o => decide (failOn ≤ o.severity) then .fail
  else if failed.isEmpty then .pass
  else .warn

def runCounts (reports : List ResourceReport) : Counts :=
  (reports.flatMap (·.outcomes)).foldl (fun c o => c.record o.verdict) .zero

/-- The result of a run. -/
structure RunResult where
  status : RunStatus
  counts : Counts
  resources : List ResourceReport
  policiesActive : UInt32
deriving Repr, Inhabited, DecidableEq

/-- Evaluate every resource, in order. -/
def PolicySet.audit (set : PolicySet) (settings : RunSettings) (resources : List Resource) :
    RunResult :=
  let reports := resources.map (set.report settings)
  { status := runStatus settings.failOn reports
    counts := runCounts reports
    resources := reports
    policiesActive := .ofNat set.length }

end PolicyAudit
