/-
Module: PolicyAudit.Proofs.IsolatedFaults
Purpose: The rule of one policy decides nothing about the others, whatever it answers and wherever
  it breaks off.
Imports: Mathlib.Data.List.Nodup, PolicyAudit.Proofs.RunCoverage, PolicyAudit.Proofs.RunStatus
Trusted boundary: none
Main exports: Policy.withRule, Rule.settled, Policy.outcomesOn,
  PolicySet.report_outcomes_eq_flatMap, ResourceReport.AgreesExcept, PolicySet.agreesExcept_report,
  PolicySet.own_outcomes, PolicySet.audit_isolates_rule
-/
import Mathlib.Data.List.Nodup
import PolicyAudit.Proofs.RunCoverage
import PolicyAudit.Proofs.RunStatus

namespace PolicyAudit

/-- The policy with another rule in place of its own. -/
def Policy.withRule (p : Policy) (rule : Rule) : Policy :=
  { p with rule := rule }

/-- The rule that answers with a failure where the given one breaks off. -/
def Rule.settled (rule : Rule) : Rule := fun config =>
  match rule config with
  | .ok evaluation => .ok evaluation
  | .error breakdown => .ok (.failed ("policy evaluation fault: " ++ breakdown.message))

/-! ### One policy on one resource -/

namespace Policy

variable (settings : RunSettings) (resource : Resource) (p : Policy) (rule : Rule)

/-- What a run reports of a policy on a resource: one outcome or none. -/
def outcomesOn : List Outcome :=
  if settings.reportSkipped || p.appliesTo resource.resourceType then
    [p.outcome (p.answer resource)]
  else
    []

theorem policyId_of_mem_outcomesOn {o : Outcome} (member : o ∈ p.outcomesOn settings resource) :
    o.policyId = p.id := by
  unfold outcomesOn at member
  split at member
  · rw [List.mem_singleton.mp member]
    rfl
  · contradiction

/-- Of the outcomes of a policy, an identifier selects all or none. -/
theorem filter_outcomesOn (id : String) :
    (p.outcomesOn settings resource).filter (·.policyId = id) =
      if p.id = id then p.outcomesOn settings resource else [] := by
  split
  · rename_i own
    apply List.filter_eq_self.mpr
    intro o member
    exact decide_eq_true ((p.policyId_of_mem_outcomesOn settings resource member).trans own)
  · rename_i other
    apply List.filter_eq_nil_iff.mpr
    intro o member
    rwa [p.policyId_of_mem_outcomesOn settings resource member, decide_eq_true_eq]

/-- Another rule changes neither whether a policy is reported nor under which identifier. -/
theorem policyIds_outcomesOn_withRule :
    ((p.withRule rule).outcomesOn settings resource).map (·.policyId) =
      (p.outcomesOn settings resource).map (·.policyId) := by
  have sameTargets : (p.withRule rule).appliesTo resource.resourceType =
      p.appliesTo resource.resourceType := rfl
  rw [outcomesOn, sameTargets, outcomesOn]
  split <;> rfl

/-- A rule is not asked about resources that its policy does not target. -/
theorem outcomesOn_withRule_of_spared (spared : p.appliesTo resource.resourceType = false) :
    (p.withRule rule).outcomesOn settings resource = p.outcomesOn settings resource := by
  have alsoSpared : (p.withRule rule).appliesTo resource.resourceType = false := spared
  simp only [outcomesOn, answer, spared, alsoSpared]
  rfl

/-- A rule that breaks off on a resource that its policy targets fails the policy there. -/
theorem outcomesOn_of_breakdown {breakdown : Breakdown}
    (applies : p.appliesTo resource.resourceType = true)
    (broken : p.rule resource.config = .error breakdown) :
    p.outcomesOn settings resource =
      [⟨p.id, p.name, p.severity, p.category, .failed,
        some ("policy evaluation fault: " ++ breakdown.message)⟩] := by
  have answered : p.answer resource = breakdown.evaluation := by
    rw [answer, if_pos applies, run, broken]
  rw [outcomesOn, applies, Bool.or_true, if_pos rfl, answered]
  rfl

/-- It makes no difference to a run whether a rule breaks off or fails with the text of its
breakdown. -/
theorem outcomesOn_settled :
    (p.withRule rule.settled).outcomesOn settings resource =
      (p.withRule rule).outcomesOn settings resource := by
  have sameRun : (p.withRule rule.settled).run resource = (p.withRule rule).run resource := by
    simp only [run, withRule, Rule.settled]
    cases rule resource.config <;> rfl
  have sameAnswer : (p.withRule rule.settled).answer resource =
      (p.withRule rule).answer resource := by
    rw [answer, answer, sameRun]
    rfl
  rw [outcomesOn, outcomesOn, sameAnswer]
  rfl

end Policy

/-! ### One resource -/

/-- With and without skipped policies, a report puts the outcomes of the policies one after the
other. -/
theorem PolicySet.report_outcomes_eq_flatMap (set : PolicySet) (settings : RunSettings)
    (resource : Resource) :
    (set.report settings resource).outcomes =
      set.policies.flatMap (·.outcomesOn settings resource) := by
  rw [report_outcomes]
  unfold concerned Policy.outcomesOn
  split
  · rename_i shown
    simp only [shown, Bool.true_or, if_true]
    exact List.map_eq_flatMap
  · rename_i hidden
    simp only [hidden, Bool.false_or]
    induction set.policies with
    | nil => rfl
    | cons p policies inductionHypothesis =>
        rw [List.flatMap_cons, ← inductionHypothesis]
        cases applies : p.appliesTo resource.resourceType <;> simp [applies]

/-- Two reports on a resource agree except on a policy: they have outcomes for the same policies in
the same order, those of the other policies are the same, and so are all if the policy does not
target the resource. -/
structure ResourceReport.AgreesExcept (p : Policy) (x y : ResourceReport) : Prop where
  resourceType : y.resourceType = x.resourceType
  resourceId : y.resourceId = x.resourceId
  policyIds : y.outcomes.map (·.policyId) = x.outcomes.map (·.policyId)
  others : y.outcomes.filter (·.policyId ≠ p.id) = x.outcomes.filter (·.policyId ≠ p.id)
  spared : p.appliesTo x.resourceType = false → y.outcomes = x.outcomes

namespace PolicySet

variable {left right : PolicySet} {before after : List Policy} {p : Policy} {rule : Rule}

section

variable (settings : RunSettings) (resource : Resource)

/-- The outcomes of one policy of a set stand between those of the policies before and after it. -/
theorem report_outcomes_split (policies : left.policies = before ++ p :: after) :
    (left.report settings resource).outcomes =
      before.flatMap (·.outcomesOn settings resource) ++ (p.outcomesOn settings resource ++
        after.flatMap (·.outcomesOn settings resource)) := by
  rw [report_outcomes_eq_flatMap, policies, List.flatMap_append, List.flatMap_cons]

theorem agreesExcept_report (leftPolicies : left.policies = before ++ p :: after)
    (rightPolicies : right.policies = before ++ p.withRule rule :: after) :
    (left.report settings resource).AgreesExcept p (right.report settings resource) where
  resourceType := rfl
  resourceId := rfl
  policyIds := by
    rw [report_outcomes_split settings resource leftPolicies,
      report_outcomes_split settings resource rightPolicies]
    simp only [List.map_append, p.policyIds_outcomesOn_withRule]
  others := by
    have noOther : ∀ q : Policy, q.id = p.id →
        (q.outcomesOn settings resource).filter (·.policyId ≠ p.id) = [] := by
      intro q sameId
      apply List.filter_eq_nil_iff.mpr
      intro o member
      simp [q.policyId_of_mem_outcomesOn settings resource member, sameId]
    rw [report_outcomes_split settings resource leftPolicies,
      report_outcomes_split settings resource rightPolicies]
    simp only [List.filter_append, noOther p rfl, noOther (p.withRule rule) rfl]
  spared := by
    intro spared
    rw [report_outcomes_split settings resource leftPolicies,
      report_outcomes_split settings resource rightPolicies,
      p.outcomesOn_withRule_of_spared settings resource rule spared]

/-- No policy before or after another in a set has its identifier. -/
theorem id_ne_of_split (policies : left.policies = before ++ p :: after) :
    ∀ q ∈ before ++ after, q.id ≠ p.id := by
  have distinct := left.nodup_ids
  rw [policies, List.map_append, List.map_cons, List.nodup_middle, List.nodup_cons,
    ← List.map_append] at distinct
  intro q listed sameId
  apply distinct.1
  rw [← sameId]
  exact List.mem_map_of_mem listed

/-- Identifiers tell the outcomes of a policy from those of the others. -/
theorem own_outcomes (policies : left.policies = before ++ p :: after) :
    (left.report settings resource).outcomes.filter (·.policyId = p.id) =
      p.outcomesOn settings resource := by
  have others := id_ne_of_split policies
  have none : ∀ qs : List Policy, (∀ q ∈ qs, q.id ≠ p.id) →
      (qs.flatMap (·.outcomesOn settings resource)).filter (·.policyId = p.id) = [] := by
    intro qs different
    rw [List.filter_flatMap, List.flatMap_eq_nil_iff]
    intro q member
    rw [q.filter_outcomesOn, if_neg (different q member)]
  rw [report_outcomes_split settings resource policies, List.filter_append, List.filter_append,
    p.filter_outcomesOn, if_pos rfl,
    none before fun q member => others q (List.mem_append_left after member),
    none after fun q member => others q (List.mem_append_right before member),
    List.nil_append, List.append_nil]

end

/-! ### Runs -/

/-- A policy is as defective as with another rule. -/
theorem firstDefect?_withRule (seen : List String) (before after : List Policy) (p : Policy)
    (rule : Rule) :
    firstDefect? seen (before ++ p.withRule rule :: after) =
      firstDefect? seen (before ++ p :: after) := by
  induction before generalizing seen with
  | nil => rfl
  | cons q before inductionHypothesis =>
      rw [List.cons_append, List.cons_append, firstDefect?, firstDefect?, inductionHypothesis]

/-- A run does not change if a rule fails with the text of its breakdown instead of breaking off. -/
theorem exists_settled (policies : right.policies = before ++ p.withRule rule :: after) :
    ∃ settled : PolicySet, settled.policies = before ++ p.withRule rule.settled :: after ∧
      ∀ settings resources, settled.audit settings resources = right.audit settings resources := by
  have sound := right.sound
  rw [policies, firstDefect?_withRule, ← firstDefect?_withRule [] before after p rule.settled]
    at sound
  obtain ⟨settled, settledPolicies⟩ :
      ∃ settled : PolicySet, settled.policies = before ++ p.withRule rule.settled :: after :=
    ⟨⟨_, sound⟩, rfl⟩
  refine ⟨settled, settledPolicies, ?_⟩
  intro settings resources
  have sameReports : settled.report settings = right.report settings := by
    funext resource
    have sameOutcomes : (settled.report settings resource).outcomes =
        (right.report settings resource).outcomes := by
      rw [report_outcomes_split settings resource settledPolicies,
        report_outcomes_split settings resource policies, Policy.outcomesOn_settled]
    rw [ResourceReport.mk.injEq]
    exact ⟨rfl, rfl, sameOutcomes⟩
  have sameLength : settled.length = right.length := by
    rw [length, length, settledPolicies, policies, List.length_append, List.length_append]
    rfl
  rw [audit, audit, sameReports, sameLength]

/-- Exchanging the rule of one policy leaves a run as it is, up to what that policy says about the
resources it targets.  Where its rule breaks off there, its one outcome has failed with the text of
the breakdown, and the run does not pass; it fails where the policy reaches the threshold.  The
whole run is the same as with a rule that fails with that text instead of breaking off. -/
theorem audit_isolates_rule (leftPolicies : left.policies = before ++ p :: after)
    (rightPolicies : right.policies = before ++ p.withRule rule :: after)
    (settings : RunSettings) (resources : List Resource) :
    let leftRun := left.audit settings resources
    let rightRun := right.audit settings resources
    leftRun.resources.length = resources.length ∧
      List.Forall₂ (ResourceReport.AgreesExcept p) leftRun.resources rightRun.resources ∧
      (∀ (k : Nat) (resource : Resource) (breakdown : Breakdown), resources[k]? = some resource →
        p.appliesTo resource.resourceType = true → rule resource.config = .error breakdown →
        (∃ report, rightRun.resources[k]? = some report ∧
          report.outcomes.filter (·.policyId = p.id) =
            [⟨p.id, p.name, p.severity, p.category, .failed,
              some ("policy evaluation fault: " ++ breakdown.message)⟩]) ∧
        rightRun.status ≠ .pass ∧
        (settings.failOn ≤ p.severity → rightRun.status = .fail)) ∧
      ∃ settled : PolicySet, settled.policies = before ++ p.withRule rule.settled :: after ∧
        settled.audit settings resources = rightRun := by
  intro leftRun rightRun
  refine ⟨List.length_map _, ?_, ?_, ?_⟩
  · apply List.forall₂_map_left_iff.mpr
    apply List.forall₂_map_right_iff.mpr
    apply List.forall₂_same.mpr
    intro resource _
    exact agreesExcept_report settings resource leftPolicies rightPolicies
  · intro k resource breakdown here applies broken
    have own := own_outcomes settings resource rightPolicies
    rw [(p.withRule rule).outcomesOn_of_breakdown settings resource applies broken] at own
    have reported : rightRun.resources[k]? = some (right.report settings resource) := by
      simp [rightRun, audit, here]
    have failed : HasFailed rightRun.resources ⟨p.id, p.name, p.severity, p.category, .failed,
        some ("policy evaluation fault: " ++ breakdown.message)⟩ := by
      refine ⟨_, List.mem_of_getElem? reported, ?_, rfl⟩
      exact List.mem_of_mem_filter (own ▸ List.mem_singleton_self _)
    refine ⟨⟨_, reported, own⟩, ?_, ?_⟩
    · intro passes
      exact (runStatus_eq_pass_iff settings.failOn rightRun.resources).mp passes _ failed
    · intro reaches
      exact (runStatus_eq_fail_iff settings.failOn rightRun.resources).mpr ⟨_, failed, reaches⟩
  · obtain ⟨settled, policies, same⟩ := exists_settled rightPolicies
    exact ⟨settled, policies, same settings resources⟩

/-- Three policies on one type, all with rules that answer. -/
def ofNeighbours : PolicySet where
  policies :=
    [ ⟨"T_1", "passes", .logging, .low, ["vault"], fun _ => .ok .passed⟩,
      ⟨"T_2", "may break off", .iam, .high, ["vault"], fun _ => .ok .passed⟩,
      ⟨"T_3", "fails", .secrets, .low, ["vault", "store"], fun _ => .ok (.failed "reason")⟩ ]
  sound := by decide +kernel

/-- A rule that breaks off where there is no block. -/
def ruleOfBlocks : Rule := fun config =>
  if config.block?.isSome then .ok .passed else .error (.said "bad rule")

/-- The same policies, with another rule for the one in the middle. -/
def ofFaultyNeighbour : PolicySet where
  policies :=
    [ ⟨"T_1", "passes", .logging, .low, ["vault"], fun _ => .ok .passed⟩,
      ⟨"T_2", "may break off", .iam, .high, ["vault"], ruleOfBlocks⟩,
      ⟨"T_3", "fails", .secrets, .low, ["vault", "store"], fun _ => .ok (.failed "reason")⟩ ]
  sound := by decide +kernel

/-- The breakdown on the second resource counts like any other failure: there is one failed outcome
more than without it, and as many as with a rule that fails with the same text. -/
theorem audit_isolates_rule_ofFaultyNeighbour :
    let resources : List Resource := [⟨"vault", "a", .mapping []⟩, ⟨"vault", "b", .scalar .null⟩]
    let settings := { RunSettings.default with failOn := .high }
    let quiet := ofNeighbours.audit settings resources
    let run := ofFaultyNeighbour.audit settings resources
    (∃ report, run.resources[1]? = some report ∧ report.outcomes.filter (·.policyId = "T_2") =
      [⟨"T_2", "may break off", .high, .iam, .failed,
        some "policy evaluation fault: bad rule"⟩]) ∧
      run.status = .fail ∧
      List.Forall₂ (ResourceReport.AgreesExcept ofNeighbours.policies[1])
        quiet.resources run.resources ∧
      quiet.counts = ⟨4, 2, 0⟩ ∧ run.counts = ⟨3, 3, 0⟩ ∧
      ∃ settled : PolicySet,
        (settled.policies[1]?.map fun p => p.rule (.scalar .null)) =
            some (.ok (.failed "policy evaluation fault: bad rule")) ∧
          settled.audit settings resources = run := by
  intro resources settings quiet run
  have isolated := @audit_isolates_rule ofNeighbours ofFaultyNeighbour [_] [_] _ ruleOfBlocks
    rfl rfl settings resources
  obtain ⟨-, agree, faults, settled, policies, same⟩ := isolated
  obtain ⟨own, _, fails⟩ := faults 1 _ (.said "bad rule") rfl rfl rfl
  have counted : quiet.counts = ⟨4, 2, 0⟩ ∧ run.counts = ⟨3, 3, 0⟩ := by decide +kernel
  refine ⟨own, fails (by decide), agree, counted.1, counted.2, settled, ?_, same⟩
  rw [policies]
  rfl

end PolicySet

end PolicyAudit
