/-
Module: PolicyAudit.Proofs.SkippedOutcomes
Purpose: Reporting skipped policies adds outcomes to a run and changes nothing else in it.
Imports: Mathlib.Data.List.ProdSigma, PolicyAudit.Report.Summary, PolicyAudit.Run.Audit,
  PolicyAudit.Proofs.FirstDefect, PolicyAudit.Proofs.WeakerSettings
Trusted boundary: none
Main exports: RunSettings.showing, ResourceReport.targeted, PolicySet.targeted_report,
  PolicySet.failedOutcomes_audit_showing, PolicySet.countP_outcomes_showing,
  PolicySet.audit_showing
-/
import Mathlib.Data.List.ProdSigma
import PolicyAudit.Report.Summary
import PolicyAudit.Run.Audit
import PolicyAudit.Proofs.FirstDefect
import PolicyAudit.Proofs.WeakerSettings

namespace PolicyAudit

/-- The settings under which skipped policies are reported, or left out. -/
def RunSettings.showing (settings : RunSettings) (reportSkipped : Bool) : RunSettings :=
  { settings with reportSkipped := reportSkipped }

/-- The report without the outcomes of policies that do not target its resource. -/
def ResourceReport.targeted (set : PolicySet) (report : ResourceReport) : ResourceReport :=
  { report with
    outcomes := report.outcomes.filter fun o =>
      (set.find? o.policyId).any (·.appliesTo report.resourceType) }

/-- Two runs with the same threshold in which the same has failed have the same status. -/
theorem runStatus_of_failedOutcomes_eq {failOn : Severity} {xs ys : List ResourceReport}
    (same : failedOutcomes xs = failedOutcomes ys) : runStatus failOn xs = runStatus failOn ys := by
  rw [runStatus, runStatus, same]

namespace PolicySet

/-! ### One resource -/

section

variable (set : PolicySet) (settings : RunSettings) (resource : Resource)

/-- Deleting the outcomes of policies that do not target a resource leaves its report without
skipped policies.  They cannot be told by their verdict, for a rule may skip as well. -/
theorem targeted_report :
    (set.report (settings.showing true) resource).targeted set =
      set.report (settings.showing false) resource := by
  have outcomes : ((set.report (settings.showing true) resource).targeted set).outcomes =
      (set.report (settings.showing false) resource).outcomes := by
    simp only [ResourceReport.targeted, report_outcomes, List.filter_map]
    apply congrArg
    apply List.filter_congr
    intro p member
    have found : set.find? p.id = some p := find?_eq_some_iff.mpr ⟨member, rfl⟩
    simp [Policy.outcome, found, report]
  rw [ResourceReport.mk.injEq]
  exact ⟨rfl, rfl, outcomes⟩

/-- No outcome that has failed is deleted. -/
theorem failed_targeted :
    ((set.report settings resource).targeted set).failed = (set.report settings resource).failed := by
  rw [ResourceReport.failed, ResourceReport.targeted, List.filter_filter, ResourceReport.failed]
  apply List.filter_congr
  intro o member
  rw [report_outcomes] at member
  obtain ⟨p, concerned, rfl⟩ := List.mem_map.mp member
  cases failed : (p.outcome (p.answer resource)).isFailed with
  | false => rfl
  | true =>
      have verdict : (p.answer resource).verdict = .failed := by
        simpa [Outcome.isFailed, Policy.outcome] using failed
      have applies := (Policy.answer_failed_iff.mp verdict).1
      have found : set.find? p.id = some p :=
        find?_eq_some_iff.mpr ⟨set.mem_policies_of_concerned settings concerned, rfl⟩
      simp [Policy.outcome, found, report, applies]

theorem failed_report_showing :
    (set.report (settings.showing true) resource).failed =
      (set.report (settings.showing false) resource).failed := by
  rw [← failed_targeted, targeted_report]

/-- A policy that does not target a resource adds a skipped outcome to its report, and nothing
else is added. -/
theorem countP_answers (policies : List Policy) (v : Verdict) :
    (policies.map fun p => p.outcome (p.answer resource)).countP (·.verdict = v) =
      ((policies.filter (·.appliesTo resource.resourceType)).map fun p =>
        p.outcome (p.answer resource)).countP (·.verdict = v) +
        if v = .skipped then policies.countP fun p => !p.appliesTo resource.resourceType else 0 := by
  induction policies with
  | nil => simp
  | cons p policies inductionHypothesis =>
      rw [List.map_cons, List.countP_cons, inductionHypothesis, List.countP_cons]
      cases applies : p.appliesTo resource.resourceType with
      | true =>
          rw [List.filter_cons_of_pos (by simpa using applies), List.map_cons, List.countP_cons]
          simp [Nat.add_right_comm]
      | false =>
          have skipped : (p.outcome (p.answer resource)).verdict = .skipped := by
            simp [Policy.outcome, Policy.answer, applies, Resource.notTargeted, Evaluation.skipped]
          rw [List.filter_cons_of_neg (by simp [applies]), skipped]
          cases v <;> simp [Nat.add_assoc]

end

/-! ### Runs -/

section

variable (set : PolicySet) (settings : RunSettings) (resources : List Resource)

theorem resources_audit_targeted :
    (set.audit (settings.showing true) resources).resources.map (·.targeted set) =
      (set.audit (settings.showing false) resources).resources := by
  rw [audit, audit, List.map_map]
  apply List.map_congr_left
  intro resource _
  exact set.targeted_report settings resource

theorem failedOutcomes_audit_showing :
    failedOutcomes (set.audit (settings.showing true) resources).resources =
      failedOutcomes (set.audit (settings.showing false) resources).resources := by
  rw [failedOutcomes, failedOutcomes, audit, audit, List.flatMap_map, List.flatMap_map]
  simp only [set.failed_report_showing settings]

theorem findings_audit_showing :
    (set.audit (settings.showing true) resources).resources.flatMap (·.findings) =
      (set.audit (settings.showing false) resources).resources.flatMap (·.findings) := by
  have findings : ∀ resource, (set.report (settings.showing true) resource).findings =
      (set.report (settings.showing false) resource).findings := by
    intro resource
    rw [ResourceReport.findings, failed_report_showing]
    rfl
  rw [audit, audit, List.flatMap_map, List.flatMap_map]
  simp only [findings]

/-- Over a whole run, a skipped outcome is added for each resource and policy that does not target
it, and nothing else is added. -/
theorem countP_outcomes_showing (v : Verdict) :
    ((set.audit (settings.showing true) resources).resources.flatMap (·.outcomes)).countP
        (·.verdict = v) =
      ((set.audit (settings.showing false) resources).resources.flatMap (·.outcomes)).countP
        (·.verdict = v) +
        if v = .skipped then
          (resources ×ˢ set.policies).countP fun (resource, p) =>
            !p.appliesTo resource.resourceType
        else 0 := by
  induction resources with
  | nil => simp [audit]
  | cons resource resources inductionHypothesis =>
      have here : ((set.report (settings.showing true) resource).outcomes).countP (·.verdict = v) =
          ((set.report (settings.showing false) resource).outcomes).countP (·.verdict = v) +
            if v = .skipped then
              set.policies.countP fun p => !p.appliesTo resource.resourceType else 0 := by
        rw [report_outcomes, report_outcomes]
        exact countP_answers resource set.policies v
      simp only [audit] at inductionHypothesis ⊢
      rw [List.map_cons, List.flatMap_cons, List.countP_append, here, inductionHypothesis,
        List.map_cons, List.flatMap_cons, List.countP_append, List.product_cons,
        List.countP_append, List.countP_map]
      split
      · exact Nat.add_add_add_comm _ _ _ _
      · rfl

/-- The run without skipped policies can be counted if the other can. -/
theorem length_outcomes_showing_le :
    ((set.audit (settings.showing false) resources).resources.flatMap (·.outcomes)).length ≤
      ((set.audit (settings.showing true) resources).resources.flatMap (·.outcomes)).length := by
  have passed := set.countP_outcomes_showing settings resources .passed
  have failed := set.countP_outcomes_showing settings resources .failed
  have skipped := set.countP_outcomes_showing settings resources .skipped
  rw [← sum_countP_verdict, ← sum_countP_verdict, passed, failed, skipped]
  simp only [reduceCtorEq, if_false, if_true]
  omega

/-- A verdict that is not a skip has the same count in both runs. -/
theorem runCounts_of_showing {v : Verdict} (counted : v ≠ .skipped) :
    (runCounts (set.audit (settings.showing true) resources).resources).of v =
      (runCounts (set.audit (settings.showing false) resources).resources).of v := by
  rw [runCounts, Counts.of_foldl_record, countP_outcomes_showing, if_neg counted, runCounts,
    Counts.of_foldl_record, Nat.add_zero]

end

/-- Reporting skipped policies is conservative.  Without the outcomes of policies that do not target
the resource, the reports are those of the run that leaves skipped policies out; the status, what
has passed and failed, and the findings are the same.  As long as the outcomes can be counted, the
run has one more skipped outcome for each resource and policy that does not target it. -/
theorem audit_showing (set : PolicySet) (settings : RunSettings) (resources : List Resource) :
    let full := set.audit (settings.showing true) resources
    let plain := set.audit (settings.showing false) resources
    full.resources.map (·.targeted set) = plain.resources ∧
      full.status = plain.status ∧
      full.counts.passed = plain.counts.passed ∧
      full.counts.failed = plain.counts.failed ∧
      (∀ notes fullStart fullEnd plainStart plainEnd,
        ((Audit.mk (settings.showing true) set resources notes).report
          fullStart fullEnd).summary.findings =
        ((Audit.mk (settings.showing false) set resources notes).report
          plainStart plainEnd).summary.findings) ∧
      ((full.resources.flatMap (·.outcomes)).length < 2 ^ 32 →
        full.counts.skipped.toNat = plain.counts.skipped.toNat +
          (resources ×ˢ set.policies).countP fun (resource, p) =>
            !p.appliesTo resource.resourceType) := by
  intro full plain
  have status : full.status = plain.status :=
    runStatus_of_failedOutcomes_eq (set.failedOutcomes_audit_showing settings resources)
  refine ⟨set.resources_audit_targeted settings resources, status,
    set.runCounts_of_showing settings resources (v := .passed) (by simp),
    set.runCounts_of_showing settings resources (v := .failed) (by simp), ?_, ?_⟩
  · intro notes fullStart fullEnd plainStart plainEnd
    exact set.findings_audit_showing settings resources
  · intro few
    have plainFew := Nat.lt_of_le_of_lt (set.length_outcomes_showing_le settings resources) few
    calc full.counts.skipped.toNat
      _ = (full.resources.flatMap (·.outcomes)).countP (·.verdict = .skipped) :=
        toNat_runCounts_of few .skipped
      _ = _ := set.countP_outcomes_showing settings resources .skipped
      _ = _ := by rw [← toNat_runCounts_of plainFew .skipped]; rfl

/-- A policy whose rule skips what it targets, and one whose rule breaks off. -/
def ofSkips : PolicySet where
  policies :=
    [ ⟨"T_1", "skips", .logging, .low, ["vault"], fun _ => .ok (.skipped "reason")⟩,
      ⟨"T_2", "breaks off", .iam, .high, ["vault", "store"], fun _ => .error .unreadable⟩ ]
  sound := by decide +kernel

theorem audit_showing_ofSkips :
    let full := ofSkips.audit (RunSettings.default.showing true)
      [⟨"store", "a", .scalar .null⟩, ⟨"vault", "b", .scalar .null⟩, ⟨"other", "c", .scalar .null⟩]
    (full.resources.flatMap (·.outcomes)).length < 2 ^ 32 ∧ full.counts.skipped.toNat = 1 + 3 := by
  intro full
  have few : (full.resources.flatMap (·.outcomes)).length < 2 ^ 32 := by decide +kernel
  have counted := (audit_showing ofSkips .default _).2.2.2.2.2 few
  exact ⟨few, counted.trans (by decide +kernel)⟩

end PolicySet

end PolicyAudit
