/-
Module: PolicyAudit.Proofs.RunCoverage
Purpose: A run reports every resource once, and on it every policy concerned once.
Imports: Mathlib.Algebra.GroupWithZero.Nat, Mathlib.Data.List.Forall2,
  PolicyAudit.Proofs.PolicyCheck, PolicyAudit.Proofs.RunCounts
Trusted boundary: none
Main exports: Policy.answer, PolicySet.concerned, PolicySet.report_outcomes, PolicySet.Covers,
  PolicySet.covers_report, PolicySet.length_outcomes, PolicySet.audit_covers
-/
import Mathlib.Algebra.GroupWithZero.Nat
import Mathlib.Data.List.Forall2
import PolicyAudit.Proofs.PolicyCheck
import PolicyAudit.Proofs.RunCounts

namespace PolicyAudit

/-- What a policy says about a resource, targeted or not. -/
def Policy.answer (p : Policy) (resource : Resource) : Evaluation :=
  if p.appliesTo resource.resourceType then p.run resource else resource.notTargeted

namespace PolicySet

variable (set : PolicySet) (settings : RunSettings)

/-- The policies that a run reports on a resource. -/
def concerned (resource : Resource) : List Policy :=
  if settings.reportSkipped then set.policies
  else set.policies.filter (·.appliesTo resource.resourceType)

theorem mem_policies_of_concerned {resource : Resource} {p : Policy}
    (member : p ∈ set.concerned settings resource) : p ∈ set.policies := by
  unfold concerned at member
  split at member
  · exact member
  · exact List.mem_of_mem_filter member

/-- With and without skipped policies, a run reports the answers of those concerned. -/
theorem reported_eq (resource : Resource) :
    set.reported settings resource =
      (set.concerned settings resource).map fun p => (p, p.answer resource) := by
  unfold reported concerned
  split
  · rfl
  · rw [evaluate]
    refine List.map_congr_left fun p member => ?_
    have applies := (List.mem_filter.mp member).2
    rw [Policy.answer, if_pos applies]

theorem report_outcomes (resource : Resource) :
    (set.report settings resource).outcomes =
      (set.concerned settings resource).map fun p => p.outcome (p.answer resource) := by
  rw [report, reported_eq, List.map_map]
  rfl

theorem report_policyIds (resource : Resource) :
    (set.report settings resource).outcomes.map (·.policyId) =
      (set.concerned settings resource).map (·.id) := by
  rw [report_outcomes, List.map_map]
  rfl

/-- No two policies that are reported on a resource have the same identifier. -/
theorem nodup_concerned (resource : Resource) :
    ((set.concerned settings resource).map (·.id)).Nodup := by
  unfold concerned
  split
  · exact set.nodup_ids
  · exact set.nodup_ids.sublist (List.filter_sublist.map _)

/-- The report belongs to the resource, and answers for every policy concerned once, in the
order of the set, with what that policy says about the resource. -/
structure Covers (resource : Resource) (report : ResourceReport) : Prop where
  resourceType : report.resourceType = resource.resourceType
  resourceId : report.resourceId = resource.resourceId
  policyIds : report.outcomes.map (·.policyId) = (set.concerned settings resource).map (·.id)
  once : (report.outcomes.map (·.policyId)).Nodup
  answers : ∀ o ∈ report.outcomes,
    ∃ p ∈ set.policies, p.id = o.policyId ∧ o = p.outcome (p.answer resource)

theorem covers_report (resource : Resource) :
    set.Covers settings resource (set.report settings resource) where
  resourceType := rfl
  resourceId := rfl
  policyIds := set.report_policyIds settings resource
  once := by
    rw [report_policyIds]
    exact set.nodup_concerned settings resource
  answers := by
    intro o member
    rw [report_outcomes] at member
    obtain ⟨p, concerned, rfl⟩ := List.mem_map.mp member
    exact ⟨p, set.mem_policies_of_concerned settings concerned, rfl, rfl⟩

/-- A run has as many outcomes as policies are concerned, over all resources. -/
theorem length_outcomes (resources : List Resource) :
    ((set.audit settings resources).resources.flatMap (·.outcomes)).length =
      (resources.map fun resource => (set.concerned settings resource).length).sum := by
  rw [audit, List.length_flatMap, List.map_map]
  congr 1
  refine List.map_congr_left fun resource _ => ?_
  simp [report_outcomes]

/-- The outcomes of a run, in numbers of policies. -/
theorem sum_concerned (resources : List Resource) :
    (resources.map fun resource => (set.concerned settings resource).length).sum =
      if settings.reportSkipped then resources.length * set.length
      else (resources.map fun resource =>
        set.policies.countP (·.appliesTo resource.resourceType)).sum := by
  unfold concerned
  split
  · simp [PolicySet.length]
  · simp only [List.countP_eq_length_filter]

/-- A run reports the resources one by one in their order, and each report answers for the
policies concerned.  As long as the outcomes can be counted, the counts are their numbers by
verdict and sum up to the number of policies concerned over all resources. -/
theorem audit_covers (resources : List Resource) :
    let result := set.audit settings resources
    let outcomes := result.resources.flatMap (·.outcomes)
    List.Forall₂ (set.Covers settings) resources result.resources ∧
      (outcomes.length < 2 ^ 32 →
        result.counts.passed.toNat = outcomes.countP (·.verdict = .passed) ∧
        result.counts.failed.toNat = outcomes.countP (·.verdict = .failed) ∧
        result.counts.skipped.toNat = outcomes.countP (·.verdict = .skipped) ∧
        result.counts.passed.toNat + result.counts.failed.toNat + result.counts.skipped.toNat =
          if settings.reportSkipped then resources.length * set.length
          else (resources.map fun resource =>
            set.policies.countP (·.appliesTo resource.resourceType)).sum) := by
  intro result outcomes
  constructor
  · refine List.forall₂_map_right_iff.mpr (List.forall₂_same.mpr ?_)
    intro resource _
    exact set.covers_report settings resource
  · intro few
    refine ⟨toNat_runCounts_of few .passed, toNat_runCounts_of few .failed,
      toNat_runCounts_of few .skipped, ?_⟩
    calc
      _ = outcomes.length := sum_runCounts few
      _ = (resources.map fun resource => (set.concerned settings resource).length).sum :=
        set.length_outcomes settings resources
      _ = _ := set.sum_concerned settings resources

/-- A policy on one type, and one on two types whose rule breaks off. -/
def ofTargets : PolicySet where
  policies :=
    [ ⟨"T_1", "passes", .logging, .low, ["vault"], fun _ => .ok .passed⟩,
      ⟨"T_2", "breaks off", .iam, .high, ["vault", "store"], fun _ => .error .unreadable⟩ ]
  sound := by decide +kernel

theorem audit_covers_ofTargets :
    let result := ofTargets.audit .default
      [⟨"store", "a", .scalar .null⟩, ⟨"vault", "b", .scalar .null⟩, ⟨"other", "c", .scalar .null⟩]
    (result.resources.flatMap (·.outcomes)).length < 2 ^ 32 ∧
      result.counts.passed.toNat + result.counts.failed.toNat + result.counts.skipped.toNat =
        3 := by
  intro result
  have few : (result.resources.flatMap (·.outcomes)).length < 2 ^ 32 := by decide +kernel
  refine ⟨few, ?_⟩
  exact ((audit_covers ofTargets .default _).2 few).2.2.2.trans (by decide +kernel)

end PolicySet

end PolicyAudit
