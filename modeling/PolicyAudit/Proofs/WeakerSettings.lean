/-
Module: PolicyAudit.Proofs.WeakerSettings
Purpose: Settings that ask for less never make a run worse.
Imports: PolicyAudit.Proofs.ConfiguredRuns, PolicyAudit.Proofs.RunStatus
Trusted boundary: none
Main exports: PolicySet.hasFailed_audit_iff, runStatus_le, RunStatus.exitCode_le,
  RunSettings.Weaker, Registry.audit_status_le_of_weaker
-/
import PolicyAudit.Proofs.ConfiguredRuns
import PolicyAudit.Proofs.RunStatus

namespace PolicyAudit

/-! ### Failures of a run -/

/-- A policy that does not target a resource is skipped on it, so what has failed is what a
targeting policy has found. -/
theorem Policy.answer_failed_iff {p : Policy} {resource : Resource} :
    (p.answer resource).verdict = .failed ↔
      p.appliesTo resource.resourceType = true ∧ (p.run resource).verdict = .failed := by
  unfold Policy.answer
  split
  · rename_i applies
    simp [applies]
  · rename_i spared
    simp [spared, Resource.notTargeted, Evaluation.skipped]

/-- The failures of a run are those of the policies that target a resource, whether skipped
policies are reported or not. -/
theorem PolicySet.hasFailed_audit_iff {set : PolicySet} {settings : RunSettings}
    {resources : List Resource} {o : Outcome} :
    HasFailed (set.audit settings resources).resources o ↔
      ∃ resource ∈ resources, ∃ p ∈ set.policies, p.appliesTo resource.resourceType = true ∧
        (p.run resource).verdict = .failed ∧ o = p.outcome (p.run resource) := by
  constructor
  · rintro ⟨report, reported, member, failed⟩
    obtain ⟨resource, declared, rfl⟩ := List.mem_map.mp reported
    rw [report_outcomes] at member
    obtain ⟨p, concerned, rfl⟩ := List.mem_map.mp member
    obtain ⟨applies, broken⟩ := Policy.answer_failed_iff.mp failed
    refine ⟨resource, declared, p, set.mem_policies_of_concerned settings concerned, applies,
      broken, ?_⟩
    rw [Policy.answer, if_pos applies]
  · rintro ⟨resource, declared, p, member, applies, failed, rfl⟩
    have concerned : p ∈ set.concerned settings resource := by
      unfold concerned
      split
      · exact member
      · exact List.mem_filter.mpr ⟨member, applies⟩
    refine ⟨set.report settings resource, List.mem_map_of_mem declared, ?_, failed⟩
    rw [report_outcomes]
    refine List.mem_map.mpr ⟨p, concerned, ?_⟩
    rw [Policy.answer, if_pos applies]

/-! ### Comparing statuses -/

theorem Severity.le_trans {a b c : Severity} (first : a ≤ b) (second : b ≤ c) : a ≤ c :=
  Nat.le_trans first second

theorem RunStatus.pass_le (s : RunStatus) : .pass ≤ s :=
  Nat.zero_le s.rank

theorem RunStatus.warn_le_of_ne_pass {s : RunStatus} (notPass : s ≠ .pass) : .warn ≤ s := by
  cases s with
  | pass => exact absurd rfl notPass
  | warn => exact Nat.le_refl 1
  | fail => exact Nat.le_succ 1

/-- A status is at most another if its threshold is no lower and each of its failures has one at
least as grave on the other side.  The failures need not match one to one. -/
theorem runStatus_le {weakOn failOn : Severity} {few many : List ResourceReport}
    (threshold : failOn ≤ weakOn)
    (matched : ∀ o, HasFailed few o → ∃ graver, HasFailed many graver ∧
      o.severity ≤ graver.severity) :
    runStatus weakOn few ≤ runStatus failOn many := by
  rcases runStatus_cases weakOn few with ⟨⟨o, failed, reaches⟩, status⟩ |
    ⟨⟨o, failed⟩, _, status⟩ | ⟨_, status⟩
  · obtain ⟨graver, alsoFailed, atLeast⟩ := matched o failed
    have fails : runStatus failOn many = .fail := by
      rw [runStatus_eq_fail_iff]
      exact ⟨graver, alsoFailed, Severity.le_trans threshold (Severity.le_trans reaches atLeast)⟩
    rw [status, fails]
    exact Nat.le_refl 2
  · obtain ⟨graver, alsoFailed, _⟩ := matched o failed
    rw [status]
    refine RunStatus.warn_le_of_ne_pass fun passes => ?_
    exact (runStatus_eq_pass_iff failOn many).mp passes graver alsoFailed
  · rw [status]
    exact RunStatus.pass_le _

/-- A worse status has no lower exit code. -/
theorem RunStatus.exitCode_le {s t : RunStatus} (le : s ≤ t) : s.exitCode ≤ t.exitCode := by
  cases s <;> cases t <;> revert le <;> decide

/-! ### Weaker settings -/

/-- Settings that ask no more of registered policies than others: the threshold is no lower, no
further policy is enabled, and no enabled policy is graver.  Profiles do not count, nor does
whether skipped policies are reported. -/
structure RunSettings.Weaker (r : Registry) (weak settings : RunSettings) : Prop where
  threshold : settings.failOn ≤ weak.failOn
  enabled : ∀ p ∈ r.policies, weak.isEnabled p.id = true → settings.isEnabled p.id = true
  severity : ∀ p ∈ r.policies, weak.isEnabled p.id = true →
    (p.underSettings weak).severity ≤ (p.underSettings settings).severity

/-- What fails under weaker settings also fails under the others, and is at least as grave there. -/
theorem RunSettings.Weaker.hasFailed {r : Registry} {set : PolicySet}
    {weak settings : RunSettings} (weaker : weak.Weaker r settings)
    (registered : r.policies = set.policies) {resources : List Resource} {o : Outcome}
    (failed : HasFailed ((set.configured weak).audit weak resources).resources o) :
    ∃ graver, HasFailed ((set.configured settings).audit settings resources).resources graver ∧
      o.severity ≤ graver.severity := by
  obtain ⟨resource, declared, _, member, applies, broken, rfl⟩ :=
    PolicySet.hasFailed_audit_iff.mp failed
  obtain ⟨p, kept, rfl⟩ := List.mem_map.mp member
  obtain ⟨listed, enabled⟩ := List.mem_filter.mp kept
  have known : p ∈ r.policies := registered ▸ listed
  have alsoKept : p.underSettings settings ∈ (set.configured settings).policies := by
    refine List.mem_map_of_mem (List.mem_filter.mpr ⟨listed, ?_⟩)
    exact weaker.enabled p known enabled
  refine ⟨(p.underSettings settings).outcome (p.run resource), ?_, weaker.severity p known enabled⟩
  exact PolicySet.hasFailed_audit_iff.mpr
    ⟨resource, declared, p.underSettings settings, alsoKept, applies, broken, rfl⟩

/-- A run under weaker settings has at most the status of the other run, and at most its exit
code. -/
theorem Registry.audit_status_le_of_weaker {r : Registry} {set : PolicySet}
    {weak settings : RunSettings} (built : r.build = .ok set) (weaker : weak.Weaker r settings)
    (resources : List Resource) :
    ∃ weakSet otherSet, (r.configure weak).build = .ok weakSet ∧
      (r.configure settings).build = .ok otherSet ∧
      (weakSet.audit weak resources).status ≤ (otherSet.audit settings resources).status ∧
      (weakSet.audit weak resources).status.exitCode ≤
        (otherSet.audit settings resources).status.exitCode := by
  have le : ((set.configured weak).audit weak resources).status ≤
      ((set.configured settings).audit settings resources).status :=
    runStatus_le weaker.threshold fun _ failed =>
      weaker.hasFailed (build_eq_ok_iff.mp built) failed
  exact ⟨set.configured weak, set.configured settings, build_configure weak built,
    build_configure settings built, le, RunStatus.exitCode_le le⟩

/-- Settings that disable one policy, and let failures below a high severity pass. -/
def RunSettings.ofLeniency : RunSettings :=
  { (RunSettings.default.disable "T_2").overrideSeverity "T_1" .medium with failOn := .high }

/-- Settings that make the failure of one policy grave. -/
def RunSettings.ofGravity : RunSettings :=
  { RunSettings.default.overrideSeverity "T_1" .high with failOn := .medium, reportSkipped := true }

theorem Registry.audit_status_le_of_weaker_ofLeniency :
    let r := Registry.mk PolicySet.ofFaults.policies
    r.build = .ok PolicySet.ofFaults ∧ RunSettings.ofLeniency.Weaker r .ofGravity ∧
      ∃ weakSet otherSet, (r.configure .ofLeniency).build = .ok weakSet ∧
        (r.configure .ofGravity).build = .ok otherSet ∧
        (weakSet.audit .ofLeniency [⟨"type", "a", .scalar .null⟩]).status ≤
          (otherSet.audit .ofGravity [⟨"type", "a", .scalar .null⟩]).status := by
  intro r
  have built : r.build = .ok PolicySet.ofFaults := build_eq_ok_iff.mpr rfl
  have weaker : RunSettings.ofLeniency.Weaker r .ofGravity :=
    ⟨by decide +kernel, by decide +kernel, by decide +kernel⟩
  obtain ⟨weakSet, otherSet, weakBuilt, otherBuilt, le, _⟩ :=
    audit_status_le_of_weaker built weaker [⟨"type", "a", .scalar .null⟩]
  exact ⟨built, weaker, weakSet, otherSet, weakBuilt, otherBuilt, le⟩

end PolicyAudit
