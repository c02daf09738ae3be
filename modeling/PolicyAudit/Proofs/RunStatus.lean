/-
Module: PolicyAudit.Proofs.RunStatus
Purpose: The status of a run and its exit code, by the outcomes that have failed.
Imports: PolicyAudit.Proofs.RunCounts
Trusted boundary: none
Main exports: Severity.not_le, HasFailed, RunStatus.afterPass, runStatus_eq_afterPass,
  runStatus_cases, runStatus_eq_fail_iff, runStatus_eq_warn_iff, runStatus_eq_pass_iff,
  failed_eq_zero_iff, PolicySet.audit_status_exact
-/
import PolicyAudit.Proofs.RunCounts

namespace PolicyAudit

theorem Severity.not_le {a b : Severity} : ¬ a ≤ b ↔ b < a :=
  Nat.not_le

/-- The outcome has failed and belongs to one of the resources. -/
def HasFailed (reports : List ResourceReport) (o : Outcome) : Prop :=
  ∃ report ∈ reports, o ∈ report.outcomes ∧ o.verdict = .failed

theorem mem_failedOutcomes {reports : List ResourceReport} {o : Outcome} :
    o ∈ failedOutcomes reports ↔ HasFailed reports o := by
  simp [HasFailed, failedOutcomes, ResourceReport.failed, Outcome.isFailed]

/-! ### One pass -/

/-- The status after one pass over failed outcomes.  The first of them at or above the threshold
ends the pass with a failure, and any other leaves a warning for the status so far. -/
def RunStatus.afterPass (failOn : Severity) (soFar : RunStatus) : List Outcome → RunStatus
  | [] => soFar
  | o :: others => if failOn ≤ o.severity then .fail else afterPass failOn .warn others

/-- A pass decides by all outcomes, wherever in the list they stand. -/
theorem RunStatus.afterPass_eq (failOn : Severity) (soFar : RunStatus) (outcomes : List Outcome) :
    afterPass failOn soFar outcomes =
      if outcomes.any fun o => decide (failOn ≤ o.severity) then .fail
      else if outcomes.isEmpty then soFar
      else .warn := by
  induction outcomes generalizing soFar with
  | nil => rfl
  | cons o others inductionHypothesis =>
      by_cases reaches : failOn ≤ o.severity
      · simp [afterPass, reaches]
      · -- whether or not others follow, what they fall back to is now a warning
        simp [afterPass, reaches, inductionHypothesis]

/-- One pass over the failed outcomes finds the status of a run. -/
theorem runStatus_eq_afterPass (failOn : Severity) (reports : List ResourceReport) :
    runStatus failOn reports = RunStatus.afterPass failOn .pass (failedOutcomes reports) :=
  (RunStatus.afterPass_eq failOn .pass (failedOutcomes reports)).symm

/-! ### Statuses -/

section

variable (failOn : Severity) (reports : List ResourceReport)

/-- The three ways in which a status comes about. -/
theorem runStatus_cases :
    ((∃ o, HasFailed reports o ∧ failOn ≤ o.severity) ∧ runStatus failOn reports = .fail) ∨
      ((∃ o, HasFailed reports o) ∧ (∀ o, HasFailed reports o → o.severity < failOn) ∧
        runStatus failOn reports = .warn) ∨
      ((∀ o, ¬ HasFailed reports o) ∧ runStatus failOn reports = .pass) := by
  simp only [← mem_failedOutcomes]
  unfold runStatus
  by_cases grave : ∃ o, o ∈ failedOutcomes reports ∧ failOn ≤ o.severity
  · have any : ((failedOutcomes reports).any fun o => decide (failOn ≤ o.severity)) = true := by
      simpa using grave
    exact .inl ⟨grave, by simp [any]⟩
  · have light : ∀ o, o ∈ failedOutcomes reports → o.severity < failOn :=
      fun o member => Severity.not_le.mp fun reaches => grave ⟨o, member, reaches⟩
    have notAny : ((failedOutcomes reports).any fun o => decide (failOn ≤ o.severity)) = false := by
      simpa using fun o member reaches => grave ⟨o, member, reaches⟩
    cases failed : failedOutcomes reports with
    | nil => exact .inr (.inr ⟨fun o => List.not_mem_nil, rfl⟩)
    | cons o others =>
        rw [failed] at light notAny
        exact .inr (.inl ⟨⟨o, List.mem_cons_self⟩, light, by simp [notAny]⟩)

theorem runStatus_eq_fail_iff :
    runStatus failOn reports = .fail ↔ ∃ o, HasFailed reports o ∧ failOn ≤ o.severity := by
  rcases runStatus_cases failOn reports with ⟨grave, status⟩ | ⟨_, light, status⟩ | ⟨none, status⟩
  · simp [status, grave]
  · rw [status]
    simpa [Severity.not_le] using light
  · simp [status, none]

theorem runStatus_eq_warn_iff :
    runStatus failOn reports = .warn ↔
      (∃ o, HasFailed reports o) ∧ ∀ o, HasFailed reports o → o.severity < failOn := by
  rcases runStatus_cases failOn reports with ⟨⟨o, failed, reaches⟩, status⟩ |
    ⟨some, light, status⟩ | ⟨none, status⟩
  · rw [status]
    constructor
    · intro same
      cases same
    · intro ⟨_, light⟩
      exact absurd reaches (Severity.not_le.mpr (light o failed))
  · exact ⟨fun _ => ⟨some, light⟩, fun _ => status⟩
  · simp [status, none]

theorem runStatus_eq_pass_iff :
    runStatus failOn reports = .pass ↔ ∀ o, ¬ HasFailed reports o := by
  rcases runStatus_cases failOn reports with ⟨⟨o, failed, _⟩, status⟩ | ⟨some, _, status⟩ |
    ⟨none, status⟩
  · rw [status]
    constructor
    · intro same
      cases same
    · intro none
      exact absurd failed (none o)
  · simp [status, some]
  · simp [status, none]

end

/-- Nothing has failed if and only if the count of failed outcomes is zero. -/
theorem failed_eq_zero_iff {reports : List ResourceReport}
    (few : (reports.flatMap (·.outcomes)).length < 2 ^ 32) :
    (runCounts reports).failed = 0 ↔ ∀ o, ¬ HasFailed reports o := by
  have counted : (runCounts reports).failed.toNat =
      (reports.flatMap (·.outcomes)).countP (·.verdict = .failed) :=
    toNat_runCounts_of few .failed
  rw [← UInt32.toNat_inj, counted, UInt32.toNat_zero, List.countP_eq_zero]
  simp only [HasFailed, List.mem_flatMap, decide_eq_true_eq]
  constructor
  · rintro none o ⟨report, reported, member, failed⟩
    exact none o ⟨report, reported, member⟩ failed
  · rintro none o ⟨report, reported, member⟩ failed
    exact none o ⟨report, reported, member, failed⟩

namespace RunStatus

theorem exitCode_eq_two_iff (s : RunStatus) : s.exitCode = 2 ↔ s = .fail := by
  cases s <;> simp [exitCode]

theorem exitCode_eq_zero_iff (s : RunStatus) : s.exitCode = 0 ↔ s = .warn ∨ s = .pass := by
  cases s <;> simp [exitCode]

end RunStatus

/-! ### Runs -/

/-- A run fails if and only if some outcome has failed at or above the threshold.  It warns if
some have failed and all of them below it, and passes if none has failed.  The exit code is two
for a run that fails, and zero for the others. -/
theorem PolicySet.audit_status_exact (set : PolicySet) (settings : RunSettings)
    (resources : List Resource) :
    let result := set.audit settings resources
    let reachesThreshold :=
      ∃ o, HasFailed result.resources o ∧ settings.failOn ≤ o.severity
    let staysBelow :=
      (∃ o, HasFailed result.resources o) ∧
        ∀ o, HasFailed result.resources o → o.severity < settings.failOn
    let noneFailed := ∀ o, ¬ HasFailed result.resources o
    (result.status = .fail ↔ reachesThreshold) ∧
      (result.status = .warn ↔ staysBelow) ∧
      (result.status = .pass ↔ noneFailed) ∧
      ((result.resources.flatMap (·.outcomes)).length < 2 ^ 32 →
        (result.status = .pass ↔ result.counts.failed = 0)) ∧
      (result.status.exitCode = 2 ↔ reachesThreshold) ∧
      (result.status.exitCode = 0 ↔ staysBelow ∨ noneFailed) := by
  intro result reachesThreshold staysBelow noneFailed
  have fail : result.status = .fail ↔ reachesThreshold :=
    runStatus_eq_fail_iff settings.failOn result.resources
  have warn : result.status = .warn ↔ staysBelow :=
    runStatus_eq_warn_iff settings.failOn result.resources
  have pass : result.status = .pass ↔ noneFailed :=
    runStatus_eq_pass_iff settings.failOn result.resources
  refine ⟨fail, warn, pass, ?_, ?_, ?_⟩
  · intro few
    exact pass.trans (failed_eq_zero_iff few).symm
  · exact (RunStatus.exitCode_eq_two_iff result.status).trans fail
  · rw [RunStatus.exitCode_eq_zero_iff, warn, pass]

namespace PolicySet

/-- A policy that fails at a low severity, and one that breaks off at a critical one. -/
def ofFaults : PolicySet where
  policies :=
    [ ⟨"T_1", "fails", .logging, .low, ["type"], fun _ => .ok (.failed "reason")⟩,
      ⟨"T_2", "breaks off", .iam, .critical, ["type"], fun _ => .error .unreadable⟩ ]
  sound := by decide +kernel

theorem audit_status_exact_ofFaults :
    let result := ofFaults.audit .default
      [⟨"type", "a", .scalar .null⟩, ⟨"other", "b", .scalar .null⟩]
    (result.resources.flatMap (·.outcomes)).length < 2 ^ 32 ∧
      (result.status = .pass ↔ result.counts.failed = 0) := by
  intro result
  have few : (result.resources.flatMap (·.outcomes)).length < 2 ^ 32 := by decide +kernel
  exact ⟨few, (audit_status_exact ofFaults .default _).2.2.2.1 few⟩

end PolicySet

end PolicyAudit
