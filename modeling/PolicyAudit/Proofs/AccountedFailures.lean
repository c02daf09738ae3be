/-
Module: PolicyAudit.Proofs.AccountedFailures
Purpose: Whatever readers are shown of a run accounts for each of its failed outcomes: the findings,
  the counts, the status, the table and the annotations.
Imports: Mathlib, PolicyAudit.Proofs.AuditEnvelope, PolicyAudit.Proofs.FindingsTable,
  PolicyAudit.Proofs.RunStatus, PolicyAudit.Report.Annotation
Trusted boundary: none
Main exports: ListsFailed, listsFailed_iff, length_findings, Summary.ShowsTable,
  Summary.showsTable_iff, Report.AccountsForFailures, audit_accounts
-/
import Mathlib
import PolicyAudit.Proofs.AuditEnvelope
import PolicyAudit.Proofs.FindingsTable
import PolicyAudit.Proofs.RunStatus
import PolicyAudit.Report.Annotation

namespace PolicyAudit

/-! ### Findings -/

/-- The findings are the failed outcomes of the reports, in the order of the resources and on each
resource in the order of its outcomes, and each of them says whose it is. -/
inductive ListsFailed : List ResourceReport → List Finding → Prop where
  | nil : ListsFailed [] []
  | done {resourceType resourceId : String} {reports : List ResourceReport}
      {findings : List Finding} (others : ListsFailed reports findings) :
      ListsFailed (⟨resourceType, resourceId, []⟩ :: reports) findings
  | spared {resourceType resourceId : String} {o : Outcome} {outcomes : List Outcome}
      {reports : List ResourceReport} {findings : List Finding} (notFailed : o.verdict ≠ .failed)
      (others : ListsFailed (⟨resourceType, resourceId, outcomes⟩ :: reports) findings) :
      ListsFailed (⟨resourceType, resourceId, o :: outcomes⟩ :: reports) findings
  | failed {resourceType resourceId : String} {o : Outcome} {outcomes : List Outcome}
      {reports : List ResourceReport} {findings : List Finding} (failed : o.verdict = .failed)
      (others : ListsFailed (⟨resourceType, resourceId, outcomes⟩ :: reports) findings) :
      ListsFailed (⟨resourceType, resourceId, o :: outcomes⟩ :: reports)
        (⟨resourceType, resourceId, o.policyId, o.policyName, o.severity, o.reason⟩ :: findings)

section

variable {resourceType resourceId : String} {o : Outcome} {outcomes : List Outcome}

theorem findings_cons_of_failed (failed : o.verdict = .failed) :
    (ResourceReport.mk resourceType resourceId (o :: outcomes)).findings =
      ⟨resourceType, resourceId, o.policyId, o.policyName, o.severity, o.reason⟩ ::
        (ResourceReport.mk resourceType resourceId outcomes).findings := by
  simp [ResourceReport.findings, ResourceReport.failed, Outcome.isFailed, failed, Outcome.finding]

theorem findings_cons_of_spared (notFailed : o.verdict ≠ .failed) :
    (ResourceReport.mk resourceType resourceId (o :: outcomes)).findings =
      (ResourceReport.mk resourceType resourceId outcomes).findings := by
  simp [ResourceReport.findings, ResourceReport.failed, Outcome.isFailed, notFailed,
    Outcome.finding]

/-- The findings of one more resource come before those of the others. -/
theorem ListsFailed.resource {reports : List ResourceReport} {findings : List Finding}
    (others : ListsFailed reports findings) :
    ListsFailed (⟨resourceType, resourceId, outcomes⟩ :: reports)
      ((ResourceReport.mk resourceType resourceId outcomes).findings ++ findings) := by
  induction outcomes with
  | nil => exact .done others
  | cons o outcomes inductionHypothesis =>
      by_cases failed : o.verdict = .failed
      · rw [findings_cons_of_failed failed]
        exact .failed failed inductionHypothesis
      · rw [findings_cons_of_spared failed]
        exact .spared failed inductionHypothesis

end

section

variable {reports : List ResourceReport}

/-- The findings of a report are all its failed outcomes and nothing else. -/
theorem listsFailed_iff {findings : List Finding} :
    ListsFailed reports findings ↔ findings = reports.flatMap (·.findings) := by
  constructor
  · intro lists
    induction lists with
    | nil => rfl
    | done _ inductionHypothesis => exact inductionHypothesis
    | spared notFailed _ inductionHypothesis =>
        rw [inductionHypothesis, List.flatMap_cons, List.flatMap_cons,
          findings_cons_of_spared notFailed]
    | failed failed _ inductionHypothesis =>
        rw [inductionHypothesis, List.flatMap_cons, List.flatMap_cons,
          findings_cons_of_failed failed, List.cons_append]
  · rintro rfl
    induction reports with
    | nil => exact .nil
    | cons report reports inductionHypothesis => exact inductionHypothesis.resource

theorem length_findings :
    (reports.flatMap (·.findings)).length =
      (reports.flatMap (·.outcomes)).countP (·.verdict = .failed) := by
  rw [List.length_flatMap, List.countP_flatMap]
  congr 1
  refine List.map_congr_left fun report _ => ?_
  rw [ResourceReport.findings, List.length_map, ResourceReport.failed,
    ← List.countP_eq_length_filter]
  exact List.countP_congr fun o _ => by simp [Outcome.isFailed]

/-- There are as many findings as a run counts failed outcomes. -/
theorem length_findings_eq_failed (few : (reports.flatMap (·.outcomes)).length < 2 ^ 32) :
    (reports.flatMap (·.findings)).length = (runCounts reports).failed.toNat :=
  length_findings.trans (toNat_runCounts_of few .failed).symm

end

/-! ### The table -/

namespace Summary

/-- The text of a summary has the head of the table of findings in it. -/
def ShowsTable (s : Summary) : Prop :=
  tableHead.toList <:+: s.markdown.toList

theorem bar_not_mem_append {s t : String} (first : '|' ∉ s.toList) (second : '|' ∉ t.toList) :
    '|' ∉ (s ++ t).toList := by
  rw [String.toList_append, List.mem_append, not_or]
  exact ⟨first, second⟩

/-- A number brings no bar into the text around it. -/
theorem bar_not_mem_around {s t : String} (n : Nat) (before : '|' ∉ s.toList)
    (after : '|' ∉ t.toList) : '|' ∉ (s ++ Decimal.text n ++ t).toList := by
  refine bar_not_mem_append (bar_not_mem_append before ?_) after
  rw [Decimal.text, String.toList_ofList]
  intro bar
  exact absurd (List.all_eq_true.mp (Decimal.all_isDigit_digits n) '|' bar) (by decide)

/-- There are no bars above the findings unless a note has one. -/
theorem bar_not_mem_heading {s : Summary} (plain : ∀ note ∈ s.notes, '|' ∉ note.toList) :
    '|' ∉ s.heading.toList := by
  have capitals : '|' ∉ s.status.capitals.toList := by
    cases s.status <;> decide
  have notes : '|' ∉
      (String.join (s.notes.map fun note => "> Note: " ++ note ++ "\n\n")).toList ↔
        ∀ note ∈ s.notes, '|' ∉ note.toList := by
    simp [String.toList_join]
  unfold heading
  refine bar_not_mem_append ?_ (notes.mpr plain)
  -- the four counts, last to first
  iterate 4 refine bar_not_mem_around _ ?_ (by decide)
  exact bar_not_mem_append (bar_not_mem_append (by decide) capitals) (by decide)

/-- A summary has a table just if it has findings, for what stands above the table has no bar. -/
theorem showsTable_iff {s : Summary} (plain : ∀ note ∈ s.notes, '|' ∉ note.toList) :
    s.ShowsTable ↔ s.findings ≠ [] := by
  unfold ShowsTable markdown
  cases s.findings with
  | nil =>
      have clean : '|' ∉ (s.heading ++ "No failed policies.\n").toList := by
        rw [String.toList_append, List.mem_append, not_or]
        exact ⟨bar_not_mem_heading plain, by decide⟩
      have bar : '|' ∈ tableHead.toList := by decide
      exact iff_of_false (fun head => clean (head.subset bar)) fun found => found rfl
  | cons finding findings =>
      have head : tableHead.toList <:+: (s.heading ++ (tableHead ++
          String.join ((finding :: findings).map Finding.row))).toList := by
        rw [String.toList_append, String.toList_append, ← List.append_assoc]
        exact List.infix_append _ _ _
      exact iff_of_true head (List.cons_ne_nil finding findings)

end Summary

/-! ### Annotations -/

namespace Summary

variable (s : Summary)

theorem length_annotations (limit : Nat) :
    (s.annotations limit).length = min limit s.findings.length := by
  rw [annotations, List.length_take, List.length_map]

theorem getElem?_annotations {limit i : Nat} (shown : i < limit) :
    (s.annotations limit)[i]? = s.findings[i]?.map Finding.annotation := by
  rw [annotations, List.getElem?_take_of_lt shown, List.getElem?_map]

end Summary

/-! ### Reports -/

/-- All that readers are shown of a report accounts for its failed outcomes.  What follows the head
of the table is the line of each finding, in their order. -/
structure Report.AccountsForFailures (report : Report) : Prop where
  listed : ListsFailed report.resources report.summary.findings
  counted : report.summary.findings.length = report.counts.failed.toNat
  table : report.summary.ShowsTable ↔ 0 < report.counts.failed
  rows : 0 < report.counts.failed →
    report.summary.markdown.toList =
      (report.summary.heading ++ Summary.tableHead).toList ++
        report.summary.findings.flatMap fun f => f.line ++ ['\n']
  status : 0 < report.counts.failed ↔ report.status ≠ .pass
  annotated : ∀ limit,
    (report.summary.annotations limit).length = min limit report.counts.failed.toNat
  inOrder : ∀ limit, ∀ i < limit,
    (report.summary.annotations limit)[i]? = report.summary.findings[i]?.map Finding.annotation

section

variable {input : AuditInput} {a : Audit}

/-- The only note on an audit has no bar in it. -/
theorem bar_not_mem_notes (audited : audit input = .ok a) : ∀ note ∈ a.notes, '|' ∉ note.toList := by
  obtain ⟨_, _, _, _, _, notes⟩ := audit_eq_ok_iff.mp audited
  rw [notes]
  split <;> decide

/-- What readers are shown of an audit accounts for its failed outcomes as long as the outcomes can
be counted.  The findings are those outcomes, in the order of the resources and on each resource in
the order of the policies.  There are as many as the report counts, there is a table of them just if
there are any and just if the status is not that of a passed run, and an annotation for each of the
first ones up to any limit. -/
theorem audit_accounts (audited : audit input = .ok a) (startedAt finishedAt : Timestamp) :
    let report := a.report startedAt finishedAt
    (report.resources.flatMap (·.outcomes)).length < 2 ^ 32 →
      report.AccountsForFailures ∧
        List.Forall₂ (a.policies.Covers a.settings) a.resources report.resources := by
  intro report few
  have counted : report.summary.findings.length = report.counts.failed.toNat :=
    length_findings_eq_failed few
  have status : report.status = .pass ↔ report.counts.failed = 0 :=
    (runStatus_eq_pass_iff a.settings.failOn report.resources).trans (failed_eq_zero_iff few).symm
  have found : report.summary.findings ≠ [] ↔ 0 < report.counts.failed := by
    rw [← List.length_pos_iff, counted, UInt32.lt_iff_toNat_lt, UInt32.toNat_zero]
  refine ⟨⟨listsFailed_iff.mpr rfl, counted, ?_, ?_, ?_, ?_, ?_⟩, ?_⟩
  · exact (Summary.showsTable_iff (bar_not_mem_notes audited)).trans found
  · intro some
    exact Summary.markdown_toList (found.mpr some)
  · rw [ne_eq, status, UInt32.pos_iff_ne_zero]
  · intro limit
    rw [Summary.length_annotations, counted]
  · intro limit i shown
    exact report.summary.getElem?_annotations shown
  · refine List.forall₂_map_right_iff.mpr (List.forall₂_same.mpr fun resource _ => ?_)
    exact a.policies.covers_report a.settings resource

end

/-- A key vault that fails both of its policies, and a resource that no policy targets. -/
theorem audit_accounts_ofVault :
    let input : AuditInput :=
      ⟨"[[\"azurerm_key_vault\", \"main\"], [\"other\", \"rest\"]]", "", .none⟩
    ∃ a, audit input = .ok a ∧
      let report := a.report .epoch .epoch
      (report.resources.flatMap (·.outcomes)).length < 2 ^ 32 ∧
        report.counts.failed = 2 ∧
        report.summary.findings.length = 2 ∧
        report.summary.ShowsTable ∧
        report.status ≠ .pass ∧
        (report.summary.annotations 1).length = 1 := by
  intro input
  have resolved : RunSettings.ofText input.settings input.overrides = .ok .default := by
    cbv
  have read : Resource.readList input.resources =
      .ok [⟨"azurerm_key_vault", "main", .scalar .null⟩, ⟨"other", "rest", .scalar .null⟩] := by
    cbv
  have audited := audit_of_settings resolved read
  refine ⟨_, audited, ?_⟩
  intro report
  have few : (report.resources.flatMap (·.outcomes)).length < 2 ^ 32 := by decide +kernel
  have failed : report.counts.failed = 2 := by decide +kernel
  have accounts := (audit_accounts audited .epoch .epoch few).1
  have some : 0 < report.counts.failed := by rw [failed]; decide
  refine ⟨few, failed, ?_, accounts.table.mpr some, accounts.status.mp some, ?_⟩
  · rw [accounts.counted, failed]
    rfl
  · rw [accounts.annotated, failed]
    rfl

end PolicyAudit
