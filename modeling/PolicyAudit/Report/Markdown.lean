/-
Module: PolicyAudit.Report.Markdown
Purpose: Summaries as Markdown texts with a table of the findings.
Imports: PolicyAudit.Decimal.Digits, PolicyAudit.Report.Summary
Trusted boundary: none
Main exports: escapeCell, Finding.row, Summary.markdown
-/
import PolicyAudit.Decimal.Digits
import PolicyAudit.Report.Summary

namespace PolicyAudit

/-- A text inside a cell: a bar gets a backslash, a line break becomes a space. -/
def escapeCell (text : String) : String :=
  .ofList (text.toList.flatMap fun c =>
    if c = '|' then ['\\', '|'] else if c = '\n' then [' '] else [c])

/-- The row of a finding. -/
def Finding.row (f : Finding) : String :=
  "| " ++ f.severity.word ++ " | `" ++ f.resourceType ++ "." ++ f.resourceId ++ "` | `" ++
    f.policyId ++ "` " ++ escapeCell f.policyName ++ " | " ++ escapeCell (f.reason.getD "") ++
    " |\n"

def RunStatus.capitals : RunStatus → String
  | .pass => "PASS"
  | .warn => "WARN"
  | .fail => "FAIL"

namespace Summary

/-- What stands above the findings. -/
def heading (s : Summary) : String :=
  "# iacguard report\n\n- Verdict: **" ++ s.status.capitals ++ "**\n- Resources: " ++
    Decimal.text s.counts.resources.toNat ++ "\n- Outcomes: " ++
    Decimal.text s.counts.passed.toNat ++ " passed / " ++
    Decimal.text s.counts.failed.toNat ++ " failed / " ++
    Decimal.text s.counts.skipped.toNat ++ " skipped\n\n" ++
    String.join (s.notes.map fun note => "> Note: " ++ note ++ "\n\n")

def tableHead : String :=
  "## Failed policies\n\n| Severity | Resource | Policy | Reason |\n|---|---|---|---|\n"

def markdown (s : Summary) : String :=
  s.heading ++
    if s.findings.isEmpty then
      "No failed policies.\n"
    else
      tableHead ++ String.join (s.findings.map Finding.row)

end Summary

end PolicyAudit
