/-
Module: PolicyAudit.Schema.Published
Purpose: The schemas of reports and of settings files.
Imports: PolicyAudit.Schema.Basic, PolicyAudit.Vocabulary
Trusted boundary: none
Main exports: Schema.report, Schema.settings, Schema.published
-/
import PolicyAudit.Schema.Basic
import PolicyAudit.Vocabulary

namespace PolicyAudit.Schema

/-! ### Reports -/

def tool : Definition :=
  ⟨"ToolMeta", none, .record [field "name" .text none, field "version" .text none]⟩

def runStatus : Definition :=
  ⟨"RunStatus",
    some "Whole-run status derived from failed outcomes and the `fail_on` threshold.",
    .words (RunStatus.all.map RunStatus.word)⟩

def counts : Definition :=
  ⟨"OutcomeCounts", none,
    .record
      [ field "passed" .word32 none, field "failed" .word32 none,
        field "skipped" .word32 none ]⟩

def resourceReport : Definition :=
  ⟨"ResourceReport", none,
    .record
      [ field "resource_type" .text none,
        field "resource_id" .text none,
        field "outcomes" (.list (.named "PolicyOutcome"))
          (some "In declared policy-set order.") ]⟩

def outcome : Definition :=
  ⟨"PolicyOutcome", some "One row of the per-resource output consumed by reporting.",
    .record
      [ field "policy_id" .text none,
        field "policy_name" .text none,
        field "severity" (.named "Severity") none,
        field "category" (.named "Category") none,
        field "verdict" (.named "Verdict") none,
        openField "reason" (.optional .text)
          (some "Diagnostic text only; never used for control flow.") ]⟩

def severity : Definition :=
  ⟨"Severity", some "Policy severity. Ordered: `Low < Medium < High < Critical`.",
    .words (Severity.all.map Severity.word)⟩

def category : Definition :=
  ⟨"Category", some "Fixed policy taxonomy.", .words (Category.all.map Category.word)⟩

def verdict : Definition :=
  ⟨"Verdict", some "Outcome of one policy against one resource instance.",
    .words (Verdict.all.map Verdict.word)⟩

def runData : Definition :=
  ⟨"AuditData", none,
    .record
      [ field "profile" .text none,
        field "fail_on" (.named "Severity") none,
        field "resources_scanned" .word32 none,
        field "policies_active" .word32 none,
        openField "reasons" (.list .text) none ]⟩

/-- The schema of reports; each definition follows the one that first refers to it. -/
def report : Schema where
  root :=
    ⟨"AuditReport", some "The emitted `iacguard.report.v1` envelope.",
      .record
        [ field "schema" .text none,
          field "tool" (.named "ToolMeta") none,
          field "started_at" .text none,
          field "finished_at" .text none,
          field "status" (.named "RunStatus") none,
          field "counts" (.named "OutcomeCounts") none,
          field "resources" (.list (.named "ResourceReport")) none,
          field "data" (.named "AuditData") none ]⟩
  definitions :=
    [ tool, runStatus, counts, resourceReport, outcome, severity, category, verdict, runData ]

/-! ### Settings files -/

def fileSetting : Definition :=
  ⟨"PolicyConfig", none,
    .record
      [ openField "enabled" (.optional .flag) none,
        openField "severity" (.optional .text)
          (some "Override catalog severity: `low`, `medium`, `high`, `critical`.") ]⟩

/-- The schema of settings files.  Only the table of policies has a value of its own where it is
left out. -/
def settings : Schema where
  root :=
    ⟨"IacguardConfigV1",
      some ("`iacguard.toml` schema v1.\n\nThis is a *user-facing* config model: " ++
        "it is intentionally permissive so forward-compat is easy."),
      .record
        [ openField "schema" (.optional .text)
            (some "Optional schema string for tooling (`iacguard.config.v1`)."),
          openField "profile" (.optional .text) (some "`strict` (default) or `advisory`."),
          openField "fail_on" (.optional .text)
            (some "Lowest severity that fails the run: `low`, `medium`, `high`, `critical`."),
          openField "report_skipped" (.optional .flag)
            (some "Report policies that do not target a resource as SKIPPED."),
          { openField "policies" (.table (.named "PolicyConfig"))
              (some "Map of policy_id -> config.") with
            default := some (.object []) } ]⟩
  definitions := [fileSetting]

/-- The schemas with the names of their files. -/
def published : List (String × Schema) :=
  [("iacguard.report.v1.json", report), ("iacguard.config.v1.json", settings)]

end PolicyAudit.Schema
