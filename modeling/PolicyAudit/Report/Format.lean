/-
Module: PolicyAudit.Report.Format
Purpose: Reports as JSON texts.
Imports: PolicyAudit.Failure, PolicyAudit.Json.Printer, PolicyAudit.Json.Reader,
  PolicyAudit.Json.Shape
Trusted boundary: none
Main exports: Report.toJson, Report.ofJson?, Report.write, Report.read
-/
import PolicyAudit.Failure
import PolicyAudit.Json.Printer
import PolicyAudit.Json.Reader
import PolicyAudit.Json.Shape

namespace PolicyAudit

/-- A natural number below `2 ^ 32` as JSON. -/
def Json.ofWord32 (n : UInt32) : Json :=
  .number (.int n.toNat)

/-! ### To JSON -/

def Outcome.toJson (o : Outcome) : Json :=
  .object ([("policy_id", .string o.policyId), ("policy_name", .string o.policyName),
    ("severity", .string o.severity.word), ("category", .string o.category.word),
    ("verdict", .string o.verdict.word)] ++ (o.reason.map fun r => ("reason", .string r)).toList)

def ResourceReport.toJson (r : ResourceReport) : Json :=
  .object [("resource_type", .string r.resourceType), ("resource_id", .string r.resourceId),
    ("outcomes", .array (r.outcomes.map Outcome.toJson))]

def Counts.toJson (c : Counts) : Json :=
  .object [("passed", .ofWord32 c.passed), ("failed", .ofWord32 c.failed),
    ("skipped", .ofWord32 c.skipped)]

def Tool.toJson (t : Tool) : Json :=
  .object [("name", .string t.name), ("version", .string t.version)]

def RunData.toJson (d : RunData) : Json :=
  .object ([("profile", .string d.profile), ("fail_on", .string d.failOn.word),
    ("resources_scanned", .ofWord32 d.resourcesScanned),
    ("policies_active", .ofWord32 d.policiesActive)] ++
    if d.reasons = [] then [] else [("reasons", .array (d.reasons.map .string))])

def Report.toJson (r : Report) : Json :=
  .object [("schema", .string r.schema), ("tool", r.tool.toJson),
    ("started_at", .string r.startedAt.write), ("finished_at", .string r.finishedAt.write),
    ("status", .string r.status.word), ("counts", r.counts.toJson),
    ("resources", .array (r.resources.map ResourceReport.toJson)), ("data", r.data.toJson)]

/-- The text of a report. -/
def Report.write (r : Report) : String :=
  r.toJson.pretty

/-! ### From JSON -/

def Outcome.ofJson? (value : Json) : Option Outcome := do
  match ← value.parts?
      ["policy_id", "policy_name", "severity", "category", "verdict", "reason"] with
  | [policyId, policyName, severity, category, verdict, reason] =>
      some
        { policyId := ← Json.needed? Json.string? policyId
          policyName := ← Json.needed? Json.string? policyName
          severity := ← Json.needed? (Json.oneOf? Severity.word Severity.all) severity
          category := ← Json.needed? (Json.oneOf? Category.word Category.all) category
          verdict := ← Json.needed? (Json.oneOf? Verdict.word Verdict.all) verdict
          reason := ← Json.optional? Json.string? reason }
  | _ => none

def ResourceReport.ofJson? (value : Json) : Option ResourceReport := do
  match ← value.parts? ["resource_type", "resource_id", "outcomes"] with
  | [resourceType, resourceId, outcomes] =>
      some
        { resourceType := ← Json.needed? Json.string? resourceType
          resourceId := ← Json.needed? Json.string? resourceId
          outcomes := ← Json.needed? (Json.list? Outcome.ofJson?) outcomes }
  | _ => none

def Counts.ofJson? (value : Json) : Option Counts := do
  match ← value.parts? ["passed", "failed", "skipped"] with
  | [passed, failed, skipped] =>
      some
        { passed := ← Json.needed? Json.word32? passed
          failed := ← Json.needed? Json.word32? failed
          skipped := ← Json.needed? Json.word32? skipped }
  | _ => none

def Tool.ofJson? (value : Json) : Option Tool := do
  match ← value.parts? ["name", "version"] with
  | [name, version] =>
      some
        { name := ← Json.needed? Json.string? name
          version := ← Json.needed? Json.string? version }
  | _ => none

def RunData.ofJson? (value : Json) : Option RunData := do
  match ← value.parts?
      ["profile", "fail_on", "resources_scanned", "policies_active", "reasons"] with
  | [profile, failOn, resourcesScanned, policiesActive, reasons] =>
      some
        { profile := ← Json.needed? Json.string? profile
          failOn := ← Json.needed? (Json.oneOf? Severity.word Severity.all) failOn
          resourcesScanned := ← Json.needed? Json.word32? resourcesScanned
          policiesActive := ← Json.needed? Json.word32? policiesActive
          reasons := ← Json.orDefault? [] (Json.list? Json.string?) reasons }
  | _ => none

def Json.timestamp? (value : Json) : Option Timestamp :=
  value.string?.bind Timestamp.read?

def Report.ofJson? (value : Json) : Option Report := do
  match ← value.parts?
      ["schema", "tool", "started_at", "finished_at", "status", "counts", "resources", "data"] with
  | [schema, tool, startedAt, finishedAt, status, counts, resources, data] =>
      some
        { schema := ← Json.needed? Json.string? schema
          tool := ← Json.needed? Tool.ofJson? tool
          startedAt := ← Json.needed? Json.timestamp? startedAt
          finishedAt := ← Json.needed? Json.timestamp? finishedAt
          status := ← Json.needed? (Json.oneOf? RunStatus.word RunStatus.all) status
          counts := ← Json.needed? Counts.ofJson? counts
          resources := ← Json.needed? (Json.list? ResourceReport.ofJson?) resources
          data := ← Json.needed? RunData.ofJson? data }
  | _ => none

/-- The schema that a JSON value names. -/
def Json.schemaName (value : Json) : String :=
  ((value.get? "schema").bind Json.string?).getD ""

/-- The report that a text holds.  Of a key that is repeated the last value counts, and the schema
is looked at before all else. -/
def Report.read (text : String) : Except Failure Report :=
  match Json.read text.toList with
  | .error fault => .error ⟨[.parseReport], .json fault⟩
  | .ok written =>
      let value := written.merged
      if value.schemaName = reportSchema then
        match Report.ofJson? value with
        | some report => .ok report
        | none => .error ⟨[.shapeReport], .json .shape⟩
      else
        .error (.of (.unknownSchema value.schemaName))

end PolicyAudit
