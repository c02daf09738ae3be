/-
Module: PolicyAudit.Proofs.ReportText
Purpose: Reports survive being written and read.
Imports: PolicyAudit.Proofs.JsonRecord, PolicyAudit.Proofs.JsonText,
  PolicyAudit.Proofs.TimestampText, PolicyAudit.Report.Format
Trusted boundary: none
Main exports: Report.toJson_fits, Report.toJson_unrepeated, Report.ofJson?_toJson,
  Report.schema_of_ofJson?, Report.read_write
-/
import PolicyAudit.Proofs.JsonRecord
import PolicyAudit.Proofs.JsonText
import PolicyAudit.Proofs.TimestampText
import PolicyAudit.Report.Format

namespace PolicyAudit

/-! ### Words -/

theorem Severity.ofJson?_word (s : Severity) :
    Json.oneOf? Severity.word Severity.all (.string s.word) = some s :=
  Json.oneOf?_string (by cases s <;> decide) (by cases s <;> decide)

theorem Category.ofJson?_word (c : Category) :
    Json.oneOf? Category.word Category.all (.string c.word) = some c :=
  Json.oneOf?_string (by cases c <;> decide) (by cases c <;> decide)

theorem Verdict.ofJson?_word (v : Verdict) :
    Json.oneOf? Verdict.word Verdict.all (.string v.word) = some v :=
  Json.oneOf?_string (by cases v <;> decide) (by cases v <;> decide)

theorem RunStatus.ofJson?_word (s : RunStatus) :
    Json.oneOf? RunStatus.word RunStatus.all (.string s.word) = some s :=
  Json.oneOf?_string (by cases s <;> decide) (by cases s <;> decide)

theorem Json.needed?_ofWord32 (n : UInt32) :
    Json.needed? Json.word32? (some (.ofWord32 n)) = some n :=
  Json.needed?_some (Json.word32?_int n)

theorem Json.ofWord32_fits (room : Nat) (n : UInt32) : (Json.ofWord32 n).Fits room := by
  have bound := n.toNat_lt
  exact .integer room (by omega) (by omega)

/-! ### Parts of a report -/

namespace Outcome

theorem toJson_fits (room : Nat) (o : Outcome) : o.toJson.Fits (room + 1) := by
  apply Json.Fits.object
  cases o.reason <;> simp [Json.Fits.string]

theorem toJson_unrepeated (o : Outcome) : o.toJson.Unrepeated := by
  apply Json.Unrepeated.object
  · cases o.reason <;> simp
  · cases o.reason <;> simp [Json.Unrepeated.string]

/-- A reason that is left out comes back as none. -/
theorem reason_toJson (o : Outcome) :
    Json.optional? Json.string? (o.toJson.get? "reason") = some o.reason := by
  cases reason : o.reason with
  | none => simp [toJson, reason, Json.get?, Json.optional?]
  | some text => simp [toJson, reason, Json.get?, Json.optional?, Json.string?]

theorem ofJson?_toJson (o : Outcome) : ofJson? o.toJson = some o := by
  have parts : o.toJson.parts?
      ["policy_id", "policy_name", "severity", "category", "verdict", "reason"] =
        some [some (.string o.policyId), some (.string o.policyName),
          some (.string o.severity.word), some (.string o.category.word),
          some (.string o.verdict.word), o.toJson.get? "reason"] := by
    rw [toJson, Json.parts?_object (by cases o.reason <;> simp)]
    simp [Json.get?]
  rw [ofJson?, parts]
  simp [Json.needed?, Json.string?, Severity.ofJson?_word, Category.ofJson?_word,
    Verdict.ofJson?_word, o.reason_toJson]

end Outcome

namespace ResourceReport

theorem toJson_fits (room : Nat) (r : ResourceReport) : r.toJson.Fits (room + 3) := by
  have outcomes : (Json.array (r.outcomes.map Outcome.toJson)).Fits (room + 2) := by
    apply Json.Fits.array
    simpa using fun o _ => o.toJson_fits room
  apply Json.Fits.object
  simp [Json.Fits.string, outcomes]

theorem toJson_unrepeated (r : ResourceReport) : r.toJson.Unrepeated := by
  have outcomes : (Json.array (r.outcomes.map Outcome.toJson)).Unrepeated := by
    apply Json.Unrepeated.array
    simpa using fun o _ => o.toJson_unrepeated
  apply Json.Unrepeated.object
  · simp
  · simp [Json.Unrepeated.string, outcomes]

theorem ofJson?_toJson (r : ResourceReport) : ofJson? r.toJson = some r := by
  have outcomes := Json.list?_map fun o (_ : o ∈ r.outcomes) => o.ofJson?_toJson
  rw [ofJson?, toJson, Json.parts?_object (by simp)]
  simp [Json.get?, Json.needed?, Json.string?, outcomes]

end ResourceReport

namespace Counts

theorem toJson_fits (room : Nat) (c : Counts) : c.toJson.Fits (room + 1) := by
  apply Json.Fits.object
  simp [Json.ofWord32_fits]

theorem toJson_unrepeated (c : Counts) : c.toJson.Unrepeated := by
  apply Json.Unrepeated.object
  · simp
  · simp [Json.ofWord32, Json.Unrepeated.number]

-- The parts are variables here: with the numbers in their places, checking the steps would
-- count up to the limit of a word.
private theorem ofJson?_of_parts {value : Json} {p f s : Option Json} {c : Counts}
    (parts : value.parts? ["passed", "failed", "skipped"] = some [p, f, s])
    (passed : Json.needed? Json.word32? p = some c.passed)
    (failed : Json.needed? Json.word32? f = some c.failed)
    (skipped : Json.needed? Json.word32? s = some c.skipped) : ofJson? value = some c := by
  simp [ofJson?, parts, passed, failed, skipped]

theorem ofJson?_toJson (c : Counts) : ofJson? c.toJson = some c := by
  have parts : c.toJson.parts? ["passed", "failed", "skipped"] =
      some [some (.ofWord32 c.passed), some (.ofWord32 c.failed), some (.ofWord32 c.skipped)] := by
    rw [toJson, Json.parts?_object (by simp)]
    simp [Json.get?]
  exact ofJson?_of_parts parts (Json.needed?_ofWord32 c.passed) (Json.needed?_ofWord32 c.failed)
    (Json.needed?_ofWord32 c.skipped)

end Counts

namespace Tool

theorem toJson_fits (room : Nat) (t : Tool) : t.toJson.Fits (room + 1) := by
  apply Json.Fits.object
  simp [Json.Fits.string]

theorem toJson_unrepeated (t : Tool) : t.toJson.Unrepeated := by
  apply Json.Unrepeated.object
  · simp
  · simp [Json.Unrepeated.string]

theorem ofJson?_toJson (t : Tool) : ofJson? t.toJson = some t := by
  rw [ofJson?, toJson, Json.parts?_object (by simp)]
  simp [Json.get?, Json.needed?, Json.string?]

end Tool

namespace RunData

theorem toJson_fits (room : Nat) (d : RunData) : d.toJson.Fits (room + 2) := by
  have reasons : (Json.array (d.reasons.map Json.string)).Fits (room + 1) := by
    apply Json.Fits.array
    simp [Json.Fits.string]
  apply Json.Fits.object
  split <;> simp [Json.Fits.string, Json.ofWord32_fits, reasons]

theorem toJson_unrepeated (d : RunData) : d.toJson.Unrepeated := by
  have reasons : (Json.array (d.reasons.map Json.string)).Unrepeated := by
    apply Json.Unrepeated.array
    simp [Json.Unrepeated.string]
  apply Json.Unrepeated.object
  · split <;> simp
  · split <;> simp [Json.Unrepeated.string, Json.ofWord32, Json.Unrepeated.number, reasons]

/-- Reasons that are left out come back as none. -/
theorem reasons_toJson (d : RunData) :
    Json.orDefault? [] (Json.list? Json.string?) (d.toJson.get? "reasons") = some d.reasons := by
  have strings : Json.list? Json.string? (.array (d.reasons.map Json.string)) = some d.reasons :=
    Json.list?_map fun _ _ => rfl
  unfold toJson
  split
  · rename_i none
    simp [Json.get?, Json.orDefault?, none]
  · simp [Json.get?, Json.orDefault?, strings]

private theorem ofJson?_of_parts {value : Json} {p f s a r : Option Json} {d : RunData}
    (parts : value.parts?
      ["profile", "fail_on", "resources_scanned", "policies_active", "reasons"] =
        some [p, f, s, a, r])
    (profile : Json.needed? Json.string? p = some d.profile)
    (failOn : Json.needed? (Json.oneOf? Severity.word Severity.all) f = some d.failOn)
    (scanned : Json.needed? Json.word32? s = some d.resourcesScanned)
    (active : Json.needed? Json.word32? a = some d.policiesActive)
    (reasons : Json.orDefault? [] (Json.list? Json.string?) r = some d.reasons) :
    ofJson? value = some d := by
  simp [ofJson?, parts, profile, failOn, scanned, active, reasons]

theorem ofJson?_toJson (d : RunData) : ofJson? d.toJson = some d := by
  have parts : d.toJson.parts?
      ["profile", "fail_on", "resources_scanned", "policies_active", "reasons"] =
        some [some (.string d.profile), some (.string d.failOn.word),
          some (.ofWord32 d.resourcesScanned), some (.ofWord32 d.policiesActive),
          d.toJson.get? "reasons"] := by
    rw [toJson, Json.parts?_object (by split <;> simp)]
    simp [Json.get?]
  exact ofJson?_of_parts parts (Json.needed?_some rfl) (Json.needed?_some d.failOn.ofJson?_word)
    (Json.needed?_ofWord32 d.resourcesScanned) (Json.needed?_ofWord32 d.policiesActive)
    d.reasons_toJson

end RunData

/-! ### Whole reports -/

namespace Report

/-- A report is far from the nesting limit. -/
theorem toJson_fits (r : Report) : r.toJson.Fits Json.nestingLimit := by
  have resources : (Json.array (r.resources.map ResourceReport.toJson)).Fits 126 := by
    apply Json.Fits.array
    simpa using fun resource _ => resource.toJson_fits 122
  apply Json.Fits.object
  simp [Json.Fits.string, r.tool.toJson_fits 125, r.counts.toJson_fits 125,
    r.data.toJson_fits 124, resources]

theorem toJson_unrepeated (r : Report) : r.toJson.Unrepeated := by
  have resources : (Json.array (r.resources.map ResourceReport.toJson)).Unrepeated := by
    apply Json.Unrepeated.array
    simpa using fun resource _ => resource.toJson_unrepeated
  apply Json.Unrepeated.object
  · simp
  · simp [Json.Unrepeated.string, r.tool.toJson_unrepeated, r.counts.toJson_unrepeated,
      r.data.toJson_unrepeated, resources]

theorem timestamp?_write (t : Timestamp) : Json.timestamp? (.string t.write) = some t := by
  rw [Json.timestamp?, Json.string?, Option.bind_some, t.read?_write]

private theorem ofJson?_of_parts {value : Json} {s t sa fa st c rs d : Option Json} {r : Report}
    (parts : value.parts? ["schema", "tool", "started_at", "finished_at", "status", "counts",
      "resources", "data"] = some [s, t, sa, fa, st, c, rs, d])
    (schema : Json.needed? Json.string? s = some r.schema)
    (tool : Json.needed? Tool.ofJson? t = some r.tool)
    (startedAt : Json.needed? Json.timestamp? sa = some r.startedAt)
    (finishedAt : Json.needed? Json.timestamp? fa = some r.finishedAt)
    (status : Json.needed? (Json.oneOf? RunStatus.word RunStatus.all) st = some r.status)
    (counts : Json.needed? Counts.ofJson? c = some r.counts)
    (resources : Json.needed? (Json.list? ResourceReport.ofJson?) rs = some r.resources)
    (data : Json.needed? RunData.ofJson? d = some r.data) : ofJson? value = some r := by
  simp [ofJson?, parts, schema, tool, startedAt, finishedAt, status, counts, resources, data]

theorem ofJson?_toJson (r : Report) : ofJson? r.toJson = some r := by
  have parts : r.toJson.parts? ["schema", "tool", "started_at", "finished_at", "status", "counts",
      "resources", "data"] =
        some [some (.string r.schema), some r.tool.toJson, some (.string r.startedAt.write),
          some (.string r.finishedAt.write), some (.string r.status.word), some r.counts.toJson,
          some (.array (r.resources.map ResourceReport.toJson)), some r.data.toJson] := by
    rw [toJson, Json.parts?_object (by simp)]
    simp [Json.get?]
  have resources : Json.list? ResourceReport.ofJson?
      (.array (r.resources.map ResourceReport.toJson)) = some r.resources :=
    Json.list?_map fun resource _ => resource.ofJson?_toJson
  exact ofJson?_of_parts parts (Json.needed?_some rfl) (Json.needed?_some r.tool.ofJson?_toJson)
    (Json.needed?_some (timestamp?_write r.startedAt))
    (Json.needed?_some (timestamp?_write r.finishedAt))
    (Json.needed?_some r.status.ofJson?_word) (Json.needed?_some r.counts.ofJson?_toJson)
    (Json.needed?_some resources) (Json.needed?_some r.data.ofJson?_toJson)

/-- The schema of a report that is read is the one its first part names. -/
private theorem schema_of_parts {value : Json} {s t sa fa st c rs d : Option Json} {r : Report}
    (parts : value.parts? ["schema", "tool", "started_at", "finished_at", "status", "counts",
      "resources", "data"] = some [s, t, sa, fa, st, c, rs, d])
    (read : ofJson? value = some r) : Json.needed? Json.string? s = some r.schema := by
  simp only [ofJson?, parts, Option.bind_eq_bind, Option.bind_some,
    Option.bind_eq_some_iff] at read
  obtain ⟨schema, named, _, _, _, _, _, _, _, _, _, _, _, _, _, _, whole⟩ := read
  cases whole
  exact named

/-- A report that is read has the schema that its value names. -/
theorem schema_of_ofJson? {value : Json} {r : Report} (read : ofJson? value = some r)
    (named : value.schemaName = reportSchema) : r.schema = reportSchema := by
  obtain ⟨entries, rfl⟩ : ∃ entries, value = .object entries := by
    cases value with
    | object entries => exact ⟨entries, rfl⟩
    | _ => simp [Json.schemaName, Json.get?, reportSchema] at named
  cases parts : (Json.object entries).parts? ["schema", "tool", "started_at", "finished_at",
      "status", "counts", "resources", "data"] with
  | none => simp [ofJson?, parts] at read
  | some found =>
      have names := parts
      rw [Json.parts?] at names
      split at names
      · cases names
        have schema := schema_of_parts parts read
        rw [Json.needed?] at schema
        rw [Json.schemaName, schema] at named
        exact named
      · cases names

/-- A report with the schema is read from its own text. -/
theorem read_write (r : Report) (schema : r.schema = reportSchema) :
    Report.read r.write = .ok r := by
  have named : r.toJson.schemaName = reportSchema := by
    simp [Json.schemaName, toJson, Json.get?, Json.string?, schema]
  rw [Report.read, write, Json.read_pretty r.toJson_fits]
  simp only [Json.merged_of_unrepeated r.toJson_unrepeated, named, if_true, r.ofJson?_toJson]

/-- Only reports with the schema are read. -/
theorem schema_of_read {text : String} {r : Report} (read : Report.read text = .ok r) :
    r.schema = reportSchema := by
  unfold Report.read at read
  split at read
  · cases read
  · dsimp only at read
    split at read
    · rename_i named
      split at read
      · rename_i found
        cases read
        exact schema_of_ofJson? found named
      · cases read
    · cases read

/-- Writing and reading give back every report with the schema, and so every report that was
read. -/
theorem read_write_round_trip :
    (∀ r : Report, r.schema = reportSchema → Report.read r.write = .ok r) ∧
      ∀ (text : String) (r : Report), Report.read text = .ok r →
        r.schema = reportSchema ∧ Report.read r.write = .ok r := by
  constructor
  · exact read_write
  · intro text r read
    have schema := schema_of_read read
    exact ⟨schema, read_write r schema⟩

/-- A report with quotes, backslashes, controls and a character beyond U+FFFF in its strings, with
and without reasons. -/
def ofDelicateStrings : Report where
  schema := reportSchema
  tool := thisTool
  startedAt := .epoch
  finishedAt := ⟨9999, 12, 31, 23, 59, 59, 999999990, -1439, by decide⟩
  status := .warn
  counts := ⟨0, 1, 4294967295⟩
  resources :=
    [ ⟨"type", "a\"b\\c\n\x01\x7f", []⟩,
      ⟨"😀\u2028", "",
        [ ⟨"T_1", "name", .high, .generalSecurity, .failed, some "\t\x08\x0c\r/"⟩,
          ⟨"T_2", "", .low, .iam, .skipped, none⟩ ]⟩ ]
  data := ⟨"strict", .critical, 2, 2, []⟩

theorem read_write_round_trip_ofDelicateStrings :
    ofDelicateStrings.schema = reportSchema ∧
      Report.read ofDelicateStrings.write = .ok ofDelicateStrings := by
  have readBack := read_write_round_trip.1 ofDelicateStrings rfl
  exact read_write_round_trip.2 ofDelicateStrings.write ofDelicateStrings readBack

end Report

end PolicyAudit
