/-
Module: PolicyAudit.Proofs.ListedPolicies
Purpose: The list of active policies shows the policies that an audit reports on.
Imports: Mathlib, PolicyAudit.Proofs.ConfiguredRuns, PolicyAudit.Run.Audit
Trusted boundary: none
Main exports: Policy.mem_targetList, PolicySummary.rowsFor, Report.Agrees,
  RunSettings.activePolicies_eq_ok, audit_agrees_with_list
-/
import Mathlib
import PolicyAudit.Proofs.ConfiguredRuns
import PolicyAudit.Run.Audit

namespace PolicyAudit

/-! ### Rows -/

/-- The listed targets of a policy are its targets. -/
theorem Policy.mem_targetList {p : Policy} {resourceType : String} :
    resourceType ∈ p.targetList ↔ resourceType ∈ p.targets := by
  rw [Policy.targetList, Table.mem_keys_ofList]
  simp

/-- What a row of the list and an outcome both show of a policy. -/
structure Heading where
  id : String
  name : String
  severity : Severity
  category : Category
deriving Repr, DecidableEq

def PolicySummary.heading (row : PolicySummary) : Heading :=
  ⟨row.id, row.name, row.severity, row.category⟩

def Outcome.heading (o : Outcome) : Heading :=
  ⟨o.policyId, o.policyName, o.severity, o.category⟩

/-- The rows of a list on which a run reports for a type of resources: those with the type among
their targets, or all of them if skipped policies are reported. -/
def PolicySummary.rowsFor (settings : RunSettings) (resourceType : String)
    (rows : List PolicySummary) : List PolicySummary :=
  if settings.reportSkipped then rows else rows.filter fun row => resourceType ∈ row.targets

namespace PolicySet

variable (set : PolicySet) (settings : RunSettings)

theorem summary_concerned (resource : Resource) :
    (set.concerned settings resource).map (·.summary) =
      PolicySummary.rowsFor settings resource.resourceType (set.policies.map (·.summary)) := by
  unfold concerned PolicySummary.rowsFor
  split
  · rfl
  · rw [List.filter_map]
    congr 1
    refine List.filter_congr fun p _ => ?_
    rw [Bool.eq_iff_iff, Policy.appliesTo, List.contains_iff_mem, Function.comp_apply,
      decide_eq_true_eq, Policy.summary, Policy.mem_targetList]

/-- The outcomes of a resource are headed by the rows for its type, in their order. -/
theorem heading_report (resource : Resource) :
    (set.report settings resource).outcomes.map (·.heading) =
      (PolicySummary.rowsFor settings resource.resourceType
        (set.policies.map (·.summary))).map (·.heading) := by
  rw [report_outcomes, ← summary_concerned, List.map_map, List.map_map]
  rfl

end PolicySet

/-! ### Both ways from the settings -/

theorem RunSettings.activePolicies_eq_ok (settings : RunSettings) :
    settings.activePolicies = .ok (PolicySet.ofCatalog.configured settings) := by
  rw [RunSettings.activePolicies, catalogUnder_eq_ok]

/-- There are no more active policies than policies in the catalog, so they can be counted. -/
theorem length_configured_ofCatalog_lt (settings : RunSettings) :
    (PolicySet.ofCatalog.configured settings).length < 2 ^ 32 := by
  have atMost : (PolicySet.ofCatalog.configured settings).length ≤ catalog.length := by
    rw [PolicySet.length, PolicySet.configured, List.length_map]
    exact List.length_filter_le _ _
  exact Nat.lt_of_le_of_lt atMost (by decide)

section

variable {text document : String} {overrides : Overrides}

theorem listPolicies_of_settings {settings : RunSettings}
    (resolved : RunSettings.ofText text overrides = .ok settings) :
    listPolicies text overrides =
      .ok ((PolicySet.ofCatalog.configured settings).policies.map (·.summary)) := by
  rw [listPolicies, activePolicies, resolved]
  simp only [bind, Except.bind, settings.activePolicies_eq_ok]

theorem listPolicies_of_failure {failure : Failure}
    (refused : RunSettings.ofText text overrides = .error failure) :
    listPolicies text overrides = .error failure := by
  rw [listPolicies, activePolicies, refused]
  rfl

theorem audit_of_settings {settings : RunSettings} {resources : List Resource}
    (resolved : RunSettings.ofText text overrides = .ok settings)
    (readable : Resource.readList document = .ok resources) :
    audit ⟨document, text, overrides⟩ =
      .ok
        { settings := settings
          policies := PolicySet.ofCatalog.configured settings
          resources := resources
          notes := if Text.isBlankText text then [settingsMissing] else [] } := by
  rw [audit, resolved, readable]
  simp only [bind, Except.bind, settings.activePolicies_eq_ok]

theorem audit_of_failure {failure : Failure}
    (refused : RunSettings.ofText text overrides = .error failure) :
    audit ⟨document, text, overrides⟩ = .error failure := by
  rw [audit, refused]
  rfl

end

/-! ### Agreement -/

/-- The report of a run under the settings shows the policies that are listed: it counts the rows,
it reports on the resources in their order, and it heads the outcomes of each by the rows for its
type. -/
structure Report.Agrees (settings : RunSettings) (resources : List Resource)
    (rows : List PolicySummary) (report : Report) : Prop where
  policiesActive : report.data.policiesActive.toNat = rows.length
  resourceTypes : report.resources.map (·.resourceType) = resources.map (·.resourceType)
  headings : ∀ r ∈ report.resources,
    r.outcomes.map (·.heading) =
      (PolicySummary.rowsFor settings r.resourceType rows).map (·.heading)

/-- Listing the policies and auditing readable resources either fail alike, or come under the
same settings to a list and a report that agree. -/
theorem audit_agrees_with_list (text document : String) (overrides : Overrides)
    (resources : List Resource) (readable : Resource.readList document = .ok resources) :
    (∃ failure, listPolicies text overrides = .error failure ∧
      audit ⟨document, text, overrides⟩ = .error failure) ∨
      ∃ rows a, listPolicies text overrides = .ok rows ∧
        audit ⟨document, text, overrides⟩ = .ok a ∧
        RunSettings.ofText text overrides = .ok a.settings ∧
        ∀ startedAt finishedAt,
          (a.report startedAt finishedAt).Agrees a.settings resources rows := by
  cases resolved : RunSettings.ofText text overrides with
  | error failure =>
      exact .inl ⟨failure, listPolicies_of_failure resolved, audit_of_failure resolved⟩
  | ok settings =>
      refine .inr ⟨_, _, listPolicies_of_settings resolved, audit_of_settings resolved readable,
        rfl, fun startedAt finishedAt => ?_⟩
      constructor
      case policiesActive =>
        rw [List.length_map]
        exact UInt32.toNat_ofNat_of_lt' (length_configured_ofCatalog_lt settings)
      case resourceTypes =>
        exact List.map_map
      case headings =>
        intro r reported
        obtain ⟨resource, _, rfl⟩ := List.mem_map.mp reported
        exact PolicySet.heading_report _ settings resource

/-- The advisory profile with a threshold of its own, and one key vault without values. -/
theorem audit_agrees_with_list_ofVault :
    let overrides : Overrides := ⟨some "advisory", some "critical"⟩
    let document := "[[\"azurerm_key_vault\", \"main\"]]"
    let resources : List Resource := [⟨"azurerm_key_vault", "main", .scalar .null⟩]
    Resource.readList document = .ok resources ∧
      RunSettings.ofText "" overrides = .ok ⟨"advisory", .critical, false, .empty⟩ ∧
      ∃ rows a, listPolicies "" overrides = .ok rows ∧
        audit ⟨document, "", overrides⟩ = .ok a ∧
        (a.report .epoch .epoch).Agrees ⟨"advisory", .critical, false, .empty⟩ resources rows := by
  intro overrides document resources
  have readable : Resource.readList document = .ok resources := by
    cbv
  have resolved : RunSettings.ofText "" overrides =
      .ok ⟨"advisory", .critical, false, .empty⟩ := by
    cbv
  refine ⟨readable, resolved, ?_⟩
  rcases audit_agrees_with_list "" document overrides resources readable with
    ⟨failure, refused, _⟩ | ⟨rows, a, listed, audited, sameSettings, agrees⟩
  · rw [listPolicies_of_settings resolved] at refused
    contradiction
  · have same : a.settings = ⟨"advisory", .critical, false, .empty⟩ :=
      Except.ok.inj (sameSettings.symm.trans resolved)
    refine ⟨rows, a, listed, audited, ?_⟩
    rw [← same]
    exact agrees .epoch .epoch

end PolicyAudit
