/-
Module: PolicyAudit.Proofs.ConfiguredRuns
Purpose: What settings change in the reports of a run: they remove rows and override severities.
Imports: PolicyAudit.Policy.Catalog, PolicyAudit.Proofs.RunCoverage
Trusted boundary: none
Main exports: PolicySet.configured, Registry.build_configure, PolicySet.ofCatalog,
  catalogUnder_eq_ok, exists_entry_of_mem_configured, Outcome.underSettings,
  ResourceReport.underSettings, PolicySet.report_configured, Registry.audit_configure
-/
import PolicyAudit.Policy.Catalog
import PolicyAudit.Proofs.RunCoverage

namespace PolicyAudit

/-! ### Policy sets under settings -/

section

variable (settings : RunSettings)

/-- The parts that keep a policy out of a set are no matter of settings. -/
theorem Policy.IsSound.underSettings {p : Policy} (sound : p.IsSound) :
    (p.underSettings settings).IsSound :=
  ⟨sound.wellFormed, sound.named, sound.aimed⟩

/-- The set without its disabled policies, the others with the severities that settings give
them.  Dropping policies and changing severities makes no policy defective. -/
def PolicySet.configured (set : PolicySet) : PolicySet where
  policies := (set.policies.filter fun p => settings.isEnabled p.id).map (·.underSettings settings)
  sound := by
    obtain ⟨sound, distinct⟩ := firstDefect?_eq_none_iff.mp set.sound
    refine firstDefect?_eq_none_iff.mpr ⟨?_, ?_⟩
    · intro p member
      obtain ⟨registered, kept, rfl⟩ := List.mem_map.mp member
      have before := (sound registered (List.mem_of_mem_filter kept)).1
      exact ⟨before.underSettings settings, List.not_mem_nil⟩
    · rw [List.map_map]
      exact distinct.sublist (List.filter_sublist.map _)

/-- Policies that can be built can still be built after they have been configured. -/
theorem Registry.build_configure {r : Registry} {set : PolicySet} (built : r.build = .ok set) :
    (r.configure settings).build = .ok (set.configured settings) := by
  rw [Registry.build_eq_ok_iff] at built ⊢
  rw [Registry.configure, built, PolicySet.configured]

end

/-- The policies of the catalog as a set. -/
def PolicySet.ofCatalog : PolicySet where
  policies := catalog
  sound := by decide +kernel

/-- The catalog can be built under all settings. -/
theorem catalogUnder_eq_ok (settings : RunSettings) :
    catalogUnder settings = .ok (PolicySet.ofCatalog.configured settings) :=
  Registry.build_configure settings (Registry.build_eq_ok_iff.mpr rfl)

/-- The active policies are those of enabled entries of the catalog, and their rules are
patterns. -/
theorem exists_entry_of_mem_configured {settings : RunSettings} {p : Policy}
    (active : p ∈ (PolicySet.ofCatalog.configured settings).policies) :
    ∃ entry ∈ catalogEntries, settings.isEnabled entry.id = true ∧
      p = entry.policy.underSettings settings := by
  obtain ⟨registered, kept, rfl⟩ := List.mem_map.mp active
  obtain ⟨listed, enabled⟩ := List.mem_filter.mp kept
  obtain ⟨entry, member, rfl⟩ := List.mem_map.mp listed
  exact ⟨entry, member, enabled, rfl⟩

/-! ### Reports under settings -/

section

variable (settings : RunSettings)

/-- The outcome with the severity that settings give its policy, and all else as it is. -/
def Outcome.underSettings (o : Outcome) : Outcome :=
  { o with severity := (settings.severityOverride? o.policyId).getD o.severity }

/-- The report without the outcomes of disabled policies, and the others in their order under the
settings. -/
def ResourceReport.underSettings (report : ResourceReport) : ResourceReport :=
  { report with
    outcomes :=
      (report.outcomes.filter fun o => settings.isEnabled o.policyId).map
        (·.underSettings settings) }

/-- Settings do not change what a policy answers, only how its outcome is labelled. -/
theorem Policy.outcome_underSettings (p : Policy) (resource : Resource) :
    (p.underSettings settings).outcome ((p.underSettings settings).answer resource) =
      (p.outcome (p.answer resource)).underSettings settings :=
  rfl

namespace PolicySet

variable (set : PolicySet) (resource : Resource)

/-- The policies concerned after configuring are those concerned before that are enabled. -/
theorem concerned_configured :
    (set.configured settings).concerned settings resource =
      ((set.concerned settings resource).filter fun p => settings.isEnabled p.id).map
        (·.underSettings settings) := by
  unfold concerned
  split
  · rfl
  · -- targets do not change, so both filters can be applied in either order
    have targets : (fun p : Policy => p.appliesTo resource.resourceType) ∘
        Policy.underSettings settings = fun p => p.appliesTo resource.resourceType := rfl
    rw [configured, List.filter_map, targets, List.filter_filter, List.filter_filter]
    congr 1
    refine List.filter_congr fun p _ => ?_
    rw [Bool.and_comm]

/-- Configuring the set before a run does to a report what can be done to it afterwards. -/
theorem report_configured :
    (set.configured settings).report settings resource =
      (set.report settings resource).underSettings settings := by
  have outcomes : ((set.configured settings).report settings resource).outcomes =
      ((set.report settings resource).underSettings settings).outcomes := by
    rw [ResourceReport.underSettings, report_outcomes, report_outcomes, concerned_configured,
      List.filter_map, List.map_map, List.map_map]
    exact List.map_congr_left fun p _ => p.outcome_underSettings settings resource
  rw [ResourceReport.mk.injEq]
  exact ⟨rfl, rfl, outcomes⟩

theorem resources_audit_configured (resources : List Resource) :
    ((set.configured settings).audit settings resources).resources =
      (set.audit settings resources).resources.map (·.underSettings settings) := by
  rw [audit, audit, List.map_map]
  exact List.map_congr_left fun resource _ => set.report_configured settings resource

end PolicySet

end

/-- Settings only remove rows and relabel severities.  Policies that can be built can be built
after configuring, and the reports of a run are then those of the run without configuring, less
the outcomes of disabled policies and with overridden severities.  The catalog can be built under
all settings. -/
theorem Registry.audit_configure :
    (∀ (r : Registry) (set : PolicySet) (settings : RunSettings) (resources : List Resource),
      r.build = .ok set →
        ∃ configured, (r.configure settings).build = .ok configured ∧
          (configured.audit settings resources).resources =
            (set.audit settings resources).resources.map (·.underSettings settings)) ∧
      ∀ settings, ∃ set, catalogUnder settings = .ok set := by
  constructor
  · intro r set settings resources built
    exact ⟨set.configured settings, build_configure settings built,
      set.resources_audit_configured settings resources⟩
  · intro settings
    exact ⟨PolicySet.ofCatalog.configured settings, catalogUnder_eq_ok settings⟩

/-- Settings that disable one of two policies and override the severity of the other.  They also
disable a policy that is not there. -/
def RunSettings.ofChanges : RunSettings :=
  ((RunSettings.default.disable "T_1").overrideSeverity "T_2" .low).disable "T_3"

theorem Registry.audit_configure_ofChanges :
    (Registry.mk PolicySet.ofTargets.policies).build = .ok PolicySet.ofTargets ∧
      ∃ configured,
        ((Registry.mk PolicySet.ofTargets.policies).configure .ofChanges).build = .ok configured ∧
          (configured.audit .ofChanges [⟨"vault", "b", .scalar .null⟩]).resources =
            [⟨"vault", "b", [(⟨"T_2", "breaks off", .low, .iam, .failed,
              some "policy evaluation fault: unknown panic payload"⟩ : Outcome)]⟩] := by
  have built : (Registry.mk PolicySet.ofTargets.policies).build = .ok PolicySet.ofTargets :=
    build_eq_ok_iff.mpr rfl
  obtain ⟨configured, builds, reports⟩ :=
    audit_configure.1 _ _ .ofChanges [⟨"vault", "b", .scalar .null⟩] built
  exact ⟨built, configured, builds, reports.trans (by decide +kernel)⟩

end PolicyAudit
